import Dnvme.Driver.PrpReading
import Dnvme.Driver.PagesHeld

/-!
# Ownership of pinned pages

The ledger of owners and live pages is sound after every run.  It is complete
as long as no create command with a data buffer is submitted for a contiguous
queue or for queue 0: the release of a contiguous queue skips its `prps`, and
a completed queue command drops its node without releasing what the node
holds.
-/

namespace Dnvme.Driver.PrpsOwnership

open Dnvme.Lib.Results
open Dnvme.Lib.Ownership
open Dnvme.Driver.PagesHeld

variable {ndev next : NvmeDevice}

/-! ## Runs without leaks -/

/--
The condition under which nothing leaks: a create command that carries a data
buffer is for a discontiguous queue other than queue 0.
-/
def CreatesDiscontig : SubmitRule := fun ndev env cmd =>
  ∀ ccmd, env.ccmd = some ccmd → cmd.dataBufPtr ≠ 0 → ∀ id,
    (CreatesSq cmd ccmd id →
      id ≠ 0 ∧ ∀ sq, ndev.findSq id = some sq → sq.contig = false) ∧
    (CreatesCq cmd ccmd id →
      id ≠ 0 ∧ ∀ cq, ndev.findCq id = some cq → cq.contig = false)

theorem noLeak_submit (held : Held ndev) (noLeak : NoLeak ndev)
    {env : SubmitEnv} {cmd : Nvme64bCmd} {sq : NvmeSq}
    {ccmd filled : NvmeCommonCommand} {prps : Option NvmePrps}
    (accepted : Submitted env cmd ndev next sq ccmd filled prps)
    (meets : CreatesDiscontig ndev env cmd) : NoLeak next where
  complete := by
    cases prps with
    | none =>
        exact (held.submit_none accepted).retired.complete
          (fun _ _ leaves => leaves.elim) noLeak.complete
    | some pages =>
        exact (held.submit_some accepted).complete noLeak.complete
  sqDiscontig id later found holds := by
    have views := sqPrps_submitted accepted id
    rw [sqPrps_eq found] at views
    rw [accepted.findSq] at found
    rcases Option.map_eq_some_iff.mp found with ⟨before, here, equal⟩
    have contig : later.contig = before.contig := by
      subst equal
      have kept := (createdSq_later env cmd ccmd ndev.nextObject prps.isSome
        id before).contig
      split <;> exact kept
    rw [contig]
    by_cases attached : prps.isSome = true ∧
        prpsOwner cmd ccmd = .submissionQueue id
    · exact ((meets ccmd accepted.read
        (accepted.paged attached.1).1 id).1
        (prpsOwner_eq_submissionQueue_iff.mp attached.2).1).2 before here
    · rw [if_neg attached, sqPrps_eq here] at views
      exact noLeak.sqDiscontig id before here (views ▸ holds)
  cqDiscontig id later found holds := by
    have views := cqPrps_submitted accepted id
    rw [cqPrps_eq found] at views
    rw [accepted.findCq] at found
    rcases Option.map_eq_some_iff.mp found with ⟨before, here, equal⟩
    have contig : later.contig = before.contig := by
      subst equal
      exact (createdCq_later env cmd ccmd ndev.nextObject prps.isSome
        id before).contig
    rw [contig]
    by_cases attached : prps.isSome = true ∧
        prpsOwner cmd ccmd = .completionQueue id
    · exact ((meets ccmd accepted.read
        (accepted.paged attached.1).1 id).2
        (prpsOwner_eq_completionQueue_iff.mp attached.2).1).2 before here
    · rw [if_neg attached, cqPrps_eq here] at views
      exact noLeak.cqDiscontig id before here (views ▸ holds)
  queueCmds other member special := by
    rw [cmds_submitted accepted] at member
    split at member
    · rename_i admin
      rcases List.mem_append.mp member with old | new
      · exact noLeak.queueCmds other old special
      · rw [List.mem_singleton.mp new] at special ⊢
        unfold submittedNode at special ⊢
        dsimp only at special ⊢
        rw [if_neg]
        rintro ⟨paged, owner⟩
        rcases accepted.paged paged with ⟨buffer, notDelete⟩
        rcases notDelete admin.symm with ⟨notSq, notCq⟩
        have rule := meets ccmd accepted.read buffer ccmd.qid
        cases opcode : adminOpcode ccmd.opcode with
        | deleteSq => exact notSq opcode
        | deleteCq => exact notCq opcode
        | other => exact special opcode
        | createSq =>
            have creates : CreatesSq cmd ccmd ccmd.qid :=
              ⟨admin.symm, opcode, rfl⟩
            have held := prpsOwner_eq_submissionQueue_iff.mpr
              ⟨creates, (rule.1 creates).1⟩
            rw [owner] at held
            cases held
        | createCq =>
            have creates : CreatesCq cmd ccmd ccmd.qid :=
              ⟨admin.symm, opcode, rfl⟩
            have held := prpsOwner_eq_completionQueue_iff.mpr
              ⟨creates, (rule.2 creates).1⟩
            rw [owner] at held
            cases held
    · exact noLeak.queueCmds other member special

/-- What an owner holds stays with it or is released. -/
structure Settles (ndev next : NvmeDevice) : Prop where
  owns : ∀ owner id, Owns ndev owner id →
    Owns next owner id ∨ id ∈ next.released
  released : ∀ id ∈ ndev.released, id ∈ next.released

theorem Settles.refl (ndev : NvmeDevice) : Settles ndev ndev :=
  ⟨fun _ _ owns => Or.inl owns, fun _ listed => listed⟩

theorem Settles.trans {first second third : NvmeDevice}
    (one : Settles first second) (two : Settles second third) :
    Settles first third where
  owns owner id owns := by
    rcases one.owns owner id owns with still | gone
    · exact two.owns owner id still
    · exact Or.inr (two.released id gone)
  released id listed := two.released id (one.released id listed)

/-- The invariant of runs without leaks. -/
structure Accounted (ndev : NvmeDevice) : Prop where
  held : Held ndev
  noLeak : NoLeak ndev

theorem Accounted.effect (accounted : Accounted ndev)
    (effect : Effect CreatesDiscontig ndev next) :
    Accounted next ∧ Settles ndev next := by
  rcases accounted.held.effect_cases effect with
    ⟨gone, dropped, retires, all⟩ |
    ⟨env, cmd, sq, ccmd, filled, prps, accepted, meets⟩
  · have all := all accounted.noLeak
    refine ⟨⟨accounted.held.retire retires,
      accounted.noLeak.retire retires all⟩, ?_, ?_⟩
    · intro owner id owns
      by_cases leaves : gone owner
      · refine Or.inr ?_
        rw [show next.released = dropped.reverse ++ ndev.released from
          retires.ledger.released]
        exact List.mem_append_left _
          (List.mem_reverse.mpr (all owner id leaves owns))
      · exact Or.inl ((retires.ledger.owns owner id).mpr ⟨owns, leaves⟩)
    · intro id listed
      rw [show next.released = dropped.reverse ++ ndev.released from
        retires.ledger.released]
      exact List.mem_append_right _ listed
  · refine ⟨⟨accounted.held.submit accepted,
      noLeak_submit accounted.held accounted.noLeak accepted meets⟩, ?_, ?_⟩
    · intro owner id owns
      exact Or.inl ((accounted.held.owns_submitted accepted owner id).mpr
        (Or.inl owns))
    · intro id listed
      rw [accepted.released]
      exact listed

theorem Accounted.effects (effects : Effects CreatesDiscontig ndev next)
    (accounted : Accounted ndev) :
    Accounted next ∧ Settles ndev next := by
  induction effects with
  | refl => exact ⟨accounted, Settles.refl ndev⟩
  | tail _ effect ih =>
      rcases ih.1.effect effect with ⟨after, settles⟩
      exact ⟨after, ih.2.trans settles⟩

/-! ## Cleaning up the device -/

theorem clearSq_eq (ndev : NvmeDevice) (id : Nat) :
    clearSq false ndev id = .ok (dnvmeDeleteSq ndev id) := by
  unfold clearSq dnvmeDeleteSq
  cases ndev.findSq id with
  | none => rfl
  | some sq => rfl

/-- No release of a submission queue releases this set. -/
def SqsSkip (ndev : NvmeDevice) (id : Nat) : Prop :=
  ∀ sqid sq, ndev.findSq sqid = some sq → id ∉ droppedBySq sq

/-- No release of a completion queue releases this set. -/
def CqsSkip (ndev : NvmeDevice) (id : Nat) : Prop :=
  ∀ cqid cq, ndev.findCq cqid = some cq → id ∉ droppedByCq cq

theorem live_dnvmeDeleteSq {key id : Nat} (live : Live ndev id)
    (skip : SqsSkip ndev id) : Live (dnvmeDeleteSq ndev key) id := by
  unfold dnvmeDeleteSq
  cases found : ndev.findSq key with
  | none => exact live
  | some sq =>
      exact (live_dnvmeReleaseSq ndev sq id).mpr ⟨live, skip key sq found⟩

theorem dnvmeDeleteSq_bug (ndev : NvmeDevice) (key : Nat) :
    (dnvmeDeleteSq ndev key).bug = ndev.bug := by
  unfold dnvmeDeleteSq
  cases ndev.findSq key with
  | none => rfl
  | some sq => exact dnvmeReleaseSq_bug ndev sq

/-- The first loop of `dnvme_delete_all_queues` removes the submission
queues it visits. -/
theorem foldlM_clearSq (ids : List Nat) :
    ∀ {ndev : NvmeDevice}, Keyed ndev →
      ∃ cleared, ids.foldlM (clearSq false) ndev = .ok cleared ∧
        (∀ id, cleared.findSq id =
          if id ∈ ids then none else ndev.findSq id) ∧
        (∀ id, Live ndev id → SqsSkip ndev id → Live cleared id) ∧
        (∀ id, cleared.findCq id = ndev.findCq id) ∧
        cleared.bug = ndev.bug := by
  induction ids with
  | nil =>
      intro ndev keyed
      exact ⟨ndev, rfl, fun id => by simp, fun _ live _ => live,
        fun _ => rfl, rfl⟩
  | cons key ids ih =>
      intro ndev keyed
      have after : Keyed (dnvmeDeleteSq ndev key) :=
        keyed.effects (@dnvmeDeleteSq_effects CreatesDiscontig _ keyed key)
      rcases ih after with ⟨cleared, done, gone, skipped, cqs, runs⟩
      refine ⟨cleared, ?_, fun id => ?_, fun id live skip => ?_,
        fun id => ?_, runs.trans (dnvmeDeleteSq_bug ndev key)⟩
      · rw [List.foldlM_cons, clearSq_eq]
        exact done
      · rw [gone, findSq_dnvmeDeleteSq keyed]
        by_cases equal : id = key
        · simp [equal]
        · simp [equal]
      · refine skipped id (live_dnvmeDeleteSq live skip) ?_
        intro sqid sq found
        rw [findSq_dnvmeDeleteSq keyed] at found
        split at found
        · cases found
        · exact skip sqid sq found
      · rw [cqs]
        exact findCq_of_cqs_eq (dnvmeDeleteSq_cqs ndev key) id

/-- No contiguous completion queue is in the controller memory buffer. -/
def NoCmbCq (ndev : NvmeDevice) : Prop :=
  ∀ cqid cq, ndev.findCq cqid = some cq →
    (cq.contig && cq.useCmb) = false

/-- One turn of the second loop. -/
theorem clearCq_spec (keyed : Keyed ndev) (running : ndev.bug = false)
    (noCmb : NoCmbCq ndev) (key : Nat) :
    ∃ cleared, clearCq false ndev key = .ok cleared ∧ Keyed cleared ∧
      cleared.bug = false ∧
      (∀ id, cleared.findSq id = ndev.findSq id) ∧
      (∀ id, cleared.findCq id =
        if id = key then none else ndev.findCq id) ∧
      ∀ id, Live ndev id → CqsSkip ndev id → Live cleared id := by
  cases found : ndev.findCq key with
  | none =>
      refine ⟨ndev, ?_, keyed, running, fun _ => rfl, fun id => ?_,
        fun _ live _ => live⟩
      · rw [clearCq, found]
      · split
        · rename_i equal
          rw [equal, found]
        · rfl
  | some cq =>
      have same := keyed.cq key cq found
      have runs : (dnvmeReleaseCq ndev cq).bug = false := by
        rw [dnvmeReleaseCq_bug, running, noCmb key cq found]
        rfl
      have done : clearCq false ndev key = .ok (dnvmeReleaseCq ndev cq) := by
        rw [clearCq, found]
        simp [runs]
      have effects := @clearCq_effects CreatesDiscontig _ _ _ _ keyed done
      refine ⟨dnvmeReleaseCq ndev cq, done, keyed.effects effects, runs,
        fun id => findSq_of_sqs_eq (dnvmeReleaseCq_sqs ndev cq) id,
        fun id => ?_, fun id live skip => (live_dnvmeReleaseCq ndev cq
          id).mpr ⟨live, skip key cq found⟩⟩
      unfold NvmeDevice.findCq
      rw [dnvmeReleaseCq_cqs, same]
      split
      · rename_i equal
        rw [equal, AList.lookup_erase]
      · rename_i different
        exact AList.lookup_erase_ne different

/-- The second loop of `dnvme_delete_all_queues` removes the completion
queues it visits. -/
theorem foldlM_clearCq (ids : List Nat) :
    ∀ {ndev : NvmeDevice}, Keyed ndev → ndev.bug = false → NoCmbCq ndev →
      ∃ cleared, ids.foldlM (clearCq false) ndev = .ok cleared ∧
        (∀ id, cleared.findSq id = ndev.findSq id) ∧
        (∀ id, cleared.findCq id =
          if id ∈ ids then none else ndev.findCq id) ∧
        ∀ id, Live ndev id → CqsSkip ndev id → Live cleared id := by
  induction ids with
  | nil =>
      intro ndev _ _ _
      exact ⟨ndev, rfl, fun _ => rfl, fun id => by simp,
        fun _ live _ => live⟩
  | cons key ids ih =>
      intro ndev keyed running noCmb
      rcases clearCq_spec keyed running noCmb key with
        ⟨first, one, after, runs, sqs, cqs, skipFirst⟩
      have still : NoCmbCq first := by
        intro cqid cq found
        rw [cqs] at found
        split at found
        · cases found
        · exact noCmb cqid cq found
      rcases ih after runs still with
        ⟨cleared, done, sqsLeft, gone, skipRest⟩
      refine ⟨cleared, ?_, fun id => (sqsLeft id).trans (sqs id),
        fun id => ?_, fun id live skip => skipRest id
          (skipFirst id live skip) ?_⟩
      · rw [List.foldlM_cons, one]
        exact done
      · rw [gone, cqs]
        by_cases equal : id = key
        · simp [equal]
        · simp [equal]
      · intro cqid cq found
        rw [cqs] at found
        split at found
        · cases found
        · exact skip cqid cq found

/-- A turn of the second loop that returns freed no buffer in the controller
memory buffer. -/
theorem of_clearCq {key : Nat} {cq : NvmeCq}
    (found : ndev.findCq key = some cq)
    (done : clearCq false ndev key = .ok next) :
    next = dnvmeReleaseCq ndev cq ∧ (cq.contig && cq.useCmb) = false := by
  rw [clearCq, found] at done
  dsimp only at done
  rw [Bool.false_and, if_neg Bool.false_ne_true, dnvmeReleaseCq_bug] at done
  split at done
  · cases done
  · rename_i running
    cases done
    rw [Bool.not_eq_true, Bool.or_eq_false_iff] at running
    exact ⟨rfl, running.2⟩

theorem noCmb_of_foldlM_clearCq (ids : List Nat) :
    ∀ {ndev cleared : NvmeDevice}, Keyed ndev →
      ids.foldlM (clearCq false) ndev = .ok cleared →
      ∀ id ∈ ids, ∀ cq, ndev.findCq id = some cq →
        (cq.contig && cq.useCmb) = false := by
  induction ids with
  | nil =>
      intro ndev cleared _ _ id member
      cases member
  | cons key ids ih =>
      intro ndev cleared keyed done id member cq found
      rw [List.foldlM_cons] at done
      rcases ok_of_bind done with ⟨first, one, rest⟩
      by_cases equal : id = key
      · subst equal
        exact (of_clearCq found one).2
      · have after : Keyed first :=
          keyed.effects (@clearCq_effects CreatesDiscontig _ _ _ _ keyed one)
        refine ih after rest id ((List.mem_cons.mp member).resolve_left equal)
          cq ?_
        cases here : ndev.findCq key with
        | none =>
            rw [clearCq, here] at one
            cases one
            exact found
        | some gone =>
            rw [(of_clearCq here one).1, NvmeDevice.findCq,
              dnvmeReleaseCq_cqs, keyed.cq key gone here,
              AList.lookup_erase_ne equal]
            exact found

theorem lookup_eq_none_of_keys {α : Type} (map : XArray α) {id : Nat}
    (missing : id ∉ map.keys.mergeSort) : map.lookup id = none := by
  rw [AList.lookup_eq_none, AList.mem_keys]
  exact fun listed => missing (List.mem_mergeSort.mpr listed)

/-- A complete clean up ends, no queue is left, and what no queue releases
stays. -/
theorem dnvmeCleanupDevice_empties (keyed : Keyed ndev)
    (running : ndev.bug = false) (noCmb : NoCmbCq ndev) :
    ∃ cleaned, dnvmeCleanupDevice ndev false = .ok cleaned ∧
      (∀ id, cleaned.findSq id = none) ∧
      (∀ id, cleaned.findCq id = none) ∧
      ∀ id, Live ndev id → SqsSkip ndev id → CqsSkip ndev id →
        Live cleaned id := by
  have start : Keyed { ndev with
      irqSet := dnvmeCleanInterrupt ndev.irqSet } := ⟨keyed.sq, keyed.cq⟩
  rcases foldlM_clearSq ndev.sqs.keys.mergeSort start with
    ⟨noSqs, first, sqsGone, sqsSkipped, cqsLeft, runs⟩
  have still : NoCmbCq noSqs := fun cqid cq found =>
    noCmb cqid cq ((cqsLeft cqid).symm.trans found)
  have between : Keyed noSqs :=
    foldlM_keeps (fun keyed turn => keyed.effects
      (@clearSq_effects CreatesDiscontig _ _ _ _ keyed turn)) _ start first
  rcases foldlM_clearCq noSqs.cqs.keys.mergeSort between
    (runs.trans running) still with
    ⟨cleared, second, sqsLeft, cqsGone, cqsSkipped⟩
  have metas :=
    (deleteMetas_changed cleared.metas.keys.mergeSort cleared).same
  refine ⟨cleared.metas.keys.mergeSort.foldl dnvmeDeleteMetaId cleared,
    ?_, fun id => ?_, fun id => ?_, fun id live sqsSkip cqsSkip => ?_⟩
  · unfold dnvmeCleanupDevice dnvmeDeleteAllQueues
    rw [first]
    change (noSqs.cqs.keys.mergeSort.foldlM (clearCq false) noSqs >>= _) = _
    rw [second]
    rfl
  · rw [metas.findSq, sqsLeft, sqsGone]
    split
    · rfl
    · rename_i missing
      exact lookup_eq_none_of_keys ndev.sqs missing
  · rw [metas.findCq, cqsGone]
    split
    · rfl
    · rename_i missing
      exact lookup_eq_none_of_keys noSqs.cqs missing
  · unfold Live
    rw [metas.prpsHeap]
    refine cqsSkipped id (sqsSkipped id live sqsSkip) ?_
    intro cqid cq found
    rw [cqsLeft] at found
    exact cqsSkip cqid cq found

/-- A complete clean up returns exactly when it frees no buffer in the
controller memory buffer. -/
theorem dnvmeCleanupDevice_returns_iff (keyed : Keyed ndev)
    (running : ndev.bug = false) :
    (∃ cleaned, dnvmeCleanupDevice ndev false = .ok cleaned) ↔
      NoCmbCq ndev := by
  constructor
  · rintro ⟨cleaned, done⟩ cqid cq found
    unfold dnvmeCleanupDevice dnvmeDeleteAllQueues at done
    rcases ok_of_bind done with ⟨cleared, clears, _⟩
    rcases ok_of_bind clears with ⟨noSqs, first, second⟩
    have start : Keyed { ndev with
        irqSet := dnvmeCleanInterrupt ndev.irqSet } := ⟨keyed.sq, keyed.cq⟩
    rcases foldlM_clearSq ndev.sqs.keys.mergeSort start with
      ⟨also, again, _, _, cqsLeft, _⟩
    obtain rfl : noSqs = also := Except.ok.inj (first.symm.trans again)
    have between : Keyed noSqs :=
      foldlM_keeps (fun keyed turn => keyed.effects
        (@clearSq_effects CreatesDiscontig _ _ _ _ keyed turn)) _ start first
    have here : noSqs.findCq cqid = some cq := (cqsLeft cqid).trans found
    refine noCmb_of_foldlM_clearCq _ between second cqid ?_ cq here
    rw [List.mem_mergeSort, ← AList.mem_keys, ← AList.lookup_isSome]
    exact Option.isSome_of_eq_some here
  · intro noCmb
    rcases dnvmeCleanupDevice_empties keyed running noCmb with
      ⟨cleaned, done, _⟩
    exact ⟨cleaned, done⟩

/-! ## The result -/

/-- Pages are owned once and released once, and cleaning up releases all; it
returns unless a completion queue is in the controller memory buffer. -/
structure PagesAccounted (rule : SubmitRule) (ndev : NvmeDevice) : Prop where
  owner : ∀ id, Live ndev id → ∃! owner, Owns ndev owner id
  live : ∀ owner id, Owns ndev owner id → Live ndev id
  apart : ∀ id, Live ndev id → id ∉ ndev.released
  once : ∀ next, Step rule ndev next → ∀ owner id, Owns ndev owner id →
    ¬ Owns next owner id → next.released.count id = 1
  cleanup : ∀ cleaned, dnvmeCleanupDevice ndev false = .ok cleaned →
    ∀ id, ¬ Live cleaned id
  returns : (∃ cleaned, dnvmeCleanupDevice ndev false = .ok cleaned) ↔
    NoCmbCq ndev

theorem Accounted.fresh (qDepth : Nat) (capCqr cmbSqs cmbCqs : Bool) :
    Accounted (NvmeDevice.fresh qDepth capCqr cmbSqs cmbCqs) := by
  have dead : ∀ id, ¬ Live (NvmeDevice.fresh qDepth capCqr cmbSqs cmbCqs)
      id := fun _ live => by cases live
  constructor
  · exact Held.fresh qDepth capCqr cmbSqs cmbCqs
  · exact {
      complete := fun id live => absurd live (dead id)
      sqDiscontig := fun _ _ found => by cases found
      cqDiscontig := fun _ _ found => by cases found
      queueCmds := fun _ member => absurd member List.not_mem_nil }

/-- Runs in which create commands with a data buffer are for discontiguous
queues account for all pages. -/
theorem pages_accounted {ndev : NvmeDevice}
    (reachable : Reachable CreatesDiscontig ndev) :
    PagesAccounted CreatesDiscontig ndev := by
  have keyed := reachable.keyed
  have accounted : Accounted ndev :=
    reachable.invariant (fun _ _ _ _ _ => Accounted.fresh _ _ _ _)
      fun effect before => (before.effect effect).1
  have sound := accounted.held.sound
  refine ⟨fun id live => ?_, fun owner id owns => ?_, fun id live => ?_,
    fun next moves owner id owns gone => ?_, fun cleaned done id live => ?_,
    dnvmeCleanupDevice_returns_iff keyed reachable.running⟩
  · exact sound.existsUnique accounted.noLeak.complete live
  · exact sound.live owns
  · exact sound.apart live
  · rcases accounted.effects (moves.effects keyed) with ⟨after, settles⟩
    rcases settles.owns owner id owns with still | released
    · exact absurd still gone
    · exact List.count_eq_one_of_mem after.held.sound.once released
  · have noCmb := (dnvmeCleanupDevice_returns_iff keyed
      reachable.running).mp ⟨cleaned, done⟩
    rcases dnvmeCleanupDevice_empties keyed reachable.running noCmb with
      ⟨also, again, sqs, cqs, _⟩
    obtain rfl : cleaned = also := Except.ok.inj (done.symm.trans again)
    have after := (Accounted.effects
      (dnvmeCleanupDevice_effects keyed done) accounted).1
    rcases after.noLeak.complete id live with ⟨owner, owns⟩
    exact not_owns_of_empty sqs cqs owner id owns

/-! ## A create command with one page -/

/-- The admin submission queue and one prepared completion queue. -/
def preparedDevice (contig : Bool) : NvmeDevice :=
  ((NvmeDevice.fresh 64 false false false).setSq 0
    (NvmePrepSq.queue ⟨2, 0, 0, true, false⟩ nvmeSqes 4096)).setCq 1
      (NvmePrepCq.queue ⟨2, 1, contig, 0, 0, false⟩ nvmeCqes
        (if contig then 4096 else 0))

/-- Create the completion queue. -/
def createCommand (contig : Bool) : NvmeCommonCommand :=
  { NvmeCommonCommand.zero with
    opcode := 5
    cdw10 := 1
    cdw11 := if contig then 1 else 0 }

/-- Nothing fails and the buffer has one page. -/
def onePage (contig : Bool) : SubmitEnv :=
  .smooth (PrpReading.evenPages 1) PrpReading.oddPages (createCommand contig)

/-- The request, with a data buffer of one page. -/
def createRequest : Nvme64bCmd :=
  ⟨0, 0, 8, ⟨false, true, false, false, false⟩, 4096, 1 * pageSize, 0, 0, 0⟩

theorem preparedDevice_reachable (rule : SubmitRule) (contig : Bool) :
    Reachable rule (preparedDevice contig) := by
  have first : Step rule (NvmeDevice.fresh 64 false false false)
      ((NvmeDevice.fresh 64 false false false).setSq 0
        (NvmePrepSq.queue ⟨2, 0, 0, true, false⟩ nvmeSqes 4096)) :=
    ⟨.createAsq ⟨true, some 4096, true⟩ 2, 0,
      (fun _ _ other => by cases other), rfl⟩
  have second : Step rule ((NvmeDevice.fresh 64 false false false).setSq 0
      (NvmePrepSq.queue ⟨2, 0, 0, true, false⟩ nvmeSqes 4096))
      (preparedDevice contig) := by
    refine ⟨.prepareCq ⟨true, some 4096, true⟩ true
      ⟨2, 1, contig, 0, 0, false⟩, 0, (fun _ _ other => by cases other), ?_⟩
    cases contig <;> rfl
  exact ⟨64, false, false, false, by decide,
    (Relation.ReflTransGen.single first).tail second⟩

/-- The command is prepared and its node is added. -/
theorem createRequest_prepared (contig : Bool) :
    ∃ filled added, dnvmePrepare64bCmd (onePage contig)
        ((preparedDevice contig).setNextCid 0 1) createRequest
        (createCommand contig) = .ok (0, filled, added) ∧
      ∃ node, added.findSq 0 = some
        { NvmePrepSq.queue ⟨2, 0, 0, true, false⟩ nvmeSqes 4096 with
          nextCid := 1
          cmdList := [node] } := by
  rcases @PrpReading.evenPages_mapped 1 (by decide) (by decide) .queuePool 0
    true with ⟨mapped, maps, mapOk, first, rest, buffer⟩
  have creates : createsQueue createRequest (createCommand contig) = true :=
    rfl
  rcases PrpReading.evenPages_creates (by decide) buffer [] creates rfl with
    ⟨result, setup, zero⟩
  rcases (dnvmeSetupPrps_keeps setup).ccmd with ⟨dptr, ccmdEq⟩
  have whole : setupPrps (onePage contig)
      ((preparedDevice contig).setNextCid 0 1).poolPages createRequest
      (createCommand contig) mapped.prps =
      .ok { result with prps := { result.prps with isSgl := false } } := by
    unfold setupPrps
    rw [if_neg (by cases contig <;> decide)]
    change (dnvmeSetupPrps PrpReading.oddPages [] createRequest _ _ >>= _) = _
    rw [setup]
    rfl
  have mapping : dnvmeMapUserPage (onePage contig).map
      ((preparedDevice contig).setNextCid 0 1).pinned
      (.zero (prpsPool createRequest (createCommand contig)))
      createRequest.dataBufPtr createRequest.dataBufSize
      createRequest.dataDir
      (createsQueue createRequest (createCommand contig)) = .ok mapped := by
    cases contig <;> exact maps
  unfold dnvmePrepare64bCmd
  rw [if_neg (by cases contig <;> decide), if_neg (by cases contig <;> decide),
    mapping]
  change ∃ filled added, (if mapped.ret < 0 then _ else
    setupPrps _ _ _ _ _ >>= _) = _ ∧ _
  rw [mapOk, if_neg (by decide), whole]
  change ∃ filled added, (if result.ret < 0 then _ else _) = _ ∧ _
  rw [zero, if_neg (by decide), ccmdEq]
  cases contig <;> exact ⟨_, _, rfl, _, rfl⟩

/-- The command is accepted. -/
theorem createRequest_accepted (contig : Bool) :
    ∃ next, dnvmeSubmit64bCmd (onePage contig) (preparedDevice contig)
      createRequest = .ok (0, next) := by
  rcases createRequest_prepared contig with
    ⟨filled, added, prepared, node, queue⟩
  have created : ∃ pointed, dnvmeCreateIocq (onePage contig)
      ((preparedDevice contig).setNextCid 0 1) createRequest
      (createCommand contig) =
        .ok (0, pointed, added.markCqCreated 1) := by
    cases contig with
    | false =>
        refine ⟨filled, ?_⟩
        change (dnvmePrepare64bCmd (onePage false)
          ((preparedDevice false).setNextCid 0 1) createRequest
          (createCommand false) >>= _) = _
        rw [prepared]
        rfl
    | true =>
        refine ⟨{ filled with dptr := ⟨4096, 0⟩ }, ?_⟩
        change (dnvmePrepare64bCmd (onePage true)
          ((preparedDevice true).setNextCid 0 1) createRequest
          (createCommand true) >>= _) = _
        rw [prepared]
        rfl
  rcases created with ⟨pointed, created⟩
  have marked := (findSq_of_sqs_eq (NvmeDevice.modifyCq_sqs added 1
    fun cq => { cq with created := true }) 0).trans queue
  have written : ∃ next,
      (added.markCqCreated 1).writeEntry 0 pointed = .ok next := by
    unfold NvmeDevice.writeEntry
    rw [show (added.markCqCreated 1).findSq 0 = _ from marked]
    exact ⟨_, rfl⟩
  rcases written with ⟨next, written⟩
  refine ⟨next, ?_⟩
  change (dnvmeCreateIocq (onePage contig)
    ((preparedDevice contig).setNextCid 0 1) createRequest
    (createCommand contig) >>= _) = _
  rw [created]
  change ((added.markCqCreated 1).writeEntry 0 pointed >>= _) = _
  rw [written]
  rfl

theorem createdCq_useCmb (env : SubmitEnv) (cmd : Nvme64bCmd)
    (ccmd : NvmeCommonCommand) (object : Nat) (paged : Bool) (id : Nat)
    (cq : NvmeCq) :
    (createdCq env cmd ccmd object paged id cq).useCmb = cq.useCmb := by
  unfold createdCq
  split
  · split
    · rfl
    · rfl
  · rfl

/-- After the submission the completion queue holds the only set. -/
theorem createRequest_holds {contig : Bool} {next : NvmeDevice}
    (done : dnvmeSubmit64bCmd (onePage contig) (preparedDevice contig)
      createRequest = .ok (0, next)) :
    Live next 0 ∧ Owns next (.completionQueue 1) 0 ∧
      (∀ sqid, heldBy (cmds next sqid) = []) ∧
      (∀ sqid sq, next.findSq sqid = some sq → sq.contig = true) ∧
      ∀ cqid cq, next.findCq cqid = some cq →
        cq.contig = contig ∧ cq.useCmb = false := by
  rcases dnvmeSubmit64bCmd_cases done with ⟨fails, _⟩ |
    ⟨_, sq, ccmd, filled, prps, accepted⟩
  · exact absurd fails (by decide)
  obtain rfl : createCommand contig = ccmd := Option.some.inj accepted.read
  have owner : prpsOwner createRequest (createCommand contig) =
      .completionQueue 1 := rfl
  have paged : prps.isSome = true := by
    rcases accepted.filled_eq with ⟨_, _, pages, _⟩
    cases prps with
    | none => cases pages.1
    | some prps => rfl
  refine ⟨(live_submitted accepted 0).mpr (Or.inr ⟨paged, rfl⟩), ?_, ?_, ?_,
    ?_⟩
  · show cqPrps next 1 = some 0
    rw [cqPrps_submitted accepted, if_pos ⟨paged, owner⟩]
    rfl
  · intro sqid
    rw [cmds_submitted accepted]
    have before : cmds (preparedDevice contig) sqid = [] := by
      by_cases zero : sqid = 0
      · subst sqid
        rfl
      · unfold cmds
        rw [show (preparedDevice contig).findSq sqid = none from
          NvmeDevice.findSq_setSq_ne _ _ zero]
        rfl
    split
    · rw [before]
      simp [heldBy, submittedNode, owner]
    · rw [before]
      rfl
  · intro sqid later found
    rw [accepted.findSq] at found
    rcases Option.map_eq_some_iff.mp found with ⟨q, here, rfl⟩
    have zero : q.contig = true := by
      rcases findSq_setSq_cases here with ⟨_, rfl⟩ | ⟨_, other⟩
      · rfl
      · cases other
    have kept := (createdSq_later (onePage contig) createRequest
      (createCommand contig) (preparedDevice contig).nextObject prps.isSome
      sqid q).contig
    split <;> exact kept.trans zero
  · intro cqid later found
    rw [accepted.findCq] at found
    rcases Option.map_eq_some_iff.mp found with ⟨q, here, rfl⟩
    have one : q.contig = contig ∧ q.useCmb = false := by
      rcases findCq_setCq_cases here with ⟨_, rfl⟩ | ⟨_, other⟩
      · exact ⟨rfl, by cases contig <;> rfl⟩
      · cases other
    exact ⟨(createdCq_later (onePage contig) createRequest
      (createCommand contig) (preparedDevice contig).nextObject prps.isSome
      cqid q).contig.trans one.1, (createdCq_useCmb _ _ _ _ _ _ _).trans
        one.2⟩

theorem createRequest_reachable {rule : SubmitRule} {contig : Bool}
    {next : NvmeDevice}
    (meets : rule (preparedDevice contig) (onePage contig) createRequest)
    (done : dnvmeSubmit64bCmd (onePage contig) (preparedDevice contig)
      createRequest = .ok (0, next)) : Reachable rule next := by
  rcases preparedDevice_reachable rule contig with
    ⟨qDepth, capCqr, cmbSqs, cmbCqs, small, run⟩
  refine ⟨qDepth, capCqr, cmbSqs, cmbCqs, small, run.tail
    ⟨.submit64bCmd (onePage contig) createRequest, 0, ?_,
      step_submit64bCmd (by cases contig <;> rfl) done⟩⟩
  rintro env cmd equal
  cases equal
  exact meets

/-- A discontiguous completion queue owns the page of its create command. -/
theorem pages_accounted_discontig :
    ∃ ndev, Live ndev 0 ∧ Owns ndev (.completionQueue 1) 0 ∧
      PagesAccounted CreatesDiscontig ndev := by
  rcases createRequest_accepted false with ⟨next, done⟩
  rcases createRequest_holds done with ⟨live, owns, _⟩
  refine ⟨next, live, owns, pages_accounted
    (createRequest_reachable ?_ done)⟩
  intro ccmd read _ id
  obtain rfl : createCommand false = ccmd := Option.some.inj read
  constructor
  · rintro ⟨_, opcode, _⟩
    cases opcode
  · rintro ⟨_, _, rfl⟩
    refine ⟨by decide, fun cq found => ?_⟩
    cases found
    rfl

/-- A contiguous completion queue takes the page of its create command along:
after a complete clean up it is neither owned nor released. -/
theorem pages_leak_from_contiguous_queue :
    ¬ ∀ ndev, Reachable (fun _ _ _ => True) ndev →
      PagesAccounted (fun _ _ _ => True) ndev := by
  intro all
  rcases createRequest_accepted true with ⟨next, done⟩
  rcases createRequest_holds done with ⟨live, _, empty, sqs, cqs⟩
  have reachable : Reachable (fun _ _ _ => True) next :=
    createRequest_reachable trivial done
  have noCmb : NoCmbCq next := fun cqid cq found => by
    rw [(cqs cqid cq found).2, Bool.and_false]
  rcases dnvmeCleanupDevice_empties reachable.keyed reachable.running
    noCmb with ⟨cleaned, cleans, _, _, stays⟩
  refine (all next reachable).cleanup cleaned cleans 0 (stays 0 live ?_ ?_)
  · intro sqid sq found
    have list := empty sqid
    rw [cmds_eq found] at list
    simp [droppedBySq, list, sqs sqid sq found]
  · intro cqid cq found
    simp [droppedByCq, (cqs cqid cq found).1]

end Dnvme.Driver.PrpsOwnership
