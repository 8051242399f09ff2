import Dnvme.Lib.Ownership
import Dnvme.Driver.Effect

/-!
# Who holds the pages of a command

Every `nvme_prps` that a submission sets up is held by the command node or by
the queue the command creates.  The owners and the live sets form a ledger,
and it is sound after every run: what is held is live, it has one owner, and
what was released is not live any more.
-/

namespace Dnvme.Driver.PagesHeld

open Dnvme.Driver
open Dnvme.Lib.Ownership

/-! ## The ledger -/

/-- Who can hold a set of pages. -/
inductive Owner where
  | command (sqid node : Nat)
  | submissionQueue (id : Nat)
  | completionQueue (id : Nat)
  deriving DecidableEq, Repr

/-- The commands of a submission queue. -/
def cmds (ndev : NvmeDevice) (sqid : Nat) : List NvmeCmd :=
  (ndev.findSq sqid).elim [] NvmeSq.cmdList

/-- The set that a submission queue holds. -/
def sqPrps (ndev : NvmeDevice) (sqid : Nat) : Option Nat :=
  (ndev.findSq sqid).bind NvmeSq.prps

/-- The set that a completion queue holds. -/
def cqPrps (ndev : NvmeDevice) (cqid : Nat) : Option Nat :=
  (ndev.findCq cqid).bind NvmeCq.prps

/-- An owner holds a pointer to a set of pages. -/
def Owns (ndev : NvmeDevice) : Owner → Nat → Prop
  | .command sqid node, id =>
      ∃ cmd ∈ cmds ndev sqid, cmd.node = node ∧ cmd.prps = some id
  | .submissionQueue sqid, id => sqPrps ndev sqid = some id
  | .completionQueue cqid, id => cqPrps ndev cqid = some id

/-- A set of pages that was not released. -/
def Live (ndev : NvmeDevice) (id : Nat) : Prop :=
  (ndev.prpsHeap.lookup id).isSome = true

/-- The ledger of a device. -/
def ledger (ndev : NvmeDevice) : Ledger Owner Nat :=
  ⟨Owns ndev, Live ndev, ndev.released⟩

/-- What the driver keeps in every run. -/
structure Held (ndev : NvmeDevice) : Prop where
  sound : Sound (ledger ndev)
  nodes : ∀ sqid, ((cmds ndev sqid).map NvmeCmd.node).Nodup
  nodesBelow : ∀ sqid, ∀ cmd ∈ cmds ndev sqid, cmd.node < ndev.nextObject
  liveBelow : ∀ id, Live ndev id → id < ndev.nextObject
  releasedBelow : ∀ id ∈ ndev.released, id < ndev.nextObject
  sqCreated : ∀ id sq, ndev.findSq id = some sq → sq.prps ≠ none →
    sq.created = true
  cqCreated : ∀ id cq, ndev.findCq id = some cq → cq.prps ≠ none →
    cq.created = true

theorem cmds_eq {ndev : NvmeDevice} {sqid : Nat} {sq : NvmeSq}
    (found : ndev.findSq sqid = some sq) : cmds ndev sqid = sq.cmdList := by
  rw [cmds, found]
  rfl

theorem sqPrps_eq {ndev : NvmeDevice} {sqid : Nat} {sq : NvmeSq}
    (found : ndev.findSq sqid = some sq) : sqPrps ndev sqid = sq.prps := by
  rw [sqPrps, found]
  rfl

theorem cqPrps_eq {ndev : NvmeDevice} {cqid : Nat} {cq : NvmeCq}
    (found : ndev.findCq cqid = some cq) : cqPrps ndev cqid = cq.prps := by
  rw [cqPrps, found]
  rfl

/-! ## Releasing -/

/-- What a list of commands holds. -/
def heldBy (cmds : List NvmeCmd) : List Nat :=
  cmds.filterMap NvmeCmd.prps

theorem mem_heldBy {cmds : List NvmeCmd} {id : Nat} :
    id ∈ heldBy cmds ↔ ∃ cmd ∈ cmds, cmd.prps = some id :=
  List.mem_filterMap

theorem releasePrps_released (ndev : NvmeDevice) (prps : Option Nat) :
    (ndev.releasePrps prps).released =
      prps.toList.reverse ++ ndev.released := by
  cases prps <;> rfl

theorem live_releasePrps (ndev : NvmeDevice) (prps : Option Nat) (id : Nat) :
    Live (ndev.releasePrps prps) id ↔ Live ndev id ∧ id ∉ prps.toList := by
  cases prps with
  | none => simp [NvmeDevice.releasePrps]
  | some dropped =>
      unfold Live NvmeDevice.releasePrps
      by_cases equal : id = dropped
      · subst id
        simp [AList.lookup_erase]
      · simp [AList.lookup_erase_ne equal, equal]

theorem releaseCmds_released (cmds : List NvmeCmd) :
    ∀ ndev : NvmeDevice, (ndev.releaseCmds cmds).released =
      (heldBy cmds).reverse ++ ndev.released := by
  induction cmds with
  | nil =>
      intro ndev
      rfl
  | cons cmd cmds ih =>
      intro ndev
      rw [NvmeDevice.releaseCmds_cons, ih, releasePrps_released]
      cases holds : cmd.prps with
      | none => simp [heldBy, holds]
      | some id => simp [heldBy, holds]

theorem live_releaseCmds (cmds : List NvmeCmd) :
    ∀ (ndev : NvmeDevice) (id : Nat), Live (ndev.releaseCmds cmds) id ↔
      Live ndev id ∧ id ∉ heldBy cmds := by
  induction cmds with
  | nil =>
      intro ndev id
      simp [heldBy]
  | cons cmd cmds ih =>
      intro ndev id
      rw [NvmeDevice.releaseCmds_cons, ih, live_releasePrps]
      cases holds : cmd.prps with
      | none => simp [heldBy, holds]
      | some other =>
          simp only [heldBy, List.filterMap_cons, holds, Option.toList_some,
            List.mem_cons, not_or]
          tauto

/-- No two commands of a queue hold the same set. -/
theorem Held.heldBy_nodup {ndev : NvmeDevice} (held : Held ndev)
    (sqid : Nat) : (heldBy (cmds ndev sqid)).Nodup := by
  have nodes := List.pairwise_map.mp (held.nodes sqid)
  refine List.pairwise_filterMap.mpr (nodes.imp_of_mem ?_)
  intro first second here there different one holds two also equal
  subst two
  have same := @Sound.single _ _ _ held.sound (.command sqid first.node)
    (.command sqid second.node) one ⟨first, here, rfl, holds⟩
    ⟨second, there, rfl, also⟩
  rw [Owner.command.injEq] at same
  exact different same.2

/-! ## The views after each effect -/

/-- The views of a device after a queue was written back. -/
theorem cmds_setSq (ndev : NvmeDevice) (id : Nat) (sq : NvmeSq)
    (sqid : Nat) :
    cmds (ndev.setSq id sq) sqid =
      if sqid = id then sq.cmdList else cmds ndev sqid := by
  unfold cmds
  split
  · rename_i equal
    rw [equal, NvmeDevice.findSq_setSq]
    rfl
  · rename_i different
    rw [NvmeDevice.findSq_setSq_ne _ _ different]

theorem sqPrps_setSq (ndev : NvmeDevice) (id : Nat) (sq : NvmeSq)
    (sqid : Nat) :
    sqPrps (ndev.setSq id sq) sqid =
      if sqid = id then sq.prps else sqPrps ndev sqid := by
  unfold sqPrps
  split
  · rename_i equal
    rw [equal, NvmeDevice.findSq_setSq]
    rfl
  · rename_i different
    rw [NvmeDevice.findSq_setSq_ne _ _ different]

theorem cqPrps_setCq (ndev : NvmeDevice) (id : Nat) (cq : NvmeCq)
    (cqid : Nat) :
    cqPrps (ndev.setCq id cq) cqid =
      if cqid = id then cq.prps else cqPrps ndev cqid := by
  unfold cqPrps
  split
  · rename_i equal
    rw [equal, NvmeDevice.findCq_setCq]
    rfl
  · rename_i different
    rw [NvmeDevice.findCq_setCq_ne _ _ different]

/-- The same commands, pointers, pages and releases. -/
structure SameViews (ndev next : NvmeDevice) : Prop where
  cmds : ∀ sqid, cmds next sqid = cmds ndev sqid
  sqPrps : ∀ sqid, sqPrps next sqid = sqPrps ndev sqid
  cqPrps : ∀ cqid, cqPrps next cqid = cqPrps ndev cqid
  prpsHeap : next.prpsHeap = ndev.prpsHeap
  released : next.released = ndev.released

theorem SameViews.ledger {ndev next : NvmeDevice}
    (same : SameViews ndev next) : Same (ledger ndev) (ledger next) where
  owns owner id := by
    cases owner with
    | command sqid node =>
        show (∃ cmd ∈ _, _) ↔ ∃ cmd ∈ _, _
        rw [same.cmds]
    | submissionQueue sqid =>
        show _ = _ ↔ _ = _
        rw [same.sqPrps]
    | completionQueue cqid =>
        show _ = _ ↔ _ = _
        rw [same.cqPrps]
  live id := by
    show Live next id ↔ Live ndev id
    unfold Live
    rw [same.prpsHeap]
  released := same.released

/-- The commands of a queue without the one that completed. -/
theorem mem_eraseP_node {list : List NvmeCmd}
    (nodes : (list.map NvmeCmd.node).Nodup) {cmd other : NvmeCmd} :
    other ∈ list.eraseP (fun node => node.node = cmd.node) ↔
      other ∈ list ∧ other.node ≠ cmd.node := by
  induction list with
  | nil => simp
  | cons head tail ih =>
      rw [List.map_cons, List.nodup_cons] at nodes
      by_cases equal : head.node = cmd.node
      · rw [List.eraseP_cons_of_pos (by simpa using equal)]
        constructor
        · intro member
          refine ⟨List.mem_cons_of_mem _ member, fun same => nodes.1 ?_⟩
          rw [equal, ← same]
          exact List.mem_map_of_mem member
        · rintro ⟨member, different⟩
          rcases List.mem_cons.mp member with rfl | inside
          · exact absurd equal different
          · exact inside
      · rw [List.eraseP_cons_of_neg (by simpa using equal), List.mem_cons,
          List.mem_cons, ih nodes.2]
        constructor
        · rintro (rfl | ⟨member, different⟩)
          · exact ⟨Or.inl rfl, equal⟩
          · exact ⟨Or.inr member, different⟩
        · rintro ⟨rfl | member, different⟩
          · exact Or.inl rfl
          · exact Or.inr ⟨member, different⟩

/-- Two commands of a queue with one identity are the same. -/
theorem Held.node_unique {ndev : NvmeDevice} (held : Held ndev)
    {sqid : Nat} {first second : NvmeCmd} (here : first ∈ cmds ndev sqid)
    (there : second ∈ cmds ndev sqid) (same : first.node = second.node) :
    first = second :=
  List.inj_on_of_nodup_map (held.nodes sqid) here there same

/-- The commands that the effect of a queue's release leaves. -/
theorem cmds_dnvmeReleaseSq (ndev : NvmeDevice) (sq : NvmeSq)
    (sqid : Nat) :
    cmds (dnvmeReleaseSq ndev sq) sqid =
      if sqid = sq.sqId then [] else cmds ndev sqid := by
  unfold cmds NvmeDevice.findSq
  rw [dnvmeReleaseSq_sqs]
  split
  · rename_i equal
    rw [equal, AList.lookup_erase]
    rfl
  · rename_i different
    rw [AList.lookup_erase_ne different]

theorem sqPrps_dnvmeReleaseSq (ndev : NvmeDevice) (sq : NvmeSq)
    (sqid : Nat) :
    sqPrps (dnvmeReleaseSq ndev sq) sqid =
      if sqid = sq.sqId then none else sqPrps ndev sqid := by
  unfold sqPrps NvmeDevice.findSq
  rw [dnvmeReleaseSq_sqs]
  split
  · rename_i equal
    rw [equal, AList.lookup_erase]
    rfl
  · rename_i different
    rw [AList.lookup_erase_ne different]

theorem cqPrps_dnvmeReleaseCq (ndev : NvmeDevice) (cq : NvmeCq)
    (cqid : Nat) :
    cqPrps (dnvmeReleaseCq ndev cq) cqid =
      if cqid = cq.qId then none else cqPrps ndev cqid := by
  unfold cqPrps NvmeDevice.findCq
  rw [dnvmeReleaseCq_cqs]
  split
  · rename_i equal
    rw [equal, AList.lookup_erase]
    rfl
  · rename_i different
    rw [AList.lookup_erase_ne different]

/-! ## Owners that go away -/

/-- What the release of a submission queue releases. -/
def droppedBySq (sq : NvmeSq) : List Nat :=
  heldBy sq.cmdList ++ (if sq.contig then [] else sq.prps.toList)

/-- What the release of a completion queue releases. -/
def droppedByCq (cq : NvmeCq) : List Nat :=
  if cq.contig then [] else cq.prps.toList

theorem dnvmeReleaseSq_released (ndev : NvmeDevice) (sq : NvmeSq) :
    (dnvmeReleaseSq ndev sq).released =
      (droppedBySq sq).reverse ++ ndev.released := by
  unfold dnvmeReleaseSq dnvmeDeleteCmdList droppedBySq
  cases contig : sq.contig with
  | true => simp [releaseCmds_released]
  | false => simp [releaseCmds_released, releasePrps_released]

theorem live_dnvmeReleaseSq (ndev : NvmeDevice) (sq : NvmeSq) (id : Nat) :
    Live (dnvmeReleaseSq ndev sq) id ↔
      Live ndev id ∧ id ∉ droppedBySq sq := by
  have erased : Live { ndev with sqs := ndev.sqs.erase sq.sqId } id ↔
      Live ndev id := Iff.rfl
  unfold dnvmeReleaseSq dnvmeDeleteCmdList droppedBySq
  cases contig : sq.contig with
  | true => simp [live_releaseCmds, erased]
  | false => simp [live_releaseCmds, live_releasePrps, erased, and_assoc]

theorem dnvmeReleaseCq_released (ndev : NvmeDevice) (cq : NvmeCq) :
    (dnvmeReleaseCq ndev cq).released =
      (droppedByCq cq).reverse ++ ndev.released := by
  unfold dnvmeReleaseCq droppedByCq
  cases contig : cq.contig with
  | true => rfl
  | false => simp [releasePrps_released]

theorem live_dnvmeReleaseCq (ndev : NvmeDevice) (cq : NvmeCq) (id : Nat) :
    Live (dnvmeReleaseCq ndev cq) id ↔
      Live ndev id ∧ id ∉ droppedByCq cq := by
  have erased : Live { ndev with cqs := ndev.cqs.erase cq.qId } id ↔
      Live ndev id := Iff.rfl
  have freed : Live (NvmeDevice.freeCqBuf
      { ndev with cqs := ndev.cqs.erase cq.qId } cq.useCmb) id ↔
      Live ndev id := Iff.rfl
  unfold dnvmeReleaseCq droppedByCq
  cases contig : cq.contig with
  | true => simp [freed]
  | false => simp [live_releasePrps, erased]

/-- The owners that go away with a submission queue. -/
def LeavesWithSq (id : Nat) : Owner → Prop
  | .command sqid _ => sqid = id
  | .submissionQueue sqid => sqid = id
  | .completionQueue _ => False

variable {ndev next : NvmeDevice}

theorem Held.dropSq (held : Held ndev) {sq : NvmeSq}
    (found : ndev.findSq sq.sqId = some sq) :
    Retired (ledger ndev) (ledger (dnvmeReleaseSq ndev sq))
      (LeavesWithSq sq.sqId) (droppedBySq sq) where
  owns owner id := by
    cases owner with
    | command sqid node =>
        show (∃ cmd ∈ cmds (dnvmeReleaseSq ndev sq) sqid, _) ↔
          (∃ cmd ∈ cmds ndev sqid, _) ∧ ¬ sqid = sq.sqId
        rw [cmds_dnvmeReleaseSq]
        split
        · simp [*]
        · simp [*]
    | submissionQueue sqid =>
        show sqPrps (dnvmeReleaseSq ndev sq) sqid = some id ↔
          sqPrps ndev sqid = some id ∧ ¬ sqid = sq.sqId
        rw [sqPrps_dnvmeReleaseSq]
        split
        · simp [*]
        · simp [*]
    | completionQueue cqid =>
        show cqPrps (dnvmeReleaseSq ndev sq) cqid = some id ↔
          cqPrps ndev cqid = some id ∧ ¬ False
        unfold cqPrps
        rw [findCq_of_cqs_eq (dnvmeReleaseSq_cqs ndev sq), not_false_eq_true,
          and_true]
  live := live_dnvmeReleaseSq ndev sq
  released := dnvmeReleaseSq_released ndev sq
  nodup := by
    have list := held.heldBy_nodup sq.sqId
    rw [cmds_eq found] at list
    unfold droppedBySq
    cases contig : sq.contig with
    | true => simpa using list
    | false =>
        rw [List.nodup_append]
        refine ⟨list, ?_, ?_⟩
        · cases sq.prps <;> simp
        · intro id listed other holds equal
          subst other
          rcases mem_heldBy.mp listed with ⟨cmd, member, also⟩
          have single := @Sound.single _ _ _ held.sound
            (.command sq.sqId cmd.node) (.submissionQueue sq.sqId) id
            ⟨cmd, by rw [cmds_eq found]; exact member, rfl, also⟩
            ((sqPrps_eq found).trans (by simpa using holds))
          cases single
  owned id listed := by
    rcases List.mem_append.mp listed with inList | inQueue
    · rcases mem_heldBy.mp inList with ⟨cmd, member, holds⟩
      exact ⟨.command sq.sqId cmd.node, rfl, cmd,
        by rw [cmds_eq found]; exact member, rfl, holds⟩
    · refine ⟨.submissionQueue sq.sqId, rfl, (sqPrps_eq found).trans ?_⟩
      cases contig : sq.contig with
      | true => simp [contig] at inQueue
      | false => simpa [contig] using inQueue

theorem Held.dropCq {cq : NvmeCq}
    (found : ndev.findCq cq.qId = some cq) :
    Retired (ledger ndev) (ledger (dnvmeReleaseCq ndev cq))
      (fun owner => owner = .completionQueue cq.qId) (droppedByCq cq) where
  owns owner id := by
    cases owner with
    | command sqid node =>
        show (∃ cmd ∈ cmds (dnvmeReleaseCq ndev cq) sqid, _) ↔
          (∃ cmd ∈ cmds ndev sqid, _) ∧ _
        unfold cmds
        rw [findSq_of_sqs_eq (dnvmeReleaseCq_sqs ndev cq)]
        simp
    | submissionQueue sqid =>
        show sqPrps (dnvmeReleaseCq ndev cq) sqid = some id ↔
          sqPrps ndev sqid = some id ∧ _
        unfold sqPrps
        rw [findSq_of_sqs_eq (dnvmeReleaseCq_sqs ndev cq)]
        simp
    | completionQueue cqid =>
        show cqPrps (dnvmeReleaseCq ndev cq) cqid = some id ↔
          cqPrps ndev cqid = some id ∧ _
        rw [cqPrps_dnvmeReleaseCq]
        split
        · simp [*]
        · simp [*]
  live := live_dnvmeReleaseCq ndev cq
  released := dnvmeReleaseCq_released ndev cq
  nodup := by
    unfold droppedByCq
    cases cq.contig with
    | true => simp
    | false => cases cq.prps <;> simp
  owned id listed := by
    refine ⟨.completionQueue cq.qId, rfl, (cqPrps_eq found).trans ?_⟩
    unfold droppedByCq at listed
    cases contig : cq.contig with
    | true => simp [contig] at listed
    | false => simpa [contig] using listed

/-- The commands of one queue go away, the queues stay. -/
theorem Held.clearList (held : Held ndev) {key : Nat} {sq : NvmeSq}
    (found : ndev.findSq key = some sq) :
    Retired (ledger ndev)
      (ledger ((ndev.releaseCmds sq.cmdList).setSq key
        { sq with cmdList := [] }))
      (fun owner => ∃ node, owner = .command key node)
      (heldBy sq.cmdList) where
  owns owner id := by
    cases owner with
    | command sqid node =>
        show (∃ cmd ∈ cmds _ sqid, _) ↔ (∃ cmd ∈ cmds ndev sqid, _) ∧ _
        rw [cmds_setSq]
        split
        · simp [*]
        · unfold cmds
          rw [findSq_of_sqs_eq (NvmeDevice.releaseCmds_sqs ndev _)]
          simp [*]
    | submissionQueue sqid =>
        show sqPrps _ sqid = some id ↔ sqPrps ndev sqid = some id ∧ _
        rw [sqPrps_setSq]
        split
        · rename_i equal
          subst sqid
          rw [sqPrps_eq found]
          simp
        · unfold sqPrps
          rw [findSq_of_sqs_eq (NvmeDevice.releaseCmds_sqs ndev _)]
          simp
    | completionQueue cqid =>
        show cqPrps _ cqid = some id ↔ cqPrps ndev cqid = some id ∧ _
        unfold cqPrps
        rw [NvmeDevice.findCq_setSq,
          findCq_of_cqs_eq (NvmeDevice.releaseCmds_cqs ndev _)]
        simp
  live := live_releaseCmds sq.cmdList ndev
  released := releaseCmds_released sq.cmdList ndev
  nodup := by
    have list := held.heldBy_nodup key
    rwa [cmds_eq found] at list
  owned id listed := by
    rcases mem_heldBy.mp listed with ⟨cmd, member, holds⟩
    exact ⟨.command key cmd.node, ⟨cmd.node, rfl⟩, cmd,
      by rw [cmds_eq found]; exact member, rfl, holds⟩

theorem cmds_deleteCmd (ndev : NvmeDevice) (key : Nat) (cmd : NvmeCmd)
    (sqid : Nat) :
    cmds (ndev.deleteCmd key cmd) sqid =
      if sqid = key then
        (cmds ndev sqid).eraseP fun node => node.node = cmd.node
      else cmds ndev sqid := by
  unfold cmds
  rw [findSq_deleteCmd]
  cases ndev.findSq sqid with
  | none => simp
  | some sq =>
      split
      · simp [*]
      · simp [*]

theorem sqPrps_deleteCmd (ndev : NvmeDevice) (key : Nat) (cmd : NvmeCmd)
    (sqid : Nat) :
    sqPrps (ndev.deleteCmd key cmd) sqid = sqPrps ndev sqid := by
  unfold sqPrps
  rw [findSq_deleteCmd]
  cases ndev.findSq sqid with
  | none => rfl
  | some sq =>
      simp only [Option.map_some, Option.bind_some]
      split <;> rfl

/-- One command goes away; `prps` is what is released with it. -/
theorem Held.deleteCmd (held : Held ndev) {key : Nat} {cmd : NvmeCmd}
    (member : cmd ∈ cmds ndev key) {prps : Option Nat}
    (holds : prps = none ∨ prps = cmd.prps) :
    Retired (ledger ndev)
      (ledger ((ndev.releasePrps prps).deleteCmd key cmd))
      (fun owner => owner = .command key cmd.node) prps.toList where
  owns owner id := by
    cases owner with
    | command sqid node =>
        show (∃ other ∈ cmds _ sqid, _) ↔
          (∃ other ∈ cmds ndev sqid, _) ∧ _
        have same : cmds (ndev.releasePrps prps) sqid = cmds ndev sqid := by
          unfold cmds
          rw [findSq_of_sqs_eq (NvmeDevice.releasePrps_sqs ndev _)]
        rw [cmds_deleteCmd, same]
        split
        · rename_i equal
          subst sqid
          simp only [mem_eraseP_node (held.nodes key), Owner.command.injEq,
            true_and]
          constructor
          · rintro ⟨other, ⟨here, different⟩, rfl, holds⟩
            exact ⟨⟨other, here, rfl, holds⟩, different⟩
          · rintro ⟨⟨other, here, rfl, holds⟩, different⟩
            exact ⟨other, ⟨here, different⟩, rfl, holds⟩
        · rename_i different
          simp [different]
    | submissionQueue sqid =>
        show sqPrps _ sqid = some id ↔ sqPrps ndev sqid = some id ∧ _
        rw [sqPrps_deleteCmd]
        unfold sqPrps
        rw [findSq_of_sqs_eq (NvmeDevice.releasePrps_sqs ndev _)]
        simp
    | completionQueue cqid =>
        show cqPrps _ cqid = some id ↔ cqPrps ndev cqid = some id ∧ _
        unfold cqPrps
        rw [findCq_of_cqs_eq (NvmeDevice.deleteCmd_cqs _ _ _),
          findCq_of_cqs_eq (NvmeDevice.releasePrps_cqs ndev _)]
        simp
  live id := by
    show Live ((ndev.releasePrps prps).deleteCmd key cmd) id ↔ _
    rw [Live, NvmeDevice.deleteCmd_prpsHeap]
    exact live_releasePrps ndev prps id
  released := by
    show ((ndev.releasePrps prps).deleteCmd key cmd).released = _
    rw [NvmeDevice.deleteCmd_released]
    exact releasePrps_released ndev prps
  nodup := by cases prps <;> simp
  owned id listed := by
    refine ⟨.command key cmd.node, rfl, cmd, member, rfl, ?_⟩
    rcases holds with rfl | rfl
    · simp at listed
    · simpa using listed

/-! ## A submission -/

/-- The owner that a submission chooses. -/
def chosenOwner (cmd : Nvme64bCmd) (ccmd : NvmeCommonCommand)
    (node : Nat) : Owner :=
  match prpsOwner cmd ccmd with
  | .command => .command cmd.sqid node
  | .submissionQueue id => .submissionQueue id
  | .completionQueue id => .completionQueue id

section Submit

variable {env : SubmitEnv} {cmd : Nvme64bCmd} {sq : NvmeSq}
  {ccmd filled : NvmeCommonCommand} {prps : Option NvmePrps}

theorem createdSq_cmdList (env : SubmitEnv) (cmd : Nvme64bCmd)
    (ccmd : NvmeCommonCommand) (object : Nat) (paged : Bool) (id : Nat)
    (sq : NvmeSq) :
    (createdSq env cmd ccmd object paged id sq).cmdList = sq.cmdList := by
  unfold createdSq
  split
  · split <;> rfl
  · rfl

theorem cmds_submitted
    (accepted : Submitted env cmd ndev next sq ccmd filled prps)
    (sqid : Nat) :
    cmds next sqid =
      if sqid = cmd.sqid then
        cmds ndev sqid ++
          [submittedNode ndev.nextObject sq cmd ccmd prps.isSome]
      else cmds ndev sqid := by
  unfold cmds
  rw [accepted.findSq]
  cases found : ndev.findSq sqid with
  | none =>
      split
      · rename_i equal
        subst sqid
        rw [accepted.found] at found
        cases found
      · rfl
  | some q =>
      simp only [Option.map_some, Option.elim_some]
      split
      · unfold enqueued
        dsimp only
        rw [createdSq_cmdList]
      · exact createdSq_cmdList _ _ _ _ _ _ _

theorem createdSq_prps (env : SubmitEnv) (cmd : Nvme64bCmd)
    (ccmd : NvmeCommonCommand) (object : Nat) (paged : Bool) (id : Nat)
    (sq : NvmeSq) :
    (createdSq env cmd ccmd object paged id sq).prps =
      if paged ∧ prpsOwner cmd ccmd = .submissionQueue id then some object
      else sq.prps := by
  simp only [prpsOwner_eq_submissionQueue_iff]
  unfold createdSq
  by_cases creates : CreatesSq cmd ccmd id
  · simp only [creates, if_true, true_and]
    split <;> rfl
  · simp only [creates, if_false, false_and, and_false]

theorem createdCq_prps (env : SubmitEnv) (cmd : Nvme64bCmd)
    (ccmd : NvmeCommonCommand) (object : Nat) (paged : Bool) (id : Nat)
    (cq : NvmeCq) :
    (createdCq env cmd ccmd object paged id cq).prps =
      if paged ∧ prpsOwner cmd ccmd = .completionQueue id then some object
      else cq.prps := by
  simp only [prpsOwner_eq_completionQueue_iff]
  unfold createdCq
  by_cases creates : CreatesCq cmd ccmd id
  · simp only [creates, if_true, true_and]
    split <;> rfl
  · simp only [creates, if_false, false_and, and_false]

theorem sqPrps_submitted
    (accepted : Submitted env cmd ndev next sq ccmd filled prps)
    (sqid : Nat) :
    sqPrps next sqid =
      if prps.isSome ∧ prpsOwner cmd ccmd = .submissionQueue sqid then
        some ndev.nextObject
      else sqPrps ndev sqid := by
  unfold sqPrps
  rw [accepted.findSq]
  cases found : ndev.findSq sqid with
  | none =>
      rw [if_neg]
      · rfl
      · rintro ⟨_, owner⟩
        rcases accepted.target.sq sqid
          (prpsOwner_eq_submissionQueue_iff.mp owner).1 with ⟨q, here, _⟩
        rw [found] at here
        cases here
  | some q =>
      simp only [Option.map_some, Option.bind_some]
      split
      · exact createdSq_prps _ _ _ _ _ _ _
      · exact createdSq_prps _ _ _ _ _ _ _

theorem cqPrps_submitted
    (accepted : Submitted env cmd ndev next sq ccmd filled prps)
    (cqid : Nat) :
    cqPrps next cqid =
      if prps.isSome ∧ prpsOwner cmd ccmd = .completionQueue cqid then
        some ndev.nextObject
      else cqPrps ndev cqid := by
  unfold cqPrps
  rw [accepted.findCq]
  cases found : ndev.findCq cqid with
  | none =>
      rw [if_neg]
      · rfl
      · rintro ⟨_, owner⟩
        rcases accepted.target.cq cqid
          (prpsOwner_eq_completionQueue_iff.mp owner).1 with ⟨q, here, _⟩
        rw [found] at here
        cases here
  | some q =>
      simp only [Option.map_some, Option.bind_some]
      exact createdCq_prps _ _ _ _ _ _ _

/-- The target of a create command holds nothing yet. -/
theorem Held.target_empty (held : Held ndev)
    (accepted : Submitted env cmd ndev next sq ccmd filled prps) :
    (∀ id, prpsOwner cmd ccmd = .submissionQueue id →
      sqPrps ndev id = none) ∧
    (∀ id, prpsOwner cmd ccmd = .completionQueue id →
      cqPrps ndev id = none) := by
  constructor
  · intro id owner
    rcases accepted.target.sq id
      (prpsOwner_eq_submissionQueue_iff.mp owner).1 with
      ⟨q, found, fresh, _⟩
    rw [sqPrps_eq found]
    by_contra holds
    rw [held.sqCreated id q found holds] at fresh
    cases fresh
  · intro id owner
    rcases accepted.target.cq id
      (prpsOwner_eq_completionQueue_iff.mp owner).1 with
      ⟨q, found, fresh, _⟩
    rw [cqPrps_eq found]
    by_contra holds
    rw [held.cqCreated id q found holds] at fresh
    cases fresh

/-- Only the chosen owner gains something. -/
theorem Held.owns_submitted (held : Held ndev)
    (accepted : Submitted env cmd ndev next sq ccmd filled prps)
    (owner : Owner) (id : Nat) :
    Owns next owner id ↔ Owns ndev owner id ∨
      (prps.isSome = true ∧
        owner = chosenOwner cmd ccmd
          (submittedNode ndev.nextObject sq cmd ccmd prps.isSome).node ∧
        id = ndev.nextObject) := by
  rcases held.target_empty accepted with ⟨sqEmpty, cqEmpty⟩
  cases owner with
  | command sqid node =>
      simp only [Owns]
      rw [cmds_submitted accepted]
      split
      · rename_i equal
        subst sqid
        simp only [List.mem_append, List.mem_singleton, or_and_right,
          exists_or, exists_eq_left]
        refine or_congr Iff.rfl ?_
        unfold chosenOwner
        cases owner : prpsOwner cmd ccmd with
        | command =>
            simp only [submittedNode, owner, and_true, Owner.command.injEq,
              true_and]
            cases prps with
            | none => simp
            | some prps => simp [eq_comm]
        | submissionQueue target => simp [submittedNode, owner]
        | completionQueue target => simp [submittedNode, owner]
      · rename_i different
        refine (or_iff_left ?_).symm
        rintro ⟨_, chosen, _⟩
        unfold chosenOwner at chosen
        cases owner : prpsOwner cmd ccmd with
        | command =>
            rw [owner] at chosen
            exact different (Owner.command.inj chosen).1
        | submissionQueue target => rw [owner] at chosen; cases chosen
        | completionQueue target => rw [owner] at chosen; cases chosen
  | submissionQueue sqid =>
      simp only [Owns]
      rw [sqPrps_submitted accepted]
      unfold chosenOwner
      by_cases chosen : prpsOwner cmd ccmd = .submissionQueue sqid
      · simp only [chosen, sqEmpty sqid chosen, and_true]
        cases prps with
        | none => simp
        | some prps => simp [eq_comm]
      · simp only [chosen, and_false, if_false]
        refine (or_iff_left ?_).symm
        rintro ⟨_, other, _⟩
        cases owner : prpsOwner cmd ccmd with
        | command => rw [owner] at other; cases other
        | completionQueue target => rw [owner] at other; cases other
        | submissionQueue target =>
            rw [owner] at other
            rw [owner, Owner.submissionQueue.inj other] at chosen
            exact chosen rfl
  | completionQueue cqid =>
      simp only [Owns]
      rw [cqPrps_submitted accepted]
      unfold chosenOwner
      by_cases chosen : prpsOwner cmd ccmd = .completionQueue cqid
      · simp only [chosen, cqEmpty cqid chosen, and_true]
        cases prps with
        | none => simp
        | some prps => simp [eq_comm]
      · simp only [chosen, and_false, if_false]
        refine (or_iff_left ?_).symm
        rintro ⟨_, other, _⟩
        cases owner : prpsOwner cmd ccmd with
        | command => rw [owner] at other; cases other
        | submissionQueue target => rw [owner] at other; cases other
        | completionQueue target =>
            rw [owner] at other
            rw [owner, Owner.completionQueue.inj other] at chosen
            exact chosen rfl

theorem live_submitted
    (accepted : Submitted env cmd ndev next sq ccmd filled prps)
    (id : Nat) :
    Live next id ↔
      Live ndev id ∨ (prps.isSome = true ∧ id = ndev.nextObject) := by
  unfold Live
  rw [accepted.heap]
  cases prps with
  | none => simp [heapWith]
  | some prps =>
      unfold heapWith
      by_cases equal : id = ndev.nextObject
      · subst id
        simp [AList.lookup_insert]
      · simp [AList.lookup_insert_ne equal, equal]

/-- A submission without pages changes nothing in the ledger. -/
theorem Held.submit_none (held : Held ndev)
    (accepted : Submitted env cmd ndev next sq ccmd filled none) :
    Same (ledger ndev) (ledger next) where
  owns owner id := by
    have owns := held.owns_submitted accepted owner id
    simpa [ledger] using owns
  live id := by
    have live := live_submitted accepted id
    simpa [ledger] using live
  released := accepted.released

/-- A submission with pages hands them to the chosen owner. -/
theorem Held.submit_some (held : Held ndev) {pages : NvmePrps}
    (accepted : Submitted env cmd ndev next sq ccmd filled (some pages)) :
    Given (ledger ndev) (ledger next)
      (chosenOwner cmd ccmd
        (submittedNode ndev.nextObject sq cmd ccmd true).node)
      ndev.nextObject where
  owns owner id := by
    have owns := held.owns_submitted accepted owner id
    simpa [ledger] using owns
  live id := by
    have live := live_submitted accepted id
    simpa [ledger] using live
  released := accepted.released
  dead live := absurd (held.liveBelow _ live) (lt_irrefl _)
  fresh listed := absurd (held.releasedBelow _ listed) (lt_irrefl _)

end Submit

/-! ## What holds in every run -/

/-- Nothing has leaked, and nothing is held where a release skips it. -/
structure NoLeak (ndev : NvmeDevice) : Prop where
  complete : Complete (ledger ndev)
  sqDiscontig : ∀ id sq, ndev.findSq id = some sq → sq.prps ≠ none →
    sq.contig = false
  cqDiscontig : ∀ id cq, ndev.findCq id = some cq → cq.prps ≠ none →
    cq.contig = false
  queueCmds : ∀ cmd ∈ cmds ndev nvmeAqId,
    adminOpcode cmd.opcode ≠ .other → cmd.prps = none

/-- A queue object holds what it held before, or is new. -/
structure PointersKept (ndev next : NvmeDevice) : Prop where
  sq : ∀ id later, next.findSq id = some later →
    (later.prps = none ∧ later.created = false) ∨
    ∃ before, ndev.findSq id = some before ∧ later.prps = before.prps ∧
      later.created = before.created ∧ later.contig = before.contig
  cq : ∀ id later, next.findCq id = some later →
    (later.prps = none ∧ later.created = false) ∨
    ∃ before, ndev.findCq id = some before ∧ later.prps = before.prps ∧
      later.created = before.created ∧ later.contig = before.contig

theorem PointersKept.of_same (sqs : ∀ id, next.findSq id = ndev.findSq id)
    (cqs : ∀ id, next.findCq id = ndev.findCq id) :
    PointersKept ndev next where
  sq id later found :=
    Or.inr ⟨later, sqs id ▸ found, rfl, rfl, rfl⟩
  cq id later found :=
    Or.inr ⟨later, cqs id ▸ found, rfl, rfl, rfl⟩

/-- Owners go away and nothing is added. -/
structure Retires (ndev next : NvmeDevice) (gone : Owner → Prop)
    (dropped : List Nat) : Prop where
  ledger : Retired (ledger ndev) (ledger next) gone dropped
  fewer : ∀ sqid, (cmds next sqid).Sublist (cmds ndev sqid)
  pointers : PointersKept ndev next
  nextObject : next.nextObject = ndev.nextObject

theorem Held.retire (held : Held ndev) {gone : Owner → Prop}
    {dropped : List Nat} (retires : Retires ndev next gone dropped) :
    Held next where
  sound := retires.ledger.sound held.sound
  nodes sqid := (held.nodes sqid).sublist ((retires.fewer sqid).map _)
  nodesBelow sqid cmd member := by
    rw [retires.nextObject]
    exact held.nodesBelow sqid cmd ((retires.fewer sqid).subset member)
  liveBelow id live := by
    rw [retires.nextObject]
    exact held.liveBelow id ((retires.ledger.live id).mp live).1
  releasedBelow id listed := by
    rw [retires.nextObject]
    have all : id ∈ dropped.reverse ++ ndev.released :=
      retires.ledger.released ▸ listed
    rcases List.mem_append.mp all with new | old
    · rcases retires.ledger.owned id (List.mem_reverse.mp new) with
        ⟨owner, _, owns⟩
      exact held.liveBelow id (held.sound.live owns)
    · exact held.releasedBelow id old
  sqCreated id later found holds := by
    rcases retires.pointers.sq id later found with ⟨nothing, _⟩ |
      ⟨before, here, prps, created, _⟩
    · exact absurd nothing holds
    · rw [created]
      exact held.sqCreated id before here (prps ▸ holds)
  cqCreated id later found holds := by
    rcases retires.pointers.cq id later found with ⟨nothing, _⟩ |
      ⟨before, here, prps, created, _⟩
    · exact absurd nothing holds
    · rw [created]
      exact held.cqCreated id before here (prps ▸ holds)

theorem NoLeak.retire (noLeak : NoLeak ndev) {gone : Owner → Prop}
    {dropped : List Nat} (retires : Retires ndev next gone dropped)
    (all : ∀ owner id, gone owner → Owns ndev owner id → id ∈ dropped) :
    NoLeak next where
  complete := retires.ledger.complete all noLeak.complete
  sqDiscontig id later found holds := by
    rcases retires.pointers.sq id later found with ⟨nothing, _⟩ |
      ⟨before, here, prps, _, contig⟩
    · exact absurd nothing holds
    · rw [contig]
      exact noLeak.sqDiscontig id before here (prps ▸ holds)
  cqDiscontig id later found holds := by
    rcases retires.pointers.cq id later found with ⟨nothing, _⟩ |
      ⟨before, here, prps, _, contig⟩
    · exact absurd nothing holds
    · rw [contig]
      exact noLeak.cqDiscontig id before here (prps ▸ holds)
  queueCmds cmd member :=
    noLeak.queueCmds cmd ((retires.fewer nvmeAqId).subset member)

/-- The same commands and pointers make the same ledger. -/
theorem SameViews.retires (same : SameViews ndev next)
    (pointers : PointersKept ndev next)
    (nextObject : next.nextObject = ndev.nextObject) :
    Retires ndev next (fun _ => False) [] where
  ledger := same.ledger.retired
  fewer sqid := by
    rw [same.cmds]
  pointers := pointers
  nextObject := nextObject

theorem submittedNode_fresh (object : Nat) (sq : NvmeSq) (cmd : Nvme64bCmd)
    (ccmd : NvmeCommonCommand) (paged : Bool) :
    object ≤ (submittedNode object sq cmd ccmd paged).node := by
  unfold submittedNode
  cases paged <;> simp

/-- A submission adds a node and at most one pointer. -/
theorem Held.submit (held : Held ndev) {env : SubmitEnv}
    {cmd : Nvme64bCmd} {sq : NvmeSq} {ccmd filled : NvmeCommonCommand}
    {prps : Option NvmePrps}
    (accepted : Submitted env cmd ndev next sq ccmd filled prps) :
    Held next where
  sound := by
    cases prps with
    | none => exact (held.submit_none accepted).retired.sound held.sound
    | some pages => exact (held.submit_some accepted).sound held.sound
  nodes sqid := by
    rw [cmds_submitted accepted]
    split
    · rw [List.map_append, List.nodup_append]
      refine ⟨held.nodes sqid, by simp, ?_⟩
      intro old listed new single equal
      rw [List.map_singleton, List.mem_singleton] at single
      rcases List.mem_map.mp listed with ⟨other, member, rfl⟩
      have below := held.nodesBelow sqid other member
      have fresh := submittedNode_fresh ndev.nextObject sq cmd ccmd
        prps.isSome
      omega
    · exact held.nodes sqid
  nodesBelow sqid other member := by
    have fresh := submittedNode_fresh ndev.nextObject sq cmd ccmd prps.isSome
    rw [accepted.nextObject]
    rw [cmds_submitted accepted] at member
    split at member
    · rcases List.mem_append.mp member with old | new
      · have below := held.nodesBelow sqid other old
        omega
      · rw [List.mem_singleton.mp new]
        exact Nat.lt_succ_self _
    · have below := held.nodesBelow sqid other member
      omega
  liveBelow id live := by
    have fresh := submittedNode_fresh ndev.nextObject sq cmd ccmd prps.isSome
    rw [accepted.nextObject]
    rcases (live_submitted accepted id).mp live with old | ⟨_, rfl⟩
    · have below := held.liveBelow id old
      omega
    · omega
  releasedBelow id listed := by
    have fresh := submittedNode_fresh ndev.nextObject sq cmd ccmd prps.isSome
    rw [accepted.released] at listed
    rw [accepted.nextObject]
    have below := held.releasedBelow id listed
    omega
  sqCreated id later found holds := by
    rw [accepted.findSq] at found
    rcases Option.map_eq_some_iff.mp found with ⟨before, here, rfl⟩
    by_cases creates : CreatesSq cmd ccmd id
    · split <;> exact createdSq_created creates
    · rw [createdSq_of_not creates] at holds ⊢
      have pointer : before.prps ≠ none := by
        split at holds <;> exact holds
      split <;> exact held.sqCreated id before here pointer
  cqCreated id later found holds := by
    rw [accepted.findCq] at found
    rcases Option.map_eq_some_iff.mp found with ⟨before, here, rfl⟩
    by_cases creates : CreatesCq cmd ccmd id
    · exact createdCq_created creates
    · rw [createdCq_of_not creates] at holds ⊢
      exact held.cqCreated id before here holds

/-! ## Every effect -/

/-- An effect that is no submission: owners may go away, and when nothing
had leaked all that they held is released. -/
def OnlyRetires (ndev next : NvmeDevice) : Prop :=
  ∃ gone dropped, Retires ndev next gone dropped ∧
    (NoLeak ndev → ∀ owner id, gone owner → Owns ndev owner id →
      id ∈ dropped)

theorem OnlyRetires.of_same (same : SameViews ndev next)
    (pointers : PointersKept ndev next)
    (nextObject : next.nextObject = ndev.nextObject) :
    OnlyRetires ndev next :=
  ⟨_, _, same.retires pointers nextObject, fun _ _ _ leaves => leaves.elim⟩

theorem onlyRetires_setSq {id : Nat} {sq changed : NvmeSq}
    (found : ndev.findSq id = some sq) (kept : SqKept sq changed) :
    OnlyRetires ndev (ndev.setSq id changed) := by
  refine OnlyRetires.of_same ⟨?_, ?_, fun _ => rfl, rfl, rfl⟩ ⟨?_, ?_⟩ rfl
  · intro sqid
    rw [cmds_setSq]
    split
    · rename_i equal
      rw [equal, cmds_eq found, kept.cmdList]
    · rfl
  · intro sqid
    rw [sqPrps_setSq]
    split
    · rename_i equal
      rw [equal, sqPrps_eq found, kept.prps]
    · rfl
  · intro other later here
    rcases findSq_setSq_cases here with ⟨rfl, rfl⟩ | ⟨_, before⟩
    · exact Or.inr ⟨sq, found, kept.prps, kept.created, kept.contig⟩
    · exact Or.inr ⟨later, before, rfl, rfl, rfl⟩
  · intro other later here
    exact Or.inr ⟨later, here, rfl, rfl, rfl⟩

theorem onlyRetires_setCq {id : Nat} {cq changed : NvmeCq}
    (found : ndev.findCq id = some cq) (kept : CqKept cq changed) :
    OnlyRetires ndev (ndev.setCq id changed) := by
  refine OnlyRetires.of_same
    ⟨fun _ => rfl, fun _ => rfl, ?_, rfl, rfl⟩ ⟨?_, ?_⟩ rfl
  · intro cqid
    rw [cqPrps_setCq]
    split
    · rename_i equal
      rw [equal, cqPrps_eq found, kept.prps]
    · rfl
  · intro other later here
    exact Or.inr ⟨later, here, rfl, rfl, rfl⟩
  · intro other later here
    rcases findCq_setCq_cases here with ⟨rfl, rfl⟩ | ⟨_, before⟩
    · exact Or.inr ⟨cq, found, kept.prps, kept.created, kept.contig⟩
    · exact Or.inr ⟨later, before, rfl, rfl, rfl⟩

theorem onlyRetires_newSq {prep : NvmePrepSq} {dma : Nat}
    (absent : ndev.findSq prep.sqId = none) :
    OnlyRetires ndev (ndev.setSq prep.sqId (prep.queue nvmeSqes dma)) := by
  refine OnlyRetires.of_same ⟨?_, ?_, fun _ => rfl, rfl, rfl⟩ ⟨?_, ?_⟩ rfl
  · intro sqid
    rw [cmds_setSq]
    split
    · rename_i equal
      rw [equal, cmds, absent]
      rfl
    · rfl
  · intro sqid
    rw [sqPrps_setSq]
    split
    · rename_i equal
      rw [equal, sqPrps, absent]
      rfl
    · rfl
  · intro other later here
    rcases findSq_setSq_cases here with ⟨rfl, rfl⟩ | ⟨_, before⟩
    · exact Or.inl ⟨rfl, rfl⟩
    · exact Or.inr ⟨later, before, rfl, rfl, rfl⟩
  · intro other later here
    exact Or.inr ⟨later, here, rfl, rfl, rfl⟩

theorem onlyRetires_newCq {prep : NvmePrepCq} {dma : Nat}
    (absent : ndev.findCq prep.cqId = none) :
    OnlyRetires ndev (ndev.setCq prep.cqId (prep.queue nvmeCqes dma)) := by
  refine OnlyRetires.of_same
    ⟨fun _ => rfl, fun _ => rfl, ?_, rfl, rfl⟩ ⟨?_, ?_⟩ rfl
  · intro cqid
    rw [cqPrps_setCq]
    split
    · rename_i equal
      rw [equal, cqPrps, absent]
      rfl
    · rfl
  · intro other later here
    exact Or.inr ⟨later, here, rfl, rfl, rfl⟩
  · intro other later here
    rcases findCq_setCq_cases here with ⟨rfl, rfl⟩ | ⟨_, before⟩
    · exact Or.inl ⟨rfl, rfl⟩
    · exact Or.inr ⟨later, before, rfl, rfl, rfl⟩

theorem Held.onlyRetires_dropSq (held : Held ndev) {sq : NvmeSq}
    (found : ndev.findSq sq.sqId = some sq) :
    OnlyRetires ndev (dnvmeReleaseSq ndev sq) := by
  refine ⟨_, _, ⟨held.dropSq found, ?_, ⟨?_, ?_⟩, ?_⟩, ?_⟩
  · intro sqid
    rw [cmds_dnvmeReleaseSq]
    split
    · exact List.nil_sublist _
    · exact List.Sublist.refl _
  · intro id later here
    exact Or.inr ⟨later, (findSq_dnvmeReleaseSq here).2, rfl, rfl, rfl⟩
  · intro id later here
    rw [findCq_of_cqs_eq (dnvmeReleaseSq_cqs ndev sq)] at here
    exact Or.inr ⟨later, here, rfl, rfl, rfl⟩
  · exact dnvmeReleaseSq_nextObject ndev sq
  · intro noLeak owner id leaves owns
    cases owner with
    | command sqid node =>
        obtain rfl : sqid = sq.sqId := leaves
        rcases owns with ⟨cmd, member, _, holds⟩
        rw [cmds_eq found] at member
        exact List.mem_append_left _ (mem_heldBy.mpr ⟨cmd, member, holds⟩)
    | submissionQueue sqid =>
        obtain rfl : sqid = sq.sqId := leaves
        have holds : sq.prps = some id := (sqPrps_eq found).symm.trans owns
        have contig := noLeak.sqDiscontig _ sq found (by simp [holds])
        refine List.mem_append_right _ ?_
        simp [contig, holds]
    | completionQueue cqid => exact leaves.elim

theorem onlyRetires_dropCq {cq : NvmeCq}
    (found : ndev.findCq cq.qId = some cq) :
    OnlyRetires ndev (dnvmeReleaseCq ndev cq) := by
  refine ⟨_, _, ⟨Held.dropCq found, ?_, ⟨?_, ?_⟩, ?_⟩, ?_⟩
  · intro sqid
    unfold cmds
    rw [findSq_of_sqs_eq (dnvmeReleaseCq_sqs ndev cq)]
  · intro id later here
    rw [findSq_of_sqs_eq (dnvmeReleaseCq_sqs ndev cq)] at here
    exact Or.inr ⟨later, here, rfl, rfl, rfl⟩
  · intro id later here
    exact Or.inr ⟨later, (findCq_dnvmeReleaseCq here).2, rfl, rfl, rfl⟩
  · exact dnvmeReleaseCq_nextObject ndev cq
  · rintro noLeak owner id rfl owns
    have holds : cq.prps = some id := (cqPrps_eq found).symm.trans owns
    have contig := noLeak.cqDiscontig _ cq found (by simp [holds])
    simp [droppedByCq, contig, holds]

theorem Held.onlyRetires_clearList (held : Held ndev) {key : Nat}
    {sq : NvmeSq} (found : ndev.findSq key = some sq) :
    OnlyRetires ndev ((ndev.releaseCmds sq.cmdList).setSq key
      { sq with cmdList := [] }) := by
  refine ⟨_, _, ⟨held.clearList found, ?_, ⟨?_, ?_⟩, ?_⟩, ?_⟩
  · intro sqid
    rw [cmds_setSq]
    split
    · exact List.nil_sublist _
    · unfold cmds
      rw [findSq_of_sqs_eq (NvmeDevice.releaseCmds_sqs ndev _)]
  · intro id later here
    rcases findSq_setSq_cases here with ⟨rfl, rfl⟩ | ⟨_, before⟩
    · exact Or.inr ⟨sq, found, rfl, rfl, rfl⟩
    · rw [findSq_of_sqs_eq (NvmeDevice.releaseCmds_sqs ndev _)] at before
      exact Or.inr ⟨later, before, rfl, rfl, rfl⟩
  · intro id later here
    rw [NvmeDevice.findCq_setSq,
      findCq_of_cqs_eq (NvmeDevice.releaseCmds_cqs ndev _)] at here
    exact Or.inr ⟨later, here, rfl, rfl, rfl⟩
  · exact NvmeDevice.releaseCmds_nextObject ndev sq.cmdList
  · rintro noLeak owner id ⟨node, rfl⟩ ⟨cmd, member, _, holds⟩
    rw [cmds_eq found] at member
    exact mem_heldBy.mpr ⟨cmd, member, holds⟩

/-- A command goes away; when nothing had leaked, `prps` is all it holds. -/
theorem Held.onlyRetires_deleteCmd (held : Held ndev) {key : Nat}
    {cmd : NvmeCmd} (member : cmd ∈ cmds ndev key) {prps : Option Nat}
    (holds : prps = none ∨ prps = cmd.prps)
    (all : NoLeak ndev → prps = cmd.prps) :
    OnlyRetires ndev ((ndev.releasePrps prps).deleteCmd key cmd) := by
  refine ⟨_, _, ⟨held.deleteCmd member holds, ?_, ⟨?_, ?_⟩, ?_⟩, ?_⟩
  · intro sqid
    have same : cmds (ndev.releasePrps prps) sqid = cmds ndev sqid := by
      unfold cmds
      rw [findSq_of_sqs_eq (NvmeDevice.releasePrps_sqs ndev _)]
    rw [cmds_deleteCmd, same]
    split
    · exact List.eraseP_sublist
    · exact List.Sublist.refl _
  · intro id later here
    rw [findSq_deleteCmd,
      findSq_of_sqs_eq (NvmeDevice.releasePrps_sqs ndev _)] at here
    rcases Option.map_eq_some_iff.mp here with ⟨before, found, rfl⟩
    refine Or.inr ⟨before, found, ?_⟩
    split <;> exact ⟨rfl, rfl, rfl⟩
  · intro id later here
    rw [findCq_of_cqs_eq (NvmeDevice.deleteCmd_cqs _ _ _),
      findCq_of_cqs_eq (NvmeDevice.releasePrps_cqs ndev _)] at here
    exact Or.inr ⟨later, here, rfl, rfl, rfl⟩
  · rw [NvmeDevice.deleteCmd_nextObject, NvmeDevice.releasePrps_nextObject]
  · rintro noLeak owner id rfl ⟨other, here, same, pointer⟩
    rw [held.node_unique here member same] at pointer
    rw [all noLeak, pointer]
    exact List.mem_singleton_self id

/-- Every effect is a submission or only takes owners away. -/
theorem Held.effect_cases {rule : SubmitRule} (held : Held ndev)
    (effect : Effect rule ndev next) :
    OnlyRetires ndev next ∨
      ∃ env cmd sq ccmd filled prps,
        Submitted env cmd ndev next sq ccmd filled prps ∧
          rule ndev env cmd := by
  cases effect with
  | quiet same =>
      refine Or.inl (OnlyRetires.of_same ⟨?_, ?_, ?_, same.prpsHeap,
        same.released⟩ (PointersKept.of_same same.findSq same.findCq)
        same.nextObject)
      · intro sqid
        rw [cmds, cmds, same.findSq]
      · intro sqid
        rw [sqPrps, sqPrps, same.findSq]
      · intro cqid
        rw [cqPrps, cqPrps, same.findCq]
  | sqData id found kept => exact Or.inl (onlyRetires_setSq found kept)
  | cqData id found kept => exact Or.inl (onlyRetires_setCq found kept)
  | newSq prep dma absent elements => exact Or.inl (onlyRetires_newSq absent)
  | newCq prep dma absent elements => exact Or.inl (onlyRetires_newCq absent)
  | dropSq found => exact Or.inl (held.onlyRetires_dropSq found)
  | dropCq found => exact Or.inl (onlyRetires_dropCq found)
  | clearList key found => exact Or.inl (held.onlyRetires_clearList found)
  | complete key found member general =>
      rw [← cmds_eq found] at member
      exact Or.inl (held.onlyRetires_deleteCmd member (Or.inr rfl)
        fun _ => rfl)
  | forget found member special =>
      rw [← cmds_eq found] at member
      exact Or.inl (@Held.onlyRetires_deleteCmd _ held _ _ member none
        (Or.inl rfl) fun noLeak =>
          (noLeak.queueCmds _ member special).symm)
  | submit accepted meets =>
      exact Or.inr ⟨_, _, _, _, _, _, accepted, meets⟩

theorem Held.effect {rule : SubmitRule} (effect : Effect rule ndev next)
    (held : Held ndev) : Held next := by
  rcases held.effect_cases effect with ⟨gone, dropped, retires, _⟩ |
    ⟨_, _, _, _, _, _, accepted, _⟩
  · exact held.retire retires
  · exact held.submit accepted

/-! ## A fresh device -/

/-- Without queues nobody owns anything. -/
theorem not_owns_of_empty (sqs : ∀ id, ndev.findSq id = none)
    (cqs : ∀ id, ndev.findCq id = none) (owner : Owner) (id : Nat) :
    ¬ Owns ndev owner id := by
  cases owner with
  | command sqid node => simp [Owns, cmds, sqs]
  | submissionQueue sqid => simp [Owns, sqPrps, sqs]
  | completionQueue cqid => simp [Owns, cqPrps, cqs]

theorem Held.fresh (qDepth : Nat) (capCqr cmbSqs cmbCqs : Bool) :
    Held (NvmeDevice.fresh qDepth capCqr cmbSqs cmbCqs) := by
  have nobody := @not_owns_of_empty
    (NvmeDevice.fresh qDepth capCqr cmbSqs cmbCqs) (fun _ => rfl)
    (fun _ => rfl)
  have dead : ∀ id, ¬ Live (NvmeDevice.fresh qDepth capCqr cmbSqs cmbCqs)
      id := fun _ live => by cases live
  exact {
    sound := {
      live := fun owns => absurd owns (nobody _ _)
      single := fun owns => absurd owns (nobody _ _)
      once := List.nodup_nil
      apart := fun live => absurd live (dead _) }
    nodes := fun _ => List.nodup_nil
    nodesBelow := fun _ _ member => absurd member List.not_mem_nil
    liveBelow := fun id live => absurd live (dead id)
    releasedBelow := fun _ listed => absurd listed List.not_mem_nil
    sqCreated := fun _ _ found => by cases found
    cqCreated := fun _ _ found => by cases found }

end Dnvme.Driver.PagesHeld
