import Dnvme.Driver.CqScan
import Dnvme.Driver.PagesHeld

/-!
# Completion queues in every run

A completion queue is changed in few ways: it is made, scanned, reaped,
written by the device, created and reset.  What all of these keep holds of
every completion queue of every run.  In particular the head lies in the ring
and the sizes fit together.

The second half says what a scan that returned has read, and that handling a
completion leaves the memory of a queue alone.
-/

namespace Dnvme.Driver.CqInvariant

open Dnvme.Lib.Results
open Dnvme.Driver
open Dnvme.Driver.CqScan
open Dnvme.Driver.PagesHeld
open Dnvme.Lib.Ownership
open Dnvme.Lib.PhasedRing

/-! ## A property of all queues -/

/-- Every completion queue has the property. -/
def AllCqs (good : NvmeCq → Prop) (ndev : NvmeDevice) : Prop :=
  ∀ id cq, ndev.findCq id = some cq → good cq

/-- A property that every change of a completion queue keeps. -/
structure CqClosed (good : NvmeCq → Prop) : Prop where
  new : ∀ (prep : NvmePrepCq) (dma : Nat), prep.elements ≠ 0 →
    prep.elements ≤ 2 ^ 16 → good (prep.queue nvmeCqes dma)
  tail : ∀ {cq : NvmeCq} (tail : Nat), good cq →
    good { cq with tailPtr := tail }
  head : ∀ {cq : NvmeCq} (count : Nat), good cq →
    good (updateCqHead cq count)
  entries : ∀ {cq : NvmeCq} (entries : Nat → NvmeCompletion), good cq →
    good { cq with entries := entries }
  create : ∀ {cq : NvmeCq} (env : SubmitEnv) (cmd : Nvme64bCmd)
    (ccmd : NvmeCommonCommand) (object : Nat) (paged : Bool) (id : Nat),
    good cq → good (createdCq env cmd ccmd object paged id cq)
  reinit : ∀ {cq : NvmeCq}, good cq →
    good { cq with
      headPtr := 0
      tailPtr := 0
      pbitNewEntry := 1
      irqEnabled := 1
      entries := fun _ => .zero }

section All

variable {good : NvmeCq → Prop} {ndev next : NvmeDevice}

theorem AllCqs.of_cqs (all : AllCqs good ndev) (same : next.cqs = ndev.cqs) :
    AllCqs good next := by
  intro id cq found
  rw [findCq_of_cqs_eq same] at found
  exact all id cq found

theorem AllCqs.setCq (all : AllCqs good ndev) (id : Nat) {cq : NvmeCq}
    (new : good cq) : AllCqs good (ndev.setCq id cq) := by
  intro other queue found
  rcases findCq_setCq_cases found with ⟨_, rfl⟩ | ⟨_, old⟩
  · exact new
  · exact all other queue old

theorem AllCqs.shrink (all : AllCqs good ndev)
    (shrinks : CqsShrink ndev.cqs next.cqs) : AllCqs good next := by
  intro id cq found
  rcases shrinks id with same | gone
  · exact all id cq (same.symm.trans found)
  · exact absurd (found.symm.trans gone) (by simp)

theorem AllCqs.dnvmeReleaseCq (all : AllCqs good ndev) (cq : NvmeCq) :
    AllCqs good (dnvmeReleaseCq ndev cq) := by
  intro id queue found
  exact all id queue (findCq_dnvmeReleaseCq found).2

theorem AllCqs.of_added (closed : CqClosed good) (all : AllCqs good ndev)
    (depth : ndev.qDepth ≤ 2 ^ 16) (added : CqAdded ndev next) :
    AllCqs good next := by
  rcases added with rfl | ⟨prep, dma, _, elements, rfl⟩
  · exact all
  · have small : prep.elements ≤ 2 ^ 16 :=
      elements.2.trans (max_le depth (by decide))
    exact all.setCq _ (closed.new prep dma elements.1 small)

theorem AllCqs.dnvmePrepareCq (closed : CqClosed good)
    (all : AllCqs good ndev) (depth : ndev.qDepth ≤ 2 ^ 16)
    (env : AllocQueueEnv) (icqAlloc : Bool) (prep : NvmePrepCq) :
    AllCqs good (dnvmePrepareCq env icqAlloc ndev prep).2 := by
  unfold Driver.dnvmePrepareCq
  split
  · exact all
  · rename_i accepted
    split
    · exact all
    · split
      · exact all
      · split
        · exact all.of_cqs rfl
        · rename_i added allocated
          have more := all.of_added closed depth
            (CqAdded.of_alloc (elementsOk_of_prepare accepted) allocated)
          split
          · exact more
          · dsimp only
            split
            · split
              · exact more.of_cqs rfl
              · refine AllCqs.dnvmeReleaseCq ?_ _
                exact more.of_cqs rfl
            · exact more.of_cqs rfl

theorem AllCqs.reapClosed (closed : CqClosed good) :
    ReapClosed (AllCqs good) where
  scan := by
    intro ndev next cqid remain cq all found scanned
    rcases scan_eq scanned with ⟨tail, rfl, _⟩
    exact all.setCq _ (closed.tail tail (all cqid cq found))
  head := by
    intro ndev cqid count all
    unfold NvmeDevice.updateCqHead
    split
    · exact all
    · rename_i cq found
      exact all.setCq _ (closed.head count (all cqid cq found))
  complete := by
    intro ndev entry all
    exact all.shrink (handleCmdCompletion_cqsShrink ndev entry)
  clear := by
    intro ndev irqNo all
    exact all.of_cqs rfl
  unmask := by
    intro ndev irqNo all
    exact all.of_cqs rfl

theorem AllCqs.clearSq {saveAq : Bool} {id : Nat} (all : AllCqs good ndev)
    (done : clearSq saveAq ndev id = .ok next) : AllCqs good next := by
  unfold Driver.clearSq at done
  split at done
  · cases done
    exact all
  · split at done
    · unfold dnvmeReinitAsq dnvmeDeleteCmdList at done
      dsimp only at done
      split at done
      · cases done
      · cases done
        exact all.of_cqs (NvmeDevice.releaseCmds_cqs _ _)
    · cases done
      exact all.of_cqs (dnvmeReleaseSq_cqs _ _)

theorem AllCqs.clearCq (closed : CqClosed good) {saveAq : Bool} {id : Nat}
    (all : AllCqs good ndev) (done : clearCq saveAq ndev id = .ok next) :
    AllCqs good next := by
  unfold Driver.clearCq at done
  split at done
  · cases done
    exact all
  · rename_i cq found
    split at done
    · unfold dnvmeReinitAcq at done
      split at done
      · cases done
      · cases done
        exact all.setCq _ (closed.reinit (all id cq found))
    · dsimp only at done
      split at done
      · cases done
      · cases done
        exact all.dnvmeReleaseCq cq

theorem AllCqs.dnvmeCleanupDevice (closed : CqClosed good) {saveAq : Bool}
    (all : AllCqs good ndev)
    (done : dnvmeCleanupDevice ndev saveAq = .ok next) :
    AllCqs good next := by
  unfold Driver.dnvmeCleanupDevice at done
  rcases ok_of_bind done with ⟨cleared, clears, rest⟩
  unfold dnvmeDeleteAllQueues at clears
  rcases ok_of_bind clears with ⟨noSqs, first, second⟩
  have one : AllCqs good noSqs := by
    refine foldlM_keeps (fun all turn => all.clearSq turn) _ ?_ first
    exact all.of_cqs rfl
  have two : AllCqs good cleared :=
    foldlM_keeps (fun all turn => all.clearCq closed turn) _ one second
  rcases deleteMetas_changed cleared.metas.keys.mergeSort cleared with
    ⟨_, _, _, same⟩
  cases rest
  rw [same]
  exact two.of_cqs rfl

theorem AllCqs.dnvmeSetDeviceState (closed : CqClosed good)
    {ready ret : Int} {state : NvmeState} (all : AllCqs good ndev)
    (done : dnvmeSetDeviceState ready ndev state = .ok (ret, next)) :
    AllCqs good next := by
  refine dnvmeSetDeviceState_keeps ?_ ?_ done
  · intro enable
    exact all.of_cqs rfl
  · intro saveAq cleaned cleans
    refine AllCqs.dnvmeCleanupDevice closed ?_ cleans
    exact all.of_cqs rfl

end All

/-! ## All runs -/

theorem releasePrps_qDepth (ndev : NvmeDevice) (prps : Option Nat) :
    (ndev.releasePrps prps).qDepth = ndev.qDepth := by
  cases prps with
  | none => rfl
  | some id => rfl

theorem releaseCmds_qDepth (ndev : NvmeDevice) (cmds : List NvmeCmd) :
    (ndev.releaseCmds cmds).qDepth = ndev.qDepth :=
  releaseCmds_keeps NvmeDevice.qDepth releasePrps_qDepth cmds ndev

theorem deleteCmd_qDepth (ndev : NvmeDevice) (sqId : Nat) (cmd : NvmeCmd) :
    (ndev.deleteCmd sqId cmd).qDepth = ndev.qDepth := by
  unfold NvmeDevice.deleteCmd
  split
  · rfl
  · rfl

theorem Effect.qDepth {rule : SubmitRule} {ndev next : NvmeDevice}
    (effect : Effect rule ndev next) : next.qDepth = ndev.qDepth := by
  cases effect with
  | quiet same => exact same.qDepth
  | sqData id found kept => rfl
  | cqData id found kept => rfl
  | newSq prep dma absent elements => rfl
  | newCq prep dma absent elements => rfl
  | dropSq found =>
      unfold dnvmeReleaseSq dnvmeDeleteCmdList
      dsimp only
      split
      · exact releaseCmds_qDepth _ _
      · exact (releasePrps_qDepth _ _).trans (releaseCmds_qDepth _ _)
  | dropCq found =>
      unfold dnvmeReleaseCq
      dsimp only
      split
      · rfl
      · exact releasePrps_qDepth _ _
  | clearList id found => exact releaseCmds_qDepth _ _
  | complete id found member general =>
      exact (deleteCmd_qDepth _ _ _).trans (releasePrps_qDepth _ _)
  | forget found member special => exact deleteCmd_qDepth _ _ _
  | submit accepted meets => exact accepted.qDepth

theorem Reachable.qDepth {rule : SubmitRule} {ndev : NvmeDevice}
    (reachable : Reachable rule ndev) : ndev.qDepth ≤ 2 ^ 16 :=
  reachable.invariant (fun _ _ _ _ small => small)
    fun effect small => (Effect.qDepth effect).le.trans small

section Runs

variable {good : NvmeCq → Prop} {ndev next : NvmeDevice}

/-- Every operation keeps what every change of a queue keeps. -/
theorem AllCqs.step (closed : CqClosed good) {op : Op} {ret : Int}
    (all : AllCqs good ndev) (depth : ndev.qDepth ≤ 2 ^ 16)
    (done : step ndev op = .ok (ret, next)) : AllCqs good next := by
  replace done := (perform_of_step done).1
  cases op with
  | createAsq env elements =>
      rw [snd_of_ok done]
      rcases @dnvmeCreateAsq_added ndev env elements with
        same | ⟨prep, dma, _, _, same⟩
      · rw [same]
        exact all
      · rw [same]
        exact all.of_cqs rfl
  | createAcq env elements =>
      rw [snd_of_ok done]
      exact all.of_added closed depth (dnvmeCreateAcq_added env elements)
  | prepareSq env prep =>
      rw [snd_of_ok done]
      rcases @dnvmePrepareSq_added ndev env prep with
        same | ⟨prep, dma, _, _, same⟩
      · rw [same]
        exact all
      · rw [same]
        exact all.of_cqs rfl
  | prepareCq env icqAlloc prep =>
      rw [snd_of_ok done]
      exact all.dnvmePrepareCq closed depth env icqAlloc prep
  | ringSqDoorbell sqId =>
      rw [snd_of_ok done]
      unfold dnvmeRingSqDoorbell
      split
      · exact all
      · exact all.of_cqs rfl
  | submit64bCmd env cmd =>
      rcases dnvmeSubmit64bCmd_cases done with ⟨_, refused⟩ |
        ⟨_, sq, ccmd, filled, prps, accepted⟩
      · rcases refused with ⟨_, _, rfl | ⟨_, _, _, _, rfl⟩⟩
        · exact all.of_cqs rfl
        · exact all.of_cqs rfl
      · intro id cq found
        rw [accepted.findCq] at found
        rcases Option.map_eq_some_iff.mp found with ⟨old, here, rfl⟩
        exact closed.create _ _ _ _ _ _ (all id old here)
  | emptyCmdList sqId =>
      rw [snd_of_ok done]
      unfold emptyCmdList
      split
      · exact all
      · exact all.of_cqs (NvmeDevice.releaseCmds_cqs _ _)
  | inquiryCqe copyIn copyOut cqid =>
      rw [Driver.perform] at done
      split at done
      · cases done
      · rename_i asked
        cases done
        exact (AllCqs.reapClosed closed).dnvmeInquiryCqe all asked
  | reapCqeLegacy env reap =>
      rw [Driver.perform] at done
      unfold ReapResult.toStep at done
      split at done
      · cases done
      · rename_i reaped
        cases done
        exact (AllCqs.reapClosed closed).dnvmeReapCqeLegacy all reaped
  | gnlReapCqe copyOk cqid expect buf size =>
      rw [Driver.perform] at done
      unfold ReapResult.toStep at done
      split at done
      · cases done
      · rename_i reaped
        cases done
        exact (AllCqs.reapClosed closed).dnvmeGnlCmdReapCqe all reaped
  | createMetaNode env create =>
      rcases dnvmeCreateMetaNode_changed done with ⟨_, _, _, rfl⟩
      exact all.of_cqs rfl
  | deleteMetaId id =>
      rcases dnvmeDeleteMetaId_changed ndev id with ⟨_, _, _, same⟩
      cases done
      rw [same]
      exact all.of_cqs rfl
  | setInterrupt env irq =>
      cases done
      exact all.of_cqs rfl
  | maskInterrupt irqNo =>
      cases done
      exact all.of_cqs rfl
  | unmaskInterrupt irqNo =>
      cases done
      exact all.of_cqs rfl
  | setDeviceState ready state => exact all.dnvmeSetDeviceState closed done
  | release =>
      rw [Driver.perform] at done
      split at done
      · cases done
      · rename_i cleaned
        cases done
        exact all.dnvmeCleanupDevice closed cleaned
  | interrupt intVec =>
      cases done
      exact all.of_cqs rfl
  | bottomHalf irqId =>
      cases done
      exact all.of_cqs rfl
  | post cqid slot entry =>
      cases done
      unfold NvmeDevice.postEntry
      split
      · exact all
      · rename_i cq found
        exact all.setCq _ (closed.entries _ (all cqid cq found))

/-- What every change of a completion queue keeps holds of all of them. -/
theorem Reachable.allCqs {rule : SubmitRule} (closed : CqClosed good)
    (reachable : Reachable rule ndev) : AllCqs good ndev := by
  have start := reachable
  obtain ⟨qDepth, capCqr, cmbSqs, cmbCqs, small, run⟩ := start
  clear reachable
  induction run with
  | refl =>
      intro id cq found
      cases found
  | tail before moves all =>
      obtain ⟨op, ret, _, done⟩ := moves
      exact all.step closed
        (Reachable.qDepth ⟨qDepth, capCqr, cmbSqs, cmbCqs, small, before⟩)
        done

end Runs

/-! ## Well-formed queues -/

/-- A queue as the driver keeps it: the head lies in the ring, the phase is a
bit, and the size is that of its entries. -/
structure WellFormed (cq : NvmeCq) : Prop where
  sane : Sane cq
  elements : cq.elements ≤ 2 ^ 16
  cqes : cq.cqes = nvmeCqes
  size : cq.size = cq.elements * 2 ^ nvmeCqes

theorem updateCqHead_sane {cq : NvmeCq} (sane : Sane cq) (count : Nat) :
    Sane (updateCqHead cq count) := by
  have positive := sane.positive
  have bit := sane.bit
  unfold updateCqHead
  dsimp only
  generalize u32 (cq.headPtr + count) = head
  split
  · refine ⟨?_, ?_⟩
    · have below := Nat.mod_lt head positive
      exact (Nat.mod_le _ _).trans_lt below
    · dsimp only
      split
      · decide
      · decide
  · rename_i inside
    exact ⟨(Nat.mod_le _ _).trans_lt (not_le.mp inside), bit⟩

theorem wellFormed_closed : CqClosed WellFormed where
  new := by
    intro prep dma positive small
    refine ⟨⟨Nat.pos_of_ne_zero positive, Nat.one_lt_two⟩, small, rfl, ?_⟩
    have fits : prep.elements * 2 ^ nvmeCqes < 2 ^ 32 := by
      unfold nvmeCqes
      omega
    exact Nat.mod_eq_of_lt fits
  tail := by
    intro cq tail formed
    exact ⟨⟨formed.sane.head, formed.sane.bit⟩, formed.elements, formed.cqes,
      formed.size⟩
  head := by
    intro cq count formed
    have kept := updateCqHead_kept cq count
    refine ⟨updateCqHead_sane formed.sane count, ?_, ?_, ?_⟩
    · rw [kept.elements]
      exact formed.elements
    · rw [kept.cqes]
      exact formed.cqes
    · rw [kept.size, kept.elements]
      exact formed.size
  entries := by
    intro cq entries formed
    exact ⟨⟨formed.sane.head, formed.sane.bit⟩, formed.elements, formed.cqes,
      formed.size⟩
  create := by
    intro cq env cmd ccmd object paged id formed
    unfold createdCq
    split
    · split
      · exact ⟨⟨formed.sane.head, formed.sane.bit⟩, formed.elements,
          formed.cqes, formed.size⟩
      · exact ⟨⟨formed.sane.head, formed.sane.bit⟩, formed.elements,
          formed.cqes, formed.size⟩
    · exact formed
  reinit := by
    intro cq formed
    exact ⟨⟨formed.sane.positive, Nat.one_lt_two⟩, formed.elements,
      formed.cqes,
      formed.size⟩

theorem Reachable.wellFormed {rule : SubmitRule} {ndev : NvmeDevice}
    (reachable : Reachable rule ndev) : AllCqs WellFormed ndev :=
  Reachable.allCqs wellFormed_closed reachable

/-! ## What a scan has read -/

/-- A scan that returned has walked over fresh entries to a stale one. -/
theorem scanCqe_inversion {size : Nat} {slot : Nat → Option NvmeCompletion}
    (positive : 0 < size) (small : size < 2 ^ 16) (fuel : Nat) :
    ∀ {index remain tail total : Nat},
      scanCqe slot size fuel (index % size) (lapPhase size index) remain =
        .ok (tail, total) →
      ∃ distance, total = remain + distance ∧
        tail = (index + distance) % size ∧
        (∀ k, k < distance → ∃ entry,
          slot ((index + k) % size) = some entry ∧
            entry.phase = lapPhase size (index + k)) ∧
        ∃ entry, slot ((index + distance) % size) = some entry ∧
          entry.phase ≠ lapPhase size (index + distance) := by
  induction fuel with
  | zero =>
      intro index remain tail total done
      cases done
  | succ fuel ih =>
      intro index remain tail total done
      have below := Nat.mod_lt index positive
      rw [scanCqe] at done
      split at done
      · cases done
      · rename_i entry found
        split at done
        · rename_i fresh
          have next := advance_place positive index
          have word : u16 (index % size + 1) = index % size + 1 :=
            Nat.mod_eq_of_lt (by omega)
          unfold advance place at next
          dsimp only at next
          rw [word] at done
          have rest : scanCqe slot size fuel ((index + 1) % size)
              (lapPhase size (index + 1)) (remain + 1) =
                .ok (tail, total) := by
            split at next
            · rename_i wraps
              rw [Prod.mk.injEq] at next
              rw [if_pos wraps] at done
              rw [← next.1, ← next.2]
              exact done
            · rename_i stays
              rw [Prod.mk.injEq] at next
              rw [if_neg stays] at done
              rw [← next.1, ← next.2]
              exact done
          rcases ih rest with ⟨distance, count, last, walked, stops⟩
          have shift (k : Nat) : index + 1 + k = index + (k + 1) := by omega
          rw [shift] at last stops
          refine ⟨distance + 1, by omega, last, ?_, stops⟩
          intro k passed
          cases k with
          | zero => exact ⟨entry, found, fresh⟩
          | succ k =>
              rw [← shift]
              exact walked k (by omega)
        · rename_i stale
          cases done
          exact ⟨0, rfl, rfl, fun k none_ => absurd none_ (Nat.not_lt_zero k),
            entry, found, stale⟩

/-- The memory of the entries from the head up to the `count`-th one. -/
def Readable (ndev : NvmeDevice) (cq : NvmeCq) (count : Nat) : Prop :=
  ∀ k, k ≤ count →
    ndev.cqSlot cq (slotFrom cq k) = some (cq.entries (slotFrom cq k))

/-- A scan returns the number of new entries, and it returns when their
memory is there. -/
theorem dnvmeGetCqeRemain_iff {ndev : NvmeDevice} {cq scanned : NvmeCq}
    {count : Nat} (sane : Sane cq) (small : cq.elements < 2 ^ 16) :
    dnvmeGetCqeRemain ndev cq = .ok (count, scanned) ↔
      scanned = { cq with tailPtr := slotFrom cq count } ∧
        Readable ndev cq count ∧ RunLength cq count := by
  have head := slotFrom_eq cq 0
  have phase := expectedPhase_eq sane 0
  rw [slotFrom_zero sane, Nat.add_zero] at head
  rw [expectedPhase_zero sane, Nat.add_zero] at phase
  constructor
  · intro done
    rw [dnvmeGetCqeRemain] at done
    split at done
    · cases done
    · rename_i tail remain walk
      cases done
      rw [head, phase] at walk
      rcases scanCqe_inversion sane.positive small _ walk with
        ⟨distance, total, last, walked, entry, found, stale⟩
      rw [Nat.zero_add] at total
      subst total
      rw [← slotFrom_eq] at last found
      refine ⟨by rw [last], ?_, ?_, ?_⟩
      · intro k reached
        rcases Nat.lt_or_eq_of_le reached with before | here
        · rcases walked k before with ⟨other, there, _⟩
          rw [← slotFrom_eq] at there
          rw [there, entries_of_cqSlot there]
        · rw [here, found, entries_of_cqSlot found]
      · intro k before
        rcases walked k before with ⟨other, there, same⟩
        rw [← slotFrom_eq] at there
        rw [Fresh, entries_of_cqSlot there, same, expectedPhase_eq sane]
      · rw [Fresh, entries_of_cqSlot found, expectedPhase_eq sane]
        exact stale
  · rintro ⟨rfl, readable, run⟩
    have bound := run.le_elements sane
    have walk := @scanCqe_walk cq.elements (start cq + count)
      (ndev.cqSlot cq) sane.positive count scanFuel (start cq) 0 rfl
      (by unfold scanFuel; omega)
    rw [← slotFrom_eq cq count, Nat.zero_add, ← head, ← phase] at walk
    rw [dnvmeGetCqeRemain, walk]
    · intro k reached below
      obtain ⟨n, rfl⟩ := Nat.exists_eq_add_of_le reached
      rw [← slotFrom_eq, ← expectedPhase_eq sane]
      exact ⟨lt_of_le_of_lt (slotFrom_lt sane n) small, _,
        readable n (by omega), run.fresh n (by omega)⟩
    · rw [← expectedPhase_eq sane]
      exact ⟨_, readable count (le_refl _), run.ends⟩

/-! ## The memory of a queue under completions -/

/-- Sets of pages stay as they are or are released. -/
def HeapShrinks (before after : XArray NvmePrps) : Prop :=
  ∀ id prps, after.lookup id = some prps → before.lookup id = some prps

theorem HeapShrinks.refl (heap : XArray NvmePrps) : HeapShrinks heap heap :=
  fun _ _ found => found

theorem HeapShrinks.trans {first second third : XArray NvmePrps}
    (one : HeapShrinks first second) (two : HeapShrinks second third) :
    HeapShrinks first third :=
  fun id prps found => one id prps (two id prps found)

theorem releasePrps_heap (ndev : NvmeDevice) (prps : Option Nat) :
    HeapShrinks ndev.prpsHeap (ndev.releasePrps prps).prpsHeap := by
  cases prps with
  | none => exact .refl _
  | some key => exact fun id prps found => (lookup_erase_some found).2

theorem releaseCmds_heap (cmds : List NvmeCmd) (ndev : NvmeDevice) :
    HeapShrinks ndev.prpsHeap (ndev.releaseCmds cmds).prpsHeap := by
  induction cmds generalizing ndev with
  | nil => exact .refl _
  | cons cmd cmds ih =>
      rw [NvmeDevice.releaseCmds_cons]
      exact (releasePrps_heap ndev cmd.prps).trans (ih _)

theorem dnvmeDeleteSq_heap (ndev : NvmeDevice) (sqId : Nat) :
    HeapShrinks ndev.prpsHeap (dnvmeDeleteSq ndev sqId).prpsHeap := by
  unfold dnvmeDeleteSq
  split
  · exact .refl _
  · unfold dnvmeReleaseSq dnvmeDeleteCmdList
    dsimp only
    split
    · exact releaseCmds_heap _ _
    · refine HeapShrinks.trans ?_ (releasePrps_heap _ _)
      exact releaseCmds_heap _ _

theorem dnvmeDeleteCq_heap (ndev : NvmeDevice) (cqId : Nat) :
    HeapShrinks ndev.prpsHeap (dnvmeDeleteCq ndev cqId).prpsHeap := by
  unfold dnvmeDeleteCq
  split
  · exact .refl _
  · unfold dnvmeReleaseCq
    dsimp only
    split
    · exact .refl _
    · exact releasePrps_heap _ _

theorem handleCmdCompletion_heap (ndev : NvmeDevice)
    (entry : NvmeCompletion) :
    HeapShrinks ndev.prpsHeap (handleCmdCompletion ndev entry).2.prpsHeap := by
  have completed := handleCmdCompletion_completed ndev entry
  generalize (handleCmdCompletion ndev entry).2 = next at completed ⊢
  cases completed with
  | noQueue missing => exact .refl _
  | noCommand found missing => exact .refl _
  | general found here plain =>
      rw [NvmeDevice.deleteCmd_prpsHeap]
      exact releasePrps_heap _ _
  | kept found here admin special stays =>
      rw [NvmeDevice.deleteCmd_prpsHeap]
      exact .refl _
  | freedSq found here admin type frees target =>
      rw [NvmeDevice.deleteCmd_prpsHeap]
      exact dnvmeDeleteSq_heap _ _
  | freedCq found here admin type frees target =>
      rw [NvmeDevice.deleteCmd_prpsHeap]
      exact dnvmeDeleteCq_heap _ _

/-- The queue still holds its pages, so nobody else has released them. -/
theorem cqSpan_of_heap {ndev next : NvmeDevice} {cqid : Nat} {cq : NvmeCq}
    (held : Held next) (found : next.findCq cqid = some cq)
    (shrinks : HeapShrinks ndev.prpsHeap next.prpsHeap) :
    next.cqSpan cq = ndev.cqSpan cq := by
  unfold NvmeDevice.cqSpan
  split
  · rfl
  · unfold NvmeDevice.prpsSpan
    cases holds : cq.prps with
    | none => rfl
    | some id =>
        have live : Live next id := by
          refine @Sound.live _ _ _ held.sound (.completionQueue cqid) _ ?_
          change cqPrps next cqid = some id
          rw [cqPrps_eq found, holds]
        rcases Option.isSome_iff_exists.mp live with ⟨prps, here⟩
        dsimp only
        rw [here, shrinks id prps here]

theorem Reachable.held {rule : SubmitRule} {ndev : NvmeDevice}
    (reachable : Reachable rule ndev) : Held ndev :=
  reachable.invariant (fun _ _ _ _ _ => Held.fresh _ _ _ _)
    fun effect held => Held.effect effect held

end Dnvme.Driver.CqInvariant
