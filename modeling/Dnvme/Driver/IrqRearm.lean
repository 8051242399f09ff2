import Dnvme.Driver.ReapAccounting

/-!
# Re-arming an interrupt

An interrupt is masked when it fires, until all entries on it have been
reaped.  Reaping works on one completion queue: both paths unmask its
interrupt as soon as this queue is empty, whatever waits in the other queues
that share the interrupt.  So an interrupt is re-armed at the right moment
exactly when the other queues are empty before the reap, and, on the legacy
path, the scan has counted all entries.
-/

namespace Dnvme.Driver.IrqRearm

open Dnvme.Driver
open Dnvme.Driver.CqScan
open Dnvme.Driver.CqInvariant
open Dnvme.Driver.PagesHeld
open Dnvme.Driver.IrqBookkeeping
open Dnvme.Driver.ReapInvariant
open Dnvme.Driver.ReapAgreement
open Dnvme.Driver.ReapAccounting

/-! ## Interrupts with nothing left to reap -/

/-- The queues among these are the old ones up to their tails, and their
memory is the old one. -/
structure Survives (among : Nat → Prop) (ndev next : NvmeDevice) : Prop where
  cqs : ∀ id later, among id → next.findCq id = some later →
    ∃ cq tail, ndev.findCq id = some cq ∧ later = { cq with tailPtr := tail }
  heap : HeapShrinks ndev.prpsHeap next.prpsHeap

section Surviving

variable {among : Nat → Prop} {ndev next : NvmeDevice}

theorem Survives.of_findCq
    (cqs : ∀ id, among id → next.findCq id = ndev.findCq id ∨
      next.findCq id = none)
    (heap : HeapShrinks ndev.prpsHeap next.prpsHeap) :
    Survives among ndev next := by
  refine ⟨fun id later member found => ?_, heap⟩
  rcases cqs id member with same | gone
  · exact ⟨later, later.tailPtr, same.symm.trans found, rfl⟩
  · rw [gone] at found
    cases found

theorem Survives.refl (among : Nat → Prop) (ndev : NvmeDevice) :
    Survives among ndev ndev :=
  .of_findCq (fun _ _ => Or.inl rfl) (.refl _)

theorem Survives.trans {last : NvmeDevice} (one : Survives among ndev next)
    (two : Survives among next last) : Survives among ndev last := by
  refine ⟨fun id later member found => ?_, one.heap.trans two.heap⟩
  obtain ⟨middle, tail, here, rfl⟩ := two.cqs id later member found
  obtain ⟨cq, other, there, rfl⟩ := one.cqs id middle member here
  exact ⟨cq, tail, there, rfl⟩

theorem Survives.mono {fewer : Nat → Prop}
    (survives : Survives among ndev next)
    (within : ∀ id, fewer id → among id) : Survives fewer ndev next :=
  ⟨fun id later member => survives.cqs id later (within id member),
    survives.heap⟩

theorem Survives.scan {cqid remain : Nat} {cq : NvmeCq}
    (found : ndev.findCq cqid = some cq)
    (scanned : ndev.scan cqid cq = .ok (remain, next)) :
    Survives among ndev next := by
  obtain ⟨tail, rfl, _⟩ := scan_eq scanned
  refine ⟨fun id later _ here => ?_, .refl _⟩
  rcases findCq_setCq_cases here with ⟨rfl, rfl⟩ | ⟨_, old⟩
  · exact ⟨cq, tail, found, rfl⟩
  · exact ⟨later, later.tailPtr, old, rfl⟩

theorem Survives.scanIcqs (icqs : List Nat) :
    ∀ {ndev next : NvmeDevice} {result : Except Int Bool},
      scanIcqs ndev icqs = .ok (result, next) →
      Survives among ndev next := by
  induction icqs with
  | nil =>
      intro ndev next result done
      cases done
      exact .refl _ _
  | cons cqid rest ih =>
      intro ndev next result done
      rw [Driver.scanIcqs] at done
      split at done
      · cases done
        exact .refl _ _
      · rename_i cq found
        split at done
        · cases done
        · rename_i remain scanned scans
          have one := @Survives.scan among _ _ _ _ _ found scans
          split at done
          · cases done
            exact one
          · exact one.trans (ih done)

theorem Survives.dnvmeResetIsrFlag {irqNo : Nat} {ret : Int} {cleared : Bool}
    (done : dnvmeResetIsrFlag ndev irqNo = .ok (ret, cleared, next)) :
    Survives among ndev next := by
  unfold Driver.dnvmeResetIsrFlag at done
  split at done
  · cases done
    exact .refl _ _
  · split at done
    · cases done
    · rename_i scanned
      cases done
      exact .scanIcqs _ scanned
    · rename_i scanned
      cases done
      exact .scanIcqs _ scanned
    · rename_i scanned
      have survives := @Survives.scanIcqs among _ _ _ _ scanned
      cases done
      exact survives.trans (.of_findCq (fun _ _ => Or.inl rfl) (.refl _))

theorem Survives.copyCqData {cqid : Nat} {copyOk : Nat → Bool} (count : Nat) :
    ∀ {slot : Nat} {ndev : NvmeDevice} {copied : List NvmeCompletion}
      {copy : CopyResult},
      copyCqData cqid copyOk count slot ndev copied = .ok copy →
      Survives among ndev copy.ndev := by
  induction count with
  | zero =>
      intro slot ndev copied copy done
      cases done
      exact .refl _ _
  | succ count ih =>
      intro slot ndev copied copy done
      rw [Driver.copyCqData] at done
      split at done
      · cases done
      · split at done
        · cases done
        · rename_i entry _
          have one : Survives among ndev (handleCmdCompletion ndev entry).2 :=
            .of_findCq
              (fun id _ => handleCmdCompletion_cqsShrink ndev entry id)
              (handleCmdCompletion_heap ndev entry)
          dsimp only at done
          split at done
          · cases done
          · split at done
            · cases done
              exact one
            · split at done
              · cases done
                exact one
              · exact one.trans (ih done)

theorem Survives.updateCqHead (ndev : NvmeDevice) (cqid count : Nat) :
    Survives (· ≠ cqid) ndev
      (if count = 0 then ndev else ndev.updateCqHead cqid count) := by
  split
  · exact .refl _ _
  · unfold NvmeDevice.updateCqHead
    split
    · exact .refl _ _
    · refine .of_findCq (fun id other => Or.inl ?_) (.refl _)
      exact NvmeDevice.findCq_setCq_ne _ _ other

end Surviving

/-! ## What a reap that re-arms has done -/

section Rearming

variable {ndev next : NvmeDevice} {cqid irqNo : Nat} {counted : Prop}

end Rearming

/-! ## What the legacy path counts -/

section Counting

variable {ndev : NvmeDevice} {cq scanned : NvmeCq} {remain : Nat}

end Counting

/-! ## The two paths -/

section Paths

variable {ndev : NvmeDevice} {cqid irqNo : Nat} {cq : NvmeCq}
  {result : ReapResult}

end Paths

/-! ## Every reap of every run -/

section Runs

variable {ndev : NvmeDevice} {op : Op} {cqid irqNo : Nat}
  {result : ReapResult}

end Runs

end Dnvme.Driver.IrqRearm
