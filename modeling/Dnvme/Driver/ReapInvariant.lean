import Dnvme.Driver.CqInvariant
import Dnvme.Driver.IrqBookkeeping

/-!
# What holds in the middle of a reap

A reap handles completions, and these can delete queues.  The interrupts stay
all the same, the admin queue stays, the books are in order and every queue
that is left holds its pages.  From this follows when the flag of an interrupt
can be reset without an error.
-/

namespace Dnvme.Driver.ReapInvariant

open Dnvme.Driver
open Dnvme.Driver.CqScan
open Dnvme.Driver.CqInvariant
open Dnvme.Driver.PagesHeld
open Dnvme.Driver.IrqBookkeeping

/-! ## What a reap leaves in place -/

/-- The interrupts and the admin queue are those of the start. -/
structure Steady (start ndev : NvmeDevice) : Prop where
  ids : ndev.irqSet.irqList.map NvmeIrq.irqId =
    start.irqSet.irqList.map NvmeIrq.irqId
  type : ndev.irqSet.irqType = start.irqSet.irqType
  admin : (ndev.findCq nvmeAqId).isSome = (start.findCq nvmeAqId).isSome

theorem Steady.refl (start : NvmeDevice) : Steady start start :=
  ⟨rfl, rfl, rfl⟩

section Steadiness

variable {start ndev next : NvmeDevice}

theorem Steady.of_eq (steady : Steady start ndev)
    (cqs : next.cqs = ndev.cqs) (irqSet : next.irqSet = ndev.irqSet) :
    Steady start next := by
  refine ⟨?_, ?_, ?_⟩
  · rw [irqSet]
    exact steady.ids
  · rw [irqSet]
    exact steady.type
  · rw [findCq_of_cqs_eq cqs]
    exact steady.admin

theorem Steady.setCq (steady : Steady start ndev) {id : Nat}
    {cq changed : NvmeCq} (found : ndev.findCq id = some cq) :
    Steady start (ndev.setCq id changed) := by
  refine ⟨steady.ids, steady.type, ?_⟩
  rw [← steady.admin]
  by_cases admin : nvmeAqId = id
  · rw [admin, NvmeDevice.findCq_setCq, found]
    rfl
  · rw [NvmeDevice.findCq_setCq_ne _ _ admin]

theorem Steady.updateIrq (steady : Steady start ndev) (irqId : Nat)
    {change : NvmeIrq → NvmeIrq}
    (keeps : ∀ irq, (change irq).irqId = irq.irqId) :
    Steady start { ndev with
      irqSet := ndev.irqSet.updateIrq irqId change } :=
  ⟨(map_updateFirst NvmeIrq.irqId _ _ keeps _).trans steady.ids,
    steady.type, steady.admin⟩

theorem Steady.dnvmeDeleteCq (steady : Steady start ndev)
    (keyed : Keyed ndev) {cqId : Nat} (target : cqId ≠ nvmeAqId) :
    Steady start (dnvmeDeleteCq ndev cqId) := by
  refine ⟨?_, ?_, ?_⟩
  · unfold Driver.dnvmeDeleteCq
    split
    · exact steady.ids
    · rw [dnvmeReleaseCq_irqSet, dnvmeDeleteIcqNode]
      refine (steady.updateIrq _ ?_).ids
      exact fun _ => rfl
  · unfold Driver.dnvmeDeleteCq
    split
    · exact steady.type
    · rw [dnvmeReleaseCq_irqSet]
      exact steady.type
  · rw [findCq_dnvmeDeleteCq keyed, if_neg (Ne.symm target)]
    exact steady.admin

theorem Steady.handleCmdCompletion (steady : Steady start ndev)
    (keyed : Keyed ndev) (entry : NvmeCompletion) :
    Steady start (handleCmdCompletion ndev entry).2 := by
  have headed (sq : NvmeSq) : Steady start (ndev.headed entry sq) :=
    steady.of_eq rfl rfl
  have deleted {ndev : NvmeDevice} (steady : Steady start ndev)
      (cmd : NvmeCmd) : Steady start (ndev.deleteCmd entry.sqId cmd) :=
    steady.of_eq (NvmeDevice.deleteCmd_cqs _ _ _)
      (NvmeDevice.deleteCmd_irqSet _ _ _)
  have completed := handleCmdCompletion_completed ndev entry
  generalize (Driver.handleCmdCompletion ndev entry).2 = next at completed ⊢
  cases completed with
  | noQueue missing => exact steady
  | noCommand found missing => exact headed _
  | general found here plain =>
      exact deleted ((headed _).of_eq (NvmeDevice.releasePrps_cqs _ _)
        (NvmeDevice.releasePrps_irqSet _ _)) _
  | kept found here admin special stays => exact deleted (headed _) _
  | freedSq found here admin type frees target =>
      refine deleted ((headed _).of_eq (dnvmeDeleteSq_cqs _ _) ?_) _
      unfold dnvmeDeleteSq
      split
      · rfl
      · exact dnvmeReleaseSq_irqSet _ _
  | freedCq found here admin type frees target =>
      have after := keyed.effect
        (@headed_effect (fun _ _ _ => True) _ _ _ found)
      exact deleted ((headed _).dnvmeDeleteCq after target) _

end Steadiness

/-- The books of a device in the middle of a reap. -/
structure InReap (start ndev : NvmeDevice) : Prop where
  order : InOrder ndev
  steady : Steady start ndev
  held : Held ndev

theorem inReap_closed (start : NvmeDevice) : ReapClosed (InReap start) where
  scan := by
    intro ndev next cqid remain cq reap found scanned
    refine ⟨reapClosed_inOrder.scan reap.order found scanned, ?_,
      Held.effect (@scan_effect (fun _ _ _ => True) _ _ _ _ _ found scanned)
        reap.held⟩
    rcases scan_eq scanned with ⟨tail, rfl, _⟩
    exact reap.steady.setCq found
  head := by
    intro ndev cqid count reap
    refine ⟨reapClosed_inOrder.head cqid count reap.order, ?_,
      (@updateCqHead_effects (fun _ _ _ => True) _ cqid count).preserve
        Held.effect reap.held⟩
    unfold NvmeDevice.updateCqHead
    split
    · exact reap.steady
    · rename_i cq found
      exact reap.steady.setCq found
  complete := by
    intro ndev entry reap
    exact ⟨reapClosed_inOrder.complete entry reap.order,
      reap.steady.handleCmdCompletion reap.order.keyed entry,
      (@handleCmdCompletion_effects (fun _ _ _ => True) _
        reap.order.keyed entry).preserve Held.effect reap.held⟩
  clear := by
    intro ndev irqNo reap
    exact ⟨reapClosed_inOrder.clear irqNo reap.order,
      reap.steady.updateIrq irqNo fun _ => rfl,
      Held.effect (@irqSet_effect (fun _ _ _ => True) _ _) reap.held⟩
  unmask := by
    intro ndev irqNo reap
    refine ⟨reapClosed_inOrder.unmask irqNo reap.order, ?_,
      Held.effect (@irqSet_effect (fun _ _ _ => True) _ _) reap.held⟩
    have shape := SameShape.writeMask ndev.irqSet irqNo false
    refine ⟨?_, shape.type.trans reap.steady.type, reap.steady.admin⟩
    have ids := congrArg (List.map Prod.fst) shape.irqs
    rw [List.map_map, List.map_map] at ids
    exact ids.trans reap.steady.ids

theorem Reachable.inReap {rule : SubmitRule} {ndev : NvmeDevice}
    (reachable : Reachable rule ndev) : InReap ndev ndev :=
  ⟨Reachable.inOrder reachable, Steady.refl ndev, Reachable.held reachable⟩

/-! ## Resetting the flag -/

/-- All queues are there. -/
theorem scanIcqs_present (icqs : List Nat) :
    ∀ {ndev next : NvmeDevice} {result : Except Int Bool},
      (∀ id ∈ icqs, (ndev.findCq id).isSome) →
      scanIcqs ndev icqs = .ok (result, next) →
        ∃ empty, result = .ok empty := by
  induction icqs with
  | nil =>
      intro ndev next result _ done
      cases done
      exact ⟨true, rfl⟩
  | cons cqid rest ih =>
      intro ndev next result present done
      rcases Option.isSome_iff_exists.mp (present cqid List.mem_cons_self)
        with ⟨cq, found⟩
      rw [scanIcqs, found] at done
      dsimp only at done
      split at done
      · cases done
      · rename_i remain scanned scans
        split at done
        · cases done
          exact ⟨false, rfl⟩
        · refine ih (fun id listed => ?_) done
          rcases scan_eq scans with ⟨tail, rfl, _⟩
          by_cases same : id = cqid
          · rw [same, NvmeDevice.findCq_setCq]
            rfl
          · rw [NvmeDevice.findCq_setCq_ne _ _ same]
            exact present id (List.mem_cons_of_mem _ listed)

/-- The node of an interrupt and the admin queue, if it lists that. -/
structure CanReset (ndev : NvmeDevice) (irqNo : Nat) : Prop where
  node : irqNo ∈ ndev.irqSet.irqList.map NvmeIrq.irqId
  admin : irqNo = 0 → (ndev.findCq nvmeAqId).isSome

theorem CanReset.steady {start ndev : NvmeDevice} {irqNo : Nat}
    (can : CanReset start irqNo) (steady : Steady start ndev) :
    CanReset ndev irqNo := by
  refine ⟨?_, fun zero => ?_⟩
  · rw [steady.ids]
    exact can.node
  · rw [steady.admin]
    exact can.admin zero

theorem findIrqNodeById_of_mem {set : NvmeIrqSet} {irqNo : Nat}
    (member : irqNo ∈ set.irqList.map NvmeIrq.irqId) :
    ∃ irq ∈ set.irqList, irq.irqId = irqNo ∧
      set.findIrqNodeById irqNo = some irq := by
  cases found : set.findIrqNodeById irqNo with
  | none =>
      obtain ⟨irq, here, same⟩ := List.mem_map.mp member
      rw [NvmeIrqSet.findIrqNodeById, List.find?_eq_none] at found
      exact absurd (by simpa using same) (found irq here)
  | some irq =>
      exact ⟨irq, List.mem_of_find?_eq_some found,
        by simpa using List.find?_some found, rfl⟩

/-- In order and with its node, an interrupt is reset without an error. -/
theorem dnvmeResetIsrFlag_zero {ndev next : NvmeDevice} {irqNo : Nat}
    {ret : Int} {cleared : Bool} (books : Bookkeeping ndev)
    (can : CanReset ndev irqNo)
    (done : dnvmeResetIsrFlag ndev irqNo = .ok (ret, cleared, next)) :
    ret = 0 := by
  obtain ⟨irq, member, id, found⟩ := findIrqNodeById_of_mem can.node
  have present : ∀ cqId ∈ irq.icqList, (ndev.findCq cqId).isSome := by
    intro cqId listed
    rcases books.named irq member cqId listed with
      ⟨rfl, zero⟩ | ⟨cq, here, _⟩
    · exact can.admin (id.symm.trans zero)
    · rw [here]
      rfl
  unfold dnvmeResetIsrFlag at done
  rw [found] at done
  dsimp only at done
  split at done
  · cases done
  · rename_i scanned
    obtain ⟨empty, equal⟩ := scanIcqs_present _ present scanned
    cases equal
  · cases done
    rfl
  · cases done
    rfl

/-! ## The copy -/

/-- After a copy that returned, the queue is the one before. -/
theorem copyCqData_findCq {cqid : Nat} {cq : NvmeCq} {copyOk : Nat → Bool}
    (count : Nat) :
    ∀ {slot : Nat} {ndev : NvmeDevice} {copied : List NvmeCompletion}
      {copy : CopyResult}, ndev.findCq cqid = some cq →
      copyCqData cqid copyOk count slot ndev copied = .ok copy →
      copy.ndev.findCq cqid = some cq := by
  induction count with
  | zero =>
      intro slot ndev copied copy found done
      cases done
      exact found
  | succ count ih =>
      intro slot ndev copied copy found done
      rw [copyCqData, found] at done
      dsimp only at done
      split at done
      · cases done
      · rename_i entry here
        split at done
        · cases done
        · rename_i kept survives
          have same := findCq_handleCmdCompletion found survives
          split at done
          · cases done
            exact same
          · split at done
            · cases done
              exact same
            · exact ih same done

/-- When all copies to the user succeed, at least one entry is reaped and the
user gets as many entries. -/
theorem copyCqData_counts {cqid : Nat} (count : Nat) :
    ∀ {slot : Nat} {ndev : NvmeDevice} {copied : List NvmeCompletion}
      {copy : CopyResult},
      copyCqData cqid (fun _ => true) count slot ndev copied = .ok copy →
      copy.left ≤ count ∧ (0 < count → copy.left < count) ∧
        copy.copied.length = copied.length + (count - copy.left) := by
  induction count with
  | zero =>
      intro slot ndev copied copy done
      cases done
      exact ⟨le_refl _, fun none_ => absurd none_ (lt_irrefl 0), rfl⟩
  | succ count ih =>
      intro slot ndev copied copy done
      rw [copyCqData] at done
      split at done
      · cases done
      · split at done
        · cases done
        · dsimp only at done
          split at done
          · cases done
          · simp only [Bool.not_true, Bool.false_eq_true, if_false] at done
            split at done
            · cases done
              refine ⟨Nat.le_succ _, fun _ => Nat.lt_succ_self _, ?_⟩
              rw [List.length_append, List.length_singleton]
              dsimp only
              omega
            · rcases ih done with ⟨least, _, length⟩
              rw [List.length_append, List.length_singleton] at length
              exact ⟨by omega, fun _ => by omega, by omega⟩

theorem copyCqData_heap {cqid : Nat} {copyOk : Nat → Bool} (count : Nat) :
    ∀ {slot : Nat} {ndev : NvmeDevice} {copied : List NvmeCompletion}
      {copy : CopyResult},
      copyCqData cqid copyOk count slot ndev copied = .ok copy →
      HeapShrinks ndev.prpsHeap copy.ndev.prpsHeap := by
  induction count with
  | zero =>
      intro slot ndev copied copy done
      cases done
      exact .refl _
  | succ count ih =>
      intro slot ndev copied copy done
      rw [copyCqData] at done
      split at done
      · cases done
      · split at done
        · cases done
        · rename_i entry here
          have one := handleCmdCompletion_heap ndev entry
          dsimp only at done
          split at done
          · cases done
          · split at done
            · cases done
              exact one
            · split at done
              · cases done
                exact one
              · exact one.trans (ih done)

end Dnvme.Driver.ReapInvariant
