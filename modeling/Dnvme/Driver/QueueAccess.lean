import Dnvme.Driver.QueueMemory
import Dnvme.Driver.ReapInvariant
import Dnvme.Driver.PrpsOwnership

/-!
# Accesses to queue memory

A submission writes the slot at the tail of its queue; an inquiry and a reap
read completion queues, and a reap also reads the queues that share its
interrupt.  None of them looks whether a discontiguous queue was created.
This module shows that all accesses stay inside queue memory when the queues
are contiguous or created, in every run whose create commands bring memory
that fits.
-/

namespace Dnvme.Driver.QueueAccess

open Dnvme.Driver
open Dnvme.Driver.CqScan
open Dnvme.Driver.CqInvariant
open Dnvme.Driver.PagesHeld
open Dnvme.Driver.IrqBookkeeping
open Dnvme.Driver.QueuePages
open Dnvme.Driver.QueueMemory
open Dnvme.Driver.PrpReading
open Dnvme.Driver.PrpMerging
open Dnvme.Driver.PrpsOwnership

/-! ## Accesses of a reap -/

/-- An interrupt lists the completion queue. -/
def ListsCq (set : NvmeIrqSet) (irqNo id : Nat) : Prop :=
  ∃ irq ∈ set.irqList, irq.irqId = irqNo ∧ id ∈ irq.icqList

/-- The completion queues that a reap of `cqid` looks into: that queue, and
those that its interrupt lists when it is enabled. -/
def Touched (start : NvmeDevice) (cqid : Nat) (own : NvmeCq) (id : Nat) :
    Prop :=
  id = cqid ∨ (start.irqSet.irqType ≠ .none ∧ own.irqEnabled = 1 ∧
    ListsCq start.irqSet own.irqNo id)

section Lists

variable {set : NvmeIrqSet} {irqNo id : Nat} {ndev : NvmeDevice}

theorem ListsCq.updateIrq {key : Nat} {change : NvmeIrq → NvmeIrq}
    (unique : (set.irqList.map NvmeIrq.irqId).Nodup)
    (keeps : ∀ irq, (change irq).irqId = irq.irqId)
    (shrinks : ∀ irq, (change irq).icqList ⊆ irq.icqList)
    (listed : ListsCq (set.updateIrq key change) irqNo id) :
    ListsCq set irqNo id := by
  rcases listed with ⟨irq, member, named, here⟩
  rcases mem_updateFirst unique member with ⟨old, before, rfl⟩
  split at named
  · rename_i equal
    rw [if_pos equal] at here
    exact ⟨old, before, (keeps old).symm.trans named, shrinks old here⟩
  · rename_i other
    rw [if_neg other] at here
    exact ⟨old, before, named, here⟩

theorem ListsCq.of_shape {next : NvmeIrqSet} (same : SameShape set next)
    (listed : ListsCq next irqNo id) : ListsCq set irqNo id := by
  rcases listed with ⟨irq, member, named, here⟩
  rcases mem_of_map_eq same.irqs member with ⟨old, before, shape⟩
  have ids := congrArg Prod.fst shape
  have icqs := congrArg (fun parts => parts.2.2) shape
  dsimp only [irqShape] at ids icqs
  exact ⟨old, before, ids.trans named, icqs ▸ here⟩

theorem ListsCq.dnvmeDeleteCq {key : Nat}
    (unique : (ndev.irqSet.irqList.map NvmeIrq.irqId).Nodup)
    (listed : ListsCq (dnvmeDeleteCq ndev key).irqSet irqNo id) :
    ListsCq ndev.irqSet irqNo id := by
  unfold Driver.dnvmeDeleteCq at listed
  split at listed
  · exact listed
  · rw [dnvmeReleaseCq_irqSet] at listed
    refine ListsCq.updateIrq unique ?_ ?_ listed
    · exact fun _ => rfl
    · exact fun _ => List.erase_subset

/-- Handling a completion only takes queues off the lists. -/
theorem ListsCq.handleCmdCompletion {entry : NvmeCompletion}
    (unique : (ndev.irqSet.irqList.map NvmeIrq.irqId).Nodup)
    (listed : ListsCq (handleCmdCompletion ndev entry).2.irqSet irqNo id) :
    ListsCq ndev.irqSet irqNo id := by
  have completed := handleCmdCompletion_completed ndev entry
  generalize (Driver.handleCmdCompletion ndev entry).2 = next
    at completed listed
  cases completed with
  | noQueue missing => exact listed
  | noCommand found missing => exact listed
  | general found here plain =>
      rwa [NvmeDevice.deleteCmd_irqSet, NvmeDevice.releasePrps_irqSet]
        at listed
  | kept found here admin special stays =>
      rwa [NvmeDevice.deleteCmd_irqSet] at listed
  | freedSq found here admin type frees target =>
      rw [NvmeDevice.deleteCmd_irqSet] at listed
      unfold dnvmeDeleteSq at listed
      split at listed
      · exact listed
      · rwa [dnvmeReleaseSq_irqSet] at listed
  | @freedCq sq _ found here admin type frees target =>
      rw [NvmeDevice.deleteCmd_irqSet] at listed
      exact @ListsCq.dnvmeDeleteCq irqNo id (ndev.headed entry sq) _ unique
        listed

end Lists

/-- A device in the middle of a reap that may access its queues. -/
structure Usable (frameAt : Nat → Nat → Nat) (start : NvmeDevice)
    (cqid : Nat) (own : NvmeCq) (ndev : NvmeDevice) : Prop where
  stored : Stored frameAt ndev
  formed : AllCqs WellFormed ndev
  order : InOrder ndev
  ready : ∀ id cq, ndev.findCq id = some cq → Touched start cqid own id →
    cq.contig = true ∨ cq.created = true
  lists : ∀ id, ListsCq ndev.irqSet own.irqNo id →
    ListsCq start.irqSet own.irqNo id

section Reaps

variable {frameAt : Nat → Nat → Nat} {start ndev : NvmeDevice} {cqid : Nat}
  {own : NvmeCq}

theorem usable_closed : ReapClosed (Usable frameAt start cqid own) where
  scan := by
    intro ndev next key remain cq usable found scanned
    have stored := usable.stored.effect (scan_effect found scanned)
    have formed := (AllCqs.reapClosed wellFormed_closed).scan usable.formed
      found scanned
    have order := reapClosed_inOrder.scan usable.order found scanned
    rcases scan_eq scanned with ⟨tail, rfl, _⟩
    refine ⟨stored, formed, order, ?_, usable.lists⟩
    intro id later here touched
    rcases findCq_setCq_cases here with ⟨rfl, rfl⟩ | ⟨_, before⟩
    · exact usable.ready id cq found touched
    · exact usable.ready id later before touched
  head := by
    intro ndev key count usable
    have stored := (updateCqHead_effects key count).preserve Stored.effect
      usable.stored
    have formed := (AllCqs.reapClosed wellFormed_closed).head key count
      usable.formed
    have order := reapClosed_inOrder.head key count usable.order
    unfold NvmeDevice.updateCqHead at stored formed order ⊢
    cases found : ndev.findCq key with
    | none => exact usable
    | some cq =>
        rw [found] at stored formed order
        refine ⟨stored, formed, order, ?_, usable.lists⟩
        have kept := updateCqHead_kept cq count
        intro id later here touched
        rcases findCq_setCq_cases here with ⟨rfl, rfl⟩ | ⟨_, before⟩
        · rw [kept.contig, kept.created]
          exact usable.ready id cq found touched
        · exact usable.ready id later before touched
  complete := by
    intro ndev entry usable
    refine ⟨(handleCmdCompletion_effects usable.order.keyed entry).preserve
        Stored.effect usable.stored,
      (AllCqs.reapClosed wellFormed_closed).complete entry usable.formed,
      reapClosed_inOrder.complete entry usable.order, ?_, ?_⟩
    · intro id later here touched
      rcases handleCmdCompletion_cqsShrink ndev entry id with same | gone
      · exact usable.ready id later (same.symm.trans here) touched
      · exact absurd (here.symm.trans gone) (by simp)
    · intro id listed
      exact usable.lists id
        (ListsCq.handleCmdCompletion usable.order.books.ids listed)
  clear := by
    intro ndev irqNo usable
    refine ⟨usable.stored.effect (irqSet_effect _), usable.formed,
      reapClosed_inOrder.clear irqNo usable.order, usable.ready, ?_⟩
    intro id listed
    refine usable.lists id
      (ListsCq.updateIrq usable.order.books.ids ?_ ?_ listed)
    · exact fun _ => rfl
    · exact fun _ => List.Subset.refl _
  unmask := by
    intro ndev irqNo usable
    refine ⟨usable.stored.effect (irqSet_effect _), usable.formed,
      reapClosed_inOrder.unmask irqNo usable.order, usable.ready, ?_⟩
    intro id listed
    exact usable.lists id
      (ListsCq.of_shape (SameShape.writeMask ndev.irqSet irqNo false) listed)

/-- The scan loop stays in the ring. -/
theorem scanCqe_inside {slot : Nat → Option NvmeCompletion} {elements : Nat}
    (inside : ∀ k, k < elements → slot k ≠ none) (fuel : Nat) :
    ∀ {tail phase remain : Nat}, tail < elements →
      scanCqe slot elements fuel tail phase remain ≠
        .error .queueMemory := by
  induction fuel with
  | zero =>
      intro tail phase remain _ fails
      cases fails
  | succ fuel ih =>
      intro tail phase remain below fails
      rw [scanCqe] at fails
      split at fails
      · rename_i missing
        exact inside tail below missing
      · split at fails
        · split at fails
          · exact ih (Nat.zero_lt_of_lt below) fails
          · rename_i more
            exact ih (not_le.mp more) fails
        · cases fails

theorem scan_ne {id : Nat} {cq : NvmeCq}
    (memory : CqInMemory frameAt ndev cq) (head : cq.headPtr < cq.elements) :
    ndev.scan id cq ≠ .error .queueMemory := by
  intro fails
  have inside (k : Nat) (below : k < cq.elements) :
      ndev.cqSlot cq k ≠ none := by
    rw [memory.cqSlot below]
    exact Option.some_ne_none _
  unfold NvmeDevice.scan dnvmeGetCqeRemain at fails
  split at fails
  · rename_i oops result
    cases fails
    split at result
    · rename_i also
      cases result
      exact scanCqe_inside inside _ head also
    · cases result
  · cases fails

theorem Usable.inMemory (usable : Usable frameAt start cqid own ndev)
    {id : Nat} {cq : NvmeCq} (found : ndev.findCq id = some cq)
    (touched : Touched start cqid own id) : CqInMemory frameAt ndev cq :=
  usable.stored.cqInMemory found (usable.ready id cq found touched)

theorem Usable.scan (usable : Usable frameAt start cqid own ndev) {id : Nat}
    {cq : NvmeCq} (found : ndev.findCq id = some cq)
    (touched : Touched start cqid own id) :
    ndev.scan id cq ≠ .error .queueMemory :=
  scan_ne (usable.inMemory found touched)
    (usable.formed id cq found).sane.head

/-- The copy loop stays in the ring. -/
theorem Usable.copyCqData {cq : NvmeCq} {copyOk : Nat → Bool}
    (count : Nat) :
    ∀ {slot : Nat} {ndev : NvmeDevice} {copied : List NvmeCompletion},
      Usable frameAt start cqid own ndev → ndev.findCq cqid = some cq →
      slot < cq.elements →
      copyCqData cqid copyOk count slot ndev copied ≠
        .error .queueMemory := by
  induction count with
  | zero =>
      intro slot ndev copied _ _ _ fails
      cases fails
  | succ count ih =>
      intro slot ndev copied usable found below fails
      have memory := usable.inMemory found (Or.inl rfl)
      rw [Driver.copyCqData, found] at fails
      dsimp only at fails
      rw [memory.cqSlot below] at fails
      dsimp only at fails
      split at fails
      · cases fails
      · rename_i kept survives
        have same := findCq_handleCmdCompletion found survives
        split at fails
        · cases fails
        · split at fails
          · cases fails
          · refine ih (usable_closed.complete _ usable) same ?_ fails
            have shape := usable.stored.cqShape cqid cq found
            unfold NvmeCq.nextSlot
            split
            · exact shape.some_
            · rename_i more
              rw [shape.size, not_le] at more
              exact Nat.lt_of_mul_lt_mul_right more

theorem Usable.copyEntries {cq : NvmeCq} {copyOk : Nat → Bool}
    {count : Nat} (usable : Usable frameAt start cqid own ndev)
    (found : ndev.findCq cqid = some cq) :
    copyEntries cqid copyOk count cq.headPtr ndev ≠
      .error .queueMemory := by
  intro fails
  unfold Driver.copyEntries at fails
  split at fails
  · rename_i copies
    cases fails
    exact usable.copyCqData _ found
      (usable.formed cqid cq found).sane.head copies
  · split at fails
    · cases fails
    · cases fails

theorem Usable.scanIcqs (icqs : List Nat) :
    ∀ {ndev : NvmeDevice}, Usable frameAt start cqid own ndev →
      (∀ id ∈ icqs, Touched start cqid own id) →
      scanIcqs ndev icqs ≠ .error .queueMemory := by
  induction icqs with
  | nil =>
      intro ndev _ _ fails
      cases fails
  | cons id rest ih =>
      intro ndev usable touched fails
      rw [Driver.scanIcqs] at fails
      split at fails
      · cases fails
      · rename_i cq found
        split at fails
        · rename_i oops scans
          cases fails
          exact usable.scan found (touched id List.mem_cons_self) scans
        · rename_i remain scanned scans
          split at fails
          · cases fails
          · refine ih (usable_closed.scan usable found scans) ?_ fails
            intro other member
            exact touched other (List.mem_cons_of_mem _ member)

theorem Usable.dnvmeResetIsrFlag (usable : Usable frameAt start cqid own ndev)
    (type : start.irqSet.irqType ≠ .none) (enabled : own.irqEnabled = 1) :
    dnvmeResetIsrFlag ndev own.irqNo ≠ .error .queueMemory := by
  intro fails
  unfold Driver.dnvmeResetIsrFlag at fails
  split at fails
  · cases fails
  · rename_i irq found
    have member := List.mem_of_find?_eq_some found
    have named : irq.irqId = own.irqNo := by
      simpa using List.find?_some found
    split at fails
    · rename_i oops scans
      cases fails
      refine usable.scanIcqs _ (fun id here => ?_) scans
      exact Or.inr ⟨type, enabled, usable.lists id ⟨irq, member, named, here⟩⟩
    · cases fails
    · cases fails
    · cases fails

end Reaps

section Paths

variable {frameAt : Nat → Nat → Nat} {start ndev : NvmeDevice} {cqid : Nat}
  {own cq : NvmeCq}

/-- The queue after the head was moved, or not. -/
theorem findCq_reaped (found : ndev.findCq cqid = some cq) (count : Nat) :
    ∃ later, (if count = 0 then ndev
      else ndev.updateCqHead cqid count).findCq cqid = some later ∧
        later.irqNo = cq.irqNo ∧ later.irqEnabled = cq.irqEnabled := by
  split
  · exact ⟨cq, found, rfl, rfl⟩
  · unfold NvmeDevice.updateCqHead
    rw [found]
    exact ⟨_, NvmeDevice.findCq_setCq _ _ _, updateCqHead_irqNo _ _,
      updateCqHead_irqEnabled _ _⟩

theorem Usable.moved (usable : Usable frameAt start cqid own ndev)
    (count : Nat) :
    Usable frameAt start cqid own
      (if count = 0 then ndev else ndev.updateCqHead cqid count) := by
  split
  · exact usable
  · exact usable_closed.head cqid count usable

theorem Usable.dnvmeReapCqe (usable : Usable frameAt start cqid own ndev)
    (type : ndev.irqSet.irqType = start.irqSet.irqType)
    (found : ndev.findCq cqid = some cq) (irqNo : cq.irqNo = own.irqNo)
    (irqEnabled : cq.irqEnabled = own.irqEnabled) {copyOk : Nat → Bool}
    {expect buf size : Nat} :
    dnvmeReapCqe copyOk ndev cqid expect buf size ≠
      .error .queueMemory := by
  intro fails
  unfold Driver.dnvmeReapCqe at fails
  rw [found] at fails
  dsimp only at fails
  split at fails
  · cases fails
  · split at fails
    · cases fails
    · split at fails
      · cases fails
      · split at fails
        · rename_i oops copies
          cases fails
          exact usable.copyEntries found copies
        · rename_i copy entries
          have copies := copyCqData_of_copyEntries entries
          have after := ReapInvariant.copyCqData_findCq _ found copies
          have one := usable_closed.copyCqData _ usable copies
          rcases findCq_reaped after (expect - copy.left) with
            ⟨later, here, number, enabled⟩
          have two := one.moved (expect - copy.left)
          rw [here] at fails
          dsimp only at fails
          split at fails
          · rename_i oops scans
            cases fails
            exact two.scan here (Or.inl rfl) scans
          · rename_i remain scanned scans
            have three := usable_closed.scan two here scans
            split at fails
            · rename_i drained
              split at fails
              · rename_i oops resets
                cases fails
                rw [number, irqNo] at resets
                refine three.dnvmeResetIsrFlag (type ▸ drained.1) ?_ resets
                exact irqEnabled.symm.trans (enabled.symm.trans drained.2.1)
              · cases fails
            · cases fails

theorem Usable.dnvmeReapCqeLegacy {env : ReapEnv} {reap : NvmeReap}
    (usable : Usable frameAt ndev reap.cqid cq ndev)
    (found : ndev.findCq reap.cqid = some cq) :
    dnvmeReapCqeLegacy env ndev reap ≠ .error .queueMemory := by
  intro fails
  unfold Driver.dnvmeReapCqeLegacy at fails
  rw [found] at fails
  dsimp only at fails
  split at fails
  · cases fails
  · split at fails
    · rename_i oops scans
      cases fails
      exact usable.scan found (Or.inl rfl) scans
    · rename_i remain scanned scans
      have one := usable_closed.scan usable found scans
      rcases scan_eq scans with ⟨tail, rfl, _⟩
      have here := NvmeDevice.findCq_setCq ndev reap.cqid
        { cq with tailPtr := tail }
      split at fails
      · cases fails
      · split at fails
        · rename_i oops copies
          cases fails
          exact one.copyEntries here copies
        · rename_i copy entries
          have two := usable_closed.copyCqData _ one
            (copyCqData_of_copyEntries entries)
          split at fails
          · cases fails
          · split at fails
            · rename_i drained
              split at fails
              · rename_i oops resets
                cases fails
                exact (two.moved _).dnvmeResetIsrFlag drained.1 drained.2.1
                  resets
              · split at fails
                · cases fails
                · cases fails
            · cases fails

theorem Usable.dnvmeGnlCmdReapCqe
    (usable : Usable frameAt ndev cqid cq ndev)
    (found : ndev.findCq cqid = some cq) {copyOk : Nat → Bool}
    {expect buf size : Nat} :
    dnvmeGnlCmdReapCqe copyOk ndev cqid expect buf size ≠
      .error .queueMemory := by
  intro fails
  unfold Driver.dnvmeGnlCmdReapCqe at fails
  rw [found] at fails
  dsimp only at fails
  split at fails
  · rename_i oops scans
    cases fails
    exact usable.scan found (Or.inl rfl) scans
  · rename_i actual scanned scans
    have one := usable_closed.scan usable found scans
    rcases scan_eq scans with ⟨tail, rfl, _⟩
    have here := NvmeDevice.findCq_setCq ndev cqid
      { cq with tailPtr := tail }
    split at fails
    · exact one.dnvmeReapCqe rfl here rfl rfl fails
    · split at fails
      · exact one.dnvmeReapCqe rfl here rfl rfl fails
      · cases fails

theorem dnvmeInquiryCqe_ne {copyIn copyOut : Bool}
    (memory : ∀ cq, ndev.findCq cqid = some cq →
      CqInMemory frameAt ndev cq ∧ cq.headPtr < cq.elements) :
    dnvmeInquiryCqe copyIn copyOut ndev cqid ≠ .error .queueMemory := by
  intro fails
  unfold dnvmeInquiryCqe at fails
  split at fails
  · cases fails
  · split at fails
    · cases fails
    · rename_i cq found
      rcases memory cq found with ⟨there, head⟩
      split at fails
      · rename_i oops scans
        cases fails
        exact scan_ne there head scans
      · split at fails
        · cases fails
        · split at fails
          · cases fails
          · cases fails

end Paths

/-! ## Outcomes of a submission -/

section Outcomes

variable {env : SubmitEnv} {ndev : NvmeDevice} {cmd : Nvme64bCmd}

theorem ok_ne {α : Type} {value : α} :
    (.ok value : Outcome α) ≠ .error .queueMemory := by
  intro fails
  cases fails

theorem bind_ne {α β : Type} {first : Outcome α} {rest : α → Outcome β}
    (one : first ≠ .error .queueMemory)
    (two : ∀ value, first = .ok value → rest value ≠ .error .queueMemory) :
    (first >>= rest) ≠ .error .queueMemory := by
  cases first with
  | error oops =>
      intro fails
      cases fails
      exact one rfl
  | ok value => exact two value rfl

/-- The list loop may run out of scatter entries, and no other way. -/
theorem fillPrpList_ne (prpDma : List Nat) (cursor : PrpCursor) :
    fillPrpList prpDma cursor ≠ .error .queueMemory := by
  fun_induction fillPrpList prpDma cursor with
  | case1 cursor more link ih => exact ih
  | case2 => exact ok_ne
  | case3 => assumption
  | case4 => exact ok_ne
  | case5 =>
      intro fails
      cases fails
  | case6 => assumption
  | case7 => exact ok_ne

theorem buildPrpList_ne {list : ListEnv} {poolPages : List Nat}
    {flag : PrpListFlag} {ccmd : NvmeCommonCommand} {prps : NvmePrps}
    {bufLen dmaLen : Int} {pgOft : Fin pageSize} {dmaAddr : Nat}
    {sg : List ScatterEntry} :
    buildPrpList list poolPages flag ccmd prps bufLen pgOft dmaAddr dmaLen
      sg ≠ .error .queueMemory := by
  intro fails
  unfold buildPrpList at fails
  dsimp only at fails
  split at fails
  · cases fails
  · split at fails
    · rename_i oops loop
      cases fails
      exact fillPrpList_ne _ _ loop
    · cases fails

theorem dnvmeSetupPrps_ne {list : ListEnv} {poolPages : List Nat}
    {ccmd : NvmeCommonCommand} {prps : NvmePrps} :
    dnvmeSetupPrps list poolPages cmd ccmd prps ≠ .error .queueMemory := by
  intro fails
  unfold dnvmeSetupPrps at fails
  split at fails
  · cases fails
  · cases fails
  · extract_lets dmaAddr dmaLen pgOft bufLen pointed left dmaLeft next
      at fails
    clear_value next
    split at fails
    · split at fails
      · cases fails
      · exact buildPrpList_ne fails
    · split at fails
      · cases fails
      · split at fails
        · cases fails
        · split at fails
          · cases fails
          · split at fails
            · split at fails
              · cases fails
              · cases fails
            · split at fails
              · cases fails
              · exact buildPrpList_ne fails

theorem dnvmeCmdSetupSgl_ne {sgl : SglEnv} {poolPages : List Nat}
    {ccmd : NvmeCommonCommand} {prps : NvmePrps} :
    dnvmeCmdSetupSgl sgl poolPages cmd ccmd prps ≠ .error .queueMemory := by
  have unmapped : setupSglUnmapped sgl poolPages cmd ccmd prps ≠
      .error .queueMemory := by
    intro fails
    unfold setupSglUnmapped at fails
    split at fails
    · cases fails
    · split at fails
      · cases fails
      · split at fails
        · cases fails
        · dsimp only at fails
          split at fails
          · cases fails
          · cases fails
  intro fails
  unfold dnvmeCmdSetupSgl at fails
  split at fails
  · exact unmapped fails
  · exact unmapped fails
  · dsimp only at fails
    split at fails
    · cases fails
    · split at fails
      · split at fails
        · cases fails
        · cases fails
      · split at fails
        · cases fails
        · split at fails
          · cases fails
          · split at fails
            · cases fails
            · cases fails

theorem setupPrps_ne {poolPages : List Nat} {ccmd : NvmeCommonCommand}
    {prps : NvmePrps} :
    setupPrps env poolPages cmd ccmd prps ≠ .error .queueMemory := by
  unfold setupPrps
  split
  · exact bind_ne dnvmeCmdSetupSgl_ne fun _ _ => ok_ne
  · exact bind_ne dnvmeSetupPrps_ne fun _ _ => ok_ne

theorem dnvmeAddCmdNode_ne {ccmd : NvmeCommonCommand}
    {prps : Option NvmePrps} :
    dnvmeAddCmdNode env ndev cmd ccmd prps ≠ .error .queueMemory := by
  intro fails
  unfold dnvmeAddCmdNode at fails
  split at fails
  · cases fails
  · split at fails
    · cases fails
    · split at fails
      · cases fails
      · split at fails
        · cases fails
        · cases fails

theorem dnvmeMapUserPage_ne {map : MapEnv} {pinned : List Nat}
    {prps : NvmePrps} {addr size dir : Nat} {access : Bool} :
    dnvmeMapUserPage map pinned prps addr size dir access ≠
      .error .queueMemory := by
  intro fails
  cases dnvmeMapUserPage_error fails

theorem dnvmePrepare64bCmd_ne {ccmd : NvmeCommonCommand} :
    dnvmePrepare64bCmd env ndev cmd ccmd ≠ .error .queueMemory := by
  unfold dnvmePrepare64bCmd
  split
  · exact bind_ne dnvmeAddCmdNode_ne fun _ _ => ok_ne
  · split
    · exact ok_ne
    · refine bind_ne dnvmeMapUserPage_ne fun mapped _ => ?_
      dsimp only
      split
      · exact ok_ne
      · refine bind_ne setupPrps_ne fun result _ => ?_
        split
        · exact ok_ne
        · refine bind_ne dnvmeAddCmdNode_ne fun added _ => ?_
          split
          · exact ok_ne
          · exact ok_ne

theorem dnvmeCreateIosq_ne {ccmd : NvmeCommonCommand} :
    dnvmeCreateIosq env ndev cmd ccmd ≠ .error .queueMemory := by
  unfold dnvmeCreateIosq
  split
  · exact ok_ne
  · split
    · exact ok_ne
    · split
      · exact ok_ne
      · split
        · exact ok_ne
        · refine bind_ne dnvmePrepare64bCmd_ne fun prepared _ => ?_
          rcases prepared with ⟨ret, filled, added⟩
          dsimp only
          split
          · exact ok_ne
          · exact ok_ne

theorem dnvmeCreateIocq_ne {ccmd : NvmeCommonCommand} :
    dnvmeCreateIocq env ndev cmd ccmd ≠ .error .queueMemory := by
  unfold dnvmeCreateIocq
  split
  · exact ok_ne
  · split
    · exact ok_ne
    · split
      · exact ok_ne
      · split
        · exact ok_ne
        · split
          · exact ok_ne
          · refine bind_ne dnvmePrepare64bCmd_ne fun prepared _ => ?_
            rcases prepared with ⟨ret, filled, added⟩
            dsimp only
            split
            · exact ok_ne
            · exact ok_ne

theorem dispatchCmd_ne {ccmd : NvmeCommonCommand} :
    dispatchCmd env ndev cmd ccmd ≠ .error .queueMemory := by
  unfold dispatchCmd
  split
  · split
    · exact dnvmeCreateIosq_ne
    · exact dnvmeCreateIocq_ne
    all_goals exact dnvmePrepare64bCmd_ne
  · exact dnvmePrepare64bCmd_ne

theorem askedMptr_ne {ccmd : NvmeCommonCommand} :
    askedMptr ndev cmd ccmd ≠ .error .queueMemory := by
  unfold askedMptr
  split
  · intro fails
    unfold dnvmeFillMptr at fails
    split at fails
    · cases fails
    · split at fails
      · cases fails
      · split at fails
        · cases fails
        · cases fails
  · exact ok_ne

end Outcomes

/-! ## The slot write of a submission -/

section Writes

variable {frameAt : Nat → Nat → Nat} {env : SubmitEnv}
  {ndev : NvmeDevice} {cmd : Nvme64bCmd} {sq : NvmeSq}

/-- From the new identifier on, a submission writes into queue memory. -/
theorem submitNumbered_ne {ccmd : NvmeCommonCommand} (held : Held ndev)
    (found : ndev.findSq cmd.sqid = some sq)
    (memory : SqInMemory frameAt ndev sq)
    (tail : sq.tailPtrVirt < sq.elements) :
    submitNumbered env ndev sq cmd ccmd ≠ .error .queueMemory := by
  unfold submitNumbered
  dsimp only
  split
  · exact ok_ne
  · refine bind_ne askedMptr_ne fun asked fills => ?_
    rcases asked with ⟨code, command⟩
    dsimp only
    split
    · exact ok_ne
    · refine bind_ne dispatchCmd_ne fun dispatched sent => ?_
      rcases dispatched with ⟨code, filled, after⟩
      dsimp only
      rcases dispatchCmd_cases sent with ⟨fails, _⟩ |
        ⟨zero, target, prps, dptr, pinned, poolPages, added, pages,
          filledEq, adds, rfl⟩
      · rw [if_pos fails]
        exact ok_ne
      · subst zero
        rw [if_neg (by decide)]
        refine bind_ne ?_ fun _ _ => ok_ne
        rcases askedMptr_cases fills with ⟨metadata, rfl⟩
        have numbered := (setNextCid_numbered ndev cmd.sqid
          (u16 (sq.nextCid + 1))).repaged pinned poolPages
        have same : SameKind
            { ccmd with
              commandId := sq.nextCid
              metadata := metadata
              dptr := dptr }
            { ccmd with
              commandId := sq.nextCid
              metadata := metadata } := ⟨rfl, rfl⟩
        have queue := marked_findSq found numbered same rfl adds cmd.sqid
        have heap := marked_heap found numbered same rfl adds
        rcases createdSq_own env cmd
          { ccmd with commandId := sq.nextCid, metadata := metadata }
          ndev.nextObject prps.isSome sq with ⟨created, own⟩
        rw [found, Option.map_some, if_pos rfl, own] at queue
        have there := memory.heapWith held heap
        rcases there.span with ⟨bytes, spans, long⟩
        unfold NvmeDevice.writeEntry
        rw [queue]
        dsimp only
        rw [if_pos]
        · exact ok_ne
        · exact slotInside_of_span spans long tail

theorem dnvmeSubmit64bCmd_ne (held : Held ndev)
    (memory : ∀ sq, ndev.findSq cmd.sqid = some sq →
      SqInMemory frameAt ndev sq ∧ sq.tailPtrVirt < sq.elements) :
    dnvmeSubmit64bCmd env ndev cmd ≠ .error .queueMemory := by
  unfold dnvmeSubmit64bCmd
  split
  · exact ok_ne
  · split
    · exact ok_ne
    · split
      · exact ok_ne
      · split
        · exact ok_ne
        · rename_i sq found
          rcases memory sq found with ⟨there, tail⟩
          split
          · exact ok_ne
          · split
            · exact ok_ne
            · split
              · exact ok_ne
              · exact submitNumbered_ne held found there tail

end Writes

/-! ## All operations -/

section Operations

variable {ndev : NvmeDevice}

theorem dnvmeCreateMetaNode_ne {env : MetaEnv} {create : NvmeMetaCreate} :
    dnvmeCreateMetaNode env ndev create ≠ .error .queueMemory := by
  have setup (list : ListEnv) (poolPages : List Nat) (prps : NvmePrps) :
      dnvmeMetaSetupSgl list poolPages prps ≠ .error .queueMemory := by
    intro fails
    unfold dnvmeMetaSetupSgl at fails
    dsimp only at fails
    split at fails
    · cases fails
    · split at fails
      · cases fails
      · split at fails
        · cases fails
        · cases fails
  have prepare : dnvmeMetaPrepareSgl env ndev create.buf create.size ≠
      .error .queueMemory := by
    intro fails
    unfold dnvmeMetaPrepareSgl at fails
    split at fails
    · cases fails
    · split at fails
      · rename_i maps
        cases fails
        exact dnvmeMapUserPage_ne maps
      · dsimp only at fails
        split at fails
        · cases fails
        · split at fails
          · rename_i sets
            cases fails
            exact setup _ _ _ sets
          · split at fails
            · cases fails
            · cases fails
  intro fails
  unfold dnvmeCreateMetaNode at fails
  split at fails
  · cases fails
  · split at fails
    · cases fails
    · split at fails
      · cases fails
      · split at fails
        · cases fails
        · split at fails
          · split at fails
            · cases fails
            · cases fails
          · split at fails
            · rename_i prepares
              cases fails
              exact prepare prepares
            · split at fails
              · cases fails
              · cases fails

theorem foldlM_ne {turn : NvmeDevice → Nat → Outcome NvmeDevice}
    (one : ∀ ndev id, turn ndev id ≠ .error .queueMemory) (ids : List Nat) :
    ∀ ndev, ids.foldlM turn ndev ≠ .error .queueMemory := by
  induction ids with
  | nil =>
      intro ndev
      exact ok_ne
  | cons id ids ih =>
      intro ndev
      rw [List.foldlM_cons]
      exact bind_ne (one ndev id) fun next _ => ih next

theorem clearSq_ne {saveAq : Bool} (ndev : NvmeDevice) (id : Nat) :
    clearSq saveAq ndev id ≠ .error .queueMemory := by
  intro fails
  unfold clearSq at fails
  split at fails
  · cases fails
  · split at fails
    · unfold dnvmeReinitAsq at fails
      dsimp only at fails
      split at fails
      · cases fails
      · cases fails
    · cases fails

theorem clearCq_ne {saveAq : Bool} (ndev : NvmeDevice) (id : Nat) :
    clearCq saveAq ndev id ≠ .error .queueMemory := by
  intro fails
  unfold clearCq at fails
  split at fails
  · cases fails
  · split at fails
    · unfold dnvmeReinitAcq at fails
      split at fails
      · cases fails
      · cases fails
    · dsimp only at fails
      split at fails
      · cases fails
      · cases fails

theorem dnvmeCleanupDevice_ne {saveAq : Bool} :
    dnvmeCleanupDevice ndev saveAq ≠ .error .queueMemory := by
  unfold dnvmeCleanupDevice
  refine bind_ne ?_ fun _ _ => ok_ne
  unfold dnvmeDeleteAllQueues
  exact bind_ne (foldlM_ne clearSq_ne _ _) fun _ _ =>
    foldlM_ne clearCq_ne _ _

theorem dnvmeSetDeviceState_ne {ready : Int} {state : NvmeState} :
    dnvmeSetDeviceState ready ndev state ≠ .error .queueMemory := by
  intro fails
  unfold dnvmeSetDeviceState at fails
  cases state with
  | enable => cases fails
  | disable | disableComplete =>
      dsimp only at fails
      split at fails
      · cases fails
      · split at fails
        · rename_i cleans
          cases fails
          exact dnvmeCleanupDevice_ne cleans
        · cases fails

/-- The submission queue that an operation writes to. -/
def UsesSq (op : Op) (id : Nat) : Prop :=
  ∃ env cmd, op = .submit64bCmd env cmd ∧ cmd.sqid = id

/-- The completion queues that an operation reads. -/
def UsesCq (ndev : NvmeDevice) (op : Op) (id : Nat) : Prop :=
  (∃ copyIn copyOut, op = .inquiryCqe copyIn copyOut id) ∨
  (∃ env reap own, op = .reapCqeLegacy env reap ∧
    ndev.findCq reap.cqid = some own ∧ Touched ndev reap.cqid own id) ∨
  (∃ copyOk cqid expect buf size own,
    op = .gnlReapCqe copyOk cqid expect buf size ∧
    ndev.findCq cqid = some own ∧ Touched ndev cqid own id)

/-- The condition on accesses: the queues are contiguous or created. -/
structure UsesReady (ndev : NvmeDevice) (op : Op) : Prop where
  sq : ∀ id sq, UsesSq op id → ndev.findSq id = some sq →
    sq.contig = true ∨ sq.created = true
  cq : ∀ id cq, UsesCq ndev op id → ndev.findCq id = some cq →
    cq.contig = true ∨ cq.created = true

variable {frameAt : Nat → Nat → Nat} {op : Op}

theorem toStep_ne {result : Outcome ReapResult}
    (inside : result ≠ .error .queueMemory) :
    ReapResult.toStep result ≠ .error .queueMemory := by
  intro fails
  unfold ReapResult.toStep at fails
  split at fails
  · cases fails
    exact inside rfl
  · cases fails

theorem UsesReady.performs (ready : UsesReady ndev op)
    (stored : Stored frameAt ndev) (formed : AllCqs WellFormed ndev)
    (order : InOrder ndev) : perform ndev op ≠ .error .queueMemory := by
  cases op with
  | submit64bCmd env cmd =>
      have memory (sq : NvmeSq) (found : ndev.findSq cmd.sqid = some sq) :
          SqInMemory frameAt ndev sq ∧ sq.tailPtrVirt < sq.elements :=
        ⟨stored.sqInMemory found
          (ready.sq _ sq ⟨env, cmd, rfl, rfl⟩ found),
          (stored.sqShape _ sq found).tail⟩
      exact dnvmeSubmit64bCmd_ne stored.held memory
  | inquiryCqe copyIn copyOut cqid =>
      intro fails
      rw [perform] at fails
      split at fails
      · rename_i asks
        cases fails
        have memory (cq : NvmeCq) (found : ndev.findCq cqid = some cq) :
            CqInMemory frameAt ndev cq ∧ cq.headPtr < cq.elements :=
          ⟨stored.cqInMemory found
            (ready.cq cqid cq (Or.inl ⟨copyIn, copyOut, rfl⟩) found),
            (formed cqid cq found).sane.head⟩
        exact dnvmeInquiryCqe_ne memory asks
      · cases fails
  | reapCqeLegacy env reap =>
      refine toStep_ne ?_
      cases found : ndev.findCq reap.cqid with
      | none =>
          unfold dnvmeReapCqeLegacy
          rw [found]
          split
          · exact ok_ne
          · exact ok_ne
      | some cq =>
          refine Usable.dnvmeReapCqeLegacy
            ⟨stored, formed, order, fun id other here touched => ?_,
              fun _ listed => listed⟩ found
          exact ready.cq id other
            (Or.inr (Or.inl ⟨env, reap, cq, rfl, found, touched⟩)) here
  | gnlReapCqe copyOk cqid expect buf size =>
      refine toStep_ne ?_
      cases found : ndev.findCq cqid with
      | none =>
          unfold dnvmeGnlCmdReapCqe
          rw [found]
          exact ok_ne
      | some cq =>
          refine Usable.dnvmeGnlCmdReapCqe
            ⟨stored, formed, order, fun id other here touched => ?_,
              fun _ listed => listed⟩ found
          exact ready.cq id other (Or.inr (Or.inr
            ⟨copyOk, cqid, expect, buf, size, cq, rfl, found, touched⟩)) here
  | createMetaNode env create => exact dnvmeCreateMetaNode_ne
  | setDeviceState ready state => exact dnvmeSetDeviceState_ne
  | release =>
      intro fails
      rw [perform] at fails
      split at fails
      · rename_i cleans
        cases fails
        exact dnvmeCleanupDevice_ne cleans
      · cases fails
  | _ => exact ok_ne

theorem UsesReady.inside (ready : UsesReady ndev op)
    (stored : Stored frameAt ndev) (formed : AllCqs WellFormed ndev)
    (order : InOrder ndev) : step ndev op ≠ .error .queueMemory := fun fails =>
  ready.performs stored formed order
    (perform_of_step_error fails (by decide))

end Operations

/-! ## A discontiguous queue of one page -/

end Dnvme.Driver.QueueAccess
