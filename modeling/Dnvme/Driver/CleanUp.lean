import Dnvme.Driver.Probe
import Dnvme.Driver.PrpsOwnership
import Dnvme.Driver.IrqSetup

/-!
# What a clean up leaves

`dnvme_cleanup_device` gives back the queues, the metadata nodes and the nodes
of the interrupts.  It can leave sets of pages that no queue holds any more,
and what a set-up of interrupts that failed has left.  In runs without such
requests it leaves nothing.
-/

namespace Dnvme.Driver.CleanUp

open Dnvme.Lib.Results
open Dnvme.Driver.IrqBookkeeping Dnvme.Driver.IrqSetup
open Dnvme.Driver.PagesHeld Dnvme.Driver.PrpsOwnership
open Dnvme.Driver.Probe

variable {ndev next : NvmeDevice}

/-! ## Interrupts in runs of a device -/

/-- A request for several vectors does not fail once they are granted. -/
structure KeepsVectors (env : IrqEnv) (irq : NvmeInterrupt) : Prop where
  documented : Documented env.msixCap env irq
  registers : irq.irqType = .msiMulti → env.granted = irq.numIrqs →
    Registers env irq.numIrqs

theorem listed_dnvmeSetInterrupt {env : IrqEnv} {set : NvmeIrqSet}
    {irq : NvmeInterrupt} (listed : Listed set)
    (keeps : KeepsVectors env irq) (ccEnable : Bool) :
    Listed (dnvmeSetInterrupt env ccEnable set irq).2 := by
  have checked := listed.checkInterrupt env ccEnable irq
  have ready := (clearScheme_ready env checked).1
  have ends := setScheme_ends keeps.documented ready
  rw [dnvmeSetInterrupt_eq]
  dsimp only
  split
  · exact checked
  split
  · exact ready.listed
  split
  · rename_i negative
    obtain ⟨nodes, handlers, mode⟩ := ends.failed negative
    have framed := destroyIrqWorkQueue_framed
      (setScheme env irq (clearScheme env
        (checkInterrupt env ccEnable set irq).2).2).2
    have unleft : leftMode env irq = .none := by
      unfold leftMode
      refine if_neg fun leak => ?_
      exact (setScheme_multi_fails_iff ready leak.1 leak.2).mp negative
        (keeps.registers leak.1 leak.2)
    exact Ready.listed ⟨framed.type.trans (ends.type.trans ready.type),
      nodes.zero_of_shape (SameShape.destroyIrqWorkQueue _),
      framed.handlers.trans handlers, framed.mode.trans (mode.trans unleft)⟩
  · rename_i nonnegative
    have zero := le_antisymm ends.sign (not_lt.mp nonnegative)
    refine ⟨fun type => ?_, fun value type => ?_, ends.done zero⟩
    · change irq.irqType = .none at type
      unfold setScheme
      rw [type]
      exact ⟨rfl, ready.nodes.of_lists rfl rfl, ready.handlers, ready.mode⟩
    · change irq.irqType = .unknown value at type
      unfold setScheme at zero
      rw [type] at zero
      change -Errno.EBADRQC = 0 at zero
      exact absurd zero (by decide)

theorem sameVectors_updateIrq (set : NvmeIrqSet) (irqId : Nat)
    (change : NvmeIrq → NvmeIrq)
    (keeps : ∀ irq, (change irq).intVec = irq.intVec) :
    SameVectors set (set.updateIrq irqId change) :=
  ⟨⟨rfl, rfl, rfl, rfl, rfl⟩, map_updateFirst _ _ change keeps _, rfl⟩

theorem sameVectors_dnvmeDeleteCq (ndev : NvmeDevice) (id : Nat) :
    SameVectors ndev.irqSet (dnvmeDeleteCq ndev id).irqSet := by
  unfold dnvmeDeleteCq
  split
  · exact .refl _
  · rw [dnvmeReleaseCq_irqSet]
    exact sameVectors_updateIrq _ _ _ fun _ => rfl

/-- Handling a completion can take a queue from an interrupt. -/
theorem sameVectors_completed {entry : NvmeCompletion}
    (completed : Completed ndev entry next) :
    SameVectors ndev.irqSet next.irqSet := by
  cases completed with
  | noQueue missing => exact .refl _
  | noCommand found missing => exact .refl _
  | general found here plain =>
      rw [NvmeDevice.deleteCmd_irqSet, NvmeDevice.releasePrps_irqSet]
      exact .refl _
  | kept found here admin special stays =>
      rw [NvmeDevice.deleteCmd_irqSet]
      exact .refl _
  | freedSq found here admin type frees target =>
      rw [NvmeDevice.deleteCmd_irqSet]
      unfold dnvmeDeleteSq
      split
      · exact .refl _
      · rw [dnvmeReleaseSq_irqSet]
        exact .refl _
  | freedCq found here admin type frees target =>
      rw [NvmeDevice.deleteCmd_irqSet]
      exact sameVectors_dnvmeDeleteCq (ndev.headed entry _) _

theorem reapClosed_listed :
    ReapClosed fun ndev => Listed ndev.irqSet where
  scan listed found scanned := by
    obtain ⟨tail, rfl, _⟩ := scan_eq scanned
    exact listed
  head cqid count listed := by
    unfold NvmeDevice.updateCqHead
    split
    · exact listed
    · exact listed
  complete entry listed := listed.sameVectors
    (sameVectors_completed (handleCmdCompletion_completed _ entry))
  clear irqNo listed := listed.sameVectors
    (sameVectors_updateIrq _ irqNo _ fun _ => rfl)
  unmask irqNo listed := listed.sameVectors
    (.of_shape (Framed.writeMask _ irqNo false)
      (SameShape.writeMask _ irqNo false))

theorem sameVectors_dnvmePrepareCq (env : AllocQueueEnv) (icqAlloc : Bool)
    (ndev : NvmeDevice) (prep : NvmePrepCq) :
    SameVectors ndev.irqSet
      (dnvmePrepareCq env icqAlloc ndev prep).2.irqSet := by
  unfold dnvmePrepareCq
  split
  · exact .refl _
  split
  · exact .refl _
  split
  · exact .refl _
  split
  · exact .refl _
  rename_i added allocated
  have same : added.irqSet = ndev.irqSet := by
    obtain ⟨dma, _, rfl⟩ := dnvmeAllocCq_eq allocated
    rfl
  split
  · rw [same]
    exact .refl _
  have linked : SameVectors ndev.irqSet
      (dnvmeCreateIcqNode icqAlloc added.irqSet prep.cqId prep.cqIrqNo).2 := by
    rw [same]
    rcases dnvmeCreateIcqNode_cases icqAlloc ndev.irqSet prep.cqId
      prep.cqIrqNo with ⟨_, kept⟩ | ⟨_, _, _, kept⟩ | ⟨_, _, _, link⟩
    · rw [kept]
      exact .refl _
    · rw [kept]
      exact .refl _
    · rw [link]
      exact sameVectors_updateIrq _ _ _ fun _ => rfl
  dsimp only
  split
  · split
    · exact linked
    · rw [dnvmeReleaseCq_irqSet]
      exact linked
  · exact linked

/-- A request of which nothing stays behind. -/
def Spares (ndev : NvmeDevice) : Op → Prop
  | .submit64bCmd env cmd => CreatesDiscontig ndev env cmd
  | .setInterrupt env irq => KeepsVectors env irq
  | _ => True

/-- In a run of such requests each node of an interrupt has a handler. -/
theorem listed_step {op : Op} {ret : Int} (listed : Listed ndev.irqSet)
    (spares : Spares ndev op) (done : step ndev op = .ok (ret, next)) :
    Listed next.irqSet := by
  replace done := (perform_of_step done).1
  cases op with
  | createAsq env elements =>
      rw [snd_of_ok done]
      rcases dnvmeCreateAsq_added env elements with same | ⟨_, _, _, _, same⟩
      · rwa [same]
      · rwa [same]
  | createAcq env elements =>
      rw [snd_of_ok done]
      rcases dnvmeCreateAcq_added env elements with same | ⟨_, _, _, _, same⟩
      · rwa [same]
      · rwa [same]
  | prepareSq env prep =>
      rw [snd_of_ok done]
      rcases dnvmePrepareSq_added env prep with same | ⟨_, _, _, _, same⟩
      · rwa [same]
      · rwa [same]
  | prepareCq env icqAlloc prep =>
      rw [snd_of_ok done]
      exact listed.sameVectors (sameVectors_dnvmePrepareCq _ _ _ _)
  | ringSqDoorbell sqId =>
      rw [snd_of_ok done]
      unfold dnvmeRingSqDoorbell
      split
      · exact listed
      · exact listed
  | submit64bCmd env cmd =>
      rcases dnvmeSubmit64bCmd_cases done with ⟨_, refused⟩ |
        ⟨_, sq, ccmd, filled, prps, accepted⟩
      · rcases refused with ⟨_, _, rfl | ⟨_, _, _, _, rfl⟩⟩
        · exact listed
        · exact listed
      · rwa [accepted.irqSet]
  | emptyCmdList sqId =>
      rw [snd_of_ok done]
      unfold emptyCmdList
      split
      · exact listed
      · change Listed (NvmeDevice.releaseCmds _ _).irqSet
        rwa [NvmeDevice.releaseCmds_irqSet]
  | inquiryCqe copyIn copyOut cqid =>
      rw [perform] at done
      split at done
      · cases done
      · rename_i asked
        cases done
        exact reapClosed_listed.dnvmeInquiryCqe listed asked
  | reapCqeLegacy env reap =>
      rw [perform] at done
      unfold ReapResult.toStep at done
      split at done
      · cases done
      · rename_i reaped
        cases done
        exact reapClosed_listed.dnvmeReapCqeLegacy listed reaped
  | gnlReapCqe copyOk cqid expect buf size =>
      rw [perform] at done
      unfold ReapResult.toStep at done
      split at done
      · cases done
      · rename_i reaped
        cases done
        exact reapClosed_listed.dnvmeGnlCmdReapCqe listed reaped
  | createMetaNode env create =>
      rcases dnvmeCreateMetaNode_changed done with ⟨_, _, _, rfl⟩
      exact listed
  | deleteMetaId id =>
      cases done
      rcases dnvmeDeleteMetaId_changed ndev id with ⟨_, _, _, same⟩
      rwa [same]
  | setInterrupt env irq =>
      cases done
      exact listed_dnvmeSetInterrupt listed spares _
  | maskInterrupt irqNo =>
      cases done
      exact listed.sameVectors (.of_shape (Framed.writeMask _ irqNo true)
        (SameShape.writeMask _ irqNo true))
  | unmaskInterrupt irqNo =>
      cases done
      exact listed.sameVectors (.of_shape (Framed.writeMask _ irqNo false)
        (SameShape.writeMask _ irqNo false))
  | setDeviceState ready state =>
      refine @dnvmeSetDeviceState_keeps ndev next
        (fun ndev => Listed ndev.irqSet) _ _ _ (fun _ => listed) ?_ done
      intro saveAq cleaned cleans
      rw [dnvmeCleanupDevice_irqSet cleans]
      exact listed.dnvmeCleanInterrupt.1.listed
  | release =>
      rw [perform] at done
      split at done
      · cases done
      · rename_i cleaned
        cases done
        rw [dnvmeCleanupDevice_irqSet cleaned]
        exact listed.dnvmeCleanInterrupt.1.listed
  | interrupt intVec =>
      cases done
      exact listed.sameVectors (.of_shape (Framed.dnvmeInterrupt _ intVec)
        (SameShape.dnvmeInterrupt _ intVec))
  | bottomHalf irqId =>
      cases done
      exact listed.sameVectors (.of_shape (Framed.updateIrqFlag _ irqId)
        (SameShape.updateIrqFlag _ irqId))
  | post cqid slot entry =>
      cases done
      unfold NvmeDevice.postEntry
      split
      · exact listed
      · exact listed

/-! ## What is left -/

theorem clearSq_bug {saveAq : Bool} {id : Nat}
    (done : clearSq saveAq ndev id = .ok next) : next.bug = ndev.bug := by
  unfold clearSq at done
  split at done
  · cases done
    rfl
  · split at done
    · unfold dnvmeReinitAsq dnvmeDeleteCmdList at done
      dsimp only at done
      split at done
      · cases done
      · cases done
        exact NvmeDevice.releaseCmds_bug _ _
    · cases done
      exact dnvmeReleaseSq_bug _ _

theorem clearCq_running {saveAq : Bool} {id : Nat}
    (running : ndev.bug = false) (done : clearCq saveAq ndev id = .ok next) :
    next.bug = false := by
  unfold clearCq at done
  split at done
  · cases done
    exact running
  · split at done
    · unfold dnvmeReinitAcq at done
      split at done
      · cases done
      · cases done
        exact running
    · dsimp only at done
      split at done
      · cases done
      · rename_i released
        cases done
        exact Bool.eq_false_iff.mpr released

/-- A clean up that returns has hit no `BUG_ON`. -/
theorem dnvmeCleanupDevice_running {saveAq : Bool}
    (running : ndev.bug = false)
    (done : dnvmeCleanupDevice ndev saveAq = .ok next) : next.bug = false := by
  unfold dnvmeCleanupDevice at done
  rcases ok_of_bind done with ⟨cleared, clears, rest⟩
  unfold dnvmeDeleteAllQueues at clears
  rcases ok_of_bind clears with ⟨noSqs, first, second⟩
  have start : { ndev with
      irqSet := dnvmeCleanInterrupt ndev.irqSet }.bug = false := running
  have between : noSqs.bug = false :=
    foldlM_keeps (fun start turn => (clearSq_bug turn).trans start) _ start
      first
  have last : cleared.bug = false :=
    foldlM_keeps (fun start turn => clearCq_running start turn) _ between
      second
  cases rest
  rcases deleteMetas_changed cleared.metas.keys.mergeSort cleared with
    ⟨_, _, _, same⟩
  rw [same]
  exact last

theorem lookup_dnvmeDeleteMetaId (ndev : NvmeDevice) (key id : Nat) :
    (dnvmeDeleteMetaId ndev key).metas.lookup id =
      if id = key then none else ndev.metas.lookup id := by
  cases found : ndev.metas.lookup key with
  | none =>
      rw [dnvmeDeleteMetaId, found]
      dsimp only
      split
      · rename_i equal
        rw [equal]
        exact found
      · rfl
  | some node =>
      have erased : (NvmeDevice.releaseMetaPrps
          { ndev with metas := ndev.metas.erase key } node.prps).metas =
          ndev.metas.erase key := by
        cases node.prps with
        | none => rfl
        | some prps => rfl
      rw [dnvmeDeleteMetaId, found]
      dsimp only
      rw [erased]
      split
      · rename_i equal
        rw [equal, AList.lookup_erase]
      · rename_i different
        exact AList.lookup_erase_ne different

theorem lookup_deleteMetas (ids : List Nat) (ndev : NvmeDevice) (id : Nat) :
    (ids.foldl dnvmeDeleteMetaId ndev).metas.lookup id =
      if id ∈ ids then none else ndev.metas.lookup id := by
  induction ids generalizing ndev with
  | nil => simp
  | cons key ids ih =>
      rw [List.foldl_cons, ih, lookup_dnvmeDeleteMetaId]
      by_cases equal : id = key
      · simp [equal]
      · simp [equal]

theorem keys_eq_nil {α : Type} {map : XArray α}
    (empty : ∀ id, map.lookup id = none) : map.keys = [] := by
  refine List.eq_nil_iff_forall_not_mem.mpr fun id listed => ?_
  exact AList.lookup_eq_none.mp (empty id) (AList.mem_keys.mpr listed)

/-- What a clean up can leave. -/
def StaysBehind : Resource → Prop
  | .prps _ _ | .handler _ _ | .vectors _ => True
  | _ => False

/-- Queues, metadata and the lists of the interrupts are gone. -/
theorem driverHeld_cleaned (keyed : Keyed ndev) (running : ndev.bug = false)
    (done : dnvmeCleanupDevice ndev false = .ok next) (pdev : Nat) :
    driverHeld pdev next =
      (next.prpsHeap.keys.map (Resource.prps pdev) : List Resource) +
        (next.irqSet.handlers.map (Resource.handler pdev) : List Resource) +
        (if hasVectors next.irqSet.mode then {.vectors pdev} else 0) := by
  have noCmb := (dnvmeCleanupDevice_returns_iff keyed running).mp ⟨next, done⟩
  obtain ⟨also, again, sqs, cqs, _⟩ :=
    dnvmeCleanupDevice_empties keyed running noCmb
  obtain rfl : next = also := Except.ok.inj (done.symm.trans again)
  have metas : next.metas.keys = [] := by
    refine keys_eq_nil fun id => ?_
    unfold dnvmeCleanupDevice at done
    rcases ok_of_bind done with ⟨cleared, _, rest⟩
    cases rest
    rw [lookup_deleteMetas]
    split
    · rfl
    · rename_i missing
      exact lookup_eq_none_of_keys cleared.metas missing
  have set := dnvmeCleanupDevice_irqSet done
  have queue : next.irqSet.wq = false := by
    rw [set]
    exact (destroyIrqWorkQueue_framed _).queue
  have irqs : next.irqSet.irqList = [] := by
    rw [set]
    rfl
  have works : next.irqSet.workList = [] := by
    rw [set]
    rfl
  unfold driverHeld
  rw [keys_eq_nil sqs, keys_eq_nil cqs, metas, queue, irqs, works]
  simp

theorem staysBehind_of_cleaned (keyed : Keyed ndev)
    (running : ndev.bug = false)
    (done : dnvmeCleanupDevice ndev false = .ok next) (pdev : Nat) :
    ∀ resource ∈ driverHeld pdev next, StaysBehind resource := by
  intro resource member
  rw [driverHeld_cleaned keyed running done] at member
  simp only [Multiset.mem_add, Multiset.mem_coe, List.mem_map] at member
  rcases member with (⟨_, _, rfl⟩ | ⟨_, _, rfl⟩) | member
  · trivial
  · trivial
  · split at member
    · rw [Multiset.mem_singleton.mp member]
      trivial
    · exact absurd member (Multiset.notMem_zero _)

/-- In a run of requests of which nothing stays behind, nothing is left. -/
theorem driverHeld_eq_zero (reachable : Reachable CreatesDiscontig ndev)
    (listed : Listed ndev.irqSet)
    (done : dnvmeCleanupDevice ndev false = .ok next) (pdev : Nat) :
    driverHeld pdev next = 0 := by
  have prps : next.prpsHeap.keys = [] := by
    refine keys_eq_nil fun id => Option.not_isSome_iff_eq_none.mp ?_
    exact (pages_accounted reachable).cleanup next done id
  have ready := listed.dnvmeCleanInterrupt.1
  rw [← dnvmeCleanupDevice_irqSet done] at ready
  rw [driverHeld_cleaned reachable.keyed reachable.running done, prps,
    ready.handlers, ready.mode]
  rfl

end Dnvme.Driver.CleanUp
