import Dnvme.Driver.Reap

/-!
# The operations of the driver

The requests of `dnvme_ioctl`, the netlink reap request, interrupts and device
writes as one type of operations with one step function.  Metadata nodes
(`meta.c`) and `dnvme_cleanup_device` (`core.c`) complete the model.

`step` returns the value the user sees and the next device, or the `Oops` that
stopped the kernel.  All outcomes of external calls are part of an operation,
so a list of operations determines a run.
-/

namespace Dnvme.Driver

/-! ## Metadata nodes -/

/-- `struct nvme_meta_create`. -/
structure NvmeMetaCreate where
  contig : Bool
  id : Nat
  buf : Nat
  size : Nat
  deriving DecidableEq, Repr

/-- The outcomes of the external calls of `dnvme_create_meta_node`. -/
structure MetaEnv where
  copyIn : Bool
  metaAlloc : Bool
  /-- `dma_alloc_coherent`: the bus address. -/
  dma : Option Nat
  prpsAlloc : Bool
  map : MapEnv
  list : ListEnv
  insertOk : Bool

/-- `dnvme_meta_prepare_sgl`. -/
def dnvmeMetaPrepareSgl (env : MetaEnv) (ndev : NvmeDevice)
    (buf size : Nat) : Outcome (Int × Option NvmePrps × NvmeDevice) :=
  if !env.prpsAlloc then .ok (-Errno.ENOMEM, none, ndev)
  else
    match dnvmeMapUserPage env.map ndev.pinned (.zero .metaPool) buf size 0
        true with
    | .error oops => .error oops
    | .ok mapped =>
        let pinned := { ndev with pinned := mapped.pinned }
        if mapped.ret < 0 then .ok (mapped.ret, none, pinned)
        else
          match dnvmeMetaSetupSgl env.list ndev.poolPages mapped.prps with
          | .error oops => .error oops
          | .ok (ret, prps, poolPages) =>
              if ret < 0 then
                .ok (ret, none, { pinned with
                  pinned := dnvmeUnmapUserPage prps mapped.pinned })
              else
                .ok (0, some prps, { pinned with poolPages := poolPages })

/-- `dnvme_release_prps` for the pages of a metadata node. -/
def NvmeDevice.releaseMetaPrps (ndev : NvmeDevice) :
    Option NvmePrps → NvmeDevice
  | none => ndev
  | some prps =>
      { ndev with
        pinned := dnvmeUnmapUserPage prps ndev.pinned
        poolPages := dnvmeFreePrpList prps ndev.poolPages }

/-- Insert a metadata node that was filled. -/
def insertMeta (insertOk : Bool) (ndev : NvmeDevice) (id : Nat)
    (node : NvmeMeta) : Int × NvmeDevice :=
  if insertOk then (0, { ndev with metas := ndev.metas.insert id node })
  else (-Errno.ENOMEM, ndev.releaseMetaPrps node.prps)

/-- `dnvme_create_meta_node`. -/
def dnvmeCreateMetaNode (env : MetaEnv) (ndev : NvmeDevice)
    (create : NvmeMetaCreate) : Outcome (Int × NvmeDevice) :=
  if !env.copyIn then .ok (-Errno.EFAULT, ndev)
  else if !create.contig && create.buf = 0 then .ok (-Errno.EINVAL, ndev)
  else if (ndev.metas.lookup create.id).isSome then
    .ok (-Errno.EEXIST, ndev)
  else if !env.metaAlloc then .ok (-Errno.ENOMEM, ndev)
  else if create.contig then
    match env.dma with
    | none => .ok (-Errno.ENOMEM, ndev)
    | some dma => .ok (insertMeta env.insertOk ndev create.id ⟨true, dma, none⟩)
  else
    match dnvmeMetaPrepareSgl env ndev create.buf create.size with
    | .error oops => .error oops
    | .ok (ret, prps, prepared) =>
        if ret < 0 then .ok (ret, prepared)
        else .ok (insertMeta env.insertOk prepared create.id ⟨false, 0, prps⟩)

/-- `dnvme_delete_meta_id`. -/
def dnvmeDeleteMetaId (ndev : NvmeDevice) (id : Nat) : NvmeDevice :=
  match ndev.metas.lookup id with
  | none => ndev
  | some node =>
      { ndev with metas := ndev.metas.erase id }.releaseMetaPrps node.prps

/-! ## Cleaning up the device -/

/-- `dnvme_cleanup_device`. -/
def dnvmeCleanupDevice (ndev : NvmeDevice) (saveAq : Bool) :
    Outcome NvmeDevice := do
  let cleared ← dnvmeDeleteAllQueues
    { ndev with irqSet := dnvmeCleanInterrupt ndev.irqSet } saveAq
  return (cleared.metas.keys.mergeSort).foldl dnvmeDeleteMetaId cleared

/-- The states of `dnvme_set_device_state` that change driver data. -/
inductive NvmeState where
  | enable
  | disable
  | disableComplete
  deriving DecidableEq, Repr

/-- `dnvme_set_device_state`; `ready` is the return value of
`dnvme_wait_ready`. -/
def dnvmeSetDeviceState (ready : Int) (ndev : NvmeDevice)
    (state : NvmeState) : Outcome (Int × NvmeDevice) :=
  match state with
  | .enable => .ok (ready, { ndev with ccEnable := true })
  | .disable | .disableComplete =>
      let disabled := { ndev with ccEnable := false }
      if ready < 0 then .ok (ready, disabled)
      else
        match dnvmeCleanupDevice disabled (state = .disable) with
        | .error oops => .error oops
        | .ok cleaned => .ok (ready, cleaned)

/-! ## Operations -/

/-- `NVME_IOCTL_EMPTY_CMD_LIST`. -/
def emptyCmdList (ndev : NvmeDevice) (sqId : Nat) : Int × NvmeDevice :=
  match ndev.findSq sqId with
  | none => (-Errno.EINVAL, ndev)
  | some sq =>
      let (emptied, sq) := dnvmeDeleteCmdList ndev sq
      (0, emptied.setSq sqId sq)

/-- The device writes an entry into the memory of a completion queue. -/
def NvmeDevice.postEntry (ndev : NvmeDevice) (cqid slot : Nat)
    (entry : NvmeCompletion) : NvmeDevice :=
  match ndev.findCq cqid with
  | none => ndev
  | some cq =>
      ndev.setCq cqid
        { cq with entries := Function.update cq.entries slot entry }

/-- What can happen to a device. -/
inductive Op where
  | createAsq (env : AllocQueueEnv) (elements : Nat)
  | createAcq (env : AllocQueueEnv) (elements : Nat)
  | prepareSq (env : AllocQueueEnv) (prep : NvmePrepSq)
  | prepareCq (env : AllocQueueEnv) (icqAlloc : Bool) (prep : NvmePrepCq)
  | ringSqDoorbell (sqId : Nat)
  | submit64bCmd (env : SubmitEnv) (cmd : Nvme64bCmd)
  | emptyCmdList (sqId : Nat)
  | inquiryCqe (copyIn copyOut : Bool) (cqid : Nat)
  | reapCqeLegacy (env : ReapEnv) (reap : NvmeReap)
  | gnlReapCqe (copyOk : Nat → Bool) (cqid expect buf size : Nat)
  | createMetaNode (env : MetaEnv) (create : NvmeMetaCreate)
  | deleteMetaId (id : Nat)
  | setInterrupt (env : IrqEnv) (irq : NvmeInterrupt)
  | maskInterrupt (irqNo : Nat)
  | unmaskInterrupt (irqNo : Nat)
  | setDeviceState (ready : Int) (state : NvmeState)
  | release
  | interrupt (intVec : Nat)
  | bottomHalf (irqId : Nat)
  | post (cqid slot : Nat) (entry : NvmeCompletion)

/-- A reap as a step. -/
def ReapResult.toStep : Outcome ReapResult → Outcome (Int × NvmeDevice)
  | .error oops => .error oops
  | .ok result => .ok (result.ret, result.ndev)

/-- One operation, whether or not it hits a `BUG_ON`. -/
def perform (ndev : NvmeDevice) : Op → Outcome (Int × NvmeDevice)
  | .createAsq env elements => .ok (dnvmeCreateAsq env ndev elements)
  | .createAcq env elements => .ok (dnvmeCreateAcq env ndev elements)
  | .prepareSq env prep => .ok (dnvmePrepareSq env ndev prep)
  | .prepareCq env icqAlloc prep =>
      .ok (dnvmePrepareCq env icqAlloc ndev prep)
  | .ringSqDoorbell sqId => .ok (dnvmeRingSqDoorbell ndev sqId)
  | .submit64bCmd env cmd => dnvmeSubmit64bCmd env ndev cmd
  | .emptyCmdList sqId => .ok (emptyCmdList ndev sqId)
  | .inquiryCqe copyIn copyOut cqid =>
      match dnvmeInquiryCqe copyIn copyOut ndev cqid with
      | .error oops => .error oops
      | .ok (ret, _, scanned) => .ok (ret, scanned)
  | .reapCqeLegacy env reap =>
      ReapResult.toStep (dnvmeReapCqeLegacy env ndev reap)
  | .gnlReapCqe copyOk cqid expect buf size =>
      ReapResult.toStep (dnvmeGnlCmdReapCqe copyOk ndev cqid expect buf size)
  | .createMetaNode env create => dnvmeCreateMetaNode env ndev create
  | .deleteMetaId id => .ok (0, dnvmeDeleteMetaId ndev id)
  | .setInterrupt env irq =>
      let (ret, irqSet) := dnvmeSetInterrupt env ndev.ccEnable ndev.irqSet irq
      .ok (ret, { ndev with irqSet := irqSet })
  | .maskInterrupt irqNo =>
      .ok (0, { ndev with irqSet := dnvmeMaskInterrupt ndev.irqSet irqNo })
  | .unmaskInterrupt irqNo =>
      .ok (0, { ndev with irqSet := dnvmeUnmaskInterrupt ndev.irqSet irqNo })
  | .setDeviceState ready state => dnvmeSetDeviceState ready ndev state
  | .release =>
      match dnvmeCleanupDevice ndev false with
      | .error oops => .error oops
      | .ok cleaned => .ok (0, cleaned)
  | .interrupt intVec =>
      .ok (0, { ndev with irqSet := dnvmeInterrupt ndev.irqSet intVec })
  | .bottomHalf irqId =>
      .ok (0, { ndev with irqSet := updateIrqFlag ndev.irqSet irqId })
  | .post cqid slot entry => .ok (0, ndev.postEntry cqid slot entry)

/-- One operation. -/
def step (ndev : NvmeDevice) (op : Op) : Outcome (Int × NvmeDevice) :=
  match perform ndev op with
  | .error oops => .error oops
  | .ok (ret, next) => if next.bug then .error .bug else .ok (ret, next)

theorem perform_of_step {ndev next : NvmeDevice} {op : Op} {ret : Int}
    (done : step ndev op = .ok (ret, next)) :
    perform ndev op = .ok (ret, next) ∧ next.bug = false := by
  unfold step at done
  split at done
  · cases done
  · rename_i performed
    split at done
    · cases done
    · rename_i running
      cases done
      exact ⟨performed, by simpa using running⟩

theorem perform_of_step_error {ndev : NvmeDevice} {op : Op} {oops : Oops}
    (fails : step ndev op = .error oops) (other : oops ≠ .bug) :
    perform ndev op = .error oops := by
  unfold step at fails
  split at fails
  · cases fails
    assumption
  · split at fails
    · cases fails
      exact absurd rfl other
    · cases fails

end Dnvme.Driver
