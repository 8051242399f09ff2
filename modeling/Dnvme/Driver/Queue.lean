import Dnvme.Driver.Prp
import Dnvme.Driver.Irq

/-!
# The life of queues

This module embeds the first half of `queue.c`: the allocation, release and
deletion of queues, the admin queues, the doorbell and
`dnvme_delete_all_queues`, together with `dnvme_release_prps` and
`dnvme_delete_cmd_list` of `cmd.c`.
-/

namespace Dnvme.Driver

/-! ## Releasing pages -/

/--
`dnvme_release_prps`.  The release is logged; releasing `NULL` does nothing,
as the check in `dnvme_free_prp_list` and `dnvme_unmap_user_page` says.
-/
def NvmeDevice.releasePrps (ndev : NvmeDevice) : Option Nat → NvmeDevice
  | none => ndev
  | some id =>
      let prps := ndev.prpsHeap.lookup id
      { ndev with
        prpsHeap := ndev.prpsHeap.erase id
        released := id :: ndev.released
        pinned := prps.elim ndev.pinned (dnvmeUnmapUserPage · ndev.pinned)
        poolPages := prps.elim ndev.poolPages
          (dnvmeFreePrpList · ndev.poolPages) }

/-- The loop of `dnvme_delete_cmd_list`. -/
def NvmeDevice.releaseCmds (ndev : NvmeDevice) (cmds : List NvmeCmd) :
    NvmeDevice :=
  cmds.foldl (fun ndev cmd => ndev.releasePrps cmd.prps) ndev

/-- `dnvme_delete_cmd_list`. -/
def dnvmeDeleteCmdList (ndev : NvmeDevice) (sq : NvmeSq) :
    NvmeDevice × NvmeSq :=
  (ndev.releaseCmds sq.cmdList, { sq with cmdList := [] })

/-! ## Commands -/

/-- `dnvme_find_cmd`. -/
def dnvmeFindCmd (sq : NvmeSq) (cid : Nat) : Option NvmeCmd :=
  sq.cmdList.find? fun cmd => cmd.cid = cid

/-- `dnvme_delete_cmd`: take the node out of the list it is in. -/
def NvmeDevice.deleteCmd (ndev : NvmeDevice) (sqId : Nat) (cmd : NvmeCmd) :
    NvmeDevice :=
  match ndev.findSq sqId with
  | none => ndev
  | some sq =>
      ndev.setSq sqId
        { sq with cmdList := sq.cmdList.eraseP fun node =>
            node.node = cmd.node }

/-- `dnvme_sq_is_full`. -/
def dnvmeSqIsFull (sq : NvmeSq) : Bool :=
  (sq.tailPtrVirt + 1) % sq.elements = sq.headPtr

/-! ## Submission queues -/

/-- `struct nvme_prep_sq`. -/
structure NvmePrepSq where
  elements : Nat
  sqId : Nat
  cqId : Nat
  contig : Bool
  useCmb : Bool
  deriving DecidableEq, Repr

/-- `struct nvme_prep_cq`. -/
structure NvmePrepCq where
  elements : Nat
  cqId : Nat
  contig : Bool
  cqIrqEn : Nat
  cqIrqNo : Nat
  useCmb : Bool
  deriving DecidableEq, Repr

/-- The outcomes of the allocations for a queue. -/
structure AllocQueueEnv where
  /-- `kzalloc` of the queue object. -/
  objAlloc : Bool
  /-- The bus address of the buffer, from `dma_alloc_coherent` or from the
  controller memory buffer. -/
  buf : Option Nat
  /-- `xa_insert` finds memory. -/
  insertOk : Bool
  deriving DecidableEq, Repr

/-- The buffer of a queue: `none` when it is wanted and not to be had. -/
def AllocQueueEnv.buffer (env : AllocQueueEnv)
    (contig useCmb cmbSupport : Bool) : Option Nat :=
  if !contig then some 0
  else if useCmb then
    if !cmbSupport then none
    else
      match env.buf with
      | none => none
      | some dma => if dma = 0 then none else some dma
  else
    env.buf

/-- The object `dnvme_alloc_sq` fills. -/
def NvmePrepSq.queue (prep : NvmePrepSq) (sqes dma : Nat) : NvmeSq where
  sqId := prep.sqId
  cqId := prep.cqId
  tailPtr := 0
  tailPtrVirt := 0
  headPtr := 0
  elements := prep.elements
  sqes := sqes
  cmdList := []
  buf := prep.contig
  dma := dma
  size := u32 (prep.elements * 2 ^ sqes)
  entries := fun _ => .zero
  prps := none
  db := 0
  nextCid := 0
  contig := prep.contig
  created := false
  useCmb := prep.contig && prep.useCmb

/-- `dnvme_alloc_sq`; `none` is a `NULL` result, which changes nothing. -/
def dnvmeAllocSq (env : AllocQueueEnv) (ndev : NvmeDevice)
    (prep : NvmePrepSq) (sqes : Nat) : Option NvmeDevice :=
  if !env.objAlloc then none
  else
    match env.buffer prep.contig prep.useCmb ndev.cmbSqs with
    | none => none
    | some dma =>
        if !env.insertOk || (ndev.findSq prep.sqId).isSome then none
        else some (ndev.setSq prep.sqId (prep.queue sqes dma))

/-- `dnvme_release_sq`. -/
def dnvmeReleaseSq (ndev : NvmeDevice) (sq : NvmeSq) : NvmeDevice :=
  let erased := { ndev with sqs := ndev.sqs.erase sq.sqId }
  let (emptied, sq) := dnvmeDeleteCmdList erased sq
  if sq.contig then emptied else emptied.releasePrps sq.prps

/-- `dnvme_delete_sq`. -/
def dnvmeDeleteSq (ndev : NvmeDevice) (sqId : Nat) : NvmeDevice :=
  match ndev.findSq sqId with
  | none => ndev
  | some sq => dnvmeReleaseSq ndev sq

/-! ## Completion queues -/

/-- The object `dnvme_alloc_cq` fills. -/
def NvmePrepCq.queue (prep : NvmePrepCq) (cqes dma : Nat) : NvmeCq where
  qId := prep.cqId
  tailPtr := 0
  headPtr := 0
  elements := prep.elements
  irqEnabled := prep.cqIrqEn
  irqNo := prep.cqIrqNo
  pbitNewEntry := 1
  cqes := cqes
  buf := prep.contig
  dma := dma
  size := u32 (prep.elements * 2 ^ cqes)
  entries := fun _ => .zero
  prps := none
  db := 0
  contig := prep.contig
  created := false
  useCmb := prep.contig && prep.useCmb

/-- `dnvme_alloc_cq`; `none` is a `NULL` result. -/
def dnvmeAllocCq (env : AllocQueueEnv) (ndev : NvmeDevice)
    (prep : NvmePrepCq) (cqes : Nat) : Option NvmeDevice :=
  if !env.objAlloc then none
  else
    match env.buffer prep.contig prep.useCmb ndev.cmbCqs with
    | none => none
    | some dma =>
        if !env.insertOk || (ndev.findCq prep.cqId).isSome then none
        else some (ndev.setCq prep.cqId (prep.queue cqes dma))

/--
The buffer of a contiguous completion queue is given back.  One in the
controller memory buffer is freed with its bus address for a size, which the
pool allocator answers with a `BUG_ON`.
-/
def NvmeDevice.freeCqBuf (ndev : NvmeDevice) (useCmb : Bool) : NvmeDevice :=
  { ndev with bug := ndev.bug || useCmb }

/-- `dnvme_alloc_cq` has a buffer when `xa_insert` fails. -/
def allocCqFreesBuf (env : AllocQueueEnv) (ndev : NvmeDevice)
    (prep : NvmePrepCq) : Bool :=
  env.objAlloc && prep.contig &&
    (env.buffer prep.contig prep.useCmb ndev.cmbCqs).isSome

/-- `dnvme_release_cq`. -/
def dnvmeReleaseCq (ndev : NvmeDevice) (cq : NvmeCq) : NvmeDevice :=
  let erased := { ndev with cqs := ndev.cqs.erase cq.qId }
  if cq.contig then erased.freeCqBuf cq.useCmb
  else erased.releasePrps cq.prps

/-- `dnvme_delete_cq`. -/
def dnvmeDeleteCq (ndev : NvmeDevice) (cqId : Nat) : NvmeDevice :=
  match ndev.findCq cqId with
  | none => ndev
  | some cq =>
      dnvmeReleaseCq
        { ndev with irqSet := dnvmeDeleteIcqNode ndev.irqSet cqId cq.irqNo }
        cq

/-! ## Admin queues and preparation -/

/-- `dnvme_create_asq`. -/
def dnvmeCreateAsq (env : AllocQueueEnv) (ndev : NvmeDevice)
    (elements : Nat) : Int × NvmeDevice :=
  if elements = 0 ∨ elements > nvmeAqMaxSize then (-Errno.EINVAL, ndev)
  else if (ndev.findSq nvmeAqId).isSome then (-Errno.EEXIST, ndev)
  else if ndev.ccEnable then (-Errno.EPERM, ndev)
  else
    match dnvmeAllocSq env ndev ⟨elements, nvmeAqId, 0, true, false⟩
        nvmeSqes with
    | none => (-Errno.ENOMEM, ndev)
    | some ndev => (0, ndev)

/-- `dnvme_create_acq`. -/
def dnvmeCreateAcq (env : AllocQueueEnv) (ndev : NvmeDevice)
    (elements : Nat) : Int × NvmeDevice :=
  if elements = 0 ∨ elements > nvmeAqMaxSize then (-Errno.EINVAL, ndev)
  else if (ndev.findCq nvmeAqId).isSome then (-Errno.EEXIST, ndev)
  else if ndev.ccEnable then (-Errno.EPERM, ndev)
  else
    match dnvmeAllocCq env ndev ⟨elements, nvmeAqId, true, 1, 0, false⟩
        nvmeCqes with
    | none => (-Errno.ENOMEM, ndev)
    | some ndev => (0, ndev)

/-- `dnvme_prepare_sq` after the request was copied in. -/
def dnvmePrepareSq (env : AllocQueueEnv) (ndev : NvmeDevice)
    (prep : NvmePrepSq) : Int × NvmeDevice :=
  if prep.elements = 0 ∨ prep.elements > ndev.qDepth then
    (-Errno.EINVAL, ndev)
  else if (ndev.findSq prep.sqId).isSome then (-Errno.EEXIST, ndev)
  else if ndev.capCqr && !prep.contig then (-Errno.EINVAL, ndev)
  else
    match dnvmeAllocSq env ndev prep nvmeSqes with
    | none => (-Errno.ENOMEM, ndev)
    | some ndev => (0, ndev)

/-- `dnvme_prepare_cq` after the request was copied in. -/
def dnvmePrepareCq (env : AllocQueueEnv) (icqAlloc : Bool)
    (ndev : NvmeDevice) (prep : NvmePrepCq) : Int × NvmeDevice :=
  if prep.elements = 0 ∨ prep.elements > ndev.qDepth then
    (-Errno.EINVAL, ndev)
  else if (ndev.findCq prep.cqId).isSome then (-Errno.EEXIST, ndev)
  else if ndev.capCqr && !prep.contig then (-Errno.EINVAL, ndev)
  else
    match dnvmeAllocCq env ndev prep nvmeCqes with
    | none =>
        (-Errno.ENOMEM,
          ndev.freeCqBuf (allocCqFreesBuf env ndev prep && prep.useCmb))
    | some added =>
        if prep.cqIrqEn = 0 then (0, added)
        else
          let (ret, irqSet) := dnvmeCreateIcqNode icqAlloc added.irqSet
            prep.cqId prep.cqIrqNo
          let linked := { added with irqSet := irqSet }
          if ret < 0 then
            match linked.findCq prep.cqId with
            | none => (ret, linked)
            | some cq => (ret, dnvmeReleaseCq linked cq)
          else
            (0, linked)

/-- `dnvme_ring_sq_doorbell`. -/
def dnvmeRingSqDoorbell (ndev : NvmeDevice) (sqId : Nat) :
    Int × NvmeDevice :=
  match ndev.findSq sqId with
  | none => (-Errno.EINVAL, ndev)
  | some sq =>
      (0, ndev.setSq sqId
        { sq with tailPtr := sq.tailPtrVirt, db := sq.tailPtrVirt })

/-! ## Cleaning up -/

/-- `dnvme_reinit_asq`. -/
def dnvmeReinitAsq (ndev : NvmeDevice) (sq : NvmeSq) : Outcome NvmeDevice :=
  let (emptied, sq) := dnvmeDeleteCmdList ndev sq
  if !sq.buf then .error .nullPointer
  else
    .ok (emptied.setSq sq.sqId
      { sq with
        headPtr := 0
        tailPtr := 0
        tailPtrVirt := 0
        nextCid := 0
        entries := fun _ => .zero })

/-- `dnvme_reinit_acq`. -/
def dnvmeReinitAcq (ndev : NvmeDevice) (cq : NvmeCq) : Outcome NvmeDevice :=
  if !cq.buf then .error .nullPointer
  else
    .ok (ndev.setCq cq.qId
      { cq with
        headPtr := 0
        tailPtr := 0
        pbitNewEntry := 1
        irqEnabled := 1
        entries := fun _ => .zero })

/-- One turn of the first loop of `dnvme_delete_all_queues`. -/
def clearSq (saveAq : Bool) (ndev : NvmeDevice) (id : Nat) :
    Outcome NvmeDevice :=
  match ndev.findSq id with
  | none => .ok ndev
  | some sq =>
      if saveAq && sq.sqId = nvmeAqId then dnvmeReinitAsq ndev sq
      else .ok (dnvmeReleaseSq ndev sq)

/-- One turn of the second loop of `dnvme_delete_all_queues`. -/
def clearCq (saveAq : Bool) (ndev : NvmeDevice) (id : Nat) :
    Outcome NvmeDevice :=
  match ndev.findCq id with
  | none => .ok ndev
  | some cq =>
      if saveAq && cq.qId = nvmeAqId then dnvmeReinitAcq ndev cq
      else
        let released := dnvmeReleaseCq ndev cq
        if released.bug then .error .bug else .ok released

/-- `dnvme_delete_all_queues`; the admin queues are saved unless the device is
disabled completely. -/
def dnvmeDeleteAllQueues (ndev : NvmeDevice) (saveAq : Bool) :
    Outcome NvmeDevice := do
  let noSqs ← (ndev.sqs.keys.mergeSort).foldlM (clearSq saveAq) ndev
  (noSqs.cqs.keys.mergeSort).foldlM (clearCq saveAq) noSqs

end Dnvme.Driver
