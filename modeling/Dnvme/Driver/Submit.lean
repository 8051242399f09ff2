import Dnvme.Driver.Sgl
import Dnvme.Driver.Queue

/-!
# Submitting commands

This module embeds `dnvme_submit_64b_cmd` and everything below it in `cmd.c`.
A submission takes the outcomes of its external calls as one `SubmitEnv`; it
returns the error code and the device, or the `Oops` that stopped it.

The memory of a contiguous queue is the buffer of the queue object.  The
memory of a discontiguous queue is the user memory that a create command
attached to it, and there is none before.
-/

namespace Dnvme.Driver

/-! ## Queue memory -/

/-- The bytes the kernel can reach through a set of mapped pages. -/
def NvmeDevice.prpsSpan (ndev : NvmeDevice) (prps : Option Nat) :
    Option Nat :=
  match prps with
  | none => none
  | some id =>
      match ndev.prpsHeap.lookup id with
      | none => none
      | some prps =>
          if prps.buf then some (prps.numMapPgs * pageSize) else none

/-- The bytes of queue memory behind `sq->buf` or `sq->prps->buf`. -/
def NvmeDevice.sqSpan (ndev : NvmeDevice) (sq : NvmeSq) : Option Nat :=
  if sq.contig then (if sq.buf then some sq.size else none)
  else ndev.prpsSpan sq.prps

/-- The bytes of queue memory behind `cq->buf` or `cq->prps->buf`. -/
def NvmeDevice.cqSpan (ndev : NvmeDevice) (cq : NvmeCq) : Option Nat :=
  if cq.contig then (if cq.buf then some cq.size else none)
  else ndev.prpsSpan cq.prps

/-- Whether the entry `slot` of `2 ^ shift` bytes lies in the span. -/
def slotInside (span : Option Nat) (shift slot : Nat) : Bool :=
  match span with
  | none => false
  | some bytes => (slot + 1) * 2 ^ shift ≤ bytes

/-! ## External outcomes -/

/-- The outcomes of the external calls of `dnvme_submit_64b_cmd`. -/
structure SubmitEnv where
  /-- `copy_from_user` of the request. -/
  copyCmd : Bool
  /-- `kzalloc` of the command buffer. -/
  bufAlloc : Bool
  /-- The 64-byte command that `copy_from_user` reads. -/
  ccmd : Option NvmeCommonCommand
  /-- `copy_to_user` of the request with its identifier. -/
  copyBack : Bool
  /-- `kzalloc` of the `nvme_prps`. -/
  prpsAlloc : Bool
  /-- `kzalloc` of the command node. -/
  nodeAlloc : Bool
  map : MapEnv
  sgl : SglEnv
  list : ListEnv
  /-- What the user memory holds when it becomes the memory of a queue. -/
  userSq : Nat → NvmeCommonCommand
  userCq : Nat → NvmeCompletion

/-- No external call fails. -/
def SubmitEnv.smooth (map : MapEnv) (list : ListEnv)
    (ccmd : NvmeCommonCommand) : SubmitEnv where
  copyCmd := true
  bufAlloc := true
  ccmd := some ccmd
  copyBack := true
  prpsAlloc := true
  nodeAlloc := true
  map := map
  sgl := ⟨true, none, BucketSort.byOffset, true, list⟩
  list := list
  userSq := fun _ => .zero
  userCq := fun _ => .zero

/-! ## The command node -/

/-- Who holds a set of mapped pages. -/
inductive PrpsOwner where
  | command
  | submissionQueue (id : Nat)
  | completionQueue (id : Nat)
  deriving DecidableEq, Repr

/-- `target_qid` of the node of a command. -/
def targetQid (cmd : Nvme64bCmd) (ccmd : NvmeCommonCommand) : Nat :=
  if cmd.sqid = nvmeAqId then
    match adminOpcode ccmd.opcode with
    | .createSq | .createCq | .deleteSq | .deleteCq => ccmd.qid
    | .other => 0
  else
    0

/-- The owner `dnvme_add_cmd_node` chooses for the pages of a command. -/
def prpsOwner (cmd : Nvme64bCmd) (ccmd : NvmeCommonCommand) : PrpsOwner :=
  if targetQid cmd ccmd = 0 then .command
  else
    match adminOpcode ccmd.opcode with
    | .createSq => .submissionQueue (targetQid cmd ccmd)
    | .createCq => .completionQueue (targetQid cmd ccmd)
    -- the delete commands carry no pages
    | _ => .command

/-- `wait_sq->prps = prps`. -/
def NvmeDevice.attachSq (ndev : NvmeDevice) (env : SubmitEnv) (id prps : Nat) :
    NvmeDevice :=
  match ndev.findSq id with
  | none => ndev
  | some sq =>
      ndev.setSq id
        { sq with
          prps := some prps
          entries := if sq.contig then sq.entries else env.userSq }

/-- `wait_cq->prps = prps`. -/
def NvmeDevice.attachCq (ndev : NvmeDevice) (env : SubmitEnv) (id prps : Nat) :
    NvmeDevice :=
  match ndev.findCq id with
  | none => ndev
  | some cq =>
      ndev.setCq id
        { cq with
          prps := some prps
          entries := if cq.contig then cq.entries else env.userCq }

/-- Hand a new set of mapped pages to its owner. -/
def NvmeDevice.givePrps (ndev : NvmeDevice) (env : SubmitEnv)
    (owner : PrpsOwner) (prps : NvmePrps) : NvmeDevice :=
  let id := ndev.nextObject
  let added :=
    { ndev with
      prpsHeap := ndev.prpsHeap.insert id prps
      nextObject := id + 1 }
  match owner with
  | .command => added
  | .submissionQueue target => added.attachSq env target id
  | .completionQueue target => added.attachCq env target id

/-- The node that `dnvme_add_cmd_node` fills. -/
def newNode (node : Nat) (sq : NvmeSq) (cmd : Nvme64bCmd)
    (ccmd : NvmeCommonCommand) (prps : Option Nat) : NvmeCmd where
  node := node
  cid := ccmd.commandId
  sqid := cmd.sqid
  targetQid := targetQid cmd ccmd
  idx := sq.tailPtrVirt
  opcode := ccmd.opcode
  prps := prps

/-- `list_add_tail` of a new node. -/
def NvmeDevice.addNode (ndev : NvmeDevice) (sqid : Nat) (node : NvmeCmd) :
    NvmeDevice :=
  match ndev.findSq sqid with
  | none => ndev
  | some sq =>
      { ndev.setSq sqid { sq with cmdList := sq.cmdList ++ [node] } with
        nextObject := ndev.nextObject + 1 }

/-- The `BUG_ON`s of `dnvme_add_cmd_node`: the target of a create command is
missing. -/
def targetMissing (ndev : NvmeDevice) (cmd : Nvme64bCmd)
    (ccmd : NvmeCommonCommand) : Bool :=
  cmd.sqid = nvmeAqId &&
    match adminOpcode ccmd.opcode with
    | .createSq => (ndev.findSq ccmd.qid).isNone
    | .createCq => (ndev.findCq ccmd.qid).isNone
    | _ => false

/-- `dnvme_add_cmd_node`. -/
def dnvmeAddCmdNode (env : SubmitEnv) (ndev : NvmeDevice)
    (cmd : Nvme64bCmd) (ccmd : NvmeCommonCommand)
    (prps : Option NvmePrps) : Outcome (Int × NvmeDevice) :=
  match ndev.findSq cmd.sqid with
  | none => .ok (-Errno.EBADSLT, ndev)
  | some sq =>
      if !env.nodeAlloc then .ok (-Errno.ENOMEM, ndev)
      else if targetMissing ndev cmd ccmd then .error .bug
      else
        match prps with
        | none =>
            .ok (0, ndev.addNode cmd.sqid
              (newNode ndev.nextObject sq cmd ccmd none))
        | some prps =>
            let owner := prpsOwner cmd ccmd
            let given := ndev.givePrps env owner prps
            let held :=
              if owner = .command then some ndev.nextObject else none
            .ok (0, given.addNode cmd.sqid
              (newNode given.nextObject sq cmd ccmd held))

/-! ## Preparing a command -/

/-- Whether `dnvme_prepare_64b_cmd` maps the data buffer. -/
def needPrp (cmd : Nvme64bCmd) (ccmd : NvmeCommonCommand) : Bool :=
  if cmd.sqid = nvmeAqId then
    match adminOpcode ccmd.opcode with
    | .deleteSq | .deleteCq => false
    | _ => cmd.dataBufPtr ≠ 0
  else
    cmd.dataBufPtr ≠ 0

/-- The pool of the list pages. -/
def prpsPool (cmd : Nvme64bCmd) (ccmd : NvmeCommonCommand) : DmaPool :=
  if createsQueue cmd ccmd then .queuePool else .cmdPool

/-- `dnvme_use_sgls`. -/
def dnvmeUseSgls (ccmd : NvmeCommonCommand) (cmd : Nvme64bCmd) : Bool :=
  ccmd.usesSgl && cmd.sqid ≠ 0

/-- `dnvme_cmd_setup_sgl` or `dnvme_setup_prps`. -/
def setupPrps (env : SubmitEnv) (poolPages : List Nat) (cmd : Nvme64bCmd)
    (ccmd : NvmeCommonCommand) (prps : NvmePrps) : Outcome SetupResult :=
  if dnvmeUseSgls ccmd cmd then do
    let result ← dnvmeCmdSetupSgl env.sgl poolPages cmd ccmd prps
    return { result with prps := { result.prps with isSgl := true } }
  else do
    let result ← dnvmeSetupPrps env.list poolPages cmd ccmd prps
    return { result with prps := { result.prps with isSgl := false } }

/-- `dnvme_prepare_64b_cmd`: the return value, the command and the device. -/
def dnvmePrepare64bCmd (env : SubmitEnv) (ndev : NvmeDevice)
    (cmd : Nvme64bCmd) (ccmd : NvmeCommonCommand) :
    Outcome (Int × NvmeCommonCommand × NvmeDevice) :=
  if !needPrp cmd ccmd then do
    let (ret, added) ← dnvmeAddCmdNode env ndev cmd ccmd none
    return (ret, ccmd, added)
  else if !env.prpsAlloc then
    .ok (-Errno.ENOMEM, ccmd, ndev)
  else do
    let mapped ← dnvmeMapUserPage env.map ndev.pinned
      (.zero (prpsPool cmd ccmd)) cmd.dataBufPtr cmd.dataBufSize cmd.dataDir
      (createsQueue cmd ccmd)
    let pinned := { ndev with pinned := mapped.pinned }
    if mapped.ret < 0 then
      return (mapped.ret, ccmd, pinned)
    else
      let result ← setupPrps env ndev.poolPages cmd ccmd mapped.prps
      if result.ret < 0 then
        return (result.ret, result.ccmd,
          { pinned with
            poolPages := result.poolPages
            pinned := dnvmeUnmapUserPage result.prps mapped.pinned })
      else
        let ready := { pinned with poolPages := result.poolPages }
        let (ret, added) ←
          dnvmeAddCmdNode env ready cmd result.ccmd (some result.prps)
        if ret < 0 then
          return (ret, result.ccmd,
            { added with
              poolPages := dnvmeFreePrpList result.prps added.poolPages
              pinned := dnvmeUnmapUserPage result.prps added.pinned })
        else
          return (0, result.ccmd, added)

/-- `wait_sq->created = 1`. -/
def NvmeDevice.markSqCreated (ndev : NvmeDevice) (id : Nat) : NvmeDevice :=
  match ndev.findSq id with
  | none => ndev
  | some sq => ndev.setSq id { sq with created := true }

/-- `wait_cq->created = 1`. -/
def NvmeDevice.markCqCreated (ndev : NvmeDevice) (id : Nat) : NvmeDevice :=
  match ndev.findCq id with
  | none => ndev
  | some cq => ndev.setCq id { cq with created := true }

/-- `dnvme_create_iosq`. -/
def dnvmeCreateIosq (env : SubmitEnv) (ndev : NvmeDevice)
    (cmd : Nvme64bCmd) (ccmd : NvmeCommonCommand) :
    Outcome (Int × NvmeCommonCommand × NvmeDevice) :=
  match ndev.findSq ccmd.qid with
  | none => .ok (-Errno.EINVAL, ccmd, ndev)
  | some sq =>
      if ccmd.physContig ≠ sq.contig then .ok (-Errno.EINVAL, ccmd, ndev)
      else if (!sq.contig && cmd.dataBufPtr = 0) || (sq.contig && !sq.buf)
      then
        .ok (-Errno.EINVAL, ccmd, ndev)
      else if sq.created then .ok (-Errno.EPERM, ccmd, ndev)
      else do
        let (ret, filled, prepared) ← dnvmePrepare64bCmd env ndev cmd ccmd
        if ret < 0 then
          return (ret, filled, prepared)
        else
          let pointed :=
            if sq.contig then { filled with dptr := ⟨sq.dma, 0⟩ } else filled
          return (0, pointed, prepared.markSqCreated ccmd.qid)

/-- `dnvme_create_iocq`. -/
def dnvmeCreateIocq (env : SubmitEnv) (ndev : NvmeDevice)
    (cmd : Nvme64bCmd) (ccmd : NvmeCommonCommand) :
    Outcome (Int × NvmeCommonCommand × NvmeDevice) :=
  match ndev.findCq ccmd.qid with
  | none => .ok (-Errno.EBADSLT, ccmd, ndev)
  | some cq =>
      if ccmd.physContig ≠ cq.contig then .ok (-Errno.EINVAL, ccmd, ndev)
      else if (!cq.contig && cmd.dataBufPtr = 0) || (cq.contig && !cq.buf)
      then
        .ok (-Errno.EINVAL, ccmd, ndev)
      else if cq.created then .ok (-Errno.EINVAL, ccmd, ndev)
      else if ccmd.cqIrqEnabled && ndev.irqSet.irqType = .none then
        .ok (-Errno.EINVAL, ccmd, ndev)
      else do
        let (ret, filled, prepared) ← dnvmePrepare64bCmd env ndev cmd ccmd
        if ret < 0 then
          return (ret, filled, prepared)
        else
          let pointed :=
            if cq.contig then { filled with dptr := ⟨cq.dma, 0⟩ } else filled
          return (0, pointed, prepared.markCqCreated ccmd.qid)

/-- The switch over the opcode; `dnvme_delete_iosq`, `dnvme_delete_iocq` and
`dnvme_deal_ccmd` only prepare the command. -/
def dispatchCmd (env : SubmitEnv) (ndev : NvmeDevice) (cmd : Nvme64bCmd)
    (ccmd : NvmeCommonCommand) :
    Outcome (Int × NvmeCommonCommand × NvmeDevice) :=
  if cmd.sqid = nvmeAqId then
    match adminOpcode ccmd.opcode with
    | .createSq => dnvmeCreateIosq env ndev cmd ccmd
    | .createCq => dnvmeCreateIocq env ndev cmd ccmd
    | .deleteSq | .deleteCq | .other =>
        dnvmePrepare64bCmd env ndev cmd ccmd
  else
    dnvmePrepare64bCmd env ndev cmd ccmd

/-- `dnvme_fill_mptr`. -/
def dnvmeFillMptr (ndev : NvmeDevice) (ccmd : NvmeCommonCommand)
    (metaId : Nat) : Outcome (Int × NvmeCommonCommand) :=
  match ndev.metas.lookup metaId with
  | none => .ok (-Errno.EINVAL, ccmd)
  | some node =>
      if node.contig then .ok (0, { ccmd with metadata := node.dma })
      else
        match node.prps with
        | none => .error .nullPointer
        | some prps =>
            .ok (0, { ccmd with metadata := prps.pgAddr.getD 0 0 })

/-- The metadata pointer of a command that asks for one. -/
def askedMptr (ndev : NvmeDevice) (cmd : Nvme64bCmd)
    (ccmd : NvmeCommonCommand) : Outcome (Int × NvmeCommonCommand) :=
  if cmd.bitMask.mptr then dnvmeFillMptr ndev ccmd cmd.metaId
  else .ok (0, ccmd)

/-! ## Submission -/

/-- Change the next identifier of a queue. -/
def NvmeDevice.setNextCid (ndev : NvmeDevice) (sqid nextCid : Nat) :
    NvmeDevice :=
  match ndev.findSq sqid with
  | none => ndev
  | some sq => ndev.setSq sqid { sq with nextCid := nextCid }

/-- Copy the command into its slot and advance the tail. -/
def NvmeDevice.writeEntry (ndev : NvmeDevice) (sqid : Nat)
    (ccmd : NvmeCommonCommand) : Outcome NvmeDevice :=
  match ndev.findSq sqid with
  | none => .error .useAfterFree
  | some sq =>
      if slotInside (ndev.sqSpan sq) sq.sqes sq.tailPtrVirt then
        .ok (ndev.setSq sqid
          { sq with
            entries := Function.update sq.entries sq.tailPtrVirt ccmd
            tailPtrVirt := u16 ((sq.tailPtrVirt + 1) % sq.elements) })
      else
        .error .queueMemory

/-- `dnvme_submit_64b_cmd` from the new identifier on. -/
def submitNumbered (env : SubmitEnv) (ndev : NvmeDevice) (sq : NvmeSq)
    (cmd : Nvme64bCmd) (ccmd : NvmeCommonCommand) :
    Outcome (Int × NvmeDevice) := do
  let cid := sq.nextCid
  let numbered := ndev.setNextCid cmd.sqid (u16 (cid + 1))
  let ccmd := { ccmd with commandId := cid }
  if !env.copyBack then
    return (-Errno.EFAULT, numbered)
  else
    let (ret, ccmd) ← askedMptr numbered cmd ccmd
    if ret < 0 then
      return (ret, numbered)
    else
      let (ret, ccmd, done) ← dispatchCmd env numbered cmd ccmd
      if ret < 0 then
        return (ret, done.setNextCid cmd.sqid cid)
      else
        let written ← done.writeEntry cmd.sqid ccmd
        return (0, written)

/-- `dnvme_submit_64b_cmd`. -/
def dnvmeSubmit64bCmd (env : SubmitEnv) (ndev : NvmeDevice)
    (cmd : Nvme64bCmd) : Outcome (Int × NvmeDevice) :=
  if !env.copyCmd then .ok (-Errno.EFAULT, ndev)
  else if cmd.cmdBufPtr = 0 then .ok (-Errno.EFAULT, ndev)
  else if (cmd.dataBufSize ≠ 0 && cmd.dataBufPtr = 0) ||
      (cmd.dataBufSize = 0 && cmd.dataBufPtr ≠ 0) then
    .ok (-Errno.EINVAL, ndev)
  else
    match ndev.findSq cmd.sqid with
    | none => .ok (-Errno.EBADSLT, ndev)
    | some sq =>
        if dnvmeSqIsFull sq then .ok (-Errno.EBUSY, ndev)
        else if !env.bufAlloc then .ok (-Errno.ENOMEM, ndev)
        else
          match env.ccmd with
          | none => .ok (-Errno.EFAULT, ndev)
          | some ccmd => submitNumbered env ndev sq cmd ccmd

end Dnvme.Driver
