import Dnvme.Driver.QueueAgreement
import Dnvme.Lib.Procedures
import Dnvme.Nvme.IoqInfo

/-!
# Creating and deleting the I/O queues

The library creates a queue with a request to the driver and an admin command,
for which it waits.  Meanwhile the device executes the commands that it has.  A
function of the library is a procedure over the driver, the device and the
admin commands between them.
-/

namespace Dnvme.Nvme.IoQueues

open Dnvme.Driver
open Dnvme.Driver.QueueAgreement
open Dnvme.Lib.Procedures
open Dnvme.Nvme.IoqInfo

/-! ## The driver and the device -/

/-- What may go wrong in a run. -/
structure Faults where
  /-- The driver refuses a request. -/
  refused : Prop
  /-- No completion comes in time. -/
  silent : Prop
  /-- A command that succeeds completes with a retry delay or with one of the
  bits More and Do Not Retry. -/
  flagged : Prop

/-- `NVME_CQE_STATUS_TO_STATE`. -/
def nvmeCqeStatusToState (status : Nat) : Nat :=
  status / 2 % 2 ^ 15

/-- The device executes one of its commands. -/
inductive Executes (faults : Faults) : QueueSystem → QueueSystem → Prop where
  | execute {s : QueueSystem} {command : NvmeCommonCommand}
      {before after : List NvmeCommonCommand} {entry : NvmeCompletion}
      (other : Bool) (some : s.waiting = before ++ command :: after)
      (answers : Answers entry command
        (s.controller.execute other command).1)
      (plain : entry.state = 0 →
        nvmeCqeStatusToState entry.status = 0 ∨ faults.flagged) :
      Executes faults s
        { s with
          controller := (s.controller.execute other command).2
          waiting := before ++ after
          posted := s.posted ++ [(command, entry)] }

/-- The system after a submission. -/
def submitted (s : QueueSystem) (cmd : Nvme64bCmd) (ret : Int)
    (next : NvmeDevice) : QueueSystem :=
  { s with
    ndev := next
    waiting := s.waiting ++
      if ret = 0 ∧ cmd.sqid = nvmeAqId then
        ((SqRing.added nvmeAqId s.ndev next).map (·.command)).toList
      else []
    requests := s.requests + if cmd.sqid = nvmeAqId then 1 else 0 }

/-! ## Requests to the driver -/

section Requests

variable (faults : Faults)

/-- `nvme_prepare_iosq`. -/
def nvmePrepareIosq (psq : NvmePrepSq) : Proc QueueSystem Int :=
  fun s ret t => (ret < 0 → faults.refused) ∧
    ((ret = -Errno.EFAULT ∧ t = s) ∨
      ∃ env, ret = (dnvmePrepareSq env s.ndev psq).1 ∧
        t = { s with ndev := (dnvmePrepareSq env s.ndev psq).2 })

/-- `nvme_prepare_iocq`. -/
def nvmePrepareIocq (pcq : NvmePrepCq) : Proc QueueSystem Int :=
  fun s ret t => (ret < 0 → faults.refused) ∧
    ((ret = -Errno.EFAULT ∧ t = s) ∨
      ∃ env icqAlloc, ret = (dnvmePrepareCq env icqAlloc s.ndev pcq).1 ∧
        t = { s with ndev := (dnvmePrepareCq env icqAlloc s.ndev pcq).2 })

/-- `nvme_submit_64b_cmd`: the identifier that the driver writes back. -/
def nvmeSubmit64bCmd (cmd : Nvme64bCmd) (ccmd : NvmeCommonCommand) :
    Proc QueueSystem Int :=
  fun s ret t => ∃ env code next,
    (env.ccmd = none ∨ env.ccmd = some ccmd) ∧
    dnvmeSubmit64bCmd env s.ndev cmd = .ok (code, next) ∧
    t = submitted s cmd code next ∧ (code < 0 → faults.refused) ∧
    ret = if code < 0 then code
      else ((s.ndev.findSq cmd.sqid).elim 0 NvmeSq.nextCid : Nat)

/-- `nvme_ring_sq_doorbell`. -/
def nvmeRingSqDoorbell (sqid : Nat) : Proc QueueSystem Int :=
  fun s ret t => ret = (dnvmeRingSqDoorbell s.ndev sqid).1 ∧
    t = { s with ndev := (dnvmeRingSqDoorbell s.ndev sqid).2 }

/-- `nvme_gnl_cmd_reap_cqe` for one entry of the admin queue: how many entries
were reaped, and the buffer. -/
def nvmeGnlCmdReapCqe : Proc QueueSystem (Int × NvmeCompletion) :=
  fun s result t => ∃ u, Relation.ReflTransGen (Executes faults) s u ∧
    ((result.1 ≠ 1 ∧ faults.silent ∧ t = u) ∨
      ∃ command entry before after,
        u.posted = before ++ (command, entry) :: after ∧
        result = (1, entry) ∧
        t = { u with
          ndev := (handleCmdCompletion u.ndev entry).2
          posted := before ++ after })

end Requests

/-! ## Admin commands -/

/-- `nvme_valid_cq_entry`. -/
def nvmeValidCqEntry (entry : NvmeCompletion) (sqid cid status : Nat) : Int :=
  if entry.sqId ≠ sqid then -Errno.EINVAL
  else if entry.commandId ≠ cid then -Errno.EINVAL
  else if nvmeCqeStatusToState entry.status ≠ status then -Errno.EINVAL
  else 0

/-- The requests for admin commands; `buf` and `size` are the memory of a queue
that is not contiguous. -/
def adminRequest (contig : Bool) (buf size dataDir : Nat) : Nvme64bCmd where
  sqid := nvmeAqId
  cid := 0
  -- the address of a local variable
  cmdBufPtr := 1
  bitMask := ⟨contig, !contig, false, false, false⟩
  dataBufPtr := buf
  dataBufSize := size
  dataDir := dataDir
  metaId := 0
  nrBitBucket := 0

/-- `NVME_QUEUE_PHYS_CONTIG` if it is wanted. -/
def physContigFlag (contig : Bool) : Nat :=
  if contig then 1 else 0

/-- `nvme_cmd_fill_create_sq`. -/
def nvmeCmdFillCreateSq (sqid cqid elements : Nat) (contig : Bool)
    (prio : Nat) : NvmeCommonCommand :=
  { NvmeCommonCommand.zero with
    opcode := 1
    cdw10 := sqid + u16 (elements + 65535) * 2 ^ 16
    cdw11 := (physContigFlag contig ||| prio) + cqid * 2 ^ 16 }

/-- `nvme_cmd_fill_create_cq`. -/
def nvmeCmdFillCreateCq (cqid elements : Nat) (contig : Bool)
    (irqEn irqNo : Nat) : NvmeCommonCommand :=
  { NvmeCommonCommand.zero with
    opcode := 5
    cdw10 := cqid + u16 (elements + 65535) * 2 ^ 16
    cdw11 := (physContigFlag contig ||| if irqEn ≠ 0 then 2 else 0) +
      irqNo * 2 ^ 16 }

/-- The command of `nvme_cmd_delete_iosq`. -/
def deleteSqCommand (sqid : Nat) : NvmeCommonCommand :=
  { NvmeCommonCommand.zero with opcode := 0, cdw10 := sqid }

/-- The command of `nvme_cmd_delete_iocq`. -/
def deleteCqCommand (cqid : Nat) : NvmeCommonCommand :=
  { NvmeCommonCommand.zero with opcode := 4, cdw10 := cqid }

section Library

variable (faults : Faults)

/-- What the functions for the queues have in common: submit the command, ring
the doorbell, wait for one completion and look at it. -/
def adminCommand (cmd : Nvme64bCmd) (ccmd : NvmeCommonCommand) :
    Proc QueueSystem Int := do
  let cid ← nvmeSubmit64bCmd faults cmd ccmd
  if cid < 0 then return -Errno.EPERM
  else
    let ret ← nvmeRingSqDoorbell nvmeAqId
    if ret < 0 then return -Errno.EPERM
    else
      let (ret, entry) ← nvmeGnlCmdReapCqe faults
      if ret ≠ 1 then return -Errno.ETIME
      else if nvmeValidCqEntry entry nvmeAqId cid.toNat 0 < 0 then
        return -Errno.EPERM
      else return 0

/-- `struct nvme_csq_wrapper`. -/
structure NvmeCsqWrapper where
  sqid : Nat
  cqid : Nat
  elements : Nat
  prio : Nat
  contig : Bool
  buf : Nat
  size : Nat

/-- `struct nvme_ccq_wrapper`. -/
structure NvmeCcqWrapper where
  cqid : Nat
  elements : Nat
  irqNo : Nat
  irqEn : Nat
  contig : Bool
  buf : Nat
  size : Nat

/-- `DMA_BIDIRECTIONAL`. -/
def dmaBidirectional : Nat := 0

/-- `nvme_create_iosq`. -/
def nvmeCreateIosq (wrap : NvmeCsqWrapper) : Proc QueueSystem Int := do
  let ret ← nvmePrepareIosq faults
    ⟨wrap.elements, wrap.sqid, wrap.cqid, wrap.contig, false⟩
  if ret < 0 then return -Errno.EPERM
  else
    adminCommand faults
      (adminRequest wrap.contig wrap.buf wrap.size dmaBidirectional)
      (nvmeCmdFillCreateSq wrap.sqid wrap.cqid wrap.elements wrap.contig
        wrap.prio)

/-- `nvme_create_iocq`. -/
def nvmeCreateIocq (wrap : NvmeCcqWrapper) : Proc QueueSystem Int := do
  let ret ← nvmePrepareIocq faults
    ⟨wrap.elements, wrap.cqid, wrap.contig, wrap.irqEn, wrap.irqNo, false⟩
  if ret < 0 then return -Errno.EPERM
  else
    adminCommand faults
      (adminRequest wrap.contig wrap.buf wrap.size dmaBidirectional)
      (nvmeCmdFillCreateCq wrap.cqid wrap.elements wrap.contig wrap.irqEn
        wrap.irqNo)

/-- `nvme_delete_iosq`. -/
def nvmeDeleteIosq (sqid : Nat) : Proc QueueSystem Int :=
  adminCommand faults { adminRequest false 0 0 0 with
    bitMask := ⟨false, false, false, false, false⟩ } (deleteSqCommand sqid)

/-- `nvme_delete_iocq`. -/
def nvmeDeleteIocq (cqid : Nat) : Proc QueueSystem Int :=
  adminCommand faults { adminRequest false 0 0 0 with
    bitMask := ⟨false, false, false, false, false⟩ } (deleteCqCommand cqid)

/-! ## All queues -/

/-- `NVME_SQ_PRIO_MEDIUM`. -/
def nvmeSqPrioMedium : Nat := 4

/-- `nvme_create_all_iosq`. -/
def nvmeCreateAllIosq (sqs : List NvmeSqInfo) : Proc QueueSystem Int :=
  forEach (fun sq => nvmeCreateIosq faults
    ⟨sq.sqid, sq.cqid, sq.nrEntry, nvmeSqPrioMedium, true, 0, 0⟩) sqs

/-- `nvme_create_all_iocq`. -/
def nvmeCreateAllIocq (cqs : List NvmeCqInfo) : Proc QueueSystem Int :=
  forEach (fun cq => nvmeCreateIocq faults
    ⟨cq.cqid, cq.nrEntry, cq.irqNo, cq.irqEn, true, 0, 0⟩) cqs

/-- `nvme_delete_all_iosq`. -/
def nvmeDeleteAllIosq (sqs : List NvmeSqInfo) : Proc QueueSystem Int :=
  forEach (fun sq => nvmeDeleteIosq faults sq.sqid) sqs

/-- `nvme_delete_all_iocq`. -/
def nvmeDeleteAllIocq (cqs : List NvmeCqInfo) : Proc QueueSystem Int :=
  forEach (fun cq => nvmeDeleteIocq faults cq.cqid) cqs

/-- The branch `NVME_CIOQ_F_CQS_BIND_SINGLE_IRQ` of `nvme_create_all_ioq`;
`number` is the one of `rand()` if the flag is set. -/
def bindSingleIrq (dev : NvmeDevInfo) (number : Option Nat)
    (tables : IoqTables) : Int × IoqTables :=
  match number with
  | none => (0, tables)
  | some number =>
      if dev.irqType = .none ∨ dev.nrIrq = 0 then (-Errno.EPERM, tables)
      else
        (0, { tables with
          iocqs := tables.iocqs.map fun cq =>
            { cq with irqNo := number % dev.nrIrq } })

/-- `nvme_create_all_ioq` after the swap of the plans. -/
def createPlanned (dev : NvmeDevInfo) (number : Option Nat)
    (tables : IoqTables) : Proc QueueSystem (Int × IoqTables) := do
  let (ret, tables) := bindSingleIrq dev number tables
  if ret < 0 then return (ret, tables)
  else
    let ret ← nvmeCreateAllIocq faults tables.iocqs
    if ret < 0 then return (-Errno.EPERM, tables)
    else
      let ret ← nvmeCreateAllIosq faults tables.iosqs
      if ret < 0 then return (-Errno.EPERM, tables)
      else return (0, tables)

/-- `nvme_create_all_ioq`. -/
def nvmeCreateAllIoq (dev : NvmeDevInfo) (sqNumbers cqNumbers : Numbers)
    (number : Option Nat) (tables : IoqTables) :
    Proc QueueSystem (Int × IoqTables) :=
  fun s result t => ∃ swapped,
    nvmeSwapIoqInfoRandom sqNumbers cqNumbers dev tables = .ok swapped ∧
      createPlanned faults dev number swapped s result t

/-- `nvme_delete_all_ioq`. -/
def nvmeDeleteAllIoq (tables : IoqTables) : Proc QueueSystem Int := do
  let ret ← nvmeDeleteAllIosq faults tables.iosqs
  if ret < 0 then return -Errno.EPERM
  else
    let ret ← nvmeDeleteAllIocq faults tables.iocqs
    if ret < 0 then return -Errno.EPERM
    else return 0

end Library

end Dnvme.Nvme.IoQueues
