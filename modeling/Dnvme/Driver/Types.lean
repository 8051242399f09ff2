import Mathlib

/-!
# Data model of the `dnvme` kernel module

The structures of `core.h`, `uapi/dnvme.h` and `uapi/nvme/command.h` that the
queue, command and interrupt code reads or writes.  Machine integers are
natural numbers (or integers, for `int`) with the truncation written out where
the code truncates.  Objects that the code reaches through pointers live in
maps: queues by their identifier, `nvme_prps` by an identity that is never
reused.

External calls that can fail (allocations, user copies, pinning, DMA mapping)
are not modelled here: each operation receives their outcomes as an argument.
-/

namespace Dnvme.Driver

/-! ## Machine integers and constants -/

/-- Conversion to `u16`. -/
def u16 (value : Nat) : Nat :=
  value % 2 ^ 16

/-- Conversion to `u32`. -/
def u32 (value : Nat) : Nat :=
  value % 2 ^ 32

/-- Conversion to a 32-bit `int`. -/
def s32 (value : Int) : Int :=
  value.bmod (2 ^ 32)

theorem s32_of_range {value : Int} (lower : -2 ^ 31 ≤ value)
    (upper : value < 2 ^ 31) : s32 value = value := by
  unfold s32
  rw [Int.bmod_def]
  split <;> omega

theorem s32_range (value : Int) :
    -2 ^ 31 ≤ s32 value ∧ s32 value < 2 ^ 31 := by
  unfold s32
  rw [Int.bmod_def]
  split <;> omega

/-- `PAGE_SIZE`. -/
def pageSize : Nat := 4096

theorem pageSize_pos : 0 < pageSize := by
  decide

/-- `NVME_PRP_ENTRY_SIZE`. -/
def nvmePrpEntrySize : Nat := 8

/-- `sizeof(struct nvme_sgl_desc)`. -/
def nvmeSglDescSize : Nat := 16

/-- `NVME_SGES_PER_PAGE`. -/
def nvmeSgesPerPage : Nat := pageSize / nvmeSglDescSize

/-- `NVME_PRPS_PER_PAGE`. -/
def nvmePrpsPerPage : Nat := pageSize / nvmePrpEntrySize

/-- `DIV_ROUND_UP`. -/
def divRoundUp (value unit : Nat) : Nat :=
  (value + unit - 1) / unit

/-- `offset_in_page`. -/
def offsetInPage (address : Nat) : Nat :=
  address % pageSize

/-- `NVME_AQ_ID`. -/
def nvmeAqId : Nat := 0

/-- `NVME_AQ_MAX_SIZE`. -/
def nvmeAqMaxSize : Nat := 4096

/-- `NVME_ADM_SQES` and `NVME_NVM_IOSQES`. -/
def nvmeSqes : Nat := 6

/-- `NVME_ADM_CQES` and `NVME_NVM_IOCQES`. -/
def nvmeCqes : Nat := 4

namespace Errno

abbrev EPERM : Int := 1
abbrev ENOENT : Int := 2
abbrev ENOMEM : Int := 12
abbrev EFAULT : Int := 14
abbrev EBUSY : Int := 16
abbrev EEXIST : Int := 17
abbrev ENODEV : Int := 19
abbrev EINVAL : Int := 22
abbrev EBADRQC : Int := 56
abbrev EBADSLT : Int := 57
abbrev ETIME : Int := 62
abbrev EOPNOTSUPP : Int := 95
abbrev ETIMEDOUT : Int := 110

end Errno

/-- What stops the kernel instead of returning an error code. -/
inductive Oops where
  /-- A null pointer other than a queue's memory is dereferenced. -/
  | nullPointer
  /-- Queue memory that is missing or too short is accessed. -/
  | queueMemory
  /-- An object is used after it was freed. -/
  | useAfterFree
  /-- An address outside every object is written. -/
  | wildPointer
  /-- `BUG_ON`. -/
  | bug
  /-- A loop never ends. -/
  | endlessLoop
  deriving DecidableEq, Repr

/-- The result of kernel code. -/
abbrev Outcome (α : Type) := Except Oops α

/-- An `xarray`: a finite map from indices to objects. -/
abbrev XArray (α : Type) := AList fun _ : Nat => α

/-! ## Commands and completions -/

/-- The opcodes the driver treats specially on the admin queue. -/
inductive AdminOpcode where
  | deleteSq
  | createSq
  | deleteCq
  | createCq
  | other
  deriving DecidableEq, Repr

/-- Decode `enum nvme_admin_opcode`. -/
def adminOpcode (opcode : Nat) : AdminOpcode :=
  if opcode = 0x00 then .deleteSq
  else if opcode = 0x01 then .createSq
  else if opcode = 0x04 then .deleteCq
  else if opcode = 0x05 then .createCq
  else .other

/-- `struct nvme_sgl_desc`. -/
structure NvmeSglDesc where
  addr : Nat
  length : Nat
  rsvd : Nat
  type : Nat
  deriving DecidableEq, Repr

/-- A zeroed descriptor. -/
def NvmeSglDesc.zero : NvmeSglDesc := ⟨0, 0, 0, 0⟩

/-- `union nvme_data_ptr` as its two double words. -/
structure NvmeDataPtr where
  prp1 : Nat
  prp2 : Nat
  deriving DecidableEq, Repr

/-- The `sgl` member of the union. -/
def NvmeDataPtr.sgl (pointer : NvmeDataPtr) : NvmeSglDesc :=
  ⟨pointer.prp1, pointer.prp2 % 2 ^ 32, pointer.prp2 / 2 ^ 32 % 2 ^ 24,
    pointer.prp2 / 2 ^ 56⟩

/-- The union after its `sgl` member was written. -/
def NvmeDataPtr.ofSgl (desc : NvmeSglDesc) : NvmeDataPtr :=
  ⟨desc.addr, desc.length + desc.rsvd * 2 ^ 32 + desc.type * 2 ^ 56⟩

/-- `struct nvme_common_command`. -/
structure NvmeCommonCommand where
  opcode : Nat
  flags : Nat
  commandId : Nat
  nsid : Nat
  cdw2 : Nat
  cdw3 : Nat
  metadata : Nat
  dptr : NvmeDataPtr
  cdw10 : Nat
  cdw11 : Nat
  cdw12 : Nat
  cdw13 : Nat
  cdw14 : Nat
  cdw15 : Nat
  deriving DecidableEq, Repr

/-- An all-zero submission queue entry. -/
def NvmeCommonCommand.zero : NvmeCommonCommand :=
  ⟨0, 0, 0, 0, 0, 0, 0, ⟨0, 0⟩, 0, 0, 0, 0, 0, 0⟩

/-- `sqid` of `struct nvme_create_sq`, `cqid` of `struct nvme_create_cq` and
`qid` of `struct nvme_delete_queue`: the low half of dword 10. -/
def NvmeCommonCommand.qid (command : NvmeCommonCommand) : Nat :=
  u16 command.cdw10

/-- `sq_flags` and `cq_flags`: the low half of dword 11. -/
def NvmeCommonCommand.queueFlags (command : NvmeCommonCommand) : Nat :=
  u16 command.cdw11

/-- `cqid` of `struct nvme_create_sq`: the high half of dword 11. -/
def NvmeCommonCommand.attachedCqid (command : NvmeCommonCommand) : Nat :=
  u16 (command.cdw11 / 2 ^ 16)

/-- `flags & NVME_QUEUE_PHYS_CONTIG`. -/
def NvmeCommonCommand.physContig (command : NvmeCommonCommand) : Bool :=
  command.queueFlags.testBit 0

/-- `flags & NVME_CQ_IRQ_ENABLED`. -/
def NvmeCommonCommand.cqIrqEnabled (command : NvmeCommonCommand) : Bool :=
  command.queueFlags.testBit 1

/-- `flags & NVME_CMD_SGL_ALL`. -/
def NvmeCommonCommand.usesSgl (command : NvmeCommonCommand) : Bool :=
  command.flags.testBit 6 || command.flags.testBit 7

/-- `struct nvme_completion`. -/
structure NvmeCompletion where
  result : Nat
  sqHead : Nat
  sqId : Nat
  commandId : Nat
  status : Nat
  deriving DecidableEq, Repr

/-- An all-zero completion queue entry. -/
def NvmeCompletion.zero : NvmeCompletion := ⟨0, 0, 0, 0, 0⟩

/-- `NVME_CQE_STATUS_TO_PHASE`. -/
def NvmeCompletion.phase (entry : NvmeCompletion) : Nat :=
  entry.status % 2

/-- `NVME_CQE_STATUS_TO_STATE(status) & 0x7ff`. -/
def NvmeCompletion.state (entry : NvmeCompletion) : Nat :=
  entry.status / 2 % 2 ^ 11

/-- `struct nvme_sgl_bit_bucket`. -/
structure NvmeSglBitBucket where
  offset : Nat
  length : Nat
  deriving DecidableEq, Repr

/-- `enum nvme_64b_cmd_mask`, as the bits of `bit_mask`. -/
structure Nvme64bCmdMask where
  prp1Page : Bool
  prp1List : Bool
  prp2Page : Bool
  prp2List : Bool
  mptr : Bool
  deriving DecidableEq, Repr

/-- `struct nvme_64b_cmd`.  Pointers are addresses; 0 is `NULL`. -/
structure Nvme64bCmd where
  sqid : Nat
  cid : Nat
  cmdBufPtr : Nat
  bitMask : Nvme64bCmdMask
  dataBufPtr : Nat
  dataBufSize : Nat
  dataDir : Nat
  metaId : Nat
  nrBitBucket : Nat
  deriving DecidableEq, Repr

/-! ## Mapped user memory -/

/-- One entry of a scatter list, before and after DMA mapping. -/
structure ScatterEntry where
  page : Nat
  offset : Nat
  length : Nat
  dmaAddress : Nat
  dmaLength : Nat
  deriving DecidableEq, Repr

/-- The pool a list page comes from. -/
inductive DmaPool where
  | cmdPool
  | queuePool
  | metaPool
  deriving DecidableEq, Repr

/-- The contents of the list pages, by page index and slot. -/
inductive ListPages where
  | prp (entry : Nat → Nat → Nat)
  | sgl (desc : Nat → Nat → NvmeSglDesc)

/-- `struct nvme_prps`. -/
structure NvmePrps where
  pgPool : DmaPool
  prpList : Option ListPages
  pgAddr : List Nat
  nrPages : Nat
  nrEntry : Nat
  isSgl : Bool
  /-- Whether the pages are also mapped for the kernel (`buf`). -/
  buf : Bool
  sg : Option (List ScatterEntry)
  numMapPgs : Nat
  dataBufSize : Nat
  dataBufAddr : Nat
  dataDir : Nat

/-- What `kzalloc` returns for `struct nvme_prps`. -/
def NvmePrps.zero (pool : DmaPool) : NvmePrps :=
  ⟨pool, none, [], 0, 0, false, false, none, 0, 0, 0, 0⟩

/-! ## Queues -/

/-- `struct nvme_cmd`.  `node` is the identity of the allocated node. -/
structure NvmeCmd where
  node : Nat
  cid : Nat
  sqid : Nat
  targetQid : Nat
  idx : Nat
  opcode : Nat
  prps : Option Nat
  deriving DecidableEq, Repr

/--
`struct nvme_sq` with its public part.  `entries` is the content of the queue
memory, wherever that memory is; `db` is the tail doorbell register.
-/
structure NvmeSq where
  sqId : Nat
  cqId : Nat
  tailPtr : Nat
  tailPtrVirt : Nat
  headPtr : Nat
  elements : Nat
  sqes : Nat
  cmdList : List NvmeCmd
  buf : Bool
  dma : Nat
  size : Nat
  entries : Nat → NvmeCommonCommand
  prps : Option Nat
  db : Nat
  nextCid : Nat
  contig : Bool
  created : Bool
  useCmb : Bool

/--
`struct nvme_cq` with its public part.  `entries` is the content of the queue
memory, wherever that memory is; `db` is the head doorbell register.
-/
structure NvmeCq where
  qId : Nat
  tailPtr : Nat
  headPtr : Nat
  elements : Nat
  irqEnabled : Nat
  irqNo : Nat
  pbitNewEntry : Nat
  cqes : Nat
  buf : Bool
  dma : Nat
  size : Nat
  entries : Nat → NvmeCompletion
  prps : Option Nat
  db : Nat
  contig : Bool
  created : Bool
  useCmb : Bool

/-- `struct nvme_meta`; its `nvme_prps` is kept by value. -/
structure NvmeMeta where
  contig : Bool
  dma : Nat
  prps : Option NvmePrps

/-! ## Interrupts -/

/-- `enum nvme_irq_type`; a request may also carry a value that has no
name. -/
inductive NvmeIrqType where
  | msiSingle
  | msiMulti
  | msix
  | pin
  | none
  | unknown (value : Nat)
  deriving DecidableEq, Repr

/-- `struct nvme_irq`; `icqList` holds the `cq_id` of each icq node. -/
structure NvmeIrq where
  irqId : Nat
  intVec : Nat
  isrFired : Bool
  isrCount : Nat
  icqList : List Nat
  deriving DecidableEq, Repr

/-- `struct nvme_work`; `queued` says that it waits in the work queue. -/
structure NvmeWork where
  irqId : Nat
  intVec : Nat
  queued : Bool
  deriving DecidableEq, Repr

/-- The `msix` part of `struct nvme_irq_set`; offsets into BAR0. -/
structure NvmeMsix where
  irqs : Nat
  tb : Option Nat
  pba : Option Nat
  deriving DecidableEq, Repr

/--
`struct nvme_irq_set`, with what it set up outside: `handlers` are the vectors
with a registered handler, `mode` is the interrupt mode of the function,
`intMasked` are the bits of INTMS and `msixMasked` the mask bits of the MSI-X
table.
-/
structure NvmeIrqSet where
  irqList : List NvmeIrq
  workList : List NvmeWork
  irqType : NvmeIrqType
  nrIrq : Nat
  wq : Bool
  msix : NvmeMsix
  handlers : List Nat
  mode : NvmeIrqType
  intMasked : Nat → Bool
  msixMasked : Nat → Bool

/-! ## The device -/

/--
`struct nvme_device`.  `prpsHeap` holds the live `nvme_prps`, `released` the
identities of those that were released, in order.  `pinned` and `poolPages`
are the user pages and list pages in use.  `bug` says that a `BUG_ON` was hit,
behind which nothing runs any more.
-/
structure NvmeDevice where
  sqs : XArray NvmeSq
  cqs : XArray NvmeCq
  metas : XArray NvmeMeta
  prpsHeap : XArray NvmePrps
  released : List Nat
  nextObject : Nat
  pinned : List Nat
  poolPages : List Nat
  irqSet : NvmeIrqSet
  ccEnable : Bool
  capCqr : Bool
  cmbSqs : Bool
  cmbCqs : Bool
  qDepth : Nat
  bug : Bool

/-- A device as `dnvme_alloc_device` leaves it. -/
def NvmeDevice.fresh (qDepth : Nat) (capCqr cmbSqs cmbCqs : Bool) :
    NvmeDevice where
  sqs := ∅
  cqs := ∅
  metas := ∅
  prpsHeap := ∅
  released := []
  nextObject := 0
  pinned := []
  poolPages := []
  irqSet := ⟨[], [], .none, 0, false, ⟨0, none, none⟩, [], .none,
    fun _ => false, fun _ => false⟩
  ccEnable := false
  capCqr := capCqr
  cmbSqs := cmbSqs
  cmbCqs := cmbCqs
  qDepth := qDepth
  bug := false

/-- `dnvme_find_sq`. -/
def NvmeDevice.findSq (ndev : NvmeDevice) (id : Nat) : Option NvmeSq :=
  ndev.sqs.lookup id

/-- `dnvme_find_cq`. -/
def NvmeDevice.findCq (ndev : NvmeDevice) (id : Nat) : Option NvmeCq :=
  ndev.cqs.lookup id

/-- Write back a submission queue object. -/
def NvmeDevice.setSq (ndev : NvmeDevice) (id : Nat) (sq : NvmeSq) :
    NvmeDevice :=
  { ndev with sqs := ndev.sqs.insert id sq }

/-- Write back a completion queue object. -/
def NvmeDevice.setCq (ndev : NvmeDevice) (id : Nat) (cq : NvmeCq) :
    NvmeDevice :=
  { ndev with cqs := ndev.cqs.insert id cq }

end Dnvme.Driver
