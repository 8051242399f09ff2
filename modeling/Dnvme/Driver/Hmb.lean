import Dnvme.Driver.Types

/-!
# The host memory buffer

This module embeds `dnvme_alloc_hmb`, `dnvme_release_hmb` and everything below
them in `ioctl.c`.  The user's request is copied twice, and may change in
between: first its head, then the head and the sizes of the buffers.

Kernel memory is the list of what is allocated.  Giving back what is not
allocated, or an access outside an array, is a fault.
-/

namespace Dnvme.Driver.Hmb

open Dnvme.Driver

/-! ## Kernel memory -/

/-- What stops the driver. -/
inductive Fault where
  | outOfBounds
  | badFree
  deriving DecidableEq, Repr

/-- A value or a fault. -/
abbrev Checked := Except Fault

/-- The allocations that were not given back, and the next one, which is not
among them. -/
structure KernelHeap where
  live : List Nat
  next : Nat
  fresh : ∀ pointer ∈ live, pointer < next
  nodup : live.Nodup

/-- Nothing is allocated. -/
def KernelHeap.empty : KernelHeap :=
  ⟨[], 0, by simp, List.nodup_nil⟩

/-- A new allocation. -/
def KernelHeap.alloc (heap : KernelHeap) : KernelHeap where
  live := heap.next :: heap.live
  next := heap.next + 1
  fresh pointer member := by
    rcases List.mem_cons.mp member with rfl | old
    · exact Nat.lt_succ_self _
    · exact Nat.lt_succ_of_lt (heap.fresh pointer old)
  nodup := by
    refine List.nodup_cons.mpr ⟨fun member => ?_, heap.nodup⟩
    exact Nat.lt_irrefl _ (heap.fresh _ member)

/-- The heap without an allocation. -/
def KernelHeap.without (heap : KernelHeap) (pointer : Nat) :
    KernelHeap where
  live := heap.live.erase pointer
  next := heap.next
  fresh other member := heap.fresh other (List.mem_of_mem_erase member)
  nodup := heap.nodup.erase pointer

/-- `kfree` and `dma_free_coherent`; both ignore `NULL`. -/
def KernelHeap.free (heap : KernelHeap) : Option Nat → Checked KernelHeap
  | none => .ok heap
  | some pointer =>
      if pointer ∈ heap.live then .ok (heap.without pointer)
      else .error .badFree

/-! ## Data -/

/-- What the user asks for: `struct nvme_hmb_alloc`. -/
structure NvmeHmbAlloc where
  /-- In bytes. -/
  pageSize : Nat
  nrDesc : Nat
  /-- In pages. -/
  bsize : Nat → Nat

/-- `struct nvme_hmb_buffer`. -/
structure NvmeHmbBuffer where
  virtAddr : Option Nat
  phyAddr : Nat
  size : Nat
  deriving DecidableEq, Repr

/-- `struct nvme_feat_hmb_descriptor`. -/
structure NvmeFeatHmbDescriptor where
  addr : Nat
  /-- In units of the page size. -/
  size : Nat
  deriving DecidableEq, Repr

/-- `struct nvme_hmb`, its address, and the number of buffers it has room
for. -/
structure NvmeHmb where
  self : Nat
  desc : Option Nat
  descAddr : Nat
  descSize : Nat
  descNum : Nat
  descs : Nat → NvmeFeatHmbDescriptor
  buf : Nat → NvmeHmbBuffer
  room : Nat

/-- What `kzalloc` returns for `struct nvme_hmb`. -/
def NvmeHmb.zero (self room : Nat) : NvmeHmb :=
  ⟨self, none, 0, 0, 0, fun _ => ⟨0, 0⟩, fun _ => ⟨none, 0, 0⟩, room⟩

/-- The part of the device that is used here. -/
structure HmbDevice where
  hmb : Option NvmeHmb
  heap : KernelHeap

/-- The outcomes of the external calls of `dnvme_alloc_hmb`. -/
structure AllocEnv where
  /-- The head that the first `copy_from_user` reads. -/
  head : Option NvmeHmbAlloc
  /-- `kzalloc` of the copy. -/
  copyAlloc : Bool
  /-- What the second `copy_from_user` reads. -/
  copy : Option NvmeHmbAlloc
  /-- `kzalloc` of the `nvme_hmb`. -/
  hmbAlloc : Bool
  /-- `dma_alloc_coherent` of each buffer: its bus address. -/
  buffer : Nat → Option Nat
  /-- `dma_alloc_coherent` of the descriptor page: its bus address. -/
  descPage : Option Nat
  /-- `copy_to_user` of the answer. -/
  copyOut : Bool

/-- The number of descriptors in a page. -/
def hmbDescsPerPage : Nat := pageSize / 16

/-! ## Buffers -/

/-- Fill `hmb->buf[i]`. -/
def NvmeHmb.setBuf (hmb : NvmeHmb) (i : Nat) (buffer : NvmeHmbBuffer) :
    NvmeHmb :=
  { hmb with buf := Function.update hmb.buf i buffer }

/-- `hmb->buf[i].virt_addr = NULL`. -/
def NvmeHmb.clearBuf (hmb : NvmeHmb) (i : Nat) : NvmeHmb :=
  hmb.setBuf i { hmb.buf i with virtAddr := none }

/-- The error path of `dnvme_alloc_hmb_buffer`: the buffers below `i`. -/
def unwindHmbBuffer : Nat → NvmeHmb → KernelHeap →
    Checked (NvmeHmb × KernelHeap)
  | 0, hmb, heap => .ok (hmb, heap)
  | i + 1, hmb, heap => do
      let heap ← heap.free (hmb.buf i).virtAddr
      unwindHmbBuffer i (hmb.clearBuf i) heap

/-- The loop of `dnvme_alloc_hmb_buffer` from buffer `i` on; `sizes` is the
number of sizes that `need` has room for. -/
def allocHmbBufferFrom (env : AllocEnv) (need : NvmeHmbAlloc) (sizes : Nat) :
    (count i : Nat) → NvmeHmb → KernelHeap →
      Checked (Int × NvmeHmb × KernelHeap)
  | 0, _, hmb, heap => .ok (0, hmb, heap)
  | count + 1, i, hmb, heap =>
      if sizes ≤ i ∨ hmb.room ≤ i then .error .outOfBounds
      else
        let bufSize := u32 (need.pageSize * need.bsize i)
        match env.buffer i with
        | none => do
            let (hmb, heap) ← unwindHmbBuffer i hmb heap
            return (-Errno.ENOMEM, hmb, heap)
        | some phyAddr =>
            allocHmbBufferFrom env need sizes count (i + 1)
              (hmb.setBuf i ⟨some heap.next, phyAddr, bufSize⟩) heap.alloc

/-- `dnvme_alloc_hmb_buffer`. -/
def dnvmeAllocHmbBuffer (env : AllocEnv) (need : NvmeHmbAlloc) (sizes : Nat)
    (hmb : NvmeHmb) (heap : KernelHeap) :
    Checked (Int × NvmeHmb × KernelHeap) :=
  allocHmbBufferFrom env need sizes need.nrDesc 0 hmb heap

/-- The loop of `dnvme_release_hmb_buffer` from buffer `i` on. -/
def releaseHmbBufferFrom : (count i : Nat) → NvmeHmb → KernelHeap →
    Checked (NvmeHmb × KernelHeap)
  | 0, _, hmb, heap => .ok (hmb, heap)
  | count + 1, i, hmb, heap =>
      if hmb.room ≤ i then .error .outOfBounds
      else do
        let heap ← heap.free (hmb.buf i).virtAddr
        releaseHmbBufferFrom count (i + 1) (hmb.clearBuf i) heap

/-- `dnvme_release_hmb_buffer`. -/
def dnvmeReleaseHmbBuffer (hmb : NvmeHmb) (heap : KernelHeap) :
    Checked (NvmeHmb × KernelHeap) :=
  releaseHmbBufferFrom hmb.descNum 0 hmb heap

/-! ## Descriptors -/

/-- `dnvme_alloc_hmb_desc`; the number of buffers is recorded here. -/
def dnvmeAllocHmbDesc (env : AllocEnv) (need : NvmeHmbAlloc) (hmb : NvmeHmb)
    (heap : KernelHeap) : Int × NvmeHmb × KernelHeap :=
  match env.descPage with
  | none => (-Errno.ENOMEM, hmb, heap)
  | some descAddr =>
      (0,
        { hmb with
          desc := some heap.next
          descAddr := descAddr
          descSize := pageSize
          descNum := need.nrDesc
          descs := fun _ => ⟨0, 0⟩ },
        heap.alloc)

/-- `dnvme_release_hmb_desc`. -/
def dnvmeReleaseHmbDesc (hmb : NvmeHmb) (heap : KernelHeap) :
    Checked KernelHeap :=
  heap.free hmb.desc

/-- The loop of `dnvme_fill_hmb_descriptor` from descriptor `i` on. -/
def fillHmbDescriptorFrom : (count i : Nat) → NvmeHmb → Checked NvmeHmb
  | 0, _, hmb => .ok hmb
  | count + 1, i, hmb =>
      if hmbDescsPerPage ≤ i ∨ hmb.room ≤ i then .error .outOfBounds
      else
        fillHmbDescriptorFrom count (i + 1)
          { hmb with
            descs := Function.update hmb.descs i
              ⟨(hmb.buf i).phyAddr, u32 (hmb.buf i).size⟩ }

/-- `dnvme_fill_hmb_descriptor`. -/
def dnvmeFillHmbDescriptor (hmb : NvmeHmb) : Checked NvmeHmb :=
  fillHmbDescriptorFrom hmb.descNum 0 hmb

/-! ## Requests -/

/-- What a request answers: the return value, the address of the descriptors
if it was copied to the user, and the device. -/
structure HmbResult where
  ret : Int
  descList : Option Nat
  device : HmbDevice

/-- `dnvme_alloc_hmb` from the `nvme_hmb` on. -/
def buildHmb (env : AllocEnv) (copy : NvmeHmbAlloc) (sizes : Nat)
    (heap : KernelHeap) : Checked (Int × Option NvmeHmb × KernelHeap) := do
  let hmb := NvmeHmb.zero heap.next copy.nrDesc
  let (ret, hmb, heap) ← dnvmeAllocHmbBuffer env copy sizes hmb heap.alloc
  if ret < 0 then
    let heap ← heap.free (some hmb.self)
    return (ret, none, heap)
  else
    let (ret, hmb, heap) := dnvmeAllocHmbDesc env copy hmb heap
    if ret < 0 then
      let (hmb, heap) ← dnvmeReleaseHmbBuffer hmb heap
      let heap ← heap.free (some hmb.self)
      return (ret, none, heap)
    else
      let hmb ← dnvmeFillHmbDescriptor hmb
      if !env.copyOut then
        let heap ← dnvmeReleaseHmbDesc hmb heap
        let (hmb, heap) ← dnvmeReleaseHmbBuffer hmb heap
        let heap ← heap.free (some hmb.self)
        return (-Errno.EFAULT, none, heap)
      else
        return (0, some hmb, heap)

/-- `dnvme_alloc_hmb`. -/
def dnvmeAllocHmb (env : AllocEnv) (ndev : HmbDevice) : Checked HmbResult :=
  if ndev.hmb.isSome then .ok ⟨-Errno.EPERM, none, ndev⟩
  else
    match env.head with
    | none => .ok ⟨-Errno.EFAULT, none, ndev⟩
    | some head =>
        if head.pageSize = 0 then .ok ⟨-Errno.EINVAL, none, ndev⟩
        else if hmbDescsPerPage < head.nrDesc then
          .ok ⟨-Errno.EINVAL, none, ndev⟩
        else if !env.copyAlloc then .ok ⟨-Errno.ENOMEM, none, ndev⟩
        else
          let copyPtr := some ndev.heap.next
          let heap := ndev.heap.alloc
          match env.copy with
          | none => do
              let heap ← heap.free copyPtr
              return ⟨-Errno.EFAULT, none, { ndev with heap := heap }⟩
          | some copy =>
              if !env.hmbAlloc then do
                let heap ← heap.free copyPtr
                return ⟨-Errno.ENOMEM, none, { ndev with heap := heap }⟩
              else do
                -- the copy has room for the sizes counted by the first head
                let (ret, hmb, heap) ← buildHmb env copy head.nrDesc heap
                let heap ← heap.free copyPtr
                return ⟨ret, hmb.map NvmeHmb.descAddr, ⟨hmb, heap⟩⟩

/-- `dnvme_release_hmb`; the local `hmb` that it frees is never set. -/
def dnvmeReleaseHmb (local_ : Option Nat) (ndev : HmbDevice) :
    Checked HmbResult :=
  match ndev.hmb with
  | none => .ok ⟨0, none, ndev⟩
  | some hmb => do
      let heap ← dnvmeReleaseHmbDesc hmb ndev.heap
      let (_, heap) ← dnvmeReleaseHmbBuffer hmb heap
      let heap ← heap.free local_
      return ⟨0, none, ⟨none, heap⟩⟩

end Dnvme.Driver.Hmb
