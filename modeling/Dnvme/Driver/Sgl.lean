import Dnvme.Driver.Prp

/-!
# Building SGL segments

This module embeds the SGL half of `cmd.c` (`dnvme_sgl_set_*`, the bit bucket
helpers, `dnvme_cmd_setup_sgl`) and `dnvme_meta_setup_sgl` of `meta.c`.  The
two functions share the loop that lays descriptors out over chained segment
pages; they differ in the first page, in the descriptor that leads to it and
in what a descriptor is made from.
-/

namespace Dnvme.Driver

open Dnvme.Lib.ChainedPages

/-! ## Descriptors -/

/-- `enum nvme_sgl_type`, as it stands in the upper half of the type byte. -/
inductive NvmeSglType where
  | dataDesc
  | bitBucketDesc
  | segDesc
  | lastSegDesc
  deriving DecidableEq, Repr

/-- The type byte of a descriptor. -/
def NvmeSglType.byte : NvmeSglType → Nat
  | .dataDesc => 0x00
  | .bitBucketDesc => 0x10
  | .segDesc => 0x20
  | .lastSegDesc => 0x30

/-- `__dnvme_sgl_set_data`. -/
def sglSetData (sge : NvmeSglDesc) (addr length : Nat) : NvmeSglDesc :=
  { sge with addr := addr, length := length, type := NvmeSglType.dataDesc.byte }

/-- `dnvme_sgl_set_data`. -/
def dnvmeSglSetData (sge : NvmeSglDesc) (sg : ScatterEntry) : NvmeSglDesc :=
  sglSetData sge sg.dmaAddress sg.dmaLength

/-- `dnvme_sgl_set_bit_bucket`: the address is left alone. -/
def dnvmeSglSetBitBucket (sge : NvmeSglDesc) (length : Nat) : NvmeSglDesc :=
  { sge with length := length, type := NvmeSglType.bitBucketDesc.byte }

/-- `dnvme_sgl_set_seg`. -/
def dnvmeSglSetSeg (sge : NvmeSglDesc) (addr entries : Nat) : NvmeSglDesc :=
  if entries < nvmeSgesPerPage then
    { sge with
      addr := addr
      length := entries * nvmeSglDescSize
      type := NvmeSglType.lastSegDesc.byte }
  else
    { sge with
      addr := addr
      length := pageSize
      type := NvmeSglType.segDesc.byte }

/-! ## Bit buckets -/

/-- `struct sgl_desc_entry`; address 0 marks a bit bucket. -/
structure SglDescEntry where
  addr : Nat
  length : Nat
  deriving DecidableEq, Repr

/-- `dnvme_compare_sgl_bit_bucket`. -/
def dnvmeCompareSglBitBucket (a b : NvmeSglBitBucket) : Int :=
  if a.offset > b.offset then 1
  else if a.offset < b.offset then -1
  else 0

/-- The kernel's `sort` with the comparison above.  It is not stable, so the
order of buckets with one offset is left open. -/
structure BucketSort where
  sort : List NvmeSglBitBucket → List NvmeSglBitBucket
  perm : ∀ buckets, (sort buckets).Perm buckets
  ordered : ∀ buckets, (sort buckets).Pairwise fun a b =>
    dnvmeCompareSglBitBucket a b ≤ 0

theorem dnvmeCompareSglBitBucket_le_iff (a b : NvmeSglBitBucket) :
    dnvmeCompareSglBitBucket a b ≤ 0 ↔ a.offset ≤ b.offset := by
  unfold dnvmeCompareSglBitBucket
  grind

/-- One such order. -/
def BucketSort.byOffset : BucketSort where
  sort buckets := buckets.insertionSort fun a b => a.offset ≤ b.offset
  perm buckets := List.perm_insertionSort _ buckets
  ordered buckets := by
    have total : Std.Total fun a b : NvmeSglBitBucket =>
        a.offset ≤ b.offset := ⟨fun _ _ => le_total _ _⟩
    have trans : IsTrans NvmeSglBitBucket fun a b =>
        a.offset ≤ b.offset := ⟨fun _ _ _ => le_trans⟩
    exact (List.pairwise_insertionSort _ buckets).imp fun ordered =>
      (dnvmeCompareSglBitBucket_le_iff _ _).mpr ordered

/-- `dnvme_sort_sgl_bit_bucket`. -/
def dnvmeSortSglBitBucket (order : BucketSort)
    (buckets : List NvmeSglBitBucket) : List NvmeSglBitBucket :=
  order.sort buckets

/-- Whether a bucket lies at the beginning or at the end of a scatter
entry. -/
def bucketAtBorder (bucket : NvmeSglBitBucket) :
    (offset : Nat) → List ScatterEntry → Bool
  | _, [] => false
  | offset, sge :: rest =>
      bucket.offset = offset ||
        bucket.offset = u32 (offset + sge.dmaLength) ||
        bucketAtBorder bucket (u32 (offset + sge.dmaLength)) rest

/-- `dnvme_count_sgl_desc_num`. -/
def dnvmeCountSglDescNum (sg : List ScatterEntry)
    (buckets : List NvmeSglBitBucket) : Nat :=
  (buckets.map fun bucket => if bucketAtBorder bucket 0 sg then 1 else 2).sum +
    sg.length

/-- Unsigned subtraction of 32-bit values. -/
def subU32 (a b : Nat) : Nat :=
  u32 (a + 2 ^ 32 - b)

/-- The variables of the loops of `dnvme_init_sgl_desc_list`. -/
structure DescFill where
  entries : List SglDescEntry
  buckets : List NvmeSglBitBucket
  lastBitOffset : Nat
  sgOft : Nat

/-- Append the data before a bucket, and the bucket. -/
def DescFill.bucket (fill : DescFill) (sgAddr length : Nat)
    (bucket : NvmeSglBitBucket) (rest : List NvmeSglBitBucket) : DescFill :=
  if fill.lastBitOffset ≠ bucket.offset then
    { entries := fill.entries ++
        [⟨sgAddr + fill.sgOft, length⟩, ⟨0, bucket.length⟩]
      buckets := rest
      lastBitOffset := bucket.offset
      sgOft := u32 (fill.sgOft + length) }
  else
    { entries := fill.entries ++ [⟨0, bucket.length⟩]
      buckets := rest
      lastBitOffset := bucket.offset
      sgOft := fill.sgOft }

/-- Append what is left of a scatter entry. -/
def DescFill.data (fill : DescFill) (sgAddr sgLen : Nat) : DescFill :=
  let length := subU32 sgLen fill.sgOft
  if 0 < length then
    { fill with
      entries := fill.entries ++ [⟨sgAddr + fill.sgOft, length⟩]
      sgOft := u32 (fill.sgOft + length) }
  else
    fill

/-- The `while` loop over the buckets that touch one scatter entry. -/
def fillBuckets (sgAddr sgLen offset : Nat) (entries : List SglDescEntry)
    (lastBitOffset sgOft : Nat) : List NvmeSglBitBucket → DescFill
  | [] => ⟨entries, [], lastBitOffset, sgOft⟩
  | bucket :: rest =>
      let fill : DescFill := ⟨entries, bucket :: rest, lastBitOffset, sgOft⟩
      let finish := u32 (offset + sgLen)
      if bucket.offset < finish then
        let next := fill.bucket sgAddr
          (subU32 bucket.offset (u32 (offset + sgOft))) bucket rest
        fillBuckets sgAddr sgLen offset next.entries next.lastBitOffset
          next.sgOft rest
      else if bucket.offset = finish then
        let next := fill.bucket sgAddr (subU32 sgLen sgOft) bucket rest
        fillBuckets sgAddr sgLen offset next.entries next.lastBitOffset
          next.sgOft rest
      else
        fill.data sgAddr sgLen

/-- The loop over the scatter entries. -/
def fillScatter (offset : Nat) (fill : DescFill) :
    List ScatterEntry → DescFill
  | [] => fill
  | sge :: rest =>
      let inner := fillBuckets sge.dmaAddress sge.dmaLength offset
        fill.entries fill.lastBitOffset 0 fill.buckets
      let whole :=
        if inner.buckets = [] then
          inner.data sge.dmaAddress sge.dmaLength
        else
          inner
      fillScatter (u32 (offset + sge.dmaLength)) whole rest

/-- All entries that `dnvme_init_sgl_desc_list` fills. -/
def filledDescs (sg : List ScatterEntry) (buckets : List NvmeSglBitBucket) :
    List SglDescEntry :=
  -- the buckets before all scatter entries
  let before := buckets.takeWhile fun bucket => bucket.offset ≤ 0
  let start : DescFill :=
    ⟨before.map fun bucket => ⟨0, bucket.length⟩,
      buckets.dropWhile fun bucket => bucket.offset ≤ 0, 0, 0⟩
  let fill := fillScatter 0 start sg
  fill.entries ++ fill.buckets.map fun bucket => ⟨0, bucket.length⟩

/-- `dnvme_init_sgl_desc_list`. -/
def dnvmeInitSglDescList (alloc : Bool) (sg : List ScatterEntry)
    (buckets : List NvmeSglBitBucket) (nrDesc : Nat) :
    Option (List SglDescEntry) :=
  if alloc then
    let list := filledDescs sg buckets
    if list.length = nrDesc then some list else none
  else
    none

/-! ## Segments -/

/-- The variables of a segment loop. -/
structure SegCursor where
  /-- Page index `j`. -/
  page : Nat
  /-- Slot index `k`. -/
  slot : Nat
  descs : Nat → Nat → NvmeSglDesc
  /-- Whether the `WARN_ON` of the loop was hit. -/
  warned : Bool

/--
The loop that lays `list` out over the segment pages; `set` writes the
descriptor of one item.
-/
def fillSegments {α : Type} (prpDma : List Nat)
    (set : NvmeSglDesc → α → NvmeSglDesc) (list : List α)
    (cursor : SegCursor) : SegCursor :=
  match list with
  | [] => cursor
  | item :: rest =>
      let desc := cursor.descs cursor.page cursor.slot
      let warned := cursor.warned || prpDma.length ≤ cursor.page
      if cursor.slot = nvmeSgesPerPage - 1 then
        -- the last slot of a page points to the next segment
        fillSegments prpDma set (item :: rest)
          { page := cursor.page + 1
            slot := 0
            descs := writeSlot cursor.descs cursor.page cursor.slot
              (dnvmeSglSetSeg desc (prpDma.getD (cursor.page + 1) 0)
                (rest.length + 1))
            warned := warned }
      else
        fillSegments prpDma set rest
          { cursor with
            slot := cursor.slot + 1
            descs := writeSlot cursor.descs cursor.page cursor.slot
              (set desc item)
            warned := warned }
termination_by (list.length, cursor.slot)
decreasing_by
  · exact Prod.Lex.right _ (by
      simp_all [nvmeSgesPerPage, nvmeSglDescSize, pageSize])
  · exact Prod.Lex.left _ _ (by simp)

/-- The number of segments for `nrDesc` descriptors. -/
def segmentCount (nrDesc : Nat) : Nat :=
  divRoundUp (nvmeSglDescSize * nrDesc) (pageSize - nvmeSglDescSize)

/-- Zeroed list pages. -/
def blankSegments : Nat → Nat → NvmeSglDesc :=
  fun _ _ => NvmeSglDesc.zero

/-- How the command loop writes an entry of the descriptor list. -/
def setDescEntry (sge : NvmeSglDesc) (entry : SglDescEntry) : NvmeSglDesc :=
  if entry.addr ≠ 0 then
    sglSetData sge entry.addr entry.length
  else
    dnvmeSglSetBitBucket sge entry.length

/-- The segment loop of `dnvme_cmd_setup_sgl`. -/
def cmdSegments (prpDma : List Nat) (descList : List SglDescEntry) :
    SegCursor :=
  fillSegments prpDma setDescEntry descList ⟨0, 0, blankSegments, false⟩

/-- The outcomes of the external calls of `dnvme_cmd_setup_sgl`. -/
structure SglEnv where
  /-- `kzalloc` of the bit buckets. -/
  bucketAlloc : Bool
  /-- The bit buckets that `copy_from_user` reads. -/
  buckets : Option (List NvmeSglBitBucket)
  sort : BucketSort
  /-- `kzalloc` of the descriptor list. -/
  descListAlloc : Bool
  list : ListEnv

/-- `dnvme_cmd_setup_sgl` after the descriptor list was built. -/
def layoutSgl (env : ListEnv) (poolPages : List Nat)
    (ccmd : NvmeCommonCommand) (prps : NvmePrps)
    (descList : List SglDescEntry) : SetupResult :=
  let nrSeg := segmentCount descList.length
  let prps := { prps with nrEntry := descList.length }
  match allocListPages env nrSeg with
  | none => ⟨-Errno.ENOMEM, ccmd, prps, poolPages⟩
  | some prpDma =>
      let first := dnvmeSglSetSeg ccmd.dptr.sgl (prpDma.getD 0 0)
        descList.length
      let done := cmdSegments prpDma descList
      ⟨0, { ccmd with dptr := NvmeDataPtr.ofSgl first },
        { prps with
          prpList := some (.sgl done.descs)
          nrPages := nrSeg
          pgAddr := prpDma },
        prpDma ++ poolPages⟩

/-- `dnvme_cmd_setup_sgl` without a scatter table: bit buckets are still read
and counted before the table is missed. -/
def setupSglUnmapped (env : SglEnv) (poolPages : List Nat)
    (cmd : Nvme64bCmd) (ccmd : NvmeCommonCommand) (prps : NvmePrps) :
    Outcome SetupResult :=
  if cmd.nrBitBucket = 0 then .error .nullPointer
  else if !env.bucketAlloc then
    .ok ⟨-Errno.ENOMEM, ccmd, prps, poolPages⟩
  else
    match env.buckets with
    | none => .ok ⟨-Errno.EFAULT, ccmd, prps, poolPages⟩
    | some buckets =>
        let sorted := dnvmeSortSglBitBucket env.sort
          (buckets.take cmd.nrBitBucket)
        match dnvmeInitSglDescList env.descListAlloc [] sorted
            (dnvmeCountSglDescNum [] sorted) with
        | none => .ok ⟨-Errno.EPERM, ccmd, prps, poolPages⟩
        | some _ => .error .nullPointer

/-- Without a scatter table nothing is set up. -/
theorem setupSglUnmapped_fails {env : SglEnv} {poolPages : List Nat}
    {cmd : Nvme64bCmd} {ccmd : NvmeCommonCommand} {prps : NvmePrps}
    {result : SetupResult}
    (done : setupSglUnmapped env poolPages cmd ccmd prps = .ok result) :
    ∃ ret < 0, result = ⟨ret, ccmd, prps, poolPages⟩ := by
  unfold setupSglUnmapped at done
  split at done
  · cases done
  · split at done
    · cases done
      exact ⟨_, by decide, rfl⟩
    · split at done
      · cases done
        exact ⟨_, by decide, rfl⟩
      · dsimp only at done
        split at done
        · cases done
          exact ⟨_, by decide, rfl⟩
        · cases done

/-- `dnvme_cmd_setup_sgl`. -/
def dnvmeCmdSetupSgl (env : SglEnv) (poolPages : List Nat)
    (cmd : Nvme64bCmd) (ccmd : NvmeCommonCommand) (prps : NvmePrps) :
    Outcome SetupResult :=
  match prps.sg with
  | none | some [] => setupSglUnmapped env poolPages cmd ccmd prps
  | some (first :: rest) =>
      let sg := first :: rest
      if prps.numMapPgs = 1 ∧ cmd.nrBitBucket = 0 then
        let data := dnvmeSglSetData ccmd.dptr.sgl first
        .ok ⟨0, { ccmd with dptr := NvmeDataPtr.ofSgl data }, prps,
          poolPages⟩
      else if cmd.nrBitBucket = 0 then
        match dnvmeInitSglDescList env.descListAlloc sg []
            prps.numMapPgs with
        | none => .ok ⟨-Errno.EPERM, ccmd, prps, poolPages⟩
        | some descList =>
            .ok (layoutSgl env.list poolPages ccmd prps descList)
      else if !env.bucketAlloc then
        .ok ⟨-Errno.ENOMEM, ccmd, prps, poolPages⟩
      else
        match env.buckets with
        | none => .ok ⟨-Errno.EFAULT, ccmd, prps, poolPages⟩
        | some buckets =>
            let sorted := dnvmeSortSglBitBucket env.sort
              (buckets.take cmd.nrBitBucket)
            match dnvmeInitSglDescList env.descListAlloc sg sorted
                (dnvmeCountSglDescNum sg sorted) with
            | none => .ok ⟨-Errno.EPERM, ccmd, prps, poolPages⟩
            | some descList =>
                .ok (layoutSgl env.list poolPages ccmd prps descList)

/-- The segment loop of `dnvme_meta_setup_sgl`; page 0 holds only the
descriptor of the first segment. -/
def metaSegments (prpDma : List Nat) (sg : List ScatterEntry) : SegCursor :=
  fillSegments prpDma dnvmeSglSetData sg
    ⟨1, 0, writeSlot blankSegments 0 0
      (dnvmeSglSetSeg NvmeSglDesc.zero (prpDma.getD 1 0) sg.length), false⟩

/-- `dnvme_meta_setup_sgl`. -/
def dnvmeMetaSetupSgl (env : ListEnv) (poolPages : List Nat)
    (prps : NvmePrps) : Outcome (Int × NvmePrps × List Nat) :=
  let nrDesc := prps.numMapPgs
  let nrSeg := if nrDesc = 1 then 1 else segmentCount nrDesc + 1
  match allocListPages env nrSeg with
  | none => .ok (-Errno.ENOMEM, prps, poolPages)
  | some prpDma =>
      match prps.sg with
      | none => .error .nullPointer
      | some sg =>
          if sg.length < nrDesc then
            .error .nullPointer
          else
            let descs :=
              if nrDesc = 1 then
                match sg with
                | [] => blankSegments
                | first :: _ =>
                    writeSlot blankSegments 0 0
                      (dnvmeSglSetData NvmeSglDesc.zero first)
              else
                (metaSegments prpDma (sg.take nrDesc)).descs
            .ok (0, { prps with
              prpList := some (.sgl descs)
              pgAddr := prpDma
              nrPages := nrSeg }, prpDma ++ poolPages)

end Dnvme.Driver
