import Dnvme.Lib.ChainedPages
import Dnvme.Driver.Types

/-!
# Pinning user pages and building PRP lists

This module embeds `dnvme_map_user_page`, `dnvme_unmap_user_page`,
`dnvme_setup_prps` and `dnvme_free_prp_list` of `cmd.c`.  The loop that fills
the list pages keeps the source's cursor: the page index `j`, the slot `k`,
the signed remaining length and the current scatter entry.
-/

namespace Dnvme.Driver

open Dnvme.Lib.ChainedPages

/-! ## User pages -/

/-- The outcomes of the external calls of `dnvme_map_user_page`. -/
structure MapEnv where
  /-- `kcalloc` of the page array. -/
  pagesAlloc : Bool
  /-- The value returned by `get_user_pages_fast`. -/
  pinnedCount : Int
  /-- The page frames behind the user address range. -/
  frame : Nat → Nat
  /-- `vmap`. -/
  vmap : Bool
  /-- `kmalloc` of the scatter table. -/
  sglAlloc : Bool
  /-- The value returned by `dma_map_sg`. -/
  dmaMapped : Int
  /-- The bus addresses and lengths that `dma_map_sg` stores. -/
  dmaMap : List ScatterEntry → List ScatterEntry

/-- The loop of `dnvme_pages_to_sgl` over the pages `index`, `index + 1`, … -/
def pagesToSgl (frame : Nat → Nat) :
    (count index offset length : Nat) → List ScatterEntry
  | 0, _, _, _ => []
  | count + 1, index, offset, length =>
      ⟨frame index, offset, min length (pageSize - offset), 0, 0⟩ ::
        pagesToSgl frame count (index + 1) 0
          (u32 (length + 2 ^ 32 - (pageSize - offset)))

/-- `put_page` for each page of a list. -/
def putPages (pages pinned : List Nat) : List Nat :=
  pages.foldl List.erase pinned

/-- The number of pages `dnvme_map_user_page` computes for a buffer. -/
def userPages (addr size : Nat) : Nat :=
  divRoundUp (u32 (offsetInPage addr + size)) pageSize

/-- The result of mapping: return value, object and pinned pages. -/
structure MapResult where
  ret : Int
  prps : NvmePrps
  pinned : List Nat

/-- `dnvme_pages_to_sgl`: the scatter table, or `none` without memory. -/
def dnvmePagesToSgl (env : MapEnv) (nrPages offset len : Nat) :
    Outcome (Option (List ScatterEntry)) :=
  if !env.sglAlloc then
    .ok none
  else if nrPages = 0 then
    -- `sg_mark_end` takes the entry in front of the empty table for the last
    .error .wildPointer
  else
    .ok (some (pagesToSgl env.frame nrPages 0 offset len))

/-- `dnvme_map_user_page`. -/
def dnvmeMapUserPage (env : MapEnv) (pinned : List Nat) (prps : NvmePrps)
    (addr size dir : Nat) (access : Bool) : Outcome MapResult :=
  if addr = 0 ∨ addr % 4 ≠ 0 ∨ size = 0 then
    .ok ⟨-Errno.EINVAL, prps, pinned⟩
  else
    let offset := offsetInPage addr
    let nrPages := userPages addr size
    if !env.pagesAlloc then
      .ok ⟨-Errno.ENOMEM, prps, pinned⟩
    else if env.pinnedCount < nrPages then
      let some_ := (List.range env.pinnedCount.toNat).map env.frame
      .ok ⟨-Errno.EFAULT, prps, putPages some_ (some_ ++ pinned)⟩
    else
      let pages := (List.range nrPages).map env.frame
      let held := pages ++ pinned
      if access && !env.vmap then
        .ok ⟨-Errno.EFAULT, prps, putPages pages held⟩
      else
        match dnvmePagesToSgl env nrPages offset size with
        | .error oops => .error oops
        | .ok none =>
            -- `ret` still holds the number of pinned pages on this path
            .ok ⟨env.pinnedCount, prps, putPages pages held⟩
        | .ok (some sgl) =>
            if env.dmaMapped ≤ 0 then
              .ok ⟨-Errno.ENOMEM, prps, putPages pages held⟩
            else
              .ok ⟨0, { prps with
                        sg := some (env.dmaMap sgl)
                        numMapPgs := nrPages
                        buf := access
                        dataDir := dir
                        dataBufAddr := addr
                        dataBufSize := size },
                held⟩

/-- The object after a mapping that went through. -/
def MapEnv.mapped (env : MapEnv) (prps : NvmePrps) (addr size dir : Nat)
    (access : Bool) : NvmePrps :=
  { prps with
    sg := some (env.dmaMap (pagesToSgl env.frame (userPages addr size) 0
      (offsetInPage addr) size))
    numMapPgs := userPages addr size
    buf := access
    dataDir := dir
    dataBufAddr := addr
    dataBufSize := size }

/-- The outcomes of `dnvme_pages_to_sgl`. -/
theorem dnvmePagesToSgl_cases (env : MapEnv) (nrPages offset len : Nat) :
    dnvmePagesToSgl env nrPages offset len = .ok none ∨
    (nrPages = 0 ∧
      dnvmePagesToSgl env nrPages offset len = .error .wildPointer) ∨
    (nrPages ≠ 0 ∧ dnvmePagesToSgl env nrPages offset len =
      .ok (some (pagesToSgl env.frame nrPages 0 offset len))) := by
  unfold dnvmePagesToSgl
  split_ifs with missing empty
  · exact .inl rfl
  · exact .inr (.inl ⟨empty, rfl⟩)
  · exact .inr (.inr ⟨empty, rfl⟩)

/-- A mapping goes through, or leaves the object alone: with an error, or
with the number of pinned pages when there is no scatter table. -/
theorem dnvmeMapUserPage_cases {env : MapEnv} {pinned : List Nat}
    {prps : NvmePrps} {addr size dir : Nat} {access : Bool}
    {result : MapResult}
    (done : dnvmeMapUserPage env pinned prps addr size dir access =
      .ok result) :
    (result.ret = 0 ∧ 0 < size ∧
      result.prps = env.mapped prps addr size dir access ∧
      result.pinned =
        (List.range (userPages addr size)).map env.frame ++ pinned) ∨
    (result.prps = prps ∧
      (∃ pages, result.pinned = putPages pages (pages ++ pinned)) ∧
      (result.ret < 0 ∨ result.ret = env.pinnedCount ∧
        (userPages addr size : Int) ≤ env.pinnedCount)) := by
  unfold dnvmeMapUserPage at done
  dsimp only at done
  split at done
  · cases done
    exact .inr ⟨rfl, ⟨[], rfl⟩, .inl (by simp)⟩
  split at done
  · cases done
    exact .inr ⟨rfl, ⟨[], rfl⟩, .inl (by simp)⟩
  split at done
  · cases done
    exact .inr ⟨rfl, ⟨_, rfl⟩, .inl (by simp)⟩
  split at done
  · cases done
    exact .inr ⟨rfl, ⟨_, rfl⟩, .inl (by simp)⟩
  rcases dnvmePagesToSgl_cases env (userPages addr size)
    (offsetInPage addr) size with missing | ⟨_, wild⟩ | ⟨_, table⟩
  · rw [missing] at done
    cases done
    exact .inr ⟨rfl, ⟨_, rfl⟩, .inr ⟨rfl, by omega⟩⟩
  · rw [wild] at done
    cases done
  · rw [table] at done
    dsimp only at done
    split at done
    · cases done
      exact .inr ⟨rfl, ⟨_, rfl⟩, .inl (by simp)⟩
    · cases done
      exact .inl ⟨rfl, by omega, rfl, rfl⟩

/-- A mapping fails in no other way than by the write in front of an empty
table. -/
theorem dnvmeMapUserPage_error {env : MapEnv} {pinned : List Nat}
    {prps : NvmePrps} {addr size dir : Nat} {access : Bool} {oops : Oops}
    (fails : dnvmeMapUserPage env pinned prps addr size dir access =
      .error oops) : oops = .wildPointer := by
  unfold dnvmeMapUserPage at fails
  dsimp only at fails
  split at fails
  · cases fails
  split at fails
  · cases fails
  split at fails
  · cases fails
  split at fails
  · cases fails
  rcases dnvmePagesToSgl_cases env (userPages addr size)
    (offsetInPage addr) size with missing | ⟨_, wild⟩ | ⟨_, table⟩
  · rw [missing] at fails
    cases fails
  · rw [wild] at fails
    cases fails
    rfl
  · rw [table] at fails
    dsimp only at fails
    split at fails
    · cases fails
    · cases fails

/-- `dnvme_unmap_user_page`: the pages that stay pinned. -/
def dnvmeUnmapUserPage (prps : NvmePrps) (pinned : List Nat) : List Nat :=
  match prps.sg with
  | none => pinned
  | some sg =>
      putPages ((sg.take prps.numMapPgs).map ScatterEntry.page) pinned

/-! ## List pages -/

/-- The outcomes of the allocations for a list of pages. -/
structure ListEnv where
  /-- `kzalloc` of `prp_list`. -/
  prpListAlloc : Bool
  /-- `kzalloc` of `prp_dma`. -/
  prpDmaAlloc : Bool
  /-- `dma_pool_alloc` of each page: its bus address. -/
  page : Nat → Option Nat

/-- The loop that allocates `count` list pages. -/
def allocListPages (env : ListEnv) (count : Nat) : Option (List Nat) :=
  if env.prpListAlloc && env.prpDmaAlloc then
    (List.range count).mapM env.page
  else
    none

theorem mapM_range_some {page : Nat → Option Nat} (count : Nat) :
    ∀ {addresses : List Nat},
      (List.range count).mapM page = some addresses →
      addresses.length = count ∧
        ∀ i < count, page i = addresses[i]? := by
  induction count with
  | zero =>
      intro addresses allocated
      simp only [List.range_zero, List.mapM_nil, Option.pure_def,
        Option.some.injEq] at allocated
      subst addresses
      exact ⟨rfl, by omega⟩
  | succ count ih =>
      intro addresses allocated
      rw [List.range_succ, List.mapM_append] at allocated
      simp only [List.mapM_cons, List.mapM_nil, Option.pure_def,
        Option.bind_eq_bind, Option.bind_eq_some_iff,
        Option.some.injEq] at allocated
      obtain ⟨front, frontEq, tail, ⟨last, lastEq, _, rfl, rfl⟩, rfl⟩ :=
        allocated
      obtain ⟨lengthEq, pages⟩ := ih frontEq
      refine ⟨by simp [lengthEq], ?_⟩
      intro i below
      by_cases isLast : i = count
      · subst i
        rw [List.getElem?_append_right (by omega), lastEq]
        simp [lengthEq]
      · rw [List.getElem?_append_left (by omega)]
        exact pages i (by omega)

/-- The addresses of the pages that were allocated. -/
theorem allocListPages_some {env : ListEnv} {count : Nat}
    {addresses : List Nat}
    (allocated : allocListPages env count = some addresses) :
    addresses.length = count ∧
      ∀ i < count, env.page i = addresses[i]? := by
  rw [allocListPages] at allocated
  split at allocated
  · exact mapM_range_some count allocated
  · cases allocated

/-- `dnvme_free_prp_list`: the list pages that stay in use. -/
def dnvmeFreePrpList (prps : NvmePrps) (poolPages : List Nat) : List Nat :=
  match prps.prpList with
  | none => poolPages
  | some _ => (prps.pgAddr.take prps.nrPages).foldl List.erase poolPages

/-! ## Filling a PRP list -/

/-- The variables of the list loop of `dnvme_setup_prps`. -/
structure PrpCursor where
  /-- Page index `j`. -/
  page : Nat
  /-- Slot index `k`. -/
  slot : Nat
  bufLen : Int
  pgOft : Fin pageSize
  dmaAddr : Nat
  dmaLen : Int
  /-- The scatter entries after the current one. -/
  sg : List ScatterEntry
  entries : Nat → Nat → Nat
  nrEntry : Nat

/-- The list loop of `dnvme_setup_prps`. -/
def fillPrpList (prpDma : List Nat) (cursor : PrpCursor) :
    Outcome (Int × PrpCursor) :=
  if 0 < cursor.bufLen then
    if cursor.slot = nvmePrpsPerPage - 1 then
      -- the last slot of a page points to the next page
      fillPrpList prpDma
        { cursor with
          page := cursor.page + 1
          slot := 0
          entries := writeSlot cursor.entries cursor.page cursor.slot
            (prpDma.getD (cursor.page + 1) 0)
          nrEntry := cursor.nrEntry + 1 }
    else
      let step := pageSize - cursor.pgOft.val
      let entries :=
        writeSlot cursor.entries cursor.page cursor.slot cursor.dmaAddr
      let bufLen := cursor.bufLen - step
      let dmaLen := s32 (cursor.dmaLen - step)
      let written : PrpCursor :=
        { cursor with
          entries := entries
          nrEntry := cursor.nrEntry + 1
          bufLen := bufLen
          dmaLen := dmaLen
          pgOft := ⟨0, by decide⟩ }
      if bufLen ≤ 0 then
        .ok (0, written)
      else if 0 < dmaLen then
        -- contiguous pages share one scatter entry
        fillPrpList prpDma
          { written with
            dmaAddr := cursor.dmaAddr + pageSize
            slot := cursor.slot + 1 }
      else if dmaLen < 0 then
        .ok (-Errno.EFAULT, written)
      else
        match cursor.sg with
        | [] => .error .nullPointer
        | next :: rest =>
            fillPrpList prpDma
              { written with
                sg := rest
                dmaAddr := next.dmaAddress
                dmaLen := s32 next.dmaLength
                slot := cursor.slot + 1 }
  else
    .ok (0, cursor)
-- a link resets the slot, every other turn shortens the remaining length
termination_by (cursor.bufLen.toNat, cursor.slot)
decreasing_by
  · exact Prod.Lex.right _ (by simp_all [nvmePrpsPerPage, nvmePrpEntrySize,
      pageSize])
  all_goals
    have bound : cursor.pgOft.val < pageSize := cursor.pgOft.isLt
    exact Prod.Lex.left _ _ (by omega)

/-- What setting up a data pointer returns and changes. -/
structure SetupResult where
  ret : Int
  ccmd : NvmeCommonCommand
  prps : NvmePrps
  poolPages : List Nat

/-- Which data pointer leads to the list. -/
inductive PrpListFlag where
  | prp1List
  | prp2List
  deriving DecidableEq, Repr

/-- `dnvme_setup_prps` from the label `prp_list` on. -/
def buildPrpList (env : ListEnv) (poolPages : List Nat)
    (flag : PrpListFlag) (ccmd : NvmeCommonCommand) (prps : NvmePrps)
    (bufLen : Int) (pgOft : Fin pageSize) (dmaAddr : Nat) (dmaLen : Int)
    (sg : List ScatterEntry) : Outcome SetupResult :=
  let nrEntry :=
    divRoundUp ((pgOft.val + bufLen) % 2 ^ 32).toNat pageSize
  let nrPages :=
    divRoundUp (u32 (nvmePrpEntrySize * nrEntry))
      (pageSize - nvmePrpEntrySize)
  match allocListPages env nrPages with
  | none => .ok ⟨-Errno.ENOMEM, ccmd, prps, poolPages⟩
  | some prpDma =>
      let first := prpDma.getD 0 0
      let pointed : NvmeCommonCommand :=
        match flag with
        | .prp1List => { ccmd with dptr := ⟨first, 0⟩ }
        | .prp2List => { ccmd with dptr := ⟨ccmd.dptr.prp1, first⟩ }
      let start : PrpCursor :=
        ⟨0, 0, bufLen, pgOft, dmaAddr, dmaLen, sg, fun _ _ => 0, 0⟩
      match fillPrpList prpDma start with
      | .error oops => .error oops
      | .ok (ret, done) =>
          let filled : NvmePrps :=
            { prps with
              prpList := some (.prp done.entries)
              nrPages := nrPages
              pgAddr := prpDma
              nrEntry := done.nrEntry }
          -- the error path frees the pages it allocated
          .ok ⟨ret, pointed, filled,
            if ret < 0 then poolPages else prpDma ++ poolPages⟩

/-- Whether the command creates a queue. -/
def createsQueue (cmd : Nvme64bCmd) (ccmd : NvmeCommonCommand) : Bool :=
  cmd.sqid = nvmeAqId &&
    (adminOpcode ccmd.opcode = .createSq ||
      adminOpcode ccmd.opcode = .createCq)

/-- `offset_in_page` with its bound. -/
def pageOffset (address : Nat) : Fin pageSize :=
  ⟨offsetInPage address, Nat.mod_lt _ (by decide)⟩

/-- `dnvme_setup_prps`. -/
def dnvmeSetupPrps (env : ListEnv) (poolPages : List Nat)
    (cmd : Nvme64bCmd) (ccmd : NvmeCommonCommand) (prps : NvmePrps) :
    Outcome SetupResult :=
  match prps.sg with
  | none | some [] => .error .nullPointer
  | some (first :: rest) =>
      let dmaAddr := first.dmaAddress
      let dmaLen := s32 first.dmaLength
      let pgOft := pageOffset dmaAddr
      let bufLen := s32 prps.dataBufSize
      if createsQueue cmd ccmd then
        if !cmd.bitMask.prp1List then
          .ok ⟨-Errno.EINVAL, ccmd, prps, poolPages⟩
        else
          buildPrpList env poolPages .prp1List ccmd prps bufLen pgOft
            dmaAddr dmaLen rest
      else if !cmd.bitMask.prp1Page then
        .ok ⟨-Errno.EINVAL, ccmd, prps, poolPages⟩
      else
        let ccmd := { ccmd with dptr := ⟨dmaAddr, ccmd.dptr.prp2⟩ }
        let bufLen := s32 (bufLen - (pageSize - pgOft.val))
        let dmaLen := s32 (dmaLen - (pageSize - pgOft.val))
        if bufLen ≤ 0 then
          .ok ⟨0, ccmd, prps, poolPages⟩
        else
          -- contiguous pages share one scatter entry
          let next : Option (Nat × Int × List ScatterEntry) :=
            if dmaLen ≠ 0 then
              some (dmaAddr + (pageSize - pgOft.val), dmaLen, rest)
            else
              match rest with
              | [] => none
              | entry :: rest =>
                  some (entry.dmaAddress, s32 entry.dmaLength, rest)
          match next with
          | none => .error .nullPointer
          | some (dmaAddr, dmaLen, rest) =>
              if bufLen ≤ pageSize then
                if !cmd.bitMask.prp2Page then
                  .ok ⟨-Errno.EINVAL, ccmd, prps, poolPages⟩
                else
                  .ok ⟨0, { ccmd with dptr := ⟨ccmd.dptr.prp1, dmaAddr⟩ },
                    prps, poolPages⟩
              else if !cmd.bitMask.prp2List then
                .ok ⟨-Errno.EINVAL, ccmd, prps, poolPages⟩
              else
                buildPrpList env poolPages .prp2List ccmd prps bufLen
                  ⟨0, by decide⟩ dmaAddr dmaLen rest

end Dnvme.Driver
