import Dnvme.Driver.SubmitFailure

/-!
# Mapping a user buffer

`dnvme_map_user_page` pins the pages of a buffer and describes them by a
scatter list.  On success the list should cover the buffer exactly, and on
failure everything should be as it was.  Both fail in a corner: a buffer whose
offset and size add up to more than 32 bits is described in part only, one
whose sum is `2 ^ 32` gets a table without entries and a write in front of it,
and a missing scatter table is not reported as an error.
-/

namespace Dnvme.Driver.MapUserPage

open Dnvme.Driver

/-! ## Covering a buffer -/

/-- The bytes before entry `i` of a scatter list. -/
def bytesBefore (sgl : List ScatterEntry) (i : Nat) : Nat :=
  ((sgl.take i).map ScatterEntry.length).sum

/-- A scatter list covers a buffer, page by page; `frame` is the page frame
behind each page of the buffer. -/
structure Tiles (frame : Nat → Nat) (addr size : Nat)
    (sgl : List ScatterEntry) : Prop where
  within : ∀ entry ∈ sgl, entry.offset + entry.length ≤ pageSize
  positive : ∀ entry ∈ sgl, 0 < entry.length
  total : (sgl.map ScatterEntry.length).sum = size
  offsets : ∀ i entry, sgl[i]? = some entry → i ≠ 0 → entry.offset = 0
  place : ∀ i entry, sgl[i]? = some entry → entry.page = frame i ∧
    (addr / pageSize + i) * pageSize + entry.offset =
      addr + bytesBefore sgl i

section Tiling

variable {frame : Nat → Nat}

/-- What the loop builds from a position inside the buffer on. -/
structure TilesFrom (frame : Nat → Nat) (index offset length : Nat)
    (sgl : List ScatterEntry) : Prop where
  within : ∀ entry ∈ sgl, entry.offset + entry.length ≤ pageSize
  positive : ∀ entry ∈ sgl, 0 < entry.length
  total : (sgl.map ScatterEntry.length).sum = length
  offsets : ∀ i entry, sgl[i]? = some entry →
    entry.offset = if i = 0 then offset else 0
  place : ∀ i entry, sgl[i]? = some entry → entry.page = frame (index + i) ∧
    i * pageSize + entry.offset = offset + bytesBefore sgl i

theorem bytesBefore_succ (first : ScatterEntry) (rest : List ScatterEntry)
    (i : Nat) :
    bytesBefore (first :: rest) (i + 1) = first.length + bytesBefore rest i :=
  rfl

/-- One more page in front. -/
theorem TilesFrom.cons {index offset length : Nat} {sgl : List ScatterEntry}
    (rest : TilesFrom frame (index + 1) 0 length sgl)
    (inPage : offset < pageSize) :
    TilesFrom frame index offset (pageSize - offset + length)
      (⟨frame index, offset, pageSize - offset, 0, 0⟩ :: sgl) where
  within entry member := by
    rcases List.mem_cons.mp member with rfl | later
    · dsimp only
      omega
    · exact rest.within entry later
  positive entry member := by
    rcases List.mem_cons.mp member with rfl | later
    · exact Nat.sub_pos_of_lt inPage
    · exact rest.positive entry later
  total := by
    rw [List.map_cons, List.sum_cons, rest.total]
  offsets i entry found := by
    cases i with
    | zero =>
        cases found
        rfl
    | succ i =>
        rw [List.getElem?_cons_succ] at found
        rw [if_neg (Nat.succ_ne_zero i), rest.offsets i entry found, ite_self]
  place i entry found := by
    cases i with
    | zero =>
        cases found
        exact ⟨rfl, by rw [Nat.zero_mul, Nat.zero_add]; rfl⟩
    | succ i =>
        rw [List.getElem?_cons_succ] at found
        obtain ⟨page, position⟩ := rest.place i entry found
        refine ⟨by rw [page]; congr 1; omega, ?_⟩
        rw [bytesBefore_succ, Nat.succ_mul]
        dsimp only
        omega

/-- The loop covers a rest that its pages can hold and that needs them
all. -/
theorem pagesToSgl_tilesFrom (count : Nat) :
    ∀ index offset length, offset < pageSize → 0 < length →
      length < 2 ^ 32 → count * pageSize < offset + length →
      offset + length ≤ (count + 1) * pageSize →
      TilesFrom frame index offset length
        (pagesToSgl frame (count + 1) index offset length) := by
  induction count with
  | zero =>
      intro index offset length inPage positive inWord _ fits
      have whole : min length (pageSize - offset) = length := by omega
      rw [pagesToSgl, whole, pagesToSgl]
      exact
        { within := by simp; omega
          positive := by simp; omega
          total := by simp
          offsets := by
            intro i entry found
            cases i with
            | zero => cases found; rfl
            | succ i => simp at found
          place := by
            intro i entry found
            cases i with
            | zero => cases found; simp [bytesBefore]
            | succ i => simp at found }
  | succ count ih =>
      intro index offset length inPage positive inWord long fits
      rw [Nat.succ_mul] at long
      rw [Nat.succ_mul (count + 1)] at fits
      have cut : min length (pageSize - offset) = pageSize - offset := by
        omega
      have remaining : u32 (length + 2 ^ 32 - (pageSize - offset)) =
          length - (pageSize - offset) := by
        unfold u32
        omega
      have rest := (ih (index + 1) 0 (length - (pageSize - offset))
        pageSize_pos (by omega) (by omega) (by omega) (by omega)).cons inPage
      rw [show pageSize - offset + (length - (pageSize - offset)) = length by
        omega] at rest
      rw [pagesToSgl, cut, remaining]
      exact rest

theorem TilesFrom.tiles {addr size : Nat} {sgl : List ScatterEntry}
    (all : TilesFrom frame 0 (offsetInPage addr) size sgl) :
    Tiles frame addr size sgl where
  within := all.within
  positive := all.positive
  total := all.total
  offsets i entry found later := by
    rw [all.offsets i entry found, if_neg later]
  place i entry found := by
    obtain ⟨page, position⟩ := all.place i entry found
    refine ⟨by rw [page, Nat.zero_add], ?_⟩
    have whole : addr / pageSize * pageSize + offsetInPage addr = addr := by
      rw [Nat.mul_comm]
      exact Nat.div_add_mod addr pageSize
    rw [Nat.add_mul]
    omega

theorem pagesToSgl_total_le (count : Nat) :
    ∀ index offset length,
      ((pagesToSgl frame count index offset length).map
        ScatterEntry.length).sum ≤ count * pageSize := by
  induction count with
  | zero =>
      intro index offset length
      exact Nat.zero_le _
  | succ count ih =>
      intro index offset length
      have rest := ih (index + 1) 0
        (u32 (length + 2 ^ 32 - (pageSize - offset)))
      have first : min length (pageSize - offset) ≤ pageSize := by omega
      rw [pagesToSgl, List.map_cons, List.sum_cons, Nat.succ_mul]
      dsimp only
      omega

/-- The scatter list covers the buffer exactly when its end can be written in
32 bits. -/
theorem pagesToSgl_tiles_iff {addr size : Nat} (positive : 0 < size)
    (inWord : size < 2 ^ 32) :
    Tiles frame addr size (pagesToSgl frame (userPages addr size) 0
        (offsetInPage addr) size) ↔ offsetInPage addr + size < 2 ^ 32 := by
  have inPage : offsetInPage addr < pageSize := Nat.mod_lt _ pageSize_pos
  constructor
  · intro tiles
    by_contra beyond
    have count : userPages addr size ≤ 1 := by
      unfold userPages divRoundUp u32
      unfold pageSize at inPage ⊢
      omega
    have short := @pagesToSgl_total_le frame (userPages addr size) 0
      (offsetInPage addr) size
    rw [tiles.total] at short
    have pages := Nat.mul_le_mul_right pageSize count
    unfold pageSize at short pages inPage
    omega
  · intro small
    obtain ⟨count, countEq⟩ : ∃ count, userPages addr size = count + 1 := by
      refine ⟨userPages addr size - 1, ?_⟩
      unfold userPages divRoundUp u32
      rw [Nat.mod_eq_of_lt small]
      unfold pageSize
      omega
    have bounds : count * pageSize < offsetInPage addr + size ∧
        offsetInPage addr + size ≤ (count + 1) * pageSize := by
      unfold userPages divRoundUp u32 at countEq
      rw [Nat.mod_eq_of_lt small] at countEq
      unfold pageSize at countEq ⊢
      omega
    rw [countEq]
    exact (pagesToSgl_tilesFrom count 0 _ size inPage positive inWord
      bounds.1 bounds.2).tiles

/-- No page is counted when the sum of offset and size is cut to zero. -/
theorem userPages_eq_zero_iff {addr size : Nat} (positive : 0 < size)
    (inWord : size < 2 ^ 32) :
    userPages addr size = 0 ↔ offsetInPage addr + size = 2 ^ 32 := by
  have inPage : offsetInPage addr < pageSize := Nat.mod_lt _ pageSize_pos
  unfold userPages divRoundUp u32
  unfold pageSize at inPage ⊢
  omega

end Tiling

/-! ## The function -/

/-- The entry check lets an address and a size pass. -/
def Accepted (addr size : Nat) : Prop :=
  addr ≠ 0 ∧ addr % 4 = 0 ∧ size ≠ 0

/-- The steps in front of the scatter table go through. -/
structure ReachesTable (env : MapEnv) (addr size : Nat) (access : Bool) :
    Prop where
  pages : env.pagesAlloc = true
  enough : (userPages addr size : Int) ≤ env.pinnedCount
  vmap : access = true → env.vmap = true

/-- One of the steps fails. -/
def StepFails (env : MapEnv) (addr size : Nat) (access : Bool) : Prop :=
  ¬ ReachesTable env addr size access ∨ env.sglAlloc = false ∨
    env.dmaMapped ≤ 0

/-- The mapping covers the buffer with the table that it hands to
`dma_map_sg` and stores, or fails and leaves nothing behind. -/
structure CoversOrFails (env : MapEnv) (pinned : List Nat) (prps : NvmePrps)
    (addr size : Nat) (access : Bool) (result : MapResult) : Prop where
  covers : result.ret = 0 → ∃ sgl,
    dnvmePagesToSgl env (userPages addr size) (offsetInPage addr) size =
      .ok (some sgl) ∧
    result.prps.sg = some (env.dmaMap sgl) ∧ Tiles env.frame addr size sgl
  fails : StepFails env addr size access →
    result.ret < 0 ∧ result.pinned = pinned ∧ result.prps = prps

section Mapping

variable {env : MapEnv} {pinned : List Nat} {prps : NvmePrps}
  {addr size dir : Nat} {access : Bool}

/-- A failure in front of the scatter table is reported and undone. -/
theorem map_stops_early (accepted : Accepted addr size)
    (stops : ¬ ReachesTable env addr size access) :
    ∃ result, dnvmeMapUserPage env pinned prps addr size dir access =
        .ok result ∧
      result.ret < 0 ∧ result.pinned = pinned ∧ result.prps = prps := by
  obtain ⟨address, aligned, some_⟩ := accepted
  have noMemory : -Errno.ENOMEM < 0 := by decide
  have noAccess : -Errno.EFAULT < 0 := by decide
  unfold dnvmeMapUserPage
  rw [if_neg (by simp [address, aligned, some_])]
  dsimp only
  by_cases noPages : (!env.pagesAlloc) = true
  · rw [if_pos noPages]
    exact ⟨_, rfl, noMemory, rfl, rfl⟩
  rw [if_neg noPages]
  by_cases few : env.pinnedCount < userPages addr size
  · rw [if_pos few]
    exact ⟨_, rfl, noAccess, SubmitFailure.putPages_append _ _, rfl⟩
  rw [if_neg few]
  by_cases noMap : (access && !env.vmap) = true
  · rw [if_pos noMap]
    exact ⟨_, rfl, noAccess, SubmitFailure.putPages_append _ _, rfl⟩
  refine absurd ⟨by simpa using noPages, not_lt.mp few, fun asked => ?_⟩ stops
  rw [asked] at noMap
  simpa using noMap

/-- The rest of the function, from the scatter table on. -/
theorem map_from_table (accepted : Accepted addr size)
    (reaches : ReachesTable env addr size access) :
    dnvmeMapUserPage env pinned prps addr size dir access =
      let pages := (List.range (userPages addr size)).map env.frame
      let undone := putPages pages (pages ++ pinned)
      match dnvmePagesToSgl env (userPages addr size) (offsetInPage addr)
          size with
      | .error oops => .error oops
      | .ok none => .ok ⟨env.pinnedCount, prps, undone⟩
      | .ok (some sgl) =>
          if env.dmaMapped ≤ 0 then .ok ⟨-Errno.ENOMEM, prps, undone⟩
          else
            .ok ⟨0, { prps with
                      sg := some (env.dmaMap sgl)
                      numMapPgs := userPages addr size
                      buf := access
                      dataDir := dir
                      dataBufAddr := addr
                      dataBufSize := size }, pages ++ pinned⟩ := by
  obtain ⟨address, aligned, some_⟩ := accepted
  have mapped : ¬ (access && !env.vmap) = true := by
    cases access with
    | false => simp
    | true => simp [reaches.vmap rfl]
  unfold dnvmeMapUserPage
  rw [if_neg (by simp [address, aligned, some_])]
  dsimp only
  rw [if_neg (by simp [reaches.pages]), if_neg (not_lt.mpr reaches.enough)]
  exact if_neg mapped

/-- The table of a buffer whose end does not lie on the edge of 32 bits. -/
theorem table_of_pages (accepted : Accepted addr size)
    (inWord : size < 2 ^ 32) (table : env.sglAlloc = true)
    (counted : offsetInPage addr + size ≠ 2 ^ 32) :
    dnvmePagesToSgl env (userPages addr size) (offsetInPage addr) size =
      .ok (some (pagesToSgl env.frame (userPages addr size) 0
        (offsetInPage addr) size)) := by
  have some_ : userPages addr size ≠ 0 := fun zero => counted
    ((userPages_eq_zero_iff (Nat.pos_of_ne_zero accepted.2.2) inWord).mp zero)
  rw [dnvmePagesToSgl, table, if_neg (by simp), if_neg some_]

/-- A mapping whose table is missing returns the number of pinned pages. -/
theorem map_without_table (accepted : Accepted addr size)
    (reaches : ReachesTable env addr size access)
    (missing : env.sglAlloc = false) :
    ∃ result, dnvmeMapUserPage env pinned prps addr size dir access =
        .ok result ∧ result.ret = env.pinnedCount := by
  rw [map_from_table accepted reaches, dnvmePagesToSgl, missing,
    if_pos (by simp)]
  exact ⟨_, rfl, rfl⟩

/-- A mapping without pages writes in front of its table. -/
theorem map_without_pages (accepted : Accepted addr size)
    (inWord : size < 2 ^ 32) (reaches : ReachesTable env addr size access)
    (table : env.sglAlloc = true)
    (edge : offsetInPage addr + size = 2 ^ 32) :
    dnvmeMapUserPage env pinned prps addr size dir access =
      .error .wildPointer := by
  have none_ := (userPages_eq_zero_iff (Nat.pos_of_ne_zero accepted.2.2)
    inWord).mpr edge
  rw [map_from_table accepted reaches, dnvmePagesToSgl, table,
    if_neg (by simp), if_pos none_]

/--
Mapping a user buffer covers it or fails cleanly exactly when, as soon as the
scatter table is reached, the table is not missing, offset and size do not add
up to `2 ^ 32`, and where the DMA mapping succeeds they add up to less.
-/
theorem map_covers_or_fails_iff (accepted : Accepted addr size)
    (inWord : size < 2 ^ 32) :
    (∃ result, dnvmeMapUserPage env pinned prps addr size dir access =
        .ok result ∧
      CoversOrFails env pinned prps addr size access result) ↔
      (ReachesTable env addr size access → env.sglAlloc = true ∧
        offsetInPage addr + size ≠ 2 ^ 32 ∧
        (0 < env.dmaMapped → offsetInPage addr + size < 2 ^ 32)) := by
  have tiles := @pagesToSgl_tiles_iff env.frame addr size
    (Nat.pos_of_ne_zero accepted.2.2) inWord
  constructor
  · rintro ⟨result, done, right⟩ reaches
    have table : env.sglAlloc = true := by
      by_contra missing
      rw [Bool.not_eq_true] at missing
      obtain ⟨also, again, counts⟩ := @map_without_table _ pinned prps _ _ dir
        _ accepted reaches missing
      obtain rfl : result = also := Except.ok.inj (done.symm.trans again)
      have negative := (right.fails (Or.inr (Or.inl missing))).1
      have enough := reaches.enough
      omega
    have counted : offsetInPage addr + size ≠ 2 ^ 32 := by
      intro edge
      rw [map_without_pages accepted inWord reaches table edge] at done
      cases done
    refine ⟨table, counted, fun mapped => ?_⟩
    have list := table_of_pages accepted inWord table counted
    rw [map_from_table accepted reaches, list] at done
    dsimp only at done
    rw [if_neg (not_le.mpr mapped)] at done
    cases done
    obtain ⟨sgl, same, _, covers⟩ := right.covers rfl
    obtain rfl := Option.some.inj (Except.ok.inj (list.symm.trans same))
    exact tiles.mp covers
  · intro small
    by_cases reaches : ReachesTable env addr size access
    · obtain ⟨table, counted, ends⟩ := small reaches
      have list := table_of_pages accepted inWord table counted
      rw [map_from_table accepted reaches, list]
      dsimp only
      by_cases unmapped : env.dmaMapped ≤ 0
      · rw [if_pos unmapped]
        have negative : -Errno.ENOMEM < 0 := by decide
        exact ⟨_, rfl, fun zero => absurd zero negative.ne,
          fun _ => ⟨negative, SubmitFailure.putPages_append _ _, rfl⟩⟩
      · rw [if_neg unmapped]
        refine ⟨_, rfl, fun _ => ⟨_, list, rfl,
          tiles.mpr (ends (not_le.mp unmapped))⟩, ?_⟩
        rintro (early | missing | fails)
        · exact absurd reaches early
        · rw [table] at missing
          cases missing
        · exact absurd fails unmapped
    · obtain ⟨result, done, negative, undone⟩ := @map_stops_early _ pinned
        prps _ _ dir _ accepted reaches
      refine ⟨result, done, fun zero => ?_, fun _ => ⟨negative, undone⟩⟩
      omega

end Mapping

/-- Three pages are covered. -/
theorem map_covers_three_pages :
    ∃ result, dnvmeMapUserPage (PrpReading.evenPages 3) [] (.zero .cmdPool)
        4096 12288 2 false = .ok result ∧ result.ret = 0 ∧
      CoversOrFails (PrpReading.evenPages 3) [] (.zero .cmdPool) 4096 12288
        false result := by
  obtain ⟨result, done, right⟩ := (@map_covers_or_fails_iff
    (PrpReading.evenPages 3) [] (.zero .cmdPool) 4096 12288 2 false
    ⟨by decide, by decide, by decide⟩ (by decide)).mpr
    fun _ => ⟨by decide, by decide, fun _ => by decide⟩
  refine ⟨result, done, ?_, right⟩
  cases done
  rfl

/-- The same mapping without a scatter table. -/
def tableless : MapEnv :=
  { PrpReading.evenPages 3 with sglAlloc := false }

/-- A missing table is answered with 3, the number of pages; of a buffer of
almost 4 GiB one page is mapped with success; and a buffer that is four bytes
shorter makes the driver write in front of its table. -/
theorem map_fails_silently :
    (∃ result, dnvmeMapUserPage tableless [] (.zero .cmdPool) 4096 12288 2
        false = .ok result ∧ result.ret = 3 ∧
      ¬ CoversOrFails tableless [] (.zero .cmdPool) 4096 12288 false
        result) ∧
      (∃ result, dnvmeMapUserPage (PrpReading.evenPages 1) []
          (.zero .cmdPool) 4104 (2 ^ 32 - 4) 2 false = .ok result ∧
        result.ret = 0 ∧
        ¬ CoversOrFails (PrpReading.evenPages 1) [] (.zero .cmdPool) 4104
          (2 ^ 32 - 4) false result) ∧
      dnvmeMapUserPage (PrpReading.evenPages 0) [] (.zero .cmdPool) 4104
        (2 ^ 32 - 8) 2 false = .error .wildPointer := by
  have reaches : ReachesTable (PrpReading.evenPages 1) 4104 (2 ^ 32 - 4)
      false := ⟨rfl, by decide, fun asked => by cases asked⟩
  have list := @table_of_pages (PrpReading.evenPages 1) 4104 (2 ^ 32 - 4)
    ⟨by decide, by decide, by decide⟩ (by decide) rfl (by decide)
  refine ⟨⟨_, rfl, rfl, fun right => ?_⟩, ?_, ?_⟩
  · have negative := (right.fails (Or.inr (Or.inl rfl))).1
    exact absurd negative (by decide)
  · rw [map_from_table ⟨by decide, by decide, by decide⟩ reaches, list]
    refine ⟨_, rfl, rfl, fun right => ?_⟩
    obtain ⟨sgl, same, _, covers⟩ := right.covers rfl
    obtain rfl := Option.some.inj (Except.ok.inj (list.symm.trans same))
    exact absurd ((pagesToSgl_tiles_iff (by decide) (by decide)).mp covers)
      (by decide)
  · exact map_without_pages ⟨by decide, by decide, by decide⟩ (by decide)
      ⟨rfl, by decide, fun asked => by cases asked⟩ rfl (by decide)

end Dnvme.Driver.MapUserPage
