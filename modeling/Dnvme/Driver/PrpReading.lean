import Dnvme.Driver.Prp

/-!
# Reading PRP lists back

A controller that knows how many pages a transfer spans follows the NVMe rule:
the last slot of a list page is a pointer to the next list page exactly when
more entries remain than the page has slots left.  This module states that
reader and compares it with what `dnvme_setup_prps` writes.

The writer links whenever it meets the last slot with anything left, also when
exactly one entry is left.  The two therefore disagree on the lists whose last
page would be filled to its last slot, and on buffers whose length does not
fit an `int`; on every other buffer the reader finds exactly its pages.
-/

namespace Dnvme.Driver.PrpReading

open Dnvme.Driver
open Dnvme.Lib.ChainedPages

/-! ## The reader -/

/-- The slots of the list page at a bus address. -/
def listPageAt (prps : NvmePrps) (address : Nat) : Option (Nat → Nat) :=
  match prps.prpList with
  | some (.prp entries) =>
      if address ∈ prps.pgAddr then
        some (entries (prps.pgAddr.idxOf address))
      else
        none
  | _ => none

/-- Read `remaining` entries from the list that starts at `address`. -/
def readPrpList (page : Nat → Option (Nat → Nat)) (address remaining : Nat) :
    Option (List Nat) :=
  match page address with
  | none => none
  | some slots =>
      if remaining ≤ nvmePrpsPerPage then
        some ((List.range remaining).map slots)
      else
        -- more entries than slots: the last slot is a pointer
        (readPrpList page (slots (nvmePrpsPerPage - 1))
          (remaining - (nvmePrpsPerPage - 1))).map
          ((List.range (nvmePrpsPerPage - 1)).map slots ++ ·)
termination_by remaining
decreasing_by
  simp only [nvmePrpsPerPage, pageSize, nvmePrpEntrySize] at *
  omega

/--
The data pages a controller finds for a transfer over `pages` pages: through
PRP1 as a list when a queue is created, else PRP1, then PRP2 as a page or as a
list.
-/
def readDataPages (creates : Bool) (pages : Nat) (ccmd : NvmeCommonCommand)
    (prps : NvmePrps) : Option (List Nat) :=
  if creates then
    readPrpList (listPageAt prps) ccmd.dptr.prp1 pages
  else if pages ≤ 1 then
    some [ccmd.dptr.prp1]
  else if pages ≤ 2 then
    some [ccmd.dptr.prp1, ccmd.dptr.prp2]
  else
    (readPrpList (listPageAt prps) ccmd.dptr.prp2 (pages - 1)).map
      (ccmd.dptr.prp1 :: ·)

/-! ## One list loop -/

/-- The link the writer stores on page `page`. -/
def nextLink (prpDma : List Nat) (page : Nat) : Nat :=
  prpDma.getD (page + 1) 0

/-- The scatter entries after entry `index` of `count`, one for each page;
only the last one may be shorter than a page. -/
structure OnePerPage (item : Nat → Nat) (count index : Nat)
    (sg : List ScatterEntry) : Prop where
  length_eq : sg.length + index + 1 = count
  address : ∀ k entry, sg[k]? = some entry →
    entry.dmaAddress = item (index + 1 + k)
  full : ∀ k entry, sg[k]? = some entry → index + 1 + k + 1 < count →
    entry.dmaLength = pageSize

theorem OnePerPage.tail {item : Nat → Nat} {count index : Nat}
    {first : ScatterEntry} {rest : List ScatterEntry}
    (pages : OnePerPage item count index (first :: rest)) :
    OnePerPage item count (index + 1) rest where
  length_eq := by
    have lengthEq := pages.length_eq
    simp only [List.length_cons] at lengthEq
    omega
  address := by
    intro k entry found
    have shifted := pages.address (k + 1) entry (by simpa using found)
    rw [shifted]
    congr 1
    omega
  full := by
    intro k entry found more
    exact pages.full (k + 1) entry (by simpa using found) (by omega)

/-- The loop stands before entry `index` of `count`. -/
structure ListLoop (prpDma : List Nat) (item : Nat → Nat) (count : Nat)
    (cursor : PrpCursor) (index : Nat) : Prop where
  filled : Filled (nvmePrpsPerPage - 1) 0 item (nextLink prpDma) 0
    cursor.entries cursor.page cursor.slot index
  address : cursor.dmaAddr = item index
  pages : OnePerPage item count index cursor.sg
  positive : 0 < cursor.bufLen
  lower : ((count - 1 - index : Nat) : Int) * pageSize <
    cursor.pgOft.val + cursor.bufLen
  upper : cursor.pgOft.val + cursor.bufLen ≤
    ((count - index : Nat) : Int) * pageSize
  sheet : index + 1 < count → cursor.dmaLen = pageSize - cursor.pgOft.val

/-- All entries and all links of a list of `count` entries are in place. -/
def Listed (prpDma : List Nat) (item : Nat → Nat) (count : Nat)
    (entries : Nat → Nat → Nat) : Prop :=
  (∀ m < count, entries (m / (nvmePrpsPerPage - 1))
    (m % (nvmePrpsPerPage - 1)) = item m) ∧
  ∀ p, (p + 1) * (nvmePrpsPerPage - 1) < count →
    entries p (nvmePrpsPerPage - 1) = nextLink prpDma p

/-- A full write of the last entry completes the list. -/
theorem listed_of_filled {prpDma : List Nat} {item : Nat → Nat}
    {count page slot : Nat} {entries : Nat → Nat → Nat}
    (filled : Filled (nvmePrpsPerPage - 1) 0 item (nextLink prpDma) 0
      entries page slot count) :
    Listed prpDma item count entries := by
  constructor
  · intro m below
    simpa using filled.items m below
  · intro p below
    have link := filled.links p
    have position := filled.position
    have slot_le := filled.slot_le
    simp only [Nat.zero_add, Nat.sub_zero] at link position
    apply link
    by_contra reached
    have bound : page * (nvmePrpsPerPage - 1) ≤ p * (nvmePrpsPerPage - 1) :=
      Nat.mul_le_mul_right _ (by omega)
    rw [Nat.add_mul] at below
    omega

theorem nvmePrpsPerPage_eq : nvmePrpsPerPage = 512 := by
  decide

/-- A turn of the loop that writes the last entry. -/
theorem fillPrpList_last {prpDma : List Nat} {item : Nat → Nat}
    {count index : Nat} {cursor : PrpCursor}
    (loop : ListLoop prpDma item count cursor index)
    (notLink : cursor.slot ≠ nvmePrpsPerPage - 1)
    (last : index + 1 = count) :
    ∃ done, fillPrpList prpDma cursor = .ok (0, done) ∧
      Listed prpDma item count done.entries := by
  have upper := loop.upper
  have slot_le := loop.filled.slot_le
  have offset : cursor.pgOft.val < pageSize := cursor.pgOft.isLt
  have written := loop.filled.writeItem (by omega)
  rw [← loop.address, last] at written
  rw [fillPrpList]
  simp only [notLink, if_false]
  rw [show count - index = 1 by omega] at upper
  rw [if_pos loop.positive, if_pos (by omega)]
  exact ⟨_, rfl, listed_of_filled written⟩

/-- A turn of the loop that writes an entry and moves on. -/
theorem fillPrpList_next {prpDma : List Nat} {item : Nat → Nat}
    {count index : Nat} {cursor : PrpCursor}
    (loop : ListLoop prpDma item count cursor index)
    (notLink : cursor.slot ≠ nvmePrpsPerPage - 1)
    (more : index + 1 < count) :
    ∃ next, fillPrpList prpDma cursor = fillPrpList prpDma next ∧
      ListLoop prpDma item count next (index + 1) := by
  have offset : cursor.pgOft.val < pageSize := cursor.pgOft.isLt
  have lower := loop.lower
  have upper := loop.upper
  have lengthEq := loop.pages.length_eq
  have slot_le := loop.filled.slot_le
  have sheet := loop.sheet more
  have pages := loop.pages
  have written := loop.filled.writeItem (by omega)
  rw [← loop.address] at written
  simp only [pageSize] at offset lower upper sheet
  have spent : s32 (cursor.dmaLen -
      ((pageSize - cursor.pgOft.val : Nat) : Int)) = 0 := by
    simp only [pageSize]
    rw [sheet, s32_of_range (by omega) (by omega)]
    omega
  rw [fillPrpList]
  simp only [notLink, if_false, spent]
  rw [if_pos loop.positive, if_neg (by simp only [pageSize]; omega)]
  cases sgEq : cursor.sg with
  | nil =>
      rw [sgEq] at lengthEq
      simp only [List.length_nil] at lengthEq
      omega
  | cons next rest =>
      rw [sgEq] at pages
      refine ⟨_, rfl, written, ?_, pages.tail, ?_, ?_, ?_, ?_⟩
      · simpa using pages.address 0 next (by simp)
      · simp only [pageSize]
        omega
      · simp only [pageSize]
        omega
      · simp only [pageSize]
        omega
      · intro further
        have full := pages.full 0 next (by simp) (by omega)
        simp only [full, pageSize]
        exact s32_of_range (by omega) (by omega)

/-- A turn of the loop that links to the next page. -/
theorem fillPrpList_link {prpDma : List Nat} {item : Nat → Nat}
    {count index : Nat} {cursor : PrpCursor}
    (loop : ListLoop prpDma item count cursor index)
    (link : cursor.slot = nvmePrpsPerPage - 1) :
    ∃ next, fillPrpList prpDma cursor = fillPrpList prpDma next ∧
      ListLoop prpDma item count next index ∧
      next.slot ≠ nvmePrpsPerPage - 1 := by
  have filled := loop.filled
  rw [link] at filled
  have linked := filled.writeLink (by decide)
  rw [← link] at linked
  rw [fillPrpList]
  simp only [link, if_true, loop.positive]
  refine ⟨_, rfl, ⟨?_, loop.address, loop.pages, loop.positive,
    loop.lower, loop.upper, loop.sheet⟩, ?_⟩
  · simpa [nextLink, link] using linked
  · change (0 : Nat) ≠ _
    decide

/-- The loop writes every entry and every link, and returns 0. -/
theorem fillPrpList_spec {prpDma : List Nat} {item : Nat → Nat}
    {count : Nat} (remaining : Nat) :
    ∀ (cursor : PrpCursor) (index : Nat), count - index = remaining →
      ListLoop prpDma item count cursor index →
      ∃ done, fillPrpList prpDma cursor = .ok (0, done) ∧
        Listed prpDma item count done.entries := by
  induction remaining with
  | zero =>
      intro cursor index remainingEq loop
      have lengthEq := loop.pages.length_eq
      omega
  | succ remaining ih =>
      have data : ∀ (cursor : PrpCursor) (index : Nat),
          count - index = remaining + 1 →
          ListLoop prpDma item count cursor index →
          cursor.slot ≠ nvmePrpsPerPage - 1 →
          ∃ done, fillPrpList prpDma cursor = .ok (0, done) ∧
            Listed prpDma item count done.entries := by
        intro cursor index remainingEq loop notLink
        by_cases last : index + 1 = count
        · exact fillPrpList_last loop notLink last
        · obtain ⟨next, same, loopNext⟩ :=
            fillPrpList_next loop notLink (by omega)
          rw [same]
          exact ih next (index + 1) (by omega) loopNext
      intro cursor index remainingEq loop
      by_cases link : cursor.slot = nvmePrpsPerPage - 1
      · obtain ⟨next, same, loopNext, notLink⟩ :=
          fillPrpList_link loop link
        rw [same]
        exact data next index remainingEq loopNext notLink
      · exact data cursor index remainingEq loop link

/-! ## Reading one list back -/

/-- Lists whose last page would be filled to its last slot. -/
def FillsLastSlot (count : Nat) : Prop :=
  nvmePrpsPerPage ≤ count ∧ count % (nvmePrpsPerPage - 1) = 1

instance (count : Nat) : Decidable (FillsLastSlot count) :=
  inferInstanceAs (Decidable (_ ∧ _))

section ReadBack

variable {prps : NvmePrps} {entries : Nat → Nat → Nat} {item : Nat → Nat}
  {count : Nat}

/-- The list pages a filled `nvme_prps` shows to the controller. -/
structure ListMemory (prps : NvmePrps) (entries : Nat → Nat → Nat)
    (item : Nat → Nat) (count : Nat) : Prop where
  pages : prps.prpList = some (.prp entries)
  distinct : prps.pgAddr.Nodup
  enough : ∀ p, p * (nvmePrpsPerPage - 1) < count → p < prps.pgAddr.length
  listed : Listed prps.pgAddr item count entries

theorem ListMemory.page_eq (memory : ListMemory prps entries item count)
    {p : Nat} (below : p * (nvmePrpsPerPage - 1) < count) :
    listPageAt prps (prps.pgAddr.getD p 0) = some (entries p) := by
  have inside := memory.enough p below
  have value : prps.pgAddr.getD p 0 = prps.pgAddr[p] := by
    simp [List.getD_eq_getElem?_getD, inside]
  rw [listPageAt, memory.pages]
  simp only [value, List.getElem_mem, if_true,
    memory.distinct.idxOf_getElem]

theorem ListMemory.slot_eq (memory : ListMemory prps entries item count)
    {p k : Nat} (slot : k < nvmePrpsPerPage - 1)
    (below : p * (nvmePrpsPerPage - 1) + k < count) :
    entries p k = item (p * (nvmePrpsPerPage - 1) + k) := by
  have found := memory.listed.1 _ below
  rw [nvmePrpsPerPage_eq] at *
  rw [show (p * (512 - 1) + k) / (512 - 1) = p by omega,
    show (p * (512 - 1) + k) % (512 - 1) = k by omega] at found
  exact found

/-- The pages before the last one are read as the writer wrote them. -/
theorem ListMemory.read_linked (memory : ListMemory prps entries item count)
    {p : Nat} (more : (p + 1) * (nvmePrpsPerPage - 1) + 1 < count) :
    readPrpList (listPageAt prps) (prps.pgAddr.getD p 0)
        (count - p * (nvmePrpsPerPage - 1)) =
      (readPrpList (listPageAt prps) (prps.pgAddr.getD (p + 1) 0)
        (count - (p + 1) * (nvmePrpsPerPage - 1))).map
        ((List.range (nvmePrpsPerPage - 1)).map
          (fun k => item (p * (nvmePrpsPerPage - 1) + k)) ++ ·) := by
  have link := memory.listed.2 p (by omega)
  have next : (p + 1) * (nvmePrpsPerPage - 1) =
      p * (nvmePrpsPerPage - 1) + (nvmePrpsPerPage - 1) := by ring
  have slots : (List.range (nvmePrpsPerPage - 1)).map (entries p) =
      (List.range (nvmePrpsPerPage - 1)).map
        (fun k => item (p * (nvmePrpsPerPage - 1) + k)) := by
    apply List.map_congr_left
    intro k member
    rw [List.mem_range] at member
    exact memory.slot_eq member (by omega)
  rw [readPrpList, memory.page_eq (by omega)]
  simp only [link, slots, nextLink]
  rw [if_neg (by omega), next, Nat.sub_add_eq]

/-- A list that does not fill its last slot is read back exactly. -/
theorem ListMemory.read_exact (memory : ListMemory prps entries item count)
    (fits : ¬ FillsLastSlot count) (remaining : Nat) :
    ∀ p, remaining = count - p * (nvmePrpsPerPage - 1) →
      p * (nvmePrpsPerPage - 1) < count →
      readPrpList (listPageAt prps) (prps.pgAddr.getD p 0) remaining =
        some ((List.range remaining).map
          (fun k => item (p * (nvmePrpsPerPage - 1) + k))) := by
  induction remaining using Nat.strong_induction_on with
  | h remaining ih =>
      intro p remainingEq below
      have next : (p + 1) * (nvmePrpsPerPage - 1) =
          p * (nvmePrpsPerPage - 1) + (nvmePrpsPerPage - 1) := by ring
      have positive : 0 < nvmePrpsPerPage - 1 := by decide
      by_cases more : (p + 1) * (nvmePrpsPerPage - 1) + 1 < count
      · have later := ih (count - (p + 1) * (nvmePrpsPerPage - 1))
          (by omega) (p + 1) rfl (by omega)
        have split : remaining = (nvmePrpsPerPage - 1) +
            (count - (p + 1) * (nvmePrpsPerPage - 1)) := by omega
        have linked := memory.read_linked more
        rw [later, Option.map_some, ← remainingEq] at linked
        have shift : ((fun k => item (p * (nvmePrpsPerPage - 1) + k)) ∘
              fun k => nvmePrpsPerPage - 1 + k) =
            fun k => item ((p + 1) * (nvmePrpsPerPage - 1) + k) := by
          funext k
          rw [Function.comp_apply, next, Nat.add_assoc]
        rw [linked, split, List.range_add, List.map_append, List.map_map,
          shift]
      · -- the last page: fewer entries than slots
        have short : remaining ≤ nvmePrpsPerPage - 1 := by
          by_contra long
          apply fits
          have full : count =
              (p + 1) * (nvmePrpsPerPage - 1) + 1 := by omega
          rw [full]
          exact ⟨by omega, by rw [nvmePrpsPerPage_eq]; omega⟩
        rw [readPrpList, memory.page_eq below]
        simp only [show remaining ≤ nvmePrpsPerPage by omega, if_true]
        congr 1
        apply List.map_congr_left
        intro k member
        rw [List.mem_range] at member
        exact memory.slot_eq (by omega) (by omega)

/-- A list that fills its last slot is read with a pointer in the place of
its last entry. -/
theorem ListMemory.read_last_pointer
    (memory : ListMemory prps entries item count) {last : Nat}
    (full : count = last * (nvmePrpsPerPage - 1) + nvmePrpsPerPage) :
    ∀ p ≤ last, ∃ front,
      readPrpList (listPageAt prps) (prps.pgAddr.getD p 0)
          (count - p * (nvmePrpsPerPage - 1)) =
        some (front ++ [prps.pgAddr.getD (last + 1) 0]) := by
  intro p pLe
  induction pLe using Nat.decreasingInduction with
  | self =>
      have next : (last + 1) * (nvmePrpsPerPage - 1) =
          last * (nvmePrpsPerPage - 1) + (nvmePrpsPerPage - 1) := by ring
      have positive : 0 < nvmePrpsPerPage - 1 := by decide
      have link := memory.listed.2 last (by omega)
      refine ⟨(List.range (nvmePrpsPerPage - 1)).map (entries last), ?_⟩
      rw [readPrpList, memory.page_eq (by omega),
        show count - last * (nvmePrpsPerPage - 1) = nvmePrpsPerPage - 1 + 1
          by omega]
      simp only [show nvmePrpsPerPage - 1 + 1 ≤ nvmePrpsPerPage by decide,
        if_true, List.range_succ, List.map_append, List.map_cons,
        List.map_nil, link, nextLink]
  | of_succ p below ih =>
      obtain ⟨front, readNext⟩ := ih
      have more : (p + 1) * (nvmePrpsPerPage - 1) + 1 < count := by
        have reach : (p + 1) * (nvmePrpsPerPage - 1) ≤
            last * (nvmePrpsPerPage - 1) := Nat.mul_le_mul_right _ below
        have positive : 0 < nvmePrpsPerPage - 1 := by decide
        omega
      rw [memory.read_linked more, readNext]
      exact ⟨_, by rw [Option.map_some, ← List.append_assoc]⟩

/-- The reader and the writer agree on a list exactly when the list does not
fill its last slot. -/
theorem ListMemory.read_iff (memory : ListMemory prps entries item count)
    (positive : 0 < count) (separate : ∀ k, item k ∉ prps.pgAddr) :
    readPrpList (listPageAt prps) (prps.pgAddr.getD 0 0) count =
        some ((List.range count).map item) ↔
      ¬ FillsLastSlot count := by
  constructor
  · intro exact_ full
    obtain ⟨long, remainder⟩ := full
    rw [nvmePrpsPerPage_eq] at long remainder
    let last := (count - 512) / 511
    have fullEq : count =
        last * (nvmePrpsPerPage - 1) + nvmePrpsPerPage := by
      rw [nvmePrpsPerPage_eq]
      omega
    have inside : last + 1 < prps.pgAddr.length := by
      apply memory.enough
      rw [nvmePrpsPerPage_eq]
      omega
    obtain ⟨front, pointer⟩ :=
      memory.read_last_pointer fullEq 0 (Nat.zero_le last)
    rw [Nat.zero_mul, Nat.sub_zero, exact_, Option.some.injEq,
      show count = count - 1 + 1 by omega, List.range_succ,
      List.map_append] at pointer
    have lastEq := List.append_inj_right' pointer rfl
    rw [List.map_singleton, List.cons.injEq] at lastEq
    apply separate (count - 1)
    rw [lastEq.1, List.getD_eq_getElem?_getD,
      List.getElem?_eq_getElem inside]
    exact List.getElem_mem inside
  · intro fits
    have read := memory.read_exact fits count 0 (by omega) (by omega)
    simpa using read

end ReadBack

/-! ## The list pages of one setup -/

/-- The addresses of the list pages are new: no two list pages share one, and
none is the address of a page of the buffer. -/
structure FreshPages (env : ListEnv) (item : Nat → Nat) : Prop where
  injective : ∀ i j address, env.page i = some address →
    env.page j = some address → i = j
  separate : ∀ i k, env.page i ≠ some (item k)

theorem allocListPages_fresh {env : ListEnv} {item : Nat → Nat}
    {count : Nat} {addresses : List Nat} (fresh : FreshPages env item)
    (allocated : allocListPages env count = some addresses) :
    addresses.length = count ∧ addresses.Nodup ∧
      ∀ k, item k ∉ addresses := by
  obtain ⟨lengthEq, pages⟩ := allocListPages_some allocated
  refine ⟨lengthEq, ?_, ?_⟩
  · rw [List.nodup_iff_injective_getElem]
    intro i j same
    have same : addresses[i.val] = addresses[j.val] := same
    have atI := pages i (by omega)
    have atJ := pages j (by omega)
    rw [List.getElem?_eq_getElem i.isLt] at atI
    rw [List.getElem?_eq_getElem j.isLt, ← same] at atJ
    exact Fin.ext (fresh.injective i j _ atI atJ)
  · intro k member
    obtain ⟨i, below, found⟩ := List.getElem_of_mem member
    have atI := pages i (by omega)
    rw [List.getElem?_eq_getElem below, found] at atI
    exact fresh.separate i k atI

/-- The pages that the size formula of `dnvme_setup_prps` reserves. -/
theorem reserved_enough {count : Nat} (small : count < 2 ^ 21) (p : Nat)
    (below : p * (nvmePrpsPerPage - 1) < count) :
    p < divRoundUp (u32 (nvmePrpEntrySize * count))
      (pageSize - nvmePrpEntrySize) := by
  rw [nvmePrpsPerPage_eq] at below
  simp only [divRoundUp, u32, nvmePrpEntrySize, pageSize]
  omega

/-- The loop starts before the first entry of its list. -/
theorem listLoop_start (prpDma : List Nat) {item : Nat → Nat}
    {count dmaAddr : Nat} {bufLen dmaLen : Int} {pgOft : Fin pageSize}
    {sg : List ScatterEntry} (address : dmaAddr = item 0)
    (pages : OnePerPage item count 0 sg) (positive : 0 < bufLen)
    (lower : ((count - 1 : Nat) : Int) * pageSize < pgOft.val + bufLen)
    (upper : pgOft.val + bufLen ≤ (count : Int) * pageSize)
    (sheet : 1 < count → dmaLen = pageSize - pgOft.val) :
    ListLoop prpDma item count
      ⟨0, 0, bufLen, pgOft, dmaAddr, dmaLen, sg, fun _ _ => 0, 0⟩ 0 where
  filled := Filled.start _ 0 (by simp)
  address := address
  pages := pages
  positive := positive
  lower := by simpa using lower
  upper := by simpa using upper
  sheet := sheet

/-- A list that was set up holds the entries and is reached through the
pointer that the flag selects. -/
theorem buildPrpList_memory {env : ListEnv} {poolPages : List Nat}
    {flag : PrpListFlag} {ccmd : NvmeCommonCommand} {prps : NvmePrps}
    {bufLen dmaLen : Int} {pgOft : Fin pageSize} {dmaAddr count : Nat}
    {sg : List ScatterEntry} {item : Nat → Nat} {result : SetupResult}
    (fresh : FreshPages env item)
    (address : dmaAddr = item 0)
    (pages : OnePerPage item count 0 sg)
    (positive : 0 < bufLen) (small : bufLen < 2 ^ 31)
    (lower : ((count - 1 : Nat) : Int) * pageSize < pgOft.val + bufLen)
    (upper : pgOft.val + bufLen ≤ (count : Int) * pageSize)
    (sheet : 1 < count → dmaLen = pageSize - pgOft.val)
    (built : buildPrpList env poolPages flag ccmd prps bufLen pgOft dmaAddr
      dmaLen sg = .ok result)
    (success : result.ret = 0) :
    ∃ entries, ListMemory result.prps entries item count ∧
      (∀ k, item k ∉ result.prps.pgAddr) ∧
      result.ccmd.dptr = match flag with
        | .prp1List => ⟨result.prps.pgAddr.getD 0 0, 0⟩
        | .prp2List => ⟨ccmd.dptr.prp1, result.prps.pgAddr.getD 0 0⟩ := by
  have offset : pgOft.val < 4096 := pgOft.isLt
  have entryCount :
      divRoundUp ((pgOft.val + bufLen) % 2 ^ 32).toNat pageSize = count := by
    simp only [divRoundUp, pageSize] at lower upper ⊢
    omega
  rw [buildPrpList] at built
  simp only [entryCount] at built
  cases allocated : allocListPages env (divRoundUp
      (u32 (nvmePrpEntrySize * count)) (pageSize - nvmePrpEntrySize)) with
  | none =>
      rw [allocated] at built
      cases built
      simp [Errno.ENOMEM] at success
  | some prpDma =>
      obtain ⟨lengthEq, distinct, separate⟩ :=
        allocListPages_fresh fresh allocated
      obtain ⟨done, filled, listed⟩ := fillPrpList_spec count _ 0 rfl
        (listLoop_start prpDma address pages positive lower upper sheet)
      rw [allocated] at built
      simp only [filled, lt_self_iff_false, if_false] at built
      cases built
      refine ⟨done.entries, ⟨rfl, distinct, ?_, listed⟩, separate, ?_⟩
      · intro p below
        rw [lengthEq]
        simp only [pageSize] at lower
        exact reserved_enough (by omega) p below
      · cases flag <;> rfl

/-- With all list pages at hand the list is set up. -/
theorem buildPrpList_total {env : ListEnv} {poolPages : List Nat}
    {flag : PrpListFlag} {ccmd : NvmeCommonCommand} {prps : NvmePrps}
    {bufLen dmaLen : Int} {pgOft : Fin pageSize} {dmaAddr count : Nat}
    {sg : List ScatterEntry} {item : Nat → Nat}
    (allocated : ∀ n, ∃ prpDma, allocListPages env n = some prpDma)
    (address : dmaAddr = item 0) (pages : OnePerPage item count 0 sg)
    (positive : 0 < bufLen)
    (lower : ((count - 1 : Nat) : Int) * pageSize < pgOft.val + bufLen)
    (upper : pgOft.val + bufLen ≤ (count : Int) * pageSize)
    (sheet : 1 < count → dmaLen = pageSize - pgOft.val) :
    ∃ result, buildPrpList env poolPages flag ccmd prps bufLen pgOft dmaAddr
      dmaLen sg = .ok result ∧ result.ret = 0 := by
  obtain ⟨prpDma, allocated⟩ := allocated (divRoundUp (u32
    (nvmePrpEntrySize * divRoundUp
      ((pgOft.val + bufLen) % 2 ^ 32).toNat pageSize))
    (pageSize - nvmePrpEntrySize))
  obtain ⟨done, filled, _⟩ := fillPrpList_spec count _ 0 rfl
    (listLoop_start prpDma address pages positive lower upper sheet)
  rw [buildPrpList]
  simp only [allocated, filled]
  exact ⟨_, rfl, rfl⟩

/-! ## The mapped buffer -/

/-- The number of pages a buffer spans. -/
def pageCount (addr size : Nat) : Nat :=
  divRoundUp (offsetInPage addr + size) pageSize

/-- The bus address of page `k` of a buffer; the first one has the offset. -/
def bufferPage (bus : Nat → Nat) (addr k : Nat) : Nat :=
  bus k + if k = 0 then offsetInPage addr else 0

theorem pageCount_range (addr : Nat) {size : Nat} (positive : 0 < size) :
    (pageCount addr size - 1) * 4096 < offsetInPage addr + size ∧
      offsetInPage addr + size ≤ pageCount addr size * 4096 ∧
      0 < pageCount addr size := by
  simp only [pageCount, divRoundUp, pageSize]
  omega

/-- All page addresses of a buffer, in order. -/
def bufferPages (bus : Nat → Nat) (addr size : Nat) : List Nat :=
  (List.range (pageCount addr size)).map (bufferPage bus addr)

/-- A `dma_map_sg` that keeps one scatter entry for each page. -/
def mapEachPage (bus : Nat → Nat) (sgl : List ScatterEntry) :
    List ScatterEntry :=
  sgl.mapIdx fun k entry =>
    { entry with
      dmaAddress := bus k + entry.offset
      dmaLength := entry.length }

@[simp]
theorem pagesToSgl_length (frame : Nat → Nat) (count : Nat) :
    ∀ index offset length,
      (pagesToSgl frame count index offset length).length = count := by
  induction count with
  | zero => intros; rfl
  | succ count ih =>
      intro index offset length
      rw [pagesToSgl, List.length_cons, ih]

/-- Every entry but the last one covers the rest of its page. -/
theorem pagesToSgl_entry (frame : Nat → Nat) (count : Nat) :
    ∀ (index offset length k : Nat) (entry : ScatterEntry),
      offset < pageSize → length < 2 ^ 32 →
      (count - 1) * pageSize < offset + length →
      (pagesToSgl frame count index offset length)[k]? = some entry →
      entry.offset = (if k = 0 then offset else 0) ∧
        (k + 1 < count → entry.length = pageSize - entry.offset) := by
  induction count with
  | zero =>
      intro index offset length k entry _ _ _ found
      simp [pagesToSgl] at found
  | succ count ih =>
      intro index offset length k entry inPage inWord long found
      cases k with
      | zero =>
          simp only [pagesToSgl, List.getElem?_cons_zero,
            Option.some.injEq] at found
          subst entry
          refine ⟨rfl, ?_⟩
          intro more
          simp only [pageSize] at *
          omega
      | succ k =>
          have inside : k < count := by
            have bound := (List.getElem?_eq_some_iff.mp found).1
            simpa using bound
          simp only [pagesToSgl, List.getElem?_cons_succ] at found
          simp only [pageSize] at inPage long
          have remaining : u32 (length + 2 ^ 32 - (pageSize - offset)) =
              length - (4096 - offset) := by
            simp only [u32, pageSize]
            omega
          rw [remaining] at found
          have rest : (count - 1) * 4096 <
              0 + (length - (4096 - offset)) := by grind
          obtain ⟨offsetEq, full⟩ := ih (index + 1) 0
            (length - (4096 - offset)) k entry pageSize_pos (by omega)
            rest found
          simp only [ite_self] at offsetEq
          refine ⟨by simpa using offsetEq, ?_⟩
          intro more
          exact full (by omega)

/-- What a successful mapping, one entry for each page, leaves behind. -/
structure Mapped (bus : Nat → Nat) (addr size : Nat) (prps : NvmePrps)
    (first : ScatterEntry) (rest : List ScatterEntry) : Prop where
  sg : prps.sg = some (first :: rest)
  address : first.dmaAddress = bufferPage bus addr 0
  length_eq : first.dmaLength = min size (pageSize - offsetInPage addr)
  pages : offsetInPage addr + size < 2 ^ 32 →
    OnePerPage (bufferPage bus addr) (pageCount addr size) 0 rest
  positive : 0 < size
  size_eq : prps.dataBufSize = size
  noList : prps.prpList = none

/-- The mapped scatter list of a buffer. -/
theorem mapEachPage_onePerPage {frame bus : Nat → Nat} {addr size : Nat}
    {first : ScatterEntry} {rest : List ScatterEntry}
    (inWord : offsetInPage addr + size < 2 ^ 32)
    (sgEq : mapEachPage bus (pagesToSgl frame (userPages addr size) 0
      (offsetInPage addr) size) = first :: rest) :
    OnePerPage (bufferPage bus addr) (pageCount addr size) 0 rest := by
  have inPage : offsetInPage addr < pageSize := Nat.mod_lt _ (by decide)
  have countEq : userPages addr size = pageCount addr size := by
    rw [userPages, u32, Nat.mod_eq_of_lt inWord, pageCount]
  have long : (pageCount addr size - 1) * pageSize <
      offsetInPage addr + size := by
    have lengthEq := congrArg List.length sgEq
    simp only [mapEachPage, List.length_mapIdx, pagesToSgl_length, countEq,
      List.length_cons] at lengthEq
    simp only [pageCount, divRoundUp, pageSize] at *
    omega
  rw [countEq] at sgEq
  have entryEq : ∀ k entry, rest[k]? = some entry →
      entry.dmaAddress = bufferPage bus addr (0 + 1 + k) ∧
        (0 + 1 + k + 1 < pageCount addr size →
          entry.dmaLength = pageSize) := by
    intro k entry found
    have shifted : (first :: rest)[k + 1]? = some entry := found
    rw [← sgEq, mapEachPage, List.getElem?_mapIdx,
      Option.map_eq_some_iff] at shifted
    obtain ⟨source, sourceEq, rfl⟩ := shifted
    obtain ⟨offsetEq, full⟩ := pagesToSgl_entry frame _ _ _ _ _ _ inPage
      (by omega) long sourceEq
    rw [if_neg (by omega)] at offsetEq
    rw [offsetEq] at full
    refine ⟨?_, fun more => full (by omega)⟩
    simp only [offsetEq, bufferPage, Nat.zero_add, Nat.add_comm 1 k]
    simp
  refine ⟨?_, fun k entry found => (entryEq k entry found).1,
    fun k entry found => (entryEq k entry found).2⟩
  have lengthEq := congrArg List.length sgEq
  simp only [mapEachPage, List.length_mapIdx, pagesToSgl_length,
    List.length_cons] at lengthEq
  omega

/-- A mapping that left something to point at. -/
theorem dnvmeMapUserPage_mapped {env : MapEnv} {pinned : List Nat}
    {pool : DmaPool} {addr size dir : Nat} {access : Bool}
    {bus : Nat → Nat} {first : ScatterEntry} {rest : List ScatterEntry}
    {mapped : MapResult} (mapping : env.dmaMap = mapEachPage bus)
    (done : dnvmeMapUserPage env pinned (.zero pool) addr size dir access =
      .ok mapped)
    (sgEq : mapped.prps.sg = some (first :: rest)) :
    Mapped bus addr size mapped.prps first rest := by
  rcases dnvmeMapUserPage_cases done with ⟨_, positive, prpsEq, _⟩ |
    ⟨prpsEq, _⟩
  · rw [prpsEq] at sgEq ⊢
    have head := sgEq
    simp only [MapEnv.mapped, mapping, Option.some.injEq] at head
    cases count : userPages addr size with
    | zero =>
        rw [count] at head
        simp [pagesToSgl, mapEachPage] at head
    | succ n =>
        rw [count] at head
        simp only [pagesToSgl, mapEachPage, List.mapIdx_cons,
          List.cons.injEq] at head
        refine ⟨sgEq, ?_, ?_, ?_, positive, rfl, rfl⟩
        · rw [← head.1]
          simp [bufferPage]
        · rw [← head.1]
        · intro inWord
          simp only [MapEnv.mapped, mapping, Option.some.injEq] at sgEq
          exact mapEachPage_onePerPage inWord sgEq
  · rw [prpsEq] at sgEq
    simp [NvmePrps.zero] at sgEq

/-! ## Setting up a mapped buffer -/

/-- The buffers on which the writer and the reader agree. -/
def PrpReadable (creates : Bool) (addr size : Nat) : Prop :=
  if creates then
    size < 2 ^ 31 ∧ ¬ FillsLastSlot (pageCount addr size)
  else
    size < 2 ^ 31 + (pageSize - offsetInPage addr) ∧
      ¬ FillsLastSlot (pageCount addr size - 1)

instance (creates : Bool) (addr size : Nat) :
    Decidable (PrpReadable creates addr size) := by
  cases creates
  · exact inferInstanceAs (Decidable (_ ∧ _))
  · exact inferInstanceAs (Decidable (_ ∧ _))

section Setup

variable {bus : Nat → Nat} {addr size : Nat} {prps : NvmePrps}
  {first : ScatterEntry} {rest : List ScatterEntry} {env : ListEnv}
  {poolPages : List Nat} {cmd : Nvme64bCmd} {ccmd : NvmeCommonCommand}
  {result : SetupResult}

theorem Mapped.pgOft_eq (mapped : Mapped bus addr size prps first rest)
    (aligned : bus 0 % pageSize = 0) :
    (pageOffset first.dmaAddress).val = offsetInPage addr := by
  simp only [pageOffset, mapped.address, bufferPage, if_true, offsetInPage,
    pageSize] at *
  omega

/-- Nothing is found through a list that was never filled. -/
theorem blank_list_unreadable {item : Nat → Nat} {address count : Nat}
    (blank : prps.prpList = some (.prp fun _ _ => 0))
    (separate : ∀ k, item k ∉ prps.pgAddr) (long : nvmePrpsPerPage < count) :
    readPrpList (listPageAt prps) address count ≠
      some ((List.range count).map item) := by
  intro found
  have page : ∀ a, listPageAt prps a =
      if a ∈ prps.pgAddr then some fun _ => 0 else none := by
    intro a
    rw [listPageAt, blank]
  rw [readPrpList, page] at found
  by_cases inside : address ∈ prps.pgAddr
  · simp only [inside, if_true, show ¬ count ≤ nvmePrpsPerPage by omega,
      if_false, Option.map_eq_some_iff] at found
    obtain ⟨later, laterEq, joined⟩ := found
    -- the first entry is 0, and so is the link that is followed
    have zero : item 0 = 0 := by
      have heads := congrArg (fun list => list[0]?) joined
      have slots : 0 < nvmePrpsPerPage - 1 := by decide
      generalize nvmePrpsPerPage - 1 = payload at heads slots
      simpa [show 0 < count by omega, slots] using heads.symm
    have absent := separate 0
    rw [zero] at absent
    rw [readPrpList, page, if_neg absent] at laterEq
    cases laterEq
  · simp [inside] at found

/-- With no length left the list pages stay blank. -/
theorem buildPrpList_blank {flag : PrpListFlag} {bufLen dmaLen : Int}
    {pgOft : Fin pageSize} {dmaAddr : Nat} {sg : List ScatterEntry}
    {item : Nat → Nat} (fresh : FreshPages env item)
    (spent : ¬ 0 < bufLen)
    (built : buildPrpList env poolPages flag ccmd prps bufLen pgOft dmaAddr
      dmaLen sg = .ok result)
    (success : result.ret = 0) :
    result.prps.prpList = some (.prp fun _ _ => 0) ∧
      ∀ k, item k ∉ result.prps.pgAddr := by
  rw [buildPrpList] at built
  dsimp only at built
  split at built
  · cases built
    simp [Errno.ENOMEM] at success
  · rename_i prpDma allocated
    rw [fillPrpList, if_neg spent] at built
    cases built
    exact ⟨rfl, (allocListPages_fresh fresh allocated).2.2⟩

/-- A create command: the whole buffer is one list behind PRP1. -/
theorem setup_creates (mapped : Mapped bus addr size prps first rest)
    (aligned : bus 0 % pageSize = 0) (inWord : size < 2 ^ 32)
    (fresh : FreshPages env (bufferPage bus addr))
    (creates : createsQueue cmd ccmd = true)
    (setup : dnvmeSetupPrps env poolPages cmd ccmd prps = .ok result)
    (success : result.ret = 0) :
    readPrpList (listPageAt result.prps) result.ccmd.dptr.prp1
        (pageCount addr size) = some (bufferPages bus addr size) ↔
      size < 2 ^ 31 ∧ ¬ FillsLastSlot (pageCount addr size) := by
  have offset : offsetInPage addr < 4096 := Nat.mod_lt _ (by decide)
  have pgOft := mapped.pgOft_eq aligned
  rw [dnvmeSetupPrps, mapped.sg] at setup
  simp only [creates, if_true, mapped.size_eq] at setup
  split at setup
  · cases setup
    simp [Errno.EINVAL] at success
  · by_cases short : size < 2 ^ 31
    · rw [s32_of_range (by omega) (by omega)] at setup
      have pages := mapped.pages (by omega)
      have positive := mapped.positive
      have lengthEq := mapped.length_eq
      obtain ⟨lower, upper, nonempty⟩ :=
        pageCount_range addr mapped.positive
      obtain ⟨entries, memory, separate, pointer⟩ :=
        buildPrpList_memory fresh mapped.address pages (by omega) (by omega)
          (by rw [pgOft]; simp only [pageSize]; omega)
          (by rw [pgOft]; simp only [pageSize]; omega)
          (by
            intro more
            rw [pgOft, lengthEq]
            simp only [pageSize]
            rw [s32_of_range (by omega) (by omega)]
            omega)
          setup success
      have read := memory.read_iff nonempty separate
      rw [pointer, bufferPages]
      simp only [short, true_and]
      exact read
    · -- the length is negative as an `int`
      have negative : ¬ 0 < s32 size := by
        rw [s32, Int.bmod_def]
        split <;> omega
      obtain ⟨blank, separate⟩ :=
        buildPrpList_blank fresh negative setup success
      have long : nvmePrpsPerPage < pageCount addr size := by
        simp only [pageCount, divRoundUp, pageSize, nvmePrpsPerPage_eq]
        omega
      simp only [short, false_and, iff_false]
      exact blank_list_unreadable blank separate long

/-- The list that PRP2 leads to starts with the second page. -/
theorem OnePerPage.shift {item : Nat → Nat} {count : Nat}
    {sg : List ScatterEntry} (pages : OnePerPage item count 1 sg) :
    OnePerPage (fun k => item (k + 1)) (count - 1) 0 sg where
  length_eq := by
    have lengthEq := pages.length_eq
    omega
  address := by
    intro k entry found
    rw [pages.address k entry found]
    congr 1
    omega
  full := by
    intro k entry found more
    exact pages.full k entry found (by omega)

/-- The pages after the first one are one list behind PRP2. -/
theorem transfer_list {second : ScatterEntry} {tail : List ScatterEntry}
    {left : Int} {zero : Fin pageSize}
    (mapped : Mapped bus addr size prps first (second :: tail))
    (fresh : FreshPages env (bufferPage bus addr))
    (pages : OnePerPage (bufferPage bus addr) (pageCount addr size) 0
      (second :: tail))
    (leftEq : left = size - (4096 - offsetInPage addr))
    (long : 4096 < left) (inWord : left < 2 ^ 31) (zeroEq : zero.val = 0)
    (pointed : ccmd.dptr.prp1 = first.dmaAddress)
    (built : buildPrpList env poolPages .prp2List ccmd prps left zero
      second.dmaAddress (s32 second.dmaLength) tail = .ok result)
    (success : result.ret = 0) :
    readDataPages false (pageCount addr size) result.ccmd result.prps =
        some (bufferPages bus addr size) ↔
      ¬ FillsLastSlot (pageCount addr size - 1) := by
  have offset : offsetInPage addr < 4096 := Nat.mod_lt _ (by decide)
  obtain ⟨lower, upper, nonempty⟩ :=
    pageCount_range addr mapped.positive
  have freshTail : FreshPages env fun k => bufferPage bus addr (k + 1) :=
    ⟨fresh.injective, fun i k => fresh.separate i (k + 1)⟩
  have full := pages.full 0 second (by simp)
  obtain ⟨entries, memory, separate, pointer⟩ :=
    buildPrpList_memory freshTail (pages.address 0 second (by simp))
      pages.tail.shift (by omega) inWord
      (by rw [zeroEq]; simp only [pageSize]; omega)
      (by rw [zeroEq]; simp only [pageSize]; omega)
      (by
        intro more
        rw [full (by omega), zeroEq]
        decide)
      built success
  have read := memory.read_iff (by omega) separate
  have split : bufferPages bus addr size = bufferPage bus addr 0 ::
      (List.range (pageCount addr size - 1)).map
        (fun k => bufferPage bus addr (k + 1)) := by
    rw [bufferPages, show pageCount addr size = pageCount addr size - 1 + 1
      by omega, List.range_succ_eq_map]
    simp
  rw [readDataPages, if_neg Bool.false_ne_true, if_neg (by omega),
    if_neg (by omega), pointer, split, ← read]
  simp [pointed, mapped.address]

/-- Any other command: PRP1 is the first page, PRP2 a page or a list. -/
theorem setup_transfers (mapped : Mapped bus addr size prps first rest)
    (aligned : bus 0 % pageSize = 0) (inWord : size < 2 ^ 32)
    (fresh : FreshPages env (bufferPage bus addr))
    (creates : createsQueue cmd ccmd = false)
    (setup : dnvmeSetupPrps env poolPages cmd ccmd prps = .ok result)
    (success : result.ret = 0) :
    readDataPages false (pageCount addr size) result.ccmd result.prps =
        some (bufferPages bus addr size) ↔
      size < 2 ^ 31 + (pageSize - offsetInPage addr) ∧
        ¬ FillsLastSlot (pageCount addr size - 1) := by
  have offset : offsetInPage addr < 4096 := Nat.mod_lt _ (by decide)
  have pgOft := mapped.pgOft_eq aligned
  have positive := mapped.positive
  have lengthEq := mapped.length_eq
  obtain ⟨lower, upper, nonempty⟩ := pageCount_range addr positive
  rw [dnvmeSetupPrps, mapped.sg] at setup
  simp only [creates, mapped.size_eq, pgOft, lengthEq] at setup
  have left_of_short : size < 2 ^ 31 + (4096 - offsetInPage addr) →
      s32 (s32 size - ((pageSize : Int) - offsetInPage addr)) =
        size - (4096 - offsetInPage addr) := by
    intro short
    simp only [s32, pageSize, Int.bmod_def]
    split <;> split <;> omega
  have left_of_long : ¬ size < 2 ^ 31 + (4096 - offsetInPage addr) →
      s32 (s32 size - ((pageSize : Int) - offsetInPage addr)) < 0 := by
    intro long
    simp only [s32, pageSize, Int.bmod_def]
    split <;> split <;> omega
  generalize s32 (s32 size - ((pageSize : Int) - offsetInPage addr)) =
    left at setup left_of_short left_of_long
  rw [if_neg Bool.false_ne_true] at setup
  split at setup
  · cases setup
    simp [Errno.EINVAL] at success
  by_cases short : size < 2 ^ 31 + (4096 - offsetInPage addr)
  · have leftEq := left_of_short short
    have pages := mapped.pages (by omega)
    simp only [pageSize, short, true_and]
    by_cases spent : left ≤ 0
    · rw [if_pos spent] at setup
      cases setup
      have one : pageCount addr size = 1 := by omega
      simp [readDataPages, bufferPages, one, mapped.address,
        FillsLastSlot, nvmePrpsPerPage_eq]
    · rw [if_neg spent] at setup
      have used : s32 (s32 (min size (pageSize - offsetInPage addr) : Nat) -
          ((pageSize : Int) - offsetInPage addr)) = 0 := by
        simp only [s32, pageSize, Int.bmod_def]
        split <;> split <;> omega
      simp only [used, ne_eq, not_true_eq_false, if_false] at setup
      cases rest with
      | nil =>
          have countEq := pages.length_eq
          simp only [List.length_nil] at countEq
          omega
      | cons second tail =>
          have address := pages.address 0 second (by simp)
          dsimp only at setup
          by_cases page : left ≤ pageSize
          · rw [if_pos page] at setup
            simp only [pageSize] at page
            have two : pageCount addr size = 2 := by omega
            split at setup
            · cases setup
              simp [Errno.EINVAL] at success
            · cases setup
              simp [readDataPages, bufferPages, two, mapped.address,
                address, FillsLastSlot, nvmePrpsPerPage_eq,
                List.range_succ]
          · rw [if_neg page] at setup
            simp only [pageSize] at page
            split at setup
            · cases setup
              simp [Errno.EINVAL] at success
            · exact transfer_list mapped fresh pages leftEq (by omega)
                (by omega) rfl rfl setup success
  · have negative := left_of_long short
    rw [if_pos (by omega)] at setup
    cases setup
    have many : 2 < pageCount addr size := by omega
    simp only [readDataPages, pageSize, short, readPrpList, listPageAt,
      mapped.noList, show ¬ pageCount addr size ≤ 1 by omega,
      show ¬ pageCount addr size ≤ 2 by omega]
    simp

end Setup

/--
A controller finds exactly the pages of a mapped buffer, in order, if and only
if the buffer is `PrpReadable`.
-/
theorem readDataPages_eq_bufferPages_iff {mapEnv : MapEnv} {env : ListEnv}
    {bus : Nat → Nat} {pinned poolPages : List Nat} {pool : DmaPool}
    {cmd : Nvme64bCmd} {ccmd : NvmeCommonCommand} {addr size dir : Nat}
    {mapped : MapResult} {result : SetupResult}
    (inWord : size < 2 ^ 32)
    (onePerPage : mapEnv.dmaMap = mapEachPage bus)
    (aligned : ∀ k, bus k % pageSize = 0)
    (fresh : FreshPages env (bufferPage bus addr))
    (mapping : dnvmeMapUserPage mapEnv pinned (.zero pool) addr size dir
      (createsQueue cmd ccmd) = .ok mapped)
    (_accepted : mapped.ret = 0)
    (setup : dnvmeSetupPrps env poolPages cmd ccmd mapped.prps = .ok result)
    (success : result.ret = 0) :
    readDataPages (createsQueue cmd ccmd) (pageCount addr size) result.ccmd
        result.prps = some (bufferPages bus addr size) ↔
      PrpReadable (createsQueue cmd ccmd) addr size := by
  obtain ⟨first, rest, sgEq⟩ : ∃ first rest,
      mapped.prps.sg = some (first :: rest) := by
    have found := setup
    rw [dnvmeSetupPrps] at found
    split at found
    · cases found
    · cases found
    · exact ⟨_, _, by assumption⟩
  have buffer := dnvmeMapUserPage_mapped onePerPage mapping sgEq
  cases creates : createsQueue cmd ccmd with
  | true =>
      simpa [PrpReadable, readDataPages] using
        setup_creates buffer (aligned 0) inWord fresh creates setup success
  | false =>
      simpa [PrpReadable] using
        setup_transfers buffer (aligned 0) inWord fresh creates setup
          success

/-! ## The two sides of the boundary -/

/-- Data pages at even multiples of the page size. -/
def evenPage (k : Nat) : Nat :=
  2 * (k + 1) * pageSize

theorem evenPage_aligned (k : Nat) : evenPage k % pageSize = 0 :=
  Nat.mul_mod_left _ _

/-- The outcomes of mapping `count` such pages with nothing failing. -/
def evenPages (count : Nat) : MapEnv :=
  ⟨true, count, fun k => k, true, true, count, mapEachPage evenPage⟩

/-- List pages at odd multiples of the page size. -/
def oddPages : ListEnv :=
  ⟨true, true, fun i => some ((2 * i + 1) * pageSize)⟩

/-- A command on an I/O queue that allows every kind of data pointer. -/
def permissiveCmd : Nvme64bCmd :=
  ⟨1, 0, 4096, ⟨true, true, true, true, false⟩, 4096, 0, 2, 0, 0⟩

/-- A read command. -/
def readCommand : NvmeCommonCommand :=
  { NvmeCommonCommand.zero with opcode := 2, nsid := 1 }

theorem oddPages_fresh : FreshPages oddPages (bufferPage evenPage 4096) where
  injective := by
    intro i j address atI atJ
    simp only [oddPages, Option.some.injEq, pageSize] at atI atJ
    omega
  separate := by
    intro i k same
    simp only [oddPages, Option.some.injEq, pageSize, bufferPage, evenPage,
      offsetInPage] at same
    split at same <;> omega

theorem oddPages_total (count : Nat) :
    ∃ prpDma, allocListPages oddPages count = some prpDma := by
  refine ⟨(List.range count).map fun i => (2 * i + 1) * pageSize, ?_⟩
  simp only [allocListPages, oddPages, Bool.and_self, if_true]
  induction List.range count with
  | nil => rfl
  | cons i rest ih => simp [List.mapM_cons, ih]

/-- Mapping a page-aligned buffer of such pages goes through. -/
theorem evenPages_mapped {count : Nat} (positive : 0 < count)
    (small : count < 2 ^ 19) (pool : DmaPool) (dir : Nat) (access : Bool) :
    ∃ mapped, dnvmeMapUserPage (evenPages count) [] (.zero pool) 4096
        (count * pageSize) dir access = .ok mapped ∧ mapped.ret = 0 ∧
      ∃ first rest,
        Mapped evenPage 4096 (count * pageSize) mapped.prps first rest := by
  have countEq : userPages 4096 (count * pageSize) = count := by
    simp only [userPages, offsetInPage, divRoundUp, u32, pageSize]
    omega
  have run : dnvmeMapUserPage (evenPages count) [] (.zero pool) 4096
      (count * pageSize) dir access =
        .ok ⟨0, (evenPages count).mapped (.zero pool) 4096
          (count * pageSize) dir access, (List.range count).map id⟩ := by
    have size : count * pageSize ≠ 0 := by
      simp only [pageSize]
      omega
    simp [dnvmeMapUserPage, dnvmePagesToSgl, countEq, evenPages, size,
      MapEnv.mapped, Function.id_def, Nat.pos_iff_ne_zero.mp positive]
  refine ⟨_, run, rfl, ?_⟩
  cases sgEq : mapEachPage evenPage (pagesToSgl (fun k => k)
      (userPages 4096 (count * pageSize)) 0 (offsetInPage 4096)
      (count * pageSize)) with
  | nil =>
      have lengthEq := congrArg List.length sgEq
      simp only [mapEachPage, List.length_mapIdx, pagesToSgl_length,
        List.length_nil] at lengthEq
      omega
  | cons first rest =>
      exact ⟨first, rest, dnvmeMapUserPage_mapped rfl run
        (congrArg some sgEq)⟩

/-- A create command with a page-aligned buffer is set up. -/
theorem evenPages_creates {count : Nat} (small : count < 2 ^ 19)
    {prps : NvmePrps} {first : ScatterEntry} {rest : List ScatterEntry}
    (mapped : Mapped evenPage 4096 (count * pageSize) prps first rest)
    (poolPages : List Nat) {cmd : Nvme64bCmd} {ccmd : NvmeCommonCommand}
    (creates : createsQueue cmd ccmd = true)
    (mask : cmd.bitMask.prp1List = true) :
    ∃ result, dnvmeSetupPrps oddPages poolPages cmd ccmd prps =
      .ok result ∧ result.ret = 0 := by
  have noOffset : offsetInPage 4096 = 0 := by decide
  have pgOft := mapped.pgOft_eq (by decide)
  have countEq : pageCount 4096 (count * pageSize) = count := by
    simp only [pageCount, noOffset, divRoundUp, pageSize]
    omega
  have pages := mapped.pages (by simp only [noOffset, pageSize]; omega)
  have lengthEq := mapped.length_eq
  have positive := mapped.positive
  rw [countEq] at pages
  rw [noOffset] at pgOft lengthEq
  have whole : s32 ((count * pageSize : Nat) : Int) =
      ((count * pageSize : Nat) : Int) :=
    s32_of_range (by omega) (by simp only [pageSize]; omega)
  rw [dnvmeSetupPrps, mapped.sg]
  simp only [creates, mask, if_true, Bool.not_true, Bool.false_eq_true,
    if_false, mapped.size_eq, whole]
  refine buildPrpList_total oddPages_total mapped.address pages ?_ ?_ ?_ ?_
  · omega
  · rw [pgOft]
    simp only [pageSize] at positive ⊢
    omega
  · rw [pgOft]
    simp only [pageSize]
    omega
  · intro more
    have full : first.dmaLength = 4096 := by
      simp only [pageSize] at lengthEq
      omega
    rw [pgOft, full]
    decide

/-- A page-aligned buffer of at least three pages is set up. -/
theorem evenPages_setup {count : Nat} (three : 3 ≤ count)
    (small : count < 2 ^ 19) {prps : NvmePrps} {first : ScatterEntry}
    {rest : List ScatterEntry}
    (mapped : Mapped evenPage 4096 (count * pageSize) prps first rest) :
    ∃ result, dnvmeSetupPrps oddPages [] permissiveCmd readCommand prps =
      .ok result ∧ result.ret = 0 := by
  have noOffset : offsetInPage 4096 = 0 := by decide
  have pgOft := mapped.pgOft_eq (by decide)
  have countEq : pageCount 4096 (count * pageSize) = count := by
    simp only [pageCount, noOffset, divRoundUp, pageSize]
    omega
  have pages := mapped.pages (by simp only [noOffset, pageSize]; omega)
  have lengthEq := mapped.length_eq
  rw [countEq] at pages
  rw [noOffset] at pgOft lengthEq
  cases rest with
  | nil =>
      have few := pages.length_eq
      simp only [List.length_nil] at few
      omega
  | cons second tail =>
      have full := pages.full 0 second (by simp) (by omega)
      have firstLength : first.dmaLength = 4096 := by
        simp only [pageSize] at lengthEq
        omega
      have whole : s32 ((count * pageSize : Nat) : Int) =
          ((count * pageSize : Nat) : Int) :=
        s32_of_range (by omega) (by simp only [pageSize]; omega)
      have left : s32 (((count * pageSize : Nat) : Int) -
          ((pageSize : Int) - (0 : Nat))) =
            ((count - 1) * pageSize : Nat) := by
        simp only [pageSize]
        rw [s32_of_range (by omega) (by omega)]
        omega
      have used : s32 (s32 (4096 : Nat) - ((pageSize : Int) - (0 : Nat))) =
          0 := by decide
      have positive : ¬ (((count - 1) * pageSize : Nat) : Int) ≤ 0 := by
        simp only [pageSize]
        omega
      have long : ¬ (((count - 1) * pageSize : Nat) : Int) ≤ pageSize := by
        simp only [pageSize]
        omega
      rw [dnvmeSetupPrps, mapped.sg]
      simp only [show createsQueue permissiveCmd readCommand = false from
        rfl, mapped.size_eq, pgOft, firstLength, whole, left, used,
        positive, long]
      simp only [permissiveCmd, Bool.not_true, Bool.false_eq_true, ne_eq,
        not_true_eq_false, if_false]
      refine buildPrpList_total oddPages_total ?_ pages.tail.shift
        (not_le.mp positive) ?_ ?_ ?_
      · exact pages.address 0 second rfl
      · simp only [pageSize]
        omega
      · simp only [pageSize]
        omega
      · intro _
        rw [full]
        decide

/-- PRP1 and a list of two entries. -/
theorem readDataPages_of_three_pages :
    ∃ mapped result, dnvmeMapUserPage (evenPages 3) [] (.zero .cmdPool) 4096
        12288 2 false = .ok mapped ∧ mapped.ret = 0 ∧
      dnvmeSetupPrps oddPages [] permissiveCmd readCommand mapped.prps =
        .ok result ∧ result.ret = 0 ∧
      readDataPages false 3 result.ccmd result.prps =
        some (bufferPages evenPage 4096 12288) := by
  obtain ⟨mapped, mapping, ret, first, rest, buffer⟩ :=
    @evenPages_mapped 3 (by decide) (by decide) .cmdPool 2 false
  obtain ⟨result, setup, success⟩ := evenPages_setup (by decide)
    (by decide) buffer
  refine ⟨mapped, result, mapping, ret, setup, success, ?_⟩
  exact (readDataPages_eq_bufferPages_iff (by decide) rfl evenPage_aligned
    oddPages_fresh mapping ret setup success).mpr (by decide)

/-- One page more than a list page has slots for: the controller takes the
pointer to the second list page for the last data page. -/
theorem readDataPages_of_513_pages :
    ∃ mapped result, dnvmeMapUserPage (evenPages 513) [] (.zero .cmdPool)
        4096 (513 * pageSize) 2 false = .ok mapped ∧ mapped.ret = 0 ∧
      dnvmeSetupPrps oddPages [] permissiveCmd readCommand mapped.prps =
        .ok result ∧ result.ret = 0 ∧
      readDataPages false 513 result.ccmd result.prps ≠
        some (bufferPages evenPage 4096 (513 * pageSize)) := by
  obtain ⟨mapped, mapping, ret, first, rest, buffer⟩ :=
    @evenPages_mapped 513 (by decide) (by decide) .cmdPool 2 false
  obtain ⟨result, setup, success⟩ := evenPages_setup (by decide)
    (by decide) buffer
  refine ⟨mapped, result, mapping, ret, setup, success, ?_⟩
  intro read
  have agreed := (setup_transfers buffer (evenPage_aligned 0) (by decide)
    oddPages_fresh rfl setup success).mp read
  exact agreed.2 (by decide)

end Dnvme.Driver.PrpReading
