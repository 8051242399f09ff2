import Dnvme.Driver.Sgl

/-!
# Reading SGL segments back

A controller follows segment descriptors: a segment descriptor announces a
segment whose final descriptor leads to the next segment, a last segment
descriptor announces a segment of data descriptors only.  This module states
that reader and shows that it finds every descriptor that
`dnvme_cmd_setup_sgl` and `dnvme_meta_setup_sgl` lay out.
-/

namespace Dnvme.Driver.SglChain

open Dnvme.Driver
open Dnvme.Lib.ChainedPages

/-! ## The reader -/

/-- The segment page at a bus address. -/
def segmentAt (prps : NvmePrps) (address : Nat) :
    Option (Nat → NvmeSglDesc) :=
  match prps.prpList with
  | some (.sgl descs) =>
      if address ∈ prps.pgAddr then
        some (descs (prps.pgAddr.idxOf address))
      else
        none
  | _ => none

/--
Follow the segments from the descriptor `lead` on, at most `fuel` of them.
Each segment is returned with the descriptor that led to it.
-/
def readSegments (page : Nat → Option (Nat → NvmeSglDesc)) :
    (fuel : Nat) → (lead : NvmeSglDesc) →
      Option (List (NvmeSglDesc × List NvmeSglDesc))
  | 0, _ => none
  | fuel + 1, lead =>
      match page lead.addr with
      | none => none
      | some slots =>
          let count := lead.length / nvmeSglDescSize
          if lead.type = NvmeSglType.lastSegDesc.byte then
            some [(lead, (List.range count).map slots)]
          else if lead.type = NvmeSglType.segDesc.byte then
            -- the final descriptor of the segment is the link
            (readSegments page fuel (slots (count - 1))).map
              ((lead, (List.range (count - 1)).map slots) :: ·)
          else
            none

/-- What the descriptor that leads to segment `s` of `segments` has to say
about a list of `count` descriptors. -/
structure LeadsTo (pgAddr : List Nat) (base count segments s : Nat)
    (lead : NvmeSglDesc) : Prop where
  addr : pgAddr[base + s]? = some lead.addr
  last : s + 1 = segments →
    lead.type = NvmeSglType.lastSegDesc.byte ∧
      lead.length = nvmeSglDescSize * (count - s * (nvmeSgesPerPage - 1))
  inner : s + 1 ≠ segments →
    lead.type = NvmeSglType.segDesc.byte ∧ lead.length = pageSize

/-! ## The segment loop -/

theorem nvmeSgesPerPage_eq : nvmeSgesPerPage = 256 := by
  decide

section Loop

variable {α : Type} (prpDma : List Nat) (set : NvmeSglDesc → α → NvmeSglDesc)
  (list : List α)

/-- The descriptor of item `m`. -/
def itemDesc (m : Nat) : NvmeSglDesc :=
  (list[m]?).elim NvmeSglDesc.zero (set NvmeSglDesc.zero)

/-- The link at the end of the segment that lies `p` pages after `base`. -/
def linkDesc (base p : Nat) : NvmeSglDesc :=
  dnvmeSglSetSeg NvmeSglDesc.zero (prpDma.getD (base + p + 1) 0)
    (list.length - (p + 1) * (nvmeSgesPerPage - 1))

/-- The loop stands before item `index`. -/
structure SegLoop (base : Nat) (front : Nat → Nat → NvmeSglDesc)
    (cursor : SegCursor) (index : Nat) : Prop where
  filled : Filled (nvmeSgesPerPage - 1) base (itemDesc set list)
    (linkDesc prpDma list base) NvmeSglDesc.zero cursor.descs cursor.page
    cursor.slot index
  front_eq : ∀ p < base, cursor.descs p = front p
  busy : index < list.length ∨ 0 < cursor.slot
  calm : cursor.warned = false

variable {prpDma set list}

theorem segmentCount_eq (count : Nat) :
    segmentCount count = (count + 254) / 255 := by
  simp only [segmentCount, divRoundUp, nvmeSglDescSize, pageSize]
  omega

/-- The page index is in range as long as items are left. -/
theorem SegLoop.not_warned {base index : Nat}
    {front : Nat → Nat → NvmeSglDesc} {cursor : SegCursor}
    (loop : SegLoop prpDma set list base front cursor index)
    (enough : prpDma.length = base + segmentCount list.length)
    (more : index < list.length) :
    (cursor.warned || decide (prpDma.length ≤ cursor.page)) = false := by
  have position := loop.filled.position
  have base_le := loop.filled.base_le
  have slot_le := loop.filled.slot_le
  rw [segmentCount_eq] at enough
  rw [nvmeSgesPerPage_eq] at position slot_le
  rw [loop.calm, Bool.false_or, decide_eq_false_iff_not]
  omega

/-- The cursor after the loop put item `index` in its slot. -/
theorem SegLoop.item {base index : Nat}
    {front : Nat → Nat → NvmeSglDesc} {cursor : SegCursor}
    (loop : SegLoop prpDma set list base front cursor index)
    (enough : prpDma.length = base + segmentCount list.length)
    (notLink : cursor.slot ≠ nvmeSgesPerPage - 1) {first : α}
    (found : list[index]? = some first) :
    SegLoop prpDma set list base front
      { cursor with
        slot := cursor.slot + 1
        descs := writeSlot cursor.descs cursor.page cursor.slot
          (set (cursor.descs cursor.page cursor.slot) first)
        warned := cursor.warned || prpDma.length ≤ cursor.page }
      (index + 1) := by
  have more := (List.getElem?_eq_some_iff.mp found).1
  have room : cursor.slot < nvmeSgesPerPage - 1 := by
    have slot_le := loop.filled.slot_le
    omega
  have written := loop.filled.writeItem room
  have value : itemDesc set list index =
      set (cursor.descs cursor.page cursor.slot) first := by
    rw [loop.filled.current_blank, itemDesc, found]
    rfl
  rw [value] at written
  refine ⟨written, ?_, Or.inr (Nat.succ_pos _), loop.not_warned enough more⟩
  intro p before
  have base_le := loop.filled.base_le
  have elsewhere : p ≠ cursor.page := by omega
  rw [← loop.front_eq p before]
  exact Function.update_of_ne elsewhere _ _

/-- The cursor after the loop linked to the next segment. -/
theorem SegLoop.link {base index : Nat}
    {front : Nat → Nat → NvmeSglDesc} {cursor : SegCursor}
    (loop : SegLoop prpDma set list base front cursor index)
    (enough : prpDma.length = base + segmentCount list.length)
    (link : cursor.slot = nvmeSgesPerPage - 1)
    (more : index < list.length) :
    SegLoop prpDma set list base front
      { page := cursor.page + 1
        slot := 0
        descs := writeSlot cursor.descs cursor.page cursor.slot
          (dnvmeSglSetSeg (cursor.descs cursor.page cursor.slot)
            (prpDma.getD (cursor.page + 1) 0) (list.length - index))
        warned := cursor.warned || prpDma.length ≤ cursor.page }
      index := by
  have filled := loop.filled
  have blank := filled.current_blank
  have position := filled.position
  have base_le := filled.base_le
  rw [link] at filled position
  have linked := filled.writeLink (by decide)
  have value : linkDesc prpDma list base (cursor.page - base) =
      dnvmeSglSetSeg (cursor.descs cursor.page cursor.slot)
        (prpDma.getD (cursor.page + 1) 0) (list.length - index) := by
    rw [blank, linkDesc, position,
      show base + (cursor.page - base) + 1 = cursor.page + 1 by omega,
      Nat.add_mul, Nat.one_mul]
  rw [value] at linked
  refine ⟨by simpa only [link] using linked, ?_, Or.inl more,
    loop.not_warned enough more⟩
  intro p before
  have elsewhere : p ≠ cursor.page := by omega
  rw [← loop.front_eq p before]
  exact Function.update_of_ne elsewhere _ _

/-- The whole loop: every item is in place when it ends. -/
theorem fillSegments_loop {base : Nat}
    {front : Nat → Nat → NvmeSglDesc}
    (enough : prpDma.length = base + segmentCount list.length)
    (rest : List α) :
    ∀ (cursor : SegCursor) (index : Nat), rest = list.drop index →
      index ≤ list.length →
      SegLoop prpDma set list base front cursor index →
      SegLoop prpDma set list base front
        (fillSegments prpDma set rest cursor) list.length := by
  induction rest with
  | nil =>
      intro cursor index restEq inside loop
      have done : index = list.length := by
        have lengthEq := congrArg List.length restEq
        simp only [List.length_nil, List.length_drop] at lengthEq
        omega
      rw [fillSegments]
      exact done ▸ loop
  | cons first rest ih =>
      intro cursor index restEq inside loop
      have lengthEq := congrArg List.length restEq
      simp only [List.length_cons, List.length_drop] at lengthEq
      have found : list[index]? = some first := by
        have heads := congrArg (fun tail => tail[0]?) restEq
        simpa using heads.symm
      have tailEq : rest = list.drop (index + 1) := by
        have tails := congrArg List.tail restEq
        simpa using tails
      -- after a link the loop comes back to the same item
      have data : ∀ cursor : SegCursor,
          cursor.slot ≠ nvmeSgesPerPage - 1 →
          SegLoop prpDma set list base front cursor index →
          SegLoop prpDma set list base front
            (fillSegments prpDma set (first :: rest) cursor)
            list.length := by
        intro cursor notLink loop
        rw [fillSegments, if_neg notLink]
        exact ih _ (index + 1) tailEq (by omega)
          (loop.item enough notLink found)
      by_cases link : cursor.slot = nvmeSgesPerPage - 1
      · rw [fillSegments, if_pos link,
          show rest.length + 1 = list.length - index by omega]
        refine data _ ?_ (loop.link enough link (by omega))
        change (0 : Nat) ≠ _
        decide
      · exact data cursor link loop

/-- The loop from its start: the items are in place, and its last page is the
last one of the segments counted. -/
theorem fillSegments_spec {base : Nat} {front : Nat → Nat → NvmeSglDesc}
    (nonempty : list ≠ [])
    (enough : prpDma.length = base + segmentCount list.length)
    (blank : ∀ p slot, base ≤ p → front p slot = NvmeSglDesc.zero) :
    let done := fillSegments prpDma set list ⟨base, 0, front, false⟩
    SegLoop prpDma set list base front done list.length ∧
      done.page + 1 = base + segmentCount list.length := by
  have positive : 0 < list.length := List.length_pos_of_ne_nil nonempty
  have start : SegLoop prpDma set list base front
      ⟨base, 0, front, false⟩ 0 :=
    ⟨Filled.start front base blank, fun _ _ => rfl, Or.inl positive, rfl⟩
  have done := fillSegments_loop enough list _ 0 (by simp) (Nat.zero_le _)
    start
  refine ⟨done, ?_⟩
  have started : 0 <
      (fillSegments prpDma set list ⟨base, 0, front, false⟩).slot := by
    rcases done.busy with impossible | started
    · omega
    · exact started
  have pageEq := done.filled.item_page_le started
  rw [← pageEq]
  simp only [segmentCount, divRoundUp, nvmeSglDescSize, nvmeSgesPerPage,
    pageSize]
  omega

end Loop

/-! ## Reading the segments back -/

theorem dnvmeSglSetSeg_addr (sge : NvmeSglDesc) (addr entries : Nat) :
    (dnvmeSglSetSeg sge addr entries).addr = addr := by
  unfold dnvmeSglSetSeg
  split <;> rfl

section ReadBack

variable {α : Type} {set : NvmeSglDesc → α → NvmeSglDesc} {list : List α}
  {base : Nat} {descs : Nat → Nat → NvmeSglDesc}

/-- The segment pages a filled `nvme_prps` shows to the controller. -/
structure SegMemory (prps : NvmePrps) (set : NvmeSglDesc → α → NvmeSglDesc)
    (list : List α) (base : Nat) (descs : Nat → Nat → NvmeSglDesc) : Prop where
  pages : prps.prpList = some (.sgl descs)
  distinct : prps.pgAddr.Nodup
  length_eq : prps.pgAddr.length = base + segmentCount list.length
  items : ∀ m < list.length, descs (base + m / (nvmeSgesPerPage - 1))
    (m % (nvmeSgesPerPage - 1)) = itemDesc set list m
  links : ∀ p, p + 1 < segmentCount list.length →
    descs (base + p) (nvmeSgesPerPage - 1) = linkDesc prps.pgAddr list base p

variable {prps : NvmePrps}

theorem SegMemory.page_eq (memory : SegMemory prps set list base descs)
    {s : Nat} (below : s < segmentCount list.length) :
    segmentAt prps (prps.pgAddr.getD (base + s) 0) =
      some (descs (base + s)) := by
  have inside : base + s < prps.pgAddr.length := by
    have lengthEq := memory.length_eq
    omega
  have value : prps.pgAddr.getD (base + s) 0 = prps.pgAddr[base + s] := by
    simp [List.getD_eq_getElem?_getD, inside]
  rw [segmentAt, memory.pages]
  simp only [value, List.getElem_mem, if_true,
    memory.distinct.idxOf_getElem]

theorem SegMemory.slots_eq (memory : SegMemory prps set list base descs)
    {s count : Nat} (fits : count ≤ nvmeSgesPerPage - 1)
    (inside : s * (nvmeSgesPerPage - 1) + count ≤ list.length) :
    (List.range count).map (descs (base + s)) =
      (List.range count).map fun k =>
        itemDesc set list (s * (nvmeSgesPerPage - 1) + k) := by
  apply List.map_congr_left
  intro k member
  rw [List.mem_range] at member
  have found := memory.items (s * (nvmeSgesPerPage - 1) + k) (by omega)
  rw [nvmeSgesPerPage_eq] at *
  rwa [show (s * (256 - 1) + k) / (256 - 1) = s by omega,
    show (s * (256 - 1) + k) % (256 - 1) = k by omega] at found

/-- What a walk over all segments from number `s` on has found. -/
structure Walked (prps : NvmePrps) (set : NvmeSglDesc → α → NvmeSglDesc)
    (list : List α) (base s : Nat)
    (walk : List (NvmeSglDesc × List NvmeSglDesc)) : Prop where
  found : walk.flatMap Prod.snd =
    (List.range (list.length - s * (nvmeSgesPerPage - 1))).map fun k =>
      itemDesc set list (s * (nvmeSgesPerPage - 1) + k)
  length_eq : s + walk.length = segmentCount list.length
  leads : ∀ i segment, walk[i]? = some segment →
    LeadsTo prps.pgAddr base list.length (segmentCount list.length) (s + i)
      segment.1

/-- The descriptor the driver puts before segment `s`. -/
theorem SegMemory.leadsTo (memory : SegMemory prps set list base descs)
    {s : Nat} (below : s < segmentCount list.length) (sge : NvmeSglDesc) :
    LeadsTo prps.pgAddr base list.length (segmentCount list.length) s
      (dnvmeSglSetSeg sge (prps.pgAddr.getD (base + s) 0)
        (list.length - s * (nvmeSgesPerPage - 1))) where
  addr := by
    have lengthEq := memory.length_eq
    rw [dnvmeSglSetSeg_addr, List.getD_eq_getElem?_getD,
      List.getElem?_eq_getElem (by omega)]
    rfl
  last := by
    intro isLast
    rw [segmentCount_eq] at isLast
    rw [dnvmeSglSetSeg, if_pos (by rw [nvmeSgesPerPage_eq]; omega)]
    exact ⟨rfl, Nat.mul_comm _ _⟩
  inner := by
    intro notLast
    rw [segmentCount_eq] at below notLast
    rw [dnvmeSglSetSeg, if_neg (by rw [nvmeSgesPerPage_eq]; omega)]
    exact ⟨rfl, rfl⟩

/-- The reader ends in the last segment. -/
theorem SegMemory.read_last (memory : SegMemory prps set list base descs)
    {s fuel : Nat} (isLast : s + 1 = segmentCount list.length)
    (sge : NvmeSglDesc) :
    ∃ walk, readSegments (segmentAt prps) (fuel + 1)
        (dnvmeSglSetSeg sge (prps.pgAddr.getD (base + s) 0)
          (list.length - s * (nvmeSgesPerPage - 1))) = some walk ∧
      Walked prps set list base s walk := by
  have below : s < segmentCount list.length := by omega
  have lead := memory.leadsTo below sge
  obtain ⟨typeEq, lengthEq⟩ := lead.last isLast
  have short : s * (nvmeSgesPerPage - 1) +
      (list.length - s * (nvmeSgesPerPage - 1)) ≤ list.length ∧
      list.length - s * (nvmeSgesPerPage - 1) ≤ nvmeSgesPerPage - 1 := by
    rw [segmentCount_eq] at isLast
    rw [nvmeSgesPerPage_eq]
    omega
  have slots := memory.slots_eq short.2 short.1
  have addrEq := dnvmeSglSetSeg_addr sge (prps.pgAddr.getD (base + s) 0)
    (list.length - s * (nvmeSgesPerPage - 1))
  generalize dnvmeSglSetSeg sge (prps.pgAddr.getD (base + s) 0)
    (list.length - s * (nvmeSgesPerPage - 1)) = desc at *
  refine ⟨[(desc, (List.range (list.length - s * (nvmeSgesPerPage - 1))).map
    fun k => itemDesc set list (s * (nvmeSgesPerPage - 1) + k))], ?_, ?_⟩
  · rw [readSegments, addrEq, memory.page_eq below]
    simp only [typeEq, if_true, lengthEq]
    rw [Nat.mul_div_cancel_left _ (by decide), slots]
  · refine ⟨by simp, by simpa using isLast, ?_⟩
    intro i segment found
    cases i with
    | zero =>
        simp only [List.getElem?_cons_zero, Option.some.injEq] at found
        subst segment
        exact lead
    | succ i => simp at found

/-- The reader passes from a segment to the next one. -/
theorem SegMemory.read_inner (memory : SegMemory prps set list base descs)
    {s fuel : Nat} (more : s + 1 < segmentCount list.length)
    (sge : NvmeSglDesc) {rest : List (NvmeSglDesc × List NvmeSglDesc)}
    (read : readSegments (segmentAt prps) fuel
      (dnvmeSglSetSeg NvmeSglDesc.zero (prps.pgAddr.getD (base + (s + 1)) 0)
        (list.length - (s + 1) * (nvmeSgesPerPage - 1))) = some rest)
    (walked : Walked prps set list base (s + 1) rest) :
    ∃ walk, readSegments (segmentAt prps) (fuel + 1)
        (dnvmeSglSetSeg sge (prps.pgAddr.getD (base + s) 0)
          (list.length - s * (nvmeSgesPerPage - 1))) = some walk ∧
      Walked prps set list base s walk := by
  have lead := memory.leadsTo (by omega : s < _) sge
  obtain ⟨typeEq, lengthEq⟩ := lead.inner (by omega)
  have full : s * (nvmeSgesPerPage - 1) + (nvmeSgesPerPage - 1) ≤
      list.length := by
    rw [segmentCount_eq] at more
    rw [nvmeSgesPerPage_eq]
    omega
  have slots := memory.slots_eq (le_refl _) full
  have link := memory.links s more
  rw [linkDesc, Nat.add_assoc] at link
  have addrEq := dnvmeSglSetSeg_addr sge (prps.pgAddr.getD (base + s) 0)
    (list.length - s * (nvmeSgesPerPage - 1))
  generalize dnvmeSglSetSeg sge (prps.pgAddr.getD (base + s) 0)
    (list.length - s * (nvmeSgesPerPage - 1)) = desc at *
  refine ⟨(desc, (List.range (nvmeSgesPerPage - 1)).map fun k =>
    itemDesc set list (s * (nvmeSgesPerPage - 1) + k)) :: rest, ?_, ?_⟩
  · rw [readSegments, addrEq, memory.page_eq (by omega)]
    simp only [typeEq, lengthEq,
      show NvmeSglType.segDesc.byte ≠ NvmeSglType.lastSegDesc.byte by decide,
      if_false, if_true]
    rw [show pageSize / nvmeSglDescSize = nvmeSgesPerPage from rfl, link,
      read, slots, Option.map_some]
  · refine ⟨?_, ?_, ?_⟩
    · have split : list.length - s * (nvmeSgesPerPage - 1) =
          (nvmeSgesPerPage - 1) +
            (list.length - (s + 1) * (nvmeSgesPerPage - 1)) := by
        rw [Nat.add_mul, Nat.one_mul]
        omega
      have shift : ((fun k => itemDesc set list
            (s * (nvmeSgesPerPage - 1) + k)) ∘
              fun k => nvmeSgesPerPage - 1 + k) =
          fun k => itemDesc set list
            ((s + 1) * (nvmeSgesPerPage - 1) + k) := by
        funext k
        rw [Function.comp_apply, Nat.add_mul, Nat.one_mul, Nat.add_assoc]
      rw [List.flatMap_cons, walked.found, split, List.range_add,
        List.map_append, List.map_map, shift]
    · have lengthEq := walked.length_eq
      simp only [List.length_cons]
      omega
    · intro i segment found
      cases i with
      | zero =>
          simp only [List.getElem?_cons_zero, Option.some.injEq] at found
          subst segment
          exact lead
      | succ i =>
          have later := walked.leads i segment (by simpa using found)
          rwa [show s + 1 + i = s + (i + 1) by omega] at later

/-- The reader finds all segments from number `s` on. -/
theorem SegMemory.read (memory : SegMemory prps set list base descs)
    (remaining : Nat) :
    ∀ (s : Nat) (sge : NvmeSglDesc),
      s + (remaining + 1) = segmentCount list.length →
      ∃ walk, readSegments (segmentAt prps) (remaining + 1)
          (dnvmeSglSetSeg sge (prps.pgAddr.getD (base + s) 0)
            (list.length - s * (nvmeSgesPerPage - 1))) = some walk ∧
        Walked prps set list base s walk := by
  induction remaining with
  | zero =>
      intro s sge position
      exact memory.read_last position sge
  | succ remaining ih =>
      intro s sge position
      obtain ⟨rest, read, walked⟩ :=
        ih (s + 1) NvmeSglDesc.zero (by omega)
      exact memory.read_inner (by omega) sge read walked

end ReadBack

/-! ## The two functions -/

/--
A controller that starts at `lead` finds exactly the descriptors `expected`,
through as many segments as there are pages from page `base` on, each led to
as `LeadsTo` says; no page after the allocated ones is written.
-/
structure ReadsBack (prps : NvmePrps) (lead : NvmeSglDesc) (base : Nat)
    (expected : List NvmeSglDesc) : Prop where
  walk : ∃ walk, readSegments (segmentAt prps)
      (segmentCount expected.length) lead = some walk ∧
    walk.flatMap Prod.snd = expected ∧
    walk.length = segmentCount expected.length ∧
    ∀ s segment, walk[s]? = some segment →
      LeadsTo prps.pgAddr base expected.length
        (segmentCount expected.length) s segment.1
  used : prps.pgAddr.length = base + segmentCount expected.length
  pages : prps.nrPages = prps.pgAddr.length
  inside : ∃ descs, prps.prpList = some (.sgl descs) ∧
    ∀ p slot, prps.nrPages ≤ p → descs p slot = NvmeSglDesc.zero

theorem itemDesc_range {α : Type} (set : NvmeSglDesc → α → NvmeSglDesc)
    (list : List α) :
    (List.range list.length).map (itemDesc set list) =
      list.map (set NvmeSglDesc.zero) := by
  apply List.ext_getElem
  · simp
  · intro k inside other
    simp only [List.length_map, List.length_range] at inside
    simp [itemDesc, inside]

/-- A list laid out by the loop is read back from any descriptor that leads to
its first page. -/
theorem fillSegments_readsBack {α : Type}
    {set : NvmeSglDesc → α → NvmeSglDesc} {list : List α} {base : Nat}
    {front : Nat → Nat → NvmeSglDesc} {prps : NvmePrps} (sge : NvmeSglDesc)
    (nonempty : list ≠ [])
    (blank : ∀ p slot, base ≤ p → front p slot = NvmeSglDesc.zero)
    (distinct : prps.pgAddr.Nodup)
    (lengthEq : prps.pgAddr.length = base + segmentCount list.length)
    (pages : prps.nrPages = prps.pgAddr.length)
    (laidOut : prps.prpList = some (.sgl
      (fillSegments prps.pgAddr set list ⟨base, 0, front, false⟩).descs)) :
    ReadsBack prps
      (dnvmeSglSetSeg sge (prps.pgAddr.getD base 0) list.length) base
      (list.map (set NvmeSglDesc.zero)) := by
  have positive : 0 < list.length := List.length_pos_of_ne_nil nonempty
  obtain ⟨loop, pageEq⟩ :=
    @fillSegments_spec α prps.pgAddr set list base front nonempty lengthEq
      blank
  have memory : SegMemory prps set list base
      (fillSegments prps.pgAddr set list ⟨base, 0, front, false⟩).descs :=
    { pages := laidOut
      distinct := distinct
      length_eq := lengthEq
      items := loop.filled.items
      links := by
        intro p more
        exact loop.filled.links p (by omega) }
  have some_ : 0 < segmentCount list.length := by
    rw [segmentCount_eq]
    omega
  obtain ⟨walk, read, walked⟩ :=
    memory.read (segmentCount list.length - 1) 0 sge (by omega)
  rw [Nat.zero_mul, Nat.sub_zero, Nat.add_zero, Nat.sub_add_cancel some_]
    at read
  have found := walked.found
  simp only [Nat.zero_mul, Nat.sub_zero, Nat.zero_add] at found
  refine ⟨⟨walk, ?_, ?_, ?_, ?_⟩, ?_, pages, _, laidOut, ?_⟩
  · rwa [List.length_map]
  · rw [found, ← itemDesc_range]
  · have lengthEq := walked.length_eq
    rw [List.length_map]
    omega
  · intro s segment member
    have lead := walked.leads s segment member
    rwa [List.length_map, ← Nat.zero_add s]
  · rwa [List.length_map]
  · intro p slot beyond
    exact loop.filled.untouched p slot (Or.inl (by omega))

/-- A descriptor survives its trip through the data pointer. -/
theorem sgl_ofSgl {desc : NvmeSglDesc} (length : desc.length < 2 ^ 32)
    (rsvd : desc.rsvd < 2 ^ 24) :
    (NvmeDataPtr.ofSgl desc).sgl = desc := by
  cases desc
  simp only [NvmeDataPtr.ofSgl, NvmeDataPtr.sgl, NvmeSglDesc.mk.injEq,
    true_and] at *
  omega

theorem dnvmeSglSetSeg_fields (pointer : NvmeDataPtr) (addr entries : Nat) :
    (dnvmeSglSetSeg pointer.sgl addr entries).length < 2 ^ 32 ∧
      (dnvmeSglSetSeg pointer.sgl addr entries).rsvd < 2 ^ 24 := by
  have rsvd : pointer.sgl.rsvd < 2 ^ 24 := Nat.mod_lt _ (by decide)
  unfold dnvmeSglSetSeg
  split
  · rename_i few
    rw [nvmeSgesPerPage_eq] at few
    refine ⟨?_, rsvd⟩
    simp only [nvmeSglDescSize]
    omega
  · refine ⟨?_, rsvd⟩
    simp only [pageSize]
    omega

/-- The descriptor an entry of the descriptor list stands for. -/
def entryDesc (entry : SglDescEntry) : NvmeSglDesc :=
  if entry.addr = 0 then
    ⟨0, entry.length, 0, NvmeSglType.bitBucketDesc.byte⟩
  else
    ⟨entry.addr, entry.length, 0, NvmeSglType.dataDesc.byte⟩

/-- The descriptor a scatter entry stands for. -/
def scatterDesc (sg : ScatterEntry) : NvmeSglDesc :=
  ⟨sg.dmaAddress, sg.dmaLength, 0, NvmeSglType.dataDesc.byte⟩

theorem setDescEntry_zero :
    setDescEntry NvmeSglDesc.zero = entryDesc := by
  funext entry
  by_cases bucket : entry.addr = 0
  · simp [setDescEntry, entryDesc, bucket, dnvmeSglSetBitBucket,
      NvmeSglDesc.zero]
  · simp [setDescEntry, entryDesc, bucket, sglSetData, NvmeSglDesc.zero]

/-- `dnvme_cmd_setup_sgl`: the chain starts at the data pointer. -/
theorem layoutSgl_readsBack {env : ListEnv} {poolPages prpDma : List Nat}
    {ccmd : NvmeCommonCommand} {prps : NvmePrps} {list : List SglDescEntry}
    (nonempty : list ≠ []) (distinct : prpDma.Nodup)
    (allocated :
      allocListPages env (segmentCount list.length) = some prpDma) :
    (layoutSgl env poolPages ccmd prps list).ret = 0 ∧
      (cmdSegments prpDma list).warned = false ∧
      ReadsBack (layoutSgl env poolPages ccmd prps list).prps
        (layoutSgl env poolPages ccmd prps list).ccmd.dptr.sgl 0
        (list.map entryDesc) := by
  obtain ⟨lengthEq, _⟩ := allocListPages_some allocated
  obtain ⟨length, rsvd⟩ := dnvmeSglSetSeg_fields ccmd.dptr
    (prpDma.getD 0 0) list.length
  have enough : prpDma.length = 0 + segmentCount list.length := by
    rw [Nat.zero_add, lengthEq]
  obtain ⟨loop, _⟩ := @fillSegments_spec _ prpDma setDescEntry list 0
    blankSegments nonempty enough (fun _ _ _ => rfl)
  simp only [layoutSgl, allocated, true_and]
  rw [sgl_ofSgl length rsvd, ← setDescEntry_zero]
  exact ⟨loop.calm, fillSegments_readsBack ccmd.dptr.sgl nonempty
    (fun _ _ _ => rfl) distinct enough lengthEq.symm rfl⟩

/-- `dnvme_meta_setup_sgl`: the chain starts in page 0. -/
theorem dnvmeMetaSetupSgl_readsBack {env : ListEnv}
    {poolPages prpDma : List Nat} {prps : NvmePrps}
    {sg : List ScatterEntry} (several : 2 ≤ sg.length)
    (scatter : prps.sg = some sg) (mapped : prps.numMapPgs = sg.length)
    (distinct : prpDma.Nodup)
    (allocated :
      allocListPages env (segmentCount sg.length + 1) = some prpDma) :
    ∃ result pages descs,
      dnvmeMetaSetupSgl env poolPages prps = .ok (0, result, pages) ∧
        result.prpList = some (.sgl descs) ∧
        (metaSegments prpDma sg).warned = false ∧
        ReadsBack result (descs 0 0) 1 (sg.map scatterDesc) := by
  obtain ⟨lengthEq, _⟩ := allocListPages_some allocated
  have nonempty : sg ≠ [] := by
    rintro rfl
    simp at several
  -- page 0 holds the first descriptor and is left alone by the loop
  let lead := writeSlot blankSegments 0 0
    (dnvmeSglSetSeg NvmeSglDesc.zero (prpDma.getD 1 0) sg.length)
  have blank : ∀ p slot, 1 ≤ p → lead p slot = NvmeSglDesc.zero := by
    intro p slot later
    exact writeSlot_other _ _ _ _ _ _ (Or.inl (by omega))
  have enough : prpDma.length = 1 + segmentCount sg.length :=
    lengthEq.trans (Nat.add_comm _ _)
  obtain ⟨loop, _⟩ := @fillSegments_spec _ prpDma dnvmeSglSetData sg 1 lead
    nonempty enough blank
  have first : (metaSegments prpDma sg).descs 0 0 =
        dnvmeSglSetSeg NvmeSglDesc.zero (prpDma.getD 1 0) sg.length := by
    rw [metaSegments, loop.front_eq 0 (by decide)]
    exact writeSlot_same _ _ _ _
  have single : sg.length ≠ 1 := by omega
  have run : dnvmeMetaSetupSgl env poolPages prps =
      .ok (0, { prps with
        prpList := some (.sgl (metaSegments prpDma sg).descs)
        pgAddr := prpDma
        nrPages := segmentCount sg.length + 1 }, prpDma ++ poolPages) := by
    simp only [dnvmeMetaSetupSgl, mapped, single, if_false, allocated,
      scatter, lt_self_iff_false, List.take_length]
  refine ⟨_, _, _, run, rfl, loop.calm, ?_⟩
  rw [first]
  change ReadsBack _ _ 1 (sg.map (dnvmeSglSetData NvmeSglDesc.zero))
  refine fillSegments_readsBack NvmeSglDesc.zero nonempty blank distinct
    enough lengthEq.symm rfl

/--
Both functions lay out chains that are read back: `dnvme_cmd_setup_sgl` from
the data pointer of the command, `dnvme_meta_setup_sgl` from the first
descriptor of its page 0.
-/
theorem setup_sgl_readsBack :
    (∀ (env : ListEnv) (poolPages prpDma : List Nat)
        (ccmd : NvmeCommonCommand) (prps : NvmePrps)
        (list : List SglDescEntry),
      list ≠ [] → prpDma.Nodup →
      allocListPages env (segmentCount list.length) = some prpDma →
      (layoutSgl env poolPages ccmd prps list).ret = 0 ∧
        (cmdSegments prpDma list).warned = false ∧
        ReadsBack (layoutSgl env poolPages ccmd prps list).prps
          (layoutSgl env poolPages ccmd prps list).ccmd.dptr.sgl 0
          (list.map entryDesc)) ∧
    (∀ (env : ListEnv) (poolPages prpDma : List Nat) (prps : NvmePrps)
        (sg : List ScatterEntry),
      2 ≤ sg.length → prps.sg = some sg → prps.numMapPgs = sg.length →
      prpDma.Nodup →
      allocListPages env (segmentCount sg.length + 1) = some prpDma →
      ∃ result pages descs,
        dnvmeMetaSetupSgl env poolPages prps = .ok (0, result, pages) ∧
          result.prpList = some (.sgl descs) ∧
          (metaSegments prpDma sg).warned = false ∧
          ReadsBack result (descs 0 0) 1 (sg.map scatterDesc)) := by
  constructor
  · intro env poolPages prpDma ccmd prps list nonempty distinct allocated
    exact layoutSgl_readsBack nonempty distinct allocated
  · intro env poolPages prpDma prps sg several scatter mapped distinct
      allocated
    exact dnvmeMetaSetupSgl_readsBack several scatter mapped distinct
      allocated

/-- List pages at consecutive addresses, none of which fails. -/
def consecutivePages : ListEnv :=
  ⟨true, true, fun i => some ((i + 1) * pageSize)⟩

/-- A scatter entry of one page. -/
def onePage : ScatterEntry :=
  ⟨1, 0, pageSize, pageSize, pageSize⟩

/-- As many data descriptors as a page holds besides its link, and a bit
bucket. -/
def twoSegments : List SglDescEntry :=
  List.replicate 255 ⟨4096, 4096⟩ ++ [⟨0, 512⟩]

theorem twoSegments_length : twoSegments.length = 256 := by
  rw [twoSegments, List.length_append, List.length_replicate]
  rfl

theorem setup_sgl_readsBack_two_segments :
    ReadsBack
      (layoutSgl consecutivePages [] .zero (.zero .cmdPool)
        twoSegments).prps
      (layoutSgl consecutivePages [] .zero (.zero .cmdPool)
        twoSegments).ccmd.dptr.sgl 0 (twoSegments.map entryDesc) ∧
    ∃ result pages descs,
      dnvmeMetaSetupSgl consecutivePages []
          { NvmePrps.zero .metaPool with
            sg := some [onePage, onePage], numMapPgs := 2 } =
        .ok (0, result, pages) ∧
      result.prpList = some (.sgl descs) ∧
      (metaSegments [4096, 8192] [onePage, onePage]).warned = false ∧
      ReadsBack result (descs 0 0) 1 ([onePage, onePage].map scatterDesc) :=
  ⟨(setup_sgl_readsBack.1 consecutivePages [] [4096, 8192] .zero
      (.zero .cmdPool) twoSegments
      (List.ne_nil_of_length_eq_add_one twoSegments_length) (by decide)
      (by rw [twoSegments_length]; decide)).2.2,
    setup_sgl_readsBack.2 consecutivePages [] [4096, 8192] _
      [onePage, onePage] (by decide) rfl rfl (by decide) (by decide)⟩

end Dnvme.Driver.SglChain
