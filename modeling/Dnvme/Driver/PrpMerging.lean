import Dnvme.Driver.PrpReading

/-!
# PRP lists and merged scatter entries

`dma_map_sg` may describe physically consecutive pages by one scatter entry and
leave entries at the end unused.  This module shows that `dnvme_setup_prps`
writes the same pointers and list pages whatever was merged, that its list loop
stays inside the list pages it allocated, and that it never runs out of scatter
entries or meets an illegal length.

The bytes of a buffer are numbered from the start of its first page; `edge k`
is where page `k` begins.
-/

namespace Dnvme.Driver.PrpMerging

open Dnvme.Driver
open Dnvme.Lib.ChainedPages
open Dnvme.Driver.PrpReading

/-! ## Scatter lists of one buffer -/

/-- A buffer that starts `offset` bytes into its first page, with the bus
address of each page. -/
structure Buffer where
  offset : Nat
  size : Nat
  address : Nat → Nat
  inPage : offset < pageSize
  positive : 0 < size
  small : size < 2 ^ 31
  first : offsetInPage (address 0) = offset

namespace Buffer

variable (buffer : Buffer)

/-- The number of pages. -/
def count : Nat :=
  divRoundUp (buffer.offset + buffer.size) pageSize

/-- Where page `k` of the buffer begins. -/
def edge (k : Nat) : Nat :=
  max buffer.offset (min (k * pageSize) (buffer.offset + buffer.size))

/-- The number of bytes in page `k`. -/
def bytes (k : Nat) : Nat :=
  buffer.edge (k + 1) - buffer.edge k

theorem count_range :
    (buffer.count - 1) * 4096 < buffer.offset + buffer.size ∧
      buffer.offset + buffer.size ≤ buffer.count * 4096 ∧
      0 < buffer.count := by
  have positive := buffer.positive
  simp only [count, divRoundUp, pageSize]
  omega

theorem edge_zero : buffer.edge 0 = buffer.offset := by
  simp [edge]

theorem edge_inner {k : Nat} (some_ : 0 < k) (below : k < buffer.count) :
    buffer.edge k = k * 4096 := by
  have range := buffer.count_range
  have inPage := buffer.inPage
  simp only [edge, pageSize] at inPage ⊢
  omega

theorem edge_le {k : Nat} : buffer.edge k ≤ buffer.offset + buffer.size := by
  simp only [edge]
  omega

theorem edge_mono {j k : Nat} (le : j ≤ k) :
    buffer.edge j ≤ buffer.edge k := by
  simp only [edge, pageSize]
  omega

theorem edge_lt {j k : Nat} (less : j < k) (below : j < buffer.count) :
    buffer.edge j < buffer.edge k := by
  have range := buffer.count_range
  have inPage := buffer.inPage
  have positive := buffer.positive
  simp only [edge, pageSize] at inPage ⊢
  omega

end Buffer

/-- The scatter entries from page `index` on: each describes one or more pages
that follow each other in memory, and only unused entries come after the last
page. -/
inductive Covers (buffer : Buffer) : Nat → List ScatterEntry → Prop where
  | done {sg : List ScatterEntry}
      (unused : ∀ entry, entry ∈ sg → entry.dmaLength = 0) :
      Covers buffer buffer.count sg
  | run {index : Nat} {entry : ScatterEntry} {rest : List ScatterEntry}
      (pages : Nat) (some_ : 0 < pages)
      (address : entry.dmaAddress = buffer.address index)
      (consecutive : ∀ k, k + 1 < pages →
        buffer.address (index + k + 1) =
          buffer.address (index + k) + buffer.bytes (index + k))
      (length : entry.dmaLength =
        buffer.edge (index + pages) - buffer.edge index)
      (others : Covers buffer (index + pages) rest) :
      Covers buffer index (entry :: rest)

/-- One scatter entry for each page. -/
structure OneEach (buffer : Buffer) (sg : List ScatterEntry) : Prop where
  length_eq : sg.length = buffer.count
  address : ∀ k entry, sg[k]? = some entry →
    entry.dmaAddress = buffer.address k
  length : ∀ k entry, sg[k]? = some entry →
    entry.dmaLength = buffer.bytes k

theorem OneEach.covers_drop {buffer : Buffer} {sg : List ScatterEntry}
    (each : OneEach buffer sg) (rest : List ScatterEntry) :
    ∀ index, sg.drop index = rest → index ≤ buffer.count →
      Covers buffer index rest := by
  have length_eq := each.length_eq
  induction rest with
  | nil =>
      intro index dropped within
      have all := List.drop_eq_nil_iff.mp dropped
      obtain rfl : index = buffer.count := by omega
      exact .done fun entry none_ => nomatch none_
  | cons entry rest ih =>
      intro index dropped within
      have found : sg[index]? = some entry := by
        have head := congrArg List.head? dropped
        rwa [List.head?_drop] at head
      have below : index < sg.length := by
        have := List.getElem?_eq_some_iff.mp found
        exact this.1
      have next : sg.drop (index + 1) = rest := by
        have tail := congrArg List.tail dropped
        rwa [List.tail_drop] at tail
      refine .run 1 (by decide) (each.address index entry found) ?_
        (each.length index entry found) (ih (index + 1) next (by omega))
      intro k less
      omega

theorem OneEach.covers {buffer : Buffer} {sg : List ScatterEntry}
    (each : OneEach buffer sg) : Covers buffer 0 sg :=
  each.covers_drop sg 0 rfl (Nat.zero_le _)

section Runs

variable {buffer : Buffer}

theorem Covers.le_count {index : Nat} {sg : List ScatterEntry}
    (covers : Covers buffer index sg) : index ≤ buffer.count := by
  induction covers with
  | done unused => exact le_refl _
  | run pages some_ address consecutive length others ih => omega

/-- A position in a scatter list: `dmaLen` bytes of the current entry are
left, and they are those of the next `pages` pages. -/
structure Run (buffer : Buffer) (index dmaAddr : Nat) (dmaLen : Int)
    (sg : List ScatterEntry) (pages : Nat) : Prop where
  some_ : 0 < pages
  addr : dmaAddr = buffer.address index
  consecutive : ∀ k, k + 1 < pages →
    buffer.address (index + k + 1) =
      buffer.address (index + k) + buffer.bytes (index + k)
  length : dmaLen = buffer.edge (index + pages) - buffer.edge index
  others : Covers buffer (index + pages) sg

theorem Run.within {index dmaAddr pages : Nat} {dmaLen : Int}
    {sg : List ScatterEntry}
    (run : Run buffer index dmaAddr dmaLen sg pages) :
    index + pages ≤ buffer.count :=
  run.others.le_count

theorem Run.range {index dmaAddr pages : Nat} {dmaLen : Int}
    {sg : List ScatterEntry}
    (run : Run buffer index dmaAddr dmaLen sg pages) :
    0 < dmaLen ∧ dmaLen ≤ buffer.size := by
  have within := run.within
  have some_ := run.some_
  have below : index < buffer.count := by omega
  have less := buffer.edge_lt (by omega : index < index + pages) below
  have upper := @Buffer.edge_le buffer (index + pages)
  have lower : buffer.offset ≤ buffer.edge index := le_max_left _ _
  rw [run.length]
  omega

/-- A scatter list that still covers a page has an entry for it. -/
theorem Covers.head {index : Nat} {sg : List ScatterEntry}
    (covers : Covers buffer index sg) (below : index < buffer.count) :
    ∃ entry rest pages, sg = entry :: rest ∧
      Run buffer index entry.dmaAddress entry.dmaLength rest pages := by
  cases covers with
  | done unused => omega
  | @run _ entry rest pages some_ address consecutive length others =>
      refine ⟨entry, rest, pages, rfl, some_, address, consecutive, ?_, others⟩
      have mono := buffer.edge_mono (Nat.le_add_right index pages)
      rw [length]
      omega

/-- Past one page: the entry goes on, or it is used up and there is another
one. -/
theorem Run.advance {index dmaAddr pages : Nat} {dmaLen : Int}
    {sg : List ScatterEntry}
    (run : Run buffer index dmaAddr dmaLen sg pages)
    (more : index + 1 < buffer.count) :
    Run buffer (index + 1) (dmaAddr + buffer.bytes index)
        (dmaLen - buffer.bytes index) sg (pages - 1) ∨
      dmaLen = buffer.bytes index ∧ ∃ entry rest next, sg = entry :: rest ∧
        Run buffer (index + 1) entry.dmaAddress entry.dmaLength rest
          next := by
  have mono := buffer.edge_mono (Nat.le_add_right index 1)
  have some_ := run.some_
  by_cases last : pages = 1
  · subst pages
    refine .inr ⟨?_, run.others.head more⟩
    rw [run.length, Buffer.bytes]
    omega
  · have together : index + 1 + (pages - 1) = index + pages := by omega
    refine .inl ⟨by omega, ?_, ?_, ?_, ?_⟩
    · have here := run.consecutive 0 (by omega)
      simp only [Nat.add_zero] at here
      rw [run.addr, here]
    · intro k less
      have later := run.consecutive (k + 1) (by omega)
      rw [show index + 1 + k = index + (k + 1) by omega]
      exact later
    · rw [together, run.length, Buffer.bytes]
      omega
    · rw [together]
      exact run.others

end Runs

/-! ## The list loop -/

/-- One turn of the list loop that does not end it. -/
def nextTurn (prpDma : List Nat) (cursor : PrpCursor) : Option PrpCursor :=
  if 0 < cursor.bufLen then
    if cursor.slot = nvmePrpsPerPage - 1 then
      some { cursor with
        page := cursor.page + 1
        slot := 0
        entries := writeSlot cursor.entries cursor.page cursor.slot
          (prpDma.getD (cursor.page + 1) 0)
        nrEntry := cursor.nrEntry + 1 }
    else
      let step := pageSize - cursor.pgOft.val
      let bufLen := cursor.bufLen - step
      let dmaLen := s32 (cursor.dmaLen - step)
      let written : PrpCursor :=
        { cursor with
          entries :=
            writeSlot cursor.entries cursor.page cursor.slot cursor.dmaAddr
          nrEntry := cursor.nrEntry + 1
          bufLen := bufLen
          dmaLen := dmaLen
          pgOft := ⟨0, pageSize_pos⟩ }
      if bufLen ≤ 0 then none
      else if 0 < dmaLen then
        some { written with
          dmaAddr := cursor.dmaAddr + pageSize
          slot := cursor.slot + 1 }
      else if dmaLen < 0 then none
      else
        match cursor.sg with
        | [] => none
        | next :: rest =>
            some { written with
              sg := rest
              dmaAddr := next.dmaAddress
              dmaLen := s32 next.dmaLength
              slot := cursor.slot + 1 }
  else
    none

/-- The loop goes on with the next turn. -/
theorem fillPrpList_nextTurn {prpDma : List Nat} {cursor next : PrpCursor}
    (turn : nextTurn prpDma cursor = some next) :
    fillPrpList prpDma cursor = fillPrpList prpDma next := by
  rw [nextTurn] at turn
  rw [fillPrpList]
  by_cases more : 0 < cursor.bufLen
  · rw [if_pos more] at turn ⊢
    by_cases link : cursor.slot = nvmePrpsPerPage - 1
    · rw [if_pos link] at turn ⊢
      rw [Option.some.injEq] at turn
      rw [turn]
    · rw [if_neg link] at turn ⊢
      dsimp only at turn ⊢
      split at turn
      · cases turn
      · rename_i left
        rw [if_neg left]
        split at turn
        · rename_i same
          rw [Option.some.injEq] at turn
          rw [if_pos same, turn]
        · rename_i spent
          rw [if_neg spent]
          split at turn
          · cases turn
          · rename_i legal
            rw [if_neg legal]
            cases list : cursor.sg with
            | nil =>
              rw [list] at turn
              cases turn
            | cons entry rest =>
              rw [list] at turn
              cases turn
              rfl
  · rw [if_neg more] at turn
    cases turn

/-- The cursors the loop passes, each before a turn. -/
inductive Visited (prpDma : List Nat) (start : PrpCursor) :
    PrpCursor → Prop where
  | start : Visited prpDma start start
  | turn {cursor next : PrpCursor}
      (visited : Visited prpDma start cursor)
      (turn : nextTurn prpDma cursor = some next) :
      Visited prpDma start next

/-- The loop stands before page `index`, with `index - skipped` entries
written. -/
structure Standing (buffer : Buffer) (skipped index : Nat)
    (cursor : PrpCursor) : Prop where
  below : index < buffer.count
  aligned : buffer.edge index = index * 4096
  pgOft : cursor.pgOft.val = 0
  bufLen : cursor.bufLen = (buffer.offset + buffer.size : Int) - index * 4096
  run : ∃ pages, Run buffer index cursor.dmaAddr cursor.dmaLen cursor.sg pages
  position : skipped + (cursor.page * 511 + cursor.slot) = index
  slot_le : cursor.slot ≤ 511

section Loop

variable {buffer : Buffer} {skipped index : Nat} {cursor : PrpCursor}
  {prpDma : List Nat}

theorem Standing.more (standing : Standing buffer skipped index cursor) :
    0 < cursor.bufLen := by
  have below := standing.below
  have range := buffer.count_range
  rw [standing.bufLen]
  omega

/-- A turn that links to the next page. -/
theorem Standing.link (standing : Standing buffer skipped index cursor)
    (full : cursor.slot = nvmePrpsPerPage - 1) :
    ∃ next, nextTurn prpDma cursor = some next ∧
      Standing buffer skipped index next ∧
      next.page = cursor.page + 1 ∧ next.slot = 0 ∧
      next.entries = writeSlot cursor.entries cursor.page cursor.slot
        (prpDma.getD (cursor.page + 1) 0) ∧
      next.nrEntry = cursor.nrEntry + 1 := by
  rw [nextTurn, if_pos standing.more, if_pos full]
  refine ⟨_, rfl, ?_, rfl, rfl, rfl, rfl⟩
  have position := standing.position
  rw [full, nvmePrpsPerPage_eq] at position
  exact { standing with
    position := by
      change skipped + ((cursor.page + 1) * 511 + 0) = index
      omega
    slot_le := Nat.zero_le _ }

/-- A turn that writes an entry and moves on. -/
theorem Standing.entry (standing : Standing buffer skipped index cursor)
    (room : cursor.slot ≠ nvmePrpsPerPage - 1)
    (more : index + 1 < buffer.count) :
    ∃ next, nextTurn prpDma cursor = some next ∧
      Standing buffer skipped (index + 1) next ∧
      next.page = cursor.page ∧ next.slot = cursor.slot + 1 ∧
      next.entries = writeSlot cursor.entries cursor.page cursor.slot
        (buffer.address index) ∧
      next.nrEntry = cursor.nrEntry + 1 := by
  rcases standing.run with ⟨pages, run⟩
  have range := run.range
  have small := buffer.small
  have position := standing.position
  have slot_le := standing.slot_le
  have counts := buffer.count_range
  have inner := buffer.edge_inner (Nat.succ_pos index) more
  have bytes : buffer.bytes index = 4096 := by
    rw [Buffer.bytes, inner, standing.aligned]
    omega
  have step : ((pageSize - cursor.pgOft.val : Nat) : Int) = 4096 := by
    rw [standing.pgOft]
    rfl
  have left : ¬ cursor.bufLen - 4096 ≤ 0 := by
    rw [standing.bufLen]
    omega
  have dmaLen : s32 (cursor.dmaLen - 4096) = cursor.dmaLen - 4096 :=
    s32_of_range (by omega) (by omega)
  rw [nvmePrpsPerPage_eq] at room
  rw [nextTurn, if_pos standing.more, if_neg (by
    rw [nvmePrpsPerPage_eq]
    exact room)]
  dsimp only
  rw [step, dmaLen, if_neg left, run.addr]
  rcases run.advance more with goesOn | ⟨used, entry, rest, count, list, run⟩
  · have positive := goesOn.range.1
    rw [bytes] at positive goesOn
    rw [if_pos (by omega)]
    refine ⟨_, rfl, ⟨more, inner, rfl, ?_, ⟨pages - 1, ?_⟩, ?_, ?_⟩, rfl, rfl,
      rfl, rfl⟩
    · change cursor.bufLen - 4096 = _
      rw [standing.bufLen]
      omega
    · rw [run.addr] at goesOn
      exact goesOn
    · change skipped + (cursor.page * 511 + (cursor.slot + 1)) = index + 1
      omega
    · change cursor.slot + 1 ≤ 511
      omega
  · rw [bytes] at used
    rw [if_neg (by omega), if_neg (by omega), list]
    have entryLen : s32 (entry.dmaLength : Int) = entry.dmaLength := by
      have := run.range
      exact s32_of_range (by omega) (by omega)
    refine ⟨_, rfl, ⟨more, inner, rfl, ?_, ⟨count, ?_⟩, ?_, ?_⟩, rfl, rfl,
      rfl, rfl⟩
    · change cursor.bufLen - 4096 = _
      rw [standing.bufLen]
      omega
    · rw [entryLen]
      exact run
    · change skipped + (cursor.page * 511 + (cursor.slot + 1)) = index + 1
      omega
    · change cursor.slot + 1 ≤ 511
      omega

/-- The turn that writes the last entry ends the loop. -/
theorem Standing.last (standing : Standing buffer skipped index cursor)
    (room : cursor.slot ≠ nvmePrpsPerPage - 1)
    (final : index + 1 = buffer.count) :
    nextTurn prpDma cursor = none ∧
      ∃ done, fillPrpList prpDma cursor = .ok (0, done) ∧
        done.entries = writeSlot cursor.entries cursor.page cursor.slot
          (buffer.address index) ∧
        done.nrEntry = cursor.nrEntry + 1 := by
  rcases standing.run with ⟨pages, run⟩
  have counts := buffer.count_range
  have step : ((pageSize - cursor.pgOft.val : Nat) : Int) = 4096 := by
    rw [standing.pgOft]
    rfl
  have spent : cursor.bufLen - 4096 ≤ 0 := by
    rw [standing.bufLen]
    omega
  constructor
  · rw [nextTurn, if_pos standing.more, if_neg room]
    dsimp only
    rw [step, if_pos spent]
  · rw [fillPrpList, if_pos standing.more, if_neg room]
    dsimp only
    rw [step, if_pos spent, run.addr]
    exact ⟨_, rfl, rfl, rfl⟩

/-- What the list pages hold after `left` more entries from page `index` on,
and how many entries and links were written. -/
def writePages (prpDma : List Nat) (address : Nat → Nat) :
    (left index page slot : Nat) → (Nat → Nat → Nat) → Nat →
      (Nat → Nat → Nat) × Nat
  | 0, _, _, _, entries, written => (entries, written)
  | left + 1, index, page, slot, entries, written =>
      if slot = nvmePrpsPerPage - 1 then
        writePages prpDma address left (index + 1) (page + 1) 1
          (writeSlot
            (writeSlot entries page slot (prpDma.getD (page + 1) 0))
            (page + 1) 0 (address index))
          (written + 2)
      else
        writePages prpDma address left (index + 1) page (slot + 1)
          (writeSlot entries page slot (address index)) (written + 1)

/-- The loop ends well, and what it writes depends on the pages alone. -/
theorem fillPrpList_standing (left : Nat) :
    ∀ (index : Nat) (cursor : PrpCursor), index + left = buffer.count →
      Standing buffer skipped index cursor →
      ∃ done, fillPrpList prpDma cursor = .ok (0, done) ∧
        (done.entries, done.nrEntry) =
          writePages prpDma buffer.address left index cursor.page cursor.slot
            cursor.entries cursor.nrEntry := by
  induction left with
  | zero =>
      intro index cursor total standing
      have below := standing.below
      omega
  | succ left ih =>
      -- an entry that has a slot
      have plain : ∀ (index : Nat) (cursor : PrpCursor),
          index + (left + 1) = buffer.count →
          Standing buffer skipped index cursor →
          cursor.slot ≠ nvmePrpsPerPage - 1 →
          ∃ done, fillPrpList prpDma cursor = .ok (0, done) ∧
            (done.entries, done.nrEntry) =
              writePages prpDma buffer.address left (index + 1) cursor.page
                (cursor.slot + 1)
                (writeSlot cursor.entries cursor.page cursor.slot
                  (buffer.address index)) (cursor.nrEntry + 1) := by
        intro index cursor total standing room
        by_cases final : index + 1 = buffer.count
        · rcases (@Standing.last _ _ _ _ prpDma standing room final).2 with
            ⟨done, ends, entries, number⟩
          obtain rfl : left = 0 := by omega
          exact ⟨done, ends, by rw [writePages, entries, number]⟩
        · rcases @Standing.entry _ _ _ _ prpDma standing room (by omega) with
            ⟨next, turn, standing, page, slot, entries, number⟩
          rcases ih (index + 1) next (by omega) standing with
            ⟨done, ends, result⟩
          rw [fillPrpList_nextTurn turn]
          exact ⟨done, ends, by rw [result, page, slot, entries, number]⟩
      intro index cursor total standing
      rw [writePages]
      by_cases full : cursor.slot = nvmePrpsPerPage - 1
      · rcases @Standing.link _ _ _ _ prpDma standing full with
          ⟨next, turn, standing, page, slot, entries, number⟩
        rw [fillPrpList_nextTurn turn, if_pos full]
        rcases plain index next total standing (by rw [slot]; decide) with
          ⟨done, ends, result⟩
        exact ⟨done, ends, by rw [result, page, slot, entries, number]⟩
      · rw [if_neg full]
        exact plain index cursor total standing full

/-- Before every turn the loop stands before some page. -/
theorem Visited.standing {start cursor : PrpCursor}
    (visited : Visited prpDma start cursor)
    (standing : Standing buffer skipped index start) :
    ∃ reached, Standing buffer skipped reached cursor := by
  induction visited with
  | start => exact ⟨index, standing⟩
  | @turn cursor next visited turn ih =>
      rcases ih with ⟨reached, standing⟩
      by_cases full : cursor.slot = nvmePrpsPerPage - 1
      · rcases @Standing.link _ _ _ _ prpDma standing full with
          ⟨other, same, after, _⟩
        rw [turn, Option.some.injEq] at same
        exact ⟨reached, same ▸ after⟩
      · by_cases final : reached + 1 = buffer.count
        · have ends := (@Standing.last _ _ _ _ prpDma standing full final).1
          rw [turn] at ends
          cases ends
        · have below := standing.below
          rcases @Standing.entry _ _ _ _ prpDma standing full (by omega) with
            ⟨other, same, after, _⟩
          rw [turn, Option.some.injEq] at same
          exact ⟨reached + 1, same ▸ after⟩

/-- The number of list pages that `dnvme_setup_prps` allocates. -/
def listPages (entries : Nat) : Nat :=
  divRoundUp (u32 (nvmePrpEntrySize * entries)) (pageSize - nvmePrpEntrySize)

/-- The loop never uses a list page that was not allocated. -/
theorem Standing.page_lt (standing : Standing buffer skipped index cursor)
    (within : skipped ≤ buffer.count) :
    cursor.page < listPages (buffer.count - skipped) := by
  have position := standing.position
  have below := standing.below
  have counts := buffer.count_range
  have small := buffer.small
  have inPage := buffer.inPage
  simp only [pageSize] at inPage
  simp only [listPages, divRoundUp, u32, nvmePrpEntrySize, pageSize]
  omega

end Loop

/-! ## The whole setup -/

/-- What `dnvme_setup_prps` does before the label `prp_list`: it returns, or
it starts a list. -/
inductive Prologue where
  | ends (ret : Int) (ccmd : NvmeCommonCommand)
  | list (flag : PrpListFlag) (ccmd : NvmeCommonCommand) (start : PrpCursor)

/-- A cursor on blank list pages. -/
def startCursor (bufLen : Int) (pgOft : Fin pageSize) (dmaAddr : Nat)
    (dmaLen : Int) (sg : List ScatterEntry) : PrpCursor :=
  ⟨0, 0, bufLen, pgOft, dmaAddr, dmaLen, sg, fun _ _ => 0, 0⟩

/-- `dnvme_setup_prps` up to the label `prp_list`. -/
def prologue (cmd : Nvme64bCmd) (ccmd : NvmeCommonCommand)
    (prps : NvmePrps) : Outcome Prologue :=
  match prps.sg with
  | none | some [] => .error .nullPointer
  | some (first :: rest) =>
      let dmaAddr := first.dmaAddress
      let dmaLen := s32 first.dmaLength
      let pgOft := pageOffset dmaAddr
      let bufLen := s32 prps.dataBufSize
      if createsQueue cmd ccmd then
        if !cmd.bitMask.prp1List then .ok (.ends (-Errno.EINVAL) ccmd)
        else .ok (.list .prp1List ccmd
          (startCursor bufLen pgOft dmaAddr dmaLen rest))
      else if !cmd.bitMask.prp1Page then .ok (.ends (-Errno.EINVAL) ccmd)
      else
        let ccmd := { ccmd with dptr := ⟨dmaAddr, ccmd.dptr.prp2⟩ }
        let bufLen := s32 (bufLen - (pageSize - pgOft.val))
        let dmaLen := s32 (dmaLen - (pageSize - pgOft.val))
        if bufLen ≤ 0 then .ok (.ends 0 ccmd)
        else
          let next : Option (Nat × Int × List ScatterEntry) :=
            if dmaLen ≠ 0 then
              some (dmaAddr + (pageSize - pgOft.val), dmaLen, rest)
            else
              match rest with
              | [] => none
              | entry :: rest =>
                  some (entry.dmaAddress, s32 entry.dmaLength, rest)
          match next with
          | none => .error .nullPointer
          | some (dmaAddr, dmaLen, rest) =>
              if bufLen ≤ pageSize then
                if !cmd.bitMask.prp2Page then
                  .ok (.ends (-Errno.EINVAL) ccmd)
                else
                  .ok (.ends 0 { ccmd with
                    dptr := ⟨ccmd.dptr.prp1, dmaAddr⟩ })
              else if !cmd.bitMask.prp2List then
                .ok (.ends (-Errno.EINVAL) ccmd)
              else
                .ok (.list .prp2List ccmd
                  (startCursor bufLen ⟨0, pageSize_pos⟩ dmaAddr dmaLen rest))

/-- `dnvme_setup_prps` is its prologue and the list. -/
theorem dnvmeSetupPrps_eq (env : ListEnv) (poolPages : List Nat)
    (cmd : Nvme64bCmd) (ccmd : NvmeCommonCommand) (prps : NvmePrps) :
    dnvmeSetupPrps env poolPages cmd ccmd prps =
      match prologue cmd ccmd prps with
      | .error oops => .error oops
      | .ok (.ends ret ccmd) => .ok ⟨ret, ccmd, prps, poolPages⟩
      | .ok (.list flag ccmd start) =>
          buildPrpList env poolPages flag ccmd prps start.bufLen start.pgOft
            start.dmaAddr start.dmaLen start.sg := by
  rw [dnvmeSetupPrps, prologue]
  cases prps.sg with
  | none => rfl
  | some sg =>
      cases sg with
      | nil => rfl
      | cons first rest =>
          simp only [startCursor]
          generalize s32 (s32 (first.dmaLength : Int) - ((pageSize : Int) -
            (pageOffset first.dmaAddress).val)) = used
          generalize s32 (s32 (prps.dataBufSize : Int) - ((pageSize : Int) -
            (pageOffset first.dmaAddress).val)) = left
          by_cases spent : used = 0
          · simp only [spent, ne_eq, not_true_eq_false, if_false]
            cases rest <;> split_ifs <;> simp only []
          · simp only [spent, ne_eq, not_false_eq_true, if_true]
            split_ifs <;> simp only []

/-- What the pages of a buffer and the mask ask for: a return value, or a list
of the pages from `skipped` on. -/
inductive Plan where
  | ends (ret : Int) (ccmd : NvmeCommonCommand)
  | list (flag : PrpListFlag) (ccmd : NvmeCommonCommand) (skipped : Nat)

/-- The plan for a buffer. -/
def plan (buffer : Buffer) (cmd : Nvme64bCmd) (ccmd : NvmeCommonCommand) :
    Plan :=
  let pointed (prp2 : Nat) : NvmeCommonCommand :=
    { ccmd with dptr := ⟨buffer.address 0, prp2⟩ }
  if createsQueue cmd ccmd then
    if cmd.bitMask.prp1List then .list .prp1List ccmd 0
    else .ends (-Errno.EINVAL) ccmd
  else if !cmd.bitMask.prp1Page then .ends (-Errno.EINVAL) ccmd
  else if buffer.count ≤ 1 then .ends 0 (pointed ccmd.dptr.prp2)
  else if buffer.count ≤ 2 then
    if cmd.bitMask.prp2Page then .ends 0 (pointed (buffer.address 1))
    else .ends (-Errno.EINVAL) (pointed ccmd.dptr.prp2)
  else if cmd.bitMask.prp2List then
    .list .prp2List (pointed ccmd.dptr.prp2) 1
  else .ends (-Errno.EINVAL) (pointed ccmd.dptr.prp2)

/-- The prologue does what the plan says. -/
def Follows (buffer : Buffer) : Plan → Prologue → Prop
  | .ends ret ccmd, prologue => prologue = .ends ret ccmd
  | .list flag ccmd skipped, prologue =>
      ∃ bufLen pgOft dmaAddr dmaLen sg,
        prologue = .list flag ccmd
          (startCursor bufLen pgOft dmaAddr dmaLen sg) ∧
        Standing buffer skipped skipped
          (startCursor bufLen pgOft dmaAddr dmaLen sg)

section Setup

variable {buffer : Buffer} {sg : List ScatterEntry} {prps : NvmePrps}
  {cmd : Nvme64bCmd} {ccmd : NvmeCommonCommand}

/-- The part of the prologue that looks at the second page. -/
theorem secondPage_follows (cmd : Nvme64bCmd) (ccmd : NvmeCommonCommand)
    {dmaAddr number : Nat} {dmaLen : Int} {others : List ScatterEntry}
    (more : 1 < buffer.count) (inner : buffer.edge 1 = 1 * 4096)
    (second : Run buffer 1 dmaAddr dmaLen others number) :
    let pointed (prp2 : Nat) : NvmeCommonCommand :=
      { ccmd with dptr := ⟨buffer.address 0, prp2⟩ }
    ∃ result,
      (if (buffer.size : Int) - (4096 - buffer.offset) ≤ pageSize then
        if (!cmd.bitMask.prp2Page) = true then
          Except.ok (Prologue.ends (-Errno.EINVAL)
            (pointed ccmd.dptr.prp2))
        else
          Except.ok (Prologue.ends 0 (pointed dmaAddr))
      else if (!cmd.bitMask.prp2List) = true then
        Except.ok (Prologue.ends (-Errno.EINVAL) (pointed ccmd.dptr.prp2))
      else
        Except.ok (Prologue.list .prp2List (pointed ccmd.dptr.prp2)
          (startCursor (buffer.size - (4096 - buffer.offset))
            ⟨0, pageSize_pos⟩ dmaAddr dmaLen others))) =
        (Except.ok result : Outcome Prologue) ∧
      Follows buffer
        (if buffer.count ≤ 2 then
          if cmd.bitMask.prp2Page then
            .ends 0 (pointed (buffer.address 1))
          else .ends (-Errno.EINVAL) (pointed ccmd.dptr.prp2)
        else if cmd.bitMask.prp2List then
          .list .prp2List (pointed ccmd.dptr.prp2) 1
        else .ends (-Errno.EINVAL) (pointed ccmd.dptr.prp2)) result := by
  have counts := buffer.count_range
  have inPage : buffer.offset < 4096 := buffer.inPage
  intro pointed
  rw [second.addr]
  by_cases two : buffer.count ≤ 2
  · rw [if_pos two, if_pos (by simp only [pageSize]; omega)]
    cases mask : cmd.bitMask.prp2Page with
    | false => exact ⟨_, rfl, rfl⟩
    | true => exact ⟨_, rfl, rfl⟩
  · rw [if_neg two, if_neg (by simp only [pageSize]; omega)]
    cases mask : cmd.bitMask.prp2List with
    | false => exact ⟨_, rfl, rfl⟩
    | true =>
        refine ⟨_, rfl, _, _, _, _, _, rfl, ?_⟩
        refine ⟨by omega, inner, rfl, ?_, ⟨number, second.addr ▸ second⟩,
          by simp [startCursor], Nat.zero_le _⟩
        change (buffer.size : Int) - (4096 - buffer.offset) = _
        omega

/-- The prologue follows the plan, whatever was merged. -/
theorem prologue_follows (covers : Covers buffer 0 sg)
    (scatter : prps.sg = some sg) (size : prps.dataBufSize = buffer.size)
    (aligned : createsQueue cmd ccmd = true → buffer.offset = 0) :
    ∃ result, prologue cmd ccmd prps = .ok result ∧
      Follows buffer (plan buffer cmd ccmd) result := by
  have counts := buffer.count_range
  have small := buffer.small
  rcases covers.head counts.2.2 with ⟨first, rest, pages, rfl, run⟩
  have range := run.range
  have addr := run.addr
  have bufLen : s32 (buffer.size : Int) = buffer.size :=
    s32_of_range (by omega) (by omega)
  have dmaLen : s32 (first.dmaLength : Int) = first.dmaLength :=
    s32_of_range (by omega) (by omega)
  have pgOft : pageOffset (buffer.address 0) =
      ⟨buffer.offset, buffer.inPage⟩ := Fin.ext buffer.first
  rw [prologue, scatter]
  simp only [size, bufLen, dmaLen, addr, pgOft]
  clear bufLen dmaLen pgOft
  have inPage : buffer.offset < 4096 := buffer.inPage
  rw [plan]
  simp only []
  split
  · rename_i creates
    have zero := aligned creates
    cases mask : cmd.bitMask.prp1List with
    | false => exact ⟨_, rfl, rfl⟩
    | true =>
        refine ⟨_, rfl, _, _, _, _, _, rfl, ?_⟩
        refine ⟨counts.2.2, ?_, zero, ?_, ⟨pages, addr ▸ run⟩,
          by simp [startCursor], Nat.zero_le _⟩
        · rw [Buffer.edge_zero, zero]
        · change (buffer.size : Int) = _
          rw [zero]
          simp
  · split
    · exact ⟨_, rfl, rfl⟩
    · have left : s32 ((buffer.size : Int) - ((pageSize : Int) -
          buffer.offset)) = buffer.size - (4096 - buffer.offset) := by
        simp only [pageSize]
        exact s32_of_range (by omega) (by omega)
      rw [left]
      clear left
      by_cases one : buffer.count ≤ 1
      · rw [if_pos one, if_pos (by omega)]
        exact ⟨_, rfl, rfl⟩
      · have more : 0 + 1 < buffer.count := by omega
        have inner := buffer.edge_inner (by decide : 0 < 1) (by omega)
        have bytes : buffer.bytes 0 = 4096 - buffer.offset := by
          rw [Buffer.bytes, Buffer.edge_zero]
          change buffer.edge 1 - buffer.offset = _
          rw [inner]
        have used : s32 ((first.dmaLength : Int) - ((pageSize : Int) -
            buffer.offset)) = first.dmaLength - buffer.bytes 0 := by
          rw [bytes]
          simp only [pageSize]
          rw [s32_of_range (by omega) (by omega)]
          omega
        have step : pageSize - buffer.offset = buffer.bytes 0 := bytes.symm
        rw [if_neg one, if_neg (by omega), used, step]
        rw [addr] at run
        -- the second page is in this entry or in the next one
        rcases run.advance more with
          goesOn | ⟨spent, entry, tail, number, rfl, second⟩
        · have positive := goesOn.range.1
          have left : (first.dmaLength : Int) - buffer.bytes 0 ≠ 0 := by
            omega
          simp only [ne_eq, left, not_false_eq_true, if_true]
          exact secondPage_follows cmd ccmd more inner goesOn
        · have entryRange := second.range
          have entryLen : s32 (entry.dmaLength : Int) = entry.dmaLength :=
            s32_of_range (by omega) (by omega)
          have left : (first.dmaLength : Int) - buffer.bytes 0 = 0 := by
            omega
          simp only [ne_eq, left, not_true_eq_false, if_false, entryLen]
          exact secondPage_follows cmd ccmd more inner second

/-- What a plan leads to when all list pages can be allocated. -/
def outcome (buffer : Buffer) (env : ListEnv) (poolPages : List Nat)
    (prps : NvmePrps) : Plan → SetupResult
  | .ends ret ccmd => ⟨ret, ccmd, prps, poolPages⟩
  | .list flag ccmd skipped =>
      let entries := buffer.count - skipped
      let prpDma := (allocListPages env (listPages entries)).getD []
      let written := writePages prpDma buffer.address entries skipped 0 0
        (fun _ _ => 0) 0
      ⟨0,
        match flag with
        | .prp1List => { ccmd with dptr := ⟨prpDma.getD 0 0, 0⟩ }
        | .prp2List =>
            { ccmd with dptr := ⟨ccmd.dptr.prp1, prpDma.getD 0 0⟩ },
        { prps with
          prpList := some (.prp written.1)
          nrPages := listPages entries
          pgAddr := prpDma
          nrEntry := written.2 },
        prpDma ++ poolPages⟩

/-- A list that starts as planned is built as planned. -/
theorem buildPrpList_standing {env : ListEnv} {poolPages : List Nat}
    {flag : PrpListFlag} {skipped : Nat} {bufLen dmaLen : Int}
    {pgOft : Fin pageSize} {dmaAddr : Nat}
    (allocated : ∀ n, ∃ prpDma, allocListPages env n = some prpDma)
    (standing : Standing buffer skipped skipped
      (startCursor bufLen pgOft dmaAddr dmaLen sg)) :
    buildPrpList env poolPages flag ccmd prps bufLen pgOft dmaAddr dmaLen
        sg =
      .ok (outcome buffer env poolPages prps (.list flag ccmd skipped)) := by
  have counts := buffer.count_range
  have below := standing.below
  have small := buffer.small
  have inPage : buffer.offset < 4096 := buffer.inPage
  have oft : pgOft.val = 0 := standing.pgOft
  have len : bufLen = (buffer.offset + buffer.size : Int) - skipped * 4096 :=
    standing.bufLen
  have number : divRoundUp ((pgOft.val + bufLen) % 2 ^ 32).toNat pageSize =
      buffer.count - skipped := by
    rw [oft, len]
    simp only [divRoundUp, pageSize]
    omega
  rcases allocated (listPages (buffer.count - skipped)) with
    ⟨prpDma, pages⟩
  rcases @fillPrpList_standing buffer skipped prpDma
    (buffer.count - skipped) skipped _ (by omega) standing with
    ⟨done, ends, result⟩
  have entries := congrArg Prod.fst result
  have written := congrArg Prod.snd result
  dsimp only at entries written
  rw [startCursor] at ends
  rw [buildPrpList]
  simp only [number]
  have asked := pages
  rw [listPages] at asked
  simp only [asked, ends, lt_self_iff_false, if_false, outcome, pages,
    Option.getD_some]
  rw [entries, written]
  cases flag <;> rfl

/-- The setup of a buffer depends on its pages alone. -/
theorem dnvmeSetupPrps_covers {env : ListEnv} {poolPages : List Nat}
    (allocated : ∀ n, ∃ prpDma, allocListPages env n = some prpDma)
    (covers : Covers buffer 0 sg) (scatter : prps.sg = some sg)
    (size : prps.dataBufSize = buffer.size)
    (aligned : createsQueue cmd ccmd = true → buffer.offset = 0) :
    dnvmeSetupPrps env poolPages cmd ccmd prps =
      .ok (outcome buffer env poolPages prps (plan buffer cmd ccmd)) := by
  rcases prologue_follows covers scatter size aligned with
    ⟨started, runs, follows⟩
  rw [dnvmeSetupPrps_eq, runs]
  cases planned : plan buffer cmd ccmd with
  | ends ret pointed =>
      rw [planned] at follows
      cases follows
      rfl
  | list flag pointed skipped =>
      rw [planned] at follows
      rcases follows with
        ⟨bufLen, pgOft, dmaAddr, dmaLen, rest, rfl, standing⟩
      exact buildPrpList_standing allocated standing

/-- The list loop of a setup stays inside the pages that were allocated. -/
theorem visited_page_lt (covers : Covers buffer 0 sg)
    (scatter : prps.sg = some sg) (size : prps.dataBufSize = buffer.size)
    (aligned : createsQueue cmd ccmd = true → buffer.offset = 0)
    (env : ListEnv) (poolPages : List Nat) {flag : PrpListFlag}
    {pointed : NvmeCommonCommand} {start cursor : PrpCursor}
    {prpDma : List Nat}
    (starts : prologue cmd ccmd prps = .ok (.list flag pointed start))
    (visited : Visited prpDma start cursor) :
    cursor.page <
      (outcome buffer env poolPages prps
        (plan buffer cmd ccmd)).prps.nrPages := by
  rcases prologue_follows covers scatter size aligned with
    ⟨started, runs, follows⟩
  rw [starts, Except.ok.injEq] at runs
  subst started
  cases planned : plan buffer cmd ccmd with
  | ends ret other =>
      rw [planned] at follows
      cases follows
  | list other ccmd skipped =>
      rw [planned] at follows
      rcases follows with
        ⟨bufLen, pgOft, dmaAddr, dmaLen, rest, same, standing⟩
      cases same
      have within := standing.below
      rcases visited.standing standing with ⟨reached, there⟩
      exact there.page_lt within.le

end Setup

/-- Two scatter lists lead to the same setup: the same return value, command,
list pages and counts.  Neither runs out of entries or meets an illegal
length, and both keep to the list pages that were allocated. -/
def SameSetup (env : ListEnv) (poolPages : List Nat) (cmd : Nvme64bCmd)
    (ccmd : NvmeCommonCommand) (prps : NvmePrps)
    (single merged : List ScatterEntry) : Prop :=
  ∃ result : SetupResult, result.ret ≠ -Errno.EFAULT ∧
    ∀ sg, sg = single ∨ sg = merged →
      dnvmeSetupPrps env poolPages cmd ccmd { prps with sg := some sg } =
          .ok { result with prps := { result.prps with sg := some sg } } ∧
        ∀ flag pointed start prpDma cursor,
          prologue cmd ccmd { prps with sg := some sg } =
              .ok (.list flag pointed start) →
            Visited prpDma start cursor →
            cursor.page < result.prps.nrPages

/-- PRP lists do not depend on how the pages of a buffer were merged. -/
theorem setup_ignores_merging {buffer : Buffer} {env : ListEnv}
    {cmd : Nvme64bCmd} {ccmd : NvmeCommonCommand} {prps : NvmePrps}
    {single merged : List ScatterEntry} (poolPages : List Nat)
    (allocated : ∀ n, ∃ prpDma, allocListPages env n = some prpDma)
    (each : OneEach buffer single) (covers : Covers buffer 0 merged)
    (size : prps.dataBufSize = buffer.size)
    (aligned : createsQueue cmd ccmd = true → buffer.offset = 0) :
    SameSetup env poolPages cmd ccmd prps single merged := by
  refine ⟨outcome buffer env poolPages prps (plan buffer cmd ccmd), ?_, ?_⟩
  · rw [plan]
    simp only []
    split_ifs <;> rw [outcome] <;> simp
  · intro sg which
    have covers : Covers buffer 0 sg := by
      rcases which with rfl | rfl
      · exact each.covers
      · exact covers
    constructor
    · rw [@dnvmeSetupPrps_covers buffer sg { prps with sg := some sg } cmd
        ccmd env poolPages allocated covers rfl size aligned]
      cases plan buffer cmd ccmd <;> rfl
    · intro flag pointed start prpDma cursor starts visited
      have below := @visited_page_lt buffer sg { prps with sg := some sg }
        cmd ccmd covers rfl size aligned env poolPages flag pointed start
        cursor prpDma starts visited
      have same : (outcome buffer env poolPages { prps with sg := some sg }
          (plan buffer cmd ccmd)).prps.nrPages =
            (outcome buffer env poolPages prps
              (plan buffer cmd ccmd)).prps.nrPages := by
        cases plan buffer cmd ccmd <;> rfl
      rwa [same] at below

/-- Four consecutive pages at `0x10000`; the buffer starts in the first
one. -/
def consecutivePages : Buffer where
  offset := 512
  size := 12000
  address k := 0x10000 + k * 4096 + if k = 0 then 512 else 0
  inPage := by decide
  positive := by decide
  small := by decide
  first := by decide

/-- The first two of four pages were merged. -/
theorem setup_ignores_merging_two_pages :
    SameSetup oddPages [] permissiveCmd readCommand
      { NvmePrps.zero .cmdPool with dataBufSize := 12000 }
      [⟨1, 512, 3584, 0x10200, 3584⟩, ⟨2, 0, 4096, 0x11000, 4096⟩,
        ⟨3, 0, 4096, 0x12000, 4096⟩, ⟨4, 0, 224, 0x13000, 224⟩]
      [⟨1, 512, 3584, 0x10200, 7680⟩, ⟨2, 0, 4096, 0x12000, 4096⟩,
        ⟨3, 0, 4096, 0x13000, 224⟩, ⟨4, 0, 224, 0, 0⟩] := by
  refine @setup_ignores_merging consecutivePages _ _ _ _ _ _ []
    oddPages_total ⟨by decide, ?_, ?_⟩ ?_ rfl (by decide)
  · intro k entry found
    have below : k < 4 := (List.getElem?_eq_some_iff.mp found).1
    interval_cases k <;> cases found <;> rfl
  · intro k entry found
    have below : k < 4 := (List.getElem?_eq_some_iff.mp found).1
    interval_cases k <;> cases found <;> rfl
  · refine .run 2 (by decide) rfl ?_ rfl
      (.run 1 (by decide) rfl (fun k less => by omega) rfl
        (.run 1 (by decide) rfl (fun k less => by omega) rfl
          (.done (by decide))))
    intro k less
    obtain rfl : k = 0 := by omega
    rfl

end Dnvme.Driver.PrpMerging
