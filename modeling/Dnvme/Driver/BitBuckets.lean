import Dnvme.Lib.MarkedSegments
import Dnvme.Driver.Sgl

/-!
# Bit buckets in a descriptor list

`dnvme_init_sgl_desc_list` walks the scatter list and the sorted bit buckets in
one pass of five branches.  This module shows that the entries it fills are
those of `insertMarks`, so that no byte is lost or repeated and every bucket
stands where its offset says.

`dnvme_count_sgl_desc_num` counts the entries on its own, bucket by bucket.
The last part says when the two agree.
-/

namespace Dnvme.Driver.BitBuckets

open Dnvme.Driver
open Dnvme.Lib.MarkedSegments

/-! ## Scatter lists as segments -/

/-- The bus addresses of a scatter entry. -/
def segment (sge : ScatterEntry) : Segment :=
  ⟨sge.dmaAddress, sge.dmaLength⟩

/-- The entry that stands for a piece. -/
def entryOf : Piece NvmeSglBitBucket → SglDescEntry
  | .data segment => ⟨segment.addr, segment.length⟩
  | .mark bucket => ⟨0, bucket.length⟩

/-- How `dnvme_cmd_setup_sgl` reads an entry. -/
def pieceOf (entry : SglDescEntry) : Piece Nat :=
  if entry.addr ≠ 0 then .data ⟨entry.addr, entry.length⟩
  else .mark entry.length

/-- The buckets come in the order of their offsets. -/
def Sorted (buckets : List NvmeSglBitBucket) : Prop :=
  buckets.Pairwise fun a b => a.offset ≤ b.offset

/-- The entries that belong to the segments and the buckets. -/
def expected (reached : Nat) (segments : List Segment)
    (buckets : List NvmeSglBitBucket) : List SglDescEntry :=
  (insertMarks NvmeSglBitBucket.offset reached segments buckets).map entryOf

/-- What is left of a segment of which `used` bytes were taken. -/
def remainder (addr length used : Nat) : List Segment :=
  if used < length then [⟨addr + used, length - used⟩] else []

theorem remainder_of_lt {addr length used : Nat} (left : used < length) :
    remainder addr length used = [⟨addr + used, length - used⟩] :=
  if_pos left

theorem remainder_all (addr length : Nat) : remainder addr length length = [] :=
  if_neg (lt_irrefl length)

theorem expected_due {reached : Nat} {segments : List Segment}
    {bucket : NvmeSglBitBucket} {rest : List NvmeSglBitBucket}
    (due : bucket.offset ≤ reached) :
    expected reached segments (bucket :: rest) =
      ⟨0, bucket.length⟩ :: expected reached segments rest := by
  have first := insertMarks_due segments [bucket] rest
    (fun mark member => (List.mem_singleton.mp member).symm ▸ due)
  rw [List.singleton_append] at first
  rw [expected, first]
  rfl

/-- A bucket that cuts the next segment. -/
theorem expected_cut {reached addr length : Nat} {segments : List Segment}
    {bucket : NvmeSglBitBucket} {rest : List NvmeSglBitBucket}
    (ahead : reached < bucket.offset)
    (cut : bucket.offset < reached + length) :
    expected reached (⟨addr, length⟩ :: segments) (bucket :: rest) =
      ⟨addr, bucket.offset - reached⟩ :: ⟨0, bucket.length⟩ ::
        expected bucket.offset
          (⟨addr + (bucket.offset - reached),
            length - (bucket.offset - reached)⟩ :: segments) rest := by
  rw [expected, insertMarks, if_neg (not_le.mpr ahead), if_pos cut]
  rfl

/-- Nothing more falls into the next segment. -/
theorem expected_pass {reached addr length : Nat} {segments : List Segment}
    {buckets : List NvmeSglBitBucket} (positive : 0 < length)
    (beyond : ∀ bucket, bucket ∈ buckets →
      reached + length ≤ bucket.offset) :
    expected reached (⟨addr, length⟩ :: segments) buckets =
      ⟨addr, length⟩ :: expected (reached + length) segments buckets := by
  cases buckets with
  | nil =>
      rw [expected, insertMarks]
      rfl
  | cons bucket rest =>
      have far := beyond bucket List.mem_cons_self
      rw [expected, insertMarks, if_neg (by omega), if_neg (not_lt.mpr far)]
      rfl

/-! ## One scatter entry -/

theorem subU32_of_le {a b : Nat} (le : b ≤ a) (small : a < 2 ^ 32) :
    subU32 a b = a - b := by
  unfold subU32 u32
  omega

theorem u32_of_lt {a : Nat} (small : a < 2 ^ 32) : u32 a = a :=
  Nat.mod_eq_of_lt small

/-- The loop over the buckets and the test behind it. -/
def fillEntry (addr length offset : Nat) (entries : List SglDescEntry)
    (lastBitOffset sgOft : Nat) (buckets : List NvmeSglBitBucket) :
    DescFill :=
  let inner := fillBuckets addr length offset entries lastBitOffset sgOft
    buckets
  if inner.buckets = [] then inner.data addr length else inner

/-- A state between two turns of the loop: `sgOft` bytes of the entry are
used, and `last` says whether a bucket stands right there. -/
structure Between (offset length sgOft last : Nat)
    (buckets : List NvmeSglBitBucket) : Prop where
  used : sgOft ≤ length
  sorted : Sorted buckets
  last_le : last ≤ offset + sgOft
  ahead : ∀ bucket, bucket ∈ buckets → offset + sgOft ≤ bucket.offset
  touching : ∀ bucket, bucket ∈ buckets → bucket.offset = offset + sgOft →
    last = bucket.offset

/-- What one scatter entry leaves: the rest of the buckets lies behind it. -/
structure Passed (reached : Nat) (buckets : List NvmeSglBitBucket)
    (fill : DescFill) : Prop where
  suffix : fill.buckets <:+ buckets
  beyond : ∀ bucket, bucket ∈ fill.buckets → reached < bucket.offset
  last_le : fill.lastBitOffset ≤ reached

theorem data_buckets (fill : DescFill) (addr length : Nat) :
    (fill.data addr length).buckets = fill.buckets := by
  simp only [DescFill.data]
  split <;> rfl

theorem data_lastBitOffset (fill : DescFill) (addr length : Nat) :
    (fill.data addr length).lastBitOffset = fill.lastBitOffset := by
  simp only [DescFill.data]
  split <;> rfl

/-- The data that is left of a scatter entry. -/
theorem data_eq {addr length sgOft reached : Nat} {fill : DescFill}
    {segments : List Segment} (used : fill.sgOft ≤ length)
    (small : length < 2 ^ 32) (start : reached + fill.sgOft = sgOft)
    (beyond : ∀ bucket, bucket ∈ fill.buckets →
      reached + length ≤ bucket.offset) :
    (fill.data addr length).entries ++
        expected (reached + length) segments fill.buckets =
      fill.entries ++
        expected sgOft (remainder addr length fill.sgOft ++ segments)
          fill.buckets := by
  have left := subU32_of_le used small
  simp only [DescFill.data, left]
  by_cases more : 0 < length - fill.sgOft
  · have finish : sgOft + (length - fill.sgOft) = reached + length := by
      omega
    rw [if_pos more, remainder_of_lt (by omega), List.singleton_append,
      expected_pass more (fun bucket member => by
        have := beyond bucket member
        omega), finish, List.append_assoc, List.singleton_append]
  · have all : fill.sgOft = length := by omega
    rw [if_neg more, ← start, all, remainder_all, List.nil_append]

/-- A bucket inside the scatter entry or at its end. -/
theorem fillEntry_take {addr length offset last sgOft : Nat}
    {bucket : NvmeSglBitBucket} {rest : List NvmeSglBitBucket}
    (entries : List SglDescEntry) (small : offset + length < 2 ^ 32)
    (used : sgOft ≤ length) (reached : offset + sgOft ≤ bucket.offset)
    (within : bucket.offset ≤ offset + length) :
    fillEntry addr length offset entries last sgOft (bucket :: rest) =
      if last ≠ bucket.offset then
        fillEntry addr length offset
          (entries ++ [⟨addr + sgOft, bucket.offset - (offset + sgOft)⟩,
            ⟨0, bucket.length⟩])
          bucket.offset (bucket.offset - offset) rest
      else
        fillEntry addr length offset (entries ++ [⟨0, bucket.length⟩])
          bucket.offset sgOft rest := by
  have word : u32 (offset + length) = offset + length := u32_of_lt small
  have start : u32 (offset + sgOft) = offset + sgOft := u32_of_lt (by omega)
  have move : u32 (sgOft + (bucket.offset - (offset + sgOft))) =
      bucket.offset - offset := by
    rw [u32_of_lt (by omega)]
    omega
  by_cases before : bucket.offset < offset + length
  · have taken : subU32 bucket.offset (offset + sgOft) =
        bucket.offset - (offset + sgOft) :=
      subU32_of_le reached (by omega)
    rw [fillEntry, fillEntry, fillEntry, fillBuckets]
    dsimp only
    rw [word, if_pos before, start, taken, DescFill.bucket]
    dsimp only
    split
    · rw [move]
    · rfl
  · have border : bucket.offset = offset + length := by omega
    have taken : subU32 length sgOft = bucket.offset - (offset + sgOft) := by
      rw [subU32_of_le used (by omega)]
      omega
    rw [fillEntry, fillEntry, fillEntry, fillBuckets]
    dsimp only
    rw [word, if_neg before, if_pos border, taken, DescFill.bucket]
    dsimp only
    split
    · rw [move]
    · rfl

/-- What a bucket inside a scatter entry or at its end should add. -/
theorem expected_take {addr length offset sgOft : Nat}
    {bucket : NvmeSglBitBucket} {rest : List NvmeSglBitBucket}
    {segments : List Segment} (sorted : Sorted (bucket :: rest))
    (ahead : offset + sgOft < bucket.offset)
    (within : bucket.offset ≤ offset + length) :
    expected (offset + sgOft) (remainder addr length sgOft ++ segments)
        (bucket :: rest) =
      ⟨addr + sgOft, bucket.offset - (offset + sgOft)⟩ ::
        ⟨0, bucket.length⟩ ::
          expected bucket.offset
            (remainder addr length (bucket.offset - offset) ++ segments)
            rest := by
  have left : sgOft < length := by omega
  rw [remainder_of_lt left, List.singleton_append]
  by_cases before : bucket.offset < offset + length
  · have used : sgOft + (bucket.offset - (offset + sgOft)) =
        bucket.offset - offset := by omega
    have rest_eq : length - sgOft - (bucket.offset - (offset + sgOft)) =
        length - (bucket.offset - offset) := by omega
    rw [expected_cut ahead (by omega), Nat.add_assoc addr, used, rest_eq,
      remainder_of_lt (by omega), List.singleton_append]
  · have border : bucket.offset = offset + length := by omega
    have finish : offset + sgOft + (length - sgOft) = bucket.offset := by
      omega
    have size : bucket.offset - (offset + sgOft) = length - sgOft := by omega
    have whole : bucket.offset - offset = length := by omega
    rw [expected_pass (by omega), finish, expected_due (le_refl _), size,
      whole, remainder_all, List.nil_append]
    intro other member
    rcases List.mem_cons.mp member with rfl | member
    · exact le_of_eq finish
    · exact finish ▸ (List.pairwise_cons.mp sorted).1 other member

/-- All buckets lie behind the scatter entry. -/
theorem fillEntry_stop {addr length offset last sgOft : Nat}
    (entries : List SglDescEntry) (small : offset + length < 2 ^ 32)
    {buckets : List NvmeSglBitBucket}
    (beyond : ∀ bucket, bucket ∈ buckets → offset + length < bucket.offset) :
    fillEntry addr length offset entries last sgOft buckets =
      DescFill.data ⟨entries, buckets, last, sgOft⟩ addr length := by
  cases buckets with
  | nil => rw [fillEntry, fillBuckets, if_pos (Eq.refl [])]
  | cons bucket rest =>
      have ahead := beyond bucket List.mem_cons_self
      rw [fillEntry, fillBuckets]
      dsimp only
      rw [u32_of_lt small, if_neg ahead.not_gt, if_neg ahead.ne',
        data_buckets, if_neg (List.cons_ne_nil _ _)]

/-- The loop appends what belongs to the rest of the scatter entry and stops
at the first bucket behind it. -/
theorem fillEntry_spec {addr length offset : Nat} (segments : List Segment)
    (small : offset + length < 2 ^ 32) (buckets : List NvmeSglBitBucket) :
    ∀ (entries : List SglDescEntry) (last sgOft : Nat),
      Between offset length sgOft last buckets →
      Passed (offset + length) buckets
          (fillEntry addr length offset entries last sgOft buckets) ∧
        (fillEntry addr length offset entries last sgOft buckets).entries ++
            expected (offset + length) segments
              (fillEntry addr length offset entries last sgOft
                buckets).buckets =
          entries ++ expected (offset + sgOft)
            (remainder addr length sgOft ++ segments) buckets := by
  -- behind the entry nothing is left to do but its last data
  have stop : ∀ (buckets : List NvmeSglBitBucket)
      (entries : List SglDescEntry) (last sgOft : Nat),
      Between offset length sgOft last buckets →
      (∀ bucket, bucket ∈ buckets → offset + length < bucket.offset) →
      Passed (offset + length) buckets
          (fillEntry addr length offset entries last sgOft buckets) ∧
        (fillEntry addr length offset entries last sgOft buckets).entries ++
            expected (offset + length) segments
              (fillEntry addr length offset entries last sgOft
                buckets).buckets =
          entries ++ expected (offset + sgOft)
            (remainder addr length sgOft ++ segments) buckets := by
    intro buckets entries last sgOft between beyond
    have used := between.used
    have last_le := between.last_le
    rw [fillEntry_stop entries small beyond, data_buckets]
    refine ⟨⟨?_, ?_, ?_⟩, ?_⟩
    · rw [data_buckets]
    · rw [data_buckets]
      exact beyond
    · rw [data_lastBitOffset]
      exact last_le.trans (Nat.add_le_add_left used _)
    · exact data_eq used (by omega) rfl
        fun bucket member => (beyond bucket member).le
  induction buckets with
  | nil =>
      intro entries last sgOft between
      exact stop [] entries last sgOft between
        fun bucket member => nomatch member
  | cons bucket rest ih =>
      intro entries last sgOft between
      have used := between.used
      have last_le := between.last_le
      have reached := between.ahead bucket List.mem_cons_self
      have touching := between.touching bucket List.mem_cons_self
      rcases List.pairwise_cons.mp between.sorted with ⟨later, sorted⟩
      by_cases within : bucket.offset ≤ offset + length
      · rw [fillEntry_take entries small used reached within]
        by_cases same : last = bucket.offset
        · -- another bucket at the same place
          have here : bucket.offset = offset + sgOft := by omega
          have next : Between offset length sgOft bucket.offset rest :=
            ⟨used, sorted, here.le,
              fun other member => here ▸ later other member,
              fun other _ there => here.trans there.symm⟩
          rcases ih (entries ++ [⟨0, bucket.length⟩]) _ _ next with
            ⟨passed, result⟩
          rw [if_neg (not_not.mpr same)]
          refine ⟨{ passed with
            suffix := passed.suffix.trans (List.suffix_cons _ _) }, ?_⟩
          rw [result, expected_due here.le, List.append_assoc,
            List.singleton_append]
        · have ahead : offset + sgOft < bucket.offset :=
            lt_of_le_of_ne reached fun there => same (touching there.symm)
          have here : offset + (bucket.offset - offset) = bucket.offset := by
            omega
          have next : Between offset length (bucket.offset - offset)
              bucket.offset rest :=
            ⟨by omega, sorted, here.ge,
              fun other member => here.symm ▸ later other member,
              fun other _ there => here.symm.trans there.symm⟩
          rcases ih (entries ++
            [⟨addr + sgOft, bucket.offset - (offset + sgOft)⟩,
              ⟨0, bucket.length⟩]) _ _ next with ⟨passed, result⟩
          rw [if_pos same]
          refine ⟨{ passed with
            suffix := passed.suffix.trans (List.suffix_cons _ _) }, ?_⟩
          rw [result, here, expected_take between.sorted ahead within,
            List.append_assoc, List.cons_append, List.singleton_append]
      · refine stop (bucket :: rest) entries last sgOft between ?_
        intro other member
        rcases List.mem_cons.mp member with rfl | member
        · exact not_le.mp within
        · exact lt_of_lt_of_le (not_le.mp within) (later other member)

/-! ## The whole scatter list -/

/-- The number of bytes of a scatter list. -/
def scatterTotal (sg : List ScatterEntry) : Nat :=
  total (sg.map segment)

theorem scatterTotal_cons (sge : ScatterEntry) (rest : List ScatterEntry) :
    scatterTotal (sge :: rest) = sge.dmaLength + scatterTotal rest := by
  rw [scatterTotal, List.map_cons, total_cons]
  rfl

/-- A state between two scatter entries. -/
structure Ready (offset : Nat) (fill : DescFill) : Prop where
  sorted : Sorted fill.buckets
  ahead : ∀ bucket, bucket ∈ fill.buckets → offset < bucket.offset
  last_le : fill.lastBitOffset ≤ offset

theorem Ready.between {offset length : Nat} {fill : DescFill}
    (ready : Ready offset fill) :
    Between offset length 0 fill.lastBitOffset fill.buckets where
  used := Nat.zero_le _
  sorted := ready.sorted
  last_le := ready.last_le
  ahead bucket member := (ready.ahead bucket member).le
  touching bucket member there :=
    absurd there (ready.ahead bucket member).ne'

theorem Passed.ready {reached : Nat} {buckets : List NvmeSglBitBucket}
    {fill : DescFill} (passed : Passed reached buckets fill)
    (sorted : Sorted buckets) : Ready reached fill :=
  ⟨sorted.sublist passed.suffix.sublist, passed.beyond, passed.last_le⟩

/-- The loop over the scatter list fills what belongs to it. -/
theorem fillScatter_spec (sg : List ScatterEntry) :
    ∀ (offset : Nat) (fill : DescFill), offset + scatterTotal sg < 2 ^ 32 →
      (∀ sge, sge ∈ sg → 0 < sge.dmaLength) → Ready offset fill →
      Ready (offset + scatterTotal sg) (fillScatter offset fill sg) ∧
        (fillScatter offset fill sg).entries ++
            (fillScatter offset fill sg).buckets.map
              (fun bucket => ⟨0, bucket.length⟩) =
          fill.entries ++ expected offset (sg.map segment) fill.buckets := by
  induction sg with
  | nil =>
      intro offset fill _ _ ready
      refine ⟨ready, ?_⟩
      rw [List.map_nil, expected, insertMarks, List.map_map]
      rfl
  | cons sge rest ih =>
      intro offset fill small positive ready
      rw [scatterTotal_cons] at small
      have word : u32 (offset + sge.dmaLength) = offset + sge.dmaLength :=
        u32_of_lt (by omega)
      rcases fillEntry_spec (rest.map segment) (by omega) fill.buckets
        fill.entries _ 0 (@Ready.between offset sge.dmaLength fill ready) with
        ⟨passed, result⟩
      have step : fillScatter offset fill (sge :: rest) =
          fillScatter (offset + sge.dmaLength)
            (fillEntry sge.dmaAddress sge.dmaLength offset fill.entries
              fill.lastBitOffset 0 fill.buckets) rest := by
        rw [fillScatter, word]
        rfl
      rcases ih (offset + sge.dmaLength) _ (by omega)
        (fun other member => positive other (List.mem_cons_of_mem _ member))
        (passed.ready ready.sorted) with ⟨final, filled⟩
      rw [step, scatterTotal_cons, ← Nat.add_assoc]
      refine ⟨final, ?_⟩
      rw [filled, result, remainder_of_lt
        (positive sge List.mem_cons_self)]
      rfl

theorem fillScatter_append (sg tail : List ScatterEntry) :
    ∀ (offset : Nat) (fill : DescFill), offset + scatterTotal sg < 2 ^ 32 →
      fillScatter offset fill (sg ++ tail) =
        fillScatter (offset + scatterTotal sg) (fillScatter offset fill sg)
          tail := by
  induction sg with
  | nil =>
      intro offset fill _
      rfl
  | cons sge rest ih =>
      intro offset fill small
      rw [scatterTotal_cons] at small
      have word : u32 (offset + sge.dmaLength) = offset + sge.dmaLength :=
        u32_of_lt (by omega)
      rw [List.cons_append, fillScatter, fillScatter, word,
        ih _ _ (by omega), scatterTotal_cons, Nat.add_assoc]

/-- Unused scatter entries add nothing. -/
theorem fillScatter_unused (sg : List ScatterEntry) :
    ∀ (offset : Nat) (fill : DescFill), offset < 2 ^ 32 →
      (∀ sge, sge ∈ sg → sge.dmaLength = 0) → Ready offset fill →
      (fillScatter offset fill sg).entries = fill.entries ∧
        (fillScatter offset fill sg).buckets = fill.buckets := by
  induction sg with
  | nil =>
      intro offset fill _ _ _
      exact ⟨rfl, rfl⟩
  | cons sge rest ih =>
      intro offset fill small unused ready
      have empty : sge.dmaLength = 0 := unused sge List.mem_cons_self
      have word : u32 (offset + 0) = offset := u32_of_lt small
      have kept : fillEntry sge.dmaAddress 0 offset fill.entries
          fill.lastBitOffset 0 fill.buckets = { fill with sgOft := 0 } := by
        have nothing : subU32 0 0 = 0 := subU32_of_le (le_refl 0) (by decide)
        rw [fillEntry_stop _ (by omega) ready.ahead, DescFill.data, nothing,
          if_neg (lt_irrefl 0)]
      have step : fillScatter offset fill (sge :: rest) =
          fillScatter offset { fill with sgOft := 0 } rest := by
        rw [fillScatter, empty, word, ← kept]
        rfl
      rw [step]
      exact ih offset { fill with sgOft := 0 } small
        (fun other member => unused other (List.mem_cons_of_mem _ member))
        ⟨ready.sorted, ready.ahead, ready.last_le⟩

/-- The entries that are filled, whatever follows the used part of the scatter
list. -/
theorem filledDescs_eq {sg unused : List ScatterEntry}
    {buckets : List NvmeSglBitBucket} (small : scatterTotal sg < 2 ^ 32)
    (positive : ∀ sge, sge ∈ sg → 0 < sge.dmaLength)
    (empty : ∀ sge, sge ∈ unused → sge.dmaLength = 0)
    (sorted : Sorted buckets) :
    filledDescs (sg ++ unused) buckets =
      expected 0 (sg.map segment) buckets := by
  set before := buckets.takeWhile fun bucket => bucket.offset ≤ 0
    with before_eq
  set after := buckets.dropWhile fun bucket => bucket.offset ≤ 0
    with after_eq
  have whole : before ++ after = buckets := List.takeWhile_append_dropWhile
  have sorted_after : Sorted after :=
    sorted.sublist (List.dropWhile_sublist _)
  have ready : Ready 0
      ⟨before.map fun bucket => ⟨0, bucket.length⟩, after, 0, 0⟩ := by
    refine ⟨sorted_after, ?_, le_refl _⟩
    intro bucket member
    change bucket ∈ after at member
    cases first : after with
    | nil =>
        rw [first] at member
        cases member
    | cons least others =>
        have ahead : ¬ least.offset ≤ 0 := by
          have stops := List.head?_dropWhile_not
            (fun bucket : NvmeSglBitBucket => decide (bucket.offset ≤ 0))
            buckets
          rw [← after_eq, first] at stops
          simpa using stops
        rw [first] at member sorted_after
        rcases List.mem_cons.mp member with rfl | member
        · omega
        · have := (List.pairwise_cons.mp sorted_after).1 bucket member
          omega
  rcases fillScatter_spec sg 0 _ (by omega) positive ready with
    ⟨final, filled⟩
  have rest := fillScatter_unused unused _ _ (by omega) empty final
  have due : expected 0 (sg.map segment) buckets =
      before.map (fun bucket => ⟨0, bucket.length⟩) ++
        expected 0 (sg.map segment) after := by
    conv_lhs => rw [← whole]
    rw [expected, insertMarks_due, List.map_append, List.map_map]
    · rfl
    · intro bucket member
      have := List.mem_takeWhile_imp member
      simpa using this
  rw [filledDescs, fillScatter_append sg unused 0 _ (by omega), rest.1, rest.2,
    filled, due]

/-! ## The count -/

section Count

variable {bucket : NvmeSglBitBucket}

theorem bucketAtBorder_ge (sg : List ScatterEntry) :
    ∀ offset, offset + scatterTotal sg < 2 ^ 32 →
      bucketAtBorder bucket offset sg = true → offset ≤ bucket.offset := by
  induction sg with
  | nil =>
      intro offset _ border
      cases border
  | cons sge rest ih =>
      intro offset small border
      rw [scatterTotal_cons] at small
      rw [bucketAtBorder, u32_of_lt (by omega), Bool.or_eq_true,
        Bool.or_eq_true, decide_eq_true_eq, decide_eq_true_eq] at border
      rcases border with (first | last) | later
      · omega
      · omega
      · have := ih (offset + sge.dmaLength) (by omega) later
        omega

/-- A bucket that is at no border cuts an entry or lies behind all data. -/
theorem bucketAtBorder_eq_false_iff (sg : List ScatterEntry) :
    ∀ offset, offset + scatterTotal sg < 2 ^ 32 → offset < bucket.offset →
      (bucketAtBorder bucket offset sg = false ↔
        inside offset (sg.map segment) bucket.offset = true ∨
          offset + scatterTotal sg < bucket.offset) := by
  induction sg with
  | nil =>
      intro offset _ after
      simp [bucketAtBorder, inside, scatterTotal, after]
  | cons sge rest ih =>
      intro offset small after
      rw [scatterTotal_cons] at small ⊢
      have next : offset + sge.dmaLength + scatterTotal rest < 2 ^ 32 := by
        omega
      have here : decide (bucket.offset = offset) = false :=
        decide_eq_false after.ne'
      rw [bucketAtBorder, u32_of_lt (by omega), here, Bool.false_or,
        Bool.or_eq_false_iff, decide_eq_false_iff_not, List.map_cons]
      rcases Nat.lt_trichotomy bucket.offset (offset + sge.dmaLength) with
        before | border | behind
      · have cuts : inside offset (segment sge :: rest.map segment)
            bucket.offset = true := by
          simp [inside, segment, after, before]
        have none_ : bucketAtBorder bucket (offset + sge.dmaLength) rest =
            false := by
          by_contra found
          have := bucketAtBorder_ge rest _ next (Bool.not_eq_false _ ▸ found)
          omega
        exact iff_of_true ⟨before.ne, none_⟩ (.inl cuts)
      · have outside : inside offset (segment sge :: rest.map segment)
            bucket.offset = false := by
          rw [inside_cons_of_le border.ge]
          by_contra found
          have := inside_gt (Bool.not_eq_false _ ▸ found)
          change offset + sge.dmaLength < _ at this
          omega
        rw [outside]
        refine iff_of_false (fun apart => apart.1 border) ?_
        rintro (found | far)
        · cases found
        · omega
      · have rest_iff := ih (offset + sge.dmaLength) next behind
        rw [inside_cons_of_le behind.le, ← Nat.add_assoc]
        exact (and_iff_right behind.ne').trans rest_iff

theorem bucketAtBorder_false_iff {sg : List ScatterEntry} (some_ : sg ≠ [])
    (small : scatterTotal sg < 2 ^ 32) :
    bucketAtBorder bucket 0 sg = false ↔
      inside 0 (sg.map segment) bucket.offset = true ∨
        scatterTotal sg < bucket.offset := by
  rcases Nat.eq_zero_or_pos bucket.offset with zero | positive
  · obtain ⟨sge, rest, rfl⟩ := List.exists_cons_of_ne_nil some_
    refine iff_of_false ?_ ?_
    · simp [bucketAtBorder, zero]
    · rintro (found | far)
      · have := inside_gt found
        omega
      · omega
  · have general := bucketAtBorder_eq_false_iff sg 0 (by omega) positive
    rwa [Nat.zero_add] at general

end Count

/-- A scatter list as DMA mapping leaves it, with its unused entries apart:
they follow the others when pages were merged. -/
structure Mapped (sg unused : List ScatterEntry) : Prop where
  some_ : sg ≠ []
  positive : ∀ sge, sge ∈ sg → 0 < sge.dmaLength
  empty : ∀ sge, sge ∈ unused → sge.dmaLength = 0
  small : scatterTotal sg < 2 ^ 32

section Totals

variable {sg unused : List ScatterEntry} {buckets : List NvmeSglBitBucket}

theorem scatterTotal_append (sg unused : List ScatterEntry) :
    scatterTotal (sg ++ unused) = scatterTotal sg + scatterTotal unused := by
  simp [scatterTotal, total]

theorem scatterTotal_unused
    (empty : ∀ sge, sge ∈ unused → sge.dmaLength = 0) :
    scatterTotal unused = 0 := by
  induction unused with
  | nil => rfl
  | cons sge rest ih =>
      rw [scatterTotal_cons, empty sge List.mem_cons_self,
        ih fun other member => empty other (List.mem_cons_of_mem _ member)]

theorem inside_unused (empty : ∀ sge, sge ∈ unused → sge.dmaLength = 0)
    (place : Nat) :
    ∀ reached, inside reached (unused.map segment) place = false := by
  induction unused with
  | nil =>
      intro reached
      rfl
  | cons sge rest ih =>
      intro reached
      have zero : (segment sge).length = 0 := empty sge List.mem_cons_self
      have outside : ¬ (reached < place ∧ place < reached + 0) := by omega
      rw [List.map_cons, inside, zero,
        ih fun other member => empty other (List.mem_cons_of_mem _ member),
        Bool.or_false, ← Bool.decide_and]
      exact decide_eq_false outside

theorem inside_append (empty : ∀ sge, sge ∈ unused → sge.dmaLength = 0)
    (place : Nat) (sg : List ScatterEntry) :
    ∀ reached, inside reached ((sg ++ unused).map segment) place =
      inside reached (sg.map segment) place := by
  induction sg with
  | nil =>
      intro reached
      rw [List.nil_append, inside_unused empty]
      rfl
  | cons sge rest ih =>
      intro reached
      rw [List.cons_append, List.map_cons, List.map_cons, inside, inside, ih]

/-- A bucket that the count gives two descriptors. -/
theorem Mapped.border_iff (mapped : Mapped sg unused)
    (bucket : NvmeSglBitBucket) :
    bucketAtBorder bucket 0 (sg ++ unused) = false ↔
      inside 0 (sg.map segment) bucket.offset = true ∨
        scatterTotal sg < bucket.offset := by
  have same : scatterTotal (sg ++ unused) = scatterTotal sg := by
    rw [scatterTotal_append, scatterTotal_unused mapped.empty, Nat.add_zero]
  have general := @bucketAtBorder_false_iff bucket (sg ++ unused)
    (List.append_ne_nil_of_left_ne_nil mapped.some_ _)
    (same ▸ mapped.small)
  rwa [same, inside_append mapped.empty] at general

/-- The count as one descriptor per entry and per bucket, and one more for
each bucket that is at no border. -/
theorem dnvmeCountSglDescNum_eq (sg : List ScatterEntry)
    (buckets : List NvmeSglBitBucket) :
    dnvmeCountSglDescNum sg buckets = sg.length + buckets.length +
      buckets.countP fun bucket => !bucketAtBorder bucket 0 sg := by
  have sum : (buckets.map fun bucket =>
      if bucketAtBorder bucket 0 sg then 1 else 2).sum = buckets.length +
        buckets.countP fun bucket => !bucketAtBorder bucket 0 sg := by
    induction buckets with
    | nil => rfl
    | cons bucket rest ih =>
        rw [List.map_cons, List.sum_cons, ih, List.countP_cons,
          List.length_cons]
        cases bucketAtBorder bucket 0 sg <;> simp <;> omega
  rw [dnvmeCountSglDescNum, sum]
  omega

/-- The number of entries that are filled. -/
theorem Mapped.length_filledDescs (mapped : Mapped sg unused)
    (sorted : Sorted buckets) :
    (filledDescs (sg ++ unused) buckets).length =
      sg.length + buckets.length +
        (cuts NvmeSglBitBucket.offset 0 (sg.map segment) buckets).card := by
  rw [filledDescs_eq mapped.small mapped.positive mapped.empty sorted,
    expected, List.length_map, length_insertMarks _ _ _ sorted,
    List.length_map]

/-- The buckets that cut an entry, with repetition. -/
theorem card_cuts_le (segments : List Segment)
    (buckets : List NvmeSglBitBucket) :
    (cuts NvmeSglBitBucket.offset 0 segments buckets).card ≤
      buckets.countP fun bucket => inside 0 segments bucket.offset := by
  rw [cuts, List.countP_eq_length_filter]
  refine (List.toFinset_card_le _).trans (le_of_eq ?_)
  rw [List.filter_map, List.length_map]
  rfl

/-- No two buckets cut a segment at the same place. -/
def Apart (segments : List Segment) (buckets : List NvmeSglBitBucket) :
    Prop :=
  buckets.Pairwise fun a b =>
    a.offset = b.offset → inside 0 segments a.offset = false

instance (segments : List Segment) (buckets : List NvmeSglBitBucket) :
    Decidable (Apart segments buckets) :=
  inferInstanceAs (Decidable (List.Pairwise _ _))

theorem Apart.perm {segments : List Segment}
    {buckets others : List NvmeSglBitBucket} (same : buckets.Perm others) :
    Apart segments buckets ↔ Apart segments others := by
  refine same.pairwise_iff ?_
  intro a b apart equal
  rw [equal]
  exact apart equal.symm

theorem card_cuts_eq_iff (segments : List Segment)
    (buckets : List NvmeSglBitBucket) :
    (cuts NvmeSglBitBucket.offset 0 segments buckets).card =
        (buckets.countP fun bucket => inside 0 segments bucket.offset) ↔
      Apart segments buckets := by
  have nodup : ((buckets.map NvmeSglBitBucket.offset).filter
      (inside 0 segments)).Nodup ↔ Apart segments buckets := by
    rw [List.Nodup, List.pairwise_filter, List.pairwise_map]
    constructor <;> intro pairs <;> refine pairs.imp ?_
    · intro a b different equal
      by_contra cutting
      rw [Bool.not_eq_false] at cutting
      exact different cutting (equal ▸ cutting) equal
    · intro a b apart cutting _ equal
      rw [apart equal] at cutting
      cases cutting
  have count : (buckets.countP fun bucket => inside 0 segments bucket.offset) =
      ((buckets.map NvmeSglBitBucket.offset).filter
        (inside 0 segments)).length := by
    rw [List.countP_eq_length_filter, List.filter_map, List.length_map]
    rfl
  rw [count, ← nodup, cuts]
  exact Multiset.toFinset_card_eq_card_iff_nodup

/-- The count splits by what the buckets do. -/
theorem Mapped.countP_border (mapped : Mapped sg unused)
    (buckets : List NvmeSglBitBucket) :
    (buckets.countP fun bucket =>
        !bucketAtBorder bucket 0 (sg ++ unused)) =
      (buckets.countP fun bucket =>
        inside 0 (sg.map segment) bucket.offset) +
      buckets.countP fun bucket => scatterTotal sg < bucket.offset := by
  induction buckets with
  | nil => rfl
  | cons bucket rest ih =>
      have border := mapped.border_iff bucket
      have single : (if (!bucketAtBorder bucket 0 (sg ++ unused)) = true
          then 1 else 0) =
          (if inside 0 (sg.map segment) bucket.offset = true
            then 1 else 0) +
          (if decide (scatterTotal sg < bucket.offset) = true
            then 1 else 0) := by
        simp only [Bool.not_eq_true', border, decide_eq_true_eq]
        by_cases cutting : inside 0 (sg.map segment) bucket.offset = true
        · have near := inside_lt cutting
          rw [Nat.zero_add] at near
          change bucket.offset < scatterTotal sg at near
          rw [if_pos (.inl cutting), if_pos cutting, if_neg near.not_gt]
        · by_cases far : scatterTotal sg < bucket.offset
          · rw [if_pos (.inr far), if_neg cutting, if_pos far]
          · rw [if_neg (not_or.mpr ⟨cutting, far⟩), if_neg cutting,
              if_neg far]
      rw [List.countP_cons, List.countP_cons, List.countP_cons, ih, single]
      omega

end Totals

/-! ## Insertion is exact -/

/-- The descriptor list is the scatter list with the buckets inserted, and
fits the count. -/
structure InsertedExactly (sg : List ScatterEntry)
    (buckets : List NvmeSglBitBucket) (descs : List SglDescEntry) :
    Prop where
  fits : descs.length ≤ dnvmeCountSglDescNum sg buckets
  bytes : (descs.map pieceOf).flatMap Piece.bytes =
    (sg.map segment).flatMap Segment.bytes
  no_empty : ∀ piece, .data piece ∈ descs.map pieceOf → 0 < piece.length
  placed : placed 0 (descs.map pieceOf) = buckets.map fun bucket =>
    (min bucket.offset (scatterTotal sg), bucket.length)

/-- Reading the filled entries gives the pieces back. -/
theorem map_pieceOf_expected {segments : List Segment}
    {buckets : List NvmeSglBitBucket}
    (addressed : ∀ segment, segment ∈ segments → segment.addr ≠ 0) :
    (expected 0 segments buckets).map pieceOf =
      (insertMarks NvmeSglBitBucket.offset 0 segments buckets).map
        (Piece.map NvmeSglBitBucket.length) := by
  have pieces := @forall_data_insertMarks _ NvmeSglBitBucket.offset
    (fun segment => segment.addr ≠ 0)
    (fun segment size nonzero _ _ => ⟨nonzero, by
      change segment.addr + size ≠ 0
      omega⟩) 0 segments buckets addressed
  rw [expected, List.map_map]
  refine List.map_congr_left fun piece member => ?_
  cases piece with
  | data segment =>
      rw [Function.comp_apply, entryOf, pieceOf,
        if_pos (pieces segment member)]
      rfl
  | mark bucket =>
      rw [Function.comp_apply, entryOf, pieceOf, if_neg (not_not.mpr rfl)]
      rfl

/-- Bit buckets are inserted exactly where their offsets say, and no data is
lost, repeated or moved. -/
theorem filledDescs_exact {sg : List ScatterEntry}
    {buckets : List NvmeSglBitBucket} (some_ : sg ≠ [])
    (positive : ∀ sge, sge ∈ sg → 0 < sge.dmaLength)
    (addressed : ∀ sge, sge ∈ sg → sge.dmaAddress ≠ 0)
    (small : scatterTotal sg < 2 ^ 32) (sorted : Sorted buckets) :
    InsertedExactly sg buckets (filledDescs sg buckets) := by
  have mapped : Mapped sg [] :=
    ⟨some_, positive, (fun _ none_ => nomatch none_), small⟩
  have filled := filledDescs_eq small positive mapped.empty sorted
  have length := mapped.length_filledDescs sorted
  have border := mapped.countP_border buckets
  rw [List.append_nil] at filled length border
  have nonzero : ∀ other, other ∈ sg.map segment → other.addr ≠ 0 := by
    intro other member
    rcases List.mem_map.mp member with ⟨sge, inside, rfl⟩
    exact addressed sge inside
  have pieces := @map_pieceOf_expected _ buckets nonzero
  rw [← filled] at pieces
  constructor
  · have bound := card_cuts_le (sg.map segment) buckets
    rw [length, dnvmeCountSglDescNum_eq, border]
    omega
  · rw [pieces, List.flatMap_map]
    simp only [Piece.bytes_map]
    exact bytes_insertMarks 0 (sg.map segment) buckets
  · intro piece member
    rw [pieces] at member
    rcases List.mem_map.mp member with ⟨other, inside, same⟩
    cases other with
    | mark bucket => cases same
    | data cut =>
        cases same
        refine @forall_data_insertMarks _ _ (fun other => 0 < other.length)
          ?_ 0 (sg.map segment) buckets ?_ piece inside
        · intro whole size _ some_ less
          exact ⟨some_, Nat.sub_pos_of_lt less⟩
        · intro other member
          rcases List.mem_map.mp member with ⟨sge, inside, rfl⟩
          exact positive sge inside
  · rw [pieces, placed_map, placed_insertMarks 0 _ _ sorted, List.map_map]
    refine List.map_congr_left fun bucket _ => ?_
    rw [Function.comp_apply, Prod.map_apply, Nat.zero_add, Nat.zero_max]
    rfl

/-- Two pages with a bucket at the start, one that cuts the first page and one
behind the end. -/
theorem filledDescs_exact_cut :
    InsertedExactly
      [⟨1, 0, 4096, 0x1000, 4096⟩, ⟨2, 0, 100, 0x8000, 100⟩]
      [⟨0, 8⟩, ⟨512, 16⟩, ⟨5000, 24⟩]
      [⟨0, 8⟩, ⟨0x1000, 512⟩, ⟨0, 16⟩, ⟨0x1200, 3584⟩, ⟨0x8000, 100⟩,
        ⟨0, 24⟩] :=
  filledDescs_exact (by decide) (by decide) (by decide) (by decide)
    (by unfold Sorted; decide)

/-! ## When the count and the filler agree -/

/-- The number of descriptors that `dnvme_cmd_setup_sgl` expects. -/
def givenCount (cmd : Nvme64bCmd) (prps : NvmePrps)
    (sg : List ScatterEntry) (sorted : List NvmeSglBitBucket) : Nat :=
  if cmd.nrBitBucket = 0 then prps.numMapPgs
  else dnvmeCountSglDescNum sg sorted

/-- No pages were merged, no bucket lies behind the data, and no two buckets
cut an entry at the same place. -/
structure Countable (sg unused : List ScatterEntry)
    (buckets : List NvmeSglBitBucket) : Prop where
  unmerged : unused = []
  reached : ∀ bucket, bucket ∈ buckets → bucket.offset ≤ scatterTotal sg
  apart : Apart (sg.map segment) buckets

/-- The filler and `dnvme_count_sgl_desc_num` agree. -/
theorem Mapped.count_iff {sg unused : List ScatterEntry}
    {buckets : List NvmeSglBitBucket} (mapped : Mapped sg unused)
    (sorted : Sorted buckets) :
    (filledDescs (sg ++ unused) buckets).length =
        dnvmeCountSglDescNum (sg ++ unused) buckets ↔
      Countable sg unused buckets := by
  have length := mapped.length_filledDescs sorted
  have border := mapped.countP_border buckets
  have bound := card_cuts_le (sg.map segment) buckets
  have distinct := card_cuts_eq_iff (sg.map segment) buckets
  have behind : (buckets.countP fun bucket =>
      scatterTotal sg < bucket.offset) = 0 ↔
        ∀ bucket, bucket ∈ buckets → bucket.offset ≤ scatterTotal sg := by
    rw [List.countP_eq_zero]
    simp only [decide_eq_true_eq, not_lt]
  rw [length, dnvmeCountSglDescNum_eq, border, List.length_append]
  constructor
  · intro equal
    exact ⟨List.length_eq_zero_iff.mp (by omega), behind.mp (by omega),
      distinct.mp (by omega)⟩
  · intro countable
    rw [distinct.mpr countable.apart, behind.mpr countable.reached,
      countable.unmerged, List.length_nil]
    omega

/-- Every list of descriptors that fits the count is laid out. -/
theorem layoutSgl_ret (env : ListEnv) (poolPages : List Nat)
    (ccmd : NvmeCommonCommand) (prps : NvmePrps)
    (descList : List SglDescEntry) :
    (layoutSgl env poolPages ccmd prps descList).ret ≠ -Errno.EPERM := by
  rw [layoutSgl]
  dsimp only
  split
  · exact (by decide : -Errno.ENOMEM ≠ -Errno.EPERM)
  · exact (by decide : (0 : Int) ≠ -Errno.EPERM)

/-- The number of entries filled is the number expected, and the command is
not refused for it. -/
def CountsAgree (env : SglEnv) (poolPages : List Nat) (cmd : Nvme64bCmd)
    (ccmd : NvmeCommonCommand) (prps : NvmePrps) (sg : List ScatterEntry)
    (buckets : List NvmeSglBitBucket) : Prop :=
  (filledDescs sg (dnvmeSortSglBitBucket env.sort buckets)).length =
      givenCount cmd prps sg (dnvmeSortSglBitBucket env.sort buckets) ∧
    ∃ result, dnvmeCmdSetupSgl env poolPages cmd ccmd prps = .ok result ∧
      result.ret ≠ -Errno.EPERM

/-- A mapped buffer with its buckets, as `dnvme_cmd_setup_sgl` receives it
when nothing it asks for fails. -/
structure SglRequest (env : SglEnv) (cmd : Nvme64bCmd) (prps : NvmePrps)
    (sg unused : List ScatterEntry) (buckets : List NvmeSglBitBucket) :
    Prop where
  mapped : Mapped sg unused
  scatter : prps.sg = some (sg ++ unused)
  pages : prps.numMapPgs = (sg ++ unused).length
  read : env.buckets = some buckets
  number : cmd.nrBitBucket = buckets.length
  bucketAlloc : env.bucketAlloc = true
  descListAlloc : env.descListAlloc = true

section Agreement

variable {env : SglEnv} {cmd : Nvme64bCmd} {prps : NvmePrps}
  {sg unused : List ScatterEntry} {buckets : List NvmeSglBitBucket}

theorem sorted_dnvmeSortSglBitBucket (order : BucketSort)
    (buckets : List NvmeSglBitBucket) :
    Sorted (dnvmeSortSglBitBucket order buckets) :=
  (order.ordered buckets).imp fun le =>
    (dnvmeCompareSglBitBucket_le_iff _ _).mp le

theorem Countable.perm {others : List NvmeSglBitBucket}
    (same : buckets.Perm others) :
    Countable sg unused buckets ↔ Countable sg unused others := by
  constructor
  · intro countable
    exact ⟨countable.unmerged, fun bucket member =>
      countable.reached bucket (same.mem_iff.mpr member),
      (Apart.perm same).mp countable.apart⟩
  · intro countable
    exact ⟨countable.unmerged, fun bucket member =>
      countable.reached bucket (same.mem_iff.mp member),
      (Apart.perm same).mpr countable.apart⟩

/-- Without buckets the number of pages is the same count. -/
theorem SglRequest.givenCount_eq
    (request : SglRequest env cmd prps sg unused buckets) :
    givenCount cmd prps (sg ++ unused)
        (dnvmeSortSglBitBucket env.sort buckets) =
      dnvmeCountSglDescNum (sg ++ unused)
        (dnvmeSortSglBitBucket env.sort buckets) := by
  rw [givenCount]
  split
  · rename_i zero
    have none_ : buckets = [] :=
      List.length_eq_zero_iff.mp (request.number.symm.trans zero)
    have empty : dnvmeSortSglBitBucket env.sort buckets = [] := by
      subst none_
      exact (env.sort.perm []).eq_nil
    rw [empty, request.pages, dnvmeCountSglDescNum_eq]
    rfl
  · rfl

/-- A list that fits the count is not refused. -/
theorem SglRequest.accepted (poolPages : List Nat)
    (ccmd : NvmeCommonCommand)
    (request : SglRequest env cmd prps sg unused buckets)
    (agree : (filledDescs (sg ++ unused)
      (dnvmeSortSglBitBucket env.sort buckets)).length =
        givenCount cmd prps (sg ++ unused)
          (dnvmeSortSglBitBucket env.sort buckets)) :
    ∃ result, dnvmeCmdSetupSgl env poolPages cmd ccmd prps = .ok result ∧
      result.ret ≠ -Errno.EPERM := by
  obtain ⟨first, rest, list⟩ := List.exists_cons_of_ne_nil
    (List.append_ne_nil_of_left_ne_nil request.mapped.some_ unused)
  have scatter := request.scatter
  rw [list] at scatter agree
  rw [dnvmeCmdSetupSgl, scatter]
  dsimp only
  split
  · exact ⟨_, rfl, (by decide : (0 : Int) ≠ -Errno.EPERM)⟩
  · split
    · rename_i zero
      have none_ : buckets = [] :=
        List.length_eq_zero_iff.mp (request.number.symm.trans zero)
      have empty : dnvmeSortSglBitBucket env.sort buckets = [] := by
        subst none_
        exact (env.sort.perm []).eq_nil
      rw [empty, givenCount, if_pos zero] at agree
      rw [dnvmeInitSglDescList, if_pos request.descListAlloc]
      dsimp only
      rw [if_pos agree]
      exact ⟨_, rfl, layoutSgl_ret _ _ _ _ _⟩
    · rename_i some_
      have whole : buckets.take cmd.nrBitBucket = buckets := by
        rw [request.number, List.take_length]
      rw [givenCount, if_neg some_] at agree
      rw [request.bucketAlloc, request.read]
      dsimp only [Bool.not_true]
      rw [if_neg (by decide), whole, dnvmeInitSglDescList,
        if_pos request.descListAlloc]
      dsimp only
      rw [if_pos agree]
      exact ⟨_, rfl, layoutSgl_ret _ _ _ _ _⟩

/-- The count and the filler agree, and a command is not refused for its
descriptors, exactly when no pages were merged, no bucket lies behind the data
and no two buckets cut an entry at the same place. -/
theorem countsAgree_iff (poolPages : List Nat) (ccmd : NvmeCommonCommand)
    (request : SglRequest env cmd prps sg unused buckets) :
    CountsAgree env poolPages cmd ccmd prps (sg ++ unused) buckets ↔
      Countable sg unused buckets := by
  have count := request.mapped.count_iff
    (sorted_dnvmeSortSglBitBucket env.sort buckets)
  rw [← request.givenCount_eq] at count
  have same := @Countable.perm sg unused _ _ (env.sort.perm buckets)
  constructor
  · intro agree
    exact same.mp (count.mp agree.1)
  · intro countable
    have agree := count.mpr (same.mpr countable)
    exact ⟨agree, request.accepted poolPages ccmd agree⟩

end Agreement

/-- A read command with `number` bit buckets. -/
def bucketCommand (number : Nat) : Nvme64bCmd :=
  ⟨1, 0, 0x1000, ⟨false, false, false, false, false⟩, 0x2000, 8192, 2, 0,
    number⟩

/-- All allocations succeed and the user's buckets can be read. -/
def bucketEnv (buckets : List NvmeSglBitBucket) : SglEnv :=
  ⟨true, some buckets, .byOffset, true, ⟨true, true, fun _ => some 0x9000⟩⟩

/-- A mapped buffer of the given scatter entries. -/
def bucketPrps (sg : List ScatterEntry) : NvmePrps :=
  { NvmePrps.zero .cmdPool with sg := some sg, numMapPgs := sg.length }

/-- Two buckets that cut a page in different places. -/
theorem countsAgree_two_cuts :
    CountsAgree (bucketEnv [⟨1024, 8⟩, ⟨512, 8⟩]) [] (bucketCommand 2) .zero
      (bucketPrps [⟨1, 0, 4096, 0x1000, 4096⟩])
      ([⟨1, 0, 4096, 0x1000, 4096⟩] ++ []) [⟨1024, 8⟩, ⟨512, 8⟩] := by
  refine (countsAgree_iff [] .zero
    ⟨⟨by decide, by decide, by decide, by decide⟩, rfl, rfl, rfl, rfl, rfl,
      rfl⟩).mpr ⟨rfl, by decide, by decide⟩

/-- Two buckets at one place, a bucket behind the data, and two pages that
were merged: the command is refused each time. -/
theorem counts_disagree :
    (SglRequest (bucketEnv [⟨512, 8⟩, ⟨512, 8⟩]) (bucketCommand 2)
        (bucketPrps [⟨1, 0, 4096, 0x1000, 4096⟩])
        [⟨1, 0, 4096, 0x1000, 4096⟩] [] [⟨512, 8⟩, ⟨512, 8⟩] ∧
      ¬ CountsAgree (bucketEnv [⟨512, 8⟩, ⟨512, 8⟩]) [] (bucketCommand 2)
        .zero (bucketPrps [⟨1, 0, 4096, 0x1000, 4096⟩])
        [⟨1, 0, 4096, 0x1000, 4096⟩] [⟨512, 8⟩, ⟨512, 8⟩]) ∧
      ¬ CountsAgree (bucketEnv [⟨5000, 8⟩]) [] (bucketCommand 1) .zero
        (bucketPrps [⟨1, 0, 4096, 0x1000, 4096⟩])
        [⟨1, 0, 4096, 0x1000, 4096⟩] [⟨5000, 8⟩] ∧
      ¬ CountsAgree (bucketEnv []) [] (bucketCommand 0) .zero
        (bucketPrps
          [⟨1, 0, 4096, 0x1000, 8192⟩, ⟨2, 0, 4096, 0, 0⟩])
        [⟨1, 0, 4096, 0x1000, 8192⟩, ⟨2, 0, 4096, 0, 0⟩] [] := by
  refine ⟨⟨⟨⟨by decide, by decide, by decide, by decide⟩, rfl, rfl, rfl, rfl,
    rfl, rfl⟩, ?_⟩, ?_, ?_⟩
  · rintro ⟨counted, -⟩
    exact absurd counted (by decide +kernel)
  · rintro ⟨counted, -⟩
    exact absurd counted (by decide +kernel)
  · rintro ⟨counted, -⟩
    exact absurd counted (by decide +kernel)

end Dnvme.Driver.BitBuckets
