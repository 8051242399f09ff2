import Mathlib

/-!
# Marks inserted into a list of segments

A list of segments stands for a stretch of bytes.  Marks have a position in
that stretch and are inserted where they belong: a segment that a mark falls
into is cut in two, and marks behind the last byte follow at the end.

`insertMarks` is the reference for programs that do this in one pass over
sorted marks.  Its rules say that no byte is lost or repeated, that every mark
stands where it should, and how many pieces there are.
-/

namespace Dnvme.Lib.MarkedSegments

/-- A stretch of addresses. -/
structure Segment where
  addr : Nat
  length : Nat
  deriving DecidableEq, Repr

/-- The addresses of a segment. -/
def Segment.bytes (segment : Segment) : List Nat :=
  List.range' segment.addr segment.length

/-- The number of bytes of a list of segments. -/
def total (segments : List Segment) : Nat :=
  (segments.map Segment.length).sum

@[simp]
theorem total_nil : total [] = 0 :=
  rfl

@[simp]
theorem total_cons (segment : Segment) (rest : List Segment) :
    total (segment :: rest) = segment.length + total rest := by
  simp [total]

/-- A segment or a part of one, or a mark. -/
inductive Piece (μ : Type) where
  | data (segment : Segment)
  | mark (mark : μ)

variable {μ : Type}

/-- The addresses of a piece; a mark has none. -/
def Piece.bytes : Piece μ → List Nat
  | .data segment => segment.bytes
  | .mark _ => []

/-- The marks among the pieces, each with the number of bytes before it. -/
def placed : (reached : Nat) → List (Piece μ) → List (Nat × μ)
  | _, [] => []
  | reached, .data segment :: rest => placed (reached + segment.length) rest
  | reached, .mark mark :: rest => (reached, mark) :: placed reached rest

/-- Whether a position lies strictly inside one of the segments. -/
def inside : (reached : Nat) → List Segment → (position : Nat) → Bool
  | _, [], _ => false
  | reached, segment :: rest, position =>
      (reached < position && position < reached + segment.length) ||
        inside (reached + segment.length) rest position

/-- Insert marks, given in order, into segments that start at the position
`reached`. -/
def insertMarks (position : μ → Nat) (reached : Nat) :
    List Segment → List μ → List (Piece μ)
  | [], marks => marks.map .mark
  | segment :: rest, [] =>
      .data segment ::
        insertMarks position (reached + segment.length) rest []
  | segment :: rest, mark :: marks =>
      if position mark ≤ reached then
        .mark mark :: insertMarks position reached (segment :: rest) marks
      else if position mark < reached + segment.length then
        .data ⟨segment.addr, position mark - reached⟩ :: .mark mark ::
          insertMarks position (position mark)
            (⟨segment.addr + (position mark - reached),
              segment.length - (position mark - reached)⟩ :: rest) marks
      else
        .data segment ::
          insertMarks position (reached + segment.length) rest
            (mark :: marks)
termination_by segments marks => segments.length + marks.length

/-- Change the marks. -/
def Piece.map {ν : Type} (change : μ → ν) : Piece μ → Piece ν
  | .data segment => .data segment
  | .mark label => .mark (change label)

@[simp]
theorem Piece.bytes_map {ν : Type} (change : μ → ν) (piece : Piece μ) :
    (piece.map change).bytes = piece.bytes := by
  cases piece <;> rfl

theorem placed_map {ν : Type} (change : μ → ν) (pieces : List (Piece μ)) :
    ∀ reached, placed reached (pieces.map (Piece.map change)) =
      (placed reached pieces).map (Prod.map id change) := by
  induction pieces with
  | nil =>
      intro reached
      rfl
  | cons piece rest ih =>
      intro reached
      cases piece with
      | data segment => exact ih (reached + segment.length)
      | mark mark =>
          rw [List.map_cons, Piece.map, placed, placed, ih reached]
          rfl

section Rules

variable {position : μ → Nat}

/-- Marks whose position was passed come first. -/
theorem insertMarks_due (segments : List Segment) {reached : Nat}
    (due : List μ) (marks : List μ)
    (passed : ∀ mark, mark ∈ due → position mark ≤ reached) :
    insertMarks position reached segments (due ++ marks) =
      due.map .mark ++ insertMarks position reached segments marks := by
  cases segments with
  | nil => rw [insertMarks, insertMarks, List.map_append]
  | cons segment rest =>
      induction due with
      | nil => rfl
      | cons mark due ih =>
          rw [List.cons_append, insertMarks,
            if_pos (passed mark List.mem_cons_self),
            ih fun other member => passed other (List.mem_cons_of_mem _ member),
            List.map_cons, List.cons_append]

/-- No byte is lost, repeated or moved. -/
theorem bytes_insertMarks (reached : Nat) (segments : List Segment)
    (marks : List μ) :
    (insertMarks position reached segments marks).flatMap Piece.bytes =
      segments.flatMap Segment.bytes := by
  induction reached, segments, marks using insertMarks.induct position with
  | case1 reached marks =>
      simp [insertMarks, Piece.bytes, List.flatMap_map]
  | case2 reached segment rest ih =>
      rw [insertMarks, List.flatMap_cons, List.flatMap_cons, ih, Piece.bytes]
  | case3 reached segment rest mark marks due ih =>
      rw [insertMarks, if_pos due, List.flatMap_cons, ih, Piece.bytes,
        List.nil_append]
  | case4 reached segment rest mark marks ahead cut ih =>
      have joined : segment.bytes =
          List.range' segment.addr (position mark - reached) ++
            List.range' (segment.addr + (position mark - reached))
              (segment.length - (position mark - reached)) := by
        rw [Segment.bytes, List.range'_append_1]
        congr 1
        omega
      rw [insertMarks, if_neg ahead, if_pos cut, List.flatMap_cons,
        List.flatMap_cons, ih, List.flatMap_cons, List.flatMap_cons, joined,
        List.append_assoc]
      rfl
  | case5 reached segment rest mark marks ahead beyond ih =>
      rw [insertMarks, if_neg ahead, if_neg beyond, List.flatMap_cons, ih,
        List.flatMap_cons, Piece.bytes]

/-- What holds of the segments and of both parts when one is cut holds of
every piece. -/
theorem forall_data_insertMarks {holds : Segment → Prop}
    (cutting : ∀ segment size, holds segment → 0 < size →
      size < segment.length → holds ⟨segment.addr, size⟩ ∧
        holds ⟨segment.addr + size, segment.length - size⟩)
    (reached : Nat) (segments : List Segment) (marks : List μ)
    (all : ∀ segment, segment ∈ segments → holds segment) :
    ∀ segment, Piece.data segment ∈
      insertMarks position reached segments marks → holds segment := by
  induction reached, segments, marks using insertMarks.induct position with
  | case1 reached marks =>
      intro segment member
      simp [insertMarks] at member
  | case2 reached segment rest ih =>
      intro other member
      rw [insertMarks, List.mem_cons, Piece.data.injEq] at member
      rcases member with rfl | later
      · exact all other List.mem_cons_self
      · exact ih (fun segment inRest =>
          all segment (List.mem_cons_of_mem _ inRest)) other later
  | case3 reached segment rest mark marks due ih =>
      intro other member
      rw [insertMarks, if_pos due, List.mem_cons] at member
      rcases member with same | later
      · cases same
      · exact ih all other later
  | case4 reached segment rest mark marks ahead cut ih =>
      intro other member
      have parts := cutting segment (position mark - reached)
        (all segment List.mem_cons_self) (by omega) (by omega)
      rw [insertMarks, if_neg ahead, if_pos cut, List.mem_cons,
        List.mem_cons, Piece.data.injEq] at member
      rcases member with rfl | same | later
      · exact parts.1
      · cases same
      · refine ih (fun segment inRest => ?_) other later
        rcases List.mem_cons.mp inRest with rfl | old
        · exact parts.2
        · exact all segment (List.mem_cons_of_mem _ old)
  | case5 reached segment rest mark marks ahead beyond ih =>
      intro other member
      rw [insertMarks, if_neg ahead, if_neg beyond, List.mem_cons,
        Piece.data.injEq] at member
      rcases member with rfl | later
      · exact all other List.mem_cons_self
      · exact ih (fun segment inRest =>
          all segment (List.mem_cons_of_mem _ inRest)) other later

theorem placed_map_mark (reached : Nat) (marks : List μ) :
    placed reached (marks.map .mark) =
      marks.map fun mark => (reached, mark) := by
  induction marks with
  | nil => rfl
  | cons mark marks ih => rw [List.map_cons, placed, ih, List.map_cons]

/-- Every mark stands once, in order, behind as many bytes as its position
says, or behind all of them. -/
theorem placed_insertMarks (reached : Nat) (segments : List Segment)
    (marks : List μ)
    (sorted : marks.Pairwise fun a b => position a ≤ position b) :
    placed reached (insertMarks position reached segments marks) =
      marks.map fun mark =>
        (max reached (min (position mark) (reached + total segments)),
          mark) := by
  induction reached, segments, marks using insertMarks.induct position with
  | case1 reached marks =>
      rw [insertMarks, placed_map_mark]
      refine List.map_congr_left fun mark _ => ?_
      rw [total_nil, Nat.add_zero, max_eq_left (min_le_right _ _)]
  | case2 reached segment rest ih =>
      rw [insertMarks, placed, ih sorted]
      rfl
  | case3 reached segment rest mark marks due ih =>
      rw [insertMarks, if_pos due, placed,
        ih (List.pairwise_cons.mp sorted).2, List.map_cons,
        max_eq_left (le_trans (min_le_left _ _) due)]
  | case4 reached segment rest mark marks ahead cut ih =>
      rcases List.pairwise_cons.mp sorted with ⟨later, others⟩
      have here : reached + (position mark - reached) = position mark := by
        omega
      rw [insertMarks, if_neg ahead, if_pos cut, placed, here, placed,
        ih others, List.map_cons, total_cons, total_cons]
      congr 1
      · congr 1
        omega
      · refine List.map_congr_left fun other member => ?_
        have after := later other member
        congr 1
        dsimp only
        omega
  | case5 reached segment rest mark marks ahead beyond ih =>
      rw [insertMarks, if_neg ahead, if_neg beyond, placed, ih sorted]
      refine List.map_congr_left fun other member => ?_
      have after : position mark ≤ position other := by
        rcases List.mem_cons.mp member with rfl | member
        · exact le_refl _
        · exact (List.pairwise_cons.mp sorted).1 other member
      rw [total_cons]
      congr 1
      omega

/-! ## The number of pieces -/

theorem inside_gt {segments : List Segment} :
    ∀ {reached place : Nat}, inside reached segments place = true →
      reached < place := by
  induction segments with
  | nil =>
      intro reached place found
      cases found
  | cons segment rest ih =>
      intro reached place found
      simp only [inside, Bool.or_eq_true, Bool.and_eq_true,
        decide_eq_true_eq] at found
      rcases found with here | later
      · exact here.1
      · have := ih later
        omega

theorem inside_lt {segments : List Segment} :
    ∀ {reached place : Nat}, inside reached segments place = true →
      place < reached + total segments := by
  induction segments with
  | nil =>
      intro reached place found
      cases found
  | cons segment rest ih =>
      intro reached place found
      simp only [inside, Bool.or_eq_true, Bool.and_eq_true,
        decide_eq_true_eq] at found
      rw [total_cons]
      rcases found with here | later
      · omega
      · have := ih later
        omega

/-- Behind the first segment only the others count. -/
theorem inside_cons_of_le {segment : Segment} {rest : List Segment}
    {reached place : Nat} (behind : reached + segment.length ≤ place) :
    inside reached (segment :: rest) place =
      inside (reached + segment.length) rest place := by
  have outside : ¬ place < reached + segment.length := not_lt.mpr behind
  simp [inside, outside]

/-- Cutting a segment makes the position of the cut a border. -/
theorem inside_cut {segment : Segment} {rest : List Segment}
    {reached size place : Nat} (cut : size < segment.length)
    (after : reached + size ≤ place) :
    inside (reached + size)
        (⟨segment.addr + size, segment.length - size⟩ :: rest) place =
      (inside reached (segment :: rest) place &&
        decide (place ≠ reached + size)) := by
  have finish : reached + size + (segment.length - size) =
      reached + segment.length := by omega
  rw [inside, inside]
  dsimp only
  rw [finish]
  by_cases border : place = reached + size
  · have outside : inside (reached + segment.length) rest place = false := by
      by_contra found
      have := inside_gt (Bool.not_eq_false _ ▸ found)
      omega
    subst place
    simp [outside]
  · have one : reached + size < place := by omega
    have two : reached < place := by omega
    simp [one, two, border]

/-- The positions that cut a segment, without repetition. -/
def cuts (position : μ → Nat) (reached : Nat) (segments : List Segment)
    (marks : List μ) : Finset Nat :=
  ((marks.map position).filter (inside reached segments)).toFinset

theorem mem_cuts {reached place : Nat} {segments : List Segment}
    {marks : List μ} :
    place ∈ cuts position reached segments marks ↔
      (∃ mark, mark ∈ marks ∧ position mark = place) ∧
        inside reached segments place = true := by
  simp [cuts]

/-- There is a piece for every segment, one for every mark and one more for
every cut. -/
theorem length_insertMarks (reached : Nat) (segments : List Segment)
    (marks : List μ)
    (sorted : marks.Pairwise fun a b => position a ≤ position b) :
    (insertMarks position reached segments marks).length =
      segments.length + marks.length +
        (cuts position reached segments marks).card := by
  induction reached, segments, marks using insertMarks.induct position with
  | case1 reached marks =>
      have none_ : cuts position reached [] marks = ∅ := by
        ext place
        simp [mem_cuts, inside]
      rw [insertMarks, List.length_map, none_]
      simp
  | case2 reached segment rest ih =>
      rw [insertMarks, List.length_cons, ih sorted]
      simp only [cuts, List.map_nil, List.filter_nil, List.toFinset_nil,
        Finset.card_empty, List.length_nil, List.length_cons]
  | case3 reached segment rest mark marks due ih =>
      have same : cuts position reached (segment :: rest) (mark :: marks) =
          cuts position reached (segment :: rest) marks := by
        ext place
        rw [mem_cuts, mem_cuts]
        refine and_congr_left fun found => ?_
        have := inside_gt found
        constructor
        · rintro ⟨other, member, rfl⟩
          rcases List.mem_cons.mp member with rfl | member
          · omega
          · exact ⟨other, member, rfl⟩
        · rintro ⟨other, member, rfl⟩
          exact ⟨other, List.mem_cons_of_mem _ member, rfl⟩
      rw [insertMarks, if_pos due, List.length_cons,
        ih (List.pairwise_cons.mp sorted).2, same]
      rw [@List.length_cons _ mark]
      omega
  | case4 reached segment rest mark marks ahead cut ih =>
      rcases List.pairwise_cons.mp sorted with ⟨later, others⟩
      obtain ⟨size, here⟩ : ∃ size, reached + size = position mark :=
        ⟨position mark - reached, by omega⟩
      have size_eq : position mark - reached = size := by omega
      rw [size_eq] at ih
      have shrunk : cuts position (position mark)
          (⟨segment.addr + size, segment.length - size⟩ :: rest) marks =
            (cuts position reached (segment :: rest) (mark :: marks)).erase
              (position mark) := by
        ext place
        rw [Finset.mem_erase, mem_cuts, mem_cuts]
        constructor
        · rintro ⟨⟨other, member, rfl⟩, found⟩
          rw [← here, inside_cut (by omega) (by
            rw [here]
            exact later other member), Bool.and_eq_true,
            decide_eq_true_eq, here] at found
          exact ⟨found.2, ⟨other, List.mem_cons_of_mem _ member, rfl⟩,
            found.1⟩
        · rintro ⟨different, ⟨other, member, rfl⟩, found⟩
          rcases List.mem_cons.mp member with rfl | member
          · exact absurd rfl different
          · refine ⟨⟨other, member, rfl⟩, ?_⟩
            rw [← here, inside_cut (by omega) (by
              rw [here]
              exact later other member), Bool.and_eq_true,
              decide_eq_true_eq, here]
            exact ⟨found, different⟩
      have member : position mark ∈
          cuts position reached (segment :: rest) (mark :: marks) := by
        rw [mem_cuts]
        refine ⟨⟨mark, List.mem_cons_self, rfl⟩, ?_⟩
        have after : reached < position mark := by omega
        simp [inside, after, cut]
      have count := Finset.card_erase_add_one member
      rw [insertMarks, if_neg ahead, if_pos cut, List.length_cons,
        List.length_cons, size_eq, ih others, shrunk, List.length_cons,
        List.length_cons, List.length_cons]
      omega
  | case5 reached segment rest mark marks ahead beyond ih =>
      have same : cuts position (reached + segment.length) rest
          (mark :: marks) =
            cuts position reached (segment :: rest) (mark :: marks) := by
        ext place
        rw [mem_cuts, mem_cuts]
        refine and_congr_right ?_
        rintro ⟨other, member, rfl⟩
        have after : position mark ≤ position other := by
          rcases List.mem_cons.mp member with rfl | member
          · exact le_refl _
          · exact (List.pairwise_cons.mp sorted).1 other member
        rw [inside_cons_of_le (by omega)]
      rw [insertMarks, if_neg ahead, if_neg beyond, List.length_cons,
        ih sorted, same, List.length_cons, List.length_cons]
      omega

end Rules

end Dnvme.Lib.MarkedSegments
