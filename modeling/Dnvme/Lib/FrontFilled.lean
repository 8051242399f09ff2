import Mathlib

/-!
# Memory that is filled from the front

A block of memory is a list of its cells.  Items are stored at an index, and
the store fails where it leaves the block.  When the items before the index are
known, they stay known, and the stored ones follow them.  What is behind them
is arbitrary and may be overwritten later.
-/

namespace Dnvme.Lib.FrontFilled

variable {ε α : Type}

/-- Store items from an index on; `bad` is the error when they do not fit. -/
def store (bad : ε) (memory : List α) (index : Nat) (items : List α) :
    Except ε (List α) :=
  if index + items.length ≤ memory.length then
    .ok (memory.take index ++ items ++ memory.drop (index + items.length))
  else .error bad

/-- Items that are stored behind the known ones. -/
theorem store_front (bad : ε) {memory front : List α} (items : List α)
    (known : front <+: memory)
    (fits : front.length + items.length ≤ memory.length) :
    ∃ next, store bad memory front.length items = .ok next ∧
      next.length = memory.length ∧ front ++ items <+: next := by
  refine ⟨_, if_pos fits, ?_, ?_⟩
  · rw [List.length_append, List.length_append, List.length_take,
      List.length_drop]
    omega
  · rw [List.prefix_iff_eq_take.mp known, List.length_take,
      Nat.min_eq_left (by omega)]
    exact List.prefix_append _ _

/-- The number of items before the first one that is `last`. -/
def lengthUpTo [DecidableEq α] (bad : ε) (last : α) :
    List α → Except ε Nat
  | [] => .error bad
  | item :: rest =>
      if item = last then .ok 0
      else (lengthUpTo bad last rest).map (· + 1)

theorem lengthUpTo_append [DecidableEq α] (bad : ε) {last : α}
    {items : List α} (absent : last ∉ items) (rest : List α) :
    lengthUpTo bad last (items ++ last :: rest) = .ok items.length := by
  induction items with
  | nil => exact if_pos rfl
  | cons item items ih =>
      rw [List.mem_cons, not_or] at absent
      rw [List.cons_append, lengthUpTo, if_neg (Ne.symm absent.1),
        ih absent.2]
      rfl

/-- The known items end with `last`. -/
theorem lengthUpTo_front [DecidableEq α] (bad : ε) {last : α}
    {memory front items : List α} (absent : last ∉ items)
    (known : front ++ items ++ [last] <+: memory) :
    lengthUpTo bad last (memory.drop front.length) = .ok items.length := by
  obtain ⟨rest, rfl⟩ := known
  rw [List.append_assoc, List.append_assoc, List.drop_left,
    List.singleton_append]
  exact lengthUpTo_append bad absent rest

end Dnvme.Lib.FrontFilled
