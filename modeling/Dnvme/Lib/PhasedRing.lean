import Mathlib

/-!
# Rings with a phase bit

A ring of `size` slots is filled and read in order.  Two parties that count
entries from the start of time meet in a slot, and a phase bit that flips with
every lap tells a fresh entry from the one a lap before.

`advance` moves a cursor by one entry.  `place size index` is the cursor after
`index` entries, in closed form: the slot is the index modulo the size, and the
phase is the parity of the lap.
-/

namespace Dnvme.Lib.PhasedRing

/-- The phase of the entries of a lap; the first lap has phase 1. -/
def lapPhase (size index : Nat) : Nat :=
  (index / size + 1) % 2

/-- The cursor that has passed `index` entries. -/
def place (size index : Nat) : Nat × Nat :=
  (index % size, lapPhase size index)

/-- Move a cursor past one entry. -/
def advance (size : Nat) (cursor : Nat × Nat) : Nat × Nat :=
  if cursor.1 + 1 ≥ size then (0, cursor.2 ^^^ 1)
  else (cursor.1 + 1, cursor.2)

theorem lapPhase_lt (size index : Nat) : lapPhase size index < 2 :=
  Nat.mod_lt _ (by decide)

theorem lapPhase_flip (size index : Nat) :
    (index / size + 1 + 1) % 2 = lapPhase size index ^^^ 1 := by
  unfold lapPhase
  rcases Nat.mod_two_eq_zero_or_one (index / size + 1) with even | odd
  · rw [even, Nat.add_mod, even]
    decide
  · rw [odd, Nat.add_mod, odd]
    decide

variable {size : Nat}

/-- The last slot of a lap. -/
theorem succ_at_end {index : Nat} (positive : 0 < size)
    (last : index % size + 1 = size) :
    (index + 1) % size = 0 ∧ (index + 1) / size = index / size + 1 := by
  have split := Nat.div_add_mod index size
  have whole : index + 1 = (index / size + 1) * size := by
    rw [Nat.add_mul, Nat.one_mul, Nat.mul_comm]
    omega
  rw [whole]
  exact ⟨Nat.mul_mod_left _ _, Nat.mul_div_cancel _ positive⟩

/-- Any other slot of a lap. -/
theorem succ_inside {index : Nat} (inside : index % size + 1 < size) :
    (index + 1) % size = index % size + 1 ∧
      (index + 1) / size = index / size := by
  have split := Nat.div_add_mod index size
  have whole : index + 1 = index % size + 1 + size * (index / size) := by
    omega
  constructor
  · rw [whole, Nat.add_mul_mod_self_left, Nat.mod_eq_of_lt inside]
  · rw [whole, Nat.add_mul_div_left _ _ (by omega),
      Nat.div_eq_of_lt inside, Nat.zero_add]

/-- One step in closed form. -/
theorem advance_place (positive : 0 < size) (index : Nat) :
    advance size (place size index) = place size (index + 1) := by
  have below : index % size < size := Nat.mod_lt _ positive
  by_cases last : index % size + 1 = size
  · rcases succ_at_end positive last with ⟨slot, lap⟩
    have wraps : (place size index).1 + 1 ≥ size := ge_of_eq last
    have phase : lapPhase size (index + 1) = lapPhase size index ^^^ 1 := by
      rw [← lapPhase_flip, lapPhase, lap]
    rw [advance, if_pos wraps, place, place, slot, phase]
  · have inside : index % size + 1 < size := by omega
    rcases succ_inside inside with ⟨slot, lap⟩
    have stays : ¬ (place size index).1 + 1 ≥ size := not_le.mpr inside
    rw [advance, if_neg stays, place, place, slot, lapPhase, lapPhase, lap]

/-- The closed form is what stepping gives. -/
theorem advance_iterate (positive : 0 < size) (index : Nat) :
    (advance size)^[index] (0, 1) = place size index := by
  induction index with
  | zero => simp [place, lapPhase]
  | succ index ih =>
      rw [Function.iterate_succ_apply', ih, advance_place positive]

/-- An entry of the lap before carries the other phase. -/
theorem lapPhase_add_size (positive : 0 < size) (index : Nat) :
    lapPhase size (index + size) ≠ lapPhase size index := by
  unfold lapPhase
  rw [Nat.add_div_right _ positive]
  omega

/-- The slot is the same one lap later. -/
theorem slot_add_size (index : Nat) : (index + size) % size = index % size :=
  Nat.add_mod_right _ _

/-- Two indices less than a lap apart share a slot only when they are
equal. -/
theorem slot_injective {i j : Nat} (below : i ≤ j) (near : j < i + size)
    (same : i % size = j % size) : i = j := by
  have gap : (j - i) % size = 0 := by
    have congr := Nat.ModEq.symm same
    exact (Nat.modEq_iff_dvd' below).mp same |> Nat.mod_eq_zero_of_dvd
  rw [Nat.mod_eq_of_lt (by omega)] at gap
  omega

/-- A jump of less than a lap, the way a head pointer is moved. -/
theorem place_add {index count : Nat} (less : count < size) :
    place size (index + count) =
      if index % size + count ≥ size then
        ((index % size + count) % size, lapPhase size index ^^^ 1)
      else
        (index % size + count, lapPhase size index) := by
  have positive : 0 < size := by omega
  have below : index % size < size := Nat.mod_lt _ positive
  have split := Nat.div_add_mod index size
  have whole : index + count =
      index % size + count + size * (index / size) := by omega
  split
  · rename_i wraps
    have lap : (index + count) / size = index / size + 1 := by
      rw [whole, Nat.add_mul_div_left _ _ positive,
        Nat.div_eq_of_lt_le (by omega : 1 * size ≤ _) (by omega)]
      omega
    rw [place, lapPhase, lap, lapPhase_flip, whole,
      Nat.add_mul_mod_self_left]
  · rename_i stays
    have inside : index % size + count < size := by omega
    have lap : (index + count) / size = index / size := by
      rw [whole, Nat.add_mul_div_left _ _ positive,
        Nat.div_eq_of_lt inside, Nat.zero_add]
    rw [place, lapPhase, lap, whole, Nat.add_mul_mod_self_left,
      Nat.mod_eq_of_lt inside]
    rfl

end Dnvme.Lib.PhasedRing
