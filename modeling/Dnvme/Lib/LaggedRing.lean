import Mathlib

/-!
# Rings whose writer sees an old head

A writer fills the slots of a ring in order and announces from time to time
how far it got; a reader takes what was announced and reports from time to
time how far it got.  All positions are counted from the start of time, so
that a slot is a position modulo the size of the ring.  The writer knows only
the last report it received, and reports arrive in order.
-/

namespace Dnvme.Lib.LaggedRing

/-- The four positions, each behind the next, and the writer less than a lap
ahead of the last report it received. -/
structure Lagged (size reported taken announced written : Nat) : Prop where
  reported_le : reported ≤ taken
  taken_le : taken ≤ announced
  announced_le : announced ≤ written
  near : written < reported + size

variable {size reported taken announced written : Nat}

theorem Lagged.start (positive : 0 < size) : Lagged size 0 0 0 0 :=
  ⟨le_rfl, le_rfl, le_rfl, by omega⟩

theorem Lagged.size_pos
    (lagged : Lagged size reported taken announced written) : 0 < size := by
  have := lagged.reported_le
  have := lagged.taken_le
  have := lagged.announced_le
  have := lagged.near
  omega

theorem Lagged.near_taken
    (lagged : Lagged size reported taken announced written) :
    written < taken + size :=
  lagged.near.trans_le (Nat.add_le_add_right lagged.reported_le size)

/-- Positions less than a lap apart have different slots. -/
theorem slot_ne {low high : Nat} (less : low < high)
    (near : high < low + size) : low % size ≠ high % size := by
  intro same
  have lap : size ∣ high - low := (Nat.modEq_iff_dvd' less.le).mp same
  have := Nat.le_of_dvd (by omega) lap
  omega

/-- The slot the writer fills next holds nothing the reader still needs. -/
theorem Lagged.slot_ne_written
    (lagged : Lagged size reported taken announced written) {index : Nat}
    (pending : taken ≤ index) (before : index < written) :
    index % size ≠ written % size := by
  have := lagged.reported_le
  have := lagged.near
  exact slot_ne before (by omega)

/-- The writer fills a slot when the one after it is not the reported
head. -/
theorem Lagged.write
    (lagged : Lagged size reported taken announced written)
    (room : (written + 1) % size ≠ reported % size) :
    Lagged size reported taken announced (written + 1) := by
  have := lagged.announced_le
  have := lagged.near
  refine ⟨lagged.reported_le, lagged.taken_le, by omega, ?_⟩
  by_contra full
  have lap : written + 1 = reported + size := by omega
  exact room (by rw [lap, Nat.add_mod_right])

theorem Lagged.announce
    (lagged : Lagged size reported taken announced written) :
    Lagged size reported taken written written :=
  ⟨lagged.reported_le, lagged.taken_le.trans lagged.announced_le, le_rfl,
    lagged.near⟩

/-- The reader takes a slot when its own is not the announced one. -/
theorem Lagged.take
    (lagged : Lagged size reported taken announced written)
    (apart : taken % size ≠ announced % size) :
    Lagged size reported (taken + 1) announced written := by
  have := lagged.reported_le
  have := lagged.taken_le
  have different : taken ≠ announced := fun same => apart (by rw [same])
  exact ⟨by omega, by omega, lagged.announced_le, lagged.near⟩

theorem Lagged.report
    (lagged : Lagged size reported taken announced written) {later : Nat}
    (newer : reported ≤ later) (sound : later ≤ taken) :
    Lagged size later taken announced written := by
  have := lagged.near
  exact ⟨sound, lagged.taken_le, lagged.announced_le, by omega⟩

/-! ## Reports on their way -/

/-- Slots that report positions from `low` to at most `last`, in order. -/
inductive Reports (size last : Nat) : Nat → List Nat → Prop where
  | nil {low : Nat} (sound : low ≤ last) : Reports size last low []
  | cons {low here : Nat} {rest : List Nat} (newer : low ≤ here)
      (reports : Reports size last here rest) :
      Reports size last low (here % size :: rest)

variable {last low : Nat} {slots : List Nat}

theorem Reports.low_le (reports : Reports size last low slots) :
    low ≤ last := by
  induction reports with
  | nil sound => exact sound
  | cons newer _ ih => exact newer.trans ih

theorem Reports.mono {later : Nat} (reports : Reports size last low slots)
    (below : last ≤ later) : Reports size later low slots := by
  induction reports with
  | nil sound => exact .nil (sound.trans below)
  | cons newer _ ih => exact .cons newer ih

/-- A new report of the last position. -/
theorem Reports.concat (reports : Reports size last low slots) :
    Reports size last low (slots ++ [last % size]) := by
  induction reports with
  | nil sound => exact .cons sound (.nil le_rfl)
  | cons newer _ ih => exact .cons newer ih

end Dnvme.Lib.LaggedRing
