import Mathlib

/-!
# Items laid out over chained pages

A page has `payload` slots for items and one more slot, the last one, for the
link to the next page.  A writer that fills slot after slot, and writes a link
whenever it meets the last slot with items still to come, leaves item `m` in
slot `m % payload` of page `base + m / payload`.

`Filled` is the invariant of such a writer at an arbitrary point of its run.
The two rules `Filled.writeItem` and `Filled.writeLink` are all a loop needs.
-/

namespace Dnvme.Lib.ChainedPages

variable {α : Type}

/-- Store into one slot of one page. -/
def writeSlot (pages : Nat → Nat → α) (page slot : Nat) (value : α) :
    Nat → Nat → α :=
  Function.update pages page (Function.update (pages page) slot value)

@[simp]
theorem writeSlot_same (pages : Nat → Nat → α) (page slot : Nat)
    (value : α) :
    writeSlot pages page slot value page slot = value := by
  simp [writeSlot]

theorem writeSlot_other (pages : Nat → Nat → α)
    (page slot otherPage otherSlot : Nat) (value : α)
    (different : otherPage ≠ page ∨ otherSlot ≠ slot) :
    writeSlot pages page slot value otherPage otherSlot =
      pages otherPage otherSlot := by
  by_cases samePage : otherPage = page
  · subst otherPage
    have otherSlotNe : otherSlot ≠ slot := by tauto
    simp [writeSlot, otherSlotNe]
  · simp [writeSlot, samePage]

/--
`index` items are in place, the links of all pages before `page` are in
place, and every slot from `(page, slot)` on is still blank.
-/
structure Filled (payload base : Nat) (item link : Nat → α) (blank : α)
    (pages : Nat → Nat → α) (page slot index : Nat) : Prop where
  base_le : base ≤ page
  slot_le : slot ≤ payload
  position : index = (page - base) * payload + slot
  items : ∀ m < index, pages (base + m / payload) (m % payload) = item m
  links : ∀ p, base + p < page → pages (base + p) payload = link p
  untouched : ∀ p s, page < p ∨ (p = page ∧ slot ≤ s) → pages p s = blank

namespace Filled

variable {payload base page slot index : Nat} {item link : Nat → α}
  {blank : α} {pages : Nat → Nat → α}

theorem start (pages : Nat → Nat → α) (base : Nat)
    (clear : ∀ p s, base ≤ p → pages p s = blank) :
    Filled payload base item link blank pages base 0 0 where
  base_le := le_refl base
  slot_le := Nat.zero_le payload
  position := by simp
  items := by intro m below; omega
  links := by intro p below; omega
  untouched := by
    intro p s later
    exact clear p s (by omega)

/-- The slot the writer stands at is still blank. -/
theorem current_blank
    (filled : Filled payload base item link blank pages page slot index) :
    pages page slot = blank :=
  filled.untouched page slot (Or.inr ⟨rfl, le_refl slot⟩)

/-- Where the next item goes, in terms of its index. -/
theorem current_eq
    (filled : Filled payload base item link blank pages page slot index)
    (room : slot < payload) :
    base + index / payload = page ∧ index % payload = slot := by
  have position := filled.position
  have base_le := filled.base_le
  have quotient : index / payload = page - base := by
    rw [position, Nat.add_comm, Nat.add_mul_div_right _ _ (by omega),
      Nat.div_eq_of_lt room, Nat.zero_add]
  have remainder : index % payload = slot := by
    rw [position, Nat.add_comm, Nat.add_mul_mod_self_right,
      Nat.mod_eq_of_lt room]
  exact ⟨by omega, remainder⟩

theorem writeItem
    (filled : Filled payload base item link blank pages page slot index)
    (room : slot < payload) :
    Filled payload base item link blank
      (writeSlot pages page slot (item index)) page (slot + 1)
      (index + 1) where
  base_le := filled.base_le
  slot_le := room
  position := by
    have position := filled.position
    omega
  items := by
    intro m below
    obtain ⟨pageEq, slotEq⟩ := filled.current_eq room
    by_cases current : m = index
    · subst m
      rw [pageEq, slotEq, writeSlot_same]
    · rw [writeSlot_other, filled.items m (by omega)]
      by_contra same
      push Not at same
      -- equal quotient and remainder would make the indices equal
      have split := Nat.div_add_mod m payload
      have splitIndex := Nat.div_add_mod index payload
      have quotient : m / payload = index / payload := by omega
      rw [quotient, same.2] at split
      omega
  links := by
    intro p below
    rw [writeSlot_other _ _ _ _ _ _ (by omega)]
    exact filled.links p below
  untouched := by
    intro p s later
    rw [writeSlot_other _ _ _ _ _ _ (by omega)]
    exact filled.untouched p s (by omega)

theorem writeLink
    (filled : Filled payload base item link blank pages page payload index)
    (positive : 0 < payload) :
    Filled payload base item link blank
      (writeSlot pages page payload (link (page - base))) (page + 1) 0
      index where
  base_le := by
    have base_le := filled.base_le
    omega
  slot_le := Nat.zero_le payload
  position := by
    have position := filled.position
    have base_le := filled.base_le
    rw [position, show page + 1 - base = page - base + 1 by omega]
    ring
  items := by
    intro m below
    have slotLt := Nat.mod_lt m positive
    rw [writeSlot_other _ _ _ _ _ _ (by omega)]
    exact filled.items m below
  links := by
    intro p below
    by_cases last : base + p = page
    · rw [last, writeSlot_same]
      congr 1
      omega
    · rw [writeSlot_other _ _ _ _ _ _ (by omega)]
      exact filled.links p (by omega)
  untouched := by
    intro p s later
    rw [writeSlot_other _ _ _ _ _ _ (by omega)]
    exact filled.untouched p s (by omega)

/-- The page an item lies on is the current page at the latest. -/
theorem item_page_le
    (filled : Filled payload base item link blank pages page slot index)
    (positive : 0 < slot) :
    base + (index - 1) / payload = page := by
  have position := filled.position
  have slot_le := filled.slot_le
  have base_le := filled.base_le
  have quotient : (index - 1) / payload = page - base := by
    rw [position, show (page - base) * payload + slot - 1 =
      slot - 1 + (page - base) * payload by omega,
      Nat.add_mul_div_right _ _ (by omega),
      Nat.div_eq_of_lt (by omega), Nat.zero_add]
  omega

end Filled

end Dnvme.Lib.ChainedPages
