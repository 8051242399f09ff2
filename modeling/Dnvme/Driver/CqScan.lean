import Dnvme.Lib.PhasedRing
import Dnvme.Driver.Reap

/-!
# What a completion scan finds

`dnvme_get_cqe_remain` has no bound but the phase bits.  This module says what
it should return, the number of fresh entries from the head on, and when it
does: the 16-bit tail of a ring of 65536 entries wraps without the test that
flips the phase.

The expectation at the `k`-th entry from the head is the expectation at the
index `start + k` of a ring that was filled from its beginning.
-/

namespace Dnvme.Driver.CqScan

open Dnvme.Driver
open Dnvme.Lib.PhasedRing

/-! ## Fresh entries -/

/-- The slot of the `k`-th entry from the head. -/
def slotFrom (cq : NvmeCq) (k : Nat) : Nat :=
  (cq.headPtr + k) % cq.elements

/-- The phase the `k`-th entry from the head has when it is new: it flips
after the last slot. -/
def expectedPhase (cq : NvmeCq) (k : Nat) : Nat :=
  (cq.pbitNewEntry + (cq.headPtr + k) / cq.elements) % 2

/-- The `k`-th entry from the head is new. -/
def Fresh (cq : NvmeCq) (k : Nat) : Prop :=
  (cq.entries (slotFrom cq k)).phase = expectedPhase cq k

instance (cq : NvmeCq) (k : Nat) : Decidable (Fresh cq k) :=
  inferInstanceAs (Decidable (_ = _))

/-- Exactly `count` entries from the head on are new. -/
structure RunLength (cq : NvmeCq) (count : Nat) : Prop where
  fresh : ∀ k, k < count → Fresh cq k
  ends : ¬ Fresh cq count

/-- The head lies in the ring and the phase is a bit. -/
structure Sane (cq : NvmeCq) : Prop where
  head : cq.headPtr < cq.elements
  bit : cq.pbitNewEntry < 2

theorem Sane.positive {cq : NvmeCq} (sane : Sane cq) : 0 < cq.elements :=
  Nat.zero_lt_of_lt sane.head

/-- The number of entries a ring with this head and phase has passed, up to
whole turns of two laps. -/
def start (cq : NvmeCq) : Nat :=
  if cq.pbitNewEntry = 1 then cq.headPtr else cq.headPtr + cq.elements

section Ring

variable {cq : NvmeCq}

theorem slotFrom_eq (cq : NvmeCq) (k : Nat) :
    slotFrom cq k = (start cq + k) % cq.elements := by
  unfold slotFrom start
  split
  · rfl
  · rw [Nat.add_right_comm, Nat.add_mod_right]

theorem expectedPhase_eq (sane : Sane cq) (k : Nat) :
    expectedPhase cq k = lapPhase cq.elements (start cq + k) := by
  have bit := sane.bit
  unfold expectedPhase lapPhase start
  split
  · omega
  · rw [Nat.add_right_comm, Nat.add_div_right _ sane.positive]
    omega

theorem expectedPhase_zero (sane : Sane cq) :
    expectedPhase cq 0 = cq.pbitNewEntry := by
  rw [expectedPhase, Nat.add_zero, Nat.div_eq_of_lt sane.head, Nat.add_zero,
    Nat.mod_eq_of_lt sane.bit]

theorem slotFrom_lt (sane : Sane cq) (k : Nat) :
    slotFrom cq k < cq.elements :=
  Nat.mod_lt _ sane.positive

theorem slotFrom_zero (sane : Sane cq) : slotFrom cq 0 = cq.headPtr :=
  Nat.mod_eq_of_lt sane.head

/-- One lap later the same slot is expected to have the other phase. -/
theorem not_fresh_lap (sane : Sane cq) (k : Nat) (fresh : Fresh cq k) :
    ¬ Fresh cq (k + cq.elements) := by
  intro again
  have flips := lapPhase_add_size sane.positive (start cq + k)
  have slot : slotFrom cq (k + cq.elements) = slotFrom cq k := by
    rw [slotFrom, ← Nat.add_assoc, Nat.add_mod_right, slotFrom]
  unfold Fresh at fresh again
  rw [slot, fresh, expectedPhase_eq sane, expectedPhase_eq sane,
    ← Nat.add_assoc] at again
  exact flips again.symm

/-- Whatever the slots hold, a lap meets an entry that is not new. -/
theorem runLength_exists (sane : Sane cq) :
    ∃ count, count ≤ cq.elements ∧ RunLength cq count := by
  have stops : ∃ k, ¬ Fresh cq k := by
    by_cases fresh : Fresh cq 0
    · exact ⟨0 + cq.elements, not_fresh_lap sane 0 fresh⟩
    · exact ⟨0, fresh⟩
  refine ⟨Nat.find stops, ?_, ?_, Nat.find_spec stops⟩
  · by_cases fresh : Fresh cq 0
    · have lap := not_fresh_lap sane 0 fresh
      rw [Nat.zero_add] at lap
      exact Nat.find_min' stops lap
    · rw [(Nat.find_eq_zero stops).mpr fresh]
      exact Nat.zero_le _
  · intro k below
    exact not_not.mp (Nat.find_min stops below)

theorem RunLength.unique {count other : Nat} (run : RunLength cq count)
    (again : RunLength cq other) : count = other := by
  rcases Nat.lt_trichotomy count other with less | same | more
  · exact absurd (again.fresh count less) run.ends
  · exact same
  · exact absurd (run.fresh other more) again.ends

theorem RunLength.le_elements (sane : Sane cq) {count : Nat}
    (run : RunLength cq count) : count ≤ cq.elements := by
  rcases runLength_exists sane with ⟨other, bound, again⟩
  rw [run.unique again]
  exact bound

end Ring

/-! ## The walk -/

/-- The scan walks from an entry to the first one with another phase, as long
as the 16-bit tail can hold the slots it passes. -/
theorem scanCqe_walk {size finish : Nat}
    {slot : Nat → Option NvmeCompletion} (positive : 0 < size)
    (distance : Nat) :
    ∀ (fuel index remain : Nat), index + distance = finish →
      distance < fuel →
      (∀ k, index ≤ k → k < finish → k % size + 1 < 2 ^ 16 ∧ ∃ entry,
        slot (k % size) = some entry ∧ entry.phase = lapPhase size k) →
      (∃ entry, slot (finish % size) = some entry ∧
        entry.phase ≠ lapPhase size finish) →
      scanCqe slot size fuel (index % size) (lapPhase size index) remain =
        .ok (finish % size, remain + distance) := by
  induction distance with
  | zero =>
      intro fuel index remain position enough _ stale
      rcases stale with ⟨entry, found, phase⟩
      obtain ⟨fuel, rfl⟩ : ∃ n, fuel = n + 1 := ⟨fuel - 1, by omega⟩
      rw [Nat.add_zero] at position
      subst finish
      rw [scanCqe, found]
      simp [phase]
  | succ distance ih =>
      intro fuel index remain position enough fresh stale
      obtain ⟨fuel, rfl⟩ : ∃ n, fuel = n + 1 := ⟨fuel - 1, by omega⟩
      rcases fresh index (le_refl _) (by omega) with
        ⟨small, entry, found, phase⟩
      have rest := ih fuel (index + 1) (remain + 1) (by omega) (by omega)
        (fun k reached below => fresh k (by omega) below) stale
      have next := advance_place positive index
      have word : u16 (index % size + 1) = index % size + 1 := by
        rw [u16, Nat.mod_eq_of_lt small]
      rw [scanCqe, found]
      simp only [phase, if_true, word]
      rw [show remain + (distance + 1) = remain + 1 + distance by omega,
        ← rest]
      unfold advance place at next
      dsimp only at next
      split at next
      · rename_i wraps
        rw [Prod.mk.injEq] at next
        rw [if_pos wraps, ← next.1, ← next.2]
      · rename_i stays
        rw [Prod.mk.injEq] at next
        rw [if_neg stays, ← next.1, ← next.2]

/-- The walk from the head of a queue, through any memory that holds its
entries. -/
theorem scanCqe_run {cq : NvmeCq} {slot : Nat → Option NvmeCompletion}
    {count fuel : Nat} (sane : Sane cq)
    (held : ∀ i, i < cq.elements → slot i = some (cq.entries i))
    (run : RunLength cq count)
    (small : ∀ k, k < count → slotFrom cq k + 1 < 2 ^ 16)
    (enough : count < fuel) :
    scanCqe slot cq.elements fuel cq.headPtr cq.pbitNewEntry 0 =
      .ok (slotFrom cq count, count) := by
  have walk := @scanCqe_walk cq.elements (start cq + count) slot
    sane.positive count fuel (start cq) 0 rfl enough
  rw [← slotFrom_eq cq count, Nat.zero_add] at walk
  have head := slotFrom_eq cq 0
  have phase := expectedPhase_eq sane 0
  rw [slotFrom_zero sane, Nat.add_zero] at head
  rw [expectedPhase_zero sane, Nat.add_zero] at phase
  rw [head, phase]
  apply walk
  · intro k reached below
    obtain ⟨n, rfl⟩ := Nat.exists_eq_add_of_le reached
    rw [← slotFrom_eq, ← expectedPhase_eq sane]
    exact ⟨small n (by omega), _, held _ (slotFrom_lt sane n),
      run.fresh n (by omega)⟩
  · rw [← expectedPhase_eq sane]
    exact ⟨_, held _ (slotFrom_lt sane count), run.ends⟩

/-! ## Rings of 65536 entries -/

/-- In the largest ring the tail wraps by overflow and the phase stays: the
scan stops at the first entry with another phase than the first. -/
theorem scanCqe_overflow {slot : Nat → Option NvmeCompletion}
    {phase last counted : Nat} (fuel : Nat) :
    ∀ (tail remain : Nat), tail < 2 ^ 16 →
      scanCqe slot (2 ^ 16) fuel tail phase remain = .ok (last, counted) →
      ∃ distance, counted = remain + distance ∧
        (∀ k, k < distance → ∃ entry,
          slot ((tail + k) % 2 ^ 16) = some entry ∧ entry.phase = phase) ∧
        ∃ entry, slot ((tail + distance) % 2 ^ 16) = some entry ∧
          entry.phase ≠ phase := by
  induction fuel with
  | zero =>
      intro tail remain _ result
      cases result
  | succ fuel ih =>
      intro tail remain below result
      have here : tail % 2 ^ 16 = tail := Nat.mod_eq_of_lt below
      have next : ¬ u16 (tail + 1) ≥ 2 ^ 16 := by
        have := Nat.mod_lt (tail + 1) (Nat.two_pow_pos 16)
        unfold u16
        omega
      rw [scanCqe] at result
      split at result
      · cases result
      · rename_i entry found
        split at result
        · rename_i fresh
          rcases ih (u16 (tail + 1)) (remain + 1) (not_le.mp next) result with
            ⟨distance, count, walked, stops⟩
          have shift (k : Nat) :
              (u16 (tail + 1) + k) % 2 ^ 16 = (tail + (k + 1)) % 2 ^ 16 := by
            rw [u16, Nat.mod_add_mod]
            congr 1
            omega
          refine ⟨distance + 1, by omega, ?_, ?_⟩
          · intro k passed
            cases k with
            | zero => exact ⟨entry, by rw [Nat.add_zero, here, found], fresh⟩
            | succ k =>
                rw [← shift]
                exact walked k (by omega)
          · rw [← shift]
            exact stops
        · rename_i stale
          cases result
          refine ⟨0, rfl, ?_, entry, ?_, stale⟩
          · intro k none_
            omega
          · rw [Nat.add_zero, here, found]

/-- A ring of one phase is walked for ever. -/
theorem scanCqe_endless {slot : Nat → Option NvmeCompletion} {phase : Nat}
    (uniform : ∀ i, i < 2 ^ 16 → ∃ entry, slot i = some entry ∧
      entry.phase = phase) (fuel : Nat) :
    ∀ tail remain, tail < 2 ^ 16 →
      scanCqe slot (2 ^ 16) fuel tail phase remain =
        .error .endlessLoop := by
  induction fuel with
  | zero =>
      intro tail remain _
      rfl
  | succ fuel ih =>
      intro tail remain below
      rcases uniform tail below with ⟨entry, found, fresh⟩
      have next : u16 (tail + 1) < 2 ^ 16 := Nat.mod_lt _ (Nat.two_pow_pos 16)
      rw [scanCqe, found]
      dsimp only
      rw [if_pos fresh, if_neg (not_le.mpr next), ih _ _ next]

/-! ## The scan of a queue -/

/-- A slot that can be read holds its entry. -/
theorem entries_of_cqSlot {ndev : NvmeDevice} {cq : NvmeCq} {slot : Nat}
    {entry : NvmeCompletion} (found : ndev.cqSlot cq slot = some entry) :
    cq.entries slot = entry := by
  unfold NvmeDevice.cqSlot at found
  split at found
  · exact Option.some.inj found
  · cases found

/-- Every slot of the ring lies in queue memory. -/
def InMemory (ndev : NvmeDevice) (cq : NvmeCq) : Prop :=
  ∀ slot, slot < cq.elements → slotInside (ndev.cqSpan cq) cq.cqes slot

theorem InMemory.cqSlot_eq {ndev : NvmeDevice} {cq : NvmeCq}
    (inMemory : InMemory ndev cq) {slot : Nat} (below : slot < cq.elements) :
    ndev.cqSlot cq slot = some (cq.entries slot) :=
  if_pos (inMemory slot below)

/-- The scan of a ring that the 16-bit tail can walk. -/
theorem dnvmeGetCqeRemain_run {ndev : NvmeDevice} {cq : NvmeCq}
    {count : Nat} (sane : Sane cq) (inMemory : InMemory ndev cq)
    (fits : cq.elements < 2 ^ 16) (run : RunLength cq count) :
    dnvmeGetCqeRemain ndev cq =
      .ok (count, { cq with tailPtr := slotFrom cq count }) := by
  have bound := run.le_elements sane
  rw [dnvmeGetCqeRemain, scanCqe_run sane (fun _ => inMemory.cqSlot_eq) run
    (fun k _ => lt_of_le_of_lt (slotFrom_lt sane k) fits)
    (show count < scanFuel by unfold scanFuel; omega)]

/-- The scan ends, reads no slot outside the ring, leaves the tail inside and
returns the number of new entries. -/
def ScanExact (ndev : NvmeDevice) (cq : NvmeCq) : Prop :=
  ∃ count tail,
    dnvmeGetCqeRemain ndev cq = .ok (count, { cq with tailPtr := tail }) ∧
      scanCqe (fun slot =>
          if slot < cq.elements then ndev.cqSlot cq slot else none)
        cq.elements scanFuel cq.headPtr cq.pbitNewEntry 0 =
          .ok (tail, count) ∧
      tail < cq.elements ∧ count ≤ cq.elements ∧ RunLength cq count

/-- The scan meets an entry that is not new before the ring ends. -/
def StopsInLap (cq : NvmeCq) : Prop :=
  ∃ slot, cq.headPtr ≤ slot ∧ slot < cq.elements ∧
    (cq.entries slot).phase ≠ cq.pbitNewEntry

section Exact

variable {ndev : NvmeDevice} {cq : NvmeCq}

/-- Before the end of the ring the position is the distance from the head. -/
theorem slotFrom_inside {k : Nat} (inside : cq.headPtr + k < cq.elements) :
    slotFrom cq k = cq.headPtr + k :=
  Nat.mod_eq_of_lt inside

theorem expectedPhase_inside (sane : Sane cq) {k : Nat}
    (inside : cq.headPtr + k < cq.elements) :
    expectedPhase cq k = cq.pbitNewEntry := by
  rw [expectedPhase, Nat.div_eq_of_lt inside, Nat.add_zero,
    Nat.mod_eq_of_lt sane.bit]

/-- The tail never has to count up to `2 ^ 16`. -/
theorem slots_fit (sane : Sane cq) (most : cq.elements ≤ 2 ^ 16)
    (fits : cq.elements < 2 ^ 16 ∨ StopsInLap cq) {count : Nat}
    (run : RunLength cq count) :
    ∀ k, k < count → slotFrom cq k + 1 < 2 ^ 16 := by
  intro k below
  rcases fits with small | ⟨slot, after, inside, stale⟩
  · exact lt_of_le_of_lt (slotFrom_lt sane k) small
  · obtain ⟨n, rfl⟩ := Nat.exists_eq_add_of_le after
    have stops : ¬ n < count := by
      intro passed
      have fresh := run.fresh n passed
      rw [Fresh, slotFrom_inside inside,
        expectedPhase_inside sane inside] at fresh
      exact stale fresh
    rw [slotFrom_inside (by omega)]
    omega

/-- A scan that wraps in the largest ring does not count the new entries. -/
theorem not_scanExact_overflow (sane : Sane cq)
    (largest : cq.elements = 2 ^ 16) (inMemory : InMemory ndev cq)
    (uniform : ∀ slot, cq.headPtr ≤ slot → slot < cq.elements →
      (cq.entries slot).phase = cq.pbitNewEntry) : ¬ ScanExact ndev cq := by
  rintro ⟨count, tail, result, -, -, -, run⟩
  have head := sane.head
  have bit := sane.bit
  -- the first entry after the wrap
  obtain ⟨wrap, position⟩ : ∃ wrap, cq.headPtr + wrap = cq.elements :=
    ⟨cq.elements - cq.headPtr, by omega⟩
  have slot : slotFrom cq wrap = 0 := by
    rw [slotFrom, position, Nat.mod_self]
  have flipped : expectedPhase cq wrap ≠ cq.pbitNewEntry := by
    rw [expectedPhase, position, Nat.div_self sane.positive]
    omega
  rw [dnvmeGetCqeRemain] at result
  split at result
  · cases result
  · rename_i last counted scanned
    rw [Except.ok.injEq, Prod.mk.injEq] at result
    rw [largest] at scanned
    rcases scanCqe_overflow _ _ _ (largest ▸ head) scanned with
      ⟨distance, distance_eq, walked, entry, found, stale⟩
    have same : distance = count := by omega
    subst distance
    rw [← largest] at walked found
    change ndev.cqSlot cq (slotFrom cq count) = some entry at found
    rw [inMemory.cqSlot_eq (slotFrom_lt sane count),
      Option.some.injEq] at found
    subst entry
    rcases Nat.lt_trichotomy count wrap with before | here | after
    · apply stale
      rw [slotFrom_inside (by omega)]
      exact uniform _ (by omega) (by omega)
    · subst count
      apply run.ends
      rw [Fresh]
      have one : (cq.entries (slotFrom cq wrap)).phase < 2 :=
        Nat.mod_lt _ (by decide)
      have other : expectedPhase cq wrap < 2 := Nat.mod_lt _ (by decide)
      omega
    · rcases walked wrap after with ⟨entry, again, phase⟩
      change ndev.cqSlot cq (slotFrom cq wrap) = some entry at again
      rw [inMemory.cqSlot_eq (slotFrom_lt sane wrap),
        Option.some.injEq] at again
      have fresh := run.fresh wrap after
      rw [Fresh, again, phase] at fresh
      exact flipped fresh.symm

/-- A scan is exact unless it has to wrap in a ring of 65536 entries. -/
theorem scanExact_iff (sane : Sane cq) (most : cq.elements ≤ 2 ^ 16)
    (inMemory : InMemory ndev cq) :
    ScanExact ndev cq ↔ cq.elements < 2 ^ 16 ∨ StopsInLap cq := by
  constructor
  · intro exact_
    by_contra fails
    rw [not_or, not_lt] at fails
    refine not_scanExact_overflow sane (le_antisymm most fails.1) inMemory ?_
      exact_
    intro slot after below
    by_contra stale
    exact fails.2 ⟨slot, after, below, stale⟩
  · intro fits
    rcases runLength_exists sane with ⟨count, bound, run⟩
    have enough : count < scanFuel := by unfold scanFuel; omega
    have small := slots_fit sane most fits run
    refine ⟨count, slotFrom cq count, ?_, ?_, slotFrom_lt sane count, bound,
      run⟩
    · rw [dnvmeGetCqeRemain, scanCqe_run sane (fun _ => inMemory.cqSlot_eq)
        run small enough]
    · refine scanCqe_run sane (fun i below => ?_) run small enough
      rw [if_pos below, inMemory.cqSlot_eq below]

end Exact

/-- A queue of two entries with one new entry at its end: the scan wraps. -/
def wrappingQueue : NvmeCq :=
  { NvmePrepCq.queue ⟨2, 1, true, 0, 0, false⟩ nvmeCqes 4096 with
    headPtr := 1
    entries := fun _ => ⟨0, 0, 0, 0, 1⟩ }

theorem scanExact_wrapping :
    ScanExact (NvmeDevice.fresh 2 false false false) wrappingQueue := by
  refine (scanExact_iff ⟨by decide, by decide⟩ (by decide) ?_).mpr
    (.inl (by decide))
  unfold InMemory
  decide

/-- The queue `dnvme_prepare_cq` makes for the largest request, after a device
that ignores the full condition wrote every slot once. -/
def largestQueue : NvmeCq :=
  { NvmePrepCq.queue ⟨65536, 1, true, 0, 0, false⟩ nvmeCqes 4096 with
    entries := fun _ => ⟨0, 0, 0, 0, 1⟩ }

/-- The largest accepted queue can make the scan run for ever. -/
theorem scan_endless_in_largest_queue :
    (dnvmePrepareCq ⟨true, some 4096, true⟩ true
        (NvmeDevice.fresh 65536 false false false)
        ⟨65536, 1, true, 0, 0, false⟩).1 = 0 ∧
      Sane largestQueue ∧
      InMemory (NvmeDevice.fresh 65536 false false false) largestQueue ∧
      (∀ fuel, scanCqe
        ((NvmeDevice.fresh 65536 false false false).cqSlot largestQueue)
        largestQueue.elements fuel largestQueue.headPtr
        largestQueue.pbitNewEntry 0 = .error .endlessLoop) ∧
      ¬ ScanExact (NvmeDevice.fresh 65536 false false false)
        largestQueue := by
  have inMemory :
      InMemory (NvmeDevice.fresh 65536 false false false) largestQueue := by
    intro slot below
    change slot < 65536 at below
    have bound : (slot + 1) * 2 ^ 4 ≤ 65536 * 2 ^ 4 % 2 ^ 32 := by omega
    exact decide_eq_true bound
  have sane : Sane largestQueue := ⟨by decide, by decide⟩
  refine ⟨by decide, sane, inMemory, ?_, ?_⟩
  · intro fuel
    exact scanCqe_endless (fun i below => ⟨_, inMemory.cqSlot_eq below, rfl⟩)
      fuel 0 0 (by decide)
  · exact not_scanExact_overflow sane rfl inMemory fun _ _ _ => rfl

/-! ## Moving the head -/

section Head

variable {cq : NvmeCq} {count : Nat}

theorem updateCqHead_elements (cq : NvmeCq) (count : Nat) :
    (updateCqHead cq count).elements = cq.elements := by
  unfold updateCqHead
  dsimp only
  split <;> rfl

theorem updateCqHead_entries (cq : NvmeCq) (count : Nat) :
    (updateCqHead cq count).entries = cq.entries := by
  unfold updateCqHead
  dsimp only
  split <;> rfl

/-- The head and the phase move to those of the entry `count` further on. -/
theorem updateCqHead_place (sane : Sane cq) (fits : cq.elements ≤ 2 ^ 16)
    (less : count < cq.elements) :
    (updateCqHead cq count).headPtr = slotFrom cq count ∧
      (updateCqHead cq count).pbitNewEntry = expectedPhase cq count := by
  have head := sane.head
  have bit := sane.bit
  have word : u32 (cq.headPtr + count) = cq.headPtr + count :=
    Nat.mod_eq_of_lt (by omega)
  have small : u16 (slotFrom cq count) = slotFrom cq count :=
    Nat.mod_eq_of_lt (lt_of_lt_of_le (slotFrom_lt sane count) fits)
  unfold updateCqHead
  dsimp only
  rw [word]
  by_cases wraps : cq.headPtr + count ≥ cq.elements
  · have lap : (cq.headPtr + count) / cq.elements = 1 :=
      Nat.div_eq_of_lt_le (by omega) (by omega)
    rw [if_pos wraps, expectedPhase, lap]
    refine ⟨small, ?_⟩
    dsimp only
    split <;> omega
  · rw [if_neg wraps, expectedPhase_inside sane (not_le.mp wraps)]
    rw [slotFrom_inside (not_le.mp wraps)] at small ⊢
    exact ⟨small, rfl⟩

theorem Sane.updateCqHead (sane : Sane cq) (fits : cq.elements ≤ 2 ^ 16)
    (less : count < cq.elements) : Sane (updateCqHead cq count) := by
  rcases updateCqHead_place sane fits less with ⟨head, phase⟩
  constructor
  · rw [head, updateCqHead_elements]
    exact slotFrom_lt sane count
  · rw [phase]
    exact Nat.mod_lt _ (by decide)

/-- Positions from the moved head are positions further on. -/
theorem slotFrom_updateCqHead (sane : Sane cq) (fits : cq.elements ≤ 2 ^ 16)
    (less : count < cq.elements) (k : Nat) :
    slotFrom (updateCqHead cq count) k = slotFrom cq (count + k) ∧
      expectedPhase (updateCqHead cq count) k =
        expectedPhase cq (count + k) := by
  rcases updateCqHead_place sane fits less with ⟨head, phase⟩
  have split : cq.headPtr + (count + k) = slotFrom cq count + k +
      cq.elements * ((cq.headPtr + count) / cq.elements) := by
    have := Nat.mod_add_div (cq.headPtr + count) cq.elements
    rw [slotFrom]
    omega
  constructor
  · change _ = (cq.headPtr + (count + k)) % cq.elements
    rw [split, Nat.add_mul_mod_self_left, slotFrom, head,
      updateCqHead_elements]
  · rw [expectedPhase, head, phase, updateCqHead_elements, expectedPhase,
      expectedPhase, split, Nat.add_mul_div_left _ _ sane.positive]
    omega

/-- The new entries behind the moved head are the rest of the new entries. -/
theorem fresh_updateCqHead (sane : Sane cq) (fits : cq.elements ≤ 2 ^ 16)
    (less : count < cq.elements) (k : Nat) :
    Fresh (updateCqHead cq count) k ↔ Fresh cq (count + k) := by
  rcases slotFrom_updateCqHead sane fits less k with ⟨slot, expected⟩
  rw [Fresh, Fresh, slot, expected, updateCqHead_entries]

/-- What is left after a reap is what was there less what was reaped. -/
theorem RunLength.updateCqHead {total : Nat} (sane : Sane cq)
    (fits : cq.elements ≤ 2 ^ 16) (less : count < cq.elements)
    (within : count ≤ total) (run : RunLength cq total) :
    RunLength (updateCqHead cq count) (total - count) where
  fresh k below :=
    (fresh_updateCqHead sane fits less k).mpr (run.fresh _ (by omega))
  ends left := by
    have last := (fresh_updateCqHead sane fits less _).mp left
    rw [Nat.add_sub_cancel' within] at last
    exact run.ends last

end Head

end Dnvme.Driver.CqScan
