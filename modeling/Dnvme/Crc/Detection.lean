import Dnvme.Crc.Correctness

/-!
# What the T10-DIF guard detects

A message followed by its own guard has the guard zero, and two messages that
differ in one burst of at most 16 bits have different guards.  Both are facts
about the shift register and hold whatever calls have filled the table
before.
-/

namespace Dnvme.Crc.Detection

open Dnvme.Lib.ShiftRegister
open Dnvme.Crc.Calculate
open Dnvme.Crc.Correctness

/-! ## The guard after other calls -/

/-- The globals that a sequence of calls leaves behind. -/
def globalsAfter (calls : List CrcCall) : CrcGlobals :=
  calls.foldl (fun globals call => (call.execute globals).2) .zero

theorem globalsAfter_cached (calls : List CrcCall) :
    CrcGlobals.Cached (globalsAfter calls) := by
  unfold globalsAfter
  generalize start : CrcGlobals.zero = globals
  have cached : CrcGlobals.Cached globals := by
    rw [← start]
    exact CrcGlobals.zero_cached
  clear start
  induction calls generalizing globals with
  | nil => exact cached
  | cons call rest ih => exact ih _ (execute_spec call cached).2

/-- `crc16_t10_dif` of a byte string, whose size is passed as 32 bits, after
other calls. -/
def t10DifAfter (calls : List CrcCall) (data : List (BitVec 8)) :
    BitVec 16 :=
  (crc16T10Dif (globalsAfter calls) data (data.length % 2 ^ 32)).1

/-- The guard is a run of the register, whatever calls were made before. -/
theorem t10DifAfter_eq_run (calls : List CrcCall) {data : List (BitVec 8)}
    (small : data.length < 2 ^ 32) :
    t10DifAfter calls data =
      run 0x8bb7#16 0#16 (messageBits false data) := by
  have cached := (globalsAfter_cached calls).crc16
  have value := (calculate_spec (by omega) reverse16Bits_eq_reverse
    (initTable_builds (by omega)) cached crc16T10DifConfig data).1
  unfold t10DifAfter crc16T10Dif
  rw [Nat.mod_eq_of_lt small, List.take_length]
  exact value.trans (BitVec.xor_zero)

/-! ## Messages as bits -/

theorem messageBits_append (front back : List (BitVec 8)) :
    messageBits false (front ++ back) =
      messageBits false front ++ messageBits false back :=
  List.flatMap_append

theorem length_messageBits (data : List (BitVec 8)) :
    (messageBits false data).length = 8 * data.length := by
  induction data with
  | nil => rfl
  | cons byte rest ih =>
      have split := messageBits_append [byte] rest
      rw [List.singleton_append] at split
      rw [split, List.length_append, ih, List.length_cons]
      change 8 + _ = _
      omega

/-- A byte is given by its bits. -/
theorem byte_eq_of_bits {one two : BitVec 8}
    (same : (List.range 8).map one.getMsbD = (List.range 8).map two.getMsbD) :
    one = two := by
  apply BitVec.eq_of_getMsbD_eq
  intro index below
  exact (List.map_inj_left.mp same) index (List.mem_range.mpr below)

/-- A message is given by its bits. -/
theorem messageBits_injective (ones : List (BitVec 8)) :
    ∀ {twos : List (BitVec 8)},
      messageBits false ones = messageBits false twos → ones = twos := by
  induction ones with
  | nil =>
      intro twos same
      cases twos with
      | nil => rfl
      | cons two twos =>
          have lengths := congrArg List.length same
          rw [length_messageBits, length_messageBits] at lengths
          simp at lengths
  | cons one ones ih =>
      intro twos same
      cases twos with
      | nil =>
          have lengths := congrArg List.length same
          rw [length_messageBits, length_messageBits] at lengths
          simp at lengths
      | cons two twos =>
          obtain ⟨first, rest⟩ := List.append_inj same rfl
          have byte : one = two := byte_eq_of_bits first
          rw [byte, ih rest]

/-- The two bytes of a guard as they are stored. -/
def guardBytes (guard_ : BitVec 16) : List (BitVec 8) :=
  [(guard_ >>> 8).setWidth 8, guard_.setWidth 8]

/-- The stored bytes are the bits of the guard in order. -/
theorem messageBits_guardBytes (guard_ : BitVec 16) :
    messageBits false (guardBytes guard_) =
      (List.range 16).map guard_.getMsbD := by
  have high (index : Nat) (below : index < 8) :
      ((guard_ >>> 8).setWidth 8).getMsbD index = guard_.getMsbD index := by
    simp only [BitVec.getMsbD, BitVec.getLsbD_setWidth,
      BitVec.getLsbD_ushiftRight]
    rw [show 8 + (8 - 1 - index) = 16 - 1 - index by omega]
    simp [below, show index < 16 by omega, show 8 - 1 - index < 8 by omega]
  have low (index : Nat) (below : index < 8) :
      (guard_.setWidth 8).getMsbD index = guard_.getMsbD (8 + index) := by
    simp only [BitVec.getMsbD, BitVec.getLsbD_setWidth]
    rw [show 16 - 1 - (8 + index) = 8 - 1 - index by omega]
    simp [below, show 8 + index < 16 by omega,
      show 8 - 1 - index < 8 by omega]
  have split : (List.range 16).map guard_.getMsbD =
      (List.range 8).map guard_.getMsbD ++
        (List.range 8).map fun index => guard_.getMsbD (8 + index) := by
    have range : List.range 16 =
        List.range 8 ++ (List.range 8).map (8 + ·) :=
      @List.range_add 8 8
    rw [range, List.map_append, List.map_map]
    rfl
  rw [split]
  change (List.range 8).map _ ++ ((List.range 8).map _ ++ []) = _
  rw [List.append_nil]
  congr 1
  · exact List.map_congr_left fun index member =>
      high index (List.mem_range.mp member)
  · exact List.map_congr_left fun index member =>
      low index (List.mem_range.mp member)

/-! ## Detection -/

/--
The guard of a message followed by its guard is zero, and a burst of at most
16 bits changes the guard.  The calls made before each of them do not matter.
-/
theorem t10_dif_detects :
    (∀ (calls others : List CrcCall) (data : List (BitVec 8)),
      data.length < 2 ^ 32 - 2 →
      t10DifAfter others (data ++ guardBytes (t10DifAfter calls data)) =
        0#16) ∧
    ∀ (calls others : List CrcCall) (ones twos : List (BitVec 8)),
      ones.length < 2 ^ 32 → ones.length = twos.length → ones ≠ twos →
      DifferWithin 16 (messageBits false ones) (messageBits false twos) →
      t10DifAfter calls ones ≠ t10DifAfter others twos := by
  constructor
  · intro calls others data small
    have whole : (data ++ guardBytes (t10DifAfter calls data)).length <
        2 ^ 32 := by
      rw [List.length_append]
      change data.length + 2 < _
      omega
    rw [t10DifAfter_eq_run others whole, messageBits_append, run_append,
      messageBits_guardBytes, ← t10DifAfter_eq_run calls (by omega),
      run_own_bits]
    simp
  · intro calls others ones twos small same differ burst equal
    rw [t10DifAfter_eq_run calls small,
      t10DifAfter_eq_run others (same ▸ small)] at equal
    have lengths : (messageBits false ones).length =
        (messageBits false twos).length := by
      rw [length_messageBits, length_messageBits, same]
    exact differ (messageBits_injective ones
      (run_detects_burst (by omega) (by decide) _ lengths burst equal))

/-- A byte and its guard, and a byte with one bit changed. -/
theorem t10_dif_detects_one_byte :
    t10DifAfter [] ([1#8] ++ guardBytes (t10DifAfter [] [1#8])) = 0#16 ∧
      t10DifAfter [] [0#8] ≠ t10DifAfter [] [1#8] := by
  refine ⟨t10_dif_detects.1 [] [] [1#8] (by decide),
    t10_dif_detects.2 [] [] [0#8] [1#8] (by decide) rfl (by decide)
      ⟨0, fun index differ => ⟨Nat.zero_le _, ?_⟩⟩⟩
  by_contra beyond
  have long : 8 ≤ index := by omega
  exact differ ((List.getElem?_eq_none_iff.mpr long).trans
    (List.getElem?_eq_none_iff.mpr long).symm)

end Dnvme.Crc.Detection
