import Mathlib

/-!
# Linear feedback shift registers over bit vectors

A register of width `w` is clocked towards its most significant bit: the bit
that leaves selects whether the feedback polynomial is added.  Everything
here holds for an arbitrary width and an arbitrary polynomial.  The two
results that matter to a table-driven implementation are
`feedByte_eq_clock` (eight input bits may be added to the top of the
register at once) and `clock_eight_split` (eight clocks of a register are
eight clocks of its top byte, plus the rest moved up by a byte).

What makes a register a code are `run_own_bits` (it is cleared by its own
bits) and `run_detects_burst`: with a constant term in the polynomial, no
burst of errors that fits into the register goes unnoticed.
-/

namespace Dnvme.Lib.ShiftRegister

variable {width : Nat}

/-- One clock of the register without an input bit. -/
def clock (poly register : BitVec width) : BitVec width :=
  if register.msb then (register <<< 1) ^^^ poly else register <<< 1

/-- One clock of the register that consumes one input bit. -/
def clockBit (poly register : BitVec width) (bit : Bool) : BitVec width :=
  if register.msb ^^ bit then (register <<< 1) ^^^ poly else register <<< 1

/-- Consume the eight bits of a byte, most significant bit first. -/
def feedByte (poly register : BitVec width) (byte : BitVec 8) :
    BitVec width :=
  (List.range 8).foldl
    (fun current index => clockBit poly current (byte.getMsbD index))
    register

/-- A byte placed in the topmost eight bits of the register. -/
def topByte (width : Nat) (byte : BitVec 8) : BitVec width :=
  byte.setWidth width <<< (width - 8)

/-! ## Linearity -/

theorem clock_xor (poly left right : BitVec width) :
    clock poly (left ^^^ right) = clock poly left ^^^ clock poly right := by
  unfold clock
  rw [BitVec.msb_xor, BitVec.shiftLeft_xor_distrib]
  cases left.msb <;> cases right.msb
  · simp
  · simp [BitVec.xor_assoc]
  · simp only [Bool.bne_false, if_true, Bool.false_eq_true, if_false]
    rw [BitVec.xor_assoc, BitVec.xor_comm (right <<< 1) poly,
      ← BitVec.xor_assoc]
  · simp only [bne_self_eq_false, Bool.false_eq_true, if_false, if_true]
    rw [BitVec.xor_comm (right <<< 1) poly, BitVec.xor_assoc,
      ← BitVec.xor_assoc poly poly]
    simp

theorem clock_iterate_xor (poly left right : BitVec width) (count : Nat) :
    (clock poly)^[count] (left ^^^ right) =
      (clock poly)^[count] left ^^^ (clock poly)^[count] right := by
  induction count generalizing left right with
  | zero => rfl
  | succ count ih =>
      simp only [Function.iterate_succ_apply, clock_xor, ih]

/-- A register whose top bits are clear is only shifted. -/
theorem clock_iterate_of_clear (poly register : BitVec width) (count : Nat)
    (clear : ∀ index < count, register.getMsbD index = false) :
    (clock poly)^[count] register = register <<< count := by
  induction count with
  | zero => simp
  | succ count ih =>
      have shifted := ih fun index bound => clear index (by omega)
      have top : (register <<< count).msb = false := by
        rw [BitVec.msb_shiftLeft]
        exact clear count (by omega)
      rw [Function.iterate_succ_apply', shifted, clock, top]
      simp [BitVec.shiftLeft_add]

/-! ## Input bytes -/

theorem topByte_shiftLeft_eight (byte : BitVec 8) (wide : 8 ≤ width) :
    topByte width byte <<< 8 = BitVec.ofNat width 0 := by
  unfold topByte
  rw [← BitVec.shiftLeft_add]
  apply BitVec.eq_of_getLsbD_eq
  intro index bound
  simp only [BitVec.getLsbD_shiftLeft, BitVec.getLsbD_zero]
  simp only [show width - 8 + 8 = width by omega, bound, decide_true,
    Bool.not_true, Bool.and_false, Bool.false_and]

theorem msb_topByte_shiftLeft (byte : BitVec 8) (index : Nat)
    (wide : 8 ≤ width) (bound : index < 8) :
    (topByte width byte <<< index).msb = byte.getMsbD index := by
  unfold topByte
  rw [← BitVec.shiftLeft_add, BitVec.msb_eq_getLsbD_last,
    BitVec.getLsbD_shiftLeft, BitVec.getLsbD_setWidth, BitVec.getMsbD]
  have position :
      width - 1 - (width - 8 + index) = 8 - 1 - index := by omega
  have inside : 8 - 1 - index < width := by omega
  have above : ¬ width - 1 < width - 8 + index := by omega
  simp [position, inside, above, bound, show 0 < width by omega]

/--
After `count` input bits the register differs from the one that had the whole
byte added at the start only by the input bits still waiting at the top.
-/
theorem feed_prefix (poly register : BitVec width) (byte : BitVec 8)
    (wide : 8 ≤ width) (count : Nat) (bound : count ≤ 8) :
    (clock poly)^[count] (register ^^^ topByte width byte) =
      (List.range count).foldl
          (fun current index => clockBit poly current (byte.getMsbD index))
          register ^^^
        (topByte width byte <<< count) := by
  induction count with
  | zero => simp
  | succ count ih =>
      rw [Function.iterate_succ_apply', ih (by omega), List.range_succ,
        List.foldl_append]
      generalize (List.range count).foldl
        (fun current index => clockBit poly current (byte.getMsbD index))
        register = fed
      have top := @msb_topByte_shiftLeft width byte count
        wide (by omega)
      simp only [clock, clockBit, List.foldl_cons, List.foldl_nil,
        BitVec.msb_xor, top, BitVec.shiftLeft_xor_distrib,
        ← BitVec.shiftLeft_add]
      split
      · rw [BitVec.xor_assoc, BitVec.xor_comm _ poly, ← BitVec.xor_assoc]
      · rfl

/-- Feeding a byte is adding it to the top and clocking eight times. -/
theorem feedByte_eq_clock (poly register : BitVec width) (byte : BitVec 8)
    (wide : 8 ≤ width) :
    feedByte poly register byte =
      (clock poly)^[8] (register ^^^ topByte width byte) := by
  have whole := feed_prefix poly register byte wide 8 (le_refl 8)
  rw [topByte_shiftLeft_eight byte wide, BitVec.xor_zero] at whole
  exact whole.symm

/-! ## Splitting off the top byte -/

/-- The topmost eight bits of a register. -/
def highByte (register : BitVec width) : BitVec 8 :=
  (register >>> (width - 8)).setWidth 8

theorem highByte_xor_topByte (register : BitVec width) (byte : BitVec 8)
    (wide : 8 ≤ width) :
    highByte (register ^^^ topByte width byte) =
      highByte register ^^^ byte := by
  apply BitVec.eq_of_getLsbD_eq
  intro index bound
  simp only [highByte, topByte, BitVec.getLsbD_setWidth,
    BitVec.getLsbD_ushiftRight, BitVec.getLsbD_xor,
    BitVec.getLsbD_shiftLeft, bound, decide_true, Bool.true_and]
  simp [show width - 8 + index < width by omega,
    show index < width by omega]

/-- Clearing the top byte leaves a register with eight clear top bits. -/
theorem clear_xor_topByte_highByte (register : BitVec width)
    (wide : 8 ≤ width) (index : Nat) (bound : index < 8) :
    (register ^^^ topByte width (highByte register)).getMsbD index =
      false := by
  have position :
      width - 1 - index - (width - 8) = 7 - index := by omega
  have inside : width - 1 - index < width := by omega
  have back : width - 8 + (7 - index) = width - 1 - index := by omega
  simp only [BitVec.getMsbD, BitVec.getLsbD_xor, topByte, highByte,
    BitVec.getLsbD_shiftLeft, BitVec.getLsbD_setWidth,
    BitVec.getLsbD_ushiftRight, position, back]
  simp [inside, show ¬ width - 1 - index < width - 8 by omega,
    show 7 - index < 8 by omega, show 7 - index < width by omega]

/-- Eight clocks act on the top byte; the rest moves up by one byte. -/
theorem clock_eight_split (poly register : BitVec width)
    (wide : 8 ≤ width) :
    (clock poly)^[8] register =
      (clock poly)^[8] (topByte width (highByte register)) ^^^
        (register <<< 8) := by
  have rest := clock_iterate_of_clear poly
    (register ^^^ topByte width (highByte register)) 8
    (clear_xor_topByte_highByte register wide)
  rw [clock_iterate_xor, BitVec.shiftLeft_xor_distrib,
    topByte_shiftLeft_eight _ wide, BitVec.xor_zero] at rest
  rw [← rest, BitVec.xor_comm, BitVec.xor_assoc, BitVec.xor_self,
    BitVec.xor_zero]

/-! ## Runs over many bits -/

/-- Consume a list of bits. -/
def run (poly register : BitVec width) (bits : List Bool) : BitVec width :=
  bits.foldl (clockBit poly) register

theorem run_append (poly register : BitVec width) (front back : List Bool) :
    run poly register (front ++ back) =
      run poly (run poly register front) back :=
  List.foldl_append

theorem clockBit_eq_clock (poly register : BitVec width) (bit : Bool) :
    clockBit poly register bit =
      clock poly register ^^^ (if bit then poly else BitVec.ofNat width 0) := by
  unfold clockBit clock
  cases register.msb <;> cases bit
  · simp
  · simp
  · simp
  · simp

/-- One clock is linear in the register and the input bit together. -/
theorem clockBit_xor (poly left right : BitVec width) (one two : Bool) :
    clockBit poly (left ^^^ right) (one ^^ two) =
      clockBit poly left one ^^^ clockBit poly right two := by
  rw [clockBit_eq_clock, clockBit_eq_clock, clockBit_eq_clock, clock_xor,
    BitVec.xor_assoc, BitVec.xor_assoc,
    BitVec.xor_comm (ite _ _ _) (clock poly right ^^^ _), BitVec.xor_assoc]
  congr 2
  cases one <;> cases two
  · simp
  · simp
  · simp
  · simp

/-- So is a run over lists of equal length. -/
theorem run_xor (poly : BitVec width) (ones : List Bool) :
    ∀ (left right : BitVec width) (twos : List Bool),
      ones.length = twos.length →
      run poly (left ^^^ right) (List.zipWith xor ones twos) =
        run poly left ones ^^^ run poly right twos := by
  induction ones with
  | nil =>
      intro left right twos same
      rw [List.length_eq_zero_iff.mp same.symm]
      rfl
  | cons one ones ih =>
      intro left right twos same
      cases twos with
      | nil => cases same
      | cons two twos =>
          have rest : ones.length = twos.length := Nat.succ.inj same
          change run poly (clockBit poly (left ^^^ right) (one ^^ two)) _ = _
          rw [clockBit_xor]
          exact ih _ _ twos rest

theorem run_replicate_false (poly : BitVec width) (count : Nat) :
    run poly (BitVec.ofNat width 0) (List.replicate count false) =
      BitVec.ofNat width 0 := by
  induction count with
  | zero => rfl
  | succ count ih =>
      have still : clockBit poly (BitVec.ofNat width 0) false =
          BitVec.ofNat width 0 := by
        simp [clockBit]
      rw [List.replicate_succ, run, List.foldl_cons, still]
      exact ih

/-- A register that consumes its own bits is only shifted. -/
theorem run_own_bits (poly register : BitVec width) (count : Nat) :
    run poly register ((List.range count).map register.getMsbD) =
      register <<< count := by
  induction count with
  | zero => simp [run]
  | succ count ih =>
      rw [List.range_succ, List.map_append, run_append, ih]
      change clockBit poly (register <<< count) (register.getMsbD count) = _
      rw [clockBit, BitVec.msb_shiftLeft, Bool.xor_self,
        if_neg Bool.false_ne_true, BitVec.shiftLeft_add]

/-! ## Bursts -/

section Burst

variable {poly : BitVec width}

/-- A polynomial with a constant term leaves a trace of every bit that is
fed back. -/
theorem clockBit_even (constant : poly.getLsbD 0 = true)
    {register : BitVec width} {bit : Bool}
    (even : (clockBit poly register bit).getLsbD 0 = false) :
    register.msb = bit ∧ clockBit poly register bit = register <<< 1 := by
  have zero : (register <<< 1).getLsbD 0 = false := by
    simp [BitVec.getLsbD_shiftLeft]
  unfold clockBit at even ⊢
  split at even
  · rw [BitVec.getLsbD_xor, zero, constant] at even
    cases even
  · rename_i same
    rw [if_neg same]
    exact ⟨by simpa using same, rfl⟩

/-- As many bits as the register is wide that lead to zero have met a register
with clear low bits, and are themselves zero if the register was. -/
theorem run_eq_zero (constant : poly.getLsbD 0 = true) (bits : List Bool) :
    ∀ {register : BitVec width}, bits.length ≤ width →
      run poly register bits = BitVec.ofNat width 0 →
      (∀ index, index < width - bits.length →
        register.getLsbD index = false) ∧
      (register = BitVec.ofNat width 0 → ∀ bit ∈ bits, bit = false) := by
  induction bits with
  | nil =>
      intro register _ done
      change register = _ at done
      subst done
      exact ⟨fun index _ => by simp, fun _ bit none_ => by cases none_⟩
  | cons bit bits ih =>
      intro register fits done
      rw [List.length_cons] at fits ⊢
      change run poly (clockBit poly register bit) bits = _ at done
      obtain ⟨low, rest⟩ := ih (by omega) done
      obtain ⟨top, shifts⟩ := clockBit_even constant (low 0 (by omega))
      constructor
      · intro index below
        have moved := low (index + 1) (by omega)
        rw [shifts, BitVec.getLsbD_shiftLeft] at moved
        simpa [show index + 1 < width by omega] using moved
      · intro zero other member
        rcases List.mem_cons.mp member with rfl | later
        · rw [← top, zero]
          simp
        · refine rest ?_ other later
          rw [shifts, zero]
          simp

/-- Zero bits cannot clear a register. -/
theorem run_false_eq_zero (positive : 0 < width)
    (constant : poly.getLsbD 0 = true) (bits : List Bool) :
    ∀ {register : BitVec width}, (∀ bit ∈ bits, bit = false) →
      run poly register bits = BitVec.ofNat width 0 →
      register = BitVec.ofNat width 0 := by
  induction bits with
  | nil =>
      intro register _ done
      exact done
  | cons bit bits ih =>
      intro register clear done
      have first := clear bit List.mem_cons_self
      have next := ih (fun other later =>
        clear other (List.mem_cons_of_mem _ later)) done
      have even : (clockBit poly register bit).getLsbD 0 = false := by
        rw [show clockBit poly register bit = BitVec.ofNat width 0 from next]
        simp
      obtain ⟨top, shifts⟩ := clockBit_even constant even
      rw [show clockBit poly register bit = BitVec.ofNat width 0 from next]
        at shifts
      apply BitVec.eq_of_getLsbD_eq
      intro index below
      rw [BitVec.getLsbD_zero]
      by_cases last : index = width - 1
      · rw [last, ← BitVec.msb_eq_getLsbD_last, top, first]
      · have moved := congrArg (fun v => v.getLsbD (index + 1)) shifts
        simp only [BitVec.getLsbD_zero, BitVec.getLsbD_shiftLeft] at moved
        simpa [show index + 1 < width by omega] using moved.symm

/-- The lists differ in one window of `size` places at most. -/
def DifferWithin (size : Nat) (ones twos : List Bool) : Prop :=
  ∃ start, ∀ index, ones[index]? ≠ twos[index]? →
    start ≤ index ∧ index < start + size

/-- Set bits in one window that is not longer than the register leave a trace
in it. -/
theorem run_burst_eq_zero (positive : 0 < width)
    (constant : poly.getLsbD 0 = true) {bits : List Bool} {start : Nat}
    (window : ∀ index, bits[index]? = some true →
      start ≤ index ∧ index < start + width)
    (zero : run poly (BitVec.ofNat width 0) bits = BitVec.ofNat width 0) :
    ∀ bit ∈ bits, bit = false := by
  have outside {index : Nat} {bit : Bool} (here : bits[index]? = some bit)
      (apart : ¬ (start ≤ index ∧ index < start + width)) : bit = false := by
    cases bit with
    | false => rfl
    | true => exact absurd (window index here) apart
  have before : ∀ bit ∈ bits.take start, bit = false := by
    intro bit member
    obtain ⟨index, here⟩ := List.mem_iff_getElem?.mp member
    rw [List.getElem?_take] at here
    split at here
    · exact outside here (by omega)
    · cases here
  have after : ∀ bit ∈ (bits.drop start).drop width, bit = false := by
    intro bit member
    obtain ⟨index, here⟩ := List.mem_iff_getElem?.mp member
    rw [List.getElem?_drop, List.getElem?_drop] at here
    exact outside here (by omega)
  have split : bits = bits.take start ++
      ((bits.drop start).take width ++ (bits.drop start).drop width) := by
    rw [List.take_append_drop, List.take_append_drop]
  have leading : bits.take start =
      List.replicate (bits.take start).length false :=
    List.eq_replicate_iff.mpr ⟨rfl, before⟩
  rw [split, run_append, run_append, leading, run_replicate_false] at zero
  have middle := run_false_eq_zero positive constant _ after zero
  have inside := (run_eq_zero constant _
    (by rw [List.length_take]; omega) middle).2 rfl
  rw [split]
  intro bit member
  rcases List.mem_append.mp member with early | late
  · exact before bit early
  · rcases List.mem_append.mp late with within | beyond
    · exact inside bit within
    · exact after bit beyond

/-- A register detects every burst that is not longer than itself. -/
theorem run_detects_burst (positive : 0 < width)
    (constant : poly.getLsbD 0 = true) (register : BitVec width)
    {ones twos : List Bool} (same : ones.length = twos.length)
    (burst : DifferWithin width ones twos)
    (equal : run poly register ones = run poly register twos) :
    ones = twos := by
  obtain ⟨start, window⟩ := burst
  have linear := run_xor poly ones register register twos same
  rw [equal, BitVec.xor_self, BitVec.xor_self] at linear
  have value {index : Nat} {bit : Bool}
      (here : (List.zipWith xor ones twos)[index]? = some bit) :
      bit = false ↔ ones[index]? = twos[index]? := by
    rw [List.getElem?_zipWith_eq_some] at here
    obtain ⟨one, two, first, second, rfl⟩ := here
    rw [first, second, Option.some.injEq]
    cases one <;> cases two
    · simp
    · simp
    · simp
    · simp
  have clear := run_burst_eq_zero positive constant
    (fun index set_ => window index fun agree =>
      Bool.noConfusion ((value set_).mpr agree)) linear
  apply List.ext_getElem?
  intro index
  cases here : (List.zipWith xor ones twos)[index]? with
  | some bit =>
      exact (value here).mp (clear bit (List.mem_of_getElem? here))
  | none =>
      rw [List.getElem?_eq_none_iff, List.length_zipWith, ← same,
        Nat.min_self] at here
      rw [List.getElem?_eq_none_iff.mpr here,
        List.getElem?_eq_none_iff.mpr (same ▸ here)]

end Burst

end Dnvme.Lib.ShiftRegister
