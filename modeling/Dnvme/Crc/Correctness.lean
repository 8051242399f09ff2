import Dnvme.Lib.ShiftRegister
import Dnvme.Crc.Calculate

/-!
# Every table-driven CRC is the bit-at-a-time CRC

The reference is a shift register that consumes the message one bit at a
time.  The proof has three independent parts: the reversal helpers reverse,
one table step is eight register clocks, and the globals satisfy a cache
invariant that every call of every width preserves.  Together they show that
the value of a call depends on its own configuration and data only.
-/

namespace Dnvme.Crc.Correctness

open Dnvme.Lib.ShiftRegister
open Dnvme.Crc.Calculate

variable {width : Nat}

/-! ## The reference -/

/-- The bits of a message in the order in which they enter the register. -/
def messageBits (refin : Bool) (data : List (BitVec 8)) : List Bool :=
  data.flatMap fun byte =>
    (List.range 8).map
      (if refin then byte.reverse else byte).getMsbD

/-- The bit-at-a-time CRC of a configuration at a given width. -/
def bitwiseCrc (width : Nat) (config : CrcConfig)
    (data : List (BitVec 8)) : BitVec width :=
  let register := (messageBits config.refin data).foldl
    (clockBit (config.poly.setWidth width)) (config.init.setWidth width)
  (if config.refout then register.reverse else register) ^^^
    config.xorout.setWidth width

/-! ## The reversal helpers -/

theorem reverse8Bits_eq_reverse :
    ∀ data : BitVec 8, reverse8Bits data = data.reverse := by
  decide +kernel

/-- Reversing both halves and exchanging them reverses the whole. -/
theorem reverse_halves (data : BitVec (width + width)) :
    ((data.setWidth width).reverse.setWidth (width + width) <<< width) |||
        ((data >>> width).setWidth width).reverse.setWidth (width + width) =
      data.reverse := by
  apply BitVec.eq_of_getLsbD_eq
  intro index bound
  simp only [BitVec.getLsbD_or, BitVec.getLsbD_shiftLeft,
    BitVec.getLsbD_setWidth, BitVec.getLsbD_reverse, BitVec.getMsbD,
    BitVec.getLsbD_ushiftRight, bound, decide_true, Bool.true_and]
  by_cases lower : index < width
  · have position :
        width + (width - 1 - index) = width + width - 1 - index := by omega
    simp [lower, position, show width - 1 - index < width by omega]
  · have position :
        width - 1 - (index - width) = width + width - 1 - index := by omega
    simp [lower, position, show index - width < width by omega,
      show index - width < width + width by omega,
      show width + width - 1 - index < width by omega]

/-- Truncation after masking the low half only truncates. -/
theorem setWidth_mask (data : BitVec (width + width)) :
    (data &&& BitVec.ofNat (width + width) (2 ^ width - 1)).setWidth width =
      data.setWidth width := by
  apply BitVec.eq_of_getLsbD_eq
  intro index bound
  simp only [BitVec.getLsbD_setWidth, BitVec.getLsbD_and,
    BitVec.getLsbD_ofNat, Nat.testBit_two_pow_sub_one, bound, decide_true]
  simp [show index < width + width by omega]

theorem reverse16Bits_eq_reverse (data : BitVec 16) :
    reverse16Bits data = data.reverse := by
  have low : (data &&& 0xff#16).setWidth 8 = data.setWidth 8 :=
    @setWidth_mask 8 data
  rw [← @reverse_halves 8 data, reverse16Bits, low,
    reverse8Bits_eq_reverse, reverse8Bits_eq_reverse]

theorem reverse32Bits_eq_reverse (data : BitVec 32) :
    reverse32Bits data = data.reverse := by
  have low : (data &&& 0xffff#32).setWidth 16 = data.setWidth 16 :=
    @setWidth_mask 16 data
  rw [← @reverse_halves 16 data, reverse32Bits, low,
    reverse16Bits_eq_reverse, reverse16Bits_eq_reverse]

theorem reverse64Bits_eq_reverse (data : BitVec 64) :
    reverse64Bits data = data.reverse := by
  have low : (data &&& 0xffffffff#64).setWidth 32 = data.setWidth 32 :=
    @setWidth_mask 32 data
  rw [← @reverse_halves 32 data, reverse64Bits, low,
    reverse32Bits_eq_reverse, reverse32Bits_eq_reverse]

/-! ## The table -/

/-- The mask test of the inner loop is the register's leaving bit. -/
theorem remainderStep_eq_clock (positive : 0 < width)
    (poly remainder : BitVec width) :
    remainderStep poly remainder = clock poly remainder := by
  have one : BitVec.twoPow width (width - 1) ≠ BitVec.ofNat width 0 := by
    intro zero
    have value := congrArg BitVec.toNat zero
    rw [BitVec.toNat_twoPow_of_lt (by omega)] at value
    simp at value
  unfold remainderStep clock
  rw [BitVec.and_twoPow, BitVec.msb_eq_getLsbD_last]
  cases remainder.getLsbD (width - 1) <;> simp [one]

theorem foldl_range_eq_iterate {α : Type} (step : α → α) (start : α)
    (count : Nat) :
    (List.range count).foldl (fun current _ => step current) start =
      step^[count] start := by
  induction count with
  | zero => rfl
  | succ count ih =>
      rw [List.range_succ, List.foldl_append, ih,
        Function.iterate_succ_apply']
      rfl

/-- A table entry is eight clocks of its index at the top of the register. -/
theorem tableRemainder_eq_clock (wide : 8 ≤ width) (poly : BitVec width)
    (byte : BitVec 8) :
    tableRemainder poly byte.toNat =
      (clock poly)^[8] (topByte width byte) := by
  have step : remainderStep poly = clock poly :=
    funext (remainderStep_eq_clock (by omega) poly)
  rw [tableRemainder, step, foldl_range_eq_iterate, BitVec.ofNat_toNat,
    topByte]

/-- The instance's table belongs to its polynomial. -/
def CrcInstance.Built (instance_ : CrcInstance width) : Prop :=
  ∀ byte, instance_.entry byte =
    (clock instance_.poly)^[8] (topByte width byte)

/-- Filling a table stores the value of each index below the limit. -/
theorem fill_get {α : Type} {size : Nat} (value : Nat → α)
    (table : Vector α size) (limit : Nat) (index : Fin size)
    (below : index.val < limit) :
    ((List.range limit).foldl
        (fun current position =>
          current.setIfInBounds position (value position))
        table).get index =
      value index := by
  induction limit with
  | zero => omega
  | succ limit ih =>
      rw [List.range_succ, List.foldl_append]
      simp only [List.foldl_cons, List.foldl_nil, Vector.get_eq_getElem,
        Vector.getElem_setIfInBounds]
      by_cases last : limit = index.val
      · simp [last]
      · simpa [last, Vector.get_eq_getElem] using ih (by omega)

/-- `crc8_init_table` keeps overwriting an entry until it holds the value
after the last bit. -/
theorem crc8_entry_loop (poly : BitVec 8) (index count : Nat)
    (current : Vector (BitVec 8) 256) (positive : 0 < count) :
    (List.range count).foldl
        (fun (state : BitVec 8 × Vector (BitVec 8) 256) _ =>
          let remainder := remainderStep poly state.1
          (remainder, state.2.setIfInBounds index remainder))
        (BitVec.ofNat 8 index, current) =
      ((remainderStep poly)^[count] (BitVec.ofNat 8 index),
        current.setIfInBounds index
          ((remainderStep poly)^[count] (BitVec.ofNat 8 index))) := by
  induction count with
  | zero => omega
  | succ count ih =>
      rw [List.range_succ, List.foldl_append]
      cases count with
      | zero => rfl
      | succ count =>
          rw [ih (by omega), Function.iterate_succ_apply' _ (count + 1)]
          simp [Vector.setIfInBounds_setIfInBounds]

theorem crc8InitTable_eq_initTable (table : Vector (BitVec 8) 256)
    (last : Nat) (poly : BitVec 8) :
    crc8InitTable table last poly = initTable table last poly := by
  have entry : ∀ index,
      (remainderStep poly)^[8] (BitVec.ofNat 8 index) =
        tableRemainder poly index := by
    intro index
    rw [tableRemainder, foldl_range_eq_iterate, Nat.sub_self,
      BitVec.shiftLeft_zero]
  simp only [crc8InitTable, initTable,
    crc8_entry_loop poly _ 8 _ (by omega), entry]

/-- A builder stores, for every byte, eight clocks of that byte. -/
def Builds (build : Vector (BitVec width) 256 → Nat → BitVec width →
    Vector (BitVec width) 256) : Prop :=
  ∀ table poly, CrcInstance.Built ⟨poly, build table (256 - 1) poly⟩

theorem initTable_builds (wide : 8 ≤ width) :
    Builds (@initTable width) := by
  intro table poly byte
  rw [CrcInstance.entry, initTable, fill_get]
  · exact tableRemainder_eq_clock wide poly byte
  · have bound := byte.isLt
    simpa using bound

theorem crc8InitTable_builds : Builds crc8InitTable := by
  intro table poly
  rw [crc8InitTable_eq_initTable]
  exact initTable_builds (le_refl 8) table poly

/-! ## One byte of the message -/

/-- A table lookup and a shift are the eight clocks of one input byte. -/
theorem entry_step (wide : 8 ≤ width) (instance_ : CrcInstance width)
    (built : CrcInstance.Built instance_)
    (register : BitVec width) (byte : BitVec 8) :
    instance_.entry ((register >>> (width - 8)).setWidth 8 ^^^ byte) ^^^
        (register <<< 8) =
      feedByte instance_.poly register byte := by
  rw [feedByte_eq_clock _ _ _ wide, clock_eight_split _ _ wide,
    highByte_xor_topByte _ _ wide, BitVec.shiftLeft_xor_distrib,
    topByte_shiftLeft_eight _ wide, BitVec.xor_zero, built]
  rfl

theorem feedByte_eq_foldl (poly register : BitVec width)
    (byte : BitVec 8) :
    feedByte poly register byte =
      ((List.range 8).map byte.getMsbD).foldl (clockBit poly) register := by
  rw [feedByte, List.foldl_map]

/-- Feeding the bytes of a message is clocking in all of its bits. -/
theorem foldl_feedByte (poly register : BitVec width) (config : CrcConfig)
    (data : List (BitVec 8)) :
    data.foldl
        (fun current byte =>
          feedByte poly current (inputByte config byte)) register =
      (messageBits config.refin data).foldl (clockBit poly) register := by
  induction data generalizing register with
  | nil => rfl
  | cons byte rest ih =>
      have input : inputByte config byte =
          if config.refin then byte.reverse else byte := by
        unfold inputByte
        rw [reverse8Bits_eq_reverse]
      simp only [List.foldl_cons, messageBits, List.flatMap_cons,
        List.foldl_append]
      rw [ih, input, feedByte_eq_foldl]
      rfl

/-! ## The cache invariant -/

/-- A table is either unclaimed or belongs to its polynomial. -/
def CrcInstance.Cached (instance_ : CrcInstance width) : Prop :=
  instance_.poly ≠ BitVec.ofNat width 0 → CrcInstance.Built instance_

/-- The invariant of the four global instances. -/
structure CrcGlobals.Cached (globals : CrcGlobals) : Prop where
  crc8 : CrcInstance.Cached globals.crc8
  crc16 : CrcInstance.Cached globals.crc16
  crc32 : CrcInstance.Cached globals.crc32
  crc64 : CrcInstance.Cached globals.crc64

theorem CrcInstance.zero_cached : CrcInstance.Cached (.zero width) :=
  fun claimed => (claimed rfl).elim

theorem CrcGlobals.zero_cached : CrcGlobals.Cached .zero :=
  ⟨CrcInstance.zero_cached, CrcInstance.zero_cached,
    CrcInstance.zero_cached, CrcInstance.zero_cached⟩

/-- After the rebuild test the table belongs to the call's polynomial. -/
theorem refresh_built
    {build : Vector (BitVec width) 256 → Nat → BitVec width →
      Vector (BitVec width) 256}
    (builds : Builds build) (poly : BitVec width)
    {instance_ : CrcInstance width}
    (cached : CrcInstance.Cached instance_) :
    (refresh build poly instance_).poly = poly ∧
      CrcInstance.Built (refresh build poly instance_) := by
  unfold refresh
  split
  · exact ⟨rfl, builds _ _⟩
  · rename_i kept
    push Not at kept
    exact ⟨kept.2, cached kept.1⟩

/-- What one call returns and leaves behind, for the shared body. -/
theorem calculate_spec (wide : 8 ≤ width)
    {reverse : BitVec width → BitVec width}
    (reverses : ∀ data, reverse data = data.reverse)
    {build : Vector (BitVec width) 256 → Nat → BitVec width →
      Vector (BitVec width) 256}
    (builds : Builds build) {instance_ : CrcInstance width}
    (cached : CrcInstance.Cached instance_) (config : CrcConfig)
    (data : List (BitVec 8)) :
    (calculate reverse build instance_ config data).1 =
        bitwiseCrc width config data ∧
      CrcInstance.Cached
        (calculate reverse build instance_ config data).2 := by
  obtain ⟨polyEq, built⟩ := refresh_built builds (config.gen width) cached
  constructor
  · simp only [calculate, bitwiseCrc, reverses]
    simp only [entry_step wide _ built, polyEq, foldl_feedByte]
    rfl
  · exact fun _ => built

theorem crc8Calculate_spec {globals : CrcGlobals}
    (cached : CrcInstance.Cached globals.crc8) (config : CrcConfig)
    (data : List (BitVec 8)) :
    (crc8Calculate globals config data).1 = bitwiseCrc 8 config data ∧
      CrcInstance.Cached (crc8Calculate globals config data).2.crc8 := by
  obtain ⟨polyEq, built⟩ :=
    refresh_built crc8InitTable_builds (config.gen 8) cached
  constructor
  · have step : ∀ register byte : BitVec 8,
        (refresh crc8InitTable (config.gen 8) globals.crc8).entry
            (register ^^^ byte) =
          feedByte (config.gen 8) register byte := by
      intro register byte
      have general := entry_step (le_refl 8) _ built register byte
      rw [polyEq] at general
      simpa using general
    simp only [crc8Calculate, bitwiseCrc, reverse8Bits_eq_reverse, step,
      foldl_feedByte]
    rfl
  · exact fun _ => built

/-- One call of any width: its value, and the invariant for the next call. -/
theorem execute_spec (call : CrcCall) {globals : CrcGlobals}
    (cached : CrcGlobals.Cached globals) :
    (call.execute globals).1 =
        bitwiseCrc call.width.bits call.config call.data ∧
      CrcGlobals.Cached (call.execute globals).2 := by
  obtain ⟨selected, config, data⟩ := call
  cases selected with
  | crc8 =>
      obtain ⟨value, kept⟩ := crc8Calculate_spec cached.crc8 config data
      exact ⟨value, { cached with crc8 := kept }⟩
  | crc16 =>
      obtain ⟨value, kept⟩ := calculate_spec (by omega)
        reverse16Bits_eq_reverse (initTable_builds (by omega))
        cached.crc16 config data
      exact ⟨value, { cached with crc16 := kept }⟩
  | crc32 =>
      obtain ⟨value, kept⟩ := calculate_spec (by omega)
        reverse32Bits_eq_reverse (initTable_builds (by omega))
        cached.crc32 config data
      exact ⟨value, { cached with crc32 := kept }⟩
  | crc64 =>
      obtain ⟨value, kept⟩ := calculate_spec (by omega)
        reverse64Bits_eq_reverse (initTable_builds (by omega))
        cached.crc64 config data
      exact ⟨value, { cached with crc64 := kept }⟩

theorem executeAll_of_cached {globals : CrcGlobals}
    (cached : CrcGlobals.Cached globals) (calls : List CrcCall) :
    executeAll globals calls =
      calls.map fun call =>
        ⟨call.width, bitwiseCrc call.width.bits call.config call.data⟩ := by
  induction calls generalizing globals with
  | nil => rfl
  | cons call rest ih =>
      obtain ⟨value, kept⟩ := execute_spec call cached
      simp only [executeAll, List.map_cons, value, ih kept]

/--
Starting from the zeroed globals, every call of every sequence returns the
bit-at-a-time CRC of its own configuration and data.
-/
theorem executeAll_eq_bitwise (calls : List CrcCall) :
    executeAll .zero calls =
      calls.map fun call =>
        ⟨call.width, bitwiseCrc call.width.bits call.config call.data⟩ :=
  executeAll_of_cached CrcGlobals.zero_cached calls

end Dnvme.Crc.Correctness
