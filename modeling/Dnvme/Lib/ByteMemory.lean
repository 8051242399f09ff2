import Mathlib

/-!
# Memory as bytes

A memory is a function from addresses to bytes.  Reading gives the bytes of a
range, and writing stores bytes from an address on.  The lemmas say what a
write leaves alone and that what was written is read back.  Numbers are stored
with their lowest byte first.
-/

namespace Dnvme.Lib.ByteMemory

/-- Memory as bytes. -/
abbrev Memory := Nat → BitVec 8

/-- The `size` bytes from an offset on. -/
def Memory.read (memory : Memory) (offset size : Nat) : List (BitVec 8) :=
  (List.range size).map fun k => memory (offset + k)

/-- Store bytes from an offset on. -/
def Memory.write (memory : Memory) (offset : Nat)
    (bytes : List (BitVec 8)) : Memory :=
  fun address =>
    if offset ≤ address then
      (bytes[address - offset]?).getD (memory address)
    else memory address

section Frames

variable (memory : Memory)

theorem length_read (offset size : Nat) :
    (memory.read offset size).length = size := by
  rw [Memory.read, List.length_map, List.length_range]

theorem read_last (offset size : Nat) :
    memory.read offset (size + 1) =
      memory.read offset size ++ [memory (offset + size)] := by
  rw [Memory.read, List.range_succ, List.map_append]
  rfl

theorem write_outside {offset : Nat} {bytes : List (BitVec 8)}
    {address : Nat}
    (outside : ¬ (offset ≤ address ∧ address < offset + bytes.length)) :
    memory.write offset bytes address = memory address := by
  unfold Memory.write
  split
  · rename_i after
    rw [List.getElem?_eq_none_iff.mpr (by omega)]
    rfl
  · rfl

theorem read_add (offset first second : Nat) :
    memory.read offset (first + second) =
      memory.read offset first ++ memory.read (offset + first) second := by
  rw [Memory.read, List.range_add, List.map_append, List.map_map]
  refine congrArg₂ _ rfl (List.map_congr_left fun k _ => ?_)
  exact congrArg memory (Nat.add_assoc offset first k).symm

/-- Two memories that agree on a range. -/
theorem read_congr {other : Memory} {offset size : Nat}
    (agree : ∀ address, offset ≤ address → address < offset + size →
      other address = memory address) :
    other.read offset size = memory.read offset size := by
  refine List.map_congr_left fun k member => ?_
  have below := List.mem_range.mp member
  exact agree _ (by omega) (by omega)

/-- A change outside of a write can be made before or after it. -/
theorem write_update {offset : Nat} {bytes : List (BitVec 8)} {spot : Nat}
    (outside : ¬ (offset ≤ spot ∧ spot < offset + bytes.length))
    (value : BitVec 8) :
    Memory.write (Function.update memory spot value) offset bytes =
      Function.update (memory.write offset bytes) spot value := by
  funext address
  by_cases same : address = spot
  · rw [same, write_outside _ outside, Function.update_self,
      Function.update_self]
  · rw [Function.update_of_ne same]
    unfold Memory.write
    rw [Function.update_of_ne same]

theorem read_update {offset size spot : Nat}
    (outside : ¬ (offset ≤ spot ∧ spot < offset + size))
    (value : BitVec 8) :
    Memory.read (Function.update memory spot value) offset size =
      memory.read offset size := by
  refine read_congr _ fun address after before => ?_
  exact Function.update_of_ne (by omega) _ _

end Frames

section ReadWrite

variable (memory : Memory) (offset : Nat) (bytes : List (BitVec 8))

/-- Reading inside what was written. -/
theorem read_write {skip size : Nat} (inside : skip + size ≤ bytes.length) :
    (memory.write offset bytes).read (offset + skip) size =
      (bytes.drop skip).take size := by
  apply List.ext_getElem?
  intro k
  rw [Memory.read, List.getElem?_map, List.getElem?_take]
  by_cases here : k < size
  · have there : skip + k < bytes.length := by omega
    rw [if_pos here, List.getElem?_range here, List.getElem?_drop,
      Option.map_some, Memory.write, if_pos (by omega),
      show offset + skip + k - offset = skip + k by omega,
      List.getElem?_eq_getElem there]
    rfl
  · rw [if_neg here, List.getElem?_eq_none_iff.mpr (by simpa using here)]
    rfl

/-- Reading all that was written. -/
theorem read_write_self :
    (memory.write offset bytes).read offset bytes.length = bytes := by
  have whole := @read_write memory offset bytes 0 bytes.length
    (Nat.zero_add _).le
  rwa [Nat.add_zero, List.drop_zero, List.take_length] at whole

/-- Reading before a write. -/
theorem read_write_before {start size : Nat} (before : start + size ≤ offset) :
    (memory.write offset bytes).read start size = memory.read start size :=
  read_congr memory fun _ _ below =>
    write_outside memory (by omega)

end ReadWrite

/-! ## Numbers -/

/-- The number in the `size` bytes from an offset on. -/
def Memory.number (memory : Memory) (offset : Nat) : Nat → Nat
  | 0 => 0
  | size + 1 =>
      (memory offset).toNat + 256 * Memory.number memory (offset + 1) size

/-- The lowest bytes of a number. -/
def numberBytes : Nat → Nat → List (BitVec 8)
  | 0, _ => []
  | size + 1, value => BitVec.ofNat 8 value :: numberBytes size (value / 256)

section Numbers

variable (memory : Memory)

@[simp]
theorem length_numberBytes (size : Nat) :
    ∀ value, (numberBytes size value).length = size := by
  induction size with
  | zero => exact fun _ => rfl
  | succ size ih => exact fun value => congrArg (· + 1) (ih (value / 256))

/-- Two memories that agree on a number. -/
theorem number_congr {other : Memory} {offset size : Nat}
    (agree : ∀ address, offset ≤ address → address < offset + size →
      other address = memory address) :
    other.number offset size = memory.number offset size := by
  induction size generalizing offset with
  | zero => rfl
  | succ size ih =>
      unfold Memory.number
      rw [agree offset (le_refl offset) (by omega),
        ih fun address after below => agree address (by omega) (by omega)]

theorem number_of_bytes {offset size : Nat} {value : Nat}
    (stored : memory.read offset size = numberBytes size value) :
    memory.number offset size = value % 256 ^ size := by
  induction size generalizing offset value with
  | zero => exact (Nat.mod_one value).symm
  | succ size ih =>
      have split := read_add memory offset 1 size
      rw [Nat.add_comm 1 size, stored] at split
      obtain ⟨first, rest⟩ := List.cons.inj split
      unfold Memory.number
      rw [ih rest.symm]
      have here : memory offset = BitVec.ofNat 8 value := first.symm
      rw [here, BitVec.toNat_ofNat, pow_succ' 256 size, Nat.mod_mul]

/-- A number that was written is read back. -/
theorem number_write (offset size value : Nat) :
    (memory.write offset (numberBytes size value)).number offset size =
      value % 256 ^ size := by
  refine number_of_bytes _ ?_
  have stored := read_write_self memory offset (numberBytes size value)
  rwa [length_numberBytes] at stored

/-- A number outside of a write. -/
theorem number_write_outside {offset size spot : Nat}
    {bytes : List (BitVec 8)}
    (outside : offset + size ≤ spot ∨ spot + bytes.length ≤ offset) :
    (memory.write spot bytes).number offset size =
      memory.number offset size :=
  number_congr memory fun _ _ _ => write_outside memory (by omega)

end Numbers

end Dnvme.Lib.ByteMemory
