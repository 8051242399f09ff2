import Dnvme.Crc.Detection
import Dnvme.App.E2eTags

/-!
# Where the protection information goes

A block of an extended LBA format is its data followed by its metadata, and the
protection information lies in the metadata.  `fill_guard_protect_info` computes
the guard over the right bytes but stores the information at its offset in the
metadata, counted from the beginning of the block: over the data.  This module
says exactly for which formats the result is right all the same.
-/

namespace Dnvme.App.E2eGuard

open Dnvme.Lib.ByteMemory
open Dnvme.Lib.ShiftRegister
open Dnvme.Crc.Calculate
open Dnvme.Crc.Correctness
open Dnvme.Crc.Detection
open Dnvme.App.E2eProtect
open Dnvme.App.E2eTags

/-! ## The loop -/

/-- What the three loops have in common: the guard is the CRC of the bytes,
and a turn stores `piSize` bytes. -/
structure Stores {Tags : Type} (loop : GuardLoop Tags)
    (guardSize piSize : Nat)
    (guardOf : List (BitVec 8) → List (BitVec 8)) : Prop where
  guard : ∀ globals bytes, CrcGlobals.Cached globals →
    (loop.crc globals bytes bytes.length).1 = guardOf bytes ∧
      CrcGlobals.Cached (loop.crc globals bytes bytes.length).2
  guardLength : ∀ globals bytes count,
    (loop.crc globals bytes count).1.length = guardSize
  total : ∀ tags, guardSize + 2 + (loop.tagBytes tags).length = piSize

section Loop

variable {Tags : Type} {loop : GuardLoop Tags} {guardSize piSize : Nat}
  {guardOf : List (BitVec 8) → List (BitVec 8)} {wrap : NvmeRwcWrapper}
  {data : TagData} {metaOft : Nat} {start : LoopState Tags}

/-- The offset of block `i` as the loop computes it. -/
def bufOffset (data : TagData) (i : Nat) : Nat :=
  toU32 (i * toU32 (data.lbads + data.metaSize))

/-- The number of bytes under the guard as the loop computes it. -/
def guardedSize (data : TagData) (metaOft : Nat) : Nat :=
  toU32 (data.lbads + metaOft)

/-- A turn is one write. -/
theorem turn_memory (stores : Stores loop guardSize piSize guardOf)
    (state : LoopState Tags) (cached : CrcGlobals.Cached state.globals)
    (i : Nat) :
    ∃ bytes, bytes.length + guardSize = piSize ∧
      (loop.turn wrap data metaOft state i).memory =
        state.memory.write (bufOffset data i + metaOft)
          (guardOf (state.memory.read (bufOffset data i)
            (guardedSize data metaOft)) ++ bytes) ∧
      CrcGlobals.Cached (loop.turn wrap data metaOft state i).globals := by
  have crc := stores.guard state.globals
    (state.memory.read (bufOffset data i) (guardedSize data metaOft)) cached
  rw [length_read] at crc
  refine ⟨bigEndian (wrap.apptag &&& wrap.appmask) 2 ++
    loop.tagBytes state.tags, ?_, ?_, crc.2⟩
  · have total := stores.total state.tags
    rw [List.length_append, length_bigEndian]
    omega
  · unfold GuardLoop.turn
    dsimp only
    rw [List.append_assoc]
    change Memory.write _ _ ((loop.crc _ _ (guardedSize data metaOft)).1 ++ _)
      = _
    rw [← crc.1]
    rfl

theorem guardOf_length (stores : Stores loop guardSize piSize guardOf)
    (bytes : List (BitVec 8)) : (guardOf bytes).length = guardSize := by
  rw [← (stores.guard .zero bytes CrcGlobals.zero_cached).1]
  exact stores.guardLength _ _ _

theorem after_cached (stores : Stores loop guardSize piSize guardOf)
    (cached : CrcGlobals.Cached start.globals) (count : Nat) :
    CrcGlobals.Cached (loop.after wrap data metaOft start count).globals := by
  induction count with
  | zero => exact cached
  | succ count ih =>
      rw [after_succ]
      obtain ⟨_, _, _, kept⟩ := @turn_memory _ _ _ _ _ wrap data metaOft
        stores _ ih count
      exact kept

/-- Block `i` is not stored at this address. -/
def Misses (data : TagData) (metaOft piSize i address : Nat) : Prop :=
  ¬ (bufOffset data i + metaOft ≤ address ∧
    address < bufOffset data i + metaOft + piSize)

/-- Turns from the `first`-th one on leave an address alone that they miss. -/
theorem after_frame (stores : Stores loop guardSize piSize guardOf)
    (cached : CrcGlobals.Cached start.globals) {first address : Nat}
    (more : Nat) (misses : ∀ i, first ≤ i → i < first + more →
      Misses data metaOft piSize i address) :
    (loop.after wrap data metaOft start (first + more)).memory address =
      (loop.after wrap data metaOft start first).memory address := by
  induction more with
  | zero => rfl
  | succ more ih =>
      obtain ⟨bytes, total, memory, _⟩ := @turn_memory _ _ _ _ _ wrap data
        metaOft stores _ (after_cached stores cached (first + more))
        (first + more)
      have missed := misses (first + more) (by omega) (by omega)
      rw [← ih fun i after before => misses i after (by omega),
        ← Nat.add_assoc, after_succ, memory]
      apply write_outside
      rw [List.length_append, guardOf_length stores, Nat.add_comm guardSize,
        total]
      exact missed

/-- Right after its turn a block holds its guard. -/
theorem after_guard (stores : Stores loop guardSize piSize guardOf)
    (cached : CrcGlobals.Cached start.globals) (i : Nat) :
    (loop.after wrap data metaOft start (i + 1)).memory.read
        (bufOffset data i + metaOft) guardSize =
      guardOf ((loop.after wrap data metaOft start i).memory.read
        (bufOffset data i) (guardedSize data metaOft)) := by
  obtain ⟨bytes, total, memory, _⟩ := @turn_memory _ _ _ _ _ wrap data
    metaOft stores _ (after_cached stores cached i) i
  have length := guardOf_length stores
  rw [after_succ, memory]
  have whole := read_write (loop.after wrap data metaOft start i).memory
    (bufOffset data i + metaOft)
    (guardOf ((loop.after wrap data metaOft start i).memory.read
      (bufOffset data i) (guardedSize data metaOft)) ++ bytes)
    (show 0 + guardSize ≤ _ by rw [List.length_append, length]; omega)
  rw [Nat.add_zero, List.drop_zero] at whole
  rw [whole, List.take_append_of_le_length (by rw [length]),
    List.take_of_length_le (by rw [length])]

/-- A state with another byte at an address. -/
def LoopState.withByte (state : LoopState Tags) (spot : Nat)
    (value : BitVec 8) : LoopState Tags :=
  { state with memory := Function.update state.memory spot value }

/-- A byte that a turn neither reads nor writes passes through it. -/
theorem turn_withByte (stores : Stores loop guardSize piSize guardOf)
    (state : LoopState Tags) {spot i : Nat} (value : BitVec 8)
    (unread : ¬ (bufOffset data i ≤ spot ∧
      spot < bufOffset data i + guardedSize data metaOft))
    (misses : Misses data metaOft piSize i spot) :
    loop.turn wrap data metaOft (LoopState.withByte state spot value) i =
      LoopState.withByte (loop.turn wrap data metaOft state i) spot
        value := by
  unfold GuardLoop.turn LoopState.withByte
  dsimp only
  have reads := read_update state.memory unread value
  unfold bufOffset guardedSize at reads
  rw [reads]
  congr 1
  apply write_update
  have total := stores.total state.tags
  rw [List.length_append, List.length_append, stores.guardLength,
    length_bigEndian, total]
  exact misses

theorem after_withByte (stores : Stores loop guardSize piSize guardOf)
    {spot : Nat} (value : BitVec 8) (count : Nat)
    (unread : ∀ i, i < count → ¬ (bufOffset data i ≤ spot ∧
      spot < bufOffset data i + guardedSize data metaOft))
    (misses : ∀ i, i < count → Misses data metaOft piSize i spot) :
    loop.after wrap data metaOft (LoopState.withByte start spot value)
        count =
      LoopState.withByte (loop.after wrap data metaOft start count) spot
        value := by
  induction count with
  | zero => rfl
  | succ count ih =>
      rw [after_succ, after_succ, ih (fun i below => unread i (by omega))
        fun i below => misses i (by omega)]
      exact turn_withByte stores _ value (unread count (by omega))
        (misses count (by omega))

end Loop

/-! ## The layout -/

/-- The first byte of block `i`. -/
def blockStart (data : TagData) (i : Nat) : Nat :=
  i * (data.lbads + data.metaSize)

/-- The first byte of the protection information of block `i`. -/
def piStart (data : TagData) (metaOft i : Nat) : Nat :=
  blockStart data i + data.lbads + metaOft

/-- Only the protection information has changed, and each guard is that of the
bytes of its block that come before it. -/
structure Placed (data : TagData) (nlb metaOft guardSize piSize : Nat)
    (guardOf : List (BitVec 8) → List (BitVec 8)) (before after : Memory) :
    Prop where
  kept : ∀ address, (∀ i, i < nlb → ¬ (piStart data metaOft i ≤ address ∧
    address < piStart data metaOft i + piSize)) →
    after address = before address
  guarded : ∀ i, i < nlb →
    after.read (piStart data metaOft i) guardSize =
      guardOf (after.read (blockStart data i) (data.lbads + metaOft))

section Offsets

variable {data : TagData} {metaOft : Nat}

theorem bufOffset_le (data : TagData) (i : Nat) :
    bufOffset data i ≤ blockStart data i :=
  (Nat.mod_le _ _).trans (Nat.mul_le_mul_left i (Nat.mod_le _ _))

theorem blockStart_mono {i j : Nat} (le : i ≤ j) :
    blockStart data i ≤ blockStart data j :=
  Nat.mul_le_mul_right _ le

theorem blockStart_succ (data : TagData) (i : Nat) :
    blockStart data (i + 1) =
      blockStart data i + (data.lbads + data.metaSize) :=
  Nat.succ_mul i _

theorem bufOffset_eq {i : Nat} (stride : data.lbads + data.metaSize < 2 ^ 32)
    (inside : blockStart data i < 2 ^ 32) :
    bufOffset data i = blockStart data i := by
  unfold bufOffset toU32
  rw [Nat.mod_eq_of_lt stride]
  exact Nat.mod_eq_of_lt inside

theorem guardedSize_le (data : TagData) (metaOft : Nat) :
    guardedSize data metaOft ≤ data.lbads + metaOft :=
  Nat.mod_le _ _

end Offsets

section Placing

variable {Tags : Type} {loop : GuardLoop Tags} {guardSize piSize : Nat}
  {guardOf : List (BitVec 8) → List (BitVec 8)} {wrap : NvmeRwcWrapper}
  {data : TagData} {metaOft nlb : Nat} {start : LoopState Tags}

/-- Without data bytes and without an overflow the information goes where it
belongs. -/
theorem placed_of_no_data (stores : Stores loop guardSize piSize guardOf)
    (cached : CrcGlobals.Cached start.globals) (noData : data.lbads = 0)
    (fits : metaOft + piSize ≤ data.metaSize)
    (short : data.metaSize < 2 ^ 16)
    (inside : ∀ i, i < nlb → blockStart data i < 2 ^ 32) :
    Placed data nlb metaOft guardSize piSize guardOf start.memory
      (loop.after wrap data metaOft start nlb).memory := by
  have offset (i : Nat) (below : i < nlb) :
      bufOffset data i = blockStart data i :=
    bufOffset_eq (by omega) (inside i below)
  have size : guardedSize data metaOft = metaOft := by
    rw [guardedSize, noData, Nat.zero_add]
    exact Nat.mod_eq_of_lt (by omega)
  have guards : guardSize ≤ piSize := by
    have total := stores.total start.tags
    omega
  have place (i : Nat) : piStart data metaOft i =
      blockStart data i + metaOft := by
    rw [piStart, noData, Nat.add_zero]
  constructor
  · intro address outside
    have frame := @after_frame _ _ _ _ _ wrap data metaOft start stores
      cached 0 address nlb
    rw [Nat.zero_add] at frame
    refine frame fun i _ below => ?_
    have apart := outside i below
    rw [place] at apart
    rw [Misses, offset i below]
    exact apart
  · intro i below
    obtain ⟨more, rfl⟩ := Nat.exists_eq_add_of_lt below
    have later {address : Nat} (before : address < blockStart data (i + 1))
        (j : Nat) (after : i < j) (last : j < i + more + 1) :
        Misses data metaOft piSize j address := by
      have next := @blockStart_mono data (i + 1) j after
      rw [Misses, offset j last]
      omega
    have next := blockStart_succ data i
    have stored : (loop.after wrap data metaOft start
        (i + more + 1)).memory.read (piStart data metaOft i) guardSize =
      (loop.after wrap data metaOft start (i + 1)).memory.read
        (piStart data metaOft i) guardSize := by
      rw [place]
      refine read_congr _ fun address after before => ?_
      rw [Nat.add_right_comm]
      exact after_frame stores cached more fun j first last =>
        later (by omega) j (by omega) (by omega)
    have guarded := @after_guard _ _ _ _ _ wrap data metaOft start stores
      cached i
    rw [offset i below, size] at guarded
    rw [stored, place, guarded, noData, Nat.zero_add]
    congr 1
    refine (read_congr _ fun address after before => ?_).symm
    rw [Nat.add_assoc]
    refine after_frame stores cached (more + 1) fun j first last => ?_
    rcases Nat.eq_or_lt_of_le first with rfl | after_
    · rw [Misses, offset i below]
      omega
    · exact later (by omega) j after_ (by omega)

/-- If the last byte of the last guard is neither read nor written, some
memory has the wrong one. -/
theorem not_placed_of_untouched
    (stores : Stores loop guardSize piSize guardOf)
    (positive : 0 < guardSize) (blocks : 0 < nlb)
    (unread : ∀ i, i < nlb → bufOffset data i + guardedSize data metaOft ≤
      piStart data metaOft (nlb - 1))
    (unwritten : ∀ i, i < nlb → bufOffset data i + metaOft + piSize ≤
      piStart data metaOft (nlb - 1) + guardSize - 1) :
    ∃ memory, ¬ Placed data nlb metaOft guardSize piSize guardOf memory
      (loop.after wrap data metaOft { start with memory := memory }
        nlb).memory := by
  by_contra always
  rw [not_exists] at always
  generalize spot_eq : piStart data metaOft (nlb - 1) + guardSize - 1 = spot
    at unwritten
  have quiet (i : Nat) (below : i < nlb) : ¬ (bufOffset data i ≤ spot ∧
      spot < bufOffset data i + guardedSize data metaOft) := by
    have before := unread i below
    omega
  have missed (i : Nat) (below : i < nlb) :
      Misses data metaOft piSize i spot := by
    have before := unwritten i below
    rw [Misses]
    omega
  have same (value : BitVec 8) := @after_withByte _ _ _ _ _ wrap data metaOft
    start stores spot value nlb quiet missed
  -- the last guard of two runs that differ in this byte
  have last (value : BitVec 8) :
      Memory.read (Function.update
          (loop.after wrap data metaOft start nlb).memory spot value)
          (piStart data metaOft (nlb - 1)) guardSize =
        guardOf ((loop.after wrap data metaOft start nlb).memory.read
          (blockStart data (nlb - 1)) (data.lbads + metaOft)) := by
    have placed := (not_not.mp (always
      (LoopState.withByte start spot value).memory)).guarded (nlb - 1)
        (by omega)
    change (loop.after wrap data metaOft (LoopState.withByte start spot value)
      nlb).memory.read _ _ = guardOf ((loop.after wrap data metaOft
        (LoopState.withByte start spot value) nlb).memory.read _ _) at placed
    rw [same] at placed
    refine placed.trans (congrArg guardOf (read_update _ ?_ value))
    unfold piStart at spot_eq
    omega
  have equal := (last 0#8).trans (last 1#8).symm
  have byte := congrArg (fun bytes => bytes[guardSize - 1]?) equal
  simp only [Memory.read, List.getElem?_map,
    List.getElem?_range (show guardSize - 1 < guardSize by omega),
    Option.map_some, Option.some.injEq] at byte
  rw [show piStart data metaOft (nlb - 1) + (guardSize - 1) = spot by omega,
    Function.update_self, Function.update_self] at byte
  exact absurd byte (by decide)

/-- Changing the last byte from zero to one changes the first byte of the
guard, and not in its lowest bit only. -/
def FirstByteMoves (guardOf : List (BitVec 8) → List (BitVec 8)) : Prop :=
  ∀ front, ∃ one zero, (guardOf (front ++ [1#8])).head? = some one ∧
    (guardOf (front ++ [0#8])).head? = some zero ∧
    one ^^^ zero ≠ 0#8 ∧ one ^^^ zero ≠ 1#8

/-- The first byte of the last guard lands on a data byte. -/
theorem first_byte_kept (stores : Stores loop guardSize piSize guardOf)
    (cached : CrcGlobals.Cached start.globals) (positive : 0 < guardSize)
    (blocks : 0 < nlb) (someData : 0 < data.lbads)
    (fits : metaOft + piSize ≤ data.metaSize)
    (stride : data.lbads + data.metaSize < 2 ^ 32)
    (inside : blockStart data (nlb - 1) < 2 ^ 32)
    (placed : Placed data nlb metaOft guardSize piSize guardOf start.memory
      (loop.after wrap data metaOft start nlb).memory) :
    (guardOf (start.memory.read (blockStart data (nlb - 1))
      (data.lbads + metaOft))).head? =
        some (start.memory (blockStart data (nlb - 1) + metaOft)) := by
  obtain ⟨last, rfl⟩ : ∃ last, nlb = last + 1 := ⟨nlb - 1, by omega⟩
  rw [Nat.add_sub_cancel] at inside ⊢
  have before (i : Nat) (below : i < last) :
      blockStart data i + (data.lbads + data.metaSize) ≤
        blockStart data last := by
    rw [← blockStart_succ]
    exact blockStart_mono below
  have size : guardedSize data metaOft = data.lbads + metaOft :=
    Nat.mod_eq_of_lt (by omega)
  have offset := bufOffset_eq stride inside
  have guarded := @after_guard _ _ _ _ _ wrap data metaOft start stores
    cached last
  rw [offset, size] at guarded
  have fresh : (loop.after wrap data metaOft start last).memory.read
      (blockStart data last) (data.lbads + metaOft) =
        start.memory.read (blockStart data last) (data.lbads + metaOft) := by
    refine read_congr _ fun address after _ => ?_
    have frame := @after_frame _ _ _ _ _ wrap data metaOft start stores
      cached 0 address last
    rw [Nat.zero_add] at frame
    refine frame fun i _ below => ?_
    have ends := before i below
    have start_ := bufOffset_le data i
    rw [Misses]
    omega
  have kept := placed.kept (blockStart data last + metaOft) fun i below => by
    unfold piStart
    rcases Nat.lt_succ_iff_lt_or_eq.mp below with earlier | rfl
    · have ends := before i earlier
      omega
    · omega
  rw [← fresh, ← guarded, ← kept]
  obtain ⟨more, rfl⟩ : ∃ more, guardSize = more + 1 :=
    ⟨guardSize - 1, by omega⟩
  rw [Memory.read, List.range_succ_eq_map]
  rfl

/-- With a few data bytes the guard overwrites one of them. -/
theorem not_placed_of_data (stores : Stores loop guardSize piSize guardOf)
    (cached : CrcGlobals.Cached start.globals) (positive : 0 < guardSize)
    (moves : FirstByteMoves guardOf) (blocks : 0 < nlb)
    (someData : 0 < data.lbads) (fits : metaOft + piSize ≤ data.metaSize)
    (stride : data.lbads + data.metaSize < 2 ^ 32)
    (inside : blockStart data (nlb - 1) < 2 ^ 32) :
    ∃ memory, ¬ Placed data nlb metaOft guardSize piSize guardOf memory
      (loop.after wrap data metaOft { start with memory := memory }
        nlb).memory := by
  by_contra always
  rw [not_exists] at always
  generalize base : blockStart data (nlb - 1) = block at inside
  obtain ⟨size, size_eq⟩ : ∃ size, data.lbads + metaOft = size + 1 :=
    ⟨data.lbads + metaOft - 1, by omega⟩
  have head (value : BitVec 8) :
      (guardOf (Memory.read (fun _ => 0#8) block size ++ [value])).head? =
        some (Function.update (fun _ => 0#8) (block + size) value
          (block + metaOft)) := by
    have kept := @first_byte_kept _ _ _ _ _ wrap data metaOft nlb
      { start with
        memory := Function.update (fun _ => 0#8) (block + size) value }
      stores cached positive blocks someData fits stride (base ▸ inside)
      (not_not.mp (always _))
    rw [base, size_eq, read_last, read_update _ (by omega)] at kept
    dsimp only at kept
    rw [Function.update_self] at kept
    exact kept
  obtain ⟨one, zero, first, second, notZero, notOne⟩ :=
    moves (Memory.read (fun _ => 0#8) block size)
  rw [head] at first second
  cases first
  cases second
  by_cases same : metaOft = size
  · rw [same, Function.update_self, Function.update_self] at notOne
    exact notOne rfl
  · rw [Function.update_of_ne (by omega), Function.update_of_ne (by omega)]
      at notZero
    exact notZero rfl

end Placing

/-! ## The three guards -/

/-- The difference that the last byte of a message makes. -/
def lastByteDiff (width : Nat) (config : CrcConfig) (one two : BitVec 8) :
    BitVec width :=
  let register := run (config.poly.setWidth width) (BitVec.ofNat width 0)
    (List.zipWith xor (messageBits config.refin [one])
      (messageBits config.refin [two]))
  if config.refout then register.reverse else register

theorem reverse_xor {width : Nat} (left right : BitVec width) :
    (left ^^^ right).reverse = left.reverse ^^^ right.reverse := by
  apply BitVec.eq_of_getLsbD_eq
  intro index below
  rw [BitVec.getLsbD_reverse, BitVec.getLsbD_xor, BitVec.getLsbD_reverse,
    BitVec.getLsbD_reverse, BitVec.getMsbD_xor]

theorem bitwiseCrc_last (width : Nat) (config : CrcConfig)
    (front : List (BitVec 8)) (one two : BitVec 8) :
    bitwiseCrc width config (front ++ [one]) ^^^
        bitwiseCrc width config (front ++ [two]) =
      lastByteDiff width config one two := by
  have split (byte : BitVec 8) : messageBits config.refin (front ++ [byte]) =
      messageBits config.refin front ++ messageBits config.refin [byte] :=
    List.flatMap_append
  unfold bitwiseCrc lastByteDiff
  dsimp only
  rw [split, split, List.foldl_append, List.foldl_append]
  generalize (messageBits config.refin front).foldl _ _ = register
  have linear := run_xor (config.poly.setWidth width)
    (messageBits config.refin [one]) register register
    (messageBits config.refin [two]) rfl
  rw [BitVec.xor_self] at linear
  rw [linear]
  unfold run
  generalize (messageBits config.refin [one]).foldl _ _ = left
  generalize (messageBits config.refin [two]).foldl _ _ = right
  have cancel (a b c : BitVec width) : a ^^^ c ^^^ (b ^^^ c) = a ^^^ b := by
    rw [BitVec.xor_assoc, BitVec.xor_comm b c, ← BitVec.xor_assoc c c b,
      BitVec.xor_self, BitVec.zero_xor]
  rw [cancel]
  split
  · exact (reverse_xor left right).symm
  · rfl

/-- The guard of a format: the bytes of its CRC. -/
def guardBytesOf (width : Nat) (config : CrcConfig)
    (bytes : List (BitVec 8)) : List (BitVec 8) :=
  bigEndian (bitwiseCrc width config bytes) (width / 8)

theorem firstByteMoves {width : Nat} {config : CrcConfig}
    (wide : 0 < width / 8)
    (notZero : byteAt (lastByteDiff width config 1#8 0#8)
      (8 * (width / 8 - 1)) ≠ 0#8)
    (notOne : byteAt (lastByteDiff width config 1#8 0#8)
      (8 * (width / 8 - 1)) ≠ 1#8) :
    FirstByteMoves (guardBytesOf width config) := by
  intro front
  obtain ⟨more, size⟩ : ∃ more, width / 8 = more + 1 :=
    ⟨width / 8 - 1, by omega⟩
  have head (bytes : List (BitVec 8)) :
      (guardBytesOf width config bytes).head? =
        some (byteAt (bitwiseCrc width config bytes)
          (8 * (width / 8 - 1))) := by
    rw [guardBytesOf, size, bigEndian_succ, Nat.add_sub_cancel]
    rfl
  have difference :
      byteAt (bitwiseCrc width config (front ++ [1#8])) (8 * (width / 8 - 1))
          ^^^ byteAt (bitwiseCrc width config (front ++ [0#8]))
            (8 * (width / 8 - 1)) =
        byteAt (lastByteDiff width config 1#8 0#8)
          (8 * (width / 8 - 1)) := by
    rw [← bitwiseCrc_last width config front]
    unfold byteAt
    rw [BitVec.ushiftRight_xor_distrib, BitVec.setWidth_xor]
  refine ⟨_, _, head _, head _, ?_, ?_⟩
  · rw [difference]
    exact notZero
  · rw [difference]
    exact notOne

theorem moves16 : FirstByteMoves (guardBytesOf 16 crc16T10DifConfig) :=
  firstByteMoves (by decide) (by decide) (by decide)

theorem moves32 : FirstByteMoves (guardBytesOf 32 crc32CastagnoliConfig) :=
  firstByteMoves (by decide) (by decide +kernel) (by decide +kernel)

theorem moves64 : FirstByteMoves (guardBytesOf 64 crc64Nvme64bcrcConfig) :=
  firstByteMoves (by decide) (by decide +kernel) (by decide +kernel)

theorem stores16 (mask : BitVec 32) :
    Stores (guardLoop16 mask) 2 8 (guardBytesOf 16 crc16T10DifConfig) where
  guard globals bytes cached := by
    obtain ⟨value, kept⟩ := calculate_spec (by omega)
      reverse16Bits_eq_reverse (initTable_builds (by omega)) cached.crc16
      crc16T10DifConfig bytes
    simp only [guardLoop16, crc16T10Dif, crc16Calculate, List.take_length]
    refine ⟨?_, { cached with crc16 := kept }⟩
    exact congrArg (fun crc => bigEndian crc 2) value
  guardLength globals bytes count := length_bigEndian _ _
  total tags := rfl

theorem stores32 (mask : BitVec 64) :
    Stores (guardLoop32 mask) 4 16
      (guardBytesOf 32 crc32CastagnoliConfig) where
  guard globals bytes cached := by
    obtain ⟨value, kept⟩ := calculate_spec (by omega)
      reverse32Bits_eq_reverse (initTable_builds (by omega)) cached.crc32
      crc32CastagnoliConfig bytes
    simp only [guardLoop32, crc32Castagnoli, crc32Calculate,
      List.take_length]
    refine ⟨?_, { cached with crc32 := kept }⟩
    exact congrArg (fun crc => bigEndian crc 4) value
  guardLength globals bytes count := length_bigEndian _ _
  total tags := rfl

theorem stores64 (mask : BitVec 64) :
    Stores (guardLoop64 mask) 8 16
      (guardBytesOf 64 crc64Nvme64bcrcConfig) where
  guard globals bytes cached := by
    obtain ⟨value, kept⟩ := calculate_spec (by omega)
      reverse64Bits_eq_reverse (initTable_builds (by omega)) cached.crc64
      crc64Nvme64bcrcConfig bytes
    simp only [guardLoop64, crc64Nvme64bcrc, crc64Calculate,
      List.take_length]
    refine ⟨?_, { cached with crc64 := kept }⟩
    exact congrArg (fun crc => bigEndian crc 8) value
  guardLength globals bytes count := length_bigEndian _ _
  total tags := rfl

/-! ## When the layout is right -/

/-- There is no block, or the blocks are metadata only and their offsets fit in
32 bits. -/
def RightLayout (data : TagData) (nlb : Nat) : Prop :=
  nlb = 0 ∨ (data.lbads = 0 ∧ (nlb - 1) * data.metaSize < 2 ^ 32)

section Layout

variable {Tags : Type} {loop : GuardLoop Tags} {guardSize piSize : Nat}
  {guardOf : List (BitVec 8) → List (BitVec 8)} {wrap : NvmeRwcWrapper}
  {data : TagData} {metaOft nlb : Nat} {start : LoopState Tags}

/-- Every buffer is filled as it should be. -/
def AlwaysPlaced (loop : GuardLoop Tags) (guardSize piSize : Nat)
    (guardOf : List (BitVec 8) → List (BitVec 8)) (wrap : NvmeRwcWrapper)
    (data : TagData) (metaOft nlb : Nat) (start : LoopState Tags) : Prop :=
  ∀ memory, Placed data nlb metaOft guardSize piSize guardOf memory
    (loop.after wrap data metaOft { start with memory := memory } nlb).memory

theorem alwaysPlaced_of_layout
    (stores : Stores loop guardSize piSize guardOf)
    (cached : CrcGlobals.Cached start.globals)
    (fits : metaOft + piSize ≤ data.metaSize)
    (short : data.metaSize < 2 ^ 16) (right : RightLayout data nlb) :
    AlwaysPlaced loop guardSize piSize guardOf wrap data metaOft nlb
      start := by
  intro memory
  rcases right with rfl | ⟨noData, inside⟩
  · exact ⟨fun _ _ => rfl, fun i below => absurd below (Nat.not_lt_zero i)⟩
  · refine @placed_of_no_data _ _ _ _ _ wrap data metaOft nlb
      { start with memory := memory } stores cached noData fits short
      fun i below => ?_
    have le := @blockStart_mono data i (nlb - 1) (by omega)
    unfold blockStart at le ⊢
    rw [noData, Nat.zero_add] at le ⊢
    exact le.trans_lt inside

/-- With as many data bytes as this the information ends before the last
guard should. -/
theorem not_placed_of_much_data
    (stores : Stores loop guardSize piSize guardOf)
    (positive : 0 < guardSize) (blocks : 0 < nlb)
    (much : piSize < data.lbads + guardSize) :
    ∃ memory, ¬ Placed data nlb metaOft guardSize piSize guardOf memory
      (loop.after wrap data metaOft { start with memory := memory }
        nlb).memory := by
  have offset (i : Nat) (below : i < nlb) :
      bufOffset data i ≤ blockStart data (nlb - 1) :=
    (bufOffset_le data i).trans (blockStart_mono (by omega))
  have size := guardedSize_le data metaOft
  refine not_placed_of_untouched stores positive blocks
    (fun i below => ?_) fun i below => ?_
  · have le := offset i below
    unfold piStart
    omega
  · have le := offset i below
    unfold piStart
    omega

/-- A last block beyond 32 bits is not reached. -/
theorem not_placed_of_overflow
    (stores : Stores loop guardSize piSize guardOf)
    (positive : 0 < guardSize) (blocks : 0 < nlb)
    (fits : metaOft + piSize ≤ data.metaSize)
    (stride : data.lbads + data.metaSize < 2 ^ 32)
    (beyond : 2 ^ 32 ≤ blockStart data (nlb - 1)) :
    ∃ memory, ¬ Placed data nlb metaOft guardSize piSize guardOf memory
      (loop.after wrap data metaOft { start with memory := memory }
        nlb).memory := by
  have offset (i : Nat) (below : i < nlb) :
      bufOffset data i + (data.lbads + data.metaSize) ≤
        blockStart data (nlb - 1) := by
    rcases Nat.eq_or_lt_of_le (Nat.le_sub_one_of_lt below) with rfl | earlier
    · have wraps : bufOffset data (nlb - 1) =
          blockStart data (nlb - 1) % 2 ^ 32 := by
        rw [bufOffset, toU32, toU32, Nat.mod_eq_of_lt stride]
        rfl
      omega
    · have le := bufOffset_le data i
      have next := @blockStart_mono data (i + 1) (nlb - 1) earlier
      rw [blockStart_succ] at next
      omega
  have size := guardedSize_le data metaOft
  refine not_placed_of_untouched stores positive blocks
    (fun i below => ?_) fun i below => ?_
  · have le := offset i below
    unfold piStart
    omega
  · have le := offset i below
    unfold piStart
    omega

theorem alwaysPlaced_iff (stores : Stores loop guardSize piSize guardOf)
    (cached : CrcGlobals.Cached start.globals) (positive : 0 < guardSize)
    (moves : FirstByteMoves guardOf)
    (fits : metaOft + piSize ≤ data.metaSize)
    (short : data.metaSize < 2 ^ 16) :
    AlwaysPlaced loop guardSize piSize guardOf wrap data metaOft nlb start ↔
      RightLayout data nlb := by
  refine ⟨fun always => ?_, alwaysPlaced_of_layout stores cached fits short⟩
  have never : ¬ ∃ memory, ¬ Placed data nlb metaOft guardSize piSize guardOf
      memory (loop.after wrap data metaOft { start with memory := memory }
        nlb).memory := by
    rintro ⟨memory, wrong⟩
    exact wrong (always memory)
  by_contra wrong
  rw [RightLayout, not_or, not_and, not_lt] at wrong
  obtain ⟨someBlock, noData⟩ := wrong
  have blocks : 0 < nlb := Nat.pos_of_ne_zero someBlock
  by_cases much : piSize < data.lbads + guardSize
  · exact never (not_placed_of_much_data stores positive blocks much)
  · have stride : data.lbads + data.metaSize < 2 ^ 32 := by omega
    by_cases beyond : 2 ^ 32 ≤ blockStart data (nlb - 1)
    · exact never (not_placed_of_overflow stores positive blocks fits stride
        beyond)
    · have someData : 0 < data.lbads := by
        refine Nat.pos_of_ne_zero fun zero => beyond ?_
        rw [blockStart, zero, Nat.zero_add]
        exact noData zero
      exact never (not_placed_of_data stores cached positive moves blocks
        someData fits stride (not_le.mp beyond))

end Layout

/-! ## The formats -/

/-- The size of the protection information of a format. -/
def piSizeOf (pif : Nat) : Nat :=
  if pif = pifGuard16 then 8 else 16

/-- The guard of a format over some bytes. -/
def formatGuard (pif : Nat) : List (BitVec 8) → List (BitVec 8) :=
  if pif = pifGuard16 then guardBytesOf 16 crc16T10DifConfig
  else if pif = pifGuard32 then guardBytesOf 32 crc32CastagnoliConfig
  else guardBytesOf 64 crc64Nvme64bcrcConfig

/-- Where the information begins in the metadata of a block. -/
def piInMetadata (data : TagData) : Nat :=
  if data.isPiFirst then 0 else data.metaSize - piSizeOf data.curPif

/-- `fill_guard_protect_info` fills every buffer as the format wants it,
whatever CRCs were computed before. -/
def FillsLayout (wrap : NvmeRwcWrapper) (data : TagData) : Prop :=
  ∀ (calls : List CrcCall) (memory : Memory), ∃ after globals,
    fillGuardProtectInfo wrap data memory (globalsAfter calls) =
        .ok (after, globals) ∧
      Placed data wrap.nlb (piInMetadata data) (guardSizeOf data.curPif)
        (piSizeOf data.curPif) (formatGuard data.curPif) memory after

section Formats

variable {wrap : NvmeRwcWrapper} {data : TagData}

theorem metaOffset_eq (room : piSizeOf data.curPif ≤ data.metaSize) :
    metaOffset data (piSizeOf data.curPif) = .ok (piInMetadata data) := by
  unfold metaOffset piInMetadata
  rw [if_neg (not_lt.mpr room)]
  by_cases first : data.isPiFirst
  · rw [if_pos (Or.inr first), if_pos first]
  · rw [if_neg first]
    by_cases only : data.metaSize = piSizeOf data.curPif
    · rw [if_pos (Or.inl only), only, Nat.sub_self]
    · rw [if_neg (by simp [only, first])]

/-- A format whose filling is one of the loops. -/
theorem fillsLayout_iff_of_loop {Tags : Type} {loop : GuardLoop Tags}
    {start : LoopState Tags}
    (fill : ∀ memory globals,
      fillGuardProtectInfo wrap data memory globals =
        let last := loop.after wrap data (piInMetadata data)
          ⟨memory, globals, start.tags⟩ wrap.nlb
        .ok (last.memory, last.globals))
    (stores : Stores loop (guardSizeOf data.curPif) (piSizeOf data.curPif)
      (formatGuard data.curPif))
    (positive : 0 < guardSizeOf data.curPif)
    (moves : FirstByteMoves (formatGuard data.curPif))
    (room : piSizeOf data.curPif ≤ data.metaSize)
    (short : data.metaSize < 2 ^ 16) :
    FillsLayout wrap data ↔ RightLayout data wrap.nlb := by
  have fits : piInMetadata data + piSizeOf data.curPif ≤ data.metaSize := by
    unfold piInMetadata
    split
    · omega
    · omega
  have loops (calls : List CrcCall) := @alwaysPlaced_iff _ loop _ _ _ wrap
    data (piInMetadata data) wrap.nlb
    ⟨start.memory, globalsAfter calls, start.tags⟩ stores
    (globalsAfter_cached calls) positive moves fits short
  constructor
  · intro fills
    refine (loops []).mp fun memory => ?_
    obtain ⟨after, globals, result, placed⟩ := fills [] memory
    rw [fill] at result
    cases result
    exact placed
  · intro right calls memory
    exact ⟨_, _, fill _ _, (loops calls).mpr right memory⟩

/-- The information goes where the format wants it exactly when no data byte
comes before the metadata and no offset exceeds 32 bits. -/
theorem protect_info_placed_iff
    (size : getReferenceTagSize data.curPif data.curSts = data.curRts)
    (room : piSizeOf data.curPif ≤ data.metaSize)
    (short : data.metaSize < 2 ^ 16) :
    FillsLayout wrap data ↔ RightLayout data wrap.nlb := by
  have offset := metaOffset_eq room
  rcases getReferenceTagSize_cases size with
    ⟨first, _, same⟩ | ⟨second, _, _, same⟩ | ⟨third, _, same⟩
  · refine @fillsLayout_iff_of_loop wrap data _
      (guardLoop16 (lowMask 32 data.curRts))
      (start16 wrap data (lowMask 32 data.curRts) (fun _ => 0#8) .zero)
      (fun memory globals => ?_) ?_ ?_ ?_ room short
    · unfold fillGuardProtectInfo fill16bGuardProtectInfo
      simp only [first, piSizeOf, if_true] at offset
      rw [if_pos first, offset, refTagMask_eq (by omega)]
      rfl
    · rw [first]
      exact stores16 _
    · rw [first]
      decide
    · rw [first]
      exact moves16
  · refine @fillsLayout_iff_of_loop wrap data _
      (guardLoop32 (lowMask 64 data.curRts))
      (start32 wrap data (lowMask 64 data.curRts) (fun _ => 0#8) .zero)
      (fun memory globals => ?_) ?_ ?_ ?_ room short
    · unfold fillGuardProtectInfo fill32bGuardProtectInfo
      simp only [second, piSizeOf,
        if_neg (show ¬ pifGuard32 = pifGuard16 by decide)] at offset
      rw [if_neg (by rw [second]; decide), if_pos second, offset,
        refTagMask_eq (by omega)]
      rfl
    · rw [second]
      exact stores32 _
    · rw [second]
      decide
    · rw [second]
      exact moves32
  · refine @fillsLayout_iff_of_loop wrap data _
      (guardLoop64 (lowMask 64 data.curRts))
      (start64 wrap data (lowMask 64 data.curRts) (fun _ => 0#8) .zero)
      (fun memory globals => ?_) ?_ ?_ ?_ room short
    · unfold fillGuardProtectInfo fill64bGuardProtectInfo
      simp only [third, piSizeOf,
        if_neg (show ¬ pifGuard64 = pifGuard16 by decide)] at offset
      rw [if_neg (by rw [third]; decide), if_neg (by rw [third]; decide),
        if_pos third, offset, refTagMask_eq (by omega)]
      rfl
    · rw [third]
      exact stores64 _
    · rw [third]
      decide
    · rw [third]
      exact moves64

end Formats

/-- A block that is nothing but its protection information. -/
def metadataOnly : TagData :=
  { splitTags with lbads := 0, metaSize := 8 }

theorem protect_info_placed_metadata_only :
    FillsLayout emptyWrapper metadataOnly :=
  (protect_info_placed_iff (by decide) (by decide) (by decide)).mpr
    (Or.inr ⟨rfl, by decide⟩)

/-- A command with its tags filled. -/
def taggedWrapper : NvmeRwcWrapper :=
  { emptyWrapper with dw14 := 0x12345678#32 }

/-- In a block of 512 bytes of data and 8 bytes of metadata the tags land on
byte 4 of the data. -/
theorem protect_info_over_data :
    (∃ after globals, fillGuardProtectInfo taggedWrapper splitTags
        (fun _ => 0#8) .zero = .ok (after, globals) ∧
      after 4 = 0x12#8) ∧
      ¬ FillsLayout taggedWrapper splitTags := by
  have run : ∃ after globals, fillGuardProtectInfo taggedWrapper splitTags
      (fun _ => 0#8) .zero = .ok (after, globals) ∧ after 4 = 0x12#8 :=
    ⟨_, _, rfl, rfl⟩
  refine ⟨run, fun fills => ?_⟩
  obtain ⟨after, globals, result, byte⟩ := run
  obtain ⟨_, _, same, placed⟩ := fills [] fun _ => 0#8
  cases result.symm.trans same
  have kept := placed.kept 4 fun i below => by
    unfold piStart
    simp only [splitTags]
    omega
  rw [byte] at kept
  exact absurd kept (by decide)

end Dnvme.App.E2eGuard
