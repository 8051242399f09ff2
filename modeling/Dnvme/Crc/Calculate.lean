import Mathlib

/-!
# The table-driven CRC library

This module embeds `lib/crc/crc.c` and the bit-reversal helpers of
`lib/base`.  The four widths keep one table each in global memory; a table is
rebuilt only when the polynomial of the call differs from the one it was
built for.  The globals are therefore an explicit state that every call
receives and returns.

`crc16`, `crc32` and `crc64` differ only in their width and are instances of
one body.  `crc8` has a body of its own: it stores every intermediate
remainder and drops the shifted register.
-/

namespace Dnvme.Crc.Calculate

variable {width : Nat}

/-! ## Bit reversal -/

/-- `reverse_8bits`: swap nibbles, then bit pairs, then neighbours. -/
def reverse8Bits (data : BitVec 8) : BitVec 8 :=
  let nibbles := ((data <<< 4) &&& 0xf0#8) ||| ((data >>> 4) &&& 0x0f#8)
  let pairs := ((nibbles <<< 2) &&& 0xcc#8) ||| ((nibbles >>> 2) &&& 0x33#8)
  ((pairs <<< 1) &&& 0xaa#8) ||| ((pairs >>> 1) &&& 0x55#8)

/-- `reverse_16bits`. -/
def reverse16Bits (data : BitVec 16) : BitVec 16 :=
  ((reverse8Bits ((data &&& 0xff#16).setWidth 8)).setWidth 16 <<< 8) |||
    (reverse8Bits ((data >>> 8).setWidth 8)).setWidth 16

/-- `reverse_32bits`. -/
def reverse32Bits (data : BitVec 32) : BitVec 32 :=
  ((reverse16Bits ((data &&& 0xffff#32).setWidth 16)).setWidth 32 <<< 16) |||
    (reverse16Bits ((data >>> 16).setWidth 16)).setWidth 32

/-- `reverse_64bits`. -/
def reverse64Bits (data : BitVec 64) : BitVec 64 :=
  ((reverse32Bits ((data &&& 0xffffffff#64).setWidth 32)).setWidth 64 <<<
      32) |||
    (reverse32Bits ((data >>> 32).setWidth 32)).setWidth 64

/-! ## Configuration and global tables -/

/--
`struct crc_config`.  `poly`, `init` and `xorout` are unions of the four
widths; a member of a union is the low part of its eight bytes.
-/
structure CrcConfig where
  poly : BitVec 64
  init : BitVec 64
  xorout : BitVec 64
  refin : Bool
  refout : Bool
  deriving DecidableEq, Repr

/-- `gen8`, `gen16`, `gen32` and `gen64` of the polynomial union. -/
def CrcConfig.gen (config : CrcConfig) (width : Nat) : BitVec width :=
  config.poly.setWidth width

/-- `crc8`, `crc16`, `crc32` and `crc64` of the initial-value union. -/
def CrcConfig.crc (config : CrcConfig) (width : Nat) : BitVec width :=
  config.init.setWidth width

/-- `xor8`, `xor16`, `xor32` and `xor64` of the output union. -/
def CrcConfig.xor (config : CrcConfig) (width : Nat) : BitVec width :=
  config.xorout.setWidth width

/--
`struct crc_instance`: the polynomial the table was built for, and the table.
Its `nr_entry` is the size of the table.
-/
structure CrcInstance (width : Nat) where
  poly : BitVec width
  table : Vector (BitVec width) 256

/-- The zero-initialised instance. -/
def CrcInstance.zero (width : Nat) : CrcInstance width :=
  ⟨BitVec.ofNat width 0, Vector.replicate 256 (BitVec.ofNat width 0)⟩

/-- `table[byte]`. -/
def CrcInstance.entry (instance_ : CrcInstance width) (byte : BitVec 8) :
    BitVec width :=
  instance_.table.get byte.toFin

/-- `g_crc8`, `g_crc16`, `g_crc32` and `g_crc64`. -/
structure CrcGlobals where
  crc8 : CrcInstance 8
  crc16 : CrcInstance 16
  crc32 : CrcInstance 32
  crc64 : CrcInstance 64

/-- The globals of a program that has made no call yet. -/
def CrcGlobals.zero : CrcGlobals :=
  ⟨.zero 8, .zero 16, .zero 32, .zero 64⟩

/-! ## Building a table -/

/-- One turn of the inner loop; `BIT(width - 1)` tests the leaving bit. -/
def remainderStep (poly remainder : BitVec width) : BitVec width :=
  if remainder &&& BitVec.twoPow width (width - 1) ≠ BitVec.ofNat width 0 then
    (remainder <<< 1) ^^^ poly
  else
    remainder <<< 1

/-- The remainder of table index `index`. -/
def tableRemainder (poly : BitVec width) (index : Nat) : BitVec width :=
  (List.range 8).foldl (fun remainder _ => remainderStep poly remainder)
    (BitVec.ofNat width index <<< (width - 8))

/-- The common body of `crc16_init_table`, `crc32_init_table` and
`crc64_init_table`. -/
def initTable (table : Vector (BitVec width) 256) (last : Nat)
    (poly : BitVec width) : Vector (BitVec width) 256 :=
  (List.range (last + 1)).foldl
    (fun current index =>
      current.setIfInBounds index (tableRemainder poly index))
    table

/-- `crc8_init_table`: the entry is stored after every bit. -/
def crc8InitTable (table : Vector (BitVec 8) 256) (last : Nat)
    (poly : BitVec 8) : Vector (BitVec 8) 256 :=
  (List.range (last + 1)).foldl
    (fun current index =>
      ((List.range 8).foldl
        (fun (state : BitVec 8 × Vector (BitVec 8) 256) _ =>
          let remainder := remainderStep poly state.1
          (remainder, state.2.setIfInBounds index remainder))
        (BitVec.ofNat 8 index, current)).2)
    table

def crc16InitTable := @initTable 16
def crc32InitTable := @initTable 32
def crc64InitTable := @initTable 64

/-! ## Calculating a value -/

/-- The common rebuild test: no polynomial yet, or another one. -/
def refresh
    (build : Vector (BitVec width) 256 → Nat → BitVec width →
      Vector (BitVec width) 256)
    (poly : BitVec width) (instance_ : CrcInstance width) :
    CrcInstance width :=
  if instance_.poly = BitVec.ofNat width 0 ∨ instance_.poly ≠ poly then
    ⟨poly, build instance_.table (256 - 1) poly⟩
  else
    instance_

/-- The byte of the data that enters the register. -/
def inputByte (config : CrcConfig) (byte : BitVec 8) : BitVec 8 :=
  if config.refin then reverse8Bits byte else byte

/-- The common body of `crc16_calculate`, `crc32_calculate` and
`crc64_calculate`. -/
def calculate
    (reverse : BitVec width → BitVec width)
    (build : Vector (BitVec width) 256 → Nat → BitVec width →
      Vector (BitVec width) 256)
    (instance_ : CrcInstance width) (config : CrcConfig)
    (data : List (BitVec 8)) : BitVec width × CrcInstance width :=
  let ready := refresh build (config.gen width) instance_
  let remainder := data.foldl
    (fun (remainder : BitVec width) byte =>
      let index :=
        (remainder >>> (width - 8)).setWidth 8 ^^^ inputByte config byte
      ready.entry index ^^^ (remainder <<< 8))
    (config.crc width)
  let output := if config.refout then reverse remainder else remainder
  (output ^^^ config.xor width, ready)

/-- `crc8_calculate`: the whole register is replaced by the table entry. -/
def crc8Calculate (globals : CrcGlobals) (config : CrcConfig)
    (data : List (BitVec 8)) : BitVec 8 × CrcGlobals :=
  let ready := refresh crc8InitTable (config.gen 8) globals.crc8
  let remainder := data.foldl
    (fun remainder byte => ready.entry (remainder ^^^ inputByte config byte))
    (config.crc 8)
  let output :=
    if config.refout then reverse8Bits remainder else remainder
  (output ^^^ config.xor 8, { globals with crc8 := ready })

/-- `crc16_calculate`. -/
def crc16Calculate (globals : CrcGlobals) (config : CrcConfig)
    (data : List (BitVec 8)) : BitVec 16 × CrcGlobals :=
  let result :=
    calculate reverse16Bits crc16InitTable globals.crc16 config data
  (result.1, { globals with crc16 := result.2 })

/-- `crc32_calculate`. -/
def crc32Calculate (globals : CrcGlobals) (config : CrcConfig)
    (data : List (BitVec 8)) : BitVec 32 × CrcGlobals :=
  let result :=
    calculate reverse32Bits crc32InitTable globals.crc32 config data
  (result.1, { globals with crc32 := result.2 })

/-- `crc64_calculate`. -/
def crc64Calculate (globals : CrcGlobals) (config : CrcConfig)
    (data : List (BitVec 8)) : BitVec 64 × CrcGlobals :=
  let result :=
    calculate reverse64Bits crc64InitTable globals.crc64 config data
  (result.1, { globals with crc64 := result.2 })

/-! ## Named configurations -/

/-- The configuration of `crc16_t10_dif`. -/
def crc16T10DifConfig : CrcConfig := ⟨0x8bb7#64, 0#64, 0#64, false, false⟩

/-- `crc16_t10_dif` of the first `size` bytes. -/
def crc16T10Dif (globals : CrcGlobals) (data : List (BitVec 8))
    (size : Nat) : BitVec 16 × CrcGlobals :=
  crc16Calculate globals crc16T10DifConfig (data.take size)

/-- The configuration of `crc32_castagnoli`. -/
def crc32CastagnoliConfig : CrcConfig :=
  ⟨0x1edc6f41#64, 0xffffffff#64, 0xffffffff#64, true, true⟩

/-- `crc32_castagnoli` of the first `size` bytes. -/
def crc32Castagnoli (globals : CrcGlobals) (data : List (BitVec 8))
    (size : Nat) : BitVec 32 × CrcGlobals :=
  crc32Calculate globals crc32CastagnoliConfig (data.take size)

/-- The configuration of `crc64_nvme64bcrc`. -/
def crc64Nvme64bcrcConfig : CrcConfig :=
  ⟨0xad93d23594c93659#64, 0xffffffffffffffff#64, 0xffffffffffffffff#64,
    true, true⟩

/-- `crc64_nvme64bcrc` of the first `size` bytes. -/
def crc64Nvme64bcrc (globals : CrcGlobals) (data : List (BitVec 8))
    (size : Nat) : BitVec 64 × CrcGlobals :=
  crc64Calculate globals crc64Nvme64bcrcConfig (data.take size)

/-! ## Sequences of calls -/

/-- The widths the library offers. -/
inductive CrcWidth where
  | crc8
  | crc16
  | crc32
  | crc64
  deriving DecidableEq, Repr

/-- The number of bits of a width. -/
def CrcWidth.bits : CrcWidth → Nat
  | .crc8 => 8
  | .crc16 => 16
  | .crc32 => 32
  | .crc64 => 64

/-- One call into the library. -/
structure CrcCall where
  width : CrcWidth
  config : CrcConfig
  data : List (BitVec 8)

/-- Execute one call on the globals. -/
def CrcCall.execute (call : CrcCall) (globals : CrcGlobals) :
    BitVec call.width.bits × CrcGlobals :=
  match call with
  | ⟨.crc8, config, data⟩ => crc8Calculate globals config data
  | ⟨.crc16, config, data⟩ => crc16Calculate globals config data
  | ⟨.crc32, config, data⟩ => crc32Calculate globals config data
  | ⟨.crc64, config, data⟩ => crc64Calculate globals config data

/-- A value of one of the four widths. -/
abbrev CrcValue := (width : CrcWidth) × BitVec width.bits

/-- The results of a sequence of calls, each on the globals the earlier calls
left behind. -/
def executeAll (globals : CrcGlobals) : List CrcCall → List CrcValue
  | [] => []
  | call :: rest =>
      let result := call.execute globals
      ⟨call.width, result.1⟩ :: executeAll result.2 rest

end Dnvme.Crc.Calculate
