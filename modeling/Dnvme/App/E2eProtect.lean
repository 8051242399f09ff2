import Dnvme.Lib.ByteMemory
import Dnvme.Crc.Correctness

/-!
# End-to-end data protection

This module embeds the tag and guard part of `test_e2e_protect.c`: the size of
the reference tag, the tags of a command (`fill_cmd_tags`) and the protection
information that a host writes into its buffer (`fill_guard_protect_info`).

A C shift has a result only when its count is below the width of its operand;
every shift here is checked.  The buffer is a function of the offset.
-/

namespace Dnvme.App.E2eProtect

open Dnvme.Lib.ByteMemory
open Dnvme.Crc.Calculate

/-! ## Checked arithmetic -/

/-- What stops the test. -/
inductive Fault where
  | shiftOutOfRange
  | bugOn
  deriving DecidableEq, Repr

/-- A value or a fault. -/
abbrev Checked := Except Fault

/-- `x << count`. -/
def shiftLeft {width : Nat} (x : BitVec width) (count : Int) :
    Checked (BitVec width) :=
  if 0 ≤ count ∧ count < width then .ok (x <<< count.toNat)
  else .error .shiftOutOfRange

/-- `x >> count`. -/
def shiftRight {width : Nat} (x : BitVec width) (count : Int) :
    Checked (BitVec width) :=
  if 0 ≤ count ∧ count < width then .ok (x >>> count.toNat)
  else .error .shiftOutOfRange

/-- `lower_32_bits`. -/
def lower32Bits (n : BitVec 64) : BitVec 32 :=
  (n &&& 0xffffffff#64).setWidth 32

/-- `upper_32_bits`. -/
def upper32Bits (n : BitVec 64) : BitVec 32 :=
  ((n >>> 16) >>> 16).setWidth 32

/-- The conversion to `uint32_t`. -/
def toU32 (n : Nat) : Nat := n % 2 ^ 32

/-! ## Formats -/

/-- `NVME_ELBAF_PIF_GUARD16`. -/
def pifGuard16 : Nat := 0

/-- `NVME_ELBAF_PIF_GUARD32`. -/
def pifGuard32 : Nat := 1

/-- `NVME_ELBAF_PIF_GUARD64`. -/
def pifGuard64 : Nat := 2

/-- `NVME_NS_DPS_PI_TYPE1`. -/
def dpsPiType1 : Nat := 1

/-- `EINVAL`. -/
def eInval : Int := 22

/-- `get_reference_tag_size`. -/
def getReferenceTagSize (pif sts : Nat) : Int :=
  if pif = pifGuard16 then
    if sts > 32 then -eInval else (32 - sts : Nat)
  else if pif = pifGuard32 then
    if sts < 16 ∨ sts > 64 then -eInval else (80 - sts : Nat)
  else if pif = pifGuard64 then
    if sts > 48 then -eInval else (48 - sts : Nat)
  else -eInval

/-- The fields of `struct test_data` that are read here. -/
structure TagData where
  lbads : Nat
  metaSize : Nat
  storageTag : BitVec 64
  storageTagMask : BitVec 64
  refTag : BitVec 64
  isPiFirst : Bool
  curPif : Nat
  curSts : Nat
  curRts : Nat
  curPit : Nat
  deriving DecidableEq, Repr

/-- The fields of `struct nvme_rwc_wrapper` that are used here; the buffer is
kept apart. -/
structure NvmeRwcWrapper where
  nlb : Nat
  apptag : BitVec 16
  appmask : BitVec 16
  dw2 : BitVec 32
  dw3 : BitVec 32
  dw14 : BitVec 32
  deriving DecidableEq, Repr

/-- `ref_tag_mask` of the two widths. -/
def refTagMask (width rts : Nat) : Checked (BitVec width) :=
  if rts = width then .ok (BitVec.allOnes width)
  else if rts = 0 then .ok (BitVec.ofNat width 0)
  else do
    let high ← shiftLeft (BitVec.allOnes width) ((width : Int) - rts)
    shiftRight high ((width : Int) - rts)

/-! ## The tags of a command -/

/-- The branch of the 16b guard. -/
def fillCmdTags16 (wrap : NvmeRwcWrapper) (data : TagData)
    (storageTag : BitVec 64) : Checked NvmeRwcWrapper := do
  let mask ← refTagMask 32 data.curRts
  if data.curSts = 32 then
    return { wrap with dw14 := lower32Bits data.refTag }
  else
    let high ← shiftLeft (lower32Bits storageTag) data.curRts
    return { wrap with
      dw14 := (lower32Bits data.refTag &&& mask) ||| high }

/-- The branch of the 32b guard. -/
def fillCmdTags32 (wrap : NvmeRwcWrapper) (data : TagData)
    (storageTag : BitVec 64) : Checked NvmeRwcWrapper := do
  let mask ← refTagMask 64 data.curRts
  if data.curRts = 32 then
    return { wrap with
      dw14 := lower32Bits data.refTag
      dw3 := lower32Bits storageTag
      dw2 := upper32Bits storageTag &&& 0xffff#32 }
  else if data.curRts = 64 then
    return { wrap with
      dw14 := lower32Bits data.refTag
      dw3 := upper32Bits data.refTag
      dw2 := (storageTag &&& 0xffff#64).setWidth 32 }
  else if data.curRts < 32 then
    let high ← shiftLeft (lower32Bits storageTag) data.curRts
    let rest ← shiftRight storageTag (32 - (data.curRts : Int))
    return { wrap with
      dw14 := (lower32Bits data.refTag &&& mask.setWidth 32) ||| high
      dw3 := lower32Bits rest
      dw2 := upper32Bits rest &&& 0xffff#32 }
  else
    let high ← shiftLeft (lower32Bits storageTag) ((data.curRts : Int) - 32)
    let rest ← shiftRight storageTag (64 - (data.curRts : Int))
    return { wrap with
      dw14 := lower32Bits data.refTag
      dw3 := (upper32Bits data.refTag &&& upper32Bits mask) ||| high
      dw2 := lower32Bits rest &&& 0xffff#32 }

/-- The branch of the 64b guard. -/
def fillCmdTags64 (wrap : NvmeRwcWrapper) (data : TagData)
    (storageTag : BitVec 64) : Checked NvmeRwcWrapper := do
  let mask ← refTagMask 64 data.curRts
  if data.curRts = 32 then
    return { wrap with
      dw14 := lower32Bits data.refTag
      dw3 := lower32Bits storageTag &&& 0xffff#32 }
  else if data.curRts < 32 then
    let high ← shiftLeft (lower32Bits storageTag) data.curRts
    let rest ← shiftRight storageTag (32 - (data.curRts : Int))
    return { wrap with
      dw14 := (lower32Bits data.refTag &&& mask.setWidth 32) ||| high
      dw3 := lower32Bits rest &&& 0xffff#32 }
  else
    let high ← shiftLeft (lower32Bits storageTag) ((data.curRts : Int) - 32)
    return { wrap with
      dw14 := lower32Bits data.refTag
      dw3 := ((upper32Bits data.refTag &&& upper32Bits mask) ||| high) &&&
        0xffff#32 }

/-- The reference tag of type 1 is the address of the first block. -/
def TagData.forSlba (data : TagData) (slba : BitVec 64) : TagData :=
  if data.curPit = dpsPiType1 then { data with refTag := slba } else data

/-- `fill_cmd_tags`. -/
def fillCmdTags (wrap : NvmeRwcWrapper) (data : TagData)
    (slba : BitVec 64) : Checked (NvmeRwcWrapper × TagData) :=
  let storageTag := data.storageTag &&& data.storageTagMask
  let data := data.forSlba slba
  if data.curPif = pifGuard16 then
    (fillCmdTags16 wrap data storageTag).map fun wrap => (wrap, data)
  else if data.curPif = pifGuard32 then
    (fillCmdTags32 wrap data storageTag).map fun wrap => (wrap, data)
  else if data.curPif = pifGuard64 then
    (fillCmdTags64 wrap data storageTag).map fun wrap => (wrap, data)
  else
    .ok (wrap, data)

/-! ## The protection information -/

/-- A byte of a word, `(word >> shift) & 0xff`. -/
def byteAt {width : Nat} (word : BitVec width) (shift : Nat) : BitVec 8 :=
  (word >>> shift).setWidth 8

/-- The bytes of a word from the most significant one on. -/
def bigEndian {width : Nat} (word : BitVec width) (bytes : Nat) :
    List (BitVec 8) :=
  (List.range bytes).map fun k => byteAt word (8 * (bytes - 1 - k))

/-- What the three loops do differently: the guard, the bytes of the tags and
the tags of the next block. -/
structure GuardLoop (Tags : Type) where
  crc : CrcGlobals → List (BitVec 8) → Nat →
    List (BitVec 8) × CrcGlobals
  tagBytes : Tags → List (BitVec 8)
  next : Tags → Tags

/-- The state of a loop. -/
structure LoopState (Tags : Type) where
  memory : Memory
  globals : CrcGlobals
  tags : Tags

/-- One turn: the information of block `i`. -/
def GuardLoop.turn {Tags : Type} (loop : GuardLoop Tags)
    (wrap : NvmeRwcWrapper) (data : TagData) (metaOft : Nat)
    (state : LoopState Tags) (i : Nat) : LoopState Tags :=
  let appTag := wrap.apptag &&& wrap.appmask
  let bufOft := toU32 (i * toU32 (data.lbads + data.metaSize))
  let size := toU32 (data.lbads + metaOft)
  let (guardBytes, globals) :=
    loop.crc state.globals (state.memory.read bufOft size) size
  { memory := state.memory.write (bufOft + metaOft)
      (guardBytes ++ bigEndian appTag 2 ++ loop.tagBytes state.tags)
    globals := globals
    tags := loop.next state.tags }

/-- The state after the first `count` blocks. -/
def GuardLoop.after {Tags : Type} (loop : GuardLoop Tags)
    (wrap : NvmeRwcWrapper) (data : TagData) (metaOft : Nat)
    (start : LoopState Tags) (count : Nat) : LoopState Tags :=
  (List.range count).foldl (loop.turn wrap data metaOft) start

/-- The next reference tag: it starts again at zero after the mask. -/
def nextRefTag {width : Nat} (mask ref : BitVec width) : BitVec width :=
  if mask ≠ BitVec.ofNat width 0 then
    if ref = mask then BitVec.ofNat width 0 else ref + 1
  else ref

/-- `ref_tag` and `tag1` of the 16b loop. -/
structure Tags16 where
  ref : BitVec 32
  tag1 : BitVec 32

/-- The loop of `fill_16b_guard_protect_info`. -/
def guardLoop16 (mask : BitVec 32) : GuardLoop Tags16 where
  crc globals bytes size :=
    let (crc, globals) := crc16T10Dif globals bytes size
    (bigEndian crc 2, globals)
  tagBytes tags := bigEndian tags.tag1 4
  next tags :=
    let ref := nextRefTag mask tags.ref
    { ref := ref
      tag1 := (tags.tag1 &&& ~~~mask) ||| (ref &&& mask) }

/-- `fill_16b_guard_protect_info`. -/
def fill16bGuardProtectInfo (wrap : NvmeRwcWrapper) (data : TagData)
    (metaOft : Nat) (memory : Memory) (globals : CrcGlobals) :
    Checked (Memory × CrcGlobals) := do
  let mask ← refTagMask 32 data.curRts
  let last := (guardLoop16 mask).after wrap data metaOft
    ⟨memory, globals,
      ⟨(data.refTag &&& mask.setWidth 64).setWidth 32, wrap.dw14⟩⟩
    wrap.nlb
  return (last.memory, last.globals)

/-- `ref_tag`, `tag1`, `tag2` and `tag3` of the 32b loop. -/
structure Tags32 where
  ref : BitVec 64
  tag1 : BitVec 32
  tag2 : BitVec 32
  tag3 : BitVec 32

/-- The loop of `fill_32b_guard_protect_info`. -/
def guardLoop32 (mask : BitVec 64) : GuardLoop Tags32 where
  crc globals bytes size :=
    let (crc, globals) := crc32Castagnoli globals bytes size
    (bigEndian crc 4, globals)
  tagBytes tags :=
    bigEndian tags.tag3 2 ++ bigEndian tags.tag2 4 ++ bigEndian tags.tag1 4
  next tags :=
    let ref := nextRefTag mask tags.ref
    { ref := ref
      tag1 := (tags.tag1 &&& ~~~(lower32Bits mask)) |||
        (lower32Bits ref &&& lower32Bits mask)
      tag2 := (tags.tag2 &&& ~~~(upper32Bits mask)) |||
        (upper32Bits ref &&& upper32Bits mask)
      tag3 := tags.tag3 }

/-- `fill_32b_guard_protect_info`. -/
def fill32bGuardProtectInfo (wrap : NvmeRwcWrapper) (data : TagData)
    (metaOft : Nat) (memory : Memory) (globals : CrcGlobals) :
    Checked (Memory × CrcGlobals) := do
  let mask ← refTagMask 64 data.curRts
  let last := (guardLoop32 mask).after wrap data metaOft
    ⟨memory, globals,
      ⟨data.refTag &&& mask, wrap.dw14, wrap.dw3, wrap.dw2⟩⟩
    wrap.nlb
  return (last.memory, last.globals)

/-- `ref_tag`, `tag1` and `tag2` of the 64b loop. -/
structure Tags64 where
  ref : BitVec 64
  tag1 : BitVec 32
  tag2 : BitVec 32

/-- The loop of `fill_64b_guard_protect_info`. -/
def guardLoop64 (mask : BitVec 64) : GuardLoop Tags64 where
  crc globals bytes size :=
    let (crc, globals) := crc64Nvme64bcrc globals bytes size
    (bigEndian crc 8, globals)
  tagBytes tags := bigEndian tags.tag2 2 ++ bigEndian tags.tag1 4
  next tags :=
    let ref := nextRefTag mask tags.ref
    { ref := ref
      tag1 := (tags.tag1 &&& ~~~(lower32Bits mask)) |||
        (lower32Bits ref &&& lower32Bits mask)
      tag2 := (tags.tag2 &&& ~~~(upper32Bits mask)) |||
        (upper32Bits ref &&& upper32Bits mask) }

/-- `fill_64b_guard_protect_info`. -/
def fill64bGuardProtectInfo (wrap : NvmeRwcWrapper) (data : TagData)
    (metaOft : Nat) (memory : Memory) (globals : CrcGlobals) :
    Checked (Memory × CrcGlobals) := do
  let mask ← refTagMask 64 data.curRts
  let last := (guardLoop64 mask).after wrap data metaOft
    ⟨memory, globals, ⟨data.refTag &&& mask, wrap.dw14, wrap.dw3⟩⟩
    wrap.nlb
  return (last.memory, last.globals)

/-- The offset that `fill_guard_protect_info` passes on, for information of
`piSize` bytes. -/
def metaOffset (data : TagData) (piSize : Nat) : Checked Nat :=
  if data.metaSize < piSize then .error .bugOn
  else if data.metaSize = piSize ∨ data.isPiFirst then .ok 0
  else .ok (data.metaSize - piSize)

/-- `fill_guard_protect_info`. -/
def fillGuardProtectInfo (wrap : NvmeRwcWrapper) (data : TagData)
    (memory : Memory) (globals : CrcGlobals) :
    Checked (Memory × CrcGlobals) :=
  if data.curPif = pifGuard16 then do
    let metaOft ← metaOffset data 8
    fill16bGuardProtectInfo wrap data metaOft memory globals
  else if data.curPif = pifGuard32 then do
    let metaOft ← metaOffset data 16
    fill32bGuardProtectInfo wrap data metaOft memory globals
  else if data.curPif = pifGuard64 then do
    let metaOft ← metaOffset data 16
    fill64bGuardProtectInfo wrap data metaOft memory globals
  else
    .ok (memory, globals)

end Dnvme.App.E2eProtect
