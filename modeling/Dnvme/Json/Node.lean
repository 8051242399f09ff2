import Dnvme.Nvme.Types

/-!
# Nodes of JSON data

Test reports are kept as JSON data.  A node has a type, the values that belong
to the type, the name it has in the object around it and the chain of its
children.  A chain of `next` pointers is a list here.

Floating-point numbers and the functions of the C library on them are a
parameter.  The laws about them that the results need are stated beside it.
-/

namespace Dnvme.Json

open Dnvme.Nvme

/-! ## Characters -/

/-- The byte of a character. -/
def ascii (character : Char) : UInt8 :=
  UInt8.ofNat character.toNat

/-- The bytes of a text. -/
def asciiText (text : List Char) : List UInt8 :=
  text.map ascii

/-- The quotation mark. -/
def quote : UInt8 := 34

def backslash : UInt8 := 92

/-! ## Types -/

def cJsonFalse : Nat := 1

def cJsonTrue : Nat := 2

def cJsonNull : Nat := 4

def cJsonNumber : Nat := 8

def cJsonString : Nat := 16

def cJsonArray : Nat := 32

def cJsonObject : Nat := 64

def cJsonRaw : Nat := 128

/-- `CJSON_NESTING_LIMIT`. -/
def cjsonNestingLimit : Nat := 1000

def intMax : Int := 2 ^ 31 - 1

def intMin : Int := -2 ^ 31

/-! ## Numbers -/

/-- Floating-point numbers with the operators and functions that are used on
them. -/
structure Libc (D : Type) where
  /-- The double of an `int`. -/
  ofInt : Int → D
  /-- `(int)number`. -/
  toInt : D → Int
  zero : D
  ge : D → D → Bool
  eq : D → D → Bool
  isnan : D → Bool
  isinf : D → Bool
  /-- The number at the start of a string and how many characters it has. -/
  strtod : List UInt8 → D × Nat
  /-- `sscanf` with `"%lg"`. -/
  sscanf : List UInt8 → Option D
  /-- `sprintf` with `"%1.15g"`. -/
  sprintf15 : D → List UInt8
  /-- `sprintf` with `"%1.17g"`. -/
  sprintf17 : D → List UInt8
  fabs : D → D
  sub : D → D → D
  mul : D → D → D
  /-- `DBL_EPSILON`. -/
  epsilon : D

/-- The `int` of a number, with saturation in case of overflow. -/
def saturate {D : Type} (libc : Libc D) (number : D) : Int :=
  if libc.ge number (libc.ofInt intMax) then intMax
  else if libc.ge (libc.ofInt intMin) number then intMin
  else libc.toInt number

/-- `compare_double`. -/
def compareDouble {D : Type} (libc : Libc D) (a b : D) : Bool :=
  let maxVal :=
    if libc.ge (libc.fabs b) (libc.fabs a) then libc.fabs b else libc.fabs a
  libc.ge (libc.mul maxVal libc.epsilon) (libc.fabs (libc.sub a b))

/-- `sprintf` with `"%d"`. -/
def formatInt (number : Int) : List UInt8 :=
  let digits := (Nat.toDigits 10 number.natAbs).map ascii
  if number < 0 then ascii '-' :: digits else digits

/-- The number that a string of digits starts with, and how many there are. -/
def readDigits : List UInt8 → Nat → Nat → Nat × Nat
  | [], number, size => (number, size)
  | byte :: rest, number, size =>
      if ascii '0' ≤ byte ∧ byte ≤ ascii '9' then
        readDigits rest (number * 10 + (byte.toNat - 48)) (size + 1)
      else (number, size)

/-- `strtod` for a string of an optional sign and digits. -/
def readInteger (text : List UInt8) : Int × Nat :=
  match text with
  | [] => (0, 0)
  | byte :: rest =>
      if byte = ascii '-' then
        let (number, size) := readDigits rest 0 0
        if size = 0 then (0, 0) else (-number, size + 1)
      else
        let (number, size) := readDigits text 0 0
        (number, size)

/-- The functions on doubles that are integers of less than 16 digits, where
they are exact. -/
def integerLibc : Libc Int where
  ofInt number := number
  toInt number := number
  zero := 0
  ge a b := b ≤ a
  eq a b := a = b
  isnan _ := false
  isinf _ := false
  strtod := readInteger
  sscanf text := some (readInteger text).1
  sprintf15 := formatInt
  sprintf17 := formatInt
  fabs number := number.natAbs
  sub a b := a - b
  mul a b := a * b
  epsilon := 0

/-! ## Nodes -/

/-- `struct json_node`; `child` is the chain of the children, and strings are
without their terminator. -/
structure JsonNode (D : Type) where
  type : Nat
  valuestring : Option (List UInt8)
  valueint : Int
  valuedouble : D
  string : Option (List UInt8)
  child : List (JsonNode D)

/-- `cJSON_New_Item`: a node of zeros. -/
def newItem {D : Type} (libc : Libc D) : JsonNode D where
  type := 0
  valuestring := none
  valueint := 0
  valuedouble := libc.zero
  string := none
  child := []

/-- The blocks of memory of a string. -/
def stringBlocks : Option (List UInt8) → Int
  | none => 0
  | some _ => 1

mutual

/-- The blocks that `cJSON_Delete` frees for a node without flags. -/
def blocks {D : Type} : JsonNode D → Int
  | ⟨_, valuestring, _, _, string, child⟩ =>
      chainBlocks child + stringBlocks valuestring + stringBlocks string + 1

/-- The blocks that `cJSON_Delete` frees for a chain. -/
def chainBlocks {D : Type} : List (JsonNode D) → Int
  | [] => 0
  | item :: next => blocks item + chainBlocks next

end

/-! ## The heap -/

/-- What is seen of the heap: which requests it grants, the number of requests
so far, and the number of blocks that are not freed yet. -/
structure Heap where
  grants : Nat → Bool
  asked : Nat
  live : Int

/-- `hooks.allocate`. -/
def Heap.allocate (heap : Heap) : Bool × Heap :=
  if heap.grants heap.asked then
    (true, { heap with asked := heap.asked + 1, live := heap.live + 1 })
  else (false, { heap with asked := heap.asked + 1 })

theorem Heap.allocate_grants (heap : Heap) :
    heap.allocate.2.grants = heap.grants := by
  unfold Heap.allocate
  split <;> rfl

theorem Heap.allocate_true {heap : Heap} (granted : heap.allocate.1 = true) :
    heap.allocate.2.live = heap.live + 1 := by
  unfold Heap.allocate at granted ⊢
  split at granted
  · rename_i yes
    rw [if_pos yes]
  · cases granted

theorem Heap.allocate_false {heap : Heap} (refused : heap.allocate.1 = false) :
    heap.allocate.2.live = heap.live := by
  unfold Heap.allocate at refused ⊢
  split at refused
  · cases refused
  · rename_i no
    rw [if_neg no]

theorem Heap.allocate_refused {heap : Heap}
    (refused : heap.allocate.1 = false) :
    ¬ ∀ request, heap.grants request = true := by
  unfold Heap.allocate at refused
  split at refused
  · cases refused
  · rename_i no
    exact fun all => no (all _)

/-- Free a number of blocks. -/
def Heap.free (heap : Heap) (count : Int) : Heap :=
  { heap with live := heap.live - count }

end Dnvme.Json
