import Dnvme.Json.Node
import Dnvme.Lib.FrontFilled

/-!
# The printer of JSON text

The printer writes to a buffer that it enlarges when it has to, or to the
buffer of its caller.  Each piece is written after `ensure` found room for it.
A byte that is written outside of the buffer stops the program.

Some functions leave the offset at the start of the piece that they wrote, and
`update_offset` moves it to the terminator afterwards.
-/

namespace Dnvme.Json

open Dnvme.Nvme
open Dnvme.Lib.FrontFilled

variable {D : Type}

/-! ## The buffer -/

/-- `printbuffer`; the content of memory that is allocated is arbitrary, and
`fresh` has it for each request. -/
structure PrintBuffer where
  buffer : Option (List UInt8)
  length : Nat
  offset : Nat
  depth : Nat
  noalloc : Bool
  format : Bool
  hooks : Heap
  fresh : Nat → Nat → UInt8

/-- The content of new memory of a size, of which the first bytes are known. -/
def freshMemory (fresh : Nat → UInt8) (known : List UInt8) (size : Nat) :
    List UInt8 :=
  known.take size ++ (List.range (size - known.length)).map fresh

/-- `hooks.reallocate`: the new memory, which takes the place of the old one. -/
def reallocate (hooks : Heap) (fresh : Nat → Nat → UInt8) (memory : List UInt8)
    (size : Nat) : Option (List UInt8) × Heap :=
  let asked := { hooks with asked := hooks.asked + 1 }
  if hooks.grants hooks.asked then
    (some (freshMemory (fresh hooks.asked) memory size), asked)
  else (none, asked)

/-- The new size that `ensure` asks for. -/
def newSize (needed : Nat) : Option Nat :=
  if intMax.toNat / 2 < needed then
    if needed ≤ intMax.toNat then some intMax.toNat else none
  else some (needed * 2)

/-- `ensure`; on success there is room at the offset. -/
def ensure (p : PrintBuffer) (needed : Nat) : Bool × PrintBuffer :=
  match p.buffer with
  | none => (false, p)
  | some memory =>
      if 0 < p.length ∧ p.length ≤ p.offset then (false, p)
      else if intMax.toNat < needed then (false, p)
      else
        let needed := needed + (p.offset + 1)
        if needed ≤ p.length then (true, p)
        else if p.noalloc then (false, p)
        else
          match newSize needed with
          | none => (false, p)
          | some size =>
              match reallocate p.hooks p.fresh memory size with
              | (none, hooks) =>
                  (false, { p with
                    buffer := none, length := 0, hooks := hooks.free 1 })
              | (some memory, hooks) =>
                  (true, { p with
                    buffer := some memory, length := size, hooks := hooks })

/-- Write bytes from the offset on. -/
def PrintBuffer.store (p : PrintBuffer) (bytes : List UInt8) :
    Run PrintBuffer :=
  match p.buffer with
  | none => .error .outOfBounds
  | some memory => do
      let memory ← Lib.FrontFilled.store Stop.outOfBounds memory p.offset bytes
      return { p with buffer := some memory }

/-- `update_offset`. -/
def updateOffset (p : PrintBuffer) : Run PrintBuffer :=
  match p.buffer with
  | none => .ok p
  | some memory => do
      let length ← lengthUpTo Stop.outOfBounds 0 (memory.drop p.offset)
      return { p with offset := p.offset + length }

/-- Go on when `ensure` finds room. -/
def ensureThen (p : PrintBuffer) (needed : Nat)
    (next : PrintBuffer → Run (Bool × PrintBuffer)) :
    Run (Bool × PrintBuffer) :=
  let (room, p) := ensure p needed
  if room then next p else .ok (false, p)

/-! ## Words, numbers and strings -/

/-- A word with its terminator. -/
def printWord (word : List UInt8) (p : PrintBuffer) :
    Run (Bool × PrintBuffer) :=
  ensureThen p (word.length + 1) fun p => do
    return (true, ← p.store (word ++ [0]))

/-- The text that `print_number` writes for a number. -/
def numberText (libc : Libc D) (valueint : Int) (d : D) : List UInt8 :=
  if libc.isnan d || libc.isinf d then asciiText ['n', 'u', 'l', 'l']
  else if libc.eq d (libc.ofInt valueint) then formatInt valueint
  else
    let short := libc.sprintf15 d
    match libc.sscanf short with
    | none => libc.sprintf17 d
    | some test =>
        if compareDouble libc test d then short else libc.sprintf17 d

/-- `print_number`; the text goes to an array of 26 bytes first. -/
def printNumber (libc : Libc D) (valueint : Int) (d : D) (p : PrintBuffer) :
    Run (Bool × PrintBuffer) :=
  let text := numberText libc valueint d
  if 26 ≤ text.length then .error .outOfBounds
  else
    ensureThen p (text.length + 1) fun p => do
      let p ← p.store (text ++ [0])
      return (true, { p with offset := p.offset + text.length })

/-- The letter of an escape sequence of one letter. -/
def escapeLetter (byte : UInt8) : Option UInt8 :=
  if byte = quote ∨ byte = backslash then some byte
  else if byte = 8 then some (ascii 'b')
  else if byte = 12 then some (ascii 'f')
  else if byte = 10 then some (ascii 'n')
  else if byte = 13 then some (ascii 'r')
  else if byte = 9 then some (ascii 't')
  else none

/-- The number of additional bytes that `print_string_ptr` finds. -/
def escapeCharacters : List UInt8 → Nat
  | [] => 0
  | byte :: rest =>
      (if (escapeLetter byte).isSome then 1 else if byte < 32 then 5 else 0) +
        escapeCharacters rest

/-- The digit of a number below 16. -/
def hexChar (digit : Nat) : UInt8 :=
  if digit < 10 then UInt8.ofNat (48 + digit) else UInt8.ofNat (87 + digit)

/-- `sprintf` with `"u%04x"`. -/
def formatUnicode (byte : UInt8) : List UInt8 :=
  [ascii 'u', ascii '0', ascii '0', hexChar (byte.toNat / 16),
    hexChar (byte.toNat % 16)]

/-- The second loop of `print_string_ptr` with the output pointer. -/
def escapeLoop : List UInt8 → Nat → List UInt8 → Run (List UInt8)
  | [], _, memory => .ok memory
  | byte :: rest, outputPointer, memory => do
      if 31 < byte ∧ byte ≠ quote ∧ byte ≠ backslash then
        let memory ← store Stop.outOfBounds memory outputPointer [byte]
        escapeLoop rest (outputPointer + 1) memory
      else
        let memory ← store Stop.outOfBounds memory outputPointer [backslash]
        match escapeLetter byte with
        | some letter =>
            let memory ←
              store Stop.outOfBounds memory (outputPointer + 1) [letter]
            escapeLoop rest (outputPointer + 2) memory
        | none =>
            let memory ← store Stop.outOfBounds memory (outputPointer + 1)
              (formatUnicode byte ++ [0])
            escapeLoop rest (outputPointer + 6) memory

/-- The part of `print_string_ptr` that escapes characters. -/
def printEscaped (input : List UInt8) (outputLength : Nat) (p : PrintBuffer) :
    Run (Bool × PrintBuffer) := do
  let p ← p.store [quote]
  match p.buffer with
  | none => .error .outOfBounds
  | some memory =>
      let memory ← escapeLoop input (p.offset + 1) memory
      let memory ← store Stop.outOfBounds memory
        (p.offset + (outputLength + 1)) [quote, 0]
      return (true, { p with buffer := some memory })

/-- `print_string_ptr`. -/
def printStringPtr (input : Option (List UInt8)) (p : PrintBuffer) :
    Run (Bool × PrintBuffer) :=
  match input with
  | none => ensureThen p 3 fun p => do
      return (true, ← p.store [quote, quote, 0])
  | some input =>
      let escape := escapeCharacters input
      let outputLength := input.length + escape
      ensureThen p (outputLength + 3) fun p => do
        if escape = 0 then
          return (true, ← p.store (quote :: (input ++ [quote, 0])))
        else printEscaped input outputLength p

/-! ## Values -/

/-- The branch of `print_value` for raw text. -/
def printRaw (valuestring : Option (List UInt8)) (p : PrintBuffer) :
    Run (Bool × PrintBuffer) :=
  match valuestring with
  | none => .ok (false, p)
  | some raw => printWord raw p

/-- `print_array` with its loop. -/
def printArray (elements : PrintBuffer → Run (Bool × PrintBuffer))
    (p : PrintBuffer) : Run (Bool × PrintBuffer) :=
  ensureThen p 1 fun p => do
    let p ← p.store [ascii '[']
    let (done, p) ←
      elements { p with offset := p.offset + 1, depth := p.depth + 1 }
    if done then
      ensureThen p 2 fun p => do
        let p ← p.store [ascii ']', 0]
        return (true, { p with depth := p.depth - 1 })
    else return (false, p)

/-- Bytes that are there in a formatted text only. -/
def whenFormatted (format : Bool) (bytes : List UInt8) : List UInt8 :=
  if format then bytes else []

/-- `print_object` with its loop. -/
def printObject (members : PrintBuffer → Run (Bool × PrintBuffer))
    (p : PrintBuffer) : Run (Bool × PrintBuffer) :=
  let opening := ascii '\x7b' :: whenFormatted p.format [10]
  ensureThen p (opening.length + 1) fun p => do
    let p ← p.store opening
    let (done, p) ← members { p with
      offset := p.offset + opening.length, depth := p.depth + 1 }
    if done then
      ensureThen p (if p.format then p.depth + 1 else 2) fun p => do
        let tabs := whenFormatted p.format (List.replicate (p.depth - 1) 9)
        let p ← p.store (tabs ++ [ascii '\x7d', 0])
        return (true, { p with depth := p.depth - 1 })
    else return (false, p)

/-- A name and the colon behind it. -/
def printKey (name : Option (List UInt8)) (p : PrintBuffer)
    (next : PrintBuffer → Run (Bool × PrintBuffer)) :
    Run (Bool × PrintBuffer) := do
  let (done, p) ← printStringPtr name p
  if done then
    let p ← updateOffset p
    let colon := ascii ':' :: whenFormatted p.format [9]
    ensureThen p colon.length fun p => do
      let p ← p.store colon
      next { p with offset := p.offset + colon.length }
  else return (false, p)

/-- The start of a turn of the loop of `print_object`, up to the value. -/
def printName (name : Option (List UInt8)) (p : PrintBuffer)
    (next : PrintBuffer → Run (Bool × PrintBuffer)) :
    Run (Bool × PrintBuffer) :=
  if p.format then
    ensureThen p p.depth fun p => do
      let tabs := List.replicate p.depth 9
      let p ← p.store tabs
      printKey name { p with offset := p.offset + tabs.length } next
  else printKey name p next

/-- Bytes with a terminator behind them, and the rest of a loop. -/
def printBetween (bytes : List UInt8) (p : PrintBuffer)
    (next : PrintBuffer → Run (Bool × PrintBuffer)) :
    Run (Bool × PrintBuffer) :=
  ensureThen p (bytes.length + 1) fun p => do
    let p ← p.store (bytes ++ [0])
    next { p with offset := p.offset + bytes.length }

mutual

/-- `print_value`. -/
def printValue (libc : Libc D) :
    JsonNode D → PrintBuffer → Run (Bool × PrintBuffer)
  | ⟨type, valuestring, valueint, valuedouble, _, child⟩, p =>
      let type := type % 256
      if type = cJsonNull then printWord (asciiText ['n', 'u', 'l', 'l']) p
      else if type = cJsonFalse then
        printWord (asciiText ['f', 'a', 'l', 's', 'e']) p
      else if type = cJsonTrue then
        printWord (asciiText ['t', 'r', 'u', 'e']) p
      else if type = cJsonNumber then printNumber libc valueint valuedouble p
      else if type = cJsonRaw then printRaw valuestring p
      else if type = cJsonString then printStringPtr valuestring p
      else if type = cJsonArray then
        printArray (fun p => printElements libc child p) p
      else if type = cJsonObject then
        printObject (fun p => printMembers libc child p) p
      else .ok (false, p)

/-- The loop of `print_array`. -/
def printElements (libc : Libc D) :
    List (JsonNode D) → PrintBuffer → Run (Bool × PrintBuffer)
  | [], p => .ok (true, p)
  | element :: next, p => do
      let (done, p) ← printValue libc element p
      if done then
        let p ← updateOffset p
        if next.isEmpty then return (true, p)
        else
          printBetween (ascii ',' :: whenFormatted p.format [32]) p fun p =>
            printElements libc next p
      else return (false, p)

/-- The loop of `print_object`. -/
def printMembers (libc : Libc D) :
    List (JsonNode D) → PrintBuffer → Run (Bool × PrintBuffer)
  | [], p => .ok (true, p)
  | member :: next, p =>
      printName member.string p fun p => do
        let (done, p) ← printValue libc member p
        if done then
          let p ← updateOffset p
          printBetween ((if next.isEmpty then [] else [ascii ',']) ++
              whenFormatted p.format [10]) p fun p =>
            printMembers libc next p
        else return (false, p)

end

/-! ## The entry points -/

/-- `print`: the block that it gives, and the heap. -/
def print (libc : Libc D) (item : JsonNode D) (format : Bool) (hooks : Heap)
    (fresh : Nat → Nat → UInt8) : Run (Option (List UInt8) × Heap) :=
  let defaultBufferSize := 256
  let first := hooks.asked
  let (granted, hooks) := hooks.allocate
  if granted then do
    let (done, p) ← printValue libc item
      { buffer := some (freshMemory (fresh first) [] defaultBufferSize)
        length := defaultBufferSize
        offset := 0
        depth := 0
        noalloc := false
        format := format
        hooks := hooks
        fresh := fresh }
    let freed (p : PrintBuffer) : Heap :=
      if p.buffer.isSome then p.hooks.free 1 else p.hooks
    if done then
      let p ← updateOffset p
      match p.buffer with
      | none => return (none, p.hooks)
      | some memory =>
          match reallocate p.hooks p.fresh memory (p.offset + 1) with
          | (none, hooks) => return (none, hooks.free 1)
          | (some printed, hooks) => return (some printed, hooks)
    else return (none, freed p)
  else .ok (none, hooks)

/-- `cJSON_Print`. -/
def cJsonPrint (libc : Libc D) (item : JsonNode D) (hooks : Heap)
    (fresh : Nat → Nat → UInt8) : Run (Option (List UInt8) × Heap) :=
  print libc item true hooks fresh

/-- `cJSON_PrintUnformatted`. -/
def cJsonPrintUnformatted (libc : Libc D) (item : JsonNode D) (hooks : Heap)
    (fresh : Nat → Nat → UInt8) : Run (Option (List UInt8) × Heap) :=
  print libc item false hooks fresh

/-- `cJSON_PrintBuffered` for a size that is not negative. -/
def cJsonPrintBuffered (libc : Libc D) (item : JsonNode D) (prebuffer : Nat)
    (fmt : Bool) (hooks : Heap) (fresh : Nat → Nat → UInt8) :
    Run (Option (List UInt8) × Heap) :=
  let first := hooks.asked
  let (granted, hooks) := hooks.allocate
  if granted then do
    let (done, p) ← printValue libc item
      { buffer := some (freshMemory (fresh first) [] prebuffer)
        length := prebuffer
        offset := 0
        depth := 0
        noalloc := false
        format := fmt
        hooks := hooks
        fresh := fresh }
    if done then return (p.buffer, p.hooks)
    else return (none, if p.buffer.isSome then p.hooks.free 1 else p.hooks)
  else .ok (none, hooks)

/-- `cJSON_PrintPreallocated` with the content of the buffer afterwards. -/
def cJsonPrintPreallocated (libc : Libc D) (item : JsonNode D)
    (buffer : List UInt8) (format : Bool) (hooks : Heap)
    (fresh : Nat → Nat → UInt8) : Run (Bool × PrintBuffer) :=
  printValue libc item
    { buffer := some buffer
      length := buffer.length
      offset := 0
      depth := 0
      noalloc := true
      format := format
      hooks := hooks
      fresh := fresh }

end Dnvme.Json
