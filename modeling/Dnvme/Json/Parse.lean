import Dnvme.Json.Node

/-!
# The parser of JSON text

The parser walks over a buffer of bytes.  Where the source looks at a byte only
after a check against the length, the model does so as well; a byte that is
read without a check and is not in the buffer stops the program.  A function
that gives `false` leaves the buffer at the position of the error.

The functions for values, arrays and objects call each other.  They take a
number of turns that every call lowers by one.
-/

namespace Dnvme.Json

open Dnvme.Nvme

variable {D : Type}

/-! ## The buffer -/

/-- `parse_buffer`. -/
structure ParseBuffer where
  content : List UInt8
  offset : Nat
  depth : Nat
  hooks : Heap

/-- `buffer->length`. -/
def ParseBuffer.length (buffer : ParseBuffer) : Nat :=
  buffer.content.length

/-- `can_read`. -/
def ParseBuffer.canRead (buffer : ParseBuffer) (size : Nat) : Bool :=
  buffer.offset + size ≤ buffer.length

/-- `can_access_at_index`. -/
def ParseBuffer.canAccessAtIndex (buffer : ParseBuffer) (index : Nat) : Bool :=
  buffer.offset + index < buffer.length

/-- The bytes from the offset on. -/
def ParseBuffer.rest (buffer : ParseBuffer) : List UInt8 :=
  buffer.content.drop buffer.offset

/-- `can_access_at_index` for the byte at the offset, and the byte is the given
one. -/
def ParseBuffer.sees (buffer : ParseBuffer) (byte : UInt8) : Bool :=
  buffer.content[buffer.offset]? = some byte

/-- `can_read` for the bytes of a word, and `strncmp` finds the word. -/
def ParseBuffer.startsWith (buffer : ParseBuffer) (word : List UInt8) : Bool :=
  buffer.canRead word.length && buffer.rest.take word.length = word

def ParseBuffer.advance (buffer : ParseBuffer) (size : Nat) : ParseBuffer :=
  { buffer with offset := buffer.offset + size }

def ParseBuffer.stepBack (buffer : ParseBuffer) : ParseBuffer :=
  { buffer with offset := buffer.offset - 1 }

/-- The offset after the bytes up to the space, for the bytes that follow an
offset. -/
def skipBlanks : List UInt8 → Nat → Nat
  | [], offset => offset
  | byte :: rest, offset =>
      if byte ≤ 32 then skipBlanks rest (offset + 1) else offset

/-- `buffer_skip_whitespace`. -/
def bufferSkipWhitespace (buffer : ParseBuffer) : ParseBuffer :=
  if buffer.canAccessAtIndex 0 then
    let offset := skipBlanks buffer.rest buffer.offset
    { buffer with
      offset := if offset = buffer.length then offset - 1 else offset }
  else buffer

/-- `skip_utf8_bom`. -/
def skipUtf8Bom (buffer : ParseBuffer) : ParseBuffer :=
  if buffer.canAccessAtIndex 4 && buffer.rest.take 3 = [0xEF, 0xBB, 0xBF] then
    buffer.advance 3
  else buffer

/-! ## Numbers -/

/-- The bytes that `parse_number` copies. -/
def isNumberByte (byte : UInt8) : Bool :=
  (ascii '0' ≤ byte && byte ≤ ascii '9') || byte = ascii '+' ||
    byte = ascii '-' || byte = ascii 'e' || byte = ascii 'E' ||
    byte = ascii '.'

/-- The content of `number_c_string`, which has room for 63 bytes and the
terminator. -/
def numberCString (rest : List UInt8) : List UInt8 :=
  (rest.take 63).takeWhile isNumberByte

/-- `parse_number`. -/
def parseNumber (libc : Libc D) (item : JsonNode D) (buffer : ParseBuffer) :
    Option (JsonNode D) × ParseBuffer :=
  let (number, size) := libc.strtod (numberCString buffer.rest)
  if size = 0 then (none, buffer)
  else
    (some { item with
        valuedouble := number
        valueint := saturate libc number
        type := cJsonNumber },
      buffer.advance size)

/-! ## Strings -/

/-- The digit of `parse_hex4` in a byte. -/
def hexDigit (byte : UInt8) : Option Nat :=
  if ascii '0' ≤ byte ∧ byte ≤ ascii '9' then
    some (byte.toNat - (ascii '0').toNat)
  else if ascii 'A' ≤ byte ∧ byte ≤ ascii 'F' then
    some (10 + byte.toNat - (ascii 'A').toNat)
  else if ascii 'a' ≤ byte ∧ byte ≤ ascii 'f' then
    some (10 + byte.toNat - (ascii 'a').toNat)
  else none

/-- The loop of `parse_hex4` with the number of digits that are left. -/
def hex4Loop (content : List UInt8) : Nat → Nat → Nat → Run Nat
  | 0, _, h => .ok h
  | left + 1, index, h => do
      let byte ← tableAt content index
      match hexDigit byte with
      | none => return 0
      | some digit =>
          let h := h + digit
          hex4Loop content left (index + 1) (if left = 0 then h else h <<< 4)

/-- `parse_hex4`. -/
def parseHex4 (content : List UInt8) (input : Nat) : Run Nat :=
  hex4Loop content 4 input 0

/-- The loop of `utf16_literal_to_utf8` that fills the last bytes: what is left
of the code point, and the bytes. -/
def utf8Tail : Nat → Nat → List UInt8 → Nat × List UInt8
  | 0, codepoint, tail => (codepoint, tail)
  | position + 1, codepoint, tail =>
      utf8Tail position (codepoint >>> 6)
        (UInt8.ofNat ((codepoint ||| 0x80) &&& 0xBF) :: tail)

/-- The bytes that `utf16_literal_to_utf8` stores for a code point. -/
def encodeUtf8 (codepoint : Nat) : Option (List UInt8) :=
  let encoded (utf8Length firstByteMark : Nat) : List UInt8 :=
    let (first, tail) := utf8Tail (utf8Length - 1) codepoint []
    UInt8.ofNat
      (if 1 < utf8Length then (first ||| firstByteMark) &&& 0xFF
        else first &&& 0x7F) :: tail
  if codepoint < 0x80 then some (encoded 1 0)
  else if codepoint < 0x800 then some (encoded 2 0xC0)
  else if codepoint < 0x10000 then some (encoded 3 0xE0)
  else if codepoint ≤ 0x10FFFF then some (encoded 4 0xF0)
  else none

/-- The memory that `parse_string` writes to: the bytes so far, and how many
there is room for. -/
structure Output where
  bytes : List UInt8
  room : Nat

/-- Store bytes at the output pointer and move it on. -/
def Output.put (output : Output) (more : List UInt8) : Run Output :=
  if output.bytes.length + more.length ≤ output.room then
    .ok { output with bytes := output.bytes ++ more }
  else .error .outOfBounds

/-- `utf16_literal_to_utf8` with the length of the sequence. -/
def utf16LiteralToUtf8 (content : List UInt8) (inputPointer inputEnd : Nat)
    (output : Output) : Run (Nat × Output) :=
  if inputEnd - inputPointer < 6 then .ok (0, output)
  else do
    let firstCode ← parseHex4 content (inputPointer + 2)
    if 0xDC00 ≤ firstCode ∧ firstCode ≤ 0xDFFF then return (0, output)
    else if 0xD800 ≤ firstCode ∧ firstCode ≤ 0xDBFF then
      let secondSequence := inputPointer + 6
      if inputEnd - secondSequence < 6 then return (0, output)
      else
        let slash ← tableAt content secondSequence
        if slash ≠ backslash then return (0, output)
        else
          let letter ← tableAt content (secondSequence + 1)
          if letter ≠ ascii 'u' then return (0, output)
          else
            let secondCode ← parseHex4 content (secondSequence + 2)
            if secondCode < 0xDC00 ∨ 0xDFFF < secondCode then
              return (0, output)
            else
              match encodeUtf8 (0x10000 +
                  (((firstCode &&& 0x3FF) <<< 10) |||
                    (secondCode &&& 0x3FF))) with
              | none => return (0, output)
              | some bytes => return (12, ← output.put bytes)
    else
      match encodeUtf8 firstCode with
      | none => return (0, output)
      | some bytes => return (6, ← output.put bytes)

/-- The first loop of `parse_string`, over the bytes from `input_end` on: where
the closing quotation mark is, and how many bytes were skipped. -/
def findStringEnd : List UInt8 → Nat → Nat → Option (Nat × Nat)
  | [], _, _ => none
  | byte :: rest, inputEnd, skippedBytes =>
      if byte = quote then some (inputEnd, skippedBytes)
      else if byte = backslash then
        match rest with
        | [] => none
        | _ :: rest => findStringEnd rest (inputEnd + 2) (skippedBytes + 1)
      else findStringEnd rest (inputEnd + 1) skippedBytes

/-- The byte of an escape sequence of one letter. -/
def escapedByte (letter : UInt8) : Option UInt8 :=
  if letter = ascii 'b' then some 8
  else if letter = ascii 'f' then some 12
  else if letter = ascii 'n' then some 10
  else if letter = ascii 'r' then some 13
  else if letter = ascii 't' then some 9
  else if letter = quote ∨ letter = backslash ∨ letter = ascii '/' then
    some letter
  else none

/-- The second loop of `parse_string`: the input pointer at its end, and the
output unless it failed. -/
def unescapeLoop (content : List UInt8) (inputEnd : Nat) :
    Nat → Nat → Output → Run (Nat × Option Output)
  | 0, _, _ => .error .endlessLoop
  | turns + 1, inputPointer, output =>
      if inputPointer < inputEnd then do
        let byte ← tableAt content inputPointer
        if byte ≠ backslash then
          let output ← output.put [byte]
          unescapeLoop content inputEnd turns (inputPointer + 1) output
        else if inputEnd - inputPointer < 1 then return (inputPointer, none)
        else
          let letter ← tableAt content (inputPointer + 1)
          match escapedByte letter with
          | some escaped =>
              let output ← output.put [escaped]
              unescapeLoop content inputEnd turns (inputPointer + 2) output
          | none =>
              if letter = ascii 'u' then
                let (sequenceLength, output) ←
                  utf16LiteralToUtf8 content inputPointer inputEnd output
                if sequenceLength = 0 then return (inputPointer, none)
                else
                  unescapeLoop content inputEnd turns
                    (inputPointer + sequenceLength) output
              else return (inputPointer, none)
      else return (inputPointer, some output)

/-- `parse_string` with the string it stores. -/
def parseStringBytes (buffer : ParseBuffer) :
    Run (Option (List UInt8) × ParseBuffer) := do
  let inputPointer := buffer.offset + 1
  let failAt (inputPointer : Nat) (hooks : Heap) :
      Option (List UInt8) × ParseBuffer :=
    (none, { buffer with offset := inputPointer, hooks := hooks })
  let byte ← tableAt buffer.content buffer.offset
  if byte ≠ quote then return failAt inputPointer buffer.hooks
  else
    match findStringEnd (buffer.content.drop inputPointer) inputPointer 0 with
    | none => return failAt inputPointer buffer.hooks
    | some (inputEnd, skippedBytes) =>
        let allocationLength := inputEnd - buffer.offset - skippedBytes
        let (granted, hooks) := buffer.hooks.allocate
        if granted then
          let (inputPointer, output) ←
            unescapeLoop buffer.content inputEnd (inputEnd + 1) inputPointer
              { bytes := [], room := allocationLength + 1 }
          match output with
          | none => return failAt inputPointer (hooks.free 1)
          | some output =>
              let _ ← output.put [0]
              return (some output.bytes,
                { buffer with offset := inputEnd + 1, hooks := hooks })
        else return failAt inputPointer hooks

/-- `parse_string`. -/
def parseString (item : JsonNode D) (buffer : ParseBuffer) :
    Run (Option (JsonNode D) × ParseBuffer) := do
  let (output, buffer) ← parseStringBytes buffer
  match output with
  | none => return (none, buffer)
  | some output =>
      return (some { item with
          type := cJsonString
          valuestring := some output },
        buffer)

/-! ## Values -/

/-- The `fail` label of `parse_array` and `parse_object` with the chain so
far. -/
def failWith (head : List (JsonNode D)) (buffer : ParseBuffer) :
    Option (List (JsonNode D)) × ParseBuffer :=
  (none, { buffer with hooks := buffer.hooks.free (chainBlocks head) })

/-- The `success` label of `parse_array` and `parse_object`. -/
def succeedWith (type : Nat) (item : JsonNode D) (head : List (JsonNode D))
    (buffer : ParseBuffer) : Option (JsonNode D) × ParseBuffer :=
  (some { item with type := type, child := head },
    { buffer with depth := buffer.depth - 1, offset := buffer.offset + 1 })

mutual

/-- `parse_value`. -/
def parseValue (libc : Libc D) :
    Nat → JsonNode D → ParseBuffer → Run (Option (JsonNode D) × ParseBuffer)
  | 0, _, _ => .error .endlessLoop
  | turns + 1, item, buffer =>
      if buffer.startsWith (asciiText ['n', 'u', 'l', 'l']) then
        .ok (some { item with type := cJsonNull }, buffer.advance 4)
      else if buffer.startsWith (asciiText ['f', 'a', 'l', 's', 'e']) then
        .ok (some { item with type := cJsonFalse }, buffer.advance 5)
      else if buffer.startsWith (asciiText ['t', 'r', 'u', 'e']) then
        .ok (some { item with type := cJsonTrue, valueint := 1 },
          buffer.advance 4)
      else
        match buffer.content[buffer.offset]? with
        | none => .ok (none, buffer)
        | some byte =>
            if byte = quote then parseString item buffer
            else if byte = ascii '-' ∨
                (ascii '0' ≤ byte ∧ byte ≤ ascii '9') then
              .ok (parseNumber libc item buffer)
            else if byte = ascii '[' then parseArray libc turns item buffer
            else if byte = ascii '\x7b' then parseObject libc turns item buffer
            else .ok (none, buffer)

/-- `parse_array`. -/
def parseArray (libc : Libc D) :
    Nat → JsonNode D → ParseBuffer → Run (Option (JsonNode D) × ParseBuffer)
  | 0, _, _ => .error .endlessLoop
  | turns + 1, item, buffer =>
      if cjsonNestingLimit ≤ buffer.depth then .ok (none, buffer)
      else do
        let buffer := { buffer with depth := buffer.depth + 1 }
        let byte ← tableAt buffer.content buffer.offset
        if byte ≠ ascii '[' then return (none, buffer)
        else
          let buffer := bufferSkipWhitespace (buffer.advance 1)
          if buffer.sees (ascii ']') then
            return succeedWith cJsonArray item [] buffer
          else if !buffer.canAccessAtIndex 0 then return (none, buffer.stepBack)
          else
            let (head, buffer) ← parseElements libc turns [] buffer.stepBack
            match head with
            | none => return (none, buffer)
            | some head => return succeedWith cJsonArray item head buffer

/-- The loop of `parse_array` with the check after it. -/
def parseElements (libc : Libc D) :
    Nat → List (JsonNode D) → ParseBuffer →
      Run (Option (List (JsonNode D)) × ParseBuffer)
  | 0, _, _ => .error .endlessLoop
  | turns + 1, head, buffer =>
      let (granted, hooks) := buffer.hooks.allocate
      let buffer := { buffer with hooks := hooks }
      if granted then do
        let buffer := bufferSkipWhitespace (buffer.advance 1)
        let (value, buffer) ← parseValue libc turns (newItem libc) buffer
        match value with
        | none => return failWith (head ++ [newItem libc]) buffer
        | some value =>
            let buffer := bufferSkipWhitespace buffer
            if buffer.sees (ascii ',') then
              parseElements libc turns (head ++ [value]) buffer
            else if buffer.sees (ascii ']') then
              return (some (head ++ [value]), buffer)
            else return failWith (head ++ [value]) buffer
      else .ok (failWith head buffer)

/-- `parse_object`. -/
def parseObject (libc : Libc D) :
    Nat → JsonNode D → ParseBuffer → Run (Option (JsonNode D) × ParseBuffer)
  | 0, _, _ => .error .endlessLoop
  | turns + 1, item, buffer =>
      if cjsonNestingLimit ≤ buffer.depth then .ok (none, buffer)
      else do
        let buffer := { buffer with depth := buffer.depth + 1 }
        if !buffer.sees (ascii '\x7b') then return (none, buffer)
        else
          let buffer := bufferSkipWhitespace (buffer.advance 1)
          if buffer.sees (ascii '\x7d') then
            return succeedWith cJsonObject item [] buffer
          else if !buffer.canAccessAtIndex 0 then return (none, buffer.stepBack)
          else
            let (head, buffer) ← parseMembers libc turns [] buffer.stepBack
            match head with
            | none => return (none, buffer)
            | some head => return succeedWith cJsonObject item head buffer

/-- The loop of `parse_object` with the check after it. -/
def parseMembers (libc : Libc D) :
    Nat → List (JsonNode D) → ParseBuffer →
      Run (Option (List (JsonNode D)) × ParseBuffer)
  | 0, _, _ => .error .endlessLoop
  | turns + 1, head, buffer =>
      let (granted, hooks) := buffer.hooks.allocate
      let buffer := { buffer with hooks := hooks }
      if granted then do
        let buffer := bufferSkipWhitespace (buffer.advance 1)
        let (name, buffer) ← parseStringBytes buffer
        match name with
        | none => return failWith (head ++ [newItem libc]) buffer
        | some name =>
            let buffer := bufferSkipWhitespace buffer
            let named :=
              { newItem libc with type := cJsonString, string := some name }
            if !buffer.sees (ascii ':') then
              return failWith (head ++ [named]) buffer
            else
              let buffer := bufferSkipWhitespace (buffer.advance 1)
              let (value, buffer) ← parseValue libc turns named buffer
              match value with
              | none => return failWith (head ++ [named]) buffer
              | some value =>
                  let buffer := bufferSkipWhitespace buffer
                  if buffer.sees (ascii ',') then
                    parseMembers libc turns (head ++ [value]) buffer
                  else if buffer.sees (ascii '\x7d') then
                    return (some (head ++ [value]), buffer)
                  else return failWith (head ++ [value]) buffer
      else .ok (failWith head buffer)

end

/-! ## The entry points -/

/-- What a parser gives: the tree, the position that is returned, and the
heap. -/
structure Parsed (D : Type) where
  item : Option (JsonNode D)
  position : Nat
  hooks : Heap

/-- The `fail` label of `cJSON_ParseWithLengthOpts`. -/
def failParse (item : Option (JsonNode D)) (buffer : ParseBuffer) :
    Parsed D where
  item := none
  position :=
    if buffer.offset < buffer.length then buffer.offset else buffer.length - 1
  hooks := buffer.hooks.free (item.elim 0 blocks)

/-- `cJSON_ParseWithLengthOpts` for the bytes of a buffer. -/
def cJsonParseWithLengthOpts (libc : Libc D) (value : List UInt8)
    (requireNullTerminated : Bool) (hooks : Heap) : Run (Parsed D) :=
  let buffer : ParseBuffer :=
    { content := value, offset := 0, depth := 0, hooks := hooks }
  if value.length = 0 then .ok (failParse none buffer)
  else
    let (granted, hooks) := hooks.allocate
    let buffer := { buffer with hooks := hooks }
    if granted then do
      let (item, buffer) ←
        parseValue libc (3 * value.length + 1) (newItem libc)
          (bufferSkipWhitespace (skipUtf8Bom buffer))
      match item with
      | none => return failParse (some (newItem libc)) buffer
      | some item =>
          if requireNullTerminated then
            let buffer := bufferSkipWhitespace buffer
            if !buffer.sees 0 then return failParse (some item) buffer
            else return ⟨some item, buffer.offset, buffer.hooks⟩
          else return ⟨some item, buffer.offset, buffer.hooks⟩
    else .ok (failParse none buffer)

/-- `cJSON_ParseWithOpts` for a string without its terminator. -/
def cJsonParseWithOpts (libc : Libc D) (value : List UInt8)
    (requireNullTerminated : Bool) (hooks : Heap) : Run (Parsed D) :=
  cJsonParseWithLengthOpts libc (value ++ [0]) requireNullTerminated hooks

/-- `cJSON_Parse`. -/
def cJsonParse (libc : Libc D) (value : List UInt8) (hooks : Heap) :
    Run (Parsed D) :=
  cJsonParseWithOpts libc value false hooks

end Dnvme.Json
