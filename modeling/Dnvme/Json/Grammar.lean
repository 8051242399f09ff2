import Dnvme.Json.Literal

/-!
# The grammar of JSON text

A value is what a text means, without the chains and flags of nodes.  The
grammar says which texts name a value.  It is the one that the parser is meant
to follow: a nesting is limited, every byte up to the space is a blank, and a
number is what `strtod` takes for one.
-/

namespace Dnvme.Json

variable {D : Type}

/-- A value of JSON data. -/
inductive Value (D : Type) where
  | null
  | false_
  | true_
  | number (number : D)
  | string (string : List UInt8)
  | array (items : List (Value D))
  | object (members : List (List UInt8 × Value D))

/-! ## The nodes of a value -/

/-- The item of a member of an object before its value is known. -/
def namedItem (libc : Libc D) (name : List UInt8) : JsonNode D :=
  { newItem libc with type := cJsonString, string := some name }

mutual

/-- An item with a value. -/
def Value.fill (libc : Libc D) : Value D → JsonNode D → JsonNode D
  | .null, item => { item with type := cJsonNull }
  | .false_, item => { item with type := cJsonFalse }
  | .true_, item => { item with type := cJsonTrue, valueint := 1 }
  | .number number, item =>
      { item with
        valuedouble := number
        valueint := saturate libc number
        type := cJsonNumber }
  | .string string, item =>
      { item with type := cJsonString, valuestring := some string }
  | .array items, item =>
      { item with type := cJsonArray, child := fillItems libc items }
  | .object members, item =>
      { item with type := cJsonObject, child := fillMembers libc members }

/-- The chain of the elements of an array. -/
def fillItems (libc : Libc D) : List (Value D) → List (JsonNode D)
  | [] => []
  | value :: rest => value.fill libc (newItem libc) :: fillItems libc rest

/-- The chain of the members of an object. -/
def fillMembers (libc : Libc D) :
    List (List UInt8 × Value D) → List (JsonNode D)
  | [] => []
  | (name, value) :: rest =>
      value.fill libc (namedItem libc name) :: fillMembers libc rest

end

/-- The tree of a value. -/
def Value.node (libc : Libc D) (value : Value D) : JsonNode D :=
  value.fill libc (newItem libc)

/-! ## Texts -/

/-- A text is blanks and then the other text. -/
def Blanks (text rest : List UInt8) : Prop :=
  ∃ blanks, text = blanks ++ rest ∧ ∀ byte ∈ blanks, byte ≤ 32

/-- What a part of a text may be: a value, the elements of an array with the
bracket after them, or the members of an object with the brace after them. -/
inductive Form (D : Type) where
  | value (value : Value D)
  | elements (items : List (Value D))
  | members (members : List (List UInt8 × Value D))

/-- The first byte of a number. -/
def StartsNumber (byte : UInt8) : Prop :=
  byte = ascii '-' ∨ (ascii '0' ≤ byte ∧ byte ≤ ascii '9')

instance (byte : UInt8) : Decidable (StartsNumber byte) :=
  inferInstanceAs (Decidable (_ ∨ _))

/-- A text starts with a part that may have so many levels of nesting, and
another text is after the part. -/
inductive Derives (libc : Libc D) :
    Nat → Form D → List UInt8 → List UInt8 → Prop
  | null {levels : Nat} {rest : List UInt8} :
      Derives libc levels (.value .null)
        (asciiText ['n', 'u', 'l', 'l'] ++ rest) rest
  | false_ {levels : Nat} {rest : List UInt8} :
      Derives libc levels (.value .false_)
        (asciiText ['f', 'a', 'l', 's', 'e'] ++ rest) rest
  | true_ {levels : Nat} {rest : List UInt8} :
      Derives libc levels (.value .true_)
        (asciiText ['t', 'r', 'u', 'e'] ++ rest) rest
  | number {levels size : Nat} {byte : UInt8} {rest : List UInt8}
      {number : D} :
      StartsNumber byte →
        libc.strtod (numberCString (byte :: rest)) = (number, size) →
        size ≠ 0 →
        Derives libc levels (.value (.number number)) (byte :: rest)
          ((byte :: rest).drop size)
  | string {levels : Nat} {text string rest : List UInt8} :
      Literal text string rest →
        Derives libc levels (.value (.string string)) text rest
  | emptyArray {levels : Nat} {text rest : List UInt8} :
      Blanks text (ascii ']' :: rest) →
        Derives libc (levels + 1) (.value (.array [])) (ascii '[' :: text) rest
  | array {levels : Nat} {text rest : List UInt8} {items : List (Value D)} :
      Derives libc levels (.elements items) text rest →
        Derives libc (levels + 1) (.value (.array items))
          (ascii '[' :: text) rest
  | emptyObject {levels : Nat} {text rest : List UInt8} :
      Blanks text (ascii '\x7d' :: rest) →
        Derives libc (levels + 1) (.value (.object []))
          (ascii '\x7b' :: text) rest
  | object {levels : Nat} {text rest : List UInt8}
      {members : List (List UInt8 × Value D)} :
      Derives libc levels (.members members) text rest →
        Derives libc (levels + 1) (.value (.object members))
          (ascii '\x7b' :: text) rest
  | lastElement {levels : Nat} {text start after rest : List UInt8}
      {value : Value D} :
      Blanks text start → Derives libc levels (.value value) start after →
        Blanks after (ascii ']' :: rest) →
        Derives libc levels (.elements [value]) text rest
  | element {levels : Nat} {text start after more rest : List UInt8}
      {value : Value D} {items : List (Value D)} :
      Blanks text start → Derives libc levels (.value value) start after →
        Blanks after (ascii ',' :: more) →
        Derives libc levels (.elements items) more rest →
        Derives libc levels (.elements (value :: items)) text rest
  | lastMember {levels : Nat}
      {text start name colon afterColon value_ after rest : List UInt8}
      {value : Value D} :
      Blanks text start → Literal start name colon →
        Blanks colon (ascii ':' :: afterColon) → Blanks afterColon value_ →
        Derives libc levels (.value value) value_ after →
        Blanks after (ascii '\x7d' :: rest) →
        Derives libc levels (.members [(name, value)]) text rest
  | member {levels : Nat}
      {text start name colon afterColon value_ after more rest : List UInt8}
      {value : Value D} {members : List (List UInt8 × Value D)} :
      Blanks text start → Literal start name colon →
        Blanks colon (ascii ':' :: afterColon) → Blanks afterColon value_ →
        Derives libc levels (.value value) value_ after →
        Blanks after (ascii ',' :: more) →
        Derives libc levels (.members members) more rest →
        Derives libc levels (.members ((name, value) :: members)) text rest

/-! ## The whitespace of the buffer -/

theorem skipBlanks_blanks (bytes : List UInt8) (offset : Nat) :
    ∃ blanks rest, bytes = blanks ++ rest ∧ (∀ byte ∈ blanks, byte ≤ 32) ∧
      (∀ byte ∈ rest.head?, ¬ byte ≤ 32) ∧
      skipBlanks bytes offset = offset + blanks.length := by
  induction bytes generalizing offset with
  | nil => exact ⟨[], [], rfl, by simp, by simp, rfl⟩
  | cons byte bytes ih =>
      rw [skipBlanks]
      by_cases blank : byte ≤ 32
      · obtain ⟨blanks, rest, parts, all, first, done⟩ := ih (offset + 1)
        refine ⟨byte :: blanks, rest, by rw [parts]; rfl, ?_, first, ?_⟩
        · exact List.forall_mem_cons.mpr ⟨blank, all⟩
        · rw [if_pos blank, done, List.length_cons]
          omega
      · exact ⟨[], byte :: bytes, rfl, by simp, by simpa using blank,
          if_neg blank⟩

theorem length_rest (buffer : ParseBuffer) :
    buffer.rest.length = buffer.length - buffer.offset :=
  List.length_drop

/-- Where `buffer_skip_whitespace` goes on. -/
theorem bufferSkipWhitespace_eq (buffer : ParseBuffer) :
    ∃ offset, bufferSkipWhitespace buffer = { buffer with offset := offset } ∧
      buffer.offset ≤ offset ∧
      (buffer.offset ≤ buffer.length → offset ≤ buffer.length) ∧
      (buffer.offset < buffer.length → offset < buffer.length) ∧
      Blanks buffer.rest (buffer.content.drop offset) := by
  unfold bufferSkipWhitespace
  by_cases inside : buffer.offset < buffer.length
  · rw [if_pos (by simpa [ParseBuffer.canAccessAtIndex] using inside)]
    obtain ⟨blanks, rest, parts, all, _, done⟩ :=
      skipBlanks_blanks buffer.rest buffer.offset
    have lengths := congrArg List.length parts
    rw [length_rest, List.length_append] at lengths
    dsimp only
    rw [done]
    split_ifs with reached
    · -- only blanks are left, and the offset is at the last of them
      refine ⟨_, rfl, by omega, fun _ => by omega, fun _ => by omega, ?_⟩
      refine ⟨blanks.dropLast, ?_, fun byte member =>
        all byte (List.mem_of_mem_dropLast member)⟩
      have none_ : rest = [] := List.length_eq_zero_iff.mp (by omega)
      subst none_
      rw [List.append_nil] at parts
      have some_ : blanks ≠ [] := by
        rintro rfl
        rw [List.length_nil] at lengths
        omega
      rw [show buffer.offset + blanks.length - 1 =
          buffer.offset + (blanks.length - 1) by
        have := List.length_pos_iff.mpr some_
        omega, ← List.drop_drop]
      change buffer.rest = _ ++ buffer.rest.drop _
      rw [parts, List.dropLast_eq_take, List.take_append_drop]
    · refine ⟨_, rfl, by omega, fun _ => by omega, fun _ => by omega,
        blanks, ?_, all⟩
      rw [← List.drop_drop]
      change buffer.rest = _ ++ buffer.rest.drop _
      rw [parts, List.drop_left]
  · rw [if_neg (by simpa [ParseBuffer.canAccessAtIndex] using inside)]
    exact ⟨buffer.offset, rfl, Nat.le_refl _, fun le => le,
      fun lt => absurd lt inside, [], rfl, by simp⟩

end Dnvme.Json
