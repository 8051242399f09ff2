import Dnvme.Json.ParseSound

/-!
# What the parser does not refuse

A text of the grammar is accepted, provided that every request for memory is
granted.  With the other direction the parser gives a tree exactly for the
texts of the grammar, and the grammar names one value for a text.
-/

namespace Dnvme.Json

open Dnvme.Nvme
open Dnvme.Lib.Outcomes

variable {D : Type} {libc : Libc D}

/-! ## Whitespace -/

theorem blanks_unique {first second : List UInt8} {one two : List UInt8}
    (firstBlank : ∀ byte ∈ first, byte ≤ 32)
    (secondBlank : ∀ byte ∈ second, byte ≤ 32)
    (oneStarts : ∀ byte ∈ one.head?, ¬ byte ≤ 32)
    (twoStarts : ∀ byte ∈ two.head?, ¬ byte ≤ 32)
    (same : first ++ one = second ++ two) : one = two := by
  induction first generalizing second with
  | nil =>
      rcases second with _ | ⟨byte, second⟩
      · exact same
      · rw [List.nil_append] at same
        subst same
        exact absurd (secondBlank byte List.mem_cons_self) (oneStarts byte rfl)
  | cons byte first ih =>
      rcases second with _ | ⟨other, second⟩
      · rw [List.nil_append] at same
        subst same
        exact absurd (firstBlank byte List.mem_cons_self) (twoStarts byte rfl)
      · rw [List.cons_append, List.cons_append, List.cons.injEq] at same
        exact ih (List.forall_mem_cons.mp firstBlank).2
          (List.forall_mem_cons.mp secondBlank).2 same.2

/-- Whitespace is skipped up to the next other byte. -/
theorem rest_skip {buffer : ParseBuffer} {byte : UInt8} {rest : List UInt8}
    (blanks : Blanks buffer.rest (byte :: rest)) (visible : ¬ byte ≤ 32) :
    (bufferSkipWhitespace buffer).rest = byte :: rest := by
  obtain ⟨before, parts, all⟩ := blanks
  have inside : buffer.offset < buffer.length := by
    have lengths := congrArg List.length parts
    rw [length_rest, List.length_append, List.length_cons] at lengths
    omega
  unfold bufferSkipWhitespace
  rw [if_pos (by simpa [ParseBuffer.canAccessAtIndex] using inside)]
  obtain ⟨skipped, text, others, blank, first, done⟩ :=
    skipBlanks_blanks buffer.rest buffer.offset
  have same : text = byte :: rest :=
    blanks_unique blank all first (by simpa using visible)
      (others.symm.trans parts)
  subst same
  have lengths := congrArg List.length others
  rw [length_rest, List.length_append, List.length_cons] at lengths
  dsimp only
  rw [done, if_neg (by omega)]
  change buffer.content.drop (buffer.offset + skipped.length) = _
  rw [← List.drop_drop]
  change buffer.rest.drop _ = _
  rw [others, List.drop_left]

/-- Some of the blanks before a visible byte were skipped. -/
theorem Blanks.later {text middle rest : List UInt8} {byte : UInt8}
    (blanks : Blanks text (byte :: rest)) (visible : ¬ byte ≤ 32)
    (skipped : Blanks text middle) : Blanks middle (byte :: rest) := by
  obtain ⟨before, rfl, all⟩ := blanks
  obtain ⟨part, same, blank⟩ := skipped
  induction part generalizing before with
  | nil => exact ⟨before, same.symm, all⟩
  | cons other part ih =>
      rcases before with _ | ⟨first, before⟩
      · rw [List.nil_append, List.cons_append, List.cons.injEq] at same
        rw [same.1] at visible
        exact absurd (blank other List.mem_cons_self) visible
      · rw [List.cons_append, List.cons_append, List.cons.injEq] at same
        exact ih before (List.forall_mem_cons.mp all).2 same.2
          (List.forall_mem_cons.mp blank).2

/-- The first byte of a value is visible. -/
theorem Derives.starts {levels : Nat} {form : Form D} {text rest : List UInt8}
    (derives : Derives libc levels form text rest) {value : Value D}
    (isValue : form = .value value) :
    ∃ byte more, text = byte :: more ∧ ¬ byte ≤ 32 ∧ byte ≠ ascii ']' := by
  cases derives with
  | null => exact ⟨_, _, rfl, by decide, by decide⟩
  | false_ => exact ⟨_, _, rfl, by decide, by decide⟩
  | true_ => exact ⟨_, _, rfl, by decide, by decide⟩
  | number starts _ _ =>
      refine ⟨_, _, rfl, ?_⟩
      rcases starts with rfl | ⟨low, high⟩
      · decide
      · have space : (32 : UInt8) < ascii '0' := by decide
        refine ⟨UInt8.not_le.mpr (UInt8.lt_of_lt_of_le space low), ?_⟩
        rintro rfl
        exact absurd high (by decide)
  | string literal =>
      obtain ⟨body, count, rfl, _⟩ := literal
      exact ⟨_, _, rfl, by decide, by decide⟩
  | emptyArray => exact ⟨_, _, rfl, by decide, by decide⟩
  | array => exact ⟨_, _, rfl, by decide, by decide⟩
  | emptyObject => exact ⟨_, _, rfl, by decide, by decide⟩
  | object => exact ⟨_, _, rfl, by decide, by decide⟩
  | lastElement => cases isValue
  | element => cases isValue
  | lastMember => cases isValue
  | member => cases isValue

/-! ## Values -/

theorem startsWith_other {buffer : ParseBuffer} {byte first : UInt8}
    {rest word : List UInt8} (bytes : buffer.rest = byte :: rest)
    (other : byte ≠ first) : buffer.startsWith (first :: word) = false := by
  refine Bool.eq_false_iff.mpr fun starts => ?_
  obtain ⟨more, parts⟩ := (@startsWith_iff buffer (first :: word)
    (Nat.succ_pos _)).mp starts
  rw [bytes] at parts
  exact other (List.cons.inj parts).1

/-- `parse_value` at a byte that starts none of the words. -/
theorem parseValue_at {buffer : ParseBuffer} {item : JsonNode D} {byte : UInt8}
    {rest : List UInt8} (turns : Nat) (bytes : buffer.rest = byte :: rest)
    (notNull : byte ≠ ascii 'n') (notFalse : byte ≠ ascii 'f')
    (notTrue : byte ≠ ascii 't') :
    parseValue libc (turns + 1) item buffer =
      if byte = quote then parseString item buffer
      else if byte = ascii '-' ∨ (ascii '0' ≤ byte ∧ byte ≤ ascii '9') then
        .ok (parseNumber libc item buffer)
      else if byte = ascii '[' then parseArray libc turns item buffer
      else if byte = ascii '\x7b' then parseObject libc turns item buffer
      else .ok (none, buffer) := by
  unfold parseValue
  have noNull : buffer.startsWith (asciiText ['n', 'u', 'l', 'l']) = false :=
    startsWith_other bytes notNull
  have noFalse :
      buffer.startsWith (asciiText ['f', 'a', 'l', 's', 'e']) = false :=
    startsWith_other bytes notFalse
  have noTrue : buffer.startsWith (asciiText ['t', 'r', 'u', 'e']) = false :=
    startsWith_other bytes notTrue
  have here : buffer.content[buffer.offset]? = some byte :=
    of_decide_eq_true ((sees_iff buffer byte).mpr ⟨rest, bytes⟩)
  rw [if_neg (by rw [noNull]; decide), if_neg (by rw [noFalse]; decide),
    if_neg (by rw [noTrue]; decide), here]

/-- Every request for memory is granted. -/
def Grants (buffer : ParseBuffer) : Prop :=
  ∀ request, buffer.hooks.grants request = true

theorem Grants.allocate {buffer : ParseBuffer} (grants : Grants buffer) :
    buffer.hooks.allocate = (true, { buffer.hooks with
      asked := buffer.hooks.asked + 1
      live := buffer.hooks.live + 1 }) :=
  if_pos (grants _)

/-- The functions of the parser accept a part of the grammar. -/
def Accepts (libc : Libc D) (levels : Nat) (text rest : List UInt8) :
    Form D → Prop
  | .value value => ∀ turns item buffer, Unfilled item → Grants buffer →
      buffer.rest = text → levels = cjsonNestingLimit - buffer.depth →
      3 * (buffer.length - buffer.offset) + 1 ≤ turns →
      ∃ after, parseValue libc turns item buffer =
        .ok (some (value.fill libc item), after) ∧ after.rest = rest
  | .elements items => ∀ turns head buffer, Grants buffer →
      Blanks text (buffer.content.drop (buffer.offset + 1)) →
      levels = cjsonNestingLimit - buffer.depth →
      buffer.offset < buffer.length →
      3 * (buffer.length - buffer.offset) ≤ turns + 1 →
      ∃ after, parseElements libc turns head buffer =
        .ok (some (head ++ fillItems libc items), after) ∧
        after.rest = ascii ']' :: rest
  | .members members => ∀ turns head buffer, Grants buffer →
      Blanks text (buffer.content.drop (buffer.offset + 1)) →
      levels = cjsonNestingLimit - buffer.depth →
      buffer.offset < buffer.length →
      3 * (buffer.length - buffer.offset) ≤ turns + 1 →
      ∃ after, parseMembers libc turns head buffer =
        .ok (some (head ++ fillMembers libc members), after) ∧
        after.rest = ascii '\x7d' :: rest

theorem number_first {byte : UInt8} (starts : StartsNumber byte) :
    byte ≠ ascii 'n' ∧ byte ≠ ascii 'f' ∧ byte ≠ ascii 't' ∧ byte ≠ quote := by
  have nine : ascii '9' < ascii 'f' := by decide
  have quoteZero : quote < ascii '0' := by decide
  rcases starts with rfl | ⟨low, high⟩
  · decide
  · refine ⟨?_, ?_, ?_, ?_⟩
    · rintro rfl
      exact absurd high (by decide)
    · rintro rfl
      exact absurd high (by decide)
    · rintro rfl
      exact absurd high (by decide)
    · rintro rfl
      exact absurd low (by decide)

theorem accepts_word {turns : Nat} {item node : JsonNode D}
    {buffer : ParseBuffer} {word rest : List UInt8}
    (bytes : buffer.rest = word ++ rest)
    (done : parseValue libc (turns + 1) item buffer =
      .ok (some node, buffer.advance word.length)) :
    ∃ after, parseValue libc (turns + 1) item buffer =
      .ok (some node, after) ∧ after.rest = rest :=
  ⟨_, done, by rw [rest_advance, bytes, List.drop_left]⟩

theorem accepts_null {levels : Nat} {rest : List UInt8} :
    Accepts libc levels (asciiText ['n', 'u', 'l', 'l'] ++ rest) rest
      (.value .null) := by
  intro turns item buffer _ _ bytes _ enough
  obtain ⟨fewer, rfl⟩ : ∃ fewer, turns = fewer + 1 := ⟨turns - 1, by omega⟩
  refine accepts_word bytes ?_
  unfold parseValue
  rw [if_pos ((startsWith_iff buffer (by decide)).mpr ⟨rest, bytes⟩)]
  rfl

theorem accepts_false {levels : Nat} {rest : List UInt8} :
    Accepts libc levels (asciiText ['f', 'a', 'l', 's', 'e'] ++ rest) rest
      (.value .false_) := by
  intro turns item buffer _ _ bytes _ enough
  obtain ⟨fewer, rfl⟩ : ∃ fewer, turns = fewer + 1 := ⟨turns - 1, by omega⟩
  refine accepts_word bytes ?_
  have noNull : buffer.startsWith (asciiText ['n', 'u', 'l', 'l']) = false :=
    startsWith_other bytes (by decide)
  unfold parseValue
  rw [if_neg (by rw [noNull]; decide),
    if_pos ((startsWith_iff buffer (by decide)).mpr ⟨rest, bytes⟩)]
  rfl

theorem accepts_true {levels : Nat} {rest : List UInt8} :
    Accepts libc levels (asciiText ['t', 'r', 'u', 'e'] ++ rest) rest
      (.value .true_) := by
  intro turns item buffer _ _ bytes _ enough
  obtain ⟨fewer, rfl⟩ : ∃ fewer, turns = fewer + 1 := ⟨turns - 1, by omega⟩
  refine accepts_word bytes ?_
  have noNull : buffer.startsWith (asciiText ['n', 'u', 'l', 'l']) = false :=
    startsWith_other bytes (by decide)
  have noFalse :
      buffer.startsWith (asciiText ['f', 'a', 'l', 's', 'e']) = false :=
    startsWith_other bytes (by decide)
  unfold parseValue
  rw [if_neg (by rw [noNull]; decide), if_neg (by rw [noFalse]; decide),
    if_pos ((startsWith_iff buffer (by decide)).mpr ⟨rest, bytes⟩)]
  rfl

theorem accepts_number {levels size : Nat} {byte : UInt8} {rest : List UInt8}
    {number : D} (starts : StartsNumber byte)
    (read : libc.strtod (numberCString (byte :: rest)) = (number, size))
    (some_ : size ≠ 0) :
    Accepts libc levels (byte :: rest) ((byte :: rest).drop size)
      (.value (.number number)) := by
  intro turns item buffer _ _ bytes _ enough
  obtain ⟨fewer, rfl⟩ : ∃ fewer, turns = fewer + 1 := ⟨turns - 1, by omega⟩
  obtain ⟨notNull, notFalse, notTrue, notQuote⟩ := number_first starts
  refine ⟨buffer.advance size, ?_, by rw [rest_advance, bytes]⟩
  rw [parseValue_at fewer bytes notNull notFalse notTrue, if_neg notQuote,
    if_pos (show byte = ascii '-' ∨ (ascii '0' ≤ byte ∧ byte ≤ ascii '9') from
      starts)]
  unfold parseNumber
  rw [bytes, read]
  dsimp only
  rw [if_neg some_]
  rfl

theorem accepts_string {levels : Nat} {text string rest : List UInt8}
    (literal : Literal text string rest) :
    Accepts libc levels text rest (.value (.string string)) := by
  intro turns item buffer _ grants bytes _ enough
  obtain ⟨fewer, rfl⟩ : ∃ fewer, turns = fewer + 1 := ⟨turns - 1, by omega⟩
  have first : ∃ more, buffer.rest = quote :: more := by
    obtain ⟨body, count, parts, _⟩ := literal
    exact ⟨_, bytes.trans parts⟩
  obtain ⟨more, first⟩ := first
  rw [← bytes] at literal
  obtain ⟨offset, done, after⟩ := parseStringBytes_literal literal
    (congrArg Prod.fst grants.allocate)
  refine ⟨{ buffer with offset := offset, hooks := buffer.hooks.allocate.2 },
    ?_, after⟩
  rw [parseValue_at fewer first (by decide) (by decide) (by decide), if_pos rfl]
  unfold parseString
  rw [done]
  rfl

/-! ## Arrays and objects -/

theorem Grants.moved {before after : ParseBuffer} {gained : Int}
    (grants : Grants before) (moved : Moved before after gained) :
    Grants after := by
  intro request
  rw [moved.grants]
  exact grants request

/-- An array or object without elements. -/
theorem empty_accepted {closing : UInt8} {type : Nat}
    {item : JsonNode D} {buffer : ParseBuffer} {byte : UInt8}
    {text rest : List UInt8}
    {parse : List (JsonNode D) → ParseBuffer →
      Run (Option (List (JsonNode D)) × ParseBuffer)}
    (visible : ¬ closing ≤ 32)
    (bytes : buffer.rest = byte :: text)
    (closes : Blanks text (closing :: rest)) :
    ∃ after,
      afterFirst closing type item parse buffer =
      .ok (some { item with type := type, child := [] }, after) ∧
      after.rest = rest := by
  have blanks : Blanks (buffer.deeper.advance 1).rest (closing :: rest) := by
    rw [rest_advance, show buffer.deeper.rest = byte :: text from bytes]
    exact closes
  have skipped := rest_skip blanks visible
  unfold afterFirst
  dsimp only
  generalize bufferSkipWhitespace (buffer.deeper.advance 1) = inner at *
  refine ⟨(succeedWith type item [] inner).2, ?_, drop_succ skipped⟩
  rw [if_pos ((sees_iff inner closing).mpr ⟨rest, skipped⟩)]
  rfl

/-- Where the elements of an array start. -/
theorem Derives.starts_elements {levels : Nat} {items : List (Value D)}
    {text rest : List UInt8}
    (derives : Derives libc levels (.elements items) text rest) :
    ∃ byte more, Blanks text (byte :: more) ∧ ¬ byte ≤ 32 ∧
      byte ≠ ascii ']' := by
  cases derives with
  | lastElement first value after =>
      obtain ⟨byte, more, rfl, visible, other⟩ := value.starts rfl
      exact ⟨byte, more, first, visible, other⟩
  | element first value after others =>
      obtain ⟨byte, more, rfl, visible, other⟩ := value.starts rfl
      exact ⟨byte, more, first, visible, other⟩

/-- Where the members of an object start. -/
theorem Derives.starts_members {levels : Nat}
    {members : List (List UInt8 × Value D)} {text rest : List UInt8}
    (derives : Derives libc levels (.members members) text rest) :
    ∃ byte more, Blanks text (byte :: more) ∧ ¬ byte ≤ 32 ∧
      byte ≠ ascii '\x7d' := by
  cases derives with
  | lastMember first name _ _ _ _ =>
      obtain ⟨body, count, rfl, _⟩ := name
      exact ⟨_, _, first, by decide, by decide⟩
  | member first name _ _ _ _ _ =>
      obtain ⟨body, count, rfl, _⟩ := name
      exact ⟨_, _, first, by decide, by decide⟩

/-- After the first byte of an array or object that is not empty. -/
theorem skipped_inside {buffer : ParseBuffer} {byte first closing : UInt8}
    {text more : List UInt8} (bytes : buffer.rest = byte :: text)
    (blanks : Blanks text (first :: more)) (visible : ¬ first ≤ 32)
    (other : first ≠ closing) :
    ¬ (bufferSkipWhitespace (buffer.deeper.advance 1)).sees closing = true ∧
      (bufferSkipWhitespace
        (buffer.deeper.advance 1)).canAccessAtIndex 0 = true := by
  have here : Blanks (buffer.deeper.advance 1).rest (first :: more) := by
    rw [rest_advance, show buffer.deeper.rest = byte :: text from bytes]
    exact blanks
  have skipped := rest_skip here visible
  refine ⟨fun sees => ?_, decide_eq_true (inside_of_rest skipped)⟩
  obtain ⟨rest, same⟩ := (sees_iff _ closing).mp sees
  rw [skipped, List.cons.injEq] at same
  exact other same.1

theorem shallow_of_levels {levels depth : Nat}
    (enough : levels + 1 = cjsonNestingLimit - depth) :
    ¬ cjsonNestingLimit ≤ depth ∧ levels = cjsonNestingLimit - (depth + 1) := by
  omega

/-- The part of `parse_array` and `parse_object` after the first byte, where a
chain follows. -/
theorem chain_accepted {closing first byte : UInt8} {type turns levels : Nat}
    {item : JsonNode D} {buffer : ParseBuffer} {text more rest : List UInt8}
    {parse : List (JsonNode D) → ParseBuffer →
      Run (Option (List (JsonNode D)) × ParseBuffer)}
    {chain : List (JsonNode D)} (grants : Grants buffer)
    (bytes : buffer.rest = byte :: text)
    (nested : levels + 1 = cjsonNestingLimit - buffer.depth)
    (enough : 3 * (buffer.length - buffer.offset) ≤ turns + 1)
    (blanks : Blanks text (first :: more)) (visible : ¬ first ≤ 32)
    (other : first ≠ closing)
    (accepts : ∀ inner, Grants inner →
      Blanks text (inner.content.drop (inner.offset + 1)) →
      levels = cjsonNestingLimit - inner.depth →
      inner.offset < inner.length →
      3 * (inner.length - inner.offset) ≤ turns + 1 →
      ∃ after, parse [] inner = .ok (some chain, after) ∧
        after.rest = closing :: rest) :
    ∃ after, afterFirst closing type item parse buffer =
        .ok (some { item with type := type, child := chain }, after) ∧
      after.rest = rest := by
  obtain ⟨moved, skipped⟩ := @opened buffer.deeper byte text bytes
  obtain ⟨notEmpty, accessible⟩ := skipped_inside bytes blanks visible other
  unfold afterFirst
  dsimp only
  generalize bufferSkipWhitespace (buffer.deeper.advance 1) = inner at *
  have here : inner.offset < inner.length := of_decide_eq_true accessible
  have length : inner.length = buffer.length :=
    congrArg List.length moved.content
  have further : buffer.offset < inner.offset := moved.further
  have steps : inner.stepBack.offset + 1 = inner.offset :=
    Nat.sub_add_cancel (Nat.one_le_of_lt further)
  obtain ⟨after, done, closes⟩ := accepts inner.stepBack
    (@Grants.moved buffer.deeper inner 0 grants moved)
    (by
      rw [steps]
      exact skipped)
    (by
      rw [(shallow_of_levels nested).2]
      exact congrArg (cjsonNestingLimit - ·) moved.depth.symm)
    (Nat.lt_of_le_of_lt (Nat.sub_le _ _) here)
    (by
      change 3 * (inner.length - (inner.offset - 1)) ≤ _
      omega)
  refine ⟨(succeedWith type item chain after).2, ?_, drop_succ closes⟩
  rw [if_neg notEmpty, if_neg (by rw [accessible]; decide), done]
  rfl

theorem accepts_array {levels : Nat} {text rest : List UInt8}
    {items : List (Value D)}
    (derives : Derives libc levels (.elements items) text rest)
    (accepts : Accepts libc levels text rest (.elements items)) :
    Accepts libc (levels + 1) (ascii '[' :: text) rest
      (.value (.array items)) := by
  intro turns item buffer _ grants bytes nested enough
  obtain ⟨shallow, _⟩ := shallow_of_levels nested
  have inside := inside_of_rest bytes
  obtain ⟨fewer, rfl⟩ : ∃ fewer, turns = fewer + 1 + 1 := ⟨turns - 2, by omega⟩
  rw [parseValue_at (fewer + 1) bytes (by decide) (by decide) (by decide),
    if_neg (by decide), if_neg (by decide), if_pos rfl,
    parseArray_eq bytes shallow]
  obtain ⟨byte, more, blanks, visible, other⟩ := derives.starts_elements
  exact chain_accepted grants bytes nested (by omega) blanks visible other
    (accepts fewer [])

theorem accepts_emptyArray {levels : Nat} {text rest : List UInt8}
    (closes : Blanks text (ascii ']' :: rest)) :
    Accepts libc (levels + 1) (ascii '[' :: text) rest
      (.value (.array [])) := by
  intro turns item buffer _ _ bytes nested enough
  obtain ⟨shallow, _⟩ := shallow_of_levels nested
  have inside := inside_of_rest bytes
  obtain ⟨fewer, rfl⟩ : ∃ fewer, turns = fewer + 1 + 1 := ⟨turns - 2, by omega⟩
  rw [parseValue_at (fewer + 1) bytes (by decide) (by decide) (by decide),
    if_neg (by decide), if_neg (by decide), if_pos rfl,
    parseArray_eq bytes shallow]
  exact empty_accepted (by decide) bytes closes

theorem accepts_object {levels : Nat} {text rest : List UInt8}
    {members : List (List UInt8 × Value D)}
    (derives : Derives libc levels (.members members) text rest)
    (accepts : Accepts libc levels text rest (.members members)) :
    Accepts libc (levels + 1) (ascii '\x7b' :: text) rest
      (.value (.object members)) := by
  intro turns item buffer _ grants bytes nested enough
  obtain ⟨shallow, _⟩ := shallow_of_levels nested
  have inside := inside_of_rest bytes
  obtain ⟨fewer, rfl⟩ : ∃ fewer, turns = fewer + 1 + 1 := ⟨turns - 2, by omega⟩
  rw [parseValue_at (fewer + 1) bytes (by decide) (by decide) (by decide),
    if_neg (by decide), if_neg (by decide), if_neg (by decide), if_pos rfl,
    parseObject_eq bytes shallow]
  obtain ⟨byte, more, blanks, visible, other⟩ := derives.starts_members
  exact chain_accepted grants bytes nested (by omega) blanks visible other
    (accepts fewer [])

theorem accepts_emptyObject {levels : Nat} {text rest : List UInt8}
    (closes : Blanks text (ascii '\x7d' :: rest)) :
    Accepts libc (levels + 1) (ascii '\x7b' :: text) rest
      (.value (.object [])) := by
  intro turns item buffer _ _ bytes nested enough
  obtain ⟨shallow, _⟩ := shallow_of_levels nested
  have inside := inside_of_rest bytes
  obtain ⟨fewer, rfl⟩ : ∃ fewer, turns = fewer + 1 + 1 := ⟨turns - 2, by omega⟩
  rw [parseValue_at (fewer + 1) bytes (by decide) (by decide) (by decide),
    if_neg (by decide), if_neg (by decide), if_neg (by decide), if_pos rfl,
    parseObject_eq bytes shallow]
  exact empty_accepted (by decide) bytes closes

/-! ## The loops -/

section Turns

variable {closing : UInt8} {head : List (JsonNode D)} {next : ParseBuffer}
  {parse : List (JsonNode D) → ParseBuffer →
    Run (Option (List (JsonNode D)) × ParseBuffer)}

/-- The last turn of a loop. -/
theorem endOfTurn_last {rest : List UInt8} (visible : ¬ closing ≤ 32)
    (other : closing ≠ ascii ',')
    (closes : Blanks next.rest (closing :: rest)) :
    ∃ after, endOfTurn closing parse head next = .ok (some head, after) ∧
      after.rest = closing :: rest := by
  have skipped := rest_skip closes visible
  unfold endOfTurn
  dsimp only
  generalize bufferSkipWhitespace next = after at skipped
  refine ⟨after, ?_, skipped⟩
  rw [if_neg fun sees => ?_,
    if_pos ((sees_iff after closing).mpr ⟨rest, skipped⟩)]
  · rfl
  · obtain ⟨more, same⟩ := (sees_iff after _).mp sees
    rw [skipped, List.cons.injEq] at same
    exact other same.1

/-- A turn of a loop that another one follows. -/
theorem endOfTurn_more {more : List UInt8}
    (comma : Blanks next.rest (ascii ',' :: more)) :
    endOfTurn closing parse head next =
        parse head (bufferSkipWhitespace next) ∧
      (bufferSkipWhitespace next).rest = ascii ',' :: more := by
  have skipped := rest_skip comma (by decide)
  exact ⟨if_pos ((sees_iff _ _).mpr ⟨more, skipped⟩), skipped⟩

end Turns

/-- The buffer after the comma or bracket before an element. -/
def elementStart (buffer : ParseBuffer) : ParseBuffer :=
  bufferSkipWhitespace
    (ParseBuffer.advance { buffer with hooks := buffer.hooks.allocate.2 } 1)

theorem elementStart_moved {buffer : ParseBuffer} (grants : Grants buffer)
    (inside : buffer.offset < buffer.length) :
    Moved buffer (elementStart buffer) 1 ∧
      Blanks (buffer.content.drop (buffer.offset + 1))
        (elementStart buffer).rest := by
  obtain ⟨moved, blanks⟩ :=
    (@Moved.refl_advance { buffer with hooks := buffer.hooks.allocate.2 } 1
      Nat.one_pos inside).skip
  exact ⟨moved.granted (by rw [grants.allocate]), blanks⟩

/-- The element after a comma or bracket. -/
theorem rest_elementStart {buffer : ParseBuffer} {text more : List UInt8}
    {byte : UInt8} (skipped : Blanks text
      (buffer.content.drop (buffer.offset + 1)))
    (blanks : Blanks text (byte :: more)) (visible : ¬ byte ≤ 32) :
    (elementStart buffer).rest = byte :: more :=
  rest_skip (blanks.later visible skipped) visible

theorem parseElements_eq {turns : Nat} {head : List (JsonNode D)}
    {buffer next : ParseBuffer} {node : JsonNode D} (grants : Grants buffer)
    (done : parseValue libc turns (newItem libc) (elementStart buffer) =
      .ok (some node, next)) :
    parseElements libc (turns + 1) head buffer =
      endOfTurn (ascii ']') (parseElements libc turns) (head ++ [node])
        next := by
  unfold parseElements
  unfold elementStart at done
  rw [grants.allocate] at done ⊢
  dsimp only at done ⊢
  rw [if_pos rfl, done]
  rfl

/-- A value after a comma or bracket. -/
theorem element_value (strtod : StrtodInside libc) {levels turns : Nat}
    {value : Value D} {start after : List UInt8} {item : JsonNode D}
    {before buffer : ParseBuffer} {gained : Int}
    (accepts : Accepts libc levels start after (.value value))
    (unfilled : Unfilled item)
    (grants : Grants before) (moved : Moved before buffer gained)
    (blanks : buffer.rest = start)
    (nested : levels = cjsonNestingLimit - before.depth)
    (enough : 3 * (before.length - before.offset) ≤ turns + 2) :
    ∃ next, parseValue libc turns item buffer =
        .ok (some (value.fill libc item), next) ∧ next.rest = after ∧
      ∃ gained, Moved before next gained ∧ before.offset + 2 ≤ next.offset := by
  have length : buffer.length = before.length :=
    congrArg List.length moved.content
  have further := moved.further
  have inside : buffer.offset ≤ buffer.length :=
    moved.inside.trans_eq length.symm
  have turns_ : 3 * (buffer.length - buffer.offset) + 1 ≤ turns := by
    have := moved.inside
    omega
  obtain ⟨next, done, rest⟩ := accepts turns item buffer unfilled
    (grants.moved moved) blanks (nested.trans (by rw [moved.depth])) turns_
  refine ⟨next, done, rest, ?_⟩
  have runs := (follows_all strtod turns).1 item buffer unfilled trivial inside
    turns_
  obtain ⟨_, found⟩ := runs.elim done
  obtain ⟨_, _, more, _⟩ := found _ rfl
  have later : buffer.offset < next.offset := more.further
  exact ⟨_, moved.trans more, by omega⟩

/-- What a loop finds after a comma. -/
theorem comma_ready {levels turns : Nat} {others : List UInt8}
    {before next : ParseBuffer} {gained : Int} (grants : Grants before)
    (moved : Moved before next gained)
    (further : before.offset + 2 ≤ next.offset)
    (bytes : (bufferSkipWhitespace next).rest = ascii ',' :: others)
    (nested : levels = cjsonNestingLimit - before.depth)
    (enough : 3 * (before.length - before.offset) ≤ turns + 2) :
    Grants (bufferSkipWhitespace next) ∧
      Blanks others ((bufferSkipWhitespace next).content.drop
        ((bufferSkipWhitespace next).offset + 1)) ∧
      levels = cjsonNestingLimit - (bufferSkipWhitespace next).depth ∧
      (bufferSkipWhitespace next).offset <
        (bufferSkipWhitespace next).length ∧
      3 * ((bufferSkipWhitespace next).length -
        (bufferSkipWhitespace next).offset) ≤ turns + 1 := by
  obtain ⟨offset, same, later, _⟩ := bufferSkipWhitespace_eq next
  have skipped := moved.skip.1
  have farther : next.offset ≤ (bufferSkipWhitespace next).offset := by
    rw [same]
    exact later
  generalize bufferSkipWhitespace next = comma at *
  have length : comma.length = before.length :=
    congrArg List.length skipped.content
  refine ⟨grants.moved skipped, ?_, ?_, inside_of_rest bytes, by omega⟩
  · rw [drop_succ bytes]
    exact ⟨[], rfl, by simp⟩
  · rw [nested, skipped.depth]

theorem accepts_lastElement (strtod : StrtodInside libc) {levels : Nat}
    {value : Value D} {text start after rest : List UInt8}
    (blanks : Blanks text start)
    (derives : Derives libc levels (.value value) start after)
    (accepts : Accepts libc levels start after (.value value))
    (closes : Blanks after (ascii ']' :: rest)) :
    Accepts libc levels text rest (.elements [value]) := by
  intro turns head buffer grants skipped nested inside enough
  obtain ⟨fewer, rfl⟩ : ∃ fewer, turns = fewer + 1 := ⟨turns - 1, by omega⟩
  obtain ⟨byte, more, rfl, visible, _⟩ := derives.starts rfl
  obtain ⟨next, done, rfl, _⟩ := element_value strtod accepts
    (show Unfilled (newItem libc) from ⟨rfl, rfl⟩) grants
    (elementStart_moved grants inside).1
    (rest_elementStart skipped blanks visible) nested enough
  rw [parseElements_eq grants done]
  exact endOfTurn_last (by decide) (by decide) closes

theorem accepts_element (strtod : StrtodInside libc) {levels : Nat}
    {value : Value D} {items : List (Value D)}
    {text start after others rest : List UInt8}
    (blanks : Blanks text start)
    (derives : Derives libc levels (.value value) start after)
    (accepts : Accepts libc levels start after (.value value))
    (comma : Blanks after (ascii ',' :: others))
    (acceptsOthers : Accepts libc levels others rest (.elements items)) :
    Accepts libc levels text rest (.elements (value :: items)) := by
  intro turns head buffer grants skipped nested inside enough
  obtain ⟨fewer, rfl⟩ : ∃ fewer, turns = fewer + 1 := ⟨turns - 1, by omega⟩
  obtain ⟨byte, more, rfl, visible, _⟩ := derives.starts rfl
  obtain ⟨next, done, rfl, gained, moved, further⟩ := element_value strtod
    accepts (show Unfilled (newItem libc) from ⟨rfl, rfl⟩) grants
    (elementStart_moved grants inside).1
    (rest_elementStart skipped blanks visible) nested enough
  obtain ⟨turn, bytes⟩ := endOfTurn_more comma
  rw [parseElements_eq grants done, turn]
  obtain ⟨granted, start, levels_, here, turns_⟩ :=
    comma_ready grants moved further bytes nested enough
  have loop := acceptsOthers fewer
    (head ++ [value.fill libc (newItem libc)]) (bufferSkipWhitespace next)
    granted start levels_ here turns_
  rw [List.append_assoc] at loop
  exact loop

/-- A literal is read, and the offset is after it. -/
theorem literal_moved {buffer : ParseBuffer} {string rest : List UInt8}
    (literal : Literal buffer.rest string rest) (grants : Grants buffer) :
    ∃ after, parseStringBytes buffer = .ok (some string, after) ∧
      after.rest = rest ∧ Moved buffer after 1 := by
  obtain ⟨offset, done, after⟩ := parseStringBytes_literal literal
    (congrArg Prod.fst grants.allocate)
  refine ⟨_, done, after, ?_⟩
  have inside : buffer.offset < buffer.length := by
    obtain ⟨body, count, parts, _⟩ := literal
    exact inside_of_rest parts
  obtain ⟨_, found⟩ := (parseStringBytes_gives inside).elim done
  exact (found string rfl).1

/-- The name of a member with the colon and the blanks around it. -/
theorem member_name {text start name colon afterColon more : List UInt8}
    {byte : UInt8} {buffer : ParseBuffer} (grants : Grants buffer)
    (inside : buffer.offset < buffer.length)
    (skipped : Blanks text (buffer.content.drop (buffer.offset + 1)))
    (blanks : Blanks text start) (literal : Literal start name colon)
    (colons : Blanks colon (ascii ':' :: afterColon))
    (gap : Blanks afterColon (byte :: more)) (visible : ¬ byte ≤ 32) :
    ∃ after, parseStringBytes (elementStart buffer) = .ok (some name, after) ∧
      (bufferSkipWhitespace after).sees (ascii ':') = true ∧
      Moved buffer
        (bufferSkipWhitespace ((bufferSkipWhitespace after).advance 1)) 2 ∧
      (bufferSkipWhitespace ((bufferSkipWhitespace after).advance 1)).rest =
        byte :: more := by
  obtain ⟨moved, _⟩ := elementStart_moved grants inside
  have quoted : ∃ others, start = quote :: others := by
    obtain ⟨body, count, parts, _⟩ := literal
    exact ⟨_, parts⟩
  obtain ⟨others, rfl⟩ := quoted
  have bytes := rest_elementStart skipped blanks (by decide)
  rw [← bytes] at literal
  obtain ⟨after, done, rest, named⟩ :=
    literal_moved literal (grants.moved moved)
  rw [← rest] at colons
  have colon := rest_skip colons (by decide)
  have spaced := (moved.trans named).skip.1
  obtain ⟨valued, spaces⟩ := opened colon
  refine ⟨after, done, (sees_iff _ _).mpr ⟨_, colon⟩, spaced.trans valued, ?_⟩
  refine rest_skip ?_ visible
  rw [rest_advance, colon]
  exact gap

theorem parseMembers_eq {turns : Nat} {head : List (JsonNode D)}
    {buffer after next : ParseBuffer} {name : List UInt8} {node : JsonNode D}
    (grants : Grants buffer)
    (named : parseStringBytes (elementStart buffer) = .ok (some name, after))
    (colon : (bufferSkipWhitespace after).sees (ascii ':') = true)
    (done : parseValue libc turns (namedItem libc name)
      (bufferSkipWhitespace ((bufferSkipWhitespace after).advance 1)) =
      .ok (some node, next)) :
    parseMembers libc (turns + 1) head buffer =
      endOfTurn (ascii '\x7d') (parseMembers libc turns) (head ++ [node])
        next := by
  unfold parseMembers
  unfold elementStart at named
  rw [grants.allocate] at named ⊢
  dsimp only at named ⊢
  rw [if_pos rfl, named]
  simp only [bind, Except.bind]
  rw [if_neg (by rw [colon]; decide)]
  unfold namedItem at done
  rw [done]
  rfl

/-- A member up to the byte after its value. -/
theorem member_value (strtod : StrtodInside libc) {levels turns : Nat}
    {value : Value D}
    {text start name colon afterColon valueText after : List UInt8}
    {buffer : ParseBuffer} (head : List (JsonNode D))
    (blanks : Blanks text start) (literal : Literal start name colon)
    (colons : Blanks colon (ascii ':' :: afterColon))
    (gap : Blanks afterColon valueText)
    (derives : Derives libc levels (.value value) valueText after)
    (accepts : Accepts libc levels valueText after (.value value))
    (grants : Grants buffer)
    (skipped : Blanks text (buffer.content.drop (buffer.offset + 1)))
    (nested : levels = cjsonNestingLimit - buffer.depth)
    (inside : buffer.offset < buffer.length)
    (enough : 3 * (buffer.length - buffer.offset) ≤ turns + 2) :
    ∃ next gained, parseMembers libc (turns + 1) head buffer =
        endOfTurn (ascii '\x7d') (parseMembers libc turns)
          (head ++ [value.fill libc (namedItem libc name)]) next ∧
      next.rest = after ∧ Moved buffer next gained ∧
      buffer.offset + 2 ≤ next.offset := by
  obtain ⟨byte, more, rfl, visible, _⟩ := derives.starts rfl
  obtain ⟨named, read, sees, moved, bytes⟩ :=
    member_name grants inside skipped blanks literal colons gap visible
  obtain ⟨next, done, rest, gained, both, further⟩ := element_value strtod
    accepts (show Unfilled (namedItem libc name) from ⟨rfl, rfl⟩) grants moved
    bytes nested enough
  exact ⟨next, gained, parseMembers_eq grants read sees done, rest, both,
    further⟩

theorem accepts_lastMember (strtod : StrtodInside libc) {levels : Nat}
    {value : Value D}
    {text start name colon afterColon valueText after rest : List UInt8}
    (blanks : Blanks text start) (literal : Literal start name colon)
    (colons : Blanks colon (ascii ':' :: afterColon))
    (gap : Blanks afterColon valueText)
    (derives : Derives libc levels (.value value) valueText after)
    (accepts : Accepts libc levels valueText after (.value value))
    (closes : Blanks after (ascii '\x7d' :: rest)) :
    Accepts libc levels text rest (.members [(name, value)]) := by
  intro turns head buffer grants skipped nested inside enough
  obtain ⟨fewer, rfl⟩ : ∃ fewer, turns = fewer + 1 := ⟨turns - 1, by omega⟩
  obtain ⟨next, gained, turn, rfl, _⟩ :=
    member_value strtod head blanks literal colons gap derives accepts
      grants skipped nested inside enough
  rw [turn]
  exact endOfTurn_last (by decide) (by decide) closes

theorem accepts_member (strtod : StrtodInside libc) {levels : Nat}
    {value : Value D} {members : List (List UInt8 × Value D)}
    {text start name colon afterColon valueText after others rest :
      List UInt8}
    (blanks : Blanks text start) (literal : Literal start name colon)
    (colons : Blanks colon (ascii ':' :: afterColon))
    (gap : Blanks afterColon valueText)
    (derives : Derives libc levels (.value value) valueText after)
    (accepts : Accepts libc levels valueText after (.value value))
    (comma : Blanks after (ascii ',' :: others))
    (acceptsOthers : Accepts libc levels others rest (.members members)) :
    Accepts libc levels text rest (.members ((name, value) :: members)) := by
  intro turns head buffer grants skipped nested inside enough
  obtain ⟨fewer, rfl⟩ : ∃ fewer, turns = fewer + 1 := ⟨turns - 1, by omega⟩
  obtain ⟨next, gained, turn, rfl, moved, further⟩ :=
    member_value strtod head blanks literal colons gap derives accepts
      grants skipped nested inside enough
  obtain ⟨onward, bytes⟩ := endOfTurn_more comma
  rw [turn, onward]
  obtain ⟨granted, start, levels_, here, turns_⟩ :=
    comma_ready grants moved further bytes nested enough
  have loop := acceptsOthers fewer
    (head ++ [value.fill libc (namedItem libc name)])
    (bufferSkipWhitespace next) granted start levels_ here turns_
  rw [List.append_assoc] at loop
  exact loop

/-! ## All parts -/

/-- The parser accepts the parts of the grammar. -/
theorem accepts_all (strtod : StrtodInside libc) {levels : Nat} {form : Form D}
    {text rest : List UInt8} (derives : Derives libc levels form text rest) :
    Accepts libc levels text rest form := by
  induction derives with
  | null => exact accepts_null
  | false_ => exact accepts_false
  | true_ => exact accepts_true
  | number starts read some_ => exact accepts_number starts read some_
  | string literal => exact accepts_string literal
  | emptyArray closes => exact accepts_emptyArray closes
  | array derives ih => exact accepts_array derives ih
  | emptyObject closes => exact accepts_emptyObject closes
  | object derives ih => exact accepts_object derives ih
  | lastElement blanks derives closes ih =>
      exact accepts_lastElement strtod blanks derives ih closes
  | element blanks derives comma _ ih others =>
      exact accepts_element strtod blanks derives ih comma others
  | lastMember blanks literal colons gap derives closes ih =>
      exact accepts_lastMember strtod blanks literal colons gap derives ih
        closes
  | member blanks literal colons gap derives comma _ ih others =>
      exact accepts_member strtod blanks literal colons gap derives ih comma
        others

end Dnvme.Json
