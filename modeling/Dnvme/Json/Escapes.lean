import Dnvme.Json.Literal

/-!
# Characters of string literals

A well-formed literal is made of pieces: bytes that stand for themselves,
escape sequences of one letter, and UTF-16 literals of one code unit or of a
surrogate pair.  Such a literal gives the string of its pieces, with the UTF-8
bytes of every character that is written in UTF-16.  A surrogate that is not
part of a pair makes the literal fail.
-/

namespace Dnvme.Json

/-! ## UTF-8 -/

theorem or_mark {value bits : Nat} (small : value < 2 ^ bits) :
    value ||| 2 ^ bits = value + 2 ^ bits := by
  have disjoint := Nat.two_pow_add_eq_or_of_lt small 1
  rw [Nat.mul_one] at disjoint
  rw [Nat.or_comm, ← disjoint, Nat.add_comm]

theorem continuationByte (codepoint : Nat) :
    (codepoint ||| 0x80) &&& 0xBF = codepoint % 64 + 0x80 := by
  have small : codepoint % 64 < 2 ^ 7 :=
    (Nat.mod_lt codepoint (by decide)).trans (by decide)
  calc
    (codepoint ||| 0x80) &&& 0xBF = (codepoint &&& (2 ^ 6 - 1)) ||| 2 ^ 7 := by
      rw [show (0xBF : Nat) = (2 ^ 6 - 1) ||| 2 ^ 7 from rfl,
        show (0x80 : Nat) = 2 ^ 7 from rfl]
      refine Nat.eq_of_testBit_eq fun bit => ?_
      simp only [Nat.testBit_or, Nat.testBit_and]
      cases codepoint.testBit bit <;> cases (2 ^ 6 - 1).testBit bit <;>
        cases (2 ^ 7).testBit bit <;> rfl
    _ = codepoint % 64 + 0x80 := by
      rw [Nat.and_two_pow_sub_one_eq_mod]
      exact or_mark small

theorem firstByte_two {value : Nat} (small : value < 32) :
    (value ||| 0xC0) &&& 0xFF = value + 0xC0 := by
  revert value
  decide

theorem firstByte_three {value : Nat} (small : value < 16) :
    (value ||| 0xE0) &&& 0xFF = value + 0xE0 := by
  revert value
  decide

theorem firstByte_four {value : Nat} (small : value < 8) :
    (value ||| 0xF0) &&& 0xFF = value + 0xF0 := by
  revert value
  decide

/-- The code point of a character. -/
theorem char_range (character : Char) :
    character.toNat < 0xD800 ∨
      0xDFFF < character.toNat ∧ character.toNat < 0x110000 :=
  character.valid

/-- `utf16_literal_to_utf8` stores the UTF-8 bytes of a character. -/
theorem encodeUtf8_char (character : Char) :
    encodeUtf8 character.toNat = some (String.utf8EncodeChar character) := by
  have range := char_range character
  have value : character.val.toNat = character.toNat := rfl
  unfold encodeUtf8 String.utf8EncodeChar
  dsimp only
  rw [value]
  generalize character.toNat = codepoint at range
  by_cases one : codepoint < 0x80
  · rw [if_pos one, if_pos (show codepoint ≤ 127 by omega)]
    change some [UInt8.ofNat (codepoint &&& (2 ^ 7 - 1))] = _
    rw [Nat.and_two_pow_sub_one_eq_mod, Nat.mod_eq_of_lt one]
  rw [if_neg one, if_neg (show ¬ codepoint ≤ 127 by omega)]
  by_cases two : codepoint < 0x800
  · rw [if_pos two, if_pos (show codepoint ≤ 2047 by omega)]
    have first := @firstByte_two (codepoint / 64) (by omega)
    simp only [utf8Tail, continuationByte, Nat.shiftRight_eq_div_pow,
      Nat.reducePow, Nat.reduceSub, Nat.reduceLT, if_true, first]
    rw [Nat.mod_eq_of_lt (show codepoint / 64 < 32 by omega)]
  rw [if_neg two, if_neg (show ¬ codepoint ≤ 2047 by omega)]
  by_cases three : codepoint < 0x10000
  · rw [if_pos three, if_pos (show codepoint ≤ 65535 by omega)]
    have first := @firstByte_three (codepoint / 64 / 64) (by omega)
    simp only [utf8Tail, continuationByte, Nat.shiftRight_eq_div_pow,
      Nat.reducePow, Nat.reduceSub, Nat.reduceLT, if_true, first]
    rw [Nat.div_div_eq_div_mul, Nat.mod_eq_of_lt
      (show codepoint / 4096 < 16 by omega)]
  rw [if_neg three, if_neg (show ¬ codepoint ≤ 65535 by omega)]
  rw [if_pos (show codepoint ≤ 0x10FFFF by omega)]
  have first := @firstByte_four (codepoint / 64 / 64 / 64) (by omega)
  simp only [utf8Tail, continuationByte, Nat.shiftRight_eq_div_pow,
    Nat.reducePow, Nat.reduceSub, Nat.reduceLT, if_true, first]
  simp only [Nat.div_div_eq_div_mul, Nat.reduceMul]
  rw [Nat.mod_eq_of_lt (show codepoint / 262144 < 8 by omega)]

/-! ## Pieces of a literal -/

/-- Four hexadecimal digits of a code unit. -/
def HexUnit (digits : List UInt8) (unit : Nat) : Prop :=
  ∃ a b c d w x y z, digits = [a, b, c, d] ∧ hexDigit a = some w ∧
    hexDigit b = some x ∧ hexDigit c = some y ∧ hexDigit d = some z ∧
    unit = ((w * 16 + x) * 16 + y) * 16 + z

/-- The start of a UTF-16 literal. -/
def unicode : List UInt8 :=
  [backslash, ascii 'u']

/-- A piece of a literal with the bytes it stands for. -/
inductive Piece : List UInt8 → List UInt8 → Prop
  | plain {byte : UInt8} :
      byte ≠ quote → byte ≠ backslash → Piece [byte] [byte]
  | letter {letter escaped : UInt8} :
      escapedByte letter = some escaped → Piece [backslash, letter] [escaped]
  | unit {digits : List UInt8} {character : Char} :
      HexUnit digits character.toNat →
        Piece (unicode ++ digits) (String.utf8EncodeChar character)
  | pair {high low : List UInt8} {character : Char} :
      0x10000 ≤ character.toNat →
        HexUnit high (0xD800 + (character.toNat - 0x10000) / 0x400) →
        HexUnit low (0xDC00 + (character.toNat - 0x10000) % 0x400) →
        Piece (unicode ++ high ++ (unicode ++ low))
          (String.utf8EncodeChar character)

/-- A sequence of pieces with the bytes it stands for. -/
inductive Pieces : List UInt8 → List UInt8 → Prop
  | nil : Pieces [] []
  | cons {piece bytes text string : List UInt8} :
      Piece piece bytes → Pieces text string →
        Pieces (piece ++ text) (bytes ++ string)

theorem HexUnit.length {digits : List UInt8} {unit : Nat}
    (hex : HexUnit digits unit) : digits.length = 4 := by
  obtain ⟨a, b, c, d, w, x, y, z, rfl, _⟩ := hex
  rfl

theorem HexUnit.codeUnit {digits : List UInt8} {unit : Nat}
    (hex : HexUnit digits unit) (rest : List UInt8) :
    Json.codeUnit (unicode ++ digits ++ rest) = unit := by
  obtain ⟨a, b, c, d, w, x, y, z, rfl, first, second, third, fourth, rfl⟩ :=
    hex
  exact codeUnit_digits first second third fourth rest

theorem HexUnit.lt {digits : List UInt8} {unit : Nat}
    (hex : HexUnit digits unit) : unit < 0x10000 := by
  have length := hex.length
  rw [← hex.codeUnit []]
  refine codeUnit_lt ?_
  rw [List.append_nil, List.length_append, length]
  decide

theorem hexDigit_plain {byte : UInt8} {digit : Nat}
    (found : hexDigit byte = some digit) : byte ≠ quote ∧ byte ≠ backslash := by
  have quotes : hexDigit quote = none := by decide
  have slashes : hexDigit backslash = none := by decide
  constructor
  · rintro rfl
    rw [quotes] at found
    cases found
  · rintro rfl
    rw [slashes] at found
    cases found

theorem Body.append {first second : List UInt8} {one two : Nat}
    (parts : Body first one) (more : Body second two) :
    Body (first ++ second) (one + two) := by
  induction parts with
  | nil =>
      rw [Nat.zero_add]
      exact more
  | plain notQuote notSlash _ ih => exact .plain notQuote notSlash ih
  | escape _ ih =>
      rw [Nat.add_right_comm]
      exact .escape ih

theorem HexUnit.body {digits : List UInt8} {unit : Nat}
    (hex : HexUnit digits unit) : Body (unicode ++ digits) 1 := by
  obtain ⟨a, b, c, d, w, x, y, z, rfl, first, second, third, fourth, _⟩ := hex
  have one := hexDigit_plain first
  have two := hexDigit_plain second
  have three := hexDigit_plain third
  have four := hexDigit_plain fourth
  exact .escape (.plain one.1 one.2 (.plain two.1 two.2
    (.plain three.1 three.2 (.plain four.1 four.2 .nil))))

theorem Piece.body {piece bytes : List UInt8} (given : Piece piece bytes) :
    ∃ count, Body piece count := by
  cases given with
  | plain notQuote notSlash => exact ⟨0, .plain notQuote notSlash .nil⟩
  | letter _ => exact ⟨1, .escape .nil⟩
  | unit hex => exact ⟨1, hex.body⟩
  | pair _ high low => exact ⟨2, high.body.append low.body⟩

theorem Pieces.body {text string : List UInt8} (given : Pieces text string) :
    ∃ count, Body text count := by
  induction given with
  | nil => exact ⟨0, .nil⟩
  | cons piece _ ih =>
      obtain ⟨one, first⟩ := piece.body
      obtain ⟨two, second⟩ := ih
      exact ⟨one + two, first.append second⟩

theorem utf16Literal_unit {digits rest : List UInt8} {character : Char}
    (hex : HexUnit digits character.toNat) :
    utf16Literal (unicode ++ digits ++ rest) =
      some (String.utf8EncodeChar character, 6) := by
  have range := char_range character
  have small := hex.lt
  have long : ¬ (unicode ++ digits ++ rest).length < 6 := by
    rw [List.length_append, List.length_append, hex.length]
    exact Nat.not_lt.mpr (Nat.le_add_right 6 _)
  unfold utf16Literal
  rw [hex.codeUnit, if_neg long, if_neg (by omega), if_neg (by omega),
    encodeUtf8_char]
  rfl

theorem surrogates {value : Nat} (small : value < 0x100000) :
    0x10000 + (((0xD800 + value / 0x400 &&& 0x3FF) <<< 10) |||
      (0xDC00 + value % 0x400 &&& 0x3FF)) = 0x10000 + value := by
  have high : 0xD800 + value / 0x400 &&& 0x3FF = value / 0x400 := by
    change _ &&& (2 ^ 10 - 1) = _
    rw [Nat.and_two_pow_sub_one_eq_mod]
    omega
  have low : 0xDC00 + value % 0x400 &&& 0x3FF = value % 0x400 := by
    change _ &&& (2 ^ 10 - 1) = _
    rw [Nat.and_two_pow_sub_one_eq_mod]
    omega
  rw [high, low, Nat.shiftLeft_eq, Nat.mul_comm,
    ← Nat.two_pow_add_eq_or_of_lt (Nat.mod_lt _ (by decide))]
  congr 1
  exact Nat.div_add_mod value 0x400

theorem utf16Literal_pair {high low rest : List UInt8} {character : Char}
    (wide : 0x10000 ≤ character.toNat)
    (first : HexUnit high (0xD800 + (character.toNat - 0x10000) / 0x400))
    (second : HexUnit low (0xDC00 + (character.toNat - 0x10000) % 0x400)) :
    utf16Literal (unicode ++ high ++ (unicode ++ low) ++ rest) =
      some (String.utf8EncodeChar character, 12) := by
  have range := char_range character
  have length := first.length
  have head : (unicode ++ high).length = 6 := by
    rw [List.length_append, length]
    rfl
  have parts : unicode ++ high ++ (unicode ++ low) ++ rest =
      unicode ++ high ++ (unicode ++ low ++ rest) := List.append_assoc _ _ _
  have later : (unicode ++ high ++ (unicode ++ low ++ rest)).drop 6 =
      unicode ++ low ++ rest := by
    rw [← head, List.drop_left]
  have long : ¬ (unicode ++ low ++ rest).length < 6 := by
    rw [List.length_append, List.length_append, second.length]
    exact Nat.not_lt.mpr (Nat.le_add_right 6 _)
  have whole : ¬ (unicode ++ high ++ (unicode ++ low ++ rest)).length < 6 := by
    rw [List.length_append, head]
    exact Nat.not_lt.mpr (Nat.le_add_right 6 _)
  unfold utf16Literal
  rw [parts, later, first.codeUnit, if_neg whole, if_neg (by omega),
    if_pos (by omega)]
  dsimp only
  have marked : (unicode ++ low ++ rest).take 2 = [backslash, ascii 'u'] := rfl
  rw [second.codeUnit, if_neg long, if_neg (not_not_intro marked),
    if_neg (by omega), surrogates (by omega),
    show 0x10000 + (character.toNat - 0x10000) = character.toNat by omega,
    encodeUtf8_char]
  rfl

/-! ## The string of a literal -/

theorem unescape_unicode {digits text bytes : List UInt8}
    (found : utf16Literal (unicode ++ digits ++ text) =
      some (bytes, (unicode ++ digits).length)) :
    unescape (unicode ++ digits ++ text) =
      (unescape text).map (bytes ++ ·) := by
  have letters : escapedByte (ascii 'u') = none := by decide
  change utf16Literal (backslash :: ascii 'u' :: (digits ++ text)) = _ at found
  change unescape (backslash :: ascii 'u' :: (digits ++ text)) = _
  rw [unescape_letter, letters]
  dsimp only
  rw [if_pos rfl, found]
  dsimp only
  rw [List.length_append, show unicode.length = 2 from rfl,
    Nat.add_sub_cancel_left, List.drop_left]

/-- A literal that starts with a piece. -/
theorem unescape_piece {piece bytes : List UInt8} (given : Piece piece bytes)
    (text : List UInt8) :
    unescape (piece ++ text) = (unescape text).map (bytes ++ ·) := by
  cases given with
  | plain _ notSlash => exact unescape_plain text notSlash
  | letter escaped =>
      change unescape (backslash :: _ :: text) = _
      rw [unescape_letter, escaped]
      rfl
  | unit hex =>
      refine unescape_unicode ?_
      rw [utf16Literal_unit hex, List.length_append, hex.length]
      rfl
  | pair wide high low =>
      rw [List.append_assoc unicode]
      refine unescape_unicode ?_
      rw [← List.append_assoc unicode, utf16Literal_pair wide high low]
      simp only [List.length_append, high.length, low.length]
      rfl

theorem unescape_pieces {text string : List UInt8} (given : Pieces text string)
    (rest : List UInt8) :
    unescape (text ++ rest) = (unescape rest).map (string ++ ·) := by
  induction given with
  | nil => simp
  | cons piece _ ih =>
      rw [List.append_assoc, unescape_piece piece, ih, Option.map_map]
      congr 1
      funext more
      exact (List.append_assoc _ _ _).symm

/-- A literal of pieces gives the string of its pieces. -/
theorem literal_of_pieces {text string : List UInt8}
    (given : Pieces text string) (rest : List UInt8) :
    Literal (quote :: (text ++ quote :: rest)) string rest := by
  obtain ⟨count, parts⟩ := given.body
  refine ⟨text, count, rfl, parts, ?_⟩
  have whole := unescape_pieces given []
  rw [List.append_nil, unescape_nil] at whole
  rw [whole]
  exact congrArg some (List.append_nil string)

/-! ## Lone surrogates -/

/-- The second half of a surrogate pair is at the start of a text. -/
def StartsLow (text : List UInt8) : Prop :=
  ∃ digits unit rest, text = unicode ++ digits ++ rest ∧ HexUnit digits unit ∧
    0xDC00 ≤ unit ∧ unit ≤ 0xDFFF

/-- A surrogate that is not part of a pair is at the start of a text. -/
def Lone (text : List UInt8) : Prop :=
  ∃ digits unit rest, text = unicode ++ digits ++ rest ∧ HexUnit digits unit ∧
    (0xDC00 ≤ unit ∧ unit ≤ 0xDFFF ∨
      0xD800 ≤ unit ∧ unit ≤ 0xDBFF ∧ ¬ StartsLow rest)

/-- A code unit that is not zero has four digits. -/
theorem hexUnit_of_codeUnit {text : List UInt8} (long : 6 ≤ text.length)
    (some_ : codeUnit text ≠ 0) :
    ∃ digits rest, text.drop 2 = digits ++ rest ∧
      HexUnit digits (codeUnit text) := by
  rcases text with _ | ⟨slash, _ | ⟨letter, _ | ⟨a, _ | ⟨b, _ | ⟨c,
    _ | ⟨d, rest⟩⟩⟩⟩⟩⟩
  iterate 6 · simp at long
  have valid : ∀ byte ∈ [a, b, c, d], ∃ digit, hexDigit byte = some digit := by
    intro byte inside
    cases found : hexDigit byte with
    | none => exact absurd (hex4Digits_invalid inside found 0) some_
    | some digit => exact ⟨digit, rfl⟩
  simp only [List.forall_mem_cons] at valid
  obtain ⟨⟨w, first⟩, ⟨x, second⟩, ⟨y, third⟩, ⟨z, fourth⟩, _⟩ := valid
  exact ⟨[a, b, c, d], rest, rfl, a, b, c, d, w, x, y, z, rfl, first, second,
    third, fourth, codeUnit_digits first second third fourth rest⟩

theorem utf16Literal_lone {text : List UInt8} (lone : Lone text) :
    utf16Literal text = none := by
  obtain ⟨digits, unit, rest, rfl, hex, kind⟩ := lone
  have head : (unicode ++ digits).length = 6 := by
    rw [List.length_append, hex.length]
    rfl
  unfold utf16Literal
  rw [hex.codeUnit]
  split_ifs with short low high
  · rfl
  · rfl
  · obtain ⟨_, _, alone⟩ : 0xD800 ≤ unit ∧ unit ≤ 0xDBFF ∧
        ¬ StartsLow rest := by
      rcases kind with isLow | isHigh
      · exact absurd isLow low
      · exact isHigh
    have dropped : (unicode ++ digits ++ rest).drop 6 = rest := by
      rw [← head, List.drop_left]
    rw [dropped]
    dsimp only
    split_ifs with shortLater marked outside
    · rfl
    · rfl
    · rfl
    · refine absurd ?_ alone
      have inside := not_or.mp outside
      obtain ⟨lowDigits, more, parts, hexLow⟩ :=
        @hexUnit_of_codeUnit rest (Nat.not_lt.mp shortLater) (by omega)
      refine ⟨lowDigits, codeUnit rest, more, ?_, hexLow, by omega, by omega⟩
      have start := not_not.mp marked
      calc
        rest = rest.take 2 ++ rest.drop 2 := (List.take_append_drop 2 rest).symm
        _ = unicode ++ lowDigits ++ more := by
          rw [start, parts, ← List.append_assoc]
          rfl
  · exfalso
    omega

theorem unescape_lone {text : List UInt8} (lone : Lone text) :
    unescape text = none := by
  have found := utf16Literal_lone lone
  obtain ⟨digits, unit, rest, rfl, _⟩ := lone
  have letters : escapedByte (ascii 'u') = none := by decide
  change utf16Literal (backslash :: ascii 'u' :: (digits ++ rest)) = _ at found
  change unescape (backslash :: ascii 'u' :: (digits ++ rest)) = _
  rw [unescape_letter, letters]
  dsimp only
  rw [if_pos rfl, found]

/-- `parse_string` gives the UTF-8 bytes of the characters of a literal, and
fails at a lone surrogate. -/
theorem parseStringBytes_characters {buffer : ParseBuffer}
    {text string : List UInt8} (given : Pieces text string)
    (granted : buffer.hooks.allocate.1 = true) :
    (∀ rest, buffer.rest = quote :: (text ++ quote :: rest) →
      ∃ offset, parseStringBytes buffer = .ok (some string,
          { buffer with
            offset := offset
            hooks := buffer.hooks.allocate.2 }) ∧
        buffer.content.drop offset = rest) ∧
    ∀ more rest, Lone more →
      buffer.rest = quote :: (text ++ more ++ quote :: rest) →
      (∃ count, Body (text ++ more) count) →
      ∃ offset, parseStringBytes buffer = .ok (none,
        { buffer with
          offset := offset
          hooks := buffer.hooks.allocate.2.free 1 }) := by
  constructor
  · intro rest bytes
    have literal := literal_of_pieces given rest
    rw [← bytes] at literal
    exact parseStringBytes_literal literal granted
  · rintro more rest lone bytes ⟨count, parts⟩
    obtain ⟨offset, done⟩ := parseStringBytes_body bytes parts granted
    have refused : unescape (text ++ more) = none := by
      rw [unescape_pieces given, unescape_lone lone]
      rfl
    rw [refused] at done
    exact ⟨offset, done⟩

/-- The literal of a surrogate pair, followed by a comma. -/
theorem parseStringBytes_characters_pair :
    ∃ after, parseStringBytes
        ⟨quote :: (unicode ++ asciiText ['d', '8', '3', 'd'] ++
            (unicode ++ asciiText ['D', 'E', '0', '0']) ++ [] ++
              quote :: [ascii ',']), 0, 0, ⟨fun _ => true, 0, 0⟩⟩ =
        .ok (some [0xF0, 0x9F, 0x98, 0x80], after) ∧
      after.rest = [ascii ','] := by
  have piece : Piece (unicode ++ asciiText ['d', '8', '3', 'd'] ++
      (unicode ++ asciiText ['D', 'E', '0', '0']))
      (String.utf8EncodeChar (Char.ofNat 0x1F600)) :=
    .pair (by decide)
      ⟨_, _, _, _, 13, 8, 3, 13, rfl, by decide, by decide, by decide,
        by decide, by decide⟩
      ⟨_, _, _, _, 13, 14, 0, 0, rfl, by decide, by decide, by decide,
        by decide, by decide⟩
  obtain ⟨offset, done, rest⟩ := (@parseStringBytes_characters
    ⟨_, 0, 0, ⟨fun _ => true, 0, 0⟩⟩ _ _ (.cons piece .nil) rfl).1 _ rfl
  exact ⟨_, done, rest⟩

end Dnvme.Json
