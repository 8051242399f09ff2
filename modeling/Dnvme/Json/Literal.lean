import Dnvme.Json.Parse
import Dnvme.Lib.Outcomes

/-!
# String literals

`parse_string` walks over a literal twice.  The first walk counts the escape
sequences, two bytes each, and so finds how much memory the string takes.  The
second walk translates.  It takes six bytes for an UTF-16 literal without a
look at the digits, so it may get out of step with the first one: a byte that
the first walk took as escaped may be the start of a sequence for the second.

Either way it never writes more than it has room for, reads nothing after the
closing quotation mark, and computes a function of the bytes in between.
-/

namespace Dnvme.Json

open Dnvme.Nvme
open Dnvme.Lib.Outcomes

/-! ## The function of the translation -/

/-- The number of `parse_hex4` for a list of bytes. -/
def hex4Digits : List UInt8 → Nat → Nat
  | [], h => h
  | byte :: rest, h =>
      match hexDigit byte with
      | none => 0
      | some digit =>
          hex4Digits rest (if rest = [] then h + digit else (h + digit) <<< 4)

/-- The code unit of a sequence that starts with a backslash and a letter. -/
def codeUnit (sequence : List UInt8) : Nat :=
  hex4Digits ((sequence.drop 2).take 4) 0

/-- The bytes for the UTF-16 literal at the start of a list, and its length. -/
def utf16Literal (body : List UInt8) : Option (List UInt8 × Nat) :=
  if body.length < 6 then none
  else if 0xDC00 ≤ codeUnit body ∧ codeUnit body ≤ 0xDFFF then none
  else if 0xD800 ≤ codeUnit body ∧ codeUnit body ≤ 0xDBFF then
    let second := body.drop 6
    if second.length < 6 then none
    else if second.take 2 ≠ [backslash, ascii 'u'] then none
    else if codeUnit second < 0xDC00 ∨ 0xDFFF < codeUnit second then none
    else
      (encodeUtf8 (0x10000 + (((codeUnit body &&& 0x3FF) <<< 10) |||
        (codeUnit second &&& 0x3FF)))).map fun bytes => (bytes, 12)
  else (encodeUtf8 (codeUnit body)).map fun bytes => (bytes, 6)

/-- The string of the bytes between the quotation marks.  A last backslash
escapes the closing quotation mark. -/
def unescape : List UInt8 → Option (List UInt8)
  | [] => some []
  | byte :: rest =>
      if byte ≠ backslash then (unescape rest).map (byte :: ·)
      else
        match rest with
        | [] => some [quote]
        | letter :: rest =>
            match escapedByte letter with
            | some escaped => (unescape rest).map (escaped :: ·)
            | none =>
                if letter = ascii 'u' then
                  match utf16Literal (byte :: letter :: rest) with
                  | none => none
                  | some (bytes, size) =>
                      (unescape (rest.drop (size - 2))).map (bytes ++ ·)
                else none
  termination_by body => body.length

/-! ## The first walk -/

/-- The bytes of a literal up to its closing quotation mark, with the number of
escape sequences. -/
inductive Body : List UInt8 → Nat → Prop
  | nil : Body [] 0
  | plain {byte : UInt8} {rest : List UInt8} {count : Nat} :
      byte ≠ quote → byte ≠ backslash → Body rest count →
        Body (byte :: rest) count
  | escape {byte : UInt8} {rest : List UInt8} {count : Nat} :
      Body rest count → Body (backslash :: byte :: rest) (count + 1)

theorem findStringEnd_quote (rest : List UInt8) (position skipped : Nat) :
    findStringEnd (quote :: rest) position skipped =
      some (position, skipped) := by
  rw [findStringEnd.eq_def]
  exact if_pos rfl

theorem findStringEnd_plain {byte : UInt8} (notQuote : byte ≠ quote)
    (notSlash : byte ≠ backslash) (rest : List UInt8)
    (position skipped : Nat) :
    findStringEnd (byte :: rest) position skipped =
      findStringEnd rest (position + 1) skipped := by
  rw [findStringEnd.eq_def]
  dsimp only
  rw [if_neg notQuote, if_neg notSlash]

theorem findStringEnd_escape (byte : UInt8) (rest : List UInt8)
    (position skipped : Nat) :
    findStringEnd (backslash :: byte :: rest) position skipped =
      findStringEnd rest (position + 2) (skipped + 1) := by
  rw [findStringEnd.eq_def]
  dsimp only
  rw [if_neg (by decide), if_pos rfl]

theorem findStringEnd_body {body : List UInt8} {count : Nat}
    (parts : Body body count) (after : List UInt8) (position skipped : Nat) :
    findStringEnd (body ++ quote :: after) position skipped =
      some (position + body.length, skipped + count) := by
  induction parts generalizing position skipped with
  | nil => exact findStringEnd_quote after position skipped
  | plain notQuote notSlash _ ih =>
      rw [List.cons_append, findStringEnd_plain notQuote notSlash, ih,
        List.length_cons]
      congr 2
      omega
  | escape _ ih =>
      rw [List.cons_append, List.cons_append, findStringEnd_escape, ih,
        List.length_cons, List.length_cons]
      congr 2 <;> omega

theorem body_of_findStringEnd {rest : List UInt8}
    {position skipped inputEnd total : Nat}
    (found : findStringEnd rest position skipped = some (inputEnd, total)) :
    ∃ body count after, rest = body ++ quote :: after ∧ Body body count ∧
      inputEnd = position + body.length ∧ total = skipped + count := by
  fun_induction findStringEnd rest position skipped with
  | case1 => cases found
  | case2 rest position skipped =>
      cases found
      exact ⟨[], 0, rest, rfl, .nil, rfl, rfl⟩
  | case3 => cases found
  | case4 position skipped byte rest notQuote ih =>
      obtain ⟨body, count, after, parts, walks, ends, counted⟩ := ih found
      refine ⟨backslash :: byte :: body, count + 1, after, ?_, .escape walks,
        ?_, ?_⟩
      · rw [parts]
        rfl
      · rw [ends, List.length_cons, List.length_cons]
        omega
      · omega
  | case5 byte rest position skipped notQuote notSlash ih =>
      obtain ⟨body, count, after, parts, walks, ends, counted⟩ := ih found
      refine ⟨byte :: body, count, after, ?_, .plain notQuote notSlash walks,
        ?_, counted⟩
      · rw [parts]
        rfl
      · rw [ends, List.length_cons]
        omega

/-- The end of a literal is determined by its bytes. -/
theorem body_unique {first second : List UInt8} {one two : Nat}
    {after later : List UInt8} (parts : Body first one)
    (others : Body second two)
    (same : first ++ quote :: after = second ++ quote :: later) :
    first = second ∧ after = later := by
  have ends := findStringEnd_body parts after 0 0
  rw [same, findStringEnd_body others later 0 0] at ends
  have lengths : second.length = first.length := by
    simpa using congrArg (fun found => (found.getD (0, 0)).1) ends
  obtain ⟨bodies, afters⟩ := List.append_inj same lengths.symm
  exact ⟨bodies, (List.cons.inj afters).2⟩

/-! ## The second walk -/

/-- What is ahead of the second walk: a literal with so many escape sequences,
or a byte that the first walk took as escaped and then such a literal. -/
def Ahead (body : List UInt8) (count : Nat) : Prop :=
  Body body count ∨ ∃ byte rest, body = byte :: rest ∧ Body rest count

theorem Body.two_mul_le {body : List UInt8} {count : Nat}
    (parts : Body body count) : 2 * count ≤ body.length := by
  induction parts with
  | nil => exact Nat.le_refl 0
  | plain _ _ _ ih =>
      rw [List.length_cons]
      omega
  | escape _ ih =>
      rw [List.length_cons, List.length_cons]
      omega

theorem Ahead.two_mul_le {body : List UInt8} {count : Nat}
    (ahead : Ahead body count) : 2 * count ≤ body.length := by
  rcases ahead with inStep | ⟨byte, rest, rfl, parts⟩
  · exact inStep.two_mul_le
  · have := parts.two_mul_le
    rw [List.length_cons]
    omega

/-- After a byte that starts no sequence the walks are in step. -/
theorem Ahead.plain {byte : UInt8} {rest : List UInt8} {count : Nat}
    (ahead : Ahead (byte :: rest) count) (notSlash : byte ≠ backslash) :
    Body rest count := by
  rcases ahead with inStep | ⟨_, _, same, parts⟩
  · cases inStep with
    | plain _ _ parts => exact parts
    | escape _ => exact absurd rfl notSlash
  · cases same
    exact parts

/-- A byte of a literal and what is ahead of the walk after it. -/
theorem Body.next {byte : UInt8} {rest : List UInt8} {count : Nat}
    (parts : Body (byte :: rest) count) :
    Body rest count ∨ ∃ last others, rest = last :: others ∧
      ∃ fewer, Body others fewer ∧ count = fewer + 1 := by
  cases parts with
  | plain _ _ parts => exact .inl parts
  | escape parts => exact .inr ⟨_, _, rfl, _, parts, rfl⟩

/-- Two bytes hold the start of one escape sequence at most. -/
theorem Ahead.two {first second : UInt8} {rest : List UInt8} {count : Nat}
    (ahead : Ahead (first :: second :: rest) count) :
    ∃ fewer, Ahead rest fewer ∧ count ≤ fewer + 1 := by
  have inStep (parts : Body (second :: rest) count) :
      ∃ fewer, Ahead rest fewer ∧ count ≤ fewer + 1 := by
    rcases parts.next with after | ⟨last, others, rfl, fewer, after, rfl⟩
    · exact ⟨count, .inl after, Nat.le_succ count⟩
    · exact ⟨fewer, .inr ⟨last, others, rfl, after⟩, Nat.le_refl _⟩
  rcases ahead with parts | ⟨_, _, same, parts⟩
  · rcases parts.next with after | ⟨_, _, same, fewer, after, rfl⟩
    · exact inStep after
    · cases same
      exact ⟨fewer, .inl after, Nat.le_refl _⟩
  · cases same
    exact inStep parts

theorem Ahead.drop {body : List UInt8} {count : Nat}
    (ahead : Ahead body count) (pairs : Nat)
    (long : 2 * pairs ≤ body.length) :
    ∃ fewer, Ahead (body.drop (2 * pairs)) fewer ∧
      count ≤ fewer + pairs := by
  induction pairs generalizing body count with
  | zero => exact ⟨count, ahead, Nat.le_refl _⟩
  | succ pairs ih =>
      rcases body with _ | ⟨first, _ | ⟨second, rest⟩⟩
      · simp at long
      · rw [List.length_singleton] at long
        omega
      · obtain ⟨fewer, ahead, less⟩ := ahead.two
        rw [List.length_cons, List.length_cons] at long
        obtain ⟨least, ahead, lesser⟩ := ih ahead (by omega)
        exact ⟨least, ahead, by omega⟩

theorem tableAt_drop {content : List UInt8} {index : Nat} {byte : UInt8}
    {rest : List UInt8} (bytes : content.drop index = byte :: rest) :
    tableAt content index = .ok byte := by
  unfold tableAt
  have here := congrArg (fun found => found[0]?) bytes
  rw [List.getElem?_drop] at here
  rw [show content[index]? = some byte from here]

theorem drop_succ {content : List UInt8} {index : Nat} {byte : UInt8}
    {rest : List UInt8} (bytes : content.drop index = byte :: rest) :
    content.drop (index + 1) = rest := by
  rw [← List.drop_drop, bytes]
  rfl

theorem hex4Loop_eq {content : List UInt8} (digits : List UInt8) :
    ∀ {after : List UInt8} {index : Nat} (h : Nat),
      content.drop index = digits ++ after →
        hex4Loop content digits.length index h = .ok (hex4Digits digits h) := by
  induction digits with
  | nil =>
      intro after index h bytes
      rfl
  | cons byte rest ih =>
      intro after index h bytes
      rw [List.length_cons, hex4Loop, hex4Digits, tableAt_drop bytes]
      change (match hexDigit byte with
        | none => _
        | some digit => _) = _
      cases hexDigit byte with
      | none => rfl
      | some digit =>
          dsimp only
          rw [ih _ (drop_succ bytes)]
          simp only [List.length_eq_zero_iff]

theorem parseHex4_eq {content sequence : List UInt8} {position : Nat}
    {after : List UInt8} (bytes : content.drop position = sequence ++ after)
    (long : 6 ≤ sequence.length) :
    parseHex4 content (position + 2) = .ok (codeUnit sequence) := by
  have digits : ((sequence.drop 2).take 4).length = 4 := by
    rw [List.length_take, List.length_drop]
    omega
  have parts : content.drop (position + 2) =
      (sequence.drop 2).take 4 ++ ((sequence.drop 2).drop 4 ++ after) := by
    rw [← List.append_assoc, List.take_append_drop, ← List.drop_drop, bytes,
      List.drop_append_of_le_length (by omega)]
  have loop := hex4Loop_eq _ 0 parts
  rwa [digits] at loop

theorem Output.put_ok {output : Output} {more : List UInt8}
    (fits : output.bytes.length + more.length ≤ output.room) :
    output.put more = .ok { output with bytes := output.bytes ++ more } :=
  if_pos fits

/-- Storing the bytes of a code point. -/
theorem put_encoded {output : Output} (size : Nat)
    (encoded : Option (List UInt8))
    (fits : ∀ more, encoded = some more →
      output.bytes.length + more.length ≤ output.room) :
    (match encoded with
      | none => (pure (0, output) : Run (Nat × Output))
      | some bytes => do return (size, ← output.put bytes)) =
    .ok (((encoded.map fun bytes => (bytes, size)).map fun literal =>
      (literal.2, { output with bytes := output.bytes ++ literal.1 })).getD
        (0, output)) := by
  cases encoded with
  | none => rfl
  | some more =>
      dsimp only
      rw [Output.put_ok (fits more rfl)]
      rfl

/-- `utf16_literal_to_utf8` computes its function of the bytes up to the
closing quotation mark. -/
theorem utf16LiteralToUtf8_eq {content body after : List UInt8}
    {position inputEnd : Nat} {output : Output}
    (bytes : content.drop position = body ++ quote :: after)
    (ends : inputEnd = position + body.length)
    (fits : ∀ literal, utf16Literal body = some literal →
      output.bytes.length + literal.1.length ≤ output.room) :
    utf16LiteralToUtf8 content position inputEnd output =
      .ok (((utf16Literal body).map fun literal =>
        (literal.2, { output with
          bytes := output.bytes ++ literal.1 })).getD (0, output)) := by
  have left : inputEnd - position = body.length := by omega
  unfold utf16LiteralToUtf8
  unfold utf16Literal at fits ⊢
  rw [left]
  by_cases short : body.length < 6
  · rw [if_pos short, if_pos short]
    rfl
  rw [if_neg short] at fits ⊢
  rw [if_neg short, parseHex4_eq bytes (Nat.not_lt.mp short)]
  simp only [bind, Except.bind]
  by_cases low : 0xDC00 ≤ codeUnit body ∧ codeUnit body ≤ 0xDFFF
  · rw [if_pos low, if_pos low]
    rfl
  rw [if_neg low] at fits ⊢
  rw [if_neg low]
  by_cases high : 0xD800 ≤ codeUnit body ∧ codeUnit body ≤ 0xDBFF
  · rw [if_pos high] at fits ⊢
    rw [if_pos high]
    have later : inputEnd - (position + 6) = (body.drop 6).length := by
      rw [List.length_drop]
      omega
    dsimp only at fits ⊢
    rw [later]
    by_cases shortLater : (body.drop 6).length < 6
    · rw [if_pos shortLater, if_pos shortLater]
      rfl
    rw [if_neg shortLater] at fits ⊢
    rw [if_neg shortLater]
    have second : content.drop (position + 6) =
        body.drop 6 ++ quote :: after := by
      rw [← List.drop_drop, bytes, List.drop_append_of_le_length (by omega)]
    have code := parseHex4_eq second (Nat.not_lt.mp shortLater)
    generalize body.drop 6 = sequence at *
    rcases sequence with _ | ⟨slash, _ | ⟨letter, rest⟩⟩
    · simp at shortLater
    · simp at shortLater
    rw [tableAt_drop second, code]
    have next : content.drop (position + 6 + 1) =
        letter :: rest ++ quote :: after := drop_succ second
    rw [tableAt_drop next]
    simp only [List.take_succ_cons, List.take_zero, ne_eq, List.cons.injEq,
      and_true] at fits ⊢
    by_cases slashes : slash = backslash
    · by_cases letters : letter = ascii 'u'
      · rw [if_neg (not_not_intro slashes), if_neg (not_not_intro letters),
          if_neg (not_not_intro ⟨slashes, letters⟩)]
        rw [if_neg (not_not_intro ⟨slashes, letters⟩)] at fits
        by_cases outside : codeUnit (slash :: letter :: rest) < 0xDC00 ∨
            0xDFFF < codeUnit (slash :: letter :: rest)
        · rw [if_pos outside, if_pos outside]
          rfl
        · rw [if_neg outside] at fits ⊢
          rw [if_neg outside]
          exact put_encoded 12 _ fun more some_ =>
            fits (more, 12) (by rw [some_]; rfl)
      · rw [if_neg (not_not_intro slashes), if_pos letters,
          if_pos fun both => letters both.2]
        rfl
    · rw [if_pos slashes, if_pos fun both => slashes both.1]
      rfl
  · rw [if_neg high] at fits ⊢
    rw [if_neg high]
    exact put_encoded 6 _ fun more some_ => fits (more, 6) (by rw [some_]; rfl)

theorem length_utf8Tail (count codepoint : Nat) (tail : List UInt8) :
    (utf8Tail count codepoint tail).2.length = count + tail.length := by
  induction count generalizing codepoint tail with
  | zero => exact (Nat.zero_add _).symm
  | succ count ih =>
      rw [utf8Tail, ih, List.length_cons]
      omega

theorem length_encodeUtf8 {codepoint : Nat} {encoded : List UInt8}
    (done : encodeUtf8 codepoint = some encoded) :
    encoded.length ≤ 4 ∧ (codepoint < 0x10000 → encoded.length ≤ 3) := by
  unfold encodeUtf8 at done
  dsimp only at done
  split_ifs at done with one two three four
  all_goals
    cases done
    rw [List.length_cons, length_utf8Tail, List.length_nil]
    omega

theorem hexDigit_lt {byte : UInt8} {digit : Nat}
    (found : hexDigit byte = some digit) : digit < 16 := by
  unfold hexDigit at found
  simp only [UInt8.le_iff_toNat_le] at found
  have zero : (ascii '0').toNat = 48 := rfl
  have nine : (ascii '9').toNat = 57 := rfl
  have upperA : (ascii 'A').toNat = 65 := rfl
  have upperF : (ascii 'F').toNat = 70 := rfl
  have lowerA : (ascii 'a').toNat = 97 := rfl
  have lowerF : (ascii 'f').toNat = 102 := rfl
  split_ifs at found
  all_goals
    cases found
    omega

/-- The code unit of four hexadecimal digits. -/
theorem codeUnit_digits {slash letter a b c d : UInt8} {w x y z : Nat}
    (first : hexDigit a = some w) (second : hexDigit b = some x)
    (third : hexDigit c = some y) (fourth : hexDigit d = some z)
    (rest : List UInt8) :
    codeUnit (slash :: letter :: a :: b :: c :: d :: rest) =
      ((w * 16 + x) * 16 + y) * 16 + z := by
  have four : ((slash :: letter :: a :: b :: c :: d :: rest).drop 2).take 4 =
      [a, b, c, d] := rfl
  rw [codeUnit, four]
  simp only [hex4Digits, first, second, third, fourth, reduceCtorEq, if_false,
    if_true, Nat.shiftLeft_eq]
  omega

/-- A byte that is no digit makes the code unit zero. -/
theorem hex4Digits_invalid {digits : List UInt8} {byte : UInt8}
    (inside : byte ∈ digits) (invalid : hexDigit byte = none) (h : Nat) :
    hex4Digits digits h = 0 := by
  induction digits generalizing h with
  | nil => cases inside
  | cons other rest ih =>
      rw [hex4Digits]
      rcases List.mem_cons.mp inside with rfl | later
      · rw [invalid]
      · cases hexDigit other with
        | none => rfl
        | some digit => exact ih later _

theorem codeUnit_lt {sequence : List UInt8} (long : 6 ≤ sequence.length) :
    codeUnit sequence < 0x10000 := by
  rcases sequence with _ | ⟨slash, _ | ⟨letter, _ | ⟨a, _ | ⟨b, _ | ⟨c,
    _ | ⟨d, rest⟩⟩⟩⟩⟩⟩
  iterate 6 · simp at long
  by_cases valid : ∀ byte ∈ [a, b, c, d], (hexDigit byte).isSome
  · simp only [List.forall_mem_cons, Option.isSome_iff_exists] at valid
    obtain ⟨⟨w, first⟩, ⟨x, second⟩, ⟨y, third⟩, ⟨z, fourth⟩, _⟩ := valid
    rw [codeUnit_digits first second third fourth]
    have := hexDigit_lt first
    have := hexDigit_lt second
    have := hexDigit_lt third
    have := hexDigit_lt fourth
    omega
  · simp only [not_forall, Option.not_isSome_iff_eq_none] at valid
    obtain ⟨byte, inside, invalid⟩ := valid
    have zero : codeUnit (slash :: letter :: a :: b :: c :: d :: rest) = 0 :=
      hex4Digits_invalid inside invalid 0
    omega

/-- A literal takes six bytes or twelve, and gives half as many at most. -/
theorem utf16Literal_size {body : List UInt8} {literal : List UInt8 × Nat}
    (found : utf16Literal body = some literal) :
    ∃ pairs, literal.2 = 2 * pairs ∧ 2 * pairs ≤ body.length ∧
      literal.1.length ≤ pairs ∧ 0 < pairs := by
  unfold utf16Literal at found
  dsimp only at found
  split_ifs at found with short low high shortLater marked outside
  · obtain ⟨bytes, encoded, rfl⟩ := Option.map_eq_some_iff.mp found
    rw [List.length_drop] at shortLater
    have := (length_encodeUtf8 encoded).1
    exact ⟨6, rfl, by omega, by dsimp only; omega, by decide⟩
  · obtain ⟨bytes, encoded, rfl⟩ := Option.map_eq_some_iff.mp found
    have := (length_encodeUtf8 encoded).2 (codeUnit_lt (Nat.not_lt.mp short))
    exact ⟨3, rfl, by omega, this, by decide⟩

section Equations

variable (rest : List UInt8)

@[simp]
theorem unescape_nil : unescape [] = some [] := by
  rw [unescape]

theorem unescape_plain {byte : UInt8} (notSlash : byte ≠ backslash) :
    unescape (byte :: rest) = (unescape rest).map (byte :: ·) := by
  rw [unescape.eq_def]
  exact if_pos notSlash

/-- The second walk is out of step and takes the closing quotation mark. -/
theorem unescape_last : unescape [backslash] = some [quote] := by
  rw [unescape.eq_def]
  exact if_neg (not_not_intro rfl)

theorem unescape_letter (letter : UInt8) :
    unescape (backslash :: letter :: rest) =
      match escapedByte letter with
      | some escaped => (unescape rest).map (escaped :: ·)
      | none =>
          if letter = ascii 'u' then
            match utf16Literal (backslash :: letter :: rest) with
            | none => none
            | some (bytes, size) =>
                (unescape (rest.drop (size - 2))).map (bytes ++ ·)
          else none := by
  rw [unescape.eq_def]
  dsimp only
  rw [if_neg (not_not_intro rfl)]

end Equations

/-- The second walk from a position on gives a string, or fails, and leaves
room for the terminator. -/
def Translates (content : List UInt8) (inputEnd turns position : Nat)
    (output : Output) (found : Option (List UInt8)) : Prop :=
  ∃ position', unescapeLoop content inputEnd turns position output =
      .ok (position', found.map fun more =>
        { output with bytes := output.bytes ++ more }) ∧
    ∀ more, found = some more →
      output.bytes.length + more.length + 2 ≤ output.room

/-- The second walk goes on after some bytes were stored. -/
theorem Translates.stored {content : List UInt8}
    {inputEnd turns position : Nat} {output : Output}
    {found : Option (List UInt8)} {bytes : List UInt8}
    (given : Translates content inputEnd turns position
      { output with bytes := output.bytes ++ bytes } found) :
    ∃ position', unescapeLoop content inputEnd turns position
        { output with bytes := output.bytes ++ bytes } =
      .ok (position', (found.map (bytes ++ ·)).map fun more =>
        { output with bytes := output.bytes ++ more }) ∧
      ∀ more, found.map (bytes ++ ·) = some more →
        output.bytes.length + more.length + 2 ≤ output.room := by
  obtain ⟨position', done, room⟩ := given
  refine ⟨position', ?_, ?_⟩
  · rw [done]
    cases found with
    | none => rfl
    | some more => simp [List.append_assoc]
  · intro more same
    obtain ⟨last, rfl, rfl⟩ := Option.map_eq_some_iff.mp same
    have := room last rfl
    simp only [List.length_append] at this ⊢
    omega

/-- The second walk computes its function of the bytes up to the closing
quotation mark. -/
theorem unescapeLoop_translates {content after : List UInt8} {inputEnd : Nat}
    (turns : Nat) :
    ∀ {position count : Nat} {body : List UInt8} {output : Output},
      content.drop position = body ++ quote :: after →
        inputEnd = position + body.length → Ahead body count →
        body.length < turns →
        output.bytes.length + (body.length - count) + 2 ≤ output.room →
        Translates content inputEnd turns position output (unescape body) := by
  induction turns with
  | zero =>
      intro position count body output _ _ _ left _
      exact absurd left (Nat.not_lt_zero _)
  | succ turns ih =>
      intro position count body output bytes ends ahead left room
      unfold Translates unescapeLoop
      rcases body with _ | ⟨byte, rest⟩
      · refine ⟨position, ?_, ?_⟩
        · rw [if_neg (by rw [ends]; exact Nat.lt_irrefl _), unescape_nil]
          simp [pure, Except.pure]
        · intro more done
          rw [unescape_nil] at done
          cases done
          simp only [List.length_nil] at room ⊢
          omega
      rw [List.length_cons] at ends left room
      have least := ahead.two_mul_le
      rw [List.length_cons] at least
      rw [if_pos (by omega),
        @tableAt_drop _ _ _ (rest ++ quote :: after) bytes]
      simp only [bind, Except.bind]
      by_cases plain : byte ≠ backslash
      · -- one byte is copied, and the walks are in step afterwards
        have inStep := ahead.plain plain
        have least := inStep.two_mul_le
        rw [if_pos plain, unescape_plain rest plain,
          Output.put_ok (by rw [List.length_singleton]; omega)]
        exact (ih (drop_succ bytes) (by omega) (.inl inStep) (by omega)
          (by
            dsimp only
            rw [List.length_append, List.length_singleton]
            omega)).stored
      have slash := not_not.mp plain
      subst slash
      rw [if_neg plain, if_neg (by omega)]
      rcases rest with _ | ⟨letter, rest⟩
      · -- the escaped byte is the closing quotation mark
        have closing : content.drop (position + 1) = quote :: after :=
          drop_succ bytes
        rw [List.length_nil] at ends left room least
        rw [tableAt_drop closing, unescape_last]
        have escaped : escapedByte quote = some quote := by decide
        dsimp only
        rw [escaped]
        dsimp only
        rw [Output.put_ok (by rw [List.length_singleton]; omega)]
        dsimp only
        obtain ⟨turns, rfl⟩ : ∃ fewer, turns = fewer + 1 :=
          ⟨turns - 1, by omega⟩
        refine ⟨position + 2, ?_, ?_⟩
        · rw [unescapeLoop, if_neg (by omega)]
          rfl
        · intro more same
          cases same
          rw [List.length_singleton]
          omega
      have second : content.drop (position + 1) =
          letter :: rest ++ quote :: after := drop_succ bytes
      rw [tableAt_drop second, unescape_letter]
      dsimp only
      rw [List.length_cons] at ends left room least
      cases letters : escapedByte letter with
      | some escaped =>
          obtain ⟨fewer, later, less⟩ := ahead.two
          have least := later.two_mul_le
          dsimp only
          rw [Output.put_ok (by rw [List.length_singleton]; omega)]
          dsimp only
          have third : content.drop (position + 2) = rest ++ quote :: after :=
            drop_succ second
          exact (ih third (by omega) later (by omega)
            (by
              dsimp only
              rw [List.length_append, List.length_singleton]
              omega)).stored
      | none =>
          dsimp only
          by_cases utf16 : letter = ascii 'u'
          · rw [if_pos utf16, if_pos utf16]
            rw [utf16LiteralToUtf8_eq bytes (by
              rw [List.length_cons, List.length_cons]
              omega) (fun literal found => by
                obtain ⟨pairs, _, long, small, _⟩ := utf16Literal_size found
                obtain ⟨fewer, later, less⟩ := ahead.drop pairs long
                have := later.two_mul_le
                simp only [List.length_drop, List.length_cons] at this long
                omega)]
            cases literals : utf16Literal (backslash :: letter :: rest) with
            | none => exact ⟨position, rfl, fun more same => by cases same⟩
            | some literal =>
                obtain ⟨stored, size⟩ := literal
                obtain ⟨pairs, sized, long, small, some_⟩ :=
                  utf16Literal_size literals
                obtain ⟨fewer, later, less⟩ := ahead.drop pairs long
                have fewest := later.two_mul_le
                dsimp only at sized small
                have dropped : (backslash :: letter :: rest).drop (2 * pairs) =
                    rest.drop (size - 2) := by
                  rw [sized, show 2 * pairs = (2 * pairs - 2) + 2 by omega]
                  rfl
                have next : content.drop (position + size) =
                    rest.drop (size - 2) ++ quote :: after := by
                  rw [← dropped, sized, ← List.drop_drop, bytes,
                    List.drop_append_of_le_length long]
                rw [dropped] at later fewest
                simp only [List.length_cons] at long
                rw [List.length_drop] at fewest
                simp only [Option.map_some, Option.getD_some]
                rw [if_neg (by omega)]
                exact (ih next (by rw [List.length_drop]; omega) later
                  (by rw [List.length_drop]; omega)
                  (by
                    dsimp only
                    rw [List.length_append, List.length_drop]
                    omega)).stored
          · rw [if_neg utf16, if_neg utf16]
            exact ⟨position, rfl, fun more same => by cases same⟩

/-! ## The parser of literals -/

/-- A text starts with the literal of a string, and `rest` is after it. -/
def Literal (text string rest : List UInt8) : Prop :=
  ∃ body count, text = quote :: (body ++ quote :: rest) ∧ Body body count ∧
    unescape body = some string

/-- A text starts with the literal of one string at most. -/
theorem Literal.unique {text first second rest other : List UInt8}
    (one : Literal text first rest) (two : Literal text second other) :
    first = second ∧ rest = other := by
  obtain ⟨body, _, bytes, parts, done⟩ := one
  obtain ⟨body', _, bytes', parts', done'⟩ := two
  rw [bytes] at bytes'
  obtain ⟨rfl, rests⟩ :=
    body_unique parts parts' (List.cons.inj bytes').2
  rw [done] at done'
  exact ⟨Option.some.inj done', rests⟩

/-- What is known when a function of the parser gives `false` and freed so many
blocks that were allocated before it. -/
structure Failed (before after : ParseBuffer) (lost : Int) : Prop where
  content : after.content = before.content
  grants : after.hooks.grants = before.hooks.grants
  live : after.hooks.live = before.hooks.live - lost

/-- What is known when a function of the parser gives `true` and allocated so
many blocks. -/
structure Moved (before after : ParseBuffer) (gained : Int) : Prop where
  content : after.content = before.content
  grants : after.hooks.grants = before.hooks.grants
  live : after.hooks.live = before.hooks.live + gained
  depth : after.depth = before.depth
  further : before.offset < after.offset
  inside : after.offset ≤ before.length

theorem rest_cons {buffer : ParseBuffer} {byte : UInt8} {rest : List UInt8}
    (bytes : buffer.rest = byte :: rest) :
    buffer.content.drop (buffer.offset + 1) = rest ∧
      tableAt buffer.content buffer.offset = .ok byte :=
  ⟨drop_succ bytes, tableAt_drop bytes⟩

theorem rest_of_inside {buffer : ParseBuffer}
    (inside : buffer.offset < buffer.length) :
    ∃ byte rest, buffer.rest = byte :: rest := by
  cases bytes : buffer.rest with
  | nil =>
      have := List.drop_eq_nil_iff.mp bytes
      exact absurd inside (Nat.not_lt.mpr this)
  | cons byte rest => exact ⟨byte, rest, rfl⟩

/-- What `parse_string` does at a literal when it gets memory. -/
theorem parseStringBytes_body {buffer : ParseBuffer}
    {body after : List UInt8} {count : Nat}
    (bytes : buffer.rest = quote :: (body ++ quote :: after))
    (parts : Body body count) (granted : buffer.hooks.allocate.1 = true) :
    ∃ position, parseStringBytes buffer = .ok (match unescape body with
      | none => (none, { buffer with
          offset := position
          hooks := buffer.hooks.allocate.2.free 1 })
      | some string => (some string, { buffer with
          offset := buffer.offset + body.length + 2
          hooks := buffer.hooks.allocate.2 })) := by
  obtain ⟨later, first⟩ := rest_cons bytes
  have counted := parts.two_mul_le
  obtain ⟨position, done, room⟩ :=
    @unescapeLoop_translates buffer.content after
      (buffer.offset + 1 + body.length) (buffer.offset + 1 + body.length + 1)
      (buffer.offset + 1) count body
      { bytes := []
        room := buffer.offset + 1 + body.length - buffer.offset - count + 1 }
      later rfl (.inl parts) (by omega)
      (by
        dsimp only
        rw [List.length_nil]
        omega)
  refine ⟨position, ?_⟩
  unfold parseStringBytes
  dsimp only
  rw [first]
  simp only [bind, Except.bind]
  rw [if_neg (not_not_intro rfl), later, findStringEnd_body parts after]
  dsimp only
  rw [if_pos granted, Nat.zero_add, done]
  cases translated : unescape body with
  | none => rfl
  | some string =>
      have fits := room string translated
      simp only [List.length_nil, Option.map_some, List.nil_append] at fits ⊢
      rw [Output.put_ok (by
        dsimp only
        rw [List.length_singleton]
        omega)]
      dsimp only [pure, Except.pure]
      rw [show buffer.offset + 1 + body.length + 1 =
        buffer.offset + body.length + 2 by omega]

/-- At a literal `parse_string` gives its string when it gets memory. -/
theorem parseStringBytes_literal {buffer : ParseBuffer}
    {string rest : List UInt8} (literal : Literal buffer.rest string rest)
    (granted : buffer.hooks.allocate.1 = true) :
    ∃ offset, parseStringBytes buffer = .ok (some string,
        { buffer with
          offset := offset
          hooks := buffer.hooks.allocate.2 }) ∧
      buffer.content.drop offset = rest := by
  obtain ⟨body, count, bytes, parts, translated⟩ := literal
  obtain ⟨_, done⟩ := parseStringBytes_body bytes parts granted
  rw [translated] at done
  refine ⟨_, done, ?_⟩
  rw [Nat.add_assoc, ← List.drop_drop,
    show buffer.content.drop buffer.offset = buffer.rest from rfl, bytes,
    show body.length + 2 = (body.length + 1) + 1 from rfl, List.drop_succ_cons,
    ← List.drop_drop, List.drop_left]
  rfl

/-- At a byte of the buffer `parse_string` reads and writes inside of its
memory.  It gives the string of a literal, or gives its memory back. -/
theorem parseStringBytes_gives {buffer : ParseBuffer}
    (inside : buffer.offset < buffer.length) :
    Gives (fun _ => False)
      (fun done =>
        (done.1 = none → Failed buffer done.2 0) ∧
        ∀ string, done.1 = some string → Moved buffer done.2 1 ∧
          Literal buffer.rest string done.2.rest)
      (parseStringBytes buffer) := by
  obtain ⟨byte, rest, bytes⟩ := rest_of_inside inside
  obtain ⟨later, first⟩ := rest_cons bytes
  by_cases quoted : byte = quote
  · subst quoted
    cases found : findStringEnd rest (buffer.offset + 1) 0 with
    | none =>
        unfold parseStringBytes
        dsimp only
        rw [first]
        simp only [bind, Except.bind]
        rw [if_neg (not_not_intro rfl), later, found]
        exact ⟨fun _ => ⟨rfl, rfl, (Int.sub_zero _).symm⟩,
          fun string same => by cases same⟩
    | some ends =>
        obtain ⟨body, count, after, parts, walks, _⟩ :=
          body_of_findStringEnd found
        subst parts
        by_cases granted : buffer.hooks.allocate.1 = true
        · have lives := Heap.allocate_true granted
          obtain ⟨position, done⟩ := parseStringBytes_body bytes walks granted
          cases translated : unescape body with
          | none =>
              rw [done, translated]
              refine ⟨fun _ => ⟨rfl, Heap.allocate_grants _, ?_⟩,
                fun string same => by cases same⟩
              change buffer.hooks.allocate.2.live - 1 = _
              rw [lives]
              omega
          | some string =>
              have literal : Literal buffer.rest string after :=
                ⟨body, count, bytes, walks, translated⟩
              obtain ⟨offset, moved, after_⟩ :=
                parseStringBytes_literal literal granted
              rw [done, translated] at moved
              have offsets : buffer.offset + body.length + 2 = offset := by
                simpa using moved
              have room : buffer.offset + body.length + 2 ≤ buffer.length := by
                have := congrArg List.length bytes
                simp only [ParseBuffer.rest, List.length_drop,
                  List.length_cons, List.length_append] at this
                change _ ≤ buffer.content.length
                omega
              rw [done, translated]
              refine ⟨fun none_ => (by cases none_), fun _ same => ?_⟩
              cases same
              refine ⟨⟨rfl, Heap.allocate_grants _, lives, rfl, ?_, room⟩, ?_⟩
              · dsimp only
                omega
              · dsimp only
                rw [offsets]
                change Literal buffer.rest string (buffer.content.drop offset)
                rw [after_]
                exact literal
        · have refused := Bool.eq_false_iff.mpr granted
          unfold parseStringBytes
          dsimp only
          rw [first]
          simp only [bind, Except.bind]
          rw [if_neg (not_not_intro rfl), later, found]
          dsimp only
          rw [if_neg granted]
          exact ⟨fun _ => ⟨rfl, Heap.allocate_grants _,
            (Heap.allocate_false refused).trans (Int.sub_zero _).symm⟩,
            fun string same => by cases same⟩
  · unfold parseStringBytes
    dsimp only
    rw [first]
    simp only [bind, Except.bind]
    rw [if_pos quoted]
    exact ⟨fun _ => ⟨rfl, rfl, (Int.sub_zero _).symm⟩,
          fun string same => by cases same⟩

end Dnvme.Json
