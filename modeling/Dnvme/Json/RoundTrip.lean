import Dnvme.Json.Printing
import Dnvme.Json.Parsing
import Dnvme.Json.Escapes

/-!
# Texts that are printed and parsed

The text of the tree of a value is in the grammar of the parser.  It names the
value again, but for its numbers: a number that is not finite has become `null`,
an integer is the same, and any other number is what `strtod` makes of its
digits.
-/

namespace Dnvme.Json

open Dnvme.Nvme

variable {D : Type} {libc : Libc D}

/-! ## Values -/

/-- What holds of values and of their parts holds of every value. -/
theorem Value.tree_induction {whole : Value D → Prop}
    {items : List (Value D) → Prop}
    {members : List (List UInt8 × Value D) → Prop} (null : whole .null)
    (false_ : whole .false_) (true_ : whole .true_)
    (number : ∀ number, whole (.number number))
    (string : ∀ string, whole (.string string))
    (array : ∀ list, items list → whole (.array list))
    (object : ∀ list, members list → whole (.object list))
    (noItem : items []) (item : ∀ value rest, whole value → items rest →
      items (value :: rest))
    (noMember : members []) (member : ∀ name value rest, whole value →
      members rest → members ((name, value) :: rest)) :
    ∀ value, whole value :=
  @Value.rec D whole items members (fun pair => whole pair.2) null false_ true_
    number string array object noItem item noMember
    (fun pair rest one others => member pair.1 pair.2 rest one others)
    (fun _ _ value => value)

/-- The value that a printed number is read as. -/
def rereadNumber (libc : Libc D) (number : D) : Value D :=
  if libc.isnan number || libc.isinf number then .null
  else
    .number (libc.strtod (numberText libc (saturate libc number) number)).1

mutual

/-- The value that a printed value is read as. -/
def Value.reread (libc : Libc D) : Value D → Value D
  | .null => .null
  | .false_ => .false_
  | .true_ => .true_
  | .number number => rereadNumber libc number
  | .string string => .string string
  | .array items => .array (rereadItems libc items)
  | .object members => .object (rereadMembers libc members)

/-- The same for the elements of an array. -/
def rereadItems (libc : Libc D) : List (Value D) → List (Value D)
  | [] => []
  | value :: rest => value.reread libc :: rereadItems libc rest

/-- The same for the members of an object. -/
def rereadMembers (libc : Libc D) :
    List (List UInt8 × Value D) → List (List UInt8 × Value D)
  | [] => []
  | (name, value) :: rest =>
      (name, value.reread libc) :: rereadMembers libc rest

end

mutual

/-- The number of levels that a value is nested. -/
def Value.nesting : Value D → Nat
  | .array items => itemsNesting items + 1
  | .object members => membersNesting members + 1
  | .null => 0
  | .false_ => 0
  | .true_ => 0
  | .number _ => 0
  | .string _ => 0

def itemsNesting : List (Value D) → Nat
  | [] => 0
  | value :: rest => max value.nesting (itemsNesting rest)

def membersNesting : List (List UInt8 × Value D) → Nat
  | [] => 0
  | (_, value) :: rest => max value.nesting (membersNesting rest)

end

/-- A text looks like a number, and `strtod` takes all of it. -/
structure Readable (libc : Libc D) (text : List UInt8) : Prop where
  starts : ∃ byte more, text = byte :: more ∧ StartsNumber byte
  bytes : ∀ byte ∈ text, isNumberByte byte = true
  all : (libc.strtod text).2 = text.length

/-- `sprintf` writes a number as a short text that `strtod` can read, unless
the number is not finite. -/
structure NumberFits (libc : Libc D) (number : D) : Prop where
  short : SprintfShort libc number
  low : intMin ≤ saturate libc number
  high : saturate libc number ≤ intMax
  readable : (libc.isnan number || libc.isinf number) = false →
    Readable libc (libc.sprintf15 number) ∧
      Readable libc (libc.sprintf17 number)

mutual

/-- Strings have no terminator in them, and numbers can be printed. -/
def Value.Plain (libc : Libc D) : Value D → Prop
  | .null => True
  | .false_ => True
  | .true_ => True
  | .number number => NumberFits libc number
  | .string string => (0 : UInt8) ∉ string
  | .array items => PlainItems libc items
  | .object members => PlainMembers libc members

def PlainItems (libc : Libc D) : List (Value D) → Prop
  | [] => True
  | value :: rest => value.Plain libc ∧ PlainItems libc rest

def PlainMembers (libc : Libc D) : List (List UInt8 × Value D) → Prop
  | [] => True
  | (name, value) :: rest =>
      (0 : UInt8) ∉ name ∧ value.Plain libc ∧ PlainMembers libc rest

end

/-- The decimal digits of an `int` are read as its number. -/
def DecimalExact (libc : Libc D) : Prop :=
  ∀ number, intMin ≤ number → number ≤ intMax →
    libc.strtod (formatInt number) =
      (libc.ofInt number, (formatInt number).length)

/-! ## Trees of values -/

/-- An item that a value is filled in has strings without a terminator. -/
structure FreshItem (item : JsonNode D) : Prop where
  valuestring : ∀ text ∈ item.valuestring, (0 : UInt8) ∉ text
  string : ∀ name ∈ item.string, (0 : UInt8) ∉ name
  child : item.child = []

theorem FreshItem.proper {item : JsonNode D} (fresh : FreshItem item)
    {type : Nat} (other : type % 256 ≠ cJsonNumber) (valueint : Int) :
    JsonNode.Proper libc { item with type := type, valueint := valueint } := by
  refine ⟨fresh.valuestring, fresh.string, fun same => absurd same other, ?_⟩
  rw [fresh.child]
  trivial

theorem proper_fill (value : Value D) :
    value.Plain libc → ∀ item, FreshItem item →
      (value.fill libc item).Proper libc := by
  refine @Value.tree_induction D
    (fun value => value.Plain libc → ∀ item, FreshItem item →
      (value.fill libc item).Proper libc)
    (fun items => PlainItems libc items →
      ProperChain libc (fillItems libc items))
    (fun members => PlainMembers libc members →
      ProperChain libc (fillMembers libc members))
    ?_ ?_ ?_ ?_ ?_ ?_ ?_ ?_ ?_ ?_ ?_ value
  · exact fun _ item fresh => fresh.proper (by decide) item.valueint
  · exact fun _ item fresh => fresh.proper (by decide) item.valueint
  · exact fun _ item fresh => fresh.proper (by decide) 1
  · intro number plain item fresh
    refine ⟨fresh.valuestring, fresh.string,
      fun _ => ⟨plain.low, plain.high, plain.short⟩, ?_⟩
    rw [fresh.child]
    trivial
  · intro string plain item fresh
    refine ⟨?_, fresh.string, fun isNumber => ?_, ?_⟩
    · rintro text found
      cases found
      exact plain
    · exact absurd isNumber (by decide)
    · rw [fresh.child]
      trivial
  · intro list chain plain item fresh
    exact ⟨fresh.valuestring, fresh.string,
      fun isNumber => absurd isNumber (by decide), chain plain⟩
  · intro list chain plain item fresh
    exact ⟨fresh.valuestring, fresh.string,
      fun isNumber => absurd isNumber (by decide), chain plain⟩
  · exact fun _ => trivial
  · intro value rest one others plain
    exact ⟨one plain.1 _ ⟨fun _ no => (by cases no), fun _ no => (by cases no),
      rfl⟩, others plain.2⟩
  · exact fun _ => trivial
  · intro name value rest one others plain
    refine ⟨one plain.2.1 _ ⟨fun _ no => (by cases no), ?_, rfl⟩,
      others plain.2.2⟩
    rintro text found
    cases found
    exact plain.1

theorem proper_node {value : Value D} (plain : value.Plain libc) :
    (value.node libc).Proper libc :=
  proper_fill value plain _ ⟨fun _ no => (by cases no),
    fun _ no => (by cases no), rfl⟩

/-! ## Strings -/

theorem hexDigit_hexChar {digit : Nat} (small : digit < 16) :
    hexDigit (hexChar digit) = some digit := by
  interval_cases digit <;> decide

/-- A control character as a UTF-16 literal. -/
theorem piece_unicode {byte : UInt8} (control : byte < 32) :
    Piece (backslash :: formatUnicode byte) [byte] := by
  have small : byte.toNat < 32 := control
  have character : (Char.ofNat byte.toNat).toNat = byte.toNat := by
    rw [Char.ofNat, dif_pos (.inl (by omega))]
    rfl
  have encoded : String.utf8EncodeChar (Char.ofNat byte.toNat) = [byte] := by
    unfold String.utf8EncodeChar
    dsimp only
    rw [show (Char.ofNat byte.toNat).val.toNat = byte.toNat from character,
      if_pos (by omega)]
    exact congrArg (fun byte => [byte]) (UInt8.ofNat_toNat)
  rw [← encoded]
  have digits : HexUnit [ascii '0', ascii '0', hexChar (byte.toNat / 16),
      hexChar (byte.toNat % 16)] (Char.ofNat byte.toNat).toNat := by
    refine ⟨_, _, _, _, 0, 0, _, _, rfl, by decide, by decide,
      hexDigit_hexChar (by omega), hexDigit_hexChar (by omega), ?_⟩
    rw [character]
    omega
  exact .unit digits

/-- What a byte of a string is printed as is a piece of a literal. -/
theorem piece_escapeByte (byte : UInt8) : Piece (escapeByte byte) [byte] := by
  unfold escapeByte
  by_cases plain : 31 < byte ∧ byte ≠ quote ∧ byte ≠ backslash
  · rw [if_pos plain]
    exact .plain plain.2.1 plain.2.2
  · rw [if_neg plain]
    cases letter : escapeLetter byte with
    | none => exact piece_unicode (control_of_escaped plain letter)
    | some letter' =>
        refine .letter ?_
        unfold escapeLetter at letter
        split_ifs at letter with isMark <;> cases letter
        · rcases isMark with mark | mark <;> rw [mark] <;> decide
        all_goals simp_all
        all_goals decide

theorem pieces_escaped (string : List UInt8) :
    Pieces (string.flatMap escapeByte) string := by
  induction string with
  | nil => exact .nil
  | cons byte rest ih => exact .cons (piece_escapeByte byte) ih

/-- The literal of a string is read as the string. -/
theorem literal_renderString (string rest : List UInt8) :
    Literal (renderString (some string) ++ rest) string rest := by
  have whole := literal_of_pieces (pieces_escaped string) rest
  rw [renderString, Option.getD_some, List.cons_append, List.append_assoc]
  exact whole

/-! ## Numbers -/

theorem isNumberByte_of_digit {byte : UInt8} (digit : IsDigit byte) :
    isNumberByte byte = true := by
  unfold isNumberByte
  simp [digit.1, digit.2]

/-- The digits of an `int` are read as a number. -/
theorem readable_formatInt (exact_ : DecimalExact libc) {number : Int}
    (low : intMin ≤ number) (high : number ≤ intMax) :
    Readable libc (formatInt number) where
  starts := by
    unfold formatInt
    split_ifs
    · exact ⟨_, _, rfl, .inl rfl⟩
    · cases digits : Nat.toDigits 10 number.natAbs with
      | nil => exact absurd digits Nat.toDigits_ne_nil
      | cons digit more =>
          refine ⟨ascii digit, more.map ascii, rfl, .inr ?_⟩
          have member : ascii digit ∈
              (Nat.toDigits 10 number.natAbs).map ascii := by
            rw [digits]
            exact List.mem_cons_self
          exact isDigit_toDigits member
  bytes byte member := by
    rcases mem_formatInt member with rfl | digit
    · decide
    · exact isNumberByte_of_digit digit
  all := by
    rw [exact_ number low high]

theorem NumberFits.readable_text (exact_ : DecimalExact libc) {number : D}
    (fits : NumberFits libc number)
    (finite : (libc.isnan number || libc.isinf number) = false) :
    Readable libc (numberText libc (saturate libc number) number) := by
  obtain ⟨short, long⟩ := fits.readable finite
  unfold numberText
  rw [finite, if_neg Bool.false_ne_true]
  split
  · exact readable_formatInt exact_ fits.low fits.high
  · dsimp only
    split
    · exact long
    · split
      · exact short
      · exact long

/-- What follows a value does not look like a part of a number. -/
def Ends (rest : List UInt8) : Prop :=
  ∀ byte ∈ rest.head?, isNumberByte byte = false

theorem numberCString_append {text rest : List UInt8}
    (bytes : ∀ byte ∈ text, isNumberByte byte = true)
    (short : text.length ≤ 25) (ends : Ends rest) :
    numberCString (text ++ rest) = text := by
  unfold numberCString
  rw [List.take_append, List.take_of_length_le (by omega),
    List.takeWhile_append_of_pos bytes]
  cases more : rest.take (63 - text.length) with
  | nil => simp
  | cons byte others =>
      have first : byte ∈ rest.head? := by
        cases rest with
        | nil => simp at more
        | cons head tail =>
            rw [show 63 - text.length = 62 - text.length + 1 by omega,
              List.take_succ_cons] at more
            cases more
            rfl
      rw [List.takeWhile_cons_of_neg (by rw [ends byte first]; decide),
        List.append_nil]

/-- A printed number is read again. -/
theorem derives_number (exact_ : DecimalExact libc) {number : D}
    (fits : NumberFits libc number) {levels : Nat} {rest : List UInt8}
    (ends : Ends rest) :
    Derives libc levels (.value (rereadNumber libc number))
      (numberText libc (saturate libc number) number ++ rest) rest := by
  unfold rereadNumber
  cases finite : libc.isnan number || libc.isinf number with
  | true =>
      rw [if_pos rfl, numberText, finite, if_pos rfl]
      exact .null
  | false =>
      have readable := fits.readable_text exact_ finite
      have size := (numberText_short fits.low fits.high fits.short).1
      rw [if_neg Bool.false_ne_true]
      obtain ⟨byte, more, parts, starts⟩ := readable.starts
      have whole := numberCString_append readable.bytes size ends
      have all := readable.all
      rw [parts] at whole all ⊢
      have derives : Derives libc levels
          (.value (.number (libc.strtod (byte :: more)).1))
          (byte :: (more ++ rest))
          ((byte :: (more ++ rest)).drop (byte :: more).length) := by
        refine .number starts ?_ (Nat.succ_ne_zero _)
        rw [← List.cons_append, whole, ← all]
      rw [← List.cons_append, List.drop_left] at derives
      exact derives

/-! ## Whitespace -/

/-- Bytes that the parser skips. -/
def AllBlank (bytes : List UInt8) : Prop :=
  ∀ byte ∈ bytes, byte ≤ 32

theorem AllBlank.skip {bytes : List UInt8} (blank : AllBlank bytes)
    (rest : List UInt8) : Blanks (bytes ++ rest) rest :=
  ⟨bytes, rfl, blank⟩

theorem Blanks.here (text : List UInt8) : Blanks text text :=
  ⟨[], rfl, fun _ no => (by cases no)⟩

theorem allBlank_whenFormatted {format : Bool} {bytes : List UInt8}
    (blank : AllBlank bytes) : AllBlank (whenFormatted format bytes) := by
  unfold whenFormatted
  split
  · exact blank
  · exact fun _ no => (by cases no)

/-- A blank that is there in a formatted text only. -/
theorem allBlank_mark {byte : UInt8} (blank : byte ≤ 32) (format : Bool) :
    AllBlank (whenFormatted format [byte]) :=
  allBlank_whenFormatted fun _ member => (List.mem_singleton.mp member) ▸ blank

theorem allBlank_tabs (format : Bool) (depth : Nat) :
    AllBlank (tabs format depth) := by
  refine allBlank_whenFormatted fun byte member => ?_
  rw [List.eq_of_mem_replicate member]
  decide

theorem AllBlank.append {first second : List UInt8} (one : AllBlank first)
    (two : AllBlank second) : AllBlank (first ++ second) :=
  fun byte member => (List.mem_append.mp member).elim (one byte) (two byte)

/-- A blank is not a part of a number. -/
theorem not_isNumberByte_of_blank {byte : UInt8} (blank : byte ≤ 32) :
    isNumberByte byte = false := by
  have other (mark : UInt8) (high : 32 < mark) : ¬ byte = mark := by
    rintro rfl
    exact absurd blank (UInt8.not_le.mpr high)
  have low : ¬ ascii '0' ≤ byte := fun digit =>
    absurd (UInt8.le_trans digit blank) (by decide)
  unfold isNumberByte
  simp [low, other (ascii '+') (by decide), other (ascii '-') (by decide),
    other (ascii 'e') (by decide), other (ascii 'E') (by decide),
    other (ascii '.') (by decide)]

theorem ends_blanks {blanks rest : List UInt8} (blank : AllBlank blanks)
    (ends : Ends rest) : Ends (blanks ++ rest) := by
  cases blanks with
  | nil => exact ends
  | cons byte more =>
      rintro first same
      cases same
      exact not_isNumberByte_of_blank (blank _ List.mem_cons_self)

theorem ends_mark {mark : UInt8} (other : isNumberByte mark = false)
    (rest : List UInt8) : Ends (mark :: rest) := by
  rintro first same
  cases same
  exact other

/-! ## Values -/

/-- The text of a value is read as the value. -/
def ReadsValue (libc : Libc D) (format : Bool) (value : Value D) : Prop :=
  value.Plain libc → ∀ levels, value.nesting ≤ levels → ∀ depth item,
    ∃ out, render libc format (value.fill libc item) depth = some out ∧
      ∀ rest, Ends rest →
        Derives libc levels (.value (value.reread libc)) (out ++ rest) rest

/-- The text of elements is read as the elements. -/
def ReadsItems (libc : Libc D) (format : Bool) (items : List (Value D)) :
    Prop :=
  PlainItems libc items → ∀ levels, itemsNesting items ≤ levels → ∀ depth,
    ∃ out, renderElements libc format (fillItems libc items) depth =
        some out ∧
      (items = [] → out = []) ∧
      (items ≠ [] → ∀ blanks rest, AllBlank blanks →
        Derives libc levels (.elements (rereadItems libc items))
          (blanks ++ (out ++ ascii ']' :: rest)) rest)

/-- The text of members is read as the members. -/
def ReadsMembers (libc : Libc D) (format : Bool)
    (members : List (List UInt8 × Value D)) : Prop :=
  PlainMembers libc members → ∀ levels, membersNesting members ≤ levels →
    ∀ depth,
    ∃ out, renderMembers libc format (fillMembers libc members) depth =
        some out ∧
      (members = [] → out = []) ∧
      (members ≠ [] → ∀ blanks closing rest, AllBlank blanks →
        AllBlank closing →
        Derives libc levels (.members (rereadMembers libc members))
          (blanks ++ (out ++ (closing ++ ascii '\x7d' :: rest))) rest)

theorem readsItems_cons {format : Bool} {value : Value D}
    {rest : List (Value D)} (one : ReadsValue libc format value)
    (others : ReadsItems libc format rest) :
    ReadsItems libc format (value :: rest) := by
  intro plain levels nested depth
  rw [itemsNesting] at nested
  obtain ⟨text, rendered, reads⟩ :=
    one plain.1 levels (by omega) depth (newItem libc)
  obtain ⟨more, renders, empty, chain⟩ :=
    others plain.2 levels (by omega) depth
  refine ⟨_, renderElements_cons.mpr ⟨text, more, rendered, renders, rfl⟩,
    fun no => (by cases no), fun _ blanks tail blank => ?_⟩
  rw [rereadItems, List.append_assoc, List.append_assoc]
  cases rest with
  | nil =>
      rw [empty rfl]
      exact .lastElement (blank.skip _) (reads _ (ends_mark (by decide) _))
        (.here _)
  | cons second others' =>
      have mark : elementMark format (fillItems libc (second :: others')) =
          ascii ',' :: whenFormatted format [32] := rfl
      rw [mark, List.cons_append]
      exact .element (blank.skip _) (reads _ (ends_mark (by decide) _))
        (.here _) (chain (List.cons_ne_nil _ _) _ _
          (allBlank_mark (by decide) format))

/-- A value is filled in below the name of its item. -/
theorem string_fill (value : Value D) (item : JsonNode D) :
    (value.fill libc item).string = item.string := by
  cases value <;> rfl

theorem readsMembers_cons {format : Bool} {name : List UInt8} {value : Value D}
    {rest : List (List UInt8 × Value D)} (one : ReadsValue libc format value)
    (others : ReadsMembers libc format rest) :
    ReadsMembers libc format ((name, value) :: rest) := by
  intro plain levels nested depth
  rw [membersNesting] at nested
  obtain ⟨text, rendered, reads⟩ :=
    one plain.2.1 levels (by omega) depth (namedItem libc name)
  obtain ⟨more, renders, empty, chain⟩ :=
    others plain.2.2 levels (by omega) depth
  have named : (value.fill libc (namedItem libc name)).string = some name :=
    string_fill value _
  refine ⟨_, renderMembers_cons.mpr ⟨text, more, rendered, renders, rfl⟩,
    fun no => (by cases no), fun _ blanks closing tail blank close => ?_⟩
  have line : AllBlank (whenFormatted format [10]) :=
    allBlank_mark (by decide) format
  have tab : AllBlank (whenFormatted format [9]) :=
    allBlank_mark (by decide) format
  have before := blank.append (allBlank_tabs format depth)
  rw [rereadMembers, named, memberFront]
  simp only [List.append_assoc, List.cons_append]
  rw [← List.append_assoc blanks]
  cases rest with
  | nil =>
      rw [empty rfl, List.nil_append]
      have mark : memberMark format (fillMembers libc []) =
          whenFormatted format [10] := rfl
      rw [mark]
      refine .lastMember (before.skip _) (literal_renderString name _) (.here _)
        (tab.skip _) (reads _ ?_) ?_
      · exact ends_blanks line (ends_blanks close (ends_mark (by decide) _))
      · rw [← List.append_assoc]
        exact (line.append close).skip _
  | cons second others' =>
      have mark : memberMark format (fillMembers libc (second :: others')) =
          ascii ',' :: whenFormatted format [10] := rfl
      rw [mark, List.cons_append]
      exact .member (before.skip _) (literal_renderString name _) (.here _)
        (tab.skip _) (reads _ (ends_mark (by decide) _)) (.here _)
        (chain (List.cons_ne_nil _ _) _ _ _ line close)

theorem readsNumber (exact_ : DecimalExact libc) (format : Bool) (number : D) :
    ReadsValue libc format (.number number) := by
  intro plain levels _ depth item
  refine ⟨_, rfl, fun rest ends => ?_⟩
  exact derives_number exact_ plain ends

theorem readsArray {format : Bool} {items : List (Value D)}
    (chain : ReadsItems libc format items) :
    ReadsValue libc format (.array items) := by
  intro plain levels nested depth item
  rw [Value.nesting] at nested
  obtain ⟨levels, rfl⟩ : ∃ less, levels = less + 1 := ⟨levels - 1, by omega⟩
  obtain ⟨out, rendered, empty, reads⟩ :=
    chain plain levels (by omega) (depth + 1)
  refine ⟨ascii '[' :: (out ++ [ascii ']']), congrArg (Option.map _) rendered,
    fun rest _ => ?_⟩
  rw [List.cons_append, List.append_assoc, List.singleton_append]
  cases items with
  | nil =>
      rw [empty rfl]
      exact .emptyArray (.here _)
  | cons value rest' =>
      exact .array (reads (List.cons_ne_nil _ _) [] rest
        fun _ no => (by cases no))

theorem readsObject {format : Bool} {members : List (List UInt8 × Value D)}
    (chain : ReadsMembers libc format members) :
    ReadsValue libc format (.object members) := by
  intro plain levels nested depth item
  rw [Value.nesting] at nested
  obtain ⟨levels, rfl⟩ : ∃ less, levels = less + 1 := ⟨levels - 1, by omega⟩
  obtain ⟨out, rendered, empty, reads⟩ :=
    chain plain levels (by omega) (depth + 1)
  have line : AllBlank (whenFormatted format [10]) :=
    allBlank_mark (by decide) format
  have margin := allBlank_tabs format depth
  refine ⟨objectText format depth out, congrArg (Option.map _) rendered,
    fun rest _ => ?_⟩
  unfold objectText
  simp only [List.cons_append, List.append_assoc, List.nil_append]
  cases members with
  | nil =>
      rw [empty rfl, List.nil_append, ← List.append_assoc]
      exact .emptyObject ((line.append margin).skip _)
  | cons member rest' =>
      exact .object (reads (List.cons_ne_nil _ _) _ _ _ line margin)

/-- The text of every value is read as the value. -/
theorem reads_all (exact_ : DecimalExact libc) (format : Bool)
    (value : Value D) : ReadsValue libc format value := by
  refine @Value.tree_induction D (ReadsValue libc format)
    (ReadsItems libc format) (ReadsMembers libc format) ?_ ?_ ?_
    (readsNumber exact_ format) ?_ (fun _ => readsArray)
    (fun _ => readsObject) ?_ (fun _ _ => readsItems_cons) ?_
    (fun _ _ _ => readsMembers_cons) value
  · exact fun _ _ _ _ _ => ⟨_, rfl, fun _ _ => .null⟩
  · exact fun _ _ _ _ _ => ⟨_, rfl, fun _ _ => .false_⟩
  · exact fun _ _ _ _ _ => ⟨_, rfl, fun _ _ => .true_⟩
  · exact fun string _ _ _ _ _ => ⟨_, rfl, fun rest _ =>
      .string (literal_renderString string rest)⟩
  · exact fun _ _ _ _ => ⟨[], rfl, fun _ => rfl, fun no => absurd rfl no⟩
  · exact fun _ _ _ _ => ⟨[], rfl, fun _ => rfl, fun no => absurd rfl no⟩

/-! ## The round trip -/

/-- No value starts with the mark that the parser skips. -/
theorem Derives.unmarked {levels : Nat} {value : Value D}
    {text rest : List UInt8} (derives : Derives libc levels (.value value)
      text rest) : withoutBom text = text := by
  unfold withoutBom
  refine if_neg ?_
  rintro ⟨_, mark⟩
  have first : text.head? = some 0xEF := by
    cases text with
    | nil => simp at mark
    | cons byte more =>
        rw [List.take_succ_cons] at mark
        exact congrArg some (List.cons.inj mark).1
  have other (byte : UInt8) (more : List UInt8) (visible : byte ≠ 0xEF)
      (starts : text = byte :: more) : False := by
    rw [starts, List.head?_cons, Option.some_inj] at first
    exact visible first
  cases derives with
  | null => exact other _ _ (by decide) rfl
  | false_ => exact other _ _ (by decide) rfl
  | true_ => exact other _ _ (by decide) rfl
  | number starts _ _ =>
      refine other _ _ ?_ rfl
      rintro rfl
      exact absurd starts (by decide)
  | string literal =>
      obtain ⟨body, count, rfl, _⟩ := literal
      exact other _ _ (by decide) rfl
  | emptyArray => exact other _ _ (by decide) rfl
  | array => exact other _ _ (by decide) rfl
  | emptyObject => exact other _ _ (by decide) rfl
  | object => exact other _ _ (by decide) rfl

/-- A text that was printed, formatted or not, is parsed to the tree of the same
value with its numbers read again. -/
theorem cJsonParse_print (strtod : StrtodInside libc)
    (exact_ : DecimalExact libc) {value : Value D} (plain : value.Plain libc)
    (nested : value.nesting ≤ cjsonNestingLimit) {format : Bool}
    {hooks heap : Heap} {fresh : Nat → Nat → UInt8} {text : List UInt8}
    (printed : print libc (value.node libc) format hooks fresh =
      .ok (some text, heap))
    (requireNullTerminated : Bool) {reader : Heap}
    (grants : ∀ request, reader.grants request = true) :
    ∃ out position after, text = out ++ [0] ∧
      cJsonParseWithOpts libc out requireNullTerminated reader =
        .ok ⟨some ((value.reread libc).node libc), position, after⟩ := by
  obtain ⟨found, heap', ran, written, _⟩ := print_outcome libc
    (value.node libc) format hooks fresh (proper_node plain)
  rw [printed] at ran
  cases ran
  obtain ⟨_, out, rendered, rfl⟩ := written text rfl
  obtain ⟨out', same, reads⟩ :=
    reads_all exact_ format value plain _ nested 0 (newItem libc)
  cases rendered.symm.trans same
  have derives := reads [0] (ends_mark (by decide) [])
  have names : Names libc (out ++ [0]) (value.reread libc) [0] := by
    refine ⟨out ++ [0], ?_, derives⟩
    rw [derives.unmarked]
    exact .here _
  have ended : Allowed requireNullTerminated [0] :=
    fun _ => ⟨[], rfl, fun _ no => (by cases no)⟩
  obtain ⟨position, after, done⟩ :=
    cJsonParseWithLengthOpts_names strtod names ended grants
  exact ⟨out, position, after, rfl, done⟩

/-! ## Integers -/

theorem readDigits_digits (digits : List Char)
    (all : ∀ digit ∈ digits, digit.isDigit = true) (number size : Nat) :
    readDigits (digits.map ascii) number size =
      (Nat.ofDigitChars 10 digits number, size + digits.length) := by
  induction digits generalizing number size with
  | nil => simp [readDigits]
  | cons digit rest ih =>
      have here := all digit List.mem_cons_self
      have range := isDigit_of_char here
      have value : (ascii digit).toNat = digit.toNat := by
        have small := (Char.isDigit_iff_toNat.mp here).2
        have last : '9'.toNat = 57 := rfl
        unfold ascii
        rw [UInt8.toNat_ofNat']
        omega
      have zero : '0'.toNat = 48 := rfl
      have between : ascii '0' ≤ ascii digit ∧ ascii digit ≤ ascii '9' := range
      rw [List.map_cons, readDigits, if_pos between,
        ih fun other member => all other (List.mem_cons_of_mem _ member),
        Nat.ofDigitChars_cons, value, zero, List.length_cons, Nat.mul_comm]
      congr 1
      omega

theorem decimalExact_integer : DecimalExact integerLibc := by
  intro number _ _
  change readInteger (formatInt number) = (number, _)
  have digits := readDigits_digits (Nat.toDigits 10 number.natAbs)
    (fun digit => Nat.isDigit_of_mem_toDigits (by decide) (by decide)) 0 0
  rw [Nat.ofDigitChars_ten_toDigits, Nat.zero_add] at digits
  have some_ : (Nat.toDigits 10 number.natAbs).length ≠ 0 := fun empty =>
    Nat.toDigits_ne_nil (List.length_eq_zero_iff.mp empty)
  unfold formatInt
  dsimp only
  by_cases negative : number < 0
  · rw [if_pos negative, readInteger, if_pos rfl, digits]
    dsimp only
    rw [if_neg some_, List.length_cons, List.length_map]
    congr 1
    omega
  · rw [if_neg negative]
    cases parts : (Nat.toDigits 10 number.natAbs).map ascii with
    | nil => exact absurd (List.map_eq_nil_iff.mp parts) Nat.toDigits_ne_nil
    | cons byte rest =>
        have digit : IsDigit byte := by
          refine @isDigit_toDigits number.natAbs byte ?_
          rw [parts]
          exact List.mem_cons_self
        have noSign : byte ≠ ascii '-' := by
          rintro rfl
          exact absurd digit (by decide)
        have length := congrArg List.length parts
        rw [List.length_map] at length
        rw [readInteger, if_neg noSign, ← parts, digits]
        dsimp only
        rw [List.length_map]
        congr 1
        omega

theorem numberFits_integer {number : Int} (low : intMin ≤ number)
    (high : number ≤ intMax) : NumberFits integerLibc number := by
  have size := length_formatInt low high
  have noZero : (0 : UInt8) ∉ formatInt number := by
    intro member
    rcases mem_formatInt member with sign | digit
    · exact absurd sign (by decide)
    · exact absurd digit (by decide)
  have same : saturate integerLibc number = number := by
    unfold saturate
    change (if decide (intMax ≤ number) = true then intMax
      else if decide (number ≤ intMin) = true then intMin else number) = number
    simp only [decide_eq_true_iff]
    split_ifs <;> omega
  have readable := readable_formatInt decimalExact_integer low high
  refine ⟨⟨?_, ?_, noZero, noZero⟩, ?_, ?_, fun _ => ⟨readable, readable⟩⟩
  · exact size.trans (by decide)
  · exact size.trans (by decide)
  · rw [same]
    exact low
  · rw [same]
    exact high

/-- An integer is read as it was. -/
theorem rereadNumber_integer (exact_ : DecimalExact libc) {number : D}
    (fits : NumberFits libc number)
    (finite : (libc.isnan number || libc.isinf number) = false)
    (integer : libc.eq number (libc.ofInt (saturate libc number)) = true) :
    rereadNumber libc number =
      .number (libc.ofInt (saturate libc number)) := by
  unfold rereadNumber numberText
  rw [finite, if_neg Bool.false_ne_true, if_neg Bool.false_ne_true,
    if_pos integer, exact_ _ fits.low fits.high]

/-- The text of `{"n\n": [-5, "\"", null]}`. -/
theorem cJsonParse_print_object :
    ∃ text heap,
      print integerLibc (Value.node integerLibc
        (.object [([ascii 'n', 10],
          .array [.number (-5), .string [quote], .null])]))
        true ⟨fun _ => true, 0, 0⟩ (fun _ _ => 7) = .ok (some text, heap) ∧
      ∃ out position after, text = out ++ [0] ∧
        cJsonParseWithOpts integerLibc out true ⟨fun _ => true, 0, 0⟩ =
          .ok ⟨some (Value.node integerLibc (Value.reread integerLibc
            (.object [([ascii 'n', 10],
              .array [.number (-5), .string [quote], .null])]))),
            position, after⟩ := by
  have plain : Value.Plain integerLibc (.object [([ascii 'n', 10],
      .array [.number (-5), .string [quote], .null])]) :=
    ⟨by decide, ⟨numberFits_integer (by decide) (by decide),
      (by decide : (0 : UInt8) ∉ [quote]), trivial, trivial⟩, trivial⟩
  obtain ⟨printed, heap, ran, _, none_⟩ := print_outcome integerLibc _ true
    ⟨fun _ => true, 0, 0⟩ (fun _ _ => 7) (proper_node plain)
  cases printed with
  | none => exact absurd ((none_ rfl).2 (fun _ => rfl) _ rfl) (by decide)
  | some text =>
      exact ⟨text, heap, ran, cJsonParse_print strtodInside_integer
        decimalExact_integer plain (by decide) ran true (fun _ => rfl)⟩

end Dnvme.Json
