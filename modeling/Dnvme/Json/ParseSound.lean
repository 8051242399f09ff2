import Dnvme.Json.Grammar

/-!
# What the parser accepts

The functions of the parser are followed through one run.  Whatever the bytes
are and whichever requests for memory are granted, a run comes to its end.  It
gives a tree only for a text of the grammar, with the nodes of the value that
the text names, and it leaves no block of memory behind but those of the tree.

One byte is read without a check: after a comma between members of an object
the text may be at its end.  So a run is stopped at most where the last byte of
the buffer is a comma.
-/

namespace Dnvme.Json

open Dnvme.Nvme
open Dnvme.Lib.Outcomes

variable {D : Type} {libc : Libc D}

/-- `strtod` stops inside of its string. -/
def StrtodInside (libc : Libc D) : Prop :=
  ∀ text, (libc.strtod text).2 ≤ text.length

/-- The error of a byte read after the end, with the last byte before it. -/
def AfterComma (content : List UInt8) (stop : Stop) : Prop :=
  stop = .outOfBounds ∧ content.getLast? = some (ascii ',')

/-! ## Blocks -/

theorem chainBlocks_append (first second : List (JsonNode D)) :
    chainBlocks (first ++ second) = chainBlocks first + chainBlocks second := by
  induction first with
  | nil => exact (Int.zero_add _).symm
  | cons item next ih =>
      rw [List.cons_append, chainBlocks, chainBlocks, ih, Int.add_assoc]

theorem chainBlocks_singleton (item : JsonNode D) :
    chainBlocks [item] = blocks item :=
  Int.add_zero _

@[simp]
theorem blocks_newItem : blocks (newItem libc) = 1 :=
  rfl

@[simp]
theorem blocks_namedItem (name : List UInt8) :
    blocks (namedItem libc name) = 2 :=
  rfl

/-! ## The buffer -/

theorem sees_iff (buffer : ParseBuffer) (byte : UInt8) :
    buffer.sees byte = true ↔ ∃ rest, buffer.rest = byte :: rest := by
  unfold ParseBuffer.sees
  rw [decide_eq_true_iff]
  have head : buffer.content[buffer.offset]? = buffer.rest.head? := by
    rw [ParseBuffer.rest, List.head?_drop]
  rw [head, List.head?_eq_some_iff]

theorem inside_of_rest {buffer : ParseBuffer} {byte : UInt8}
    {rest : List UInt8} (bytes : buffer.rest = byte :: rest) :
    buffer.offset < buffer.length := by
  have lengths := congrArg List.length bytes
  rw [length_rest, List.length_cons] at lengths
  omega

theorem rest_advance (buffer : ParseBuffer) (size : Nat) :
    (buffer.advance size).rest = buffer.rest.drop size :=
  List.drop_drop.symm

theorem startsWith_iff (buffer : ParseBuffer) {word : List UInt8}
    (some_ : 0 < word.length) :
    buffer.startsWith word = true ↔ ∃ rest, buffer.rest = word ++ rest := by
  unfold ParseBuffer.startsWith ParseBuffer.canRead
  rw [Bool.and_eq_true, decide_eq_true_iff, decide_eq_true_iff]
  constructor
  · rintro ⟨_, same⟩
    refine ⟨buffer.rest.drop word.length, ?_⟩
    calc
      buffer.rest = buffer.rest.take word.length ++
          buffer.rest.drop word.length := (List.take_append_drop _ _).symm
      _ = _ := by rw [same]
  · rintro ⟨rest, bytes⟩
    have lengths := congrArg List.length bytes
    rw [length_rest, List.length_append] at lengths
    exact ⟨by omega, by rw [bytes, List.take_left]⟩

theorem Moved.refl_advance {buffer : ParseBuffer} {size : Nat}
    (some_ : 0 < size) (inside : buffer.offset + size ≤ buffer.length) :
    Moved buffer (buffer.advance size) 0 :=
  ⟨rfl, rfl, (Int.add_zero _).symm, rfl, Nat.lt_add_of_pos_right some_, inside⟩

/-! ## Specifications -/

/-- What `parse_value`, `parse_array` and `parse_object` do with an item. -/
def ValueDone (libc : Libc D) (item : JsonNode D) (buffer : ParseBuffer)
    (done : Option (JsonNode D) × ParseBuffer) : Prop :=
  (done.1 = none → Failed buffer done.2 0) ∧
    ∀ node, done.1 = some node →
      ∃ value, node = value.fill libc item ∧
        Moved buffer done.2 (blocks node - blocks item) ∧
        Derives libc (cjsonNestingLimit - buffer.depth) (.value value)
          buffer.rest done.2.rest

/-- What the loops of `parse_array` and `parse_object` do with the chain so
far. -/
def ChainDone (libc : Libc D) (closing : UInt8)
    (form : List (JsonNode D) → Form D → Prop) (head : List (JsonNode D))
    (buffer : ParseBuffer)
    (done : Option (List (JsonNode D)) × ParseBuffer) : Prop :=
  (done.1 = none → Failed buffer done.2 (chainBlocks head)) ∧
    ∀ chain, done.1 = some chain →
      ∃ more part rest, chain = head ++ more ∧ form more part ∧
        done.2.rest = closing :: rest ∧
        Moved buffer done.2 (chainBlocks more) ∧
        Derives libc (cjsonNestingLimit - buffer.depth) part
          (buffer.content.drop (buffer.offset + 1)) rest

/-- The chain is the one of the elements of an array. -/
def ElementsOf (libc : Libc D) (chain : List (JsonNode D)) (part : Form D) :
    Prop :=
  ∃ items, part = .elements items ∧ chain = fillItems libc items

/-- The chain is the one of the members of an object. -/
def MembersOf (libc : Libc D) (chain : List (JsonNode D)) (part : Form D) :
    Prop :=
  ∃ members, part = .members members ∧ chain = fillMembers libc members

/-- An item that has no children and no string of its own yet. -/
structure Unfilled (item : JsonNode D) : Prop where
  child : item.child = []
  valuestring : item.valuestring = none

/-- A function that parses a value follows the grammar where the text is as it
expects, when it has turns for each byte that is left. -/
def Follows (libc : Libc D) (expects : List UInt8 → Prop)
    (parse : JsonNode D → ParseBuffer → Run (Option (JsonNode D) × ParseBuffer))
    (turns spare : Nat) : Prop :=
  ∀ item buffer, Unfilled item → expects buffer.rest →
    buffer.offset ≤ buffer.length →
    3 * (buffer.length - buffer.offset) + spare ≤ turns →
      Gives (AfterComma buffer.content) (ValueDone libc item buffer)
        (parse item buffer)

/-- A loop that parses a chain follows the grammar.  For the members of an
object the byte at the offset is a comma if it is the last one. -/
def FollowsChain (libc : Libc D) (closing : UInt8)
    (form : List (JsonNode D) → Form D → Prop)
    (parse : List (JsonNode D) → ParseBuffer →
      Run (Option (List (JsonNode D)) × ParseBuffer))
    (turns : Nat) : Prop :=
  ∀ head buffer, buffer.offset < buffer.length →
    (buffer.offset + 1 = buffer.length →
      buffer.content.getLast? = some (ascii ',')) →
    3 * (buffer.length - buffer.offset) ≤ turns + 1 →
      Gives (AfterComma buffer.content)
        (ChainDone libc closing form head buffer) (parse head buffer)

theorem blocks_fill_number (item : JsonNode D) (number : D) (value : Int)
    (type : Nat) :
    blocks { item with
      valuedouble := number, valueint := value, type := type } =
      blocks item := by
  cases item
  rfl

theorem blocks_type (item : JsonNode D) (type : Nat) :
    blocks { item with type := type } = blocks item := by
  cases item
  rfl

theorem blocks_children {item : JsonNode D} (unfilled : Unfilled item)
    (type : Nat) (head : List (JsonNode D)) :
    blocks { item with type := type, child := head } =
      blocks item + chainBlocks head := by
  obtain ⟨type', valuestring, valueint, valuedouble, string, child⟩ := item
  obtain ⟨child_, _⟩ := unfilled
  change child = [] at child_
  subst child_
  simp only [blocks, chainBlocks]
  omega

theorem blocks_string {item : JsonNode D} (unfilled : Unfilled item)
    (type : Nat) (string : List UInt8) :
    blocks { item with type := type, valuestring := some string } =
      blocks item + 1 := by
  obtain ⟨type', valuestring, valueint, valuedouble, string', child⟩ := item
  obtain ⟨_, valuestring_⟩ := unfilled
  change valuestring = none at valuestring_
  subst valuestring_
  simp only [blocks, stringBlocks]
  omega

/-! ## Values -/

/-- A word of the grammar. -/
theorem word_done {item node : JsonNode D} {buffer : ParseBuffer}
    {word : List UInt8} {value : Value D} (some_ : 0 < word.length)
    (starts : buffer.startsWith word = true)
    (filled : node = value.fill libc item)
    (sameBlocks : blocks node = blocks item)
    (derives : ∀ rest, Derives libc (cjsonNestingLimit - buffer.depth)
      (.value value) (word ++ rest) rest) :
    ValueDone libc item buffer (some node, buffer.advance word.length) := by
  obtain ⟨rest, bytes⟩ := (startsWith_iff buffer some_).mp starts
  have lengths := congrArg List.length bytes
  rw [length_rest, List.length_append] at lengths
  refine ⟨fun none_ => (by cases none_), fun other same => ?_⟩
  cases same
  refine ⟨value, filled, ?_, ?_⟩
  · rw [sameBlocks, Int.sub_self]
    exact .refl_advance some_ (by omega)
  · rw [rest_advance, bytes, List.drop_left]
    exact derives rest

theorem parseNumber_done (strtod : StrtodInside libc) {item : JsonNode D}
    {buffer : ParseBuffer} {byte : UInt8} {rest : List UInt8}
    (bytes : buffer.rest = byte :: rest) (starts : StartsNumber byte) :
    ValueDone libc item buffer (parseNumber libc item buffer) := by
  unfold parseNumber
  cases read : libc.strtod (numberCString buffer.rest) with
  | mk number size =>
      dsimp only
      by_cases zero : size = 0
      · rw [if_pos zero]
        exact ⟨fun _ => ⟨rfl, rfl, (Int.sub_zero _).symm⟩,
          fun node same => by cases same⟩
      · rw [if_neg zero]
        refine ⟨fun none_ => (by cases none_), fun other same => ?_⟩
        cases same
        have inside := strtod (numberCString buffer.rest)
        rw [read] at inside
        have shorter : (numberCString buffer.rest).length ≤
            buffer.rest.length :=
          ((List.takeWhile_sublist _).trans
            (List.take_sublist _ _)).length_le
        have left := inside_of_rest bytes
        rw [length_rest] at shorter
        dsimp only at inside
        refine ⟨.number number, rfl, ?_, ?_⟩
        · rw [blocks_fill_number, Int.sub_self]
          exact .refl_advance (Nat.pos_of_ne_zero zero) (by omega)
        · rw [rest_advance]
          rw [bytes] at read ⊢
          exact .number starts read zero

theorem parseString_done {item : JsonNode D} {buffer : ParseBuffer}
    (unfilled : Unfilled item) (inside : buffer.offset < buffer.length) :
    Gives (fun _ => False) (ValueDone libc item buffer)
      (parseString item buffer) := by
  unfold parseString
  refine (parseStringBytes_gives inside).bind ?_
  rintro ⟨output, after⟩ ⟨failed, moved⟩
  cases output with
  | none => exact ⟨fun _ => failed rfl, fun node same => by cases same⟩
  | some string =>
      obtain ⟨move, literal⟩ := moved string rfl
      refine ⟨fun none_ => (by cases none_), fun other same => ?_⟩
      cases same
      refine ⟨.string string, rfl, ?_, .string literal⟩
      rw [blocks_string unfilled, add_sub_cancel_left]
      exact move

theorem parseValue_follows (strtod : StrtodInside libc) {turns : Nat}
    (arrays : Follows libc (∃ rest, · = ascii '[' :: rest)
      (parseArray libc turns) turns 0)
    (objects : Follows libc (∃ rest, · = ascii '\x7b' :: rest)
      (parseObject libc turns) turns 0) :
    Follows libc (fun _ => True) (parseValue libc (turns + 1))
      (turns + 1) 1 := by
  intro item buffer unfilled _ inside enough
  unfold parseValue
  refine Gives.ite (fun starts => ?_) fun _ => ?_
  · exact word_done (by decide) starts rfl (blocks_type item _)
      fun rest => .null
  refine Gives.ite (fun starts => ?_) fun _ => ?_
  · exact word_done (by decide) starts rfl (blocks_type item _)
      fun rest => .false_
  refine Gives.ite (fun starts => ?_) fun _ => ?_
  · exact word_done (by decide) starts rfl (by cases item; rfl)
      fun rest => .true_
  cases here : buffer.content[buffer.offset]? with
  | none =>
      exact ⟨fun _ => ⟨rfl, rfl, (Int.sub_zero _).symm⟩,
        fun node same => by cases same⟩
  | some byte =>
      obtain ⟨rest, bytes⟩ := (sees_iff buffer byte).mp
        (decide_eq_true here)
      have further := inside_of_rest bytes
      dsimp only
      refine Gives.ite (fun _ => ?_) fun _ => ?_
      · exact (parseString_done unfilled further).allow fun _ no => no.elim
      refine Gives.ite (fun starts => ?_) fun _ => ?_
      · exact parseNumber_done strtod bytes starts
      refine Gives.ite (fun bracket => ?_) fun _ => ?_
      · rw [bracket] at bytes
        exact arrays item buffer unfilled ⟨rest, bytes⟩ inside (by omega)
      refine Gives.ite (fun brace => ?_) fun _ => ?_
      · rw [brace] at bytes
        exact objects item buffer unfilled ⟨rest, bytes⟩ inside (by omega)
      exact ⟨fun _ => ⟨rfl, rfl, (Int.sub_zero _).symm⟩,
        fun node same => by cases same⟩

/-! ## Arrays and objects -/

/-- Whitespace was skipped, and the offset moved on before. -/
theorem Moved.skip {before after : ParseBuffer} {gained : Int}
    (moved : Moved before after gained) :
    Moved before (bufferSkipWhitespace after) gained ∧
      Blanks after.rest (bufferSkipWhitespace after).rest := by
  obtain ⟨offset, same, further, inside, _, blanks⟩ :=
    bufferSkipWhitespace_eq after
  have length : after.length = before.length :=
    congrArg List.length moved.content
  rw [same]
  refine ⟨⟨moved.content, moved.grants, moved.live, moved.depth,
    Nat.lt_of_lt_of_le moved.further further, ?_⟩, blanks⟩
  exact (inside (moved.inside.trans_eq length.symm)).trans_eq length

theorem Moved.trans {first second third : ParseBuffer} {one two : Int}
    (move : Moved first second one) (more : Moved second third two) :
    Moved first third (one + two) where
  content := more.content.trans move.content
  grants := more.grants.trans move.grants
  live := by rw [more.live, move.live, Int.add_assoc]
  depth := more.depth.trans move.depth
  further := move.further.trans more.further
  inside := more.inside.trans_eq (congrArg List.length move.content)

theorem Moved.failed {first second third : ParseBuffer} {gained lost : Int}
    (move : Moved first second gained) (failed : Failed second third lost) :
    Failed first third (lost - gained) where
  content := failed.content.trans move.content
  grants := failed.grants.trans move.grants
  live := by
    rw [failed.live, move.live]
    omega

theorem Moved.stepBack {first second third : ParseBuffer} {one two : Int}
    (move : Moved first second one) (more : Moved second.stepBack third two) :
    Moved first third (one + two) where
  content := more.content.trans move.content
  grants := more.grants.trans move.grants
  live := by
    rw [more.live, ← Int.add_assoc, ← move.live]
    rfl
  depth := more.depth.trans move.depth
  further :=
    Nat.lt_of_le_of_lt (Nat.le_sub_one_of_lt move.further) more.further
  inside := more.inside.trans_eq (congrArg List.length move.content)

/-- The buffer inside of an array or object. -/
def ParseBuffer.deeper (buffer : ParseBuffer) : ParseBuffer :=
  { buffer with depth := buffer.depth + 1 }

/-- The end of an array or object. -/
theorem succeedWith_done {item : JsonNode D} {buffer closed : ParseBuffer}
    {type : Nat} {head : List (JsonNode D)} {value : Value D}
    {byte : UInt8} {rest : List UInt8} (unfilled : Unfilled item)
    (filled : value.fill libc item = { item with type := type, child := head })
    (moved : Moved buffer.deeper closed (chainBlocks head))
    (bytes : closed.rest = byte :: rest)
    (derives : Derives libc (cjsonNestingLimit - buffer.depth) (.value value)
      buffer.rest rest) :
    ValueDone libc item buffer (succeedWith type item head closed) := by
  have inside := inside_of_rest bytes
  have length : closed.length = buffer.length :=
    congrArg List.length moved.content
  refine ⟨fun none_ => (by cases none_), fun other same => ?_⟩
  cases same
  refine ⟨value, filled.symm, ?_, ?_⟩
  · rw [blocks_children unfilled, add_sub_cancel_left]
    refine ⟨moved.content, moved.grants, moved.live, ?_, ?_, ?_⟩
    · change closed.depth - 1 = buffer.depth
      rw [moved.depth]
      rfl
    · exact Nat.lt_succ_of_lt moved.further
    · change closed.offset + 1 ≤ buffer.length
      omega
  · change Derives libc _ _ _ (closed.content.drop (closed.offset + 1))
    rw [drop_succ bytes]
    exact derives

/-- The first byte of an array or object, and the whitespace after it. -/
theorem opened {buffer : ParseBuffer} {byte : UInt8} {rest : List UInt8}
    (bytes : buffer.rest = byte :: rest) :
    Moved buffer (bufferSkipWhitespace (buffer.advance 1)) 0 ∧
      Blanks rest (bufferSkipWhitespace (buffer.advance 1)).rest := by
  have inside := inside_of_rest bytes
  obtain ⟨moved, blanks⟩ :=
    (Moved.refl_advance Nat.one_pos (by omega : buffer.offset + 1 ≤ _)).skip
  rw [rest_advance, bytes] at blanks
  exact ⟨moved, blanks⟩

theorem levels_succ {depth : Nat} (shallow : ¬ cjsonNestingLimit ≤ depth) :
    cjsonNestingLimit - depth = cjsonNestingLimit - (depth + 1) + 1 := by
  omega

/-- The part of `parse_array` and `parse_object` after the first byte. -/
def afterFirst (closing : UInt8) (type : Nat) (item : JsonNode D)
    (parse : List (JsonNode D) → ParseBuffer →
      Run (Option (List (JsonNode D)) × ParseBuffer))
    (buffer : ParseBuffer) : Run (Option (JsonNode D) × ParseBuffer) :=
  let buffer := bufferSkipWhitespace (buffer.deeper.advance 1)
  if buffer.sees closing then return succeedWith type item [] buffer
  else if !buffer.canAccessAtIndex 0 then return (none, buffer.stepBack)
  else do
    let (head, buffer) ← parse [] buffer.stepBack
    match head with
    | none => return (none, buffer)
    | some head => return succeedWith type item head buffer

/-- After the first byte the grammar is followed. -/
theorem chain_follows {closing : UInt8} {type turns : Nat}
    {item : JsonNode D} {buffer : ParseBuffer} {byte : UInt8}
    {text : List UInt8} {form : List (JsonNode D) → Form D → Prop}
    {parse : List (JsonNode D) → ParseBuffer →
      Run (Option (List (JsonNode D)) × ParseBuffer)}
    (unfilled : Unfilled item)
    (follows : FollowsChain libc closing form parse turns)
    (bytes : buffer.rest = byte :: text)
    (enough : 3 * (buffer.length - buffer.offset) ≤ turns + 1)
    (empty : ∀ rest, Blanks text (closing :: rest) → ∃ value : Value D,
      value.fill libc item = { item with type := type, child := [] } ∧
      Derives libc (cjsonNestingLimit - buffer.depth) (.value value)
        (byte :: text) rest)
    (full : ∀ chain part start rest, form chain part → Blanks text start →
      Derives libc (cjsonNestingLimit - (buffer.depth + 1)) part start rest →
      ∃ value : Value D,
        value.fill libc item = { item with type := type, child := chain } ∧
        Derives libc (cjsonNestingLimit - buffer.depth) (.value value)
          (byte :: text) rest) :
    Gives (AfterComma buffer.content) (ValueDone libc item buffer)
      (afterFirst closing type item parse buffer) := by
  have opened_ := @opened buffer.deeper byte text bytes
  unfold afterFirst
  dsimp only
  generalize bufferSkipWhitespace (buffer.deeper.advance 1) = inner at opened_ ⊢
  obtain ⟨moved, blanks⟩ := opened_
  have length : inner.length = buffer.length :=
    congrArg List.length moved.content
  refine Gives.ite (fun sees => ?_) fun _ => ?_
  · obtain ⟨rest, closes⟩ := (sees_iff inner closing).mp sees
    rw [closes] at blanks
    obtain ⟨value, filled, derives⟩ := empty rest blanks
    rw [← bytes] at derives
    exact succeedWith_done unfilled filled moved closes derives
  refine Gives.ite (fun _ => ?_) fun accessible => ?_
  · exact ⟨fun _ => ⟨moved.content, moved.grants, by
      change inner.hooks.live = _
      rw [moved.live]
      exact (Int.add_zero _).trans (Int.sub_zero _).symm⟩,
      fun node same => by cases same⟩
  · have here : inner.offset < inner.length := by
      simpa [ParseBuffer.canAccessAtIndex] using accessible
    have further : buffer.offset < inner.offset := moved.further
    have steps : inner.stepBack.offset + 1 = inner.offset :=
      Nat.sub_add_cancel (Nat.one_le_of_lt further)
    have runs := follows [] inner.stepBack
      (Nat.lt_of_le_of_lt (Nat.sub_le _ _) here)
      (fun ends => by
        rw [steps] at ends
        exact absurd ends (Nat.ne_of_lt here))
      (by
        change 3 * (inner.length - (inner.offset - 1)) ≤ _
        omega)
    have same : inner.stepBack.content = buffer.content := moved.content
    rw [same] at runs
    refine runs.bind ?_
    rintro ⟨head, after⟩ ⟨failed, found⟩
    cases head with
    | none =>
        refine ⟨fun _ => ?_, fun node same => by cases same⟩
        have fails := failed rfl
        exact ⟨fails.content.trans moved.content,
          fails.grants.trans moved.grants, by
            rw [fails.live]
            change inner.hooks.live - 0 = _
            rw [moved.live]
            exact congrArg (· - 0) (Int.add_zero _)⟩
    | some head =>
        obtain ⟨more, part, rest, parts, forms, closes, move, derives⟩ :=
          found head rfl
        rw [List.nil_append] at parts
        subst parts
        change Moved inner.stepBack after _ at move
        have start : inner.content.drop (inner.stepBack.offset + 1) =
            inner.rest := by rw [steps]; rfl
        have levels : inner.stepBack.depth = buffer.depth + 1 := moved.depth
        change Derives libc (_ - inner.stepBack.depth) part
          (inner.content.drop (inner.stepBack.offset + 1)) rest at derives
        rw [start, levels] at derives
        obtain ⟨value, filled, whole⟩ :=
          full head part inner.rest rest forms blanks derives
        rw [← bytes] at whole
        have closed := moved.stepBack move
        rw [Int.zero_add] at closed
        exact succeedWith_done unfilled filled closed closes whole

theorem Blanks.trans {first second third : List UInt8}
    (one : Blanks first second) (two : Blanks second third) :
    Blanks first third := by
  obtain ⟨before, rfl, all⟩ := one
  obtain ⟨after, rfl, others⟩ := two
  refine ⟨before ++ after, (List.append_assoc _ _ _).symm, ?_⟩
  intro byte member
  rcases List.mem_append.mp member with early | late
  · exact all byte early
  · exact others byte late

/-- Blanks may precede the elements of an array. -/
theorem Derives.blanks_elements {levels : Nat} {items : List (Value D)}
    {text start rest : List UInt8} (blanks : Blanks text start)
    (derives : Derives libc levels (.elements items) start rest) :
    Derives libc levels (.elements items) text rest := by
  cases derives with
  | lastElement first value after =>
      exact .lastElement (blanks.trans first) value after
  | element first value after more =>
      exact .element (blanks.trans first) value after more

/-- Blanks may precede the members of an object. -/
theorem Derives.blanks_members {levels : Nat}
    {members : List (List UInt8 × Value D)} {text start rest : List UInt8}
    (blanks : Blanks text start)
    (derives : Derives libc levels (.members members) start rest) :
    Derives libc levels (.members members) text rest := by
  cases derives with
  | lastMember first name colon value derives after =>
      exact .lastMember (blanks.trans first) name colon value derives after
  | member first name colon value derives after more =>
      exact .member (blanks.trans first) name colon value derives after more

/-- `parse_array` after its checks. -/
theorem parseArray_eq {turns : Nat} {item : JsonNode D} {buffer : ParseBuffer}
    {text : List UInt8} (bytes : buffer.rest = ascii '[' :: text)
    (shallow : ¬ cjsonNestingLimit ≤ buffer.depth) :
    parseArray libc (turns + 1) item buffer =
      afterFirst (ascii ']') cJsonArray item (parseElements libc turns)
        buffer := by
  unfold parseArray
  rw [if_neg shallow]
  dsimp only
  rw [show tableAt buffer.content buffer.offset = .ok (ascii '[') from
    tableAt_drop bytes]
  simp only [bind, Except.bind]
  rw [if_neg (not_not_intro rfl)]
  rfl

/-- `parse_object` after its checks. -/
theorem parseObject_eq {turns : Nat} {item : JsonNode D} {buffer : ParseBuffer}
    {text : List UInt8} (bytes : buffer.rest = ascii '\x7b' :: text)
    (shallow : ¬ cjsonNestingLimit ≤ buffer.depth) :
    parseObject libc (turns + 1) item buffer =
      afterFirst (ascii '\x7d') cJsonObject item (parseMembers libc turns)
        buffer := by
  unfold parseObject
  rw [if_neg shallow]
  dsimp only
  have sees : buffer.deeper.sees (ascii '\x7b') = true :=
    (sees_iff buffer _).mpr ⟨text, bytes⟩
  rw [if_neg (by
    change ¬ (!buffer.deeper.sees _) = true
    rw [sees]
    decide)]
  rfl

theorem parseArray_follows {turns : Nat}
    (elements : FollowsChain libc (ascii ']') (ElementsOf libc)
      (parseElements libc turns) turns) :
    Follows libc (∃ rest, · = ascii '[' :: rest)
      (parseArray libc (turns + 1)) (turns + 1) 0 := by
  rintro item buffer unfilled ⟨text, bytes⟩ inside enough
  by_cases shallow : cjsonNestingLimit ≤ buffer.depth
  · unfold parseArray
    rw [if_pos shallow]
    exact ⟨fun _ => ⟨rfl, rfl, (Int.sub_zero _).symm⟩,
      fun node same => by cases same⟩
  rw [parseArray_eq bytes shallow]
  refine chain_follows unfilled elements bytes (by omega) ?_ ?_
  · intro rest blanks
    refine ⟨.array [], rfl, ?_⟩
    rw [levels_succ shallow]
    exact .emptyArray blanks
  · rintro chain part start rest ⟨items, rfl, rfl⟩ blanks derives
    refine ⟨.array items, rfl, ?_⟩
    rw [levels_succ shallow]
    exact .array (derives.blanks_elements blanks)

theorem parseObject_follows {turns : Nat}
    (members : FollowsChain libc (ascii '\x7d') (MembersOf libc)
      (parseMembers libc turns) turns) :
    Follows libc (∃ rest, · = ascii '\x7b' :: rest)
      (parseObject libc (turns + 1)) (turns + 1) 0 := by
  rintro item buffer unfilled ⟨text, bytes⟩ inside enough
  by_cases shallow : cjsonNestingLimit ≤ buffer.depth
  · unfold parseObject
    rw [if_pos shallow]
    exact ⟨fun _ => ⟨rfl, rfl, (Int.sub_zero _).symm⟩,
      fun node same => by cases same⟩
  rw [parseObject_eq bytes shallow]
  refine chain_follows unfilled members bytes (by omega) ?_ ?_
  · intro rest blanks
    refine ⟨.object [], rfl, ?_⟩
    rw [levels_succ shallow]
    exact .emptyObject blanks
  · rintro chain part start rest ⟨members, rfl, rfl⟩ blanks derives
    refine ⟨.object members, rfl, ?_⟩
    rw [levels_succ shallow]
    exact .object (derives.blanks_members blanks)

/-! ## The loops -/

/-- A node was allocated before a function of the parser moved on. -/
theorem Moved.granted {before after : ParseBuffer} {gained : Int} {hooks : Heap}
    (asked : before.hooks.allocate = (true, hooks))
    (moved : Moved { before with hooks := hooks } after gained) :
    Moved before after (1 + gained) where
  content := moved.content
  grants := by
    rw [moved.grants]
    exact (congrArg (·.2.grants) asked.symm).trans
      (Heap.allocate_grants before.hooks)
  live := by
    have one := Heap.allocate_true (congrArg Prod.fst asked)
    rw [asked] at one
    rw [moved.live, ← Int.add_assoc]
    exact congrArg (· + gained) one
  depth := moved.depth
  further := moved.further
  inside := moved.inside

/-- The chain is deleted after the parser moved on. -/
theorem failWith_done {closing : UInt8}
    {form : List (JsonNode D) → Form D → Prop} {head : List (JsonNode D)}
    {node : JsonNode D} {before after : ParseBuffer}
    (content : after.content = before.content)
    (grants : after.hooks.grants = before.hooks.grants)
    (live : after.hooks.live = before.hooks.live + blocks node) :
    ChainDone libc closing form head before
      (failWith (head ++ [node]) after) := by
  refine ⟨fun _ => ⟨content, grants, ?_⟩, fun chain same => by cases same⟩
  change after.hooks.live - chainBlocks (head ++ [node]) = _
  rw [live, chainBlocks_append, chainBlocks_singleton]
  omega

/-- The end of a turn of the loops, after a value. -/
def endOfTurn (closing : UInt8)
    (parse : List (JsonNode D) → ParseBuffer →
      Run (Option (List (JsonNode D)) × ParseBuffer))
    (head : List (JsonNode D)) (buffer : ParseBuffer) :
    Run (Option (List (JsonNode D)) × ParseBuffer) :=
  let buffer := bufferSkipWhitespace buffer
  if buffer.sees (ascii ',') then parse head buffer
  else if buffer.sees closing then return (some head, buffer)
  else return failWith head buffer

/-- After a value the grammar is followed. -/
theorem next_follows {closing : UInt8} {turns : Nat} {node : JsonNode D}
    {buffer after : ParseBuffer} {form : List (JsonNode D) → Form D → Prop}
    {parse : List (JsonNode D) → ParseBuffer →
      Run (Option (List (JsonNode D)) × ParseBuffer)}
    {head : List (JsonNode D)}
    (follows : FollowsChain libc closing form parse turns)
    (moved : Moved buffer after (blocks node))
    (further : buffer.offset + 2 ≤ after.offset)
    (enough : 3 * (buffer.length - buffer.offset) ≤ turns + 2)
    (last : ∀ rest, Blanks after.rest (closing :: rest) →
      ∃ part, form [node] part ∧
        Derives libc (cjsonNestingLimit - buffer.depth) part
          (buffer.content.drop (buffer.offset + 1)) rest)
    (more : ∀ chain part later rest, form chain part →
      Blanks after.rest (ascii ',' :: later) →
      Derives libc (cjsonNestingLimit - buffer.depth) part later rest →
      ∃ whole, form (node :: chain) whole ∧
        Derives libc (cjsonNestingLimit - buffer.depth) whole
          (buffer.content.drop (buffer.offset + 1)) rest) :
    Gives (AfterComma buffer.content) (ChainDone libc closing form head buffer)
      (endOfTurn closing parse (head ++ [node]) after) := by
  obtain ⟨offset, skipped, later, _⟩ := bufferSkipWhitespace_eq after
  have farther : after.offset ≤ (bufferSkipWhitespace after).offset := by
    rw [skipped]
    exact later
  obtain ⟨moved, blanks⟩ := moved.skip
  unfold endOfTurn
  dsimp only
  generalize bufferSkipWhitespace after = next at moved blanks farther ⊢
  have length : next.length = buffer.length :=
    congrArg List.length moved.content
  refine Gives.ite (fun sees => ?_) fun _ => ?_
  · obtain ⟨text, bytes⟩ := (sees_iff next _).mp sees
    rw [bytes] at blanks
    have inside := inside_of_rest bytes
    have runs := follows (head ++ [node]) next inside
      (fun ends => by
        have here : next.content[next.offset]? = some (ascii ',') :=
          of_decide_eq_true sees
        rw [List.getLast?_eq_getElem?]
        have position : next.content.length - 1 = next.offset := by
          change next.length - 1 = _
          omega
        rw [position, here])
      (by omega)
    rw [moved.content] at runs
    refine runs.mono ?_
    rintro ⟨chain, done⟩ ⟨failed, found⟩
    cases chain with
    | none =>
        have fails := failed rfl
        refine ⟨fun _ => ⟨fails.content.trans moved.content,
          fails.grants.trans moved.grants, ?_⟩, fun chain same => by cases same⟩
        rw [fails.live, moved.live, chainBlocks_append, chainBlocks_singleton]
        omega
    | some chain =>
        obtain ⟨others, part, rest, parts, forms, closes, move, derives⟩ :=
          found chain rfl
        rw [drop_succ bytes, moved.depth] at derives
        obtain ⟨whole, forms, derives⟩ :=
          more others part text rest forms blanks derives
        refine ⟨fun none_ => (by cases none_), fun other same => ?_⟩
        cases same
        refine ⟨node :: others, whole, rest, ?_, forms, closes, ?_, derives⟩
        · rw [parts, List.append_assoc]
          rfl
        · exact moved.trans move
  refine Gives.ite (fun sees => ?_) fun _ => ?_
  · obtain ⟨rest, bytes⟩ := (sees_iff next _).mp sees
    rw [bytes] at blanks
    obtain ⟨part, forms, derives⟩ := last rest blanks
    refine ⟨fun none_ => (by cases none_), fun other same => ?_⟩
    cases same
    refine ⟨[node], part, rest, rfl, forms, bytes, ?_, derives⟩
    rw [chainBlocks_singleton]
    exact moved
  · exact failWith_done moved.content moved.grants moved.live

/-- No node was allocated. -/
theorem refused_done {closing : UInt8}
    {form : List (JsonNode D) → Form D → Prop}
    {head : List (JsonNode D)} {buffer : ParseBuffer} {granted : Bool}
    {hooks : Heap} (asked : buffer.hooks.allocate = (granted, hooks))
    (refused : ¬ granted = true) :
    ChainDone libc closing form head buffer
      (failWith head { buffer with hooks := hooks }) := by
  have grants := Heap.allocate_grants buffer.hooks
  have live := @Heap.allocate_false buffer.hooks
    (by rw [asked]; exact Bool.eq_false_iff.mpr refused)
  rw [asked] at grants live
  refine ⟨fun _ => ⟨rfl, grants, ?_⟩, fun chain same => by cases same⟩
  change hooks.live - chainBlocks head = _
  rw [live]

theorem parseElements_follows {turns : Nat}
    (values : Follows libc (fun _ => True) (parseValue libc turns) turns 1)
    (elements : FollowsChain libc (ascii ']') (ElementsOf libc)
      (parseElements libc turns) turns) :
    FollowsChain libc (ascii ']') (ElementsOf libc)
      (parseElements libc (turns + 1)) (turns + 1) := by
  intro head buffer inside comma enough
  unfold parseElements
  cases asked : buffer.hooks.allocate with
  | mk granted hooks =>
  dsimp only
  refine Gives.ite (fun given => ?_) fun refused => ?_
  · subst given
    obtain ⟨moved, blanks⟩ :=
      (@Moved.refl_advance { buffer with hooks := hooks } 1 Nat.one_pos
        inside).skip
    have start := moved.granted asked
    rw [rest_advance] at blanks
    generalize bufferSkipWhitespace _ = first at *
    have length : first.length = buffer.length :=
      congrArg List.length start.content
    have further : buffer.offset < first.offset := start.further
    have runs := values (newItem libc) first ⟨rfl, rfl⟩ trivial
      (start.inside.trans_eq length.symm) (by omega)
    rw [start.content] at runs
    refine runs.bind ?_
    rintro ⟨value, after⟩ ⟨failed, found⟩
    cases value with
    | none =>
        have fails := failed rfl
        refine failWith_done (fails.content.trans start.content)
          (fails.grants.trans start.grants) ?_
        rw [fails.live, start.live, blocks_newItem]
        omega
    | some node =>
        obtain ⟨value, filled, move, derives⟩ := found node rfl
        have both := start.trans move
        rw [blocks_newItem, show 1 + 0 + (blocks node - 1) = blocks node by
          omega] at both
        have later : first.offset < after.offset := move.further
        have two : buffer.offset + 2 ≤ after.offset := by omega
        have levels : first.depth = buffer.depth := start.depth
        rw [levels] at derives
        have text : (buffer.rest).drop 1 =
            buffer.content.drop (buffer.offset + 1) := List.drop_drop
        change Blanks ((buffer.rest).drop 1) first.rest at blanks
        rw [text] at blanks
        refine next_follows elements both two (by omega) ?_ ?_
        · intro rest closes
          exact ⟨.elements [value], ⟨[value], rfl, by rw [filled]; rfl⟩,
            .lastElement blanks derives closes⟩
        · rintro chain part text rest ⟨items, rfl, rfl⟩ comma more
          exact ⟨.elements (value :: items), ⟨value :: items, rfl,
            by rw [filled]; rfl⟩, .element blanks derives comma more⟩
  · exact refused_done asked refused

theorem parseMembers_follows {turns : Nat}
    (values : Follows libc (fun _ => True) (parseValue libc turns) turns 1)
    (members : FollowsChain libc (ascii '\x7d') (MembersOf libc)
      (parseMembers libc turns) turns) :
    FollowsChain libc (ascii '\x7d') (MembersOf libc)
      (parseMembers libc (turns + 1)) (turns + 1) := by
  intro head buffer inside comma enough
  unfold parseMembers
  cases asked : buffer.hooks.allocate with
  | mk granted hooks =>
  dsimp only
  refine Gives.ite (fun given => ?_) fun refused => ?_
  · subst given
    obtain ⟨offset, skipped, _, _, within, _⟩ := bufferSkipWhitespace_eq
      (ParseBuffer.advance { buffer with hooks := hooks } 1)
    obtain ⟨moved, blanks⟩ :=
      (@Moved.refl_advance { buffer with hooks := hooks } 1 Nat.one_pos
        inside).skip
    have start := moved.granted asked
    have text : (buffer.rest).drop 1 =
        buffer.content.drop (buffer.offset + 1) := List.drop_drop
    rw [rest_advance] at blanks
    change Blanks ((buffer.rest).drop 1) _ at blanks
    rw [text] at blanks
    have position : (bufferSkipWhitespace (ParseBuffer.advance
        { buffer with hooks := hooks } 1)).offset = offset := by rw [skipped]
    generalize bufferSkipWhitespace _ = first at *
    have length : first.length = buffer.length :=
      congrArg List.length start.content
    by_cases ends : buffer.offset + 1 = buffer.length
    · -- the byte after the last comma is outside of the buffer
      have outside : first.content.length ≤ first.offset := by
        have := start.further
        change first.length ≤ _
        omega
      have read : tableAt first.content first.offset =
          .error Stop.outOfBounds := by
        unfold tableAt
        rw [List.getElem?_eq_none outside]
      unfold parseStringBytes
      dsimp only
      rw [read]
      exact ⟨rfl, comma ends⟩
    have here : first.offset < first.length := by
      have closer := within (by
        change buffer.offset + 1 < buffer.length
        omega)
      rw [position, length]
      exact closer
    refine Gives.bind ((parseStringBytes_gives here).allow
      fun _ no => no.elim) ?_
    rintro ⟨name, named⟩ ⟨failed, found⟩
    cases name with
    | none =>
        have fails := failed rfl
        refine failWith_done (fails.content.trans start.content)
          (fails.grants.trans start.grants) ?_
        rw [fails.live, start.live, blocks_newItem]
        omega
    | some name =>
        obtain ⟨nameMove, literal⟩ := found name rfl
        have named_ := start.trans nameMove
        obtain ⟨spaced, spaces⟩ := named_.skip
        dsimp only at spaced spaces literal ⊢
        generalize bufferSkipWhitespace named = colon at spaced spaces ⊢
        refine Gives.ite (fun _ => ?_) fun sees => ?_
        · refine failWith_done spaced.content spaced.grants ?_
          rw [spaced.live]
          change _ = _ + blocks (namedItem libc name)
          rw [blocks_namedItem]
          omega
        rw [Bool.not_eq_true, Bool.not_eq_false'] at sees
        obtain ⟨afterColon, colons⟩ := (sees_iff colon _).mp sees
        rw [colons] at spaces
        obtain ⟨valued, gap⟩ := opened colons
        have reached := spaced.trans valued
        generalize bufferSkipWhitespace _ = start_ at reached valued gap ⊢
        have length_ : start_.length = buffer.length :=
          congrArg List.length reached.content
        have further : buffer.offset + 2 ≤ start_.offset := by
          have one := spaced.further
          have two := valued.further
          omega
        have runs := values (namedItem libc name) start_ ⟨rfl, rfl⟩ trivial
          (reached.inside.trans_eq length_.symm) (by omega)
        rw [reached.content] at runs
        refine runs.bind ?_
        rintro ⟨value, after⟩ ⟨failed, found⟩
        cases value with
        | none =>
            have fails := failed rfl
            refine failWith_done (fails.content.trans reached.content)
              (fails.grants.trans reached.grants) ?_
            rw [fails.live, reached.live]
            change _ = _ + blocks (namedItem libc name)
            rw [blocks_namedItem]
            omega
        | some node =>
            obtain ⟨value, filled, move, derives⟩ := found node rfl
            have both := reached.trans move
            rw [blocks_namedItem,
              show 1 + 0 + 1 + 0 + (blocks node - 2) = blocks node by
                omega] at both
            have later : start_.offset < after.offset := move.further
            have two : buffer.offset + 2 ≤ after.offset := by omega
            have levels : start_.depth = buffer.depth := reached.depth
            rw [levels] at derives
            refine next_follows members both two (by omega) ?_ ?_
            · intro rest closes
              exact ⟨.members [(name, value)], ⟨[(name, value)], rfl,
                by rw [filled]; rfl⟩,
                .lastMember blanks literal spaces gap derives closes⟩
            · rintro chain part text rest ⟨others, rfl, rfl⟩ comma more
              exact ⟨.members ((name, value) :: others),
                ⟨(name, value) :: others, rfl, by rw [filled]; rfl⟩,
                .member blanks literal spaces gap derives comma more⟩
  · exact refused_done asked refused

/-! ## All functions -/

/-- Each function of the parser follows the grammar. -/
theorem follows_all (strtod : StrtodInside libc) (turns : Nat) :
    Follows libc (fun _ => True) (parseValue libc turns) turns 1 ∧
      Follows libc (∃ rest, · = ascii '[' :: rest)
        (parseArray libc turns) turns 0 ∧
      Follows libc (∃ rest, · = ascii '\x7b' :: rest)
        (parseObject libc turns) turns 0 ∧
      FollowsChain libc (ascii ']') (ElementsOf libc)
        (parseElements libc turns) turns ∧
      FollowsChain libc (ascii '\x7d') (MembersOf libc)
        (parseMembers libc turns) turns := by
  induction turns with
  | zero =>
      refine ⟨?_, ?_, ?_, ?_, ?_⟩
      · intro item buffer _ _ _ enough
        omega
      · rintro item buffer _ ⟨rest, bytes⟩ _ enough
        have := inside_of_rest bytes
        omega
      · rintro item buffer _ ⟨rest, bytes⟩ _ enough
        have := inside_of_rest bytes
        omega
      · intro head buffer inside _ enough
        omega
      · intro head buffer inside _ enough
        omega
  | succ turns ih =>
      obtain ⟨values, arrays, objects, elements, members⟩ := ih
      exact ⟨parseValue_follows strtod arrays objects,
        parseArray_follows elements, parseObject_follows members,
        parseElements_follows values elements,
        parseMembers_follows values members⟩

end Dnvme.Json
