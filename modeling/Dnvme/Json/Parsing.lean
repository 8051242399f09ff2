import Dnvme.Json.ParseComplete

/-!
# Parsed texts

The results about the functions that the users of the parser call: a run ends
and keeps its memory in order, it reads inside of the buffer but for one byte
after a last comma, and it gives a tree exactly for the texts that name a
value.
-/

namespace Dnvme.Json

open Dnvme.Nvme
open Dnvme.Lib.Outcomes

variable {D : Type} {libc : Libc D}

/-- The bytes after a byte order mark. -/
def withoutBom (text : List UInt8) : List UInt8 :=
  if 4 < text.length ∧ text.take 3 = [0xEF, 0xBB, 0xBF] then text.drop 3
  else text

/-- A text names a value, and `rest` is after it. -/
def Names (libc : Libc D) (text : List UInt8) (value : Value D)
    (rest : List UInt8) : Prop :=
  ∃ start, Blanks (withoutBom text) start ∧
    Derives libc cjsonNestingLimit (.value value) start rest

/-- Blanks up to the terminator. -/
def Terminated (rest : List UInt8) : Prop :=
  ∃ blanks, rest = blanks ++ [0] ∧ ∀ byte ∈ blanks, byte ≤ 32

/-- The text may be followed by anything, or by blanks up to the terminator
where that is required. -/
def Allowed (requireNullTerminated : Bool) (rest : List UInt8) : Prop :=
  requireNullTerminated = true → Terminated rest

/-! ## The start of a text -/

/-- The buffer at the start of a text. -/
def startOf (text : List UInt8) (hooks : Heap) : ParseBuffer :=
  bufferSkipWhitespace (skipUtf8Bom
    { content := text, offset := 0, depth := 0, hooks := hooks })

theorem skipUtf8Bom_eq (text : List UInt8) (hooks : Heap) :
    ∃ offset, skipUtf8Bom
        { content := text, offset := 0, depth := 0, hooks := hooks } =
        { content := text, offset := offset, depth := 0, hooks := hooks } ∧
      offset ≤ text.length ∧ text.drop offset = withoutBom text := by
  unfold skipUtf8Bom withoutBom
  by_cases marked : 4 < text.length ∧ text.take 3 = [0xEF, 0xBB, 0xBF]
  · refine ⟨3, ?_, by omega, (if_pos marked).symm⟩
    refine if_pos ?_
    rw [Bool.and_eq_true, decide_eq_true_iff]
    refine ⟨decide_eq_true ?_, marked.2⟩
    change 0 + 4 < text.length
    omega
  · refine ⟨0, if_neg ?_, Nat.zero_le _, (if_neg marked).symm⟩
    rw [Bool.and_eq_true, decide_eq_true_iff]
    rintro ⟨long, mark⟩
    have : 0 + 4 < text.length := of_decide_eq_true long
    exact marked ⟨by omega, mark⟩

theorem startOf_eq (text : List UInt8) (hooks : Heap) :
    ∃ offset, startOf text hooks =
        { content := text, offset := offset, depth := 0, hooks := hooks } ∧
      offset ≤ text.length ∧
      Blanks (withoutBom text) (text.drop offset) := by
  obtain ⟨first, skipped, within, rest⟩ := skipUtf8Bom_eq text hooks
  obtain ⟨offset, same, _, inside, _, blanks⟩ := bufferSkipWhitespace_eq
    { content := text, offset := first, depth := 0, hooks := hooks }
  refine ⟨offset, ?_, inside within, ?_⟩
  · rw [startOf, skipped]
    exact same
  · rw [← rest]
    exact blanks

theorem rest_startOf {text more : List UInt8} {byte : UInt8} {hooks : Heap}
    (blanks : Blanks (withoutBom text) (byte :: more))
    (visible : ¬ byte ≤ 32) : (startOf text hooks).rest = byte :: more := by
  obtain ⟨first, skipped, _, rest⟩ := skipUtf8Bom_eq text hooks
  unfold startOf
  rw [skipped]
  refine rest_skip ?_ visible
  change Blanks (text.drop first) _
  rw [rest]
  exact blanks

/-! ## The end of a text -/

theorem terminated_visible {blanks rest : List UInt8} {byte : UInt8}
    (visible : ¬ byte ≤ 32) : ¬ Terminated (blanks ++ byte :: rest) := by
  rintro ⟨others, parts, all⟩
  have member : byte ∈ others ++ [0] := by
    rw [← parts]
    exact List.mem_append_right _ List.mem_cons_self
  rcases List.mem_append.mp member with blank | last
  · exact visible (all byte blank)
  · rw [List.mem_singleton.mp last] at visible
    exact visible (by decide)

/-- After the whitespace there is a NUL byte exactly at the end of a terminated
text: the terminator counts as whitespace, and the offset goes back to it. -/
theorem skip_sees_nul {buffer : ParseBuffer} :
    (bufferSkipWhitespace buffer).sees 0 = true ↔ Terminated buffer.rest := by
  unfold bufferSkipWhitespace
  by_cases inside : buffer.offset < buffer.length
  · rw [if_pos (by simpa [ParseBuffer.canAccessAtIndex] using inside)]
    obtain ⟨blanks, rest, parts, all, visible, done⟩ :=
      skipBlanks_blanks buffer.rest buffer.offset
    have lengths := congrArg List.length parts
    rw [length_rest, List.length_append] at lengths
    dsimp only
    rw [done]
    rcases rest with _ | ⟨byte, rest⟩
    · rw [List.append_nil] at parts
      rw [List.length_nil] at lengths
      obtain ⟨before, last, rfl⟩ : ∃ before last,
          blanks = before ++ [last] := by
        refine ⟨blanks.dropLast, blanks.getLast (by
          rintro rfl
          rw [List.length_nil] at lengths
          omega), (List.dropLast_append_getLast _).symm⟩
      rw [List.length_append, List.length_singleton] at lengths ⊢
      rw [if_pos (by omega), sees_iff]
      have here : buffer.content.drop
          (buffer.offset + (before.length + 1) - 1) = [last] := by
        rw [show buffer.offset + (before.length + 1) - 1 =
          buffer.offset + before.length by omega, ← List.drop_drop]
        change buffer.rest.drop _ = _
        rw [parts, List.drop_left]
      change (∃ more, buffer.content.drop _ = 0 :: more) ↔ _
      rw [here, parts]
      constructor
      · rintro ⟨more, same⟩
        rw [(List.cons.inj same).1]
        exact ⟨before, rfl, fun byte member =>
          all byte (List.mem_append_left _ member)⟩
      · rintro ⟨others, same, _⟩
        have tails := (List.append_inj' same rfl).2
        exact ⟨[], tails⟩
    · have dark : ¬ byte ≤ 32 := visible byte rfl
      rw [List.length_cons] at lengths
      rw [if_neg (by omega), sees_iff, parts]
      refine iff_of_false ?_ (terminated_visible dark)
      rintro ⟨more, same⟩
      change buffer.content.drop (buffer.offset + blanks.length) = _ at same
      rw [← List.drop_drop] at same
      change buffer.rest.drop _ = _ at same
      rw [parts, List.drop_left] at same
      rw [(List.cons.inj same).1] at dark
      exact dark (by decide)
  · rw [if_neg (by simpa [ParseBuffer.canAccessAtIndex] using inside),
      sees_iff]
    have empty : buffer.rest = [] :=
      List.drop_eq_nil_iff.mpr (Nat.not_lt.mp inside)
    rw [empty]
    refine iff_of_false ?_ ?_
    · rintro ⟨more, same⟩
      cases same
    · rintro ⟨blanks, same, _⟩
      simp at same

/-! ## Runs -/

/-- What a run of the parser on a text leaves: the blocks of its tree and no
others, and a tree of a value that the text names. -/
structure ParseDone (libc : Libc D) (text : List UInt8)
    (requireNullTerminated : Bool) (hooks : Heap) (parsed : Parsed D) :
    Prop where
  live : parsed.hooks.live = hooks.live + parsed.item.elim 0 blocks
  position : parsed.position ≤ text.length
  names : ∀ node, parsed.item = some node →
    ∃ value rest, node = value.node libc ∧ Names libc text value rest ∧
      Allowed requireNullTerminated rest ∧
      (requireNullTerminated = false → text.drop parsed.position = rest)

theorem failParse_position {text : List UInt8} {item : Option (JsonNode D)}
    {buffer : ParseBuffer} (content : buffer.content = text) :
    (failParse item buffer).position ≤ text.length := by
  unfold failParse
  dsimp only
  rw [show buffer.length = text.length from congrArg List.length content]
  split <;> omega

/-- The run of `cJSON_ParseWithLengthOpts` when its first node is allocated. -/
theorem cJsonParseWithLengthOpts_eq {text : List UInt8}
    {requireNullTerminated : Bool} {hooks : Heap} (some_ : text.length ≠ 0)
    (granted : hooks.allocate.1 = true) :
    cJsonParseWithLengthOpts libc text requireNullTerminated hooks = (do
      let (item, buffer) ←
        parseValue libc (3 * text.length + 1) (newItem libc)
          (startOf text hooks.allocate.2)
      match item with
      | none => return failParse (some (newItem libc)) buffer
      | some item =>
          if requireNullTerminated then
            let buffer := bufferSkipWhitespace buffer
            if !buffer.sees 0 then return failParse (some item) buffer
            else return ⟨some item, buffer.offset, buffer.hooks⟩
          else return ⟨some item, buffer.offset, buffer.hooks⟩) := by
  unfold cJsonParseWithLengthOpts
  dsimp only
  rw [if_neg some_, if_pos granted]
  rfl

theorem cJsonParseWithLengthOpts_gives (strtod : StrtodInside libc)
    (text : List UInt8) (requireNullTerminated : Bool) (hooks : Heap) :
    Gives (AfterComma text) (ParseDone libc text requireNullTerminated hooks)
      (cJsonParseWithLengthOpts libc text requireNullTerminated hooks) := by
  have refused {item : Option (JsonNode D)} {buffer : ParseBuffer}
      (content : buffer.content = text)
      (live : buffer.hooks.live = hooks.live + item.elim 0 blocks) :
      ParseDone libc text requireNullTerminated hooks
        (failParse item buffer) := by
    refine ⟨?_, failParse_position content, fun node same => by cases same⟩
    change buffer.hooks.live - item.elim 0 blocks = hooks.live + 0
    omega
  by_cases empty : text.length = 0
  · unfold cJsonParseWithLengthOpts
    dsimp only
    rw [if_pos empty]
    exact refused rfl (Int.add_zero _).symm
  by_cases granted : hooks.allocate.1 = true
  · rw [cJsonParseWithLengthOpts_eq empty granted]
    obtain ⟨offset, start, inside, blanks⟩ := startOf_eq text hooks.allocate.2
    rw [start]
    have live := Heap.allocate_true granted
    have runs := (follows_all strtod (3 * text.length + 1)).1 (newItem libc)
      { content := text, offset := offset, depth := 0,
        hooks := hooks.allocate.2 } ⟨rfl, rfl⟩ trivial inside (by
          change 3 * (text.length - offset) + 1 ≤ _
          omega)
    refine runs.bind ?_
    rintro ⟨item, buffer⟩ ⟨failed, found⟩
    cases item with
    | none =>
        have fails := failed rfl
        refine refused fails.content ?_
        rw [fails.live]
        change hooks.allocate.2.live - 0 = hooks.live + 1
        omega
    | some node =>
        obtain ⟨value, filled, moved, derives⟩ := found node rfl
        have lives : buffer.hooks.live = hooks.live + blocks node := by
          rw [moved.live]
          change hooks.allocate.2.live + (blocks node - 1) = _
          omega
        have names : Names libc text value buffer.rest :=
          ⟨text.drop offset, blanks, derives⟩
        dsimp only
        refine Gives.ite (fun required => ?_) fun free => ?_
        · obtain ⟨skipped, _⟩ := moved.skip
          have lives : (bufferSkipWhitespace buffer).hooks.live =
              hooks.live + blocks node := by
            rw [skipped.live]
            change hooks.allocate.2.live + (blocks node - 1) = _
            omega
          refine Gives.ite (fun _ => ?_) fun sees => ?_
          · exact refused skipped.content lives
          · rw [Bool.not_eq_true, Bool.not_eq_false'] at sees
            refine ⟨lives, skipped.inside, fun other same => ?_⟩
            cases same
            exact ⟨value, buffer.rest, filled, names,
              fun _ => skip_sees_nul.mp sees,
              fun free => by rw [required] at free; cases free⟩
        · refine ⟨lives, moved.inside, fun other same => ?_⟩
          cases same
          have content : buffer.content = text := moved.content
          exact ⟨value, buffer.rest, filled, names, fun required =>
            absurd required free, fun _ => by rw [← content]; rfl⟩
  · unfold cJsonParseWithLengthOpts
    dsimp only
    rw [if_neg empty, if_neg granted]
    exact refused rfl ((Heap.allocate_false
      (Bool.eq_false_iff.mpr granted)).trans (Int.add_zero _).symm)

/-- A text that names a value is parsed when memory is granted. -/
theorem cJsonParseWithLengthOpts_names (strtod : StrtodInside libc)
    {text rest : List UInt8} {value : Value D} {requireNullTerminated : Bool}
    {hooks : Heap} (names : Names libc text value rest)
    (allowed : Allowed requireNullTerminated rest)
    (grants : ∀ request, hooks.grants request = true) :
    ∃ position after,
      cJsonParseWithLengthOpts libc text requireNullTerminated hooks =
        .ok ⟨some (value.node libc), position, after⟩ := by
  obtain ⟨begin_, blanks, derives⟩ := names
  obtain ⟨byte, more, rfl, visible, _⟩ := derives.starts rfl
  have some_ : text.length ≠ 0 := by
    intro empty
    rw [List.length_eq_zero_iff] at empty
    subst empty
    obtain ⟨before, parts, _⟩ := blanks
    simp [withoutBom] at parts
  have granted : hooks.allocate.1 = true := by
    unfold Heap.allocate
    rw [if_pos (grants _)]
  rw [cJsonParseWithLengthOpts_eq some_ granted]
  obtain ⟨offset, start, inside, _⟩ := startOf_eq text hooks.allocate.2
  have bytes := @rest_startOf text more byte hooks.allocate.2 blanks visible
  rw [start] at bytes ⊢
  obtain ⟨after, done, rest_⟩ := accepts_all strtod derives
    (3 * text.length + 1) (newItem libc) _ ⟨rfl, rfl⟩
    (fun request => (congrFun (Heap.allocate_grants hooks) request).trans
      (grants request)) bytes rfl (by
        change 3 * (text.length - offset) + 1 ≤ _
        omega)
  rw [done]
  simp only [bind, Except.bind]
  by_cases required : requireNullTerminated = true
  · have sees : (bufferSkipWhitespace after).sees 0 = true := by
      rw [skip_sees_nul, rest_]
      exact allowed required
    rw [if_pos required, if_neg (by rw [sees]; decide)]
    exact ⟨_, _, rfl⟩
  · rw [if_neg required]
    exact ⟨_, _, rfl⟩

theorem readDigits_size (text : List UInt8) (number size : Nat) :
    (readDigits text number size).2 ≤ size + text.length := by
  induction text generalizing number size with
  | nil => exact Nat.le_refl _
  | cons byte rest ih =>
      rw [readDigits, List.length_cons]
      split
      · exact (ih _ _).trans (by omega)
      · dsimp only
        omega

theorem strtodInside_integer : StrtodInside integerLibc := by
  intro text
  change (readInteger text).2 ≤ text.length
  rcases text with _ | ⟨byte, rest⟩
  · exact Nat.le_refl 0
  · unfold readInteger
    have after := readDigits_size rest 0 0
    have whole := readDigits_size (byte :: rest) 0 0
    rw [List.length_cons] at whole ⊢
    dsimp only
    split_ifs <;> dsimp only <;> omega

/-! ## Results -/

/-- A run of the parser comes to its end and leaves no block behind but those of
its tree, whatever the bytes are and whichever requests for memory are granted.
On a string it never reads outside of the string. -/
theorem cJsonParse_keeps_memory (strtod : StrtodInside libc)
    (text : List UInt8) (requireNullTerminated : Bool) (hooks : Heap) :
    Gives (AfterComma text)
        (fun parsed =>
          parsed.hooks.live = hooks.live + parsed.item.elim 0 blocks ∧
          parsed.position ≤ text.length)
        (cJsonParseWithLengthOpts libc text requireNullTerminated hooks) ∧
      ∃ parsed,
        cJsonParseWithOpts libc text requireNullTerminated hooks = .ok parsed ∧
        parsed.hooks.live = hooks.live + parsed.item.elim 0 blocks ∧
        parsed.position ≤ text.length + 1 := by
  constructor
  · exact (cJsonParseWithLengthOpts_gives strtod text requireNullTerminated
      hooks).mono fun parsed done => ⟨done.live, done.position⟩
  · have runs := cJsonParseWithLengthOpts_gives strtod (text ++ [0])
      requireNullTerminated hooks
    unfold cJsonParseWithOpts
    have never : Gives (fun _ => False)
        (ParseDone libc (text ++ [0]) requireNullTerminated hooks)
        (cJsonParseWithLengthOpts libc (text ++ [0]) requireNullTerminated
          hooks) := by
      refine runs.allow fun stop allowed => ?_
      have last := allowed.2
      rw [List.getLast?_concat] at last
      exact absurd (Option.some.inj last) (by decide)
    obtain ⟨parsed, done, known⟩ := never.exists_ok
    refine ⟨parsed, done, known.live, ?_⟩
    have position := known.position
    rwa [List.length_append, List.length_singleton] at position

/-- The second node of `[1,2]` gets no memory. -/
theorem cJsonParse_keeps_memory_refused :
    ∃ parsed,
      cJsonParseWithOpts integerLibc
        (asciiText ['[', '1', ',', '2', ']']) true ⟨(· ≠ 2), 0, 5⟩ =
        .ok parsed ∧
      parsed.hooks.live = 5 + parsed.item.elim 0 blocks ∧
      parsed.position ≤ 6 :=
  (cJsonParse_keeps_memory strtodInside_integer
    (asciiText ['[', '1', ',', '2', ']']) true ⟨(· ≠ 2), 0, 5⟩).2

/-- A buffer that ends with a comma in an object is left. -/
example :
    cJsonParseWithLengthOpts integerLibc
      [ascii '\x7b', quote, ascii 'a', quote, ascii ':', ascii '1', ascii ',']
      false ⟨fun _ => true, 0, 0⟩ = .error .outOfBounds := by
  rfl

/-- The parser gives a tree exactly for the texts that name a value, and the
tree is the one of the value. -/
theorem cJsonParse_eq_some_iff (strtod : StrtodInside libc)
    (text : List UInt8) (requireNullTerminated : Bool) {hooks : Heap}
    (grants : ∀ request, hooks.grants request = true) (node : JsonNode D) :
    (∃ position after,
      cJsonParseWithLengthOpts libc text requireNullTerminated hooks =
        .ok ⟨some node, position, after⟩) ↔
      ∃ value rest, node = value.node libc ∧ Names libc text value rest ∧
        Allowed requireNullTerminated rest := by
  constructor
  · rintro ⟨position, after, done⟩
    have known := (cJsonParseWithLengthOpts_gives strtod text
      requireNullTerminated hooks).elim done
    obtain ⟨value, rest, filled, names, allowed, _⟩ := known.names node rfl
    exact ⟨value, rest, filled, names, allowed⟩
  · rintro ⟨value, rest, rfl, names, allowed⟩
    exact cJsonParseWithLengthOpts_names strtod names allowed grants

/-- The text `[1, true]`. -/
theorem cJsonParse_eq_some_iff_array :
    ∃ value rest,
      Value.node integerLibc (.array [.number 1, .true_]) =
        value.node integerLibc ∧
      Names integerLibc
        (asciiText ['[', '1', ',', ' ', 't', 'r', 'u', 'e', ']']) value rest ∧
      Allowed false rest :=
  (cJsonParse_eq_some_iff strtodInside_integer
    (asciiText ['[', '1', ',', ' ', 't', 'r', 'u', 'e', ']']) false
    (fun _ => rfl : ∀ request, (Heap.mk (fun _ => true) 0 0).grants request =
      true)
    (Value.node integerLibc (.array [.number 1, .true_]))).mp ⟨9, _, rfl⟩

end Dnvme.Json
