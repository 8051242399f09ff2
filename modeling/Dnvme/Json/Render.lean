import Dnvme.Json.Print
import Dnvme.Lib.Outcomes

/-!
# What the printer writes

The text of a tree is a function of the tree.  The printer writes this text and
a terminator, stays inside of its buffer, and needs one byte more than the text
with its terminator has.  A buffer of the caller that has so much room is
always enough, and no other is.  A buffer of its own is enlarged as needed, and
freed when that fails.
-/

namespace Dnvme.Json

open Dnvme.Nvme
open Dnvme.Lib.Outcomes
open Dnvme.Lib.FrontFilled

variable {D : Type} {libc : Libc D}

/-! ## The text of a tree -/

/-- The bytes that a byte of a string is printed as. -/
def escapeByte (byte : UInt8) : List UInt8 :=
  if 31 < byte ∧ byte ≠ quote ∧ byte ≠ backslash then [byte]
  else
    match escapeLetter byte with
    | some letter => [backslash, letter]
    | none => backslash :: formatUnicode byte

/-- The literal of a string. -/
def renderString (string : Option (List UInt8)) : List UInt8 :=
  quote :: ((string.getD []).flatMap escapeByte ++ [quote])

/-- The tabs before a line of an object. -/
def tabs (format : Bool) (depth : Nat) : List UInt8 :=
  whenFormatted format (List.replicate depth 9)

/-- What stands between an element and the next one. -/
def elementMark (format : Bool) (next : List (JsonNode D)) : List UInt8 :=
  if next.isEmpty then [] else ascii ',' :: whenFormatted format [32]

/-- What stands before the value of a member. -/
def memberFront (format : Bool) (name : Option (List UInt8)) (depth : Nat) :
    List UInt8 :=
  tabs format depth ++
    (renderString name ++ (ascii ':' :: whenFormatted format [9]))

/-- What stands behind the value of a member. -/
def memberMark (format : Bool) (next : List (JsonNode D)) : List UInt8 :=
  (if next.isEmpty then [] else [ascii ',']) ++ whenFormatted format [10]

mutual

/-- The text of a node at a depth, unless the node cannot be printed. -/
def render (libc : Libc D) (format : Bool) :
    JsonNode D → Nat → Option (List UInt8)
  | ⟨type, valuestring, valueint, valuedouble, _, child⟩, depth =>
      let type := type % 256
      if type = cJsonNull then some (asciiText ['n', 'u', 'l', 'l'])
      else if type = cJsonFalse then
        some (asciiText ['f', 'a', 'l', 's', 'e'])
      else if type = cJsonTrue then some (asciiText ['t', 'r', 'u', 'e'])
      else if type = cJsonNumber then
        some (numberText libc valueint valuedouble)
      else if type = cJsonRaw then valuestring
      else if type = cJsonString then some (renderString valuestring)
      else if type = cJsonArray then
        (renderElements libc format child (depth + 1)).map fun elements =>
          ascii '[' :: (elements ++ [ascii ']'])
      else if type = cJsonObject then
        (renderMembers libc format child (depth + 1)).map fun members =>
          ascii '\x7b' :: (whenFormatted format [10] ++
            (members ++ (tabs format depth ++ [ascii '\x7d'])))
      else none

/-- The text of the elements of an array. -/
def renderElements (libc : Libc D) (format : Bool) :
    List (JsonNode D) → Nat → Option (List UInt8)
  | [], _ => some []
  | element :: next, depth => do
      let text ← render libc format element depth
      let others ← renderElements libc format next depth
      return text ++ (elementMark format next ++ others)

/-- The text of the members of an object, each on a line of its own. -/
def renderMembers (libc : Libc D) (format : Bool) :
    List (JsonNode D) → Nat → Option (List UInt8)
  | [], _ => some []
  | member :: next, depth => do
      let text ← render libc format member depth
      let others ← renderMembers libc format next depth
      return memberFront format member.string depth ++
        (text ++ (memberMark format next ++ others))

end

/-! ## Outcomes -/

/-- The number of bytes that the buffer may get. -/
def PrintBuffer.capacity (p : PrintBuffer) : Nat :=
  if p.noalloc then p.length else intMax.toNat

/-- The blocks of a buffer that is allocated. -/
def PrintBuffer.blocks (p : PrintBuffer) : Int :=
  if p.buffer.isSome then 1 else 0

/-- No request for memory that the buffer may make is refused. -/
def PrintBuffer.Granted (p : PrintBuffer) : Prop :=
  p.noalloc = false → ∀ request, p.hooks.grants request = true

/-- What a function of the printer leaves as it is. -/
structure Kept (before after : PrintBuffer) : Prop where
  noalloc : after.noalloc = before.noalloc
  format : after.format = before.format
  fresh : after.fresh = before.fresh
  grants : after.hooks.grants = before.hooks.grants
  capacity : after.capacity = before.capacity
  live : after.hooks.live - after.blocks = before.hooks.live - before.blocks

/-- The buffer starts with a text, and the offset is at the end of the text. -/
structure Writes (text : List UInt8) (depth : Nat) (p : PrintBuffer) :
    Prop where
  memory : ∃ memory, p.buffer = some memory ∧ memory.length = p.length ∧
    text <+: memory
  offset : p.offset = text.length
  room : text.length < p.length ∨ p.length = 0
  small : p.length ≤ intMax.toNat
  depth : p.depth = depth

/-- The buffer starts with a text, what was written behind it and a terminator,
and the offset is not after them. -/
structure Wrote (text more : List UInt8) (depth : Nat) (p : PrintBuffer) :
    Prop where
  memory : ∃ memory, p.buffer = some memory ∧ memory.length = p.length ∧
    text ++ more ++ [0] <+: memory
  offset : ∃ some_ rest, more = some_ ++ rest ∧
    p.offset = (text ++ some_).length
  room : text.length + more.length + 2 ≤ p.length
  small : p.length ≤ intMax.toNat
  depth : p.depth = depth

/-- The result is good when a function of the printer gives `true`.  It gives
`false` only when the buffer may not get so many bytes, or a request for memory
is refused. -/
def Prints (p : PrintBuffer) (needs : Nat) (good : PrintBuffer → Prop)
    (done : Bool × PrintBuffer) : Prop :=
  Kept p done.2 ∧ (done.1 = true → good done.2) ∧
    (done.1 = false → p.Granted → p.capacity < needs)

theorem Kept.granted {before after : PrintBuffer} (kept : Kept before after) :
    after.Granted ↔ before.Granted := by
  unfold PrintBuffer.Granted
  rw [kept.noalloc, kept.grants]

theorem Kept.refl (p : PrintBuffer) : Kept p p :=
  ⟨rfl, rfl, rfl, rfl, rfl, rfl⟩

theorem Kept.trans {first second third : PrintBuffer}
    (one : Kept first second) (two : Kept second third) :
    Kept first third where
  noalloc := two.noalloc.trans one.noalloc
  format := two.format.trans one.format
  fresh := two.fresh.trans one.fresh
  grants := two.grants.trans one.grants
  capacity := two.capacity.trans one.capacity
  live := two.live.trans one.live

theorem length_freshMemory (fresh : Nat → UInt8) (known : List UInt8)
    (size : Nat) : (freshMemory fresh known size).length = size := by
  unfold freshMemory
  rw [List.length_append, List.length_take, List.length_map, List.length_range]
  omega

theorem prefix_freshMemory {fresh : Nat → UInt8} {known text : List UInt8}
    {size : Nat} (start : text <+: known) (fits : text.length ≤ size) :
    text <+: freshMemory fresh known size := by
  have taken : text <+: known.take size := by
    rw [List.prefix_take_iff]
    exact ⟨start, fits⟩
  exact taken.trans (List.prefix_append _ _)

theorem newSize_some {needed size : Nat} (found : newSize needed = some size) :
    needed ≤ size ∧ size ≤ intMax.toNat := by
  unfold newSize at found
  split_ifs at found with large fits
  · cases found
    exact ⟨fits, Nat.le_refl _⟩
  · cases found
    omega

theorem newSize_none {needed : Nat} (found : newSize needed = none) :
    intMax.toNat < needed := by
  unfold newSize at found
  split_ifs at found with large fits
  exact Nat.not_le.mp fits

/-- The buffer is enlarged, or is given back when no memory is granted. -/
theorem enlarge_outcome {text memory : List UInt8} {depth needed size : Nat}
    {p : PrintBuffer} (writes : Writes text depth p)
    (here : p.buffer = some memory) (start : text <+: memory)
    (alloc : p.noalloc = false) (fits : needed ≤ size)
    (longer : text.length < needed) (small : size ≤ intMax.toNat) :
    (∃ enlarged hooks,
      reallocate p.hooks p.fresh memory size = (some enlarged, hooks) ∧
      Kept p { p with
        buffer := some enlarged, length := size, hooks := hooks } ∧
      Writes text depth { p with
        buffer := some enlarged, length := size, hooks := hooks }) ∨
    ∃ hooks, reallocate p.hooks p.fresh memory size = (none, hooks) ∧
      Kept p { p with
        buffer := none, length := 0, hooks := hooks.free 1 } ∧
      ¬ ∀ request, p.hooks.grants request = true := by
  have capacity (q : PrintBuffer) (same : q.noalloc = p.noalloc) :
      q.capacity = p.capacity := by
    unfold PrintBuffer.capacity
    rw [same, alloc]
    rfl
  unfold reallocate
  by_cases granted : p.hooks.grants p.hooks.asked = true
  · refine .inl ⟨_, _, if_pos granted, ⟨rfl, rfl, rfl, rfl, capacity _ rfl, ?_⟩,
      ⟨⟨_, rfl, length_freshMemory _ _ _,
        prefix_freshMemory start (by omega)⟩, writes.offset,
        .inl (by
          dsimp only
          omega), small, writes.depth⟩⟩
    unfold PrintBuffer.blocks
    rw [here]
    rfl
  · refine .inr ⟨_, if_neg granted, ⟨rfl, rfl, rfl, rfl, capacity _ rfl, ?_⟩,
      fun all => granted (all _)⟩
    unfold PrintBuffer.blocks Heap.free
    rw [here]
    simp

/-- `ensure` finds room behind the text, or the bytes are too many. -/
theorem ensure_outcome {text : List UInt8} {depth : Nat} {p : PrintBuffer}
    (writes : Writes text depth p) (needed : Nat) :
    (∃ q, ensure p needed = (true, q) ∧ Kept p q ∧ Writes text depth q ∧
      text.length + 1 + needed ≤ q.length) ∨
    ∃ q, ensure p needed = (false, q) ∧ Kept p q ∧
      (p.Granted → p.capacity < text.length + 1 + needed) := by
  obtain ⟨memory, here, length, start⟩ := writes.memory
  have offset := writes.offset
  have capacity : p.capacity ≤ intMax.toNat := by
    unfold PrintBuffer.capacity
    split
    · exact writes.small
    · exact Nat.le_refl _
  unfold ensure
  rw [here]
  dsimp only
  have inside : ¬ (0 < p.length ∧ p.length ≤ p.offset) := by
    rintro ⟨some_, reached⟩
    rcases writes.room with room | none_ <;> omega
  rw [if_neg inside]
  by_cases large : intMax.toNat < needed
  · rw [if_pos large]
    exact .inr ⟨p, rfl, .refl p, fun _ => by omega⟩
  rw [if_neg large]
  by_cases fits : needed + (p.offset + 1) ≤ p.length
  · rw [if_pos fits]
    exact .inl ⟨p, rfl, .refl p, writes, by omega⟩
  rw [if_neg fits]
  by_cases fixed : p.noalloc = true
  · rw [if_pos fixed]
    refine .inr ⟨p, rfl, .refl p, fun _ => ?_⟩
    rw [PrintBuffer.capacity, if_pos fixed]
    omega
  rw [if_neg fixed]
  have alloc : p.noalloc = false := Bool.eq_false_iff.mpr fixed
  cases sized : newSize (needed + (p.offset + 1)) with
  | none =>
      have tooMuch := newSize_none sized
      exact .inr ⟨p, rfl, .refl p, fun _ => by omega⟩
  | some size =>
      obtain ⟨enough, small⟩ := newSize_some sized
      dsimp only
      rcases enlarge_outcome writes here start alloc enough (by omega) small
        with ⟨enlarged, hooks, done, kept, after⟩ | ⟨hooks, done, kept, refused⟩
      · rw [done]
        exact .inl ⟨_, rfl, kept, after, by
          dsimp only
          omega⟩
      · rw [done]
        exact .inr ⟨_, rfl, kept, fun all => absurd (all alloc) refused⟩

/-- What `ensure` finds room for is written, and the printer goes on. -/
theorem ensureThen_prints {text : List UInt8} {depth needed needs : Nat}
    {p : PrintBuffer} {good : PrintBuffer → Prop}
    {next : PrintBuffer → Run (Bool × PrintBuffer)}
    (writes : Writes text depth p)
    (least : text.length + 1 + needed ≤ needs ∨ p.capacity < needs)
    (onward : ∀ q, Kept p q → Writes text depth q →
      text.length + 1 + needed ≤ q.length →
      Gives (fun _ => False) (Prints q needs good) (next q)) :
    Gives (fun _ => False) (Prints p needs good)
      (ensureThen p needed next) := by
  unfold ensureThen
  rcases ensure_outcome writes needed with
    ⟨q, done, kept, after, room⟩ | ⟨q, done, kept, tooMuch⟩
  · rw [done]
    refine (onward q kept after room).mono ?_
    rintro result ⟨keeps, good_, bad⟩
    rw [kept.capacity, kept.granted] at bad
    exact ⟨kept.trans keeps, good_, bad⟩
  · rw [done]
    refine ⟨kept, fun yes => (by cases yes), fun _ all => ?_⟩
    have := tooMuch all
    omega

/-! ## Pieces of a text -/

/-- Bytes behind the text. -/
theorem store_ok {text : List UInt8} {depth : Nat} {p : PrintBuffer}
    (writes : Writes text depth p) (bytes : List UInt8)
    (fits : text.length + bytes.length ≤ p.length) :
    ∃ next, p.store bytes = .ok { p with buffer := some next } ∧
      next.length = p.length ∧ text ++ bytes <+: next ∧
      Kept p { p with buffer := some next } := by
  obtain ⟨memory, here, length, start⟩ := writes.memory
  obtain ⟨next, done, same, known⟩ :=
    store_front Stop.outOfBounds bytes start (by omega)
  refine ⟨next, ?_, same.trans length, known, rfl, rfl, rfl, rfl, rfl, ?_⟩
  · unfold PrintBuffer.store
    rw [here]
    dsimp only
    rw [writes.offset, done]
    rfl
  · unfold PrintBuffer.blocks
    rw [here]
    rfl

/-- Bytes behind the text, and the offset after them. -/
theorem store_advance {text : List UInt8} {depth : Nat} {p : PrintBuffer}
    (writes : Writes text depth p) (bytes : List UInt8)
    (fits : text.length + bytes.length < p.length) :
    ∃ next, p.store bytes = .ok { p with buffer := some next } ∧
      Kept p { p with buffer := some next } ∧
      ∀ depth', Writes (text ++ bytes) depth' { p with
        buffer := some next
        offset := p.offset + bytes.length
        depth := depth' } := by
  obtain ⟨next, done, length, known, kept⟩ := store_ok writes bytes fits.le
  refine ⟨next, done, kept, fun depth' => ⟨⟨next, rfl, length, known⟩, ?_, ?_,
    writes.small, rfl⟩⟩
  · dsimp only
    rw [writes.offset, List.length_append]
  · exact .inl (by
      dsimp only
      rw [List.length_append]
      exact fits)

/-- Bytes and the terminator behind the text. -/
theorem store_wrote {text : List UInt8} {depth : Nat} {p : PrintBuffer}
    (writes : Writes text depth p) (bytes : List UInt8)
    (fits : text.length + bytes.length + 2 ≤ p.length) :
    ∃ next, p.store (bytes ++ [0]) = .ok { p with buffer := some next } ∧
      Kept p { p with buffer := some next } ∧
      next.length = p.length ∧ text ++ bytes ++ [0] <+: next ∧
      Wrote text bytes depth { p with buffer := some next } := by
  obtain ⟨next, done, length, known, kept⟩ := store_ok writes (bytes ++ [0])
    (by
      rw [List.length_append, List.length_singleton]
      omega)
  rw [← List.append_assoc] at known
  exact ⟨next, done, kept, length, known, ⟨⟨next, rfl, length, known⟩,
    ⟨[], bytes, rfl, by rw [List.append_nil]; exact writes.offset⟩, fits,
    writes.small, writes.depth⟩⟩

/-- `update_offset` moves the offset to the terminator. -/
theorem updateOffset_writes {text more : List UInt8} {depth : Nat}
    {p : PrintBuffer} (wrote : Wrote text more depth p)
    (cString : (0 : UInt8) ∉ more) :
    ∃ q, updateOffset p = .ok q ∧ Kept p q ∧
      Writes (text ++ more) depth q ∧ q.buffer = p.buffer := by
  obtain ⟨memory, here, length, known⟩ := wrote.memory
  obtain ⟨some_, rest, rfl, offset⟩ := wrote.offset
  have absent : (0 : UInt8) ∉ rest := fun inside =>
    cString (List.mem_append_right _ inside)
  rw [← List.append_assoc] at known
  have found := lengthUpTo_front Stop.outOfBounds absent known
  have longer := known.length_le
  rw [List.length_append, List.length_append, List.length_singleton] at longer
  refine ⟨{ p with offset := p.offset + rest.length }, ?_,
    ⟨rfl, rfl, rfl, rfl, rfl, rfl⟩, ⟨⟨memory, here, length, ?_⟩, ?_, ?_,
    wrote.small, wrote.depth⟩, rfl⟩
  · unfold updateOffset
    rw [here]
    dsimp only
    rw [offset, found]
    rfl
  · rw [← List.append_assoc]
    exact (List.prefix_append _ [0]).trans known
  · dsimp only
    rw [offset, ← List.append_assoc]
    exact List.length_append.symm
  · refine .inl ?_
    dsimp only
    rw [← List.append_assoc, List.length_append]
    omega

/-- The end of a function that wrote its piece. -/
theorem prints_done {needs : Nat} {good : PrintBuffer → Prop}
    {p q : PrintBuffer} (kept : Kept p q) (done : good q) :
    Prints p needs good (true, q) :=
  ⟨kept, fun _ => done, fun no => by cases no⟩

theorem printWord_prints {text word : List UInt8} {depth : Nat}
    {p : PrintBuffer} (writes : Writes text depth p) :
    Gives (fun _ => False)
      (Prints p (text.length + word.length + 2) (Wrote text word depth))
      (printWord word p) := by
  unfold printWord
  refine ensureThen_prints writes (.inl (by omega)) fun q _ after room => ?_
  obtain ⟨next, done, keeps, _, _, wrote⟩ :=
    store_wrote after word (by omega)
  rw [done]
  exact prints_done keeps wrote

/-- `sprintf` writes a short text without a terminator in it. -/
structure SprintfShort (libc : Libc D) (d : D) : Prop where
  short15 : (libc.sprintf15 d).length ≤ 25
  short17 : (libc.sprintf17 d).length ≤ 25
  cString15 : (0 : UInt8) ∉ libc.sprintf15 d
  cString17 : (0 : UInt8) ∉ libc.sprintf17 d

/-- A digit of a number. -/
def IsDigit (byte : UInt8) : Prop :=
  ascii '0' ≤ byte ∧ byte ≤ ascii '9'

instance (byte : UInt8) : Decidable (IsDigit byte) :=
  inferInstanceAs (Decidable (_ ∧ _))

theorem isDigit_of_char {character : Char} (digit : character.isDigit = true) :
    IsDigit (ascii character) := by
  have range := Char.isDigit_iff_toNat.mp digit
  have first : '0'.toNat = 48 := rfl
  have last : '9'.toNat = 57 := rfl
  rw [first, last] at range
  have byte : (ascii character).toNat = character.toNat := by
    unfold ascii
    rw [UInt8.toNat_ofNat']
    omega
  have low : (ascii '0').toNat = 48 := rfl
  have high : (ascii '9').toNat = 57 := rfl
  constructor
  · rw [UInt8.le_iff_toNat_le]
    omega
  · rw [UInt8.le_iff_toNat_le]
    omega

/-- The decimal digits of a number. -/
theorem isDigit_toDigits {number : Nat} {byte : UInt8}
    (member : byte ∈ (Nat.toDigits 10 number).map ascii) : IsDigit byte := by
  obtain ⟨character, inside, rfl⟩ := List.mem_map.mp member
  exact isDigit_of_char (Nat.isDigit_of_mem_toDigits (by decide) (by decide)
    inside)

/-- A decimal number is a sign and digits. -/
theorem mem_formatInt {number : Int} {byte : UInt8}
    (member : byte ∈ formatInt number) : byte = ascii '-' ∨ IsDigit byte := by
  unfold formatInt at member
  split_ifs at member
  · exact (List.mem_cons.mp member).imp id isDigit_toDigits
  · exact .inr (isDigit_toDigits member)

theorem length_formatInt {number : Int} (low : intMin ≤ number)
    (high : number ≤ intMax) : (formatInt number).length ≤ 11 := by
  have digits : (Nat.toDigits 10 number.natAbs).length ≤ 10 := by
    rw [Nat.length_toDigits_le_iff (by decide) (by decide)]
    unfold intMin at low
    unfold intMax at high
    omega
  unfold formatInt
  split_ifs
  · rw [List.length_cons, List.length_map]
    omega
  · rw [List.length_map]
    omega

theorem numberText_short {valueint : Int} {d : D} (low : intMin ≤ valueint)
    (high : valueint ≤ intMax) (short : SprintfShort libc d) :
    (numberText libc valueint d).length ≤ 25 ∧
      (0 : UInt8) ∉ numberText libc valueint d := by
  unfold numberText
  split_ifs
  · decide
  · have length := length_formatInt low high
    refine ⟨by omega, fun member => ?_⟩
    rcases mem_formatInt member with sign | ⟨first, _⟩
    · exact absurd sign (by decide)
    · exact absurd first (by decide)
  · dsimp only
    split
    · exact ⟨short.short17, short.cString17⟩
    · split_ifs
      · exact ⟨short.short15, short.cString15⟩
      · exact ⟨short.short17, short.cString17⟩

theorem printNumber_prints {text : List UInt8} {depth : Nat}
    {p : PrintBuffer} {valueint : Int} {d : D} (writes : Writes text depth p)
    (short : (numberText libc valueint d).length ≤ 25) :
    Gives (fun _ => False)
      (Prints p (text.length + (numberText libc valueint d).length + 2)
        (Wrote text (numberText libc valueint d) depth))
      (printNumber libc valueint d p) := by
  unfold printNumber
  dsimp only
  rw [if_neg (by omega)]
  refine ensureThen_prints writes (.inl (by omega)) fun q _ after room => ?_
  obtain ⟨next, done, keeps, length, known, wrote⟩ :=
    store_wrote after (numberText libc valueint d) (by omega)
  rw [done]
  refine prints_done ⟨rfl, rfl, rfl, rfl, rfl, keeps.live⟩ ⟨⟨next, rfl, length,
    known⟩, ⟨_, [], (List.append_nil _).symm, ?_⟩, wrote.room, after.small,
    after.depth⟩
  rw [List.length_append]
  exact congrArg (· + _) after.offset

/-! ## Strings -/

/-- A byte that stands for itself. -/
theorem escapeLetter_plain {byte : UInt8}
    (plain : 31 < byte ∧ byte ≠ quote ∧ byte ≠ backslash) :
    escapeLetter byte = none := by
  obtain ⟨visible, notQuote, notSlash⟩ := plain
  have other (control : UInt8) (low : control ≤ 31) : byte ≠ control := by
    rintro rfl
    exact absurd visible (UInt8.not_lt.mpr low)
  unfold escapeLetter
  rw [if_neg (not_or.mpr ⟨notQuote, notSlash⟩), if_neg (other 8 (by decide)),
    if_neg (other 12 (by decide)), if_neg (other 10 (by decide)),
    if_neg (other 13 (by decide)), if_neg (other 9 (by decide))]

theorem control_of_escaped {byte : UInt8}
    (escaped : ¬ (31 < byte ∧ byte ≠ quote ∧ byte ≠ backslash))
    (noLetter : escapeLetter byte = none) : byte < 32 := by
  have notQuote : byte ≠ quote := by
    rintro rfl
    exact absurd noLetter (by decide)
  have notSlash : byte ≠ backslash := by
    rintro rfl
    exact absurd noLetter (by decide)
  have low : ¬ 31 < byte := fun visible =>
    escaped ⟨visible, notQuote, notSlash⟩
  rw [UInt8.lt_iff_toNat_lt] at low ⊢
  have one : (31 : UInt8).toNat = 31 := rfl
  have two : (32 : UInt8).toNat = 32 := rfl
  omega

theorem length_escapeByte (byte : UInt8) :
    (escapeByte byte).length = 1 +
      if (escapeLetter byte).isSome then 1 else if byte < 32 then 5 else 0 := by
  unfold escapeByte
  by_cases plain : 31 < byte ∧ byte ≠ quote ∧ byte ≠ backslash
  · have notLow : ¬ byte < 32 := by
      have visible := plain.1
      rw [UInt8.lt_iff_toNat_lt] at visible ⊢
      have one : (31 : UInt8).toNat = 31 := rfl
      have two : (32 : UInt8).toNat = 32 := rfl
      omega
    rw [if_pos plain, escapeLetter_plain plain, if_neg (by decide),
      if_neg notLow]
    rfl
  · rw [if_neg plain]
    cases letter : escapeLetter byte with
    | some letter => rfl
    | none =>
        rw [if_neg (by decide), if_pos (control_of_escaped plain letter)]
        rfl

theorem length_escaped (input : List UInt8) :
    (input.flatMap escapeByte).length =
      input.length + escapeCharacters input := by
  induction input with
  | nil => rfl
  | cons byte rest ih =>
      rw [List.flatMap_cons, List.length_append, ih, length_escapeByte,
        escapeCharacters, List.length_cons]
      omega

/-- The loop writes the escaped bytes behind the known ones. -/
theorem escapeLoop_ok (input : List UInt8) :
    ∀ {front memory : List UInt8}, front <+: memory →
      front.length + (input.flatMap escapeByte).length + 1 ≤ memory.length →
      ∃ next, escapeLoop input front.length memory = .ok next ∧
        next.length = memory.length ∧
        front ++ input.flatMap escapeByte <+: next := by
  induction input with
  | nil =>
      intro front memory known _
      exact ⟨memory, rfl, rfl, by simpa using known⟩
  | cons byte rest ih =>
      intro front memory known room
      rw [List.flatMap_cons, List.length_append] at room
      have onward {piece next : List UInt8}
          (start : front ++ piece <+: next) (same : next.length = memory.length)
          (sized : escapeByte byte = piece) :
          ∃ last, escapeLoop rest (front.length + piece.length) next =
              .ok last ∧ last.length = memory.length ∧
            front ++ (byte :: rest).flatMap escapeByte <+: last := by
        rw [sized] at room
        obtain ⟨last, done, length, start⟩ := ih start (by
          rw [List.length_append]
          omega)
        rw [List.length_append] at done
        refine ⟨last, done, length.trans same, ?_⟩
        rw [List.flatMap_cons, sized, ← List.append_assoc]
        exact start
      unfold escapeLoop
      by_cases plain : 31 < byte ∧ byte ≠ quote ∧ byte ≠ backslash
      · have sized : escapeByte byte = [byte] := if_pos plain
        rw [sized, List.length_singleton] at room
        obtain ⟨next, done, same, start⟩ := store_front Stop.outOfBounds
          [byte] known (by rw [List.length_singleton]; omega)
        rw [if_pos plain, done]
        exact onward start same sized
      · rw [if_neg plain]
        cases found : escapeLetter byte with
        | some letter =>
            have sized : escapeByte byte = [backslash, letter] := by
              rw [escapeByte, if_neg plain, found]
            rw [sized, List.length_cons, List.length_singleton] at room
            obtain ⟨next, done, same, start⟩ := store_front Stop.outOfBounds
              [backslash] known (by rw [List.length_singleton]; omega)
            obtain ⟨last, more, also, both⟩ := store_front Stop.outOfBounds
              [letter] start (by
                rw [List.length_append, List.length_singleton,
                  List.length_singleton]
                omega)
            rw [List.length_append, List.length_singleton] at more
            rw [List.append_assoc] at both
            rw [done]
            simp only [bind, Except.bind]
            rw [more]
            exact onward both (also.trans same) sized
        | none =>
            have sized : escapeByte byte = backslash :: formatUnicode byte := by
              rw [escapeByte, if_neg plain, found]
            have six : (backslash :: formatUnicode byte).length = 6 := rfl
            rw [sized, six] at room
            obtain ⟨next, done, same, start⟩ := store_front Stop.outOfBounds
              [backslash] known (by rw [List.length_singleton]; omega)
            obtain ⟨last, more, also, both⟩ := store_front Stop.outOfBounds
              (formatUnicode byte ++ [0]) start (by
                rw [List.length_append, List.length_append]
                change front.length + 1 + (5 + 1) ≤ _
                omega)
            rw [List.length_append, List.length_singleton] at more
            rw [done]
            simp only [bind, Except.bind]
            rw [more]
            -- the terminator of `sprintf` is overwritten later
            have kept : front ++ backslash :: formatUnicode byte <+: last := by
              refine List.IsPrefix.trans ⟨[0], ?_⟩ both
              simp
            exact onward kept (also.trans same) sized

/-- The literal of a string needs the bytes of its length. -/
theorem length_renderString (string : List UInt8) :
    (renderString (some string)).length =
      string.length + escapeCharacters string + 2 := by
  rw [renderString, List.length_cons, List.length_append, Option.getD_some,
    length_escaped]
  rfl

theorem escapeCharacters_zero {input : List UInt8}
    (none_ : escapeCharacters input = 0) :
    input.flatMap escapeByte = input := by
  induction input with
  | nil => rfl
  | cons byte rest ih =>
      rw [escapeCharacters, Nat.add_eq_zero_iff] at none_
      have one := length_escapeByte byte
      rw [none_.1] at one
      rw [List.flatMap_cons, ih none_.2]
      unfold escapeByte at one ⊢
      split_ifs at one ⊢ with plain
      · rfl
      · split at one <;> simp [formatUnicode] at one

theorem printEscaped_prints {text input : List UInt8} {depth : Nat}
    {p : PrintBuffer} (writes : Writes text depth p)
    (room : text.length + (renderString (some input)).length + 2 ≤ p.length) :
    Gives (fun _ => False)
      (Prints p (text.length + (renderString (some input)).length + 2)
        (Wrote text (renderString (some input)) depth))
      (printEscaped input (input.length + escapeCharacters input) p) := by
  have length := length_renderString input
  have escaped := length_escaped input
  obtain ⟨first, done, same, start, kept⟩ := store_ok writes [quote]
    (by
      rw [List.length_singleton]
      omega)
  obtain ⟨second, looped, also, middle⟩ := escapeLoop_ok input start (by
    rw [List.length_append, List.length_singleton]
    omega)
  obtain ⟨third, ended, last, whole⟩ := store_front Stop.outOfBounds [quote, 0]
    middle (by
      rw [List.length_append, List.length_append, List.length_singleton]
      change _ + 2 ≤ _
      omega)
  rw [List.length_append, List.length_singleton] at looped
  rw [List.length_append, List.length_append, List.length_singleton, escaped,
    Nat.add_assoc, Nat.add_comm 1] at ended
  unfold printEscaped
  rw [done]
  simp only [bind, Except.bind]
  rw [writes.offset, looped]
  dsimp only
  rw [ended]
  refine prints_done ⟨rfl, rfl, rfl, rfl, rfl, kept.live⟩ ⟨⟨third, rfl,
    last.trans (also.trans same), ?_⟩,
    ⟨[], _, rfl, (congrArg List.length (List.append_nil text)).symm⟩, room,
    writes.small, writes.depth⟩
  have parts : text ++ renderString (some input) ++ [0] =
      text ++ [quote] ++ input.flatMap escapeByte ++ [quote, 0] := by
    simp [renderString]
  rw [parts]
  exact whole

/-- `print_string_ptr` writes the literal of its string. -/
theorem printStringPtr_prints {text : List UInt8} {depth : Nat}
    {p : PrintBuffer} (string : Option (List UInt8))
    (writes : Writes text depth p) :
    Gives (fun _ => False)
      (Prints p (text.length + (renderString string).length + 2)
        (Wrote text (renderString string) depth))
      (printStringPtr string p) := by
  unfold printStringPtr
  cases string with
  | none =>
      refine ensureThen_prints writes (.inl (by
        change _ ≤ text.length + 2 + 2
        omega)) fun q _ after room => ?_
      obtain ⟨next, done, keeps, _, _, wrote⟩ :=
        store_wrote after [quote, quote] (by
          change text.length + 2 + 2 ≤ _
          omega)
      rw [show [quote, quote, 0] = [quote, quote] ++ [(0 : UInt8)] from rfl,
        done]
      exact prints_done keeps wrote
  | some input =>
      have length := length_renderString input
      dsimp only
      refine ensureThen_prints writes (.inl (by omega))
        fun q _ after room => ?_
      refine Gives.ite (fun none_ => ?_) fun _ => ?_
      · have parts : renderString (some input) =
            quote :: (input ++ [quote]) := by
          rw [renderString, Option.getD_some, escapeCharacters_zero none_]
        rw [none_] at length room
        obtain ⟨next, done, keeps, _, _, wrote⟩ :=
          store_wrote after (renderString (some input)) (by omega)
        rw [show quote :: (input ++ [quote, 0]) =
            renderString (some input) ++ [0] by rw [parts]; simp, done]
        exact prints_done keeps wrote
      · exact printEscaped_prints after (by omega)

end Dnvme.Json
