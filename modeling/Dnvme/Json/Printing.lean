import Dnvme.Json.Render

/-!
# Printing of JSON text

Every part of the printer writes what the text of a tree has for the part.
From that follows what the entry points do, with memory that the printer
allocates and with memory of the caller.
-/

namespace Dnvme.Json

open Dnvme.Nvme
open Dnvme.Lib.Outcomes
open Dnvme.Lib.FrontFilled

variable {D : Type} {libc : Libc D}

/-! ## Trees -/

/-- What holds of a node when it holds of its chain holds of every tree. -/
theorem JsonNode.tree_induction {node : JsonNode D → Prop}
    {chain : List (JsonNode D) → Prop}
    (whole : ∀ type valuestring valueint valuedouble string child,
      chain child →
        node ⟨type, valuestring, valueint, valuedouble, string, child⟩)
    (empty : chain [])
    (longer : ∀ item next, node item → chain next → chain (item :: next)) :
    ∀ item, node item :=
  @JsonNode.rec D node chain whole empty longer

mutual

/-- The strings of a tree have no terminator in them, and its numbers are
integers of the right size with a short text. -/
def JsonNode.Proper (libc : Libc D) : JsonNode D → Prop
  | ⟨type, valuestring, valueint, valuedouble, string, child⟩ =>
      (∀ text ∈ valuestring, (0 : UInt8) ∉ text) ∧
        (∀ name ∈ string, (0 : UInt8) ∉ name) ∧
        (type % 256 = cJsonNumber → intMin ≤ valueint ∧ valueint ≤ intMax ∧
          SprintfShort libc valuedouble) ∧ ProperChain libc child

/-- The same for a chain. -/
def ProperChain (libc : Libc D) : List (JsonNode D) → Prop
  | [] => True
  | item :: next => item.Proper libc ∧ ProperChain libc next

end

/-! ## Texts without a terminator -/

theorem hexChar_ne_zero {digit : Nat} (small : digit < 16) :
    hexChar digit ≠ 0 := by
  interval_cases digit <;> decide

theorem zero_notMem_escapeByte (byte : UInt8) :
    (0 : UInt8) ∉ escapeByte byte := by
  unfold escapeByte
  by_cases plain : 31 < byte ∧ byte ≠ quote ∧ byte ≠ backslash
  · rw [if_pos plain, List.mem_singleton]
    rintro same
    rw [← same] at plain
    exact absurd plain.1 (by decide)
  · rw [if_neg plain]
    cases letter : escapeLetter byte with
    | some letter' =>
        dsimp only
        unfold escapeLetter at letter
        split_ifs at letter with isMark <;> cases letter
        · rcases isMark with mark | mark <;> rw [mark] <;> decide
        all_goals decide
    | none =>
        have size := UInt8.toNat_lt byte
        have high := hexChar_ne_zero (show byte.toNat / 16 < 16 by omega)
        have low := hexChar_ne_zero (show byte.toNat % 16 < 16 by omega)
        have letters : (0 : UInt8) ≠ backslash ∧ (0 : UInt8) ≠ ascii 'u' ∧
            (0 : UInt8) ≠ ascii '0' := by decide
        simp only [formatUnicode, List.mem_cons, List.not_mem_nil, or_false,
          not_or]
        exact ⟨letters.1, letters.2.1, letters.2.2, letters.2.2, high.symm,
          low.symm⟩

theorem zero_notMem_renderString (string : Option (List UInt8)) :
    (0 : UInt8) ∉ renderString string := by
  unfold renderString
  rw [List.mem_cons, List.mem_append, List.mem_flatMap, List.mem_singleton]
  rintro (mark | ⟨byte, _, inside⟩ | mark)
  · exact absurd mark (by decide)
  · exact zero_notMem_escapeByte byte inside
  · exact absurd mark (by decide)

theorem zero_notMem_whenFormatted {format : Bool} {bytes : List UInt8}
    (absent : (0 : UInt8) ∉ bytes) :
    (0 : UInt8) ∉ whenFormatted format bytes := by
  unfold whenFormatted
  split
  · exact absent
  · exact List.not_mem_nil

theorem zero_notMem_tabs (format : Bool) (depth : Nat) :
    (0 : UInt8) ∉ tabs format depth :=
  zero_notMem_whenFormatted fun member =>
    absurd (List.eq_of_mem_replicate member) (by decide)

theorem renderElements_cons {format : Bool} {item : JsonNode D}
    {next : List (JsonNode D)} {depth : Nat} {out : List UInt8} :
    renderElements libc format (item :: next) depth = some out ↔
      ∃ text others, render libc format item depth = some text ∧
        renderElements libc format next depth = some others ∧
        out = text ++ (elementMark format next ++ others) := by
  rw [renderElements]
  cases render libc format item depth with
  | none => simp
  | some text =>
      cases renderElements libc format next depth with
      | none => simp
      | some others =>
          refine ⟨fun done => ⟨text, others, rfl, rfl,
            (Option.some.inj done).symm⟩, ?_⟩
          rintro ⟨_, _, one, rest, same⟩
          cases one
          cases rest
          exact congrArg some same.symm

theorem renderMembers_cons {format : Bool} {item : JsonNode D}
    {next : List (JsonNode D)} {depth : Nat} {out : List UInt8} :
    renderMembers libc format (item :: next) depth = some out ↔
      ∃ text others, render libc format item depth = some text ∧
        renderMembers libc format next depth = some others ∧
        out = memberFront format item.string depth ++
          (text ++ (memberMark format next ++ others)) := by
  rw [renderMembers]
  cases render libc format item depth with
  | none => simp
  | some text =>
      cases renderMembers libc format next depth with
      | none => simp
      | some others =>
          refine ⟨fun done => ⟨text, others, rfl, rfl,
            (Option.some.inj done).symm⟩, ?_⟩
          rintro ⟨_, _, one, rest, same⟩
          cases one
          cases rest
          exact congrArg some same.symm

/-- What a part of a tree is printed as has no terminator. -/
def CString (text : Option (List UInt8)) : Prop :=
  ∀ out, text = some out → (0 : UInt8) ∉ out

theorem zero_notMem_elementMark (format : Bool) (next : List (JsonNode D)) :
    (0 : UInt8) ∉ elementMark format next := by
  unfold elementMark
  split
  · exact List.not_mem_nil
  · rw [List.mem_cons, not_or]
    exact ⟨by decide, zero_notMem_whenFormatted (by decide)⟩

theorem zero_notMem_memberMark (format : Bool) (next : List (JsonNode D)) :
    (0 : UInt8) ∉ memberMark format next := by
  unfold memberMark
  rw [List.mem_append, not_or]
  refine ⟨?_, zero_notMem_whenFormatted (by decide)⟩
  split
  · exact List.not_mem_nil
  · decide

theorem zero_notMem_memberFront (format : Bool) (name : Option (List UInt8))
    (depth : Nat) : (0 : UInt8) ∉ memberFront format name depth := by
  unfold memberFront
  rw [List.mem_append, List.mem_append, List.mem_cons, not_or, not_or, not_or]
  exact ⟨zero_notMem_tabs _ _, zero_notMem_renderString _, by decide,
    zero_notMem_whenFormatted (by decide)⟩

/-- The text of a tree has no terminator in it. -/
theorem cString_render {format : Bool} (node : JsonNode D) :
    node.Proper libc → ∀ depth, CString (render libc format node depth) := by
  refine @JsonNode.tree_induction D
    (fun node => node.Proper libc →
      ∀ depth, CString (render libc format node depth))
    (fun chain => ProperChain libc chain → ∀ depth,
      CString (renderElements libc format chain depth) ∧
        CString (renderMembers libc format chain depth)) ?_ ?_ ?_ node
  · intro type valuestring valueint valuedouble string child inside proper depth
    obtain ⟨texts, _, numbers, proper⟩ := proper
    obtain ⟨elements, members⟩ := inside proper (depth + 1)
    rintro out done
    rw [render] at done
    split_ifs at done with _ _ _ isNumber
    · cases done
      decide
    · cases done
      decide
    · cases done
      decide
    · cases done
      obtain ⟨low, high, short⟩ := numbers isNumber
      exact (numberText_short low high short).2
    · exact texts out done
    · cases done
      exact zero_notMem_renderString _
    · obtain ⟨text, one, rfl⟩ := Option.map_eq_some_iff.mp done
      have marks : (0 : UInt8) ≠ ascii '[' ∧ (0 : UInt8) ≠ ascii ']' := by
        decide
      have := elements _ one
      simp_all
    · obtain ⟨text, one, rfl⟩ := Option.map_eq_some_iff.mp done
      have marks : (0 : UInt8) ≠ ascii '\x7b' ∧ (0 : UInt8) ≠ ascii '\x7d' := by
        decide
      have line : (0 : UInt8) ∉ whenFormatted format [10] :=
        zero_notMem_whenFormatted (by decide)
      have margin := zero_notMem_tabs format depth
      have := members _ one
      simp_all
  · intro _ depth
    constructor
    · rintro out done
      rw [renderElements] at done
      cases done
      exact List.not_mem_nil
    · rintro out done
      rw [renderMembers] at done
      cases done
      exact List.not_mem_nil
  · intro item next one rest proper depth
    obtain ⟨here, after⟩ := proper
    obtain ⟨elements, members⟩ := rest after depth
    constructor
    · intro out done
      obtain ⟨text, others, first, more, rfl⟩ := renderElements_cons.mp done
      rw [List.mem_append, List.mem_append, not_or, not_or]
      exact ⟨one here depth _ first, zero_notMem_elementMark _ _,
        elements _ more⟩
    · intro out done
      obtain ⟨text, others, first, more, rfl⟩ := renderMembers_cons.mp done
      rw [List.mem_append, List.mem_append, List.mem_append, not_or, not_or,
        not_or]
      exact ⟨zero_notMem_memberFront _ _ _, one here depth _ first,
        zero_notMem_memberMark _ _, members _ more⟩

/-! ## Steps of the printer -/

theorem Prints.before {needs : Nat} {good : PrintBuffer → Prop}
    {p q : PrintBuffer} {done : Bool × PrintBuffer} (kept : Kept p q)
    (after : Prints q needs good done) : Prints p needs good done := by
  obtain ⟨keeps, yes, no⟩ := after
  rw [kept.capacity, kept.granted] at no
  exact ⟨kept.trans keeps, yes, no⟩

/-- The printer goes on after a part that it wrote. -/
theorem prints_bind {needs : Nat} {mid good : PrintBuffer → Prop}
    {p : PrintBuffer} {first : Run (Bool × PrintBuffer)}
    {rest : Bool × PrintBuffer → Run (Bool × PrintBuffer)}
    (start : Gives (fun _ => False) (Prints p needs mid) first)
    (onward : ∀ q, Kept p q → mid q →
      Gives (fun _ => False) (Prints q needs good) (rest (true, q)))
    (stop : ∀ q, rest (false, q) = pure (false, q)) :
    Gives (fun _ => False) (Prints p needs good) (first >>= rest) := by
  refine start.bind ?_
  rintro ⟨done, q⟩ ⟨kept, yes, no⟩
  cases done with
  | true => exact (onward q kept (yes rfl)).mono fun _ => Prints.before kept
  | false =>
      rw [stop]
      exact ⟨kept, fun done => (by cases done), no⟩

/-- The offset is moved behind a part that was written. -/
theorem updateOffset_bind {text more : List UInt8} {depth needs : Nat}
    {good : PrintBuffer → Prop} {p : PrintBuffer}
    {next : PrintBuffer → Run (Bool × PrintBuffer)}
    (wrote : Wrote text more depth p) (absent : (0 : UInt8) ∉ more)
    (onward : ∀ q, Kept p q → Writes (text ++ more) depth q →
      Gives (fun _ => False) (Prints q needs good) (next q)) :
    Gives (fun _ => False) (Prints p needs good) (updateOffset p >>= next) := by
  obtain ⟨q, done, kept, writes, _⟩ := updateOffset_writes wrote absent
  rw [done]
  exact (onward q kept writes).mono fun _ => Prints.before kept

/-- The buffer with other memory, and with the offset moved on. -/
def PrintBuffer.moved (p : PrintBuffer) (memory : List UInt8)
    (size depth : Nat) : PrintBuffer :=
  { p with
    buffer := some memory
    offset := p.offset + size
    depth := depth }

theorem Writes.atDepth {text : List UInt8} {depth other : Nat} {p : PrintBuffer}
    (writes : Writes text depth p) (same : depth = other) :
    Writes text other p :=
  same ▸ writes

/-- Bytes are written for which there is room, and the printer goes on. -/
theorem store_bind {text bytes : List UInt8} {depth needs : Nat}
    {good : PrintBuffer → Prop} {p : PrintBuffer}
    {next : PrintBuffer → Run (Bool × PrintBuffer)} (depth' : Nat)
    (writes : Writes text depth p)
    (fits : text.length + bytes.length < p.length)
    (onward : ∀ memory, Kept p (p.moved memory bytes.length depth') →
      Writes (text ++ bytes) depth' (p.moved memory bytes.length depth') →
      Gives (fun _ => False)
        (Prints (p.moved memory bytes.length depth') needs good)
        (next { p with buffer := some memory })) :
    Gives (fun _ => False) (Prints p needs good)
      (p.store bytes >>= next) := by
  obtain ⟨memory, done, kept, after⟩ := store_advance writes bytes fits
  rw [done]
  have moved : Kept p (p.moved memory bytes.length depth') :=
    ⟨rfl, rfl, rfl, rfl, rfl, kept.live⟩
  exact (onward memory moved (after depth')).mono fun _ => Prints.before moved

/-- Bytes between two parts. -/
theorem printBetween_prints {text bytes : List UInt8} {depth needs : Nat}
    {good : PrintBuffer → Prop} {p : PrintBuffer}
    {next : PrintBuffer → Run (Bool × PrintBuffer)}
    (writes : Writes text depth p)
    (least : text.length + bytes.length + 2 ≤ needs ∨ p.capacity < needs)
    (onward : ∀ q, Kept p q → Writes (text ++ bytes) depth q →
      Gives (fun _ => False) (Prints q needs good) (next q)) :
    Gives (fun _ => False) (Prints p needs good)
      (printBetween bytes p next) := by
  unfold printBetween
  refine ensureThen_prints writes (by omega) fun q kept after room => ?_
  obtain ⟨memory, done, length, known, keeps⟩ :=
    store_ok after (bytes ++ [0]) (by
      rw [List.length_append, List.length_singleton]
      omega)
  rw [done]
  have moved : Kept q { q with
      buffer := some memory, offset := q.offset + bytes.length } :=
    ⟨rfl, rfl, rfl, rfl, rfl, keeps.live⟩
  have start : text ++ bytes <+: memory := by
    refine List.IsPrefix.trans ⟨[0], ?_⟩ known
    rw [List.append_assoc]
  refine (onward _ (kept.trans moved) ⟨⟨memory, rfl, length, start⟩, ?_, ?_,
    after.small, after.depth⟩).mono fun _ => Prints.before moved
  · rw [List.length_append]
    exact congrArg (· + _) after.offset
  · refine .inl ?_
    rw [List.length_append]
    dsimp only
    omega

/-- A name and the colon behind it. -/
theorem printKey_prints {text : List UInt8} {depth needs : Nat}
    {good : PrintBuffer → Prop} {p : PrintBuffer}
    {next : PrintBuffer → Run (Bool × PrintBuffer)}
    (name : Option (List UInt8)) (writes : Writes text depth p)
    (least : text.length + (renderString name ++
      (ascii ':' :: whenFormatted p.format [9])).length + 1 ≤ needs ∨
        p.capacity < needs)
    (onward : ∀ q, Kept p q →
      Writes (text ++ (renderString name ++
        (ascii ':' :: whenFormatted p.format [9]))) depth q →
      Gives (fun _ => False) (Prints q needs good) (next q)) :
    Gives (fun _ => False) (Prints p needs good) (printKey name p next) := by
  rw [List.length_append, List.length_cons] at least
  unfold printKey
  refine @prints_bind _ (Wrote text (renderString name) depth) _ _ _ _
    ((printStringPtr_prints name writes).mono ?_) (fun q kept wrote => ?_)
    fun _ => rfl
  · rintro ⟨done, q⟩ ⟨kept, yes, no⟩
    refine ⟨kept, yes, fun failed granted => ?_⟩
    have := no failed granted
    omega
  · refine updateOffset_bind wrote (zero_notMem_renderString _)
      fun r keeps here => ?_
    have capacity := keeps.capacity.trans kept.capacity
    dsimp only
    rw [keeps.format.trans kept.format]
    refine ensureThen_prints here (by
      rw [List.length_append, List.length_cons]
      omega) fun s more after room => ?_
    refine store_bind s.depth after (by omega) fun memory last done => ?_
    rw [List.append_assoc] at done
    exact onward _ (kept.trans (keeps.trans (more.trans last)))
      (done.atDepth after.depth)

/-- The start of a line of an object. -/
theorem printName_prints {text : List UInt8} {depth needs : Nat}
    {good : PrintBuffer → Prop} {p : PrintBuffer}
    {next : PrintBuffer → Run (Bool × PrintBuffer)}
    (name : Option (List UInt8)) (writes : Writes text depth p)
    (least : text.length + (memberFront p.format name depth).length + 1 ≤
      needs ∨ p.capacity < needs)
    (onward : ∀ q, Kept p q →
      Writes (text ++ memberFront p.format name depth) depth q →
      Gives (fun _ => False) (Prints q needs good) (next q)) :
    Gives (fun _ => False) (Prints p needs good) (printName name p next) := by
  unfold memberFront at least onward
  rw [List.length_append] at least
  unfold printName
  refine Gives.ite (fun formatted => ?_) fun plain => ?_
  · have margin : tabs p.format depth = List.replicate depth 9 :=
      if_pos formatted
    rw [margin] at least onward
    have length := List.length_replicate (n := depth) (a := (9 : UInt8))
    refine ensureThen_prints writes (by
      rw [writes.depth]
      omega) fun q kept after room => ?_
    rw [writes.depth] at room
    have fits : text.length + (List.replicate depth (9 : UInt8)).length <
        q.length := by
      omega
    dsimp only
    rw [after.depth]
    refine store_bind q.depth after fits fun memory keeps here => ?_
    have both := kept.trans keeps
    refine printKey_prints name (here.atDepth after.depth) ?_
      fun s more done => ?_
    · rw [both.format, List.length_append]
      have := both.capacity
      omega
    · rw [both.format, List.append_assoc] at done
      exact onward s (both.trans more) done
  · have margin : tabs p.format depth = [] := if_neg plain
    rw [margin] at least onward
    exact printKey_prints name writes (by omega) onward

/-! ## Values -/

/-- So many bytes are enough for a text, and too many when there is none. -/
def Enough (p : PrintBuffer) (text : List UInt8) (out : Option (List UInt8))
    (needs : Nat) : Prop :=
  p.capacity < needs ∨
    ∃ written, out = some written ∧ text.length + written.length + 2 ≤ needs

/-- `print_value` writes the text of a node. -/
def ValuePrints (libc : Libc D) (node : JsonNode D) : Prop :=
  ∀ (text : List UInt8) (depth needs : Nat) (p : PrintBuffer),
    Writes text depth p →
    Enough p text (render libc p.format node depth) needs →
      Gives (fun _ => False)
        (Prints p needs fun q => ∃ out,
          render libc p.format node depth = some out ∧ Wrote text out depth q)
        (printValue libc node p)

/-- A loop writes the text of a chain and goes behind it. -/
def LoopPrints
    (loop : PrintBuffer → Run (Bool × PrintBuffer))
    (rendered : Bool → Nat → Option (List UInt8)) : Prop :=
  ∀ (text : List UInt8) (depth needs : Nat) (p : PrintBuffer),
    Writes text depth p →
    Enough p text (rendered p.format depth) needs →
      Gives (fun _ => False)
        (Prints p needs fun q => ∃ out,
          rendered p.format depth = some out ∧ Writes (text ++ out) depth q)
        (loop p)

/-- Both loops on a chain. -/
def ChainPrints (libc : Libc D) (chain : List (JsonNode D)) : Prop :=
  LoopPrints (printElements libc chain)
      (fun format => renderElements libc format chain) ∧
    LoopPrints (printMembers libc chain)
      (fun format => renderMembers libc format chain)

/-- What is enough for a text that has a part is enough for the part. -/
theorem Enough.part {p q : PrintBuffer} {text front : List UInt8}
    {whole part : Option (List UInt8)} {needs : Nat}
    (enough : Enough p text whole needs) (same : q.capacity = p.capacity)
    (inside : ∀ out, whole = some out → ∃ written, part = some written ∧
      front.length + written.length ≤ text.length + out.length) :
    Enough q front part needs := by
  rcases enough with tooMuch | ⟨out, done, fits⟩
  · exact .inl (by omega)
  · obtain ⟨written, here, less⟩ := inside out done
    exact .inr ⟨written, here, by omega⟩

theorem Enough.least {p : PrintBuffer} {text : List UInt8}
    {whole : Option (List UInt8)} {needs size : Nat}
    (enough : Enough p text whole needs)
    (inside : ∀ out, whole = some out → size ≤ text.length + out.length + 2) :
    size ≤ needs ∨ p.capacity < needs := by
  rcases enough with tooMuch | ⟨out, done, fits⟩
  · exact .inr tooMuch
  · have := inside out done
    exact .inl (by omega)

theorem printElements_cons {item : JsonNode D} {next : List (JsonNode D)}
    (here : item.Proper libc) (one : ValuePrints libc item)
    (others : LoopPrints (printElements libc next)
      (fun format => renderElements libc format next)) :
    LoopPrints (printElements libc (item :: next))
      (fun format => renderElements libc format (item :: next)) := by
  intro text depth needs p writes enough
  rw [printElements]
  have first : Enough p text (render libc p.format item depth) needs := by
    refine enough.part rfl fun out done => ?_
    obtain ⟨part, others, found, _, rfl⟩ := renderElements_cons.mp done
    refine ⟨part, found, ?_⟩
    rw [List.length_append]
    omega
  refine prints_bind (one text depth needs p writes first)
    (fun q kept wrote => ?_) fun _ => rfl
  obtain ⟨part, found, wrote⟩ := wrote
  refine updateOffset_bind wrote (cString_render item here depth _ found)
    fun r keeps behind => ?_
  have both := kept.trans keeps
  have parts (out : List UInt8)
      (done : renderElements libc p.format (item :: next) depth = some out) :
      ∃ others, renderElements libc p.format next depth = some others ∧
        out = part ++ (elementMark p.format next ++ others) := by
    obtain ⟨text', others, same, rest, rfl⟩ := renderElements_cons.mp done
    cases found.symm.trans same
    exact ⟨others, rest, rfl⟩
  cases next with
  | nil =>
      rw [if_pos List.isEmpty_nil, gives_pure]
      refine prints_done (.refl r) ⟨part, ?_, behind⟩
      rw [renderElements_cons]
      exact ⟨part, [], found, rfl, (List.append_nil part).symm⟩
  | cons second more =>
      have mark : elementMark p.format (second :: more) =
          ascii ',' :: whenFormatted p.format [32] := rfl
      rw [mark] at parts
      rw [if_neg (by simp), both.format]
      refine printBetween_prints behind ?_ fun s also after => ?_
      · rw [both.capacity]
        refine enough.least fun out done => ?_
        obtain ⟨others, _, rfl⟩ := parts out done
        simp only [List.length_append]
        omega
      · have all := both.trans also
        have rest := others (text ++ part ++ _) depth needs s after (by
          rw [all.format]
          refine enough.part all.capacity fun out done => ?_
          obtain ⟨others, rest, rfl⟩ := parts out done
          refine ⟨others, rest, ?_⟩
          simp only [List.length_append]
          omega)
        refine rest.mono ?_
        rintro ⟨done, t⟩ ⟨last, yes, no⟩
        refine ⟨last, fun finished => ?_, no⟩
        obtain ⟨others, tail, wrote⟩ := yes finished
        rw [all.format] at tail
        refine ⟨_, renderElements_cons.mpr ⟨part, others, found, tail, rfl⟩, ?_⟩
        rw [mark, ← List.append_assoc, ← List.append_assoc]
        exact wrote

theorem printMembers_cons {item : JsonNode D} {next : List (JsonNode D)}
    (here : item.Proper libc) (one : ValuePrints libc item)
    (others : LoopPrints (printMembers libc next)
      (fun format => renderMembers libc format next)) :
    LoopPrints (printMembers libc (item :: next))
      (fun format => renderMembers libc format (item :: next)) := by
  intro text depth needs p writes enough
  rw [printMembers]
  refine printName_prints item.string writes ?_ fun q kept named => ?_
  · refine enough.least fun out done => ?_
    obtain ⟨part, others, _, _, rfl⟩ := renderMembers_cons.mp done
    rw [List.length_append]
    omega
  have first : Enough q (text ++ memberFront p.format item.string depth)
      (render libc q.format item depth) needs := by
    rw [kept.format]
    refine enough.part kept.capacity fun out done => ?_
    obtain ⟨part, others, found, _, rfl⟩ := renderMembers_cons.mp done
    refine ⟨part, found, ?_⟩
    simp only [List.length_append]
    omega
  refine prints_bind (one _ depth needs q named first)
    (fun r keeps wrote => ?_) fun _ => rfl
  obtain ⟨part, found, wrote⟩ := wrote
  rw [kept.format] at found
  refine updateOffset_bind wrote (cString_render item here depth _ found)
    fun s also behind => ?_
  have all := kept.trans (keeps.trans also)
  have parts (out : List UInt8)
      (done : renderMembers libc p.format (item :: next) depth = some out) :
      ∃ others, renderMembers libc p.format next depth = some others ∧
        out = memberFront p.format item.string depth ++
          (part ++ (memberMark p.format next ++ others)) := by
    obtain ⟨text', others, same, rest, rfl⟩ := renderMembers_cons.mp done
    cases found.symm.trans same
    exact ⟨others, rest, rfl⟩
  rw [all.format, show (if next.isEmpty then [] else [ascii ',']) ++
    whenFormatted p.format [10] = memberMark p.format next from rfl]
  refine printBetween_prints behind ?_
    fun t more after => ?_
  · rw [all.capacity]
    refine enough.least fun out done => ?_
    obtain ⟨others, _, rfl⟩ := parts out done
    simp only [List.length_append]
    omega
  · have whole := all.trans more
    have rest := others _ depth needs t after (by
      rw [whole.format]
      refine enough.part whole.capacity fun out done => ?_
      obtain ⟨others, rest, rfl⟩ := parts out done
      refine ⟨others, rest, ?_⟩
      simp only [List.length_append]
      omega)
    refine rest.mono ?_
    rintro ⟨done, u⟩ ⟨last, yes, no⟩
    refine ⟨last, fun finished => ?_, no⟩
    obtain ⟨others, tail, wrote⟩ := yes finished
    rw [whole.format] at tail
    refine ⟨_, renderMembers_cons.mpr ⟨part, others, found, tail, rfl⟩, ?_⟩
    rw [← List.append_assoc, ← List.append_assoc, ← List.append_assoc]
    exact wrote

/-! ## Arrays and objects -/

/-- What is written behind a part that was written belongs to the whole. -/
theorem Wrote.join {text front more : List UInt8} {depth : Nat}
    {p : PrintBuffer} (wrote : Wrote (text ++ front) more depth p) :
    Wrote text (front ++ more) depth p := by
  obtain ⟨some_, rest, rfl, offset⟩ := wrote.offset
  have room := wrote.room
  rw [List.length_append] at room
  refine ⟨?_, ⟨front ++ some_, rest, ?_, ?_⟩, ?_, wrote.small, wrote.depth⟩
  · rw [← List.append_assoc text]
    exact wrote.memory
  · rw [List.append_assoc]
  · rw [← List.append_assoc]
    exact offset
  · rw [List.length_append]
    omega

theorem printArray_prints {child : List (JsonNode D)} {text : List UInt8}
    {depth needs : Nat} {p : PrintBuffer}
    (elements : LoopPrints (printElements libc child)
      (fun format => renderElements libc format child))
    (writes : Writes text depth p)
    (enough : Enough p text
      ((renderElements libc p.format child (depth + 1)).map fun elements =>
        ascii '[' :: (elements ++ [ascii ']'])) needs) :
    Gives (fun _ => False)
      (Prints p needs fun q => ∃ out,
        (renderElements libc p.format child (depth + 1)).map (fun elements =>
          ascii '[' :: (elements ++ [ascii ']'])) = some out ∧
        Wrote text out depth q)
      (printArray (fun p => printElements libc child p) p) := by
  unfold printArray
  have parts (out : List UInt8)
      (done : (renderElements libc p.format child (depth + 1)).map
        (fun elements => ascii '[' :: (elements ++ [ascii ']'])) = some out) :
      ∃ inner, renderElements libc p.format child (depth + 1) = some inner ∧
        out.length = inner.length + 2 := by
    obtain ⟨inner, found, rfl⟩ := Option.map_eq_some_iff.mp done
    refine ⟨inner, found, ?_⟩
    rw [List.length_cons, List.length_append, List.length_singleton]
  refine ensureThen_prints writes (enough.least fun out done => by
    obtain ⟨inner, _, length⟩ := parts out done
    omega) fun q kept after room => ?_
  refine store_bind (q.depth + 1) after (by
    rw [List.length_singleton]
    omega) fun memory keeps inside => ?_
  have both := kept.trans keeps
  have loop := elements _ (q.depth + 1) needs _ inside (by
    rw [both.format, after.depth]
    refine enough.part both.capacity fun out done => ?_
    obtain ⟨inner, found, length⟩ := parts out done
    refine ⟨inner, found, ?_⟩
    rw [List.length_append, List.length_singleton]
    omega)
  refine prints_bind loop (fun r also written => ?_) fun _ => rfl
  obtain ⟨inner, found, behind⟩ := written
  rw [both.format, after.depth] at found
  have all := both.trans also
  dsimp only
  rw [if_pos rfl]
  refine ensureThen_prints behind ?_ fun s last closing room => ?_
  · rw [all.capacity]
    refine enough.least fun out done => ?_
    obtain ⟨inner', same, length⟩ := parts out done
    cases found.symm.trans same
    rw [List.length_append, List.length_append, List.length_singleton]
    omega
  · obtain ⟨next, done, done', _, _, wrote⟩ :=
      store_wrote closing [ascii ']'] (by
        rw [List.length_singleton]
        omega)
    rw [show [ascii ']', 0] = [ascii ']'] ++ [(0 : UInt8)] from rfl, done]
    have shut : Kept s { s with buffer := some next, depth := s.depth - 1 } :=
      ⟨rfl, rfl, rfl, rfl, rfl, done'.live⟩
    simp only [bind, Except.bind]
    rw [gives_pure]
    refine prints_done shut ⟨_, congrArg (Option.map _) found, ?_⟩
    have joined := wrote.join.join
    refine ⟨joined.memory, joined.offset, joined.room, joined.small, ?_⟩
    change s.depth - 1 = depth
    rw [closing.depth, after.depth]
    rfl

/-- The text of an object around the text of its members. -/
def objectText (format : Bool) (depth : Nat) (members : List UInt8) :
    List UInt8 :=
  ascii '\x7b' :: (whenFormatted format [10] ++
    (members ++ (tabs format depth ++ [ascii '\x7d'])))

theorem printObject_prints {child : List (JsonNode D)} {text : List UInt8}
    {depth needs : Nat} {p : PrintBuffer}
    (members : LoopPrints (printMembers libc child)
      (fun format => renderMembers libc format child))
    (writes : Writes text depth p)
    (enough : Enough p text
      ((renderMembers libc p.format child (depth + 1)).map
        (objectText p.format depth)) needs) :
    Gives (fun _ => False)
      (Prints p needs fun q => ∃ out,
        (renderMembers libc p.format child (depth + 1)).map
          (objectText p.format depth) = some out ∧
        Wrote text out depth q)
      (printObject (fun p => printMembers libc child p) p) := by
  have parts (out : List UInt8)
      (done : (renderMembers libc p.format child (depth + 1)).map
        (objectText p.format depth) = some out) :
      ∃ inner, renderMembers libc p.format child (depth + 1) = some inner ∧
        out.length = (whenFormatted p.format [10]).length + inner.length +
          (tabs p.format depth).length + 2 := by
    obtain ⟨inner, found, rfl⟩ := Option.map_eq_some_iff.mp done
    refine ⟨inner, found, ?_⟩
    simp only [objectText, List.length_cons, List.length_append,
      List.length_nil]
    omega
  unfold printObject
  dsimp only
  rw [List.length_cons]
  refine ensureThen_prints writes (enough.least fun out done => by
    obtain ⟨inner, _, length⟩ := parts out done
    omega) fun q kept after room => ?_
  refine store_bind (q.depth + 1) after (by
    rw [List.length_cons]
    omega) fun memory keeps inside => ?_
  have both := kept.trans keeps
  have loop := members _ (q.depth + 1) needs _ inside (by
    rw [both.format, after.depth]
    refine enough.part both.capacity fun out done => ?_
    obtain ⟨inner, found, length⟩ := parts out done
    refine ⟨inner, found, ?_⟩
    rw [List.length_append, List.length_cons]
    omega)
  refine prints_bind loop (fun r also written => ?_) fun _ => rfl
  obtain ⟨inner, found, behind⟩ := written
  rw [both.format, after.depth] at found
  have all := both.trans also
  dsimp only
  rw [if_pos rfl, all.format]
  -- the line of the brace has a tab less than the members have
  have asked : (if p.format then r.depth + 1 else 2) =
      (tabs p.format depth).length + 2 := by
    rw [behind.depth, after.depth]
    unfold tabs whenFormatted
    split
    · rw [List.length_replicate]
    · rfl
  rw [asked]
  refine ensureThen_prints behind ?_ fun s last closing room => ?_
  · rw [all.capacity]
    refine enough.least fun out done => ?_
    obtain ⟨inner', same, length⟩ := parts out done
    cases found.symm.trans same
    rw [List.length_append, List.length_append, List.length_cons]
    omega
  · have margin : whenFormatted s.format (List.replicate (s.depth - 1) 9) =
        tabs p.format depth := by
      rw [(all.trans last).format, closing.depth, after.depth]
      rfl
    obtain ⟨next, done, done', _, _, wrote⟩ :=
      store_wrote closing (tabs p.format depth ++ [ascii '\x7d']) (by
        simp only [List.length_append, List.length_cons,
          List.length_nil] at room ⊢
        omega)
    rw [margin, show tabs p.format depth ++ [ascii '\x7d', 0] =
      tabs p.format depth ++ [ascii '\x7d'] ++ [0] by simp, done]
    have shut : Kept s { s with buffer := some next, depth := s.depth - 1 } :=
      ⟨rfl, rfl, rfl, rfl, rfl, done'.live⟩
    simp only [bind, Except.bind]
    rw [gives_pure]
    refine prints_done shut ⟨_, congrArg (Option.map _) found, ?_⟩
    have joined := wrote.join.join
    rw [List.cons_append] at joined
    refine ⟨joined.memory, joined.offset, joined.room, joined.small, ?_⟩
    change s.depth - 1 = depth
    rw [closing.depth, after.depth]
    rfl

/-! ## Trees -/

/-- The text of a node is known, and is written. -/
theorem Prints.rendered {needs : Nat} {out text : List UInt8} {depth : Nat}
    {p : PrintBuffer} {run : Run (Bool × PrintBuffer)}
    (enough : Enough p text (some out) needs)
    (prints : Gives (fun _ => False)
      (Prints p (text.length + out.length + 2) (Wrote text out depth)) run) :
    Gives (fun _ => False)
      (Prints p needs fun q => ∃ written, some out = some written ∧
        Wrote text written depth q) run := by
  refine prints.mono ?_
  rintro ⟨done, q⟩ ⟨kept, yes, no⟩
  refine ⟨kept, fun finished => ⟨out, rfl, yes finished⟩, fun failed granted =>
    ?_⟩
  have := no failed granted
  rcases enough with tooMuch | ⟨_, same, fits⟩
  · exact tooMuch
  · cases same
    omega

/-- A node without a text is not printed. -/
theorem Prints.missing {needs : Nat} {text : List UInt8} {depth : Nat}
    {p : PrintBuffer} (enough : Enough p text none needs) :
    Prints p needs (fun q => ∃ written, none = some written ∧
      Wrote text written depth q) (false, p) := by
  rcases enough with tooMuch | ⟨_, same, _⟩
  · exact ⟨.refl p, fun done => (by cases done), fun _ _ => tooMuch⟩
  · cases same

theorem printRaw_prints {text : List UInt8} {depth needs : Nat}
    {p : PrintBuffer} {raw : Option (List UInt8)} (writes : Writes text depth p)
    (enough : Enough p text raw needs) :
    Gives (fun _ => False)
      (Prints p needs fun q => ∃ out, raw = some out ∧ Wrote text out depth q)
      (printRaw raw p) := by
  cases raw with
  | none => exact Prints.missing enough
  | some raw => exact Prints.rendered enough (printWord_prints writes)

theorem printNode_prints {type : Nat} {valuestring string : Option (List UInt8)}
    {valueint : Int} {valuedouble : D} {child : List (JsonNode D)}
    (inside : ChainPrints libc child)
    (numbers : type % 256 = cJsonNumber → intMin ≤ valueint ∧
      valueint ≤ intMax ∧ SprintfShort libc valuedouble) :
    ValuePrints libc
      ⟨type, valuestring, valueint, valuedouble, string, child⟩ := by
  intro text depth needs p writes enough
  rw [printValue]
  rw [render] at enough ⊢
  by_cases isNull : type % 256 = cJsonNull
  · simp only [if_pos isNull] at enough ⊢
    exact Prints.rendered enough (printWord_prints writes)
  by_cases isFalse : type % 256 = cJsonFalse
  · simp only [if_neg isNull, if_pos isFalse] at enough ⊢
    exact Prints.rendered enough (printWord_prints writes)
  simp only [if_neg isNull, if_neg isFalse] at enough ⊢
  by_cases isTrue : type % 256 = cJsonTrue
  · simp only [if_pos isTrue] at enough ⊢
    exact Prints.rendered enough (printWord_prints writes)
  by_cases isNumber : type % 256 = cJsonNumber
  · simp only [if_neg isTrue, if_pos isNumber] at enough ⊢
    obtain ⟨low, high, short⟩ := numbers isNumber
    exact Prints.rendered enough (printNumber_prints writes
      (numberText_short low high short).1)
  simp only [if_neg isTrue, if_neg isNumber] at enough ⊢
  by_cases isRaw : type % 256 = cJsonRaw
  · simp only [if_pos isRaw] at enough ⊢
    exact printRaw_prints writes enough
  by_cases isString : type % 256 = cJsonString
  · simp only [if_neg isRaw, if_pos isString] at enough ⊢
    exact Prints.rendered enough (printStringPtr_prints _ writes)
  simp only [if_neg isRaw, if_neg isString] at enough ⊢
  by_cases isArray : type % 256 = cJsonArray
  · simp only [if_pos isArray] at enough ⊢
    exact printArray_prints inside.1 writes enough
  by_cases isObject : type % 256 = cJsonObject
  · simp only [if_neg isArray, if_pos isObject] at enough ⊢
    exact printObject_prints inside.2 writes enough
  · simp only [if_neg isArray, if_neg isObject] at enough ⊢
    exact Prints.missing enough

/-- The printer writes the text of every tree. -/
theorem printValue_prints (node : JsonNode D) :
    node.Proper libc → ValuePrints libc node := by
  refine @JsonNode.tree_induction D
    (fun node => node.Proper libc → ValuePrints libc node)
    (fun chain => ProperChain libc chain → ChainPrints libc chain)
    ?_ ?_ ?_ node
  · intro type valuestring valueint valuedouble string child inside proper
    obtain ⟨_, _, numbers, proper⟩ := proper
    exact printNode_prints (inside proper) numbers
  · intro _
    constructor
    · intro text depth needs p writes _
      rw [printElements, gives_ok]
      refine prints_done (.refl p) ⟨[], rfl, ?_⟩
      rw [List.append_nil]
      exact writes
    · intro text depth needs p writes _
      rw [printMembers, gives_ok]
      refine prints_done (.refl p) ⟨[], rfl, ?_⟩
      rw [List.append_nil]
      exact writes
  · intro item next one rest proper
    obtain ⟨elements, members⟩ := rest proper.2
    exact ⟨printElements_cons proper.1 (one proper.1) elements,
      printMembers_cons proper.1 (one proper.1) members⟩

/-! ## The entry points -/

theorem writes_nothing {memory : List UInt8} {p : PrintBuffer}
    (here : p.buffer = some memory) (length : memory.length = p.length)
    (offset : p.offset = 0) (small : p.length ≤ intMax.toNat) :
    Writes [] p.depth p :=
  ⟨⟨memory, here, length, List.nil_prefix⟩, offset,
    (Nat.eq_zero_or_pos p.length).symm, small, rfl⟩

/-- The bytes that a printer needs for a node in a buffer. -/
def needed (p : PrintBuffer) (rendered : Option (List UInt8)) : Nat :=
  (rendered.map fun out => out.length + 2).getD (p.capacity + 1)

theorem enough_needed (p : PrintBuffer) (rendered : Option (List UInt8)) :
    Enough p [] rendered (needed p rendered) := by
  cases rendered with
  | none => exact .inl (Nat.lt_succ_self _)
  | some out => exact .inr ⟨out, rfl, by
      change 0 + out.length + 2 ≤ out.length + 2
      omega⟩

/-- A whole tree is printed to an empty buffer. -/
theorem printValue_outcome {node : JsonNode D} (proper : node.Proper libc)
    {p : PrintBuffer} (writes : Writes [] p.depth p) :
    ∃ done q, printValue libc node p = .ok (done, q) ∧ Kept p q ∧
      (done = true → ∃ out, render libc p.format node p.depth = some out ∧
        Wrote [] out p.depth q) ∧
      (done = false → p.Granted → ∀ out,
        render libc p.format node p.depth = some out →
          p.capacity < out.length + 2) := by
  obtain ⟨⟨done, q⟩, ran, kept, yes, no⟩ :=
    (printValue_prints node proper [] p.depth _ p writes
      (enough_needed p _)).exists_ok
  refine ⟨done, q, ran, kept, yes, fun failed granted out here => ?_⟩
  have := no failed granted
  rw [here] at this
  exact this

/-- A buffer of the caller is big enough when it has one byte more than the
text with its terminator, and in no other case. -/
theorem cJsonPrintPreallocated_eq_true_iff (libc : Libc D) (node : JsonNode D)
    (buffer : List UInt8) (format : Bool) (hooks : Heap)
    (fresh : Nat → Nat → UInt8) (proper : node.Proper libc)
    (small : buffer.length ≤ intMax.toNat) :
    ∃ done p,
      cJsonPrintPreallocated libc node buffer format hooks fresh =
        .ok (done, p) ∧
      (done = true ↔ ∃ out, render libc format node 0 = some out ∧
        out.length + 2 ≤ buffer.length) ∧
      (done = true → ∃ out memory, render libc format node 0 = some out ∧
        p.buffer = some memory ∧ memory.length = buffer.length ∧
        out ++ [0] <+: memory) := by
  unfold cJsonPrintPreallocated
  obtain ⟨done, q, ran, kept, yes, no⟩ := printValue_outcome proper
    (writes_nothing (p := {
      buffer := some buffer
      length := buffer.length
      offset := 0
      depth := 0
      noalloc := true
      format := format
      hooks := hooks
      fresh := fresh }) rfl rfl rfl small)
  have capacity := kept.capacity
  have alloc := kept.noalloc
  unfold PrintBuffer.capacity at capacity
  rw [if_pos alloc, if_pos rfl] at capacity
  refine ⟨done, q, ran, ⟨fun finished => ?_, ?_⟩, fun finished => ?_⟩
  · obtain ⟨out, here, wrote⟩ := yes finished
    have room := wrote.room
    rw [capacity, List.length_nil] at room
    exact ⟨out, here, by
      dsimp only at room
      omega⟩
  · rintro ⟨out, here, fits⟩
    by_contra failed
    have tooMuch := no (Bool.eq_false_iff.mpr failed) (fun no => (by cases no))
      out here
    unfold PrintBuffer.capacity at tooMuch
    rw [if_pos rfl] at tooMuch
    dsimp only at tooMuch
    omega
  · obtain ⟨out, here, wrote⟩ := yes finished
    obtain ⟨memory, same, length, start⟩ := wrote.memory
    exact ⟨out, memory, here, same, length.trans capacity, start⟩

/-- The tree of `[-5]`. -/
def smallArray : JsonNode Int where
  type := cJsonArray
  valuestring := none
  valueint := 0
  valuedouble := 0
  string := none
  child := [⟨cJsonNumber, none, -5, -5, none, []⟩]

theorem smallArray_proper : smallArray.Proper integerLibc :=
  ⟨fun _ no => (by cases no), fun _ no => (by cases no),
    fun isNumber => absurd isNumber (by decide),
    ⟨fun _ no => (by cases no), fun _ no => (by cases no),
      fun _ => ⟨by decide, by decide, by decide, by decide, by decide,
        by decide⟩, trivial⟩, trivial⟩

/-- Six bytes are enough for the four bytes of `[-5]`. -/
theorem cJsonPrintPreallocated_eq_true_iff_small :
    ∃ done p,
      cJsonPrintPreallocated integerLibc smallArray (List.replicate 6 7) false
        ⟨fun _ => false, 0, 0⟩ (fun _ _ => 0) = .ok (done, p) ∧
      (done = true ↔ ∃ out, render integerLibc false smallArray 0 = some out ∧
        out.length + 2 ≤ (List.replicate 6 (7 : UInt8)).length) ∧
      (done = true → ∃ out memory,
        render integerLibc false smallArray 0 = some out ∧
        p.buffer = some memory ∧
        memory.length = (List.replicate 6 (7 : UInt8)).length ∧
        out ++ [0] <+: memory) :=
  cJsonPrintPreallocated_eq_true_iff integerLibc smallArray
    (List.replicate 6 7) false ⟨fun _ => false, 0, 0⟩ (fun _ _ => 0)
    smallArray_proper (by decide)

/-- A byte less is not enough. -/
example :
    (cJsonPrintPreallocated integerLibc smallArray (List.replicate 5 7) false
      ⟨fun _ => false, 0, 0⟩ (fun _ _ => 0)).map Prod.fst = .ok false := by
  rfl

/-- The empty buffer of a printer that allocates. -/
def startBuffer (size : Nat) (format : Bool) (hooks : Heap)
    (fresh : Nat → Nat → UInt8) : PrintBuffer where
  buffer := some (freshMemory (fresh hooks.asked) [] size)
  length := size
  offset := 0
  depth := 0
  noalloc := false
  format := format
  hooks := hooks.allocate.2
  fresh := fresh

/-- What the printer does with a buffer of its own. -/
theorem printValue_allocated {node : JsonNode D} (proper : node.Proper libc)
    (size : Nat) (small : size ≤ intMax.toNat) (format : Bool) (hooks : Heap)
    (fresh : Nat → Nat → UInt8) (granted : hooks.allocate.1 = true) :
    ∃ done p, printValue libc node (startBuffer size format hooks fresh) =
        .ok (done, p) ∧
      p.hooks.live - p.blocks = hooks.live ∧ p.hooks.grants = hooks.grants ∧
      (done = true → ∃ out, render libc format node 0 = some out ∧
        Wrote [] out 0 p) ∧
      (done = false → (∀ request, hooks.grants request = true) → ∀ out,
        render libc format node 0 = some out →
          intMax.toNat < out.length + 2) := by
  obtain ⟨done, p, ran, kept, yes, no⟩ := printValue_outcome proper
    (writes_nothing (p := startBuffer size format hooks fresh) rfl
      (length_freshMemory _ _ _) rfl small)
  refine ⟨done, p, ran, ?_, kept.grants.trans (Heap.allocate_grants hooks), yes,
    fun failed all => no failed fun _ request => ?_⟩
  · have live := kept.live
    change _ = hooks.allocate.2.live - 1 at live
    rw [Heap.allocate_true granted] at live
    omega
  · change hooks.allocate.2.grants request = true
    rw [Heap.allocate_grants]
    exact all request

/-- A block is made smaller. -/
theorem reallocate_front (hooks : Heap) (fresh : Nat → Nat → UInt8)
    {text memory : List UInt8} (start : text <+: memory) :
    reallocate hooks fresh memory text.length =
      (if hooks.grants hooks.asked then some text else none,
        { hooks with asked := hooks.asked + 1 }) := by
  have all : freshMemory (fresh hooks.asked) memory text.length = text := by
    unfold freshMemory
    rw [← List.prefix_iff_eq_take.mp start,
      Nat.sub_eq_zero_of_le start.length_le, List.range_zero, List.map_nil,
      List.append_nil]
  unfold reallocate
  rw [all]
  split <;> rfl

/-- A print gives the text of the tree with a terminator, in one block, or it
gives no text and frees all that it allocated.  It never leaves its buffer,
whichever requests for memory are refused, and it gives the text when none is
and the text is not too long. -/
theorem print_outcome (libc : Libc D) (node : JsonNode D) (format : Bool)
    (hooks : Heap) (fresh : Nat → Nat → UInt8) (proper : node.Proper libc) :
    ∃ printed heap, print libc node format hooks fresh = .ok (printed, heap) ∧
      (∀ text, printed = some text → heap.live = hooks.live + 1 ∧
        ∃ out, render libc format node 0 = some out ∧ text = out ++ [0]) ∧
      (printed = none → heap.live = hooks.live ∧
        ((∀ request, hooks.grants request = true) → ∀ out,
          render libc format node 0 = some out →
            intMax.toNat < out.length + 2)) := by
  unfold print
  dsimp only
  cases granted : hooks.allocate.1 with
  | false =>
      exact ⟨none, _, rfl, fun _ no => (by cases no), fun _ =>
        ⟨Heap.allocate_false granted, fun all =>
          absurd all (Heap.allocate_refused granted)⟩⟩
  | true =>
      obtain ⟨done, p, ran, live, grants, yes, no⟩ := printValue_allocated
        proper 256 (by decide) format hooks fresh granted
      unfold startBuffer at ran
      rw [if_pos rfl, ran]
      simp only [bind, Except.bind]
      cases done with
      | false =>
          refine ⟨none, _, rfl, fun _ no => (by cases no), fun _ => ⟨?_,
            no rfl⟩⟩
          unfold PrintBuffer.blocks at live
          split_ifs at live ⊢ with here
          · exact live
          · rw [Int.sub_zero] at live
            exact live
      | true =>
          obtain ⟨out, here, wrote⟩ := yes rfl
          obtain ⟨q, moved, kept, writes, same⟩ := updateOffset_writes wrote
            (cString_render node proper 0 _ here)
          obtain ⟨memory, buffer, _, start⟩ := wrote.memory
          have offset := writes.offset
          rw [List.nil_append] at start offset
          have size : q.offset + 1 = (out ++ [0]).length := by
            rw [offset, List.length_append]
            rfl
          have count : q.hooks.live = hooks.live + 1 := by
            have := kept.live
            unfold PrintBuffer.blocks at live this
            rw [same, buffer] at this
            rw [buffer] at live
            change _ - 1 = _ at live
            omega
          rw [if_pos rfl, moved]
          dsimp only
          rw [same, buffer]
          dsimp only
          rw [size, reallocate_front q.hooks q.fresh start]
          by_cases grants' : q.hooks.grants q.hooks.asked = true
          · rw [if_pos grants']
            refine ⟨_, _, rfl, ?_, fun no => (by cases no)⟩
            rintro text found
            cases found
            exact ⟨count, out, here, rfl⟩
          · rw [if_neg grants']
            refine ⟨_, _, rfl, fun _ no => (by cases no), fun _ => ⟨?_, ?_⟩⟩
            · change q.hooks.live - 1 = hooks.live
              omega
            · rw [kept.grants, grants] at grants'
              exact fun all => absurd (all _) grants'

/-- The request for the last block is refused. -/
theorem print_outcome_refused :
    ∃ printed heap,
      print integerLibc smallArray true ⟨(· ≠ 1), 0, 3⟩ (fun _ _ => 7) =
        .ok (printed, heap) ∧
      (∀ text, printed = some text → heap.live = 3 + 1 ∧
        ∃ out, render integerLibc true smallArray 0 = some out ∧
          text = out ++ [0]) ∧
      (printed = none → heap.live = 3 ∧
        ((∀ request, decide (request ≠ 1) = true) → ∀ out,
          render integerLibc true smallArray 0 = some out →
            intMax.toNat < out.length + 2)) :=
  print_outcome integerLibc smallArray true ⟨(· ≠ 1), 0, 3⟩ (fun _ _ => 7)
    smallArray_proper

end Dnvme.Json
