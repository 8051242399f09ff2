import Dnvme.Nvme.Types

/-!
# Namespace identification descriptors

The device describes the identifiers of a namespace in a page of descriptors,
each with its type and length, that ends with a type of zero.
`parse_ns_id_desc` walks over the page and remembers where the descriptor of
each type lies.

Nothing but the content of the page moves the walk on.  It stays inside of the
page because every type is accepted once only, so that all descriptors together
are far shorter than the page.
-/

namespace Dnvme.Nvme.NsIdDesc

open Dnvme.Driver
open Dnvme.Nvme

/-! ## The parser -/

/-- `NVME_IDENTIFY_DATA_SIZE`. -/
def nvmeIdentifyDataSize : Nat := 4096

/-- `NVME_NIDT_FENCE`. -/
def nvmeNidtFence : Nat := 5

/-- The length of the identifier of a type. -/
def nidLength (nidt : UInt8) : Option Nat :=
  match nidt.toNat with
  | 1 => some 8
  | 2 => some 16
  | 3 => some 16
  | 4 => some 1
  | _ => none

/-- `ns_id_desc`: for each type where its descriptor lies in the page. -/
abbrev DescTable := List (Option Nat)

/-- A table without any descriptor. -/
def emptyTable : DescTable :=
  List.replicate nvmeNidtFence none

/-- The part of `struct nvme_ns_instance` that the parser fills; `α` stands for
the pages that `ns_id_desc_raw` points to. -/
structure NsIdDescs (α : Type) where
  nsIdDesc : DescTable
  nsIdDescRaw : Option α

/-- `remain <= sizeof(struct nvme_ns_id_desc)`, where the signed number on the
left becomes one of the unsigned type on the right. -/
def remainTooSmall (remain : Int) : Bool :=
  remain % 2 ^ 64 ≤ 4

/-- The loop of `parse_ns_id_desc` with the number it returns; `list` is the
offset of the next descriptor. -/
def parseLoop (data : List UInt8) :
    Nat → Nat → Int → DescTable → Run (Int × DescTable)
  | 0, _, _, _ => .error .endlessLoop
  | fuel + 1, list, remain, table => do
      let nidt ← tableAt data list
      if nidt = 0 then return (0, table)
      else
        match nidLength nidt with
        | none => return (-Errno.EINVAL, emptyTable)
        | some len => do
            let nidl ← tableAt data (list + 1)
            if nidl.toNat ≠ len then return (-Errno.EINVAL, emptyTable)
            else
              let earlier ← tableAt table nidt.toNat
              if earlier.isSome then return (-Errno.EINVAL, emptyTable)
              else
                let table := table.set nidt.toNat (some list)
                let remain := remain - (4 + len : Nat)
                if remainTooSmall remain then return (0, table)
                else parseLoop data fuel (list + 4 + len) remain table

/-- `parse_ns_id_desc`; `page` is what `data` points to.  Each turn moves on,
so a loop that takes more turns than the page has bytes has left it. -/
def parseNsIdDesc {α : Type} (ns : NsIdDescs α) (page : α)
    (data : List UInt8) (size : Nat) : Run (Int × NsIdDescs α) := do
  let (ret, table) ← parseLoop data (data.length + 1) 0 size ns.nsIdDesc
  return (ret, ⟨table, if ret < 0 then ns.nsIdDescRaw else some page⟩)

/-! ## Descriptors -/

/-- A descriptor of a known type, with the length that the type requires. -/
structure Descriptor where
  nidt : UInt8
  reserved : UInt8 × UInt8
  nid : List UInt8
  known : nidLength nidt = some nid.length

/-- The bytes of a descriptor. -/
def Descriptor.bytes (desc : Descriptor) : List UInt8 :=
  desc.nidt :: UInt8.ofNat desc.nid.length :: desc.reserved.1 ::
    desc.reserved.2 :: desc.nid

/-- The bytes of a sequence of descriptors. -/
def stream (descs : List Descriptor) : List UInt8 :=
  descs.flatMap Descriptor.bytes

/-- Bytes that start with descriptors of different types and a type of zero
behind them. -/
def Lists (data : List UInt8) (descs : List Descriptor) : Prop :=
  (descs.map Descriptor.nidt).Nodup ∧
    ∃ rest, data = stream descs ++ 0 :: rest

/-- A table that points to the descriptors of a sequence, and to nothing
else. -/
structure PointsTo (table : DescTable) (descs : List Descriptor) : Prop where
  length : table.length = nvmeNidtFence
  entry : ∀ t offset, table[t]? = some (some offset) ↔
    ∃ before desc after, descs = before ++ desc :: after ∧
      desc.nidt.toNat = t ∧ (stream before).length = offset

/-- What the parser should make of a page. -/
structure ParsesExactly {α : Type} (ns : NsIdDescs α) (page : α)
    (data : List UInt8) (ret : Int) (after : NsIdDescs α) : Prop where
  succeeds : ret = 0 ↔ ∃ descs, Lists data descs
  points : ret = 0 → ∀ descs, Lists data descs →
    PointsTo after.nsIdDesc descs ∧ after.nsIdDescRaw = some page
  fails : ret ≠ 0 → ret = -Errno.EINVAL ∧ after.nsIdDesc = emptyTable ∧
    after.nsIdDescRaw = ns.nsIdDescRaw

/-! ## The length of all descriptors -/

section Widths

variable {descs : List Descriptor}

/-- `NVME_NIDT_EUI64` to `NVME_NIDT_CSI`. -/
def knownTypes : List UInt8 := [1, 2, 3, 4]

/-- The number of bytes of a descriptor. -/
def width (nidt : UInt8) : Nat :=
  4 + (nidLength nidt).getD 0

theorem mem_knownTypes {nidt : UInt8} {len : Nat}
    (known : nidLength nidt = some len) : nidt ∈ knownTypes := by
  have one_of : nidt.toNat = 1 ∨ nidt.toNat = 2 ∨ nidt.toNat = 3 ∨
      nidt.toNat = 4 := by
    unfold nidLength at known
    split at known
    · exact Or.inl ‹_›
    · exact Or.inr (Or.inl ‹_›)
    · exact Or.inr (Or.inr (Or.inl ‹_›))
    · exact Or.inr (Or.inr (Or.inr ‹_›))
    · cases known
  simp only [knownTypes, List.mem_cons, ← UInt8.toNat_inj]
  exact one_of.imp id fun rest => rest.imp id fun rest => rest.imp id Or.inl

theorem Descriptor.length_bytes (desc : Descriptor) :
    desc.bytes.length = width desc.nidt := by
  unfold Descriptor.bytes width
  rw [desc.known]
  simp only [List.length_cons, Option.getD_some]
  omega

theorem length_stream (descs : List Descriptor) :
    (stream descs).length =
      ((descs.map Descriptor.nidt).map width).sum := by
  unfold stream
  rw [List.length_flatMap, List.map_map]
  congr 2
  funext desc
  exact desc.length_bytes

/-- Descriptors of different types are some of the four that there are. -/
theorem subperm_knownTypes (different : (descs.map Descriptor.nidt).Nodup) :
    (descs.map Descriptor.nidt).Subperm knownTypes := by
  refine different.subperm fun nidt member => ?_
  obtain ⟨desc, _, rfl⟩ := List.mem_map.mp member
  exact mem_knownTypes desc.known

theorem length_le_four (different : (descs.map Descriptor.nidt).Nodup) :
    descs.length ≤ 4 := by
  have few := (subperm_knownTypes different).length_le
  rwa [List.length_map] at few

/-- They are far shorter than a page. -/
theorem length_stream_le (different : (descs.map Descriptor.nidt).Nodup) :
    (stream descs).length ≤ 57 := by
  obtain ⟨some_, perm, sublist⟩ := subperm_knownTypes different
  have bound := (sublist.map width).sum_le_sum fun _ _ => Nat.zero_le _
  rw [length_stream, ← (perm.map width).sum_eq]
  exact bound

end Widths

/-! ## One descriptor -/

section Descriptors

variable {data : List UInt8} {descs : List Descriptor} {nidt : UInt8}
  {len : Nat}

/-- Long enough bytes with a known type and its length start with a
descriptor. -/
theorem exists_descriptor (known : nidLength nidt = some len)
    (first : data[0]? = some nidt) (second : data[1]? = some (UInt8.ofNat len))
    (long : 4 + len ≤ data.length) :
    ∃ (desc : Descriptor) (rest : List UInt8),
      desc.nidt = nidt ∧ data = desc.bytes ++ rest := by
  have header : ∃ a b c d more, data = a :: b :: c :: d :: more := by
    rcases data with _ | ⟨a, _ | ⟨b, _ | ⟨c, _ | ⟨d, more⟩⟩⟩⟩
    all_goals simp only [List.length_nil, List.length_cons] at long
    · omega
    · omega
    · omega
    · omega
    · exact ⟨a, b, c, d, more, rfl⟩
  obtain ⟨a, b, c, d, more, rfl⟩ := header
  have taken : (more.take len).length = len := by
    simp only [List.length_cons] at long
    rw [List.length_take]
    omega
  cases first
  cases second
  refine ⟨⟨nidt, (c, d), more.take len, by rw [taken]; exact known⟩,
    more.drop len, rfl, ?_⟩
  unfold Descriptor.bytes
  dsimp only
  rw [taken]
  simp only [List.cons_append, List.take_append_drop]

/-- What starts with a descriptor and what does not. -/
theorem stream_head {rest : List UInt8}
    (same : data = stream descs ++ 0 :: rest) (first : data[0]? = some nidt)
    (some_ : nidt ≠ 0) :
    ∃ desc more, descs = desc :: more ∧ desc.nidt = nidt ∧
      data[1]? = some (UInt8.ofNat desc.nid.length) ∧
      data = desc.bytes ++ (stream more ++ 0 :: rest) := by
  cases descs with
  | nil =>
      rw [same] at first
      exact absurd (Option.some.inj first).symm some_
  | cons desc more =>
      have parts : data = desc.bytes ++ (stream more ++ 0 :: rest) := by
        rw [same]
        unfold stream
        rw [List.flatMap_cons, List.append_assoc]
      rw [parts] at first
      refine ⟨desc, more, rfl, Option.some.inj first, ?_, parts⟩
      rw [parts]
      rfl

end Descriptors

/-- The bytes of a descriptor tell where it ends and what it is. -/
theorem Descriptor.eq_of_bytes {one other : Descriptor}
    {rest more : List UInt8}
    (same : one.bytes ++ rest = other.bytes ++ more) :
    one = other ∧ rest = more := by
  have nidt : one.nidt = other.nidt := (List.cons.inj same).1
  have lengths : one.bytes.length = other.bytes.length := by
    rw [one.length_bytes, other.length_bytes, nidt]
  obtain ⟨bytes, rests⟩ := List.append_inj same lengths
  refine ⟨?_, rests⟩
  obtain ⟨nidt, reserved, nid, known⟩ := one
  obtain ⟨nidt', reserved', nid', known'⟩ := other
  unfold Descriptor.bytes at bytes
  simp only [List.cons.injEq] at bytes
  obtain ⟨rfl, _, first, second, rfl⟩ := bytes
  rw [Descriptor.mk.injEq]
  exact ⟨rfl, Prod.ext first second, rfl⟩

/-- There is one way to read a page. -/
theorem stream_unique {descs others : List Descriptor} :
    ∀ {rest more : List UInt8},
      stream descs ++ 0 :: rest = stream others ++ 0 :: more →
      descs = others := by
  induction descs generalizing others with
  | nil =>
      intro rest more same
      cases others with
      | nil => rfl
      | cons other others =>
          have zero : other.nidt = 0 := (List.cons.inj same).1.symm
          have known := other.known
          rw [zero] at known
          cases known
  | cons desc descs ih =>
      intro rest more same
      have first : (stream (desc :: descs) ++ 0 :: rest)[0]? =
          some desc.nidt := rfl
      have some_ : desc.nidt ≠ 0 := by
        intro zero
        have known := desc.known
        rw [zero] at known
        cases known
      obtain ⟨other, others, rfl, _, _, parts⟩ :=
        stream_head same first some_
      unfold stream at parts
      rw [List.flatMap_cons, List.append_assoc] at parts
      obtain ⟨rfl, rests⟩ := Descriptor.eq_of_bytes parts
      rw [ih rests]

theorem Lists.unique {data : List UInt8} {descs others : List Descriptor}
    (one : Lists data descs) (other : Lists data others) : descs = others := by
  obtain ⟨_, rest, parts⟩ := one
  obtain ⟨_, more, others⟩ := other
  exact stream_unique (parts.symm.trans others)

/-! ## The table -/

section Pointers

variable {table : DescTable} {past : List Descriptor} {desc : Descriptor}

theorem PointsTo.start : PointsTo emptyTable [] := by
  refine ⟨rfl, fun t offset => ⟨fun points => ?_, ?_⟩⟩
  · have none_ := List.eq_of_mem_replicate (List.mem_of_getElem? points)
    cases none_
  · rintro ⟨before, desc, after, never, _⟩
    exact absurd never.symm (by simp)

/-- An entry that points to something has a descriptor of its type. -/
theorem PointsTo.mem {t offset : Nat} (points : PointsTo table past)
    (entry : table[t]? = some (some offset)) :
    ∃ other ∈ past, other.nidt.toNat = t := by
  obtain ⟨before, other, after, rfl, type, _⟩ :=
    (points.entry t offset).mp entry
  exact ⟨other, by simp, type⟩

/-- An entry that is `NULL` has none. -/
theorem PointsTo.not_mem (points : PointsTo table past)
    (entry : table[desc.nidt.toNat]? = some none) :
    desc.nidt ∉ past.map Descriptor.nidt := by
  intro member
  obtain ⟨other, there, same⟩ := List.mem_map.mp member
  obtain ⟨before, after, rfl⟩ := List.append_of_mem there
  have points := (points.entry desc.nidt.toNat (stream before).length).mpr
    ⟨before, other, after, rfl, by rw [same], rfl⟩
  rw [entry] at points
  cases points

/-- The entry of a new descriptor. -/
theorem PointsTo.more (points : PointsTo table past)
    (entry : table[desc.nidt.toNat]? = some none) :
    PointsTo (table.set desc.nidt.toNat (some (stream past).length))
      (past ++ [desc]) := by
  have inside := (List.getElem?_eq_some_iff.mp entry).choose
  refine ⟨by rw [List.length_set, points.length], fun t offset => ?_⟩
  by_cases this : t = desc.nidt.toNat
  · subst this
    rw [List.getElem?_set_self inside]
    constructor
    · intro same
      cases same
      exact ⟨past, desc, [], rfl, rfl, rfl⟩
    · rintro ⟨before, other, after, parts, type, rfl⟩
      rcases List.eq_nil_or_concat after with rfl | ⟨init, last, rfl⟩
      · rw [List.append_inj_left' parts rfl]
      · rw [List.concat_eq_append, ← List.cons_append,
          ← List.append_assoc] at parts
        have absent := points.not_mem entry
        rw [List.append_inj_left' parts rfl] at absent
        refine absurd ?_ absent
        rw [← UInt8.toNat_inj.mp type]
        exact List.mem_map_of_mem (by simp)
  · rw [List.getElem?_set_ne (Ne.symm this), points.entry]
    constructor
    · rintro ⟨before, other, after, rfl, facts⟩
      exact ⟨before, other, after ++ [desc], by simp, facts⟩
    · rintro ⟨before, other, after, parts, type, offset⟩
      rcases List.eq_nil_or_concat after with rfl | ⟨init, last, rfl⟩
      · have last := List.append_inj_right' parts rfl
        rw [← (List.cons.inj last).1] at type
        exact absurd type.symm this
      · rw [List.concat_eq_append, ← List.cons_append,
          ← List.append_assoc] at parts
        exact ⟨before, other, init, List.append_inj_left' parts rfl, type,
          offset⟩

end Pointers

/-! ## The loop -/

section Loop

variable {data todo : List UInt8} {fuel list len : Nat} {remain : Int}
  {table : DescTable} {past : List Descriptor} {nidt nidl : UInt8}

theorem tableAt_of_some {α : Type} {elements : List α} {i : Nat}
    {element : α} (here : elements[i]? = some element) :
    tableAt elements i = .ok element := by
  unfold tableAt
  rw [here]

theorem parseLoop_end (first : data[list]? = some 0) :
    parseLoop data (fuel + 1) list remain table = .ok (0, table) := by
  unfold parseLoop
  rw [tableAt_of_some first]
  rfl

theorem parseLoop_unknown (first : data[list]? = some nidt)
    (some_ : nidt ≠ 0) (unknown : nidLength nidt = none) :
    parseLoop data (fuel + 1) list remain table =
      .ok (-Errno.EINVAL, emptyTable) := by
  unfold parseLoop
  rw [tableAt_of_some first]
  dsimp only [bind, Except.bind]
  rw [if_neg some_, unknown]
  rfl

theorem parseLoop_length (first : data[list]? = some nidt)
    (some_ : nidt ≠ 0) (known : nidLength nidt = some len)
    (second : data[list + 1]? = some nidl) (wrong : nidl.toNat ≠ len) :
    parseLoop data (fuel + 1) list remain table =
      .ok (-Errno.EINVAL, emptyTable) := by
  unfold parseLoop
  rw [tableAt_of_some first, tableAt_of_some second]
  dsimp only [bind, Except.bind]
  rw [if_neg some_, known]
  exact if_pos wrong

theorem parseLoop_again (first : data[list]? = some nidt)
    (some_ : nidt ≠ 0) (known : nidLength nidt = some len)
    (second : data[list + 1]? = some nidl) (right : nidl.toNat = len)
    {offset : Nat} (entry : table[nidt.toNat]? = some (some offset)) :
    parseLoop data (fuel + 1) list remain table =
      .ok (-Errno.EINVAL, emptyTable) := by
  unfold parseLoop
  rw [tableAt_of_some first, tableAt_of_some second]
  dsimp only [bind, Except.bind]
  rw [if_neg some_, known, tableAt_of_some entry]
  exact if_neg (not_not.mpr right)

theorem parseLoop_turn (first : data[list]? = some nidt)
    (some_ : nidt ≠ 0) (known : nidLength nidt = some len)
    (second : data[list + 1]? = some nidl) (right : nidl.toNat = len)
    (entry : table[nidt.toNat]? = some none)
    (room : remainTooSmall (remain - (4 + len : Nat)) = false) :
    parseLoop data (fuel + 1) list remain table =
      parseLoop data fuel (list + 4 + len) (remain - (4 + len : Nat))
        (table.set nidt.toNat (some list)) := by
  conv_lhs => unfold parseLoop
  rw [tableAt_of_some first, tableAt_of_some second]
  dsimp only [bind, Except.bind]
  rw [if_neg some_, known, tableAt_of_some entry]
  refine (if_neg (not_not.mpr right)).trans ?_
  dsimp only [Option.isSome_none]
  rw [if_neg Bool.false_ne_true, room]
  exact if_neg Bool.false_ne_true

/-- What the loop makes of the bytes that are still to be parsed. -/
def LoopParses (past : List Descriptor) (todo : List UInt8)
    (ret : Int) (after : DescTable) : Prop :=
  (ret = 0 ∧ ∃ more rest, todo = stream more ++ 0 :: rest ∧
    ((past ++ more).map Descriptor.nidt).Nodup ∧
      PointsTo after (past ++ more)) ∨
  (ret = -Errno.EINVAL ∧ after = emptyTable ∧
    ∀ more rest, todo = stream more ++ 0 :: rest →
      ¬ ((past ++ more).map Descriptor.nidt).Nodup)

theorem remain_large {used : Nat} (few : used ≤ 57) :
    remainTooSmall ((nvmeIdentifyDataSize : Int) - used) = false := by
  unfold remainTooSmall nvmeIdentifyDataSize
  rw [decide_eq_false_iff_not]
  omega

theorem ofNat_length_toNat {nidt : UInt8} {len : Nat}
    (known : nidLength nidt = some len) : (UInt8.ofNat len).toNat = len := by
  have small : len ≤ 16 := by
    unfold nidLength at known
    split at known
    all_goals cases known
    all_goals decide
  exact UInt8.toNat_ofNat_of_lt' (by
    change len < 256
    omega)

theorem stream_concat (past : List Descriptor) (desc : Descriptor) :
    stream (past ++ [desc]) = stream past ++ desc.bytes := by
  unfold stream
  rw [List.flatMap_append, List.flatMap_singleton]

theorem stream_cons (desc : Descriptor) (more : List Descriptor) :
    stream (desc :: more) = desc.bytes ++ stream more := by
  unfold stream
  exact List.flatMap_cons

theorem nodup_concat {desc : Descriptor}
    (different : (past.map Descriptor.nidt).Nodup)
    (fresh : desc.nidt ∉ past.map Descriptor.nidt) :
    ((past ++ [desc]).map Descriptor.nidt).Nodup := by
  rw [List.map_append, List.map_singleton, ← List.concat_eq_append]
  exact different.concat fresh

/-- What the rest of the loop makes of the bytes behind a descriptor. -/
theorem LoopParses.before {desc : Descriptor} {later : List UInt8} {ret : Int}
    {after : DescTable} (parses : LoopParses (past ++ [desc]) later ret after)
    (known : desc.nidt ≠ 0) :
    LoopParses past (desc.bytes ++ later) ret after := by
  rcases parses with ⟨zero, more, rest, rfl, distinct, pointed⟩ |
    ⟨fails, clear, never⟩
  · rw [List.append_assoc, List.singleton_append] at distinct pointed
    refine Or.inl ⟨zero, desc :: more, rest, ?_, distinct, pointed⟩
    rw [stream_cons, List.append_assoc]
  · refine Or.inr ⟨fails, clear, fun more rest same => ?_⟩
    obtain ⟨other, others, rfl, _, _, cut⟩ := stream_head same rfl known
    obtain ⟨rfl, tail⟩ := Descriptor.eq_of_bytes cut
    have twice := never others rest tail
    rwa [List.append_assoc, List.singleton_append] at twice

/-- A repeated type does not list different descriptors. -/
theorem LoopParses.twice {nidt : UInt8} (first : todo[0]? = some nidt)
    (some_ : nidt ≠ 0) (member : nidt ∈ past.map Descriptor.nidt) :
    LoopParses past todo (-Errno.EINVAL) emptyTable := by
  refine Or.inr ⟨rfl, rfl, fun more rest same distinct => ?_⟩
  obtain ⟨other, others, rfl, also, _⟩ := stream_head same first some_
  rw [List.map_append, List.nodup_append] at distinct
  exact distinct.2.2 nidt member other.nidt (by simp) also.symm

/-- The bytes of a descriptor with another length or type are no
descriptor. -/
theorem LoopParses.wrong {nidt nidl : UInt8} (first : todo[0]? = some nidt)
    (some_ : nidt ≠ 0) (second : todo[1]? = some nidl)
    (wrong : nidLength nidt ≠ some nidl.toNat) :
    LoopParses past todo (-Errno.EINVAL) emptyTable := by
  refine Or.inr ⟨rfl, rfl, fun more rest same _ => ?_⟩
  obtain ⟨desc, _, _, rfl, also, _⟩ := stream_head same first some_
  rw [second] at also
  rw [Option.some.inj also, desc.known, ofNat_length_toNat desc.known] at wrong
  exact wrong rfl

/-- The loop parses a page.  The induction is on the turns that are left; the
descriptors so far have different types, of which there are four only. -/
theorem parseLoop_exact (length : data.length = nvmeIdentifyDataSize) :
    ∀ (fuel : Nat) (past : List Descriptor) (todo : List UInt8)
      (table : DescTable), 4 < fuel + past.length →
      (past.map Descriptor.nidt).Nodup → PointsTo table past →
      data = stream past ++ todo →
      ∃ ret after, parseLoop data fuel (stream past).length
          (nvmeIdentifyDataSize - (stream past).length : Int) table =
          .ok (ret, after) ∧ LoopParses past todo ret after := by
  intro fuel
  induction fuel with
  | zero =>
      intro past todo table enough different
      have few := length_le_four different
      omega
  | succ fuel ih =>
      intro past todo table enough different points parts
      have few := length_stream_le different
      have long : 4096 - 57 ≤ todo.length := by
        have total := congrArg List.length parts
        rw [length, List.length_append] at total
        unfold nvmeIdentifyDataSize at total
        omega
      have at_ (i : Nat) : data[(stream past).length + i]? = todo[i]? := by
        rw [parts, List.getElem?_append_right (by omega),
          Nat.add_sub_cancel_left]
      have first : data[(stream past).length]? = some todo[0] :=
        (at_ 0).trans (List.getElem?_eq_getElem (by omega))
      have second : data[(stream past).length + 1]? = some todo[1] :=
        (at_ 1).trans (List.getElem?_eq_getElem (by omega))
      by_cases some_ : todo[0] = 0
      · rw [some_] at first
        refine ⟨0, table, parseLoop_end first, Or.inl ⟨rfl, [],
          todo.drop 1, ?_, ?_, ?_⟩⟩
        · change todo = 0 :: todo.drop 1
          rw [← some_, ← List.drop_eq_getElem_cons (by omega), List.drop_zero]
        · rwa [List.append_nil]
        · rwa [List.append_nil]
      · have here : todo[0]? = some todo[0] :=
          List.getElem?_eq_getElem (by omega)
        have there : todo[1]? = some todo[1] :=
          List.getElem?_eq_getElem (by omega)
        cases known : nidLength todo[0] with
        | none =>
            exact ⟨_, _, parseLoop_unknown first some_ known,
              .wrong here some_ there (by
                rw [known]
                exact (Option.some_ne_none _).symm)⟩
        | some len =>
            by_cases right : todo[1].toNat = len
            · have bytes : todo[1]? = some (UInt8.ofNat len) := by
                rw [there, ← right, UInt8.ofNat_toNat]
              have small : len < 256 := right ▸ todo[1].toNat_lt
              obtain ⟨desc, later, type, cut⟩ := exists_descriptor known here
                bytes (by omega)
              have inside : todo[0].toNat < table.length := by
                have member := mem_knownTypes known
                rw [points.length]
                simp only [knownTypes, List.mem_cons, List.not_mem_nil,
                  or_false] at member
                rcases member with same | same | same | same
                all_goals rw [same]; decide
              cases entry : table[todo[0].toNat] with
              | some offset =>
                  have entry := (List.getElem?_eq_getElem inside).trans
                    (congrArg some entry)
                  obtain ⟨old, member, oldType⟩ := points.mem entry
                  refine ⟨_, _, parseLoop_again first some_ known second right
                    entry, .twice here some_ ?_⟩
                  rw [← UInt8.toNat_inj.mp oldType]
                  exact List.mem_map_of_mem member
              | none =>
                  have entry := (List.getElem?_eq_getElem inside).trans
                    (congrArg some entry)
                  rw [← type] at entry some_
                  have next := nodup_concat different (points.not_mem entry)
                  have wide : (stream (past ++ [desc])).length =
                      (stream past).length + 4 + len := by
                    rw [stream_concat, List.length_append, desc.length_bytes]
                    unfold width
                    rw [type, known, Option.getD_some, Nat.add_assoc]
                  have less : (nvmeIdentifyDataSize : Int) -
                      (stream past).length - (4 + len : Nat) =
                      nvmeIdentifyDataSize -
                        (stream (past ++ [desc])).length := by
                    rw [wide]
                    push_cast
                    ring
                  have turn := @parseLoop_turn _ fuel _ _ _ _ _ _
                    (type ▸ first) some_
                    (type ▸ known) second right entry
                    (less ▸ remain_large (length_stream_le next))
                  rw [less, ← wide] at turn
                  have whole : data = stream (past ++ [desc]) ++ later := by
                    rw [stream_concat, List.append_assoc, ← cut]
                    exact parts
                  obtain ⟨ret, after, done, parses⟩ := ih (past ++ [desc])
                    later _ (by simp; omega) next (points.more entry) whole
                  exact ⟨ret, after, turn.trans done,
                    cut ▸ parses.before some_⟩
            · refine ⟨_, _, parseLoop_length first some_ known second right,
                .wrong here some_ there fun same => right ?_⟩
              rw [known] at same
              exact (Option.some.inj same).symm

end Loop

/-! ## The parser -/

section Parser

variable {α : Type} {ns : NsIdDescs α} {data : List UInt8}

/-- What the parser makes of a page, as its loop does it. -/
theorem parseNsIdDesc_parses (page : α) (empty : ns.nsIdDesc = emptyTable)
    (length : data.length = nvmeIdentifyDataSize) :
    ∃ ret table, parseNsIdDesc ns page data nvmeIdentifyDataSize =
        .ok (ret, ⟨table, if ret < 0 then ns.nsIdDescRaw else some page⟩) ∧
      LoopParses [] data ret table := by
  obtain ⟨ret, table, done, parses⟩ := parseLoop_exact length
    (data.length + 1) [] data emptyTable
    (by rw [length]; decide) List.nodup_nil .start rfl
  refine ⟨ret, table, ?_, parses⟩
  have zero : (nvmeIdentifyDataSize - (stream []).length : Int) =
    nvmeIdentifyDataSize := rfl
  rw [zero] at done
  unfold parseNsIdDesc
  rw [empty]
  exact congrArg (· >>= _) done

/--
The descriptors of a page are parsed exactly: the parser stays inside of the
page, succeeds if and only if it lists descriptors of different known types,
and leaves pointers to these or none at all.
-/
theorem parse_ns_id_desc_exact (ns : NsIdDescs α) (page : α)
    (data : List UInt8) (empty : ns.nsIdDesc = emptyTable)
    (length : data.length = nvmeIdentifyDataSize) :
    ∃ ret after,
      parseNsIdDesc ns page data nvmeIdentifyDataSize = .ok (ret, after) ∧
      ParsesExactly ns page data ret after := by
  obtain ⟨ret, table, done, parses⟩ := parseNsIdDesc_parses page empty length
  refine ⟨ret, _, done, ?_⟩
  rcases parses with ⟨rfl, descs, rest, parts, different, points⟩ |
    ⟨rfl, rfl, never⟩
  · have lists : Lists data descs := ⟨different, rest, parts⟩
    refine ⟨⟨fun _ => ⟨descs, lists⟩, fun _ => rfl⟩, fun _ others other => ?_,
      fun fails => absurd rfl fails⟩
    rw [← lists.unique other]
    exact ⟨points, rfl⟩
  · refine ⟨⟨fun zero => absurd zero (by decide), ?_⟩,
      fun zero => absurd zero (by decide), fun _ => ⟨rfl, rfl, rfl⟩⟩
    rintro ⟨descs, different, rest, parts⟩
    exact absurd different (never descs rest parts)

end Parser

/-- A page with an identifier of 8 bytes and the command set. -/
def commandSetPage : List UInt8 :=
  [1, 8, 0, 0, 1, 2, 3, 4, 5, 6, 7, 8, 4, 1, 0, 0, 2] ++
    List.replicate 4079 0

/-- Two descriptors of different types are found where they are. -/
theorem parse_ns_id_desc_of_command_set :
    ∃ after, parseNsIdDesc ⟨emptyTable, none⟩ () commandSetPage
        nvmeIdentifyDataSize = .ok (0, after) ∧
      after.nsIdDesc = [none, some 0, none, none, some 12] ∧
      ParsesExactly ⟨emptyTable, none⟩ () commandSetPage 0 after := by
  have length : commandSetPage.length = nvmeIdentifyDataSize := by
    unfold commandSetPage
    simp only [List.length_append, List.length_cons, List.length_nil,
      List.length_replicate]
    rfl
  have found : parseNsIdDesc ⟨emptyTable, none⟩ () commandSetPage
      nvmeIdentifyDataSize =
      .ok (0, ⟨[none, some 0, none, none, some 12], some ()⟩) := by
    unfold parseNsIdDesc
    rw [length]
    rfl
  obtain ⟨ret, after, done, parses⟩ :=
    parse_ns_id_desc_exact ⟨emptyTable, none⟩ () commandSetPage rfl length
  cases found.symm.trans done
  exact ⟨_, found, rfl, parses⟩

end Dnvme.Nvme.NsIdDesc
