import Dnvme.Nvme.NetlinkWalk

/-!
# Parsing a malformed reply

A reply tells its own length and the lengths of its attributes.  The walk
compares each length with the bytes that are left, but a padded length may take
it past the end, and a negative number of bytes that are left passes for a
large one.  The values of two attributes are read without a look at their
lengths at all.

The walk always ends.  An offset and the bytes that are left there add up to
the length of the message on the whole way, so that an attribute that is
accepted lies inside of the message.  It follows from the lengths alone where a
parse stays inside: the last attribute is padded inside of the message, what is
left is long enough for the values that are read, and what the buffer does not
hold is not needed.
-/

namespace Dnvme.Nvme.Netlink

open Dnvme.Driver
open Dnvme.Nvme
open Dnvme.Lib.ByteMemory
open Dnvme.Lib.Results

/-! ## The statement -/

/-- A range of bytes inside of the message and of its buffer. -/
def Inside (nlh : Memory) (nmSize : Nat) (range : Range) : Prop :=
  range.1 + range.2 ≤ min (nlmsgLen nlh) nmSize

/-- A parse that ends, reads inside of the message, and enters attributes that
lie inside of it. -/
def StaysInside (nlh : Memory) (nmSize : Nat) : Prop :=
  ∃ ret walked, reapReply nlh = .ok (ret, walked) ∧
    (∀ range ∈ walked.reads, Inside nlh nmSize range) ∧
    ∀ type ≤ nvmeGnlAttrMax, ∀ nla, walked.tb type = some nla →
      nlaHdrlen ≤ nlaLenOf nlh nla ∧
        Inside nlh nmSize (nla, nlaLenOf nlh nla)

/-- The status that an attribute holds. -/
def statusOf (nlh : Memory) (nla : Nat) : Int :=
  s32 (nlh.number (nla + nlaHdrlen) 4)

/-- The bytes of the message that its buffer does not hold. -/
def cutOff (nlh : Memory) (nmSize : Nat) : Nat :=
  nlmsgLen nlh - nmSize

/-- The attributes, each with the bytes that are left when the walk comes to
it. -/
def lefts (nlh : Memory) : Int → List Nat → List (Nat × Int)
  | _, [] => []
  | left, nla :: rest =>
      (nla, left) :: lefts nlh (left - nlaAlign (nlaLenOf nlh nla)) rest

/-- Some attribute of a type is the last one, with at least these bytes
left. -/
def LastHas (nlh : Memory) (attrs : List Nat) (type needed : Nat) : Prop :=
  ∀ nla, IsLastOf nlh type attrs nla → ∀ left,
    (nla, left) ∈ lefts nlh (genlmsgAttrlen nlh 0) attrs →
    (needed : Int) ≤ left

/-- The lengths are large enough: the walk does not end with a negative number
of bytes, 8 bytes are left from the attributes on whose values are read, and
where bytes are cut off, these are neither left for a header nor for an
attribute that is entered. -/
structure LongEnough (nlh : Memory) (nmSize : Nat) (attrs : List Nat)
    (remains : Int) : Prop where
  padded : 0 ≤ remains
  tail : remains < 4 ∨ cutOff nlh nmSize + 2 ≤ remains
  status : nlh.number nlmsgHdrlen 1 = nvmeGnlCmdReapCqe →
    LastHas nlh attrs nvmeGnlAttrOptStatus (cutOff nlh nmSize + 8)
  num : nlh.number nlmsgHdrlen 1 = nvmeGnlCmdReapCqe →
    (∃ nla, IsLastOf nlh nvmeGnlAttrOptStatus attrs nla ∧
      0 ≤ statusOf nlh nla) →
    LastHas nlh attrs nvmeGnlAttrOptNum (cutOff nlh nmSize + 8)
  headers : 0 < cutOff nlh nmSize → ∀ nla left,
    (nla, left) ∈ lefts nlh (genlmsgAttrlen nlh 0) attrs →
    cutOff nlh nmSize + 4 ≤ left
  entries : 0 < cutOff nlh nmSize → ∀ type ≤ nvmeGnlAttrMax, ∀ nla,
    IsLastOf nlh type attrs nla → ∀ left,
    (nla, left) ∈ lefts nlh (genlmsgAttrlen nlh 0) attrs →
    cutOff nlh nmSize + nlaLenOf nlh nla ≤ left

/-- The length from which on the length of the attributes is negative. -/
def negativeFrom : Nat :=
  2 ^ 31 + nlmsgHdrlen + genlHdrlen

/-- A reply that is refused for its length, has attributes of a negative length
in a buffer for the first two bytes of them, or is long enough for them. -/
def WellFormed (nlh : Memory) (nmSize : Nat) : Prop :=
  nlmsgLen nlh < nlmsgHdrlen + genlHdrlen ∨
    (negativeFrom ≤ nlmsgLen nlh ∧ nlmsgHdrlen + genlHdrlen + 2 ≤ nmSize) ∨
    (nlmsgLen nlh < negativeFrom ∧ ∀ attrs last remains,
      Chain nlh (nlmsgHdrlen + genlHdrlen) (genlmsgAttrlen nlh 0) attrs last
        remains →
      LongEnough nlh nmSize attrs remains)

/-- Attributes that can be walked over and read. -/
structure WellPlaced (nlh : Memory) (nmSize : Nat) (attrs : List Nat)
    (last : Nat) (remains : Int) : Prop where
  headers : ∀ nla ∈ attrs, Inside nlh nmSize (nla, nlaHdrlen)
  tail : 0 ≤ remains ∧ remains < 4 ∨ Inside nlh nmSize (last, 2)
  entries : ∀ type ≤ nvmeGnlAttrMax, ∀ nla, IsLastOf nlh type attrs nla →
    Inside nlh nmSize (nla, nlaLenOf nlh nla)
  status : nlh.number nlmsgHdrlen 1 = nvmeGnlCmdReapCqe →
    ∀ nla, IsLastOf nlh nvmeGnlAttrOptStatus attrs nla →
      Inside nlh nmSize (nla + nlaHdrlen, 4)
  num : nlh.number nlmsgHdrlen 1 = nvmeGnlCmdReapCqe →
    ∀ nla, IsLastOf nlh nvmeGnlAttrOptStatus attrs nla →
      0 ≤ statusOf nlh nla →
      ∀ num, IsLastOf nlh nvmeGnlAttrOptNum attrs num →
        Inside nlh nmSize (num + nlaHdrlen, 4)

/-! ## What is read -/

section Reads

variable {nlh : Memory} {nmSize : Nat} {attrs : List Nat} {last nla : Nat}
  {left remains : Int}

/-- An attribute of a chain has room for its header. -/
theorem Chain.long (chain : Chain nlh nla left attrs last remains) :
    ∀ attr ∈ attrs, nlaHdrlen ≤ nlaLenOf nlh attr := by
  induction chain with
  | stop _ => exact fun _ none_ => absurd none_ List.not_mem_nil
  | next accepted _ ih =>
      intro attr member
      rcases List.mem_cons.mp member with rfl | later
      · exact accepted.1
      · exact ih attr later

theorem IsLastOf.mem {type : Nat} (last : IsLastOf nlh type attrs nla) :
    nla ∈ attrs := by
  obtain ⟨before, after, rfl, _⟩ := last
  exact List.mem_append_right before List.mem_cons_self

/-- The walk reads inside of the message. -/
theorem chainReads_inside_iff :
    (∀ range ∈ chainReads attrs last remains, Inside nlh nmSize range) ↔
      (∀ nla ∈ attrs, Inside nlh nmSize (nla, nlaHdrlen)) ∧
        (0 ≤ remains ∧ remains < 4 ∨ Inside nlh nmSize (last, 2)) := by
  unfold chainReads
  rw [List.forall_mem_append, List.forall_mem_flatMap]
  refine and_congr (forall₂_congr fun nla _ => ?_) ?_
  · rw [List.forall_mem_cons, List.forall_mem_singleton]
    unfold Inside nlaHdrlen
    dsimp only
    omega
  · by_cases few : 0 ≤ remains ∧ remains < 4
    · rw [if_pos few]
      exact ⟨fun _ => Or.inl few, fun _ _ none_ =>
        absurd none_ List.not_mem_nil⟩
    · rw [if_neg few, List.forall_mem_singleton]
      exact ⟨Or.inr, fun either => either.resolve_left few⟩

/-- The answer is read inside of the message. -/
theorem reapAnswer_inside_iff (walked : Walked) :
    (∀ range ∈ (reapAnswer nlh walked).2, Inside nlh nmSize range) ↔
      (nlh.number nlmsgHdrlen 1 = nvmeGnlCmdReapCqe →
        ∀ nla, walked.tb nvmeGnlAttrOptStatus = some nla →
          Inside nlh nmSize (nla + nlaHdrlen, 4) ∧
            (0 ≤ statusOf nlh nla →
              ∀ num, walked.tb nvmeGnlAttrOptNum = some num →
                Inside nlh nmSize (num + nlaHdrlen, 4))) := by
  unfold reapAnswer
  by_cases cmd : nlh.number nlmsgHdrlen 1 = nvmeGnlCmdReapCqe
  · rw [if_neg (not_not.mpr cmd)]
    cases status : walked.tb nvmeGnlAttrOptStatus with
    | none => simp
    | some nla =>
        unfold nlaGetS32 nlaGetU32
        dsimp only
        by_cases failed : s32 (nlh.number (nla + nlaHdrlen) 4) < 0
        · rw [if_pos failed]
          have negative : ¬ 0 ≤ statusOf nlh nla := not_le.mpr failed
          simp [cmd, negative]
        · rw [if_neg failed]
          have positive : 0 ≤ statusOf nlh nla := not_lt.mp failed
          cases num : walked.tb nvmeGnlAttrOptNum with
          | none => simp [cmd]
          | some num => simp [cmd, positive]
  · rw [if_pos cmd]
    exact ⟨fun _ reap => absurd reap cmd, fun _ _ none_ =>
      absurd none_ List.not_mem_nil⟩

end Reads

/-! ## Offsets and what is left -/

section Offsets

variable {nlh : Memory} {nmSize : Nat} {attrs : List Nat} {last nla : Nat}
  {left remains total : Int}

/-- The offset and the bytes that are left add up to the same number on the
whole way, and an attribute is not longer than what is left. -/
theorem Chain.adds_up (chain : Chain nlh nla left attrs last remains)
    (start : nla + left = total) :
    last + remains = total ∧ ∀ attr rest, (attr, rest) ∈ lefts nlh left attrs →
      attr + rest = total ∧ 4 ≤ nlaLenOf nlh attr ∧
        (nlaLenOf nlh attr : Int) ≤ rest := by
  induction chain with
  | stop _ =>
      exact ⟨start, fun attr rest none_ => absurd none_ List.not_mem_nil⟩
  | next accepted _ ih =>
      obtain ⟨ends, inner⟩ := ih (by push_cast; omega)
      refine ⟨ends, fun attr rest member => ?_⟩
      rcases List.mem_cons.mp member with same | later
      · cases same
        exact ⟨start, accepted⟩
      · exact inner attr rest later

theorem mem_of_left {attr : Nat} {rest : Int}
    (member : (attr, rest) ∈ lefts nlh left attrs) : attr ∈ attrs := by
  induction attrs generalizing left with
  | nil => exact absurd member List.not_mem_nil
  | cons first others ih =>
      rcases List.mem_cons.mp member with same | later
      · cases same
        exact List.mem_cons_self
      · exact List.mem_cons_of_mem first (ih later)

theorem exists_left {attr : Nat} (member : attr ∈ attrs) :
    ∃ rest, (attr, rest) ∈ lefts nlh left attrs := by
  induction attrs generalizing left with
  | nil => exact absurd member List.not_mem_nil
  | cons first others ih =>
      rcases List.mem_cons.mp member with rfl | later
      · exact ⟨left, List.mem_cons_self⟩
      · obtain ⟨rest, found⟩ := ih later
        exact ⟨rest, List.mem_cons_of_mem _ found⟩

/-- A range lies inside of the message and its buffer when enough is left of
them. -/
theorem inside_iff {attr : Nat} {rest : Int}
    (adds : attr + rest = nlmsgLen nlh) (skip size : Nat) :
    Inside nlh nmSize (attr + skip, size) ↔
      ((cutOff nlh nmSize + (skip + size) : Nat) : Int) ≤ rest := by
  unfold Inside cutOff
  dsimp only
  omega

/-- The length of a message has 32 bits. -/
theorem nlmsgLen_lt (nlh : Memory) : nlmsgLen nlh < 2 ^ 32 := by
  have bytes (address : Nat) : (nlh address).toNat < 256 := (nlh address).isLt
  have first := bytes 0
  have second := bytes (0 + 1)
  have third := bytes (0 + 1 + 1)
  have fourth := bytes (0 + 1 + 1 + 1)
  unfold nlmsgLen
  simp only [Memory.number]
  omega

theorem genlmsgAttrlen_eq (headers : nlmsgHdrlen + genlHdrlen ≤ nlmsgLen nlh)
    (small : nlmsgLen nlh < negativeFrom) :
    ((nlmsgHdrlen + genlHdrlen : Nat) : Int) + genlmsgAttrlen nlh 0 =
      nlmsgLen nlh := by
  unfold negativeFrom nlmsgHdrlen genlHdrlen at small
  unfold nlmsgHdrlen genlHdrlen at headers
  have inner : s32 (nlmsgLen nlh - (genlHdrlen + nlmsgHdrlen : Nat)) =
      nlmsgLen nlh - 20 :=
    s32_of_range (by unfold genlHdrlen nlmsgHdrlen; omega)
      (by unfold genlHdrlen nlmsgHdrlen; omega)
  unfold genlmsgAttrlen genlmsgLen
  rw [inner, show ((nlaAlign 0 : Nat) : Int) = 0 from rfl,
    s32_of_range (by omega) (by omega)]
  unfold nlmsgHdrlen genlHdrlen
  omega

/-- The attributes of a chain are placed well when the lengths are large
enough. -/
theorem wellPlaced_iff_longEnough
    (headers : nlmsgHdrlen + genlHdrlen ≤ nlmsgLen nlh)
    (small : nlmsgLen nlh < negativeFrom)
    (chain : Chain nlh (nlmsgHdrlen + genlHdrlen) (genlmsgAttrlen nlh 0) attrs
      last remains) :
    WellPlaced nlh nmSize attrs last remains ↔
      LongEnough nlh nmSize attrs remains := by
  obtain ⟨ends, adds⟩ := chain.adds_up (genlmsgAttrlen_eq headers small)
  have range {attr : Nat} {rest : Int}
      (member : (attr, rest) ∈ lefts nlh (genlmsgAttrlen nlh 0) attrs)
      (size : Nat) : Inside nlh nmSize (attr, size) ↔
        ((cutOff nlh nmSize + size : Nat) : Int) ≤ rest := by
    have same := @inside_iff nlh nmSize _ _ (adds attr rest member).1 0 size
    rwa [Nat.add_zero, Nat.zero_add] at same
  have value {attr : Nat} {rest : Int}
      (member : (attr, rest) ∈ lefts nlh (genlmsgAttrlen nlh 0) attrs) :
      Inside nlh nmSize (attr + nlaHdrlen, 4) ↔
        ((cutOff nlh nmSize + 8 : Nat) : Int) ≤ rest :=
    inside_iff (adds attr rest member).1 nlaHdrlen 4
  have tail : Inside nlh nmSize (last, 2) ↔
      ((cutOff nlh nmSize + 2 : Nat) : Int) ≤ remains := by
    have same := @inside_iff nlh nmSize _ _ ends 0 2
    rwa [Nat.add_zero, Nat.zero_add] at same
  constructor
  · intro placed
    have end_ := placed.tail
    rw [tail] at end_
    refine ⟨by omega, by omega, fun reap nla is_last left member => ?_,
      fun reap ⟨nla, is_last, positive⟩ num is_num left member => ?_,
      fun _ nla left member => ?_, fun _ type known nla is_last left member =>
        ?_⟩
    · exact (value member).mp (placed.status reap nla is_last)
    · exact (value member).mp
        (placed.num reap nla is_last positive num is_num)
    · exact (range member 4).mp (placed.headers nla (mem_of_left member))
    · exact (range member _).mp (placed.entries type known nla is_last)
  · intro long
    have padded := long.padded
    have end_ := long.tail
    refine ⟨fun nla member => ?_, ?_, fun type known nla is_last => ?_,
      fun reap nla is_last => ?_, fun reap nla is_last positive num is_num =>
        ?_⟩
    · obtain ⟨left, there⟩ := @exists_left nlh _ (genlmsgAttrlen nlh 0) _
        member
      refine (range there 4).mpr ?_
      by_cases cut : 0 < cutOff nlh nmSize
      · exact long.headers cut nla left there
      · have fits := (adds nla left there).2
        omega
    · rw [tail]
      omega
    · obtain ⟨left, there⟩ := @exists_left nlh _ (genlmsgAttrlen nlh 0) _
        is_last.mem
      refine (range there _).mpr ?_
      by_cases cut : 0 < cutOff nlh nmSize
      · exact long.entries cut type known nla is_last left there
      · have fits := (adds nla left there).2
        omega
    · obtain ⟨left, there⟩ := @exists_left nlh _ (genlmsgAttrlen nlh 0) _
        is_last.mem
      exact (value there).mpr (long.status reap nla is_last left there)
    · obtain ⟨left, there⟩ := @exists_left nlh _ (genlmsgAttrlen nlh 0) _
        is_num.mem
      exact (value there).mpr
        (long.num reap ⟨nla, is_last, positive⟩ num is_num left there)

/-- With a negative length no attribute is accepted. -/
theorem chain_negative (negative : negativeFrom ≤ nlmsgLen nlh) :
    Chain nlh (nlmsgHdrlen + genlHdrlen) (genlmsgAttrlen nlh 0) []
      (nlmsgHdrlen + genlHdrlen) (genlmsgAttrlen nlh 0) ∧
      genlmsgAttrlen nlh 0 < 0 := by
  have large := nlmsgLen_lt nlh
  have below : genlmsgAttrlen nlh 0 < 0 := by
    unfold negativeFrom nlmsgHdrlen genlHdrlen at negative
    have inner : s32 (nlmsgLen nlh - (genlHdrlen + nlmsgHdrlen : Nat)) =
        nlmsgLen nlh - 20 - 2 ^ 32 := by
      unfold s32 genlHdrlen nlmsgHdrlen
      rw [Int.bmod_def]
      split
      · omega
      · omega
    unfold genlmsgAttrlen genlmsgLen
    rw [inner, show ((nlaAlign 0 : Nat) : Int) = 0 from rfl,
      s32_of_range (by omega) (by omega)]
    omega
  refine ⟨.stop fun accepted => ?_, below⟩
  unfold Accepted at accepted
  omega

end Offsets

/-! ## The exact condition -/

section Condition

variable {nlh : Memory} {nmSize : Nat} {attrs : List Nat} {last : Nat}
  {remains : Int}

/-- The reply of a chain. -/
theorem reapReply_chain (headers : nlmsgHdrlen + genlHdrlen ≤ nlmsgLen nlh)
    (chain : Chain nlh (nlmsgHdrlen + genlHdrlen) (genlmsgAttrlen nlh 0) attrs
      last remains) :
    ∃ ret walked, reapReply nlh = .ok (ret, walked) ∧
      walked.tb = enterAll nlh nvmeGnlAttrMax attrs ∧
      walked.reads = chainReads attrs last remains ++
        (reapAnswer nlh ⟨enterAll nlh nvmeGnlAttrMax attrs, remains,
          chainReads attrs last remains⟩).2 := by
  obtain ⟨others, end_, rest, also, done⟩ :=
    genlmsgParse_chain nvmeGnlAttrMax headers
  obtain ⟨rfl, rfl, rfl⟩ := chain.unique also
  refine ⟨(reapAnswer nlh ⟨enterAll nlh nvmeGnlAttrMax others, rest,
      chainReads others end_ rest⟩).1,
    ⟨enterAll nlh nvmeGnlAttrMax others, rest, _⟩, ?_, rfl, rfl⟩
  unfold reapReply
  rw [done]
  rfl

theorem staysInside_iff_wellPlaced
    (headers : nlmsgHdrlen + genlHdrlen ≤ nlmsgLen nlh)
    (chain : Chain nlh (nlmsgHdrlen + genlHdrlen) (genlmsgAttrlen nlh 0) attrs
      last remains) :
    StaysInside nlh nmSize ↔ WellPlaced nlh nmSize attrs last remains := by
  obtain ⟨ret, walked, done, table, reads⟩ := reapReply_chain headers chain
  have last_iff {type : Nat} (known : type ≤ nvmeGnlAttrMax) (nla : Nat) :
      walked.tb type = some nla ↔ IsLastOf nlh type attrs nla := by
    rw [table]
    exact enterAll_iff known attrs nla
  have answer := @reapAnswer_inside_iff nlh nmSize
    ⟨enterAll nlh nvmeGnlAttrMax attrs, remains,
      chainReads attrs last remains⟩
  dsimp only at answer
  rw [← table] at answer
  simp only [last_iff (show nvmeGnlAttrOptStatus ≤ nvmeGnlAttrMax by decide),
    last_iff (show nvmeGnlAttrOptNum ≤ nvmeGnlAttrMax by decide)] at answer
  constructor
  · rintro ⟨other, also, same, inside, entries⟩
    rw [done] at same
    cases same
    rw [reads, List.forall_mem_append, chainReads_inside_iff, ← table,
      answer] at inside
    exact
      { headers := inside.1.1
        tail := inside.1.2
        entries := fun type known nla is_last =>
          (entries type known nla ((last_iff known nla).mpr is_last)).2
        status := fun reap nla is_last => (inside.2 reap nla is_last).1
        num := fun reap nla is_last => (inside.2 reap nla is_last).2 }
  · intro placed
    refine ⟨ret, walked, done, ?_, ?_⟩
    · rw [reads, List.forall_mem_append, chainReads_inside_iff, ← table,
        answer]
      exact ⟨⟨placed.headers, placed.tail⟩, fun reap nla is_last =>
        ⟨placed.status reap nla is_last, placed.num reap nla is_last⟩⟩
    · intro type known nla entry
      have is_last := (last_iff known nla).mp entry
      exact ⟨chain.long nla is_last.mem,
        placed.entries type known nla is_last⟩

/--
A reply is parsed inside of the message exactly if it is refused for its
length, or its lengths are large enough for what is read of it.
-/
theorem parse_stays_inside_iff (nlh : Memory) (nmSize : Nat) :
    StaysInside nlh nmSize ↔ WellFormed nlh nmSize := by
  unfold WellFormed
  by_cases headers : nlmsgHdrlen + genlHdrlen ≤ nlmsgLen nlh
  · have long : ¬ nlmsgLen nlh < nlmsgHdrlen + genlHdrlen := not_lt.mpr headers
    by_cases small : nlmsgLen nlh < negativeFrom
    · obtain ⟨attrs, last, remains, chain, _⟩ :=
        genlmsgParse_chain nvmeGnlAttrMax headers
      rw [staysInside_iff_wellPlaced headers chain,
        wellPlaced_iff_longEnough headers small chain]
      constructor
      · refine fun enough => .inr (.inr ⟨small,
          fun others end_ rest other => ?_⟩)
        obtain ⟨rfl, rfl, rfl⟩ := chain.unique other
        exact enough
      · rintro (short | ⟨large, _⟩ | ⟨_, all⟩)
        · exact absurd short long
        · exact absurd small (not_lt.mpr large)
        · exact all attrs last remains chain
    · have negative := not_lt.mp small
      obtain ⟨chain, below⟩ := chain_negative negative
      rw [staysInside_iff_wellPlaced headers chain]
      have none_ {type nla : Nat} (is_last : IsLastOf nlh type [] nla) :
          False :=
        List.not_mem_nil is_last.mem
      constructor
      · intro placed
        refine .inr (.inl ⟨negative, ?_⟩)
        have tail := placed.tail.resolve_left (by omega)
        unfold Inside at tail
        dsimp only at tail
        omega
      · rintro (short | ⟨_, room⟩ | ⟨few, _⟩)
        · exact absurd short long
        · refine ⟨fun _ never => absurd never List.not_mem_nil, .inr ?_,
            fun _ _ _ never => (none_ never).elim,
            fun _ _ never => (none_ never).elim,
            fun _ _ never => (none_ never).elim⟩
          unfold negativeFrom at negative
          unfold Inside
          dsimp only
          omega
        · exact absurd few small
  · refine ⟨fun _ => .inl (not_le.mp headers), fun _ => ?_⟩
    refine ⟨-Errno.EPERM, ⟨fun _ => none, 0, []⟩, ?_, ?_, ?_⟩
    · unfold reapReply
      rw [genlmsgParse_short nvmeGnlAttrMax (not_le.mp headers)]
      rfl
    · exact fun _ none_ => absurd none_ List.not_mem_nil
    · intro type known nla never
      cases never

end Condition

/-- A reply of 25 bytes, with an attribute of 5 bytes that is not padded. -/
def unpaddedReply : Memory := fun address =>
  if address = 0 then 25 else if address = 20 then 5 else 0

/-- The walk reads behind its end. -/
theorem parse_leaves_message :
    ¬ ∀ nlh nmSize, 20 ≤ nmSize → StaysInside nlh nmSize := by
  intro all
  have chain : Chain unpaddedReply 20 5 [20] 28 (-3) :=
    .next (by unfold Accepted; decide) (.stop (by unfold Accepted; decide))
  have headers : nlmsgHdrlen + genlHdrlen ≤ nlmsgLen unpaddedReply := by
    decide
  have placed := (staysInside_iff_wellPlaced headers chain).mp
    (all unpaddedReply 4096 (by decide))
  rcases placed.tail with few | inside
  · omega
  · unfold Inside at inside
    exact absurd inside (by decide)

end Dnvme.Nvme.Netlink
