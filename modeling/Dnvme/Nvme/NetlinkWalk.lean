import Dnvme.Nvme.Netlink

/-!
# Walking over attributes

Whatever the bytes of a message are, they determine a chain of attributes: each
is accepted by its own length and by the bytes that are left, and tells where
the next one lies.  The parser follows the chain to its end and keeps the last
attribute of each type.
-/

namespace Dnvme.Nvme.Netlink

open Dnvme.Driver
open Dnvme.Nvme
open Dnvme.Lib.ByteMemory

/-! ## Chains -/

/-- An attribute that is long enough for its header and not longer than what
is left. -/
def Accepted (nlh : Memory) (nla : Nat) (left : Int) : Prop :=
  4 ≤ nlaLenOf nlh nla ∧ (nlaLenOf nlh nla : Int) ≤ left

/-- The attributes from an offset on, where they end and how many bytes are
left there. -/
inductive Chain (nlh : Memory) : Nat → Int → List Nat → Nat → Int → Prop
  | stop {nla : Nat} {left : Int} : ¬ Accepted nlh nla left →
      Chain nlh nla left [] nla left
  | next {nla last : Nat} {left remains : Int} {rest : List Nat} :
      Accepted nlh nla left →
      Chain nlh (nla + nlaAlign (nlaLenOf nlh nla))
        (left - nlaAlign (nlaLenOf nlh nla)) rest last remains →
      Chain nlh nla left (nla :: rest) last remains

/-- The last attribute of a type. -/
def IsLastOf (nlh : Memory) (type : Nat) (attrs : List Nat) (nla : Nat) :
    Prop :=
  ∃ before after, attrs = before ++ nla :: after ∧ nlaType nlh nla = type ∧
    ∀ other ∈ after, nlaType nlh other ≠ type

/-- The table after some attributes. -/
def enterAll (nlh : Memory) (maxtype : Nat) (attrs : List Nat) :
    Nat → Option Nat :=
  attrs.foldl (fun tb nla => enter maxtype (nlaType nlh nla) nla tb)
    fun _ => none

/-- What is read on the way through a chain. -/
def chainReads (attrs : List Nat) (last : Nat) (remains : Int) : List Range :=
  (attrs.flatMap fun nla => [(nla, 2), (nla + 2, 2)]) ++
    if 0 ≤ remains ∧ remains < 4 then [] else [(last, 2)]

section Chains

variable {nlh : Memory} {nla last : Nat} {left remains : Int}
  {attrs : List Nat}

/-- There is one chain only. -/
theorem Chain.unique (chain : Chain nlh nla left attrs last remains) :
    ∀ {others : List Nat} {end_ : Nat} {rest : Int},
      Chain nlh nla left others end_ rest →
      others = attrs ∧ end_ = last ∧ rest = remains := by
  induction chain with
  | stop stops =>
      intro others end_ rest other
      cases other with
      | stop _ => exact ⟨rfl, rfl, rfl⟩
      | next accepted _ => exact absurd accepted stops
  | next accepted _ ih =>
      intro others end_ rest other
      cases other with
      | stop stops => exact absurd accepted stops
      | next _ other =>
          obtain ⟨rfl, rfl, rfl⟩ := ih other
          exact ⟨rfl, rfl, rfl⟩

end Chains

/-! ## The table -/

section Table

variable {nlh : Memory} {maxtype type : Nat} {attrs : List Nat}

theorem enter_of_ne {other nla : Nat} {tb : Nat → Option Nat}
    (different : other ≠ type) :
    enter maxtype type nla tb other = tb other := by
  unfold enter
  split
  · rfl
  · exact Function.update_of_ne different _ _

theorem enter_self {nla : Nat} {tb : Nat → Option Nat}
    (known : type ≤ maxtype) : enter maxtype type nla tb type = some nla := by
  unfold enter
  rw [if_neg (not_lt.mpr known)]
  exact Function.update_self _ _ _

theorem enterAll_concat (attrs : List Nat) (nla : Nat) :
    enterAll nlh maxtype (attrs ++ [nla]) =
      enter maxtype (nlaType nlh nla) nla (enterAll nlh maxtype attrs) := by
  unfold enterAll
  rw [List.foldl_append]
  rfl

/-- Larger types are not entered. -/
theorem enterAll_of_large (large : maxtype < type) (attrs : List Nat) :
    enterAll nlh maxtype attrs type = none := by
  induction attrs using List.reverseRecOn with
  | nil => rfl
  | append_singleton attrs nla ih =>
      rw [enterAll_concat]
      by_cases this : type = nlaType nlh nla
      · rw [← this]
        unfold enter
        rw [if_pos large]
        exact ih
      · rw [enter_of_ne this]
        exact ih

/-- The entry of a type is its last attribute. -/
theorem enterAll_iff (known : type ≤ maxtype) (attrs : List Nat) (nla : Nat) :
    enterAll nlh maxtype attrs type = some nla ↔
      IsLastOf nlh type attrs nla := by
  induction attrs using List.reverseRecOn with
  | nil =>
      constructor
      · intro never
        cases never
      · rintro ⟨before, after, never, _⟩
        exact absurd never.symm (by simp)
  | append_singleton attrs final ih =>
      rw [enterAll_concat]
      by_cases this : type = nlaType nlh final
      · rw [← this, enter_self known]
        constructor
        · intro same
          cases same
          exact ⟨attrs, [], rfl, this.symm, fun _ none_ =>
            absurd none_ List.not_mem_nil⟩
        · rintro ⟨before, after, parts, _, later⟩
          rcases List.eq_nil_or_concat after with rfl | ⟨init, end_, rfl⟩
          · have same := List.append_inj_right' parts rfl
            exact congrArg some (List.cons.inj same).1
          · rw [List.concat_eq_append, ← List.cons_append,
              ← List.append_assoc] at parts
            have same := List.append_inj_right' parts rfl
            exact absurd this.symm (later final (by
              rw [(List.cons.inj same).1]
              simp))
      · rw [enter_of_ne this, ih]
        constructor
        · rintro ⟨before, after, rfl, type, later⟩
          refine ⟨before, after ++ [final], by simp, type, ?_⟩
          intro other member
          rcases List.mem_append.mp member with old | new
          · exact later other old
          · rw [List.mem_singleton.mp new]
            exact Ne.symm this
        · rintro ⟨before, after, parts, type, later⟩
          rcases List.eq_nil_or_concat after with rfl | ⟨init, end_, rfl⟩
          · have same := List.append_inj_right' parts rfl
            rw [(List.cons.inj same).1] at this
            exact absurd type.symm this
          · rw [List.concat_eq_append, ← List.cons_append,
              ← List.append_assoc] at parts
            refine ⟨before, init, List.append_inj_left' parts rfl, type, ?_⟩
            intro other member
            exact later other (by simp [member])

end Table

/-! ## The loop -/

section Loop

variable {nlh : Memory} {maxtype : Nat}

theorem nlaOk_eq (nla : Nat) {left : Int} (low : -2 ^ 31 ≤ left)
    (high : left < 2 ^ 31) :
    (nlaOk nlh nla left).2 =
        (if 0 ≤ left ∧ left < 4 then [] else [(nla, 2)]) ∧
      ((nlaOk nlh nla left).1 = true ↔ Accepted nlh nla left) := by
  unfold nlaOk Accepted
  by_cases few : 0 ≤ left ∧ left < 4
  · rw [if_neg (by omega), if_pos few]
    refine ⟨rfl, fun never => absurd never Bool.false_ne_true, ?_⟩
    rintro ⟨long, short⟩
    omega
  · rw [if_pos (by omega), if_neg few]
    exact ⟨rfl, decide_eq_true_iff⟩

/-- The loop follows the chain to its end.  Each turn leaves at least four
bytes fewer, which is why the loop ends. -/
theorem nlaParseLoop_chain :
    ∀ (fuel nla : Nat) (past : List Nat) (walked : Walked),
      walked.rem < fuel → 0 < fuel → -2 ^ 31 ≤ walked.rem →
      walked.rem < 2 ^ 31 → walked.tb = enterAll nlh maxtype past →
      ∃ attrs last remains, Chain nlh nla walked.rem attrs last remains ∧
        nlaParseLoop nlh maxtype fuel nla walked = .ok
          ⟨enterAll nlh maxtype (past ++ attrs), remains,
            walked.reads ++ chainReads attrs last remains⟩ := by
  intro fuel
  induction fuel with
  | zero => exact fun _ _ _ _ never => absurd never (Nat.lt_irrefl 0)
  | succ fuel ih =>
      intro nla past walked enough _ low high table
      obtain ⟨seen, ok⟩ := nlaOk_eq nla low high
      unfold nlaParseLoop
      dsimp only
      by_cases accepted : Accepted nlh nla walked.rem
      · have bounds := nlaAlign_bounds (nlaLenOf nlh nla)
        have long := accepted.1
        have short := accepted.2
        have entered : enter maxtype (nlaType nlh nla) nla walked.tb =
            enterAll nlh maxtype (past ++ [nla]) := by
          rw [enterAll_concat, table]
        obtain ⟨attrs, last, remains, chain, done⟩ := ih
          (nla + nlaAlign (nlaLenOf nlh nla)) (past ++ [nla])
          ⟨enter maxtype (nlaType nlh nla) nla walked.tb,
            walked.rem - nlaAlign (nlaLenOf nlh nla),
            walked.reads ++ (nlaOk nlh nla walked.rem).2 ++ [(nla + 2, 2)]⟩
          (by dsimp only; omega) (by omega) (by dsimp only; omega)
          (by dsimp only; omega) entered
        refine ⟨nla :: attrs, last, remains, .next accepted chain, ?_⟩
        rw [if_pos (ok.mpr accepted), done, seen, if_neg (by omega)]
        unfold chainReads
        simp only [List.append_assoc, List.flatMap_cons, List.cons_append,
          List.nil_append]
      · refine ⟨[], nla, walked.rem, .stop accepted, ?_⟩
        rw [if_neg (ok.not.mpr accepted), seen, List.append_nil, ← table]
        rfl

/-- The parser follows the chain behind the headers. -/
theorem genlmsgParse_chain (maxtype : Nat)
    (headers : nlmsgHdrlen + genlHdrlen ≤ nlmsgLen nlh) :
    ∃ attrs last remains,
      Chain nlh (nlmsgHdrlen + genlHdrlen) (genlmsgAttrlen nlh 0) attrs last
        remains ∧
      genlmsgParse nlh 0 maxtype = .ok (0, ⟨enterAll nlh maxtype attrs,
        remains, chainReads attrs last remains⟩) := by
  have valid : genlmsgValidHdr nlh 0 = true := by
    unfold genlmsgValidHdr
    rw [decide_eq_true_iff]
    exact ⟨headers, Int.emod_nonneg _ (by decide)⟩
  have low := s32_range (genlmsgLen nlh - nlaAlign 0)
  obtain ⟨attrs, last, remains, chain, done⟩ := @nlaParseLoop_chain nlh
    maxtype ((genlmsgAttrlen nlh 0).toNat + 1) (nlmsgHdrlen + genlHdrlen) []
    ⟨fun _ => none, genlmsgAttrlen nlh 0, []⟩ (by dsimp only; omega)
    (Nat.succ_pos _) low.1 low.2 rfl
  refine ⟨attrs, last, remains, chain, ?_⟩
  unfold genlmsgParse nlaParse
  rw [if_pos valid]
  exact congrArg (· >>= fun walked => pure (0, walked)) done

/-- A message that is too short for its headers is refused. -/
theorem genlmsgParse_short (maxtype : Nat)
    (short : nlmsgLen nlh < nlmsgHdrlen + genlHdrlen) :
    genlmsgParse nlh 0 maxtype =
      .ok (-Errno.EPERM, ⟨fun _ => none, 0, []⟩) := by
  have invalid : ¬ genlmsgValidHdr nlh 0 = true := by
    unfold genlmsgValidHdr
    rw [decide_eq_true_iff]
    exact fun valid => absurd valid.1 (not_le.mpr short)
  exact if_neg invalid

end Loop

end Dnvme.Nvme.Netlink
