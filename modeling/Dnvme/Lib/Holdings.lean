import Mathlib

/-!
# Objects and their holders

The live objects of a program are a multiset.  An object is freed at most once
because a free takes it out, and fails where it is not in there.  The holders
of a table account for a part of the multiset, which changes with the holder
that is replaced.
-/

namespace Dnvme.Lib.Holdings

variable {ε Object Holder : Type}

/-- The object of a pointer. -/
def pointed : Option Object → Multiset Object
  | none => 0
  | some object => {object}

@[simp]
theorem pointed_none : pointed (none : Option Object) = 0 :=
  rfl

@[simp]
theorem pointed_some (object : Object) : pointed (some object) = {object} :=
  rfl

section Freeing

variable [DecidableEq Object]

/-- Free an object; `bad` is the error when it is not live. -/
def free (bad : ε) (object : Object) (live : Multiset Object) :
    Except ε (Multiset Object) :=
  if object ∈ live then .ok (live.erase object) else .error bad

/-- Free the object of a pointer that is not `NULL`. -/
def freeSet (bad : ε) (pointer : Option Object) (live : Multiset Object) :
    Except ε (Multiset Object) :=
  pointer.elim (.ok live) fun object => free bad object live

theorem free_cons (bad : ε) (object : Object) (rest : Multiset Object) :
    free bad object (object ::ₘ rest) = .ok rest := by
  unfold free
  rw [if_pos (Multiset.mem_cons_self object rest), Multiset.erase_cons_head]

/-- A free wherever the object is in a sum. -/
theorem free_of_eq (bad : ε) {object : Object} {live rest : Multiset Object}
    (parts : live = rest + {object}) : free bad object live = .ok rest := by
  rw [parts, add_comm, Multiset.singleton_add]
  exact free_cons bad object rest

theorem freeSet_pointed (bad : ε) (pointer : Option Object)
    (rest : Multiset Object) :
    freeSet bad pointer (pointed pointer + rest) = .ok rest := by
  cases pointer with
  | none => exact congrArg Except.ok (zero_add rest)
  | some object =>
      change free bad object ({object} + rest) = _
      rw [Multiset.singleton_add, free_cons]

end Freeing

section Tables

variable {held : Holder → Multiset Object} {table : List Holder}

/-- What the holders of a table account for. -/
def total (held : Holder → Multiset Object) (table : List Holder) :
    Multiset Object :=
  (table.map held).sum

/-- One holder can be replaced apart from the others. -/
theorem total_split {i : Nat} {old : Holder} (here : table[i]? = some old) :
    ∃ rest, total held table = held old + rest ∧
      ∀ new, total held (table.set i new) = held new + rest := by
  induction table generalizing i with
  | nil => cases here
  | cons first others ih =>
      unfold total
      cases i with
      | zero =>
          cases here
          exact ⟨total held others, List.sum_cons, fun _ => List.sum_cons⟩
      | succ i =>
          obtain ⟨rest, before, after⟩ := ih here
          refine ⟨held first + rest, ?_, fun new => ?_⟩
          · change held first + total held others = _
            rw [before, add_left_comm]
          · change held first + total held (others.set i new) = _
            rw [after, add_left_comm]

/-- Holders of nothing account for nothing. -/
theorem total_eq_zero (none_ : ∀ holder ∈ table, held holder = 0) :
    total held table = 0 := by
  unfold total
  refine List.sum_eq_zero fun objects member => ?_
  obtain ⟨holder, there, rfl⟩ := List.mem_map.mp member
  exact none_ holder there

theorem mem_total {object : Object} (member : object ∈ total held table) :
    ∃ holder ∈ table, object ∈ held holder := by
  induction table with
  | nil => exact absurd member (Multiset.notMem_zero object)
  | cons first others ih =>
      unfold total at member
      rw [List.map_cons, List.sum_cons, Multiset.mem_add] at member
      rcases member with here | later
      · exact ⟨first, List.mem_cons_self, here⟩
      · obtain ⟨holder, there, holds⟩ := ih later
        exact ⟨holder, List.mem_cons_of_mem first there, holds⟩

theorem mem_total_of_mem {object : Object} {holder : Holder}
    (there : holder ∈ table) (holds : object ∈ held holder) :
    object ∈ total held table := by
  obtain ⟨i, here⟩ := List.getElem?_of_mem there
  obtain ⟨rest, parts, _⟩ := @total_split Object Holder held table i holder here
  rw [parts, Multiset.mem_add]
  exact .inl holds

theorem total_append (held : Holder → Multiset Object)
    (table others : List Holder) :
    total held (table ++ others) = total held table + total held others := by
  unfold total
  rw [List.map_append, List.sum_append]

/-- A holder that leaves the table takes its part along. -/
theorem total_eraseP (held : Holder → Multiset Object)
    {leaves : Holder → Bool} {holder : Holder}
    (found : table.find? leaves = some holder) :
    total held table = total held (table.eraseP leaves) + held holder := by
  induction table with
  | nil => cases found
  | cons first others ih =>
      cases first_ : leaves first with
      | true =>
          rw [List.find?_cons_of_pos first_] at found
          cases found
          rw [List.eraseP_cons_of_pos first_, add_comm]
          exact List.sum_cons
      | false =>
          have goes : ¬ leaves first = true := by
            rw [first_]
            exact Bool.false_ne_true
          rw [List.find?_cons_of_neg goes] at found
          rw [List.eraseP_cons_of_neg goes]
          change held first + total held others =
            held first + total held (others.eraseP leaves) + held holder
          rw [ih found, add_assoc]

end Tables

section Flags

variable {ι : Type}

/-- The objects of the flags that are set. -/
def flagged (places : Finset ι) (objects : ι → Multiset Object)
    (flag : ι → Bool) : Multiset Object :=
  ∑ i ∈ places, if flag i then objects i else 0

variable {places : Finset ι} {objects : ι → Multiset Object} {flag : ι → Bool}

theorem flagged_none (down : ∀ i ∈ places, flag i = false) :
    flagged places objects flag = 0 := by
  refine Finset.sum_eq_zero fun i there => ?_
  rw [down i there]
  rfl

variable [DecidableEq ι]

/-- One flag is apart from the others. -/
theorem flagged_update (objects : ι → Multiset Object) (flag : ι → Bool) {i : ι}
    (there : i ∈ places) (value : Bool) :
    flagged places objects (Function.update flag i value) =
      flagged (places.erase i) objects flag +
        if value then objects i else 0 := by
  unfold flagged
  rw [← Finset.sum_erase_add places _ there, Function.update_self]
  congr 1
  refine Finset.sum_congr rfl fun j other => ?_
  rw [Function.update_of_ne (Finset.ne_of_mem_erase other)]

/-- A flag is set for objects that are taken. -/
theorem flagged_raise {i : ι} (there : i ∈ places) (down : flag i = false) :
    flagged places objects (Function.update flag i true) =
      flagged places objects flag + objects i := by
  have before := flagged_update objects flag there false
  rw [← down, Function.update_eq_self, down] at before
  rw [flagged_update objects flag there, before]
  exact congrArg (· + objects i) (add_zero _).symm

/-- A flag is cleared for objects that are given back. -/
theorem flagged_lower {i : ι} (there : i ∈ places) (up : flag i = true) :
    flagged places objects flag =
      flagged places objects (Function.update flag i false) + objects i := by
  have before := flagged_update objects flag there true
  rw [← up, Function.update_eq_self, up] at before
  rw [before, flagged_update objects flag there]
  exact congrArg (· + objects i) (add_zero _).symm

end Flags

end Dnvme.Lib.Holdings
