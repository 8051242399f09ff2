import Dnvme.Lib.Results

/-!
# Loops over tables

A loop counts from zero, and its turn changes the element with the number of
the turn.  If the loop gives a result, then each element is what its own turn
makes of it.
-/

namespace Dnvme.Lib.TableLoop

open Dnvme.Lib.Results

variable {ε α β : Type}

section Counting

variable {step : β → Nat → Except ε β} {Inv : Nat → β → Prop} {start : β}

/-- A counting loop whose every turn gives a result and keeps an invariant of
the counter. -/
theorem count_rule {count : Nat}
    (keeps : ∀ i state, i < count → Inv i state →
      ∃ next, step state i = .ok next ∧ Inv (i + 1) next)
    (first : Inv 0 start) :
    ∃ last, (List.range count).foldlM step start = .ok last ∧
      Inv count last := by
  induction count with
  | zero => exact ⟨start, rfl, first⟩
  | succ count ih =>
      obtain ⟨state, done, inv⟩ := ih fun i state below =>
        keeps i state (Nat.lt_succ_of_lt below)
      obtain ⟨last, turn, final⟩ := keeps count state (Nat.lt_succ_self count)
        inv
      refine ⟨last, ?_, final⟩
      rw [List.range_succ, List.foldlM_append, done]
      change ([count].foldlM step state) = .ok last
      rw [List.foldlM_cons, turn]
      rfl

/-- The last turn of a counting loop that gives a result. -/
theorem count_succ {count : Nat} {last : β}
    (done : (List.range (count + 1)).foldlM step start = .ok last) :
    ∃ state, (List.range count).foldlM step start = .ok state ∧
      step state count = .ok last := by
  rw [List.range_succ, List.foldlM_append] at done
  rcases ok_of_bind done with ⟨state, before, rest⟩
  rw [List.foldlM_cons] at rest
  rcases ok_of_bind rest with ⟨final, turn, finish⟩
  cases finish
  exact ⟨state, before, turn⟩

/-- An invariant of the turns of a counting loop that gives a result. -/
theorem count_keeps {count : Nat} {last : β}
    (keeps : ∀ i state next, i < count → Inv i state →
      step state i = .ok next → Inv (i + 1) next)
    (first : Inv 0 start)
    (done : (List.range count).foldlM step start = .ok last) :
    Inv count last := by
  induction count generalizing last with
  | zero =>
      cases done
      exact first
  | succ count ih =>
      obtain ⟨state, before, turn⟩ := count_succ done
      exact keeps count state last (Nat.lt_succ_self count)
        (ih (fun i state next below =>
          keeps i state next (Nat.lt_succ_of_lt below)) before) turn

end Counting

/-- Change the element at an index; `outside` is the error without one. -/
def updateAt (outside : ε) (turn : α → Except ε α) (table : List α)
    (i : Nat) : Except ε (List α) :=
  match table[i]? with
  | none => .error outside
  | some element => (turn element).map (table.set i)

/-- Each element is made of the old one by its turn. -/
structure Updated (made : Nat → α → α → Prop) (table next : List α) :
    Prop where
  length : next.length = table.length
  each : ∀ i old, table[i]? = some old →
    ∃ new, next[i]? = some new ∧ made i old new

section Updates

variable {outside : ε} {turn : Nat → α → Except ε α}
  {made : Nat → α → α → Prop} {table next : List α}

theorem updateAt_ok {change : α → Except ε α} {i : Nat} {old new : α}
    (here : table[i]? = some old) (changes : change old = .ok new) :
    updateAt outside change table i = .ok (table.set i new) := by
  unfold updateAt
  rw [here]
  exact congrArg (Except.map (table.set i)) changes

theorem ok_of_updateAt {change : α → Except ε α} {i : Nat}
    (done : updateAt outside change table i = .ok next) :
    ∃ old new, table[i]? = some old ∧ change old = .ok new ∧
      next = table.set i new := by
  unfold updateAt at done
  split at done
  · cases done
  · rename_i old here
    obtain ⟨new, changes, rfl⟩ := ok_of_map done
    exact ⟨old, new, here, changes, rfl⟩

/-- The elements before the counter have been changed, and the others have
not. -/
structure UpdatedTo (made : Nat → α → α → Prop) (table : List α)
    (count : Nat) (now : List α) : Prop where
  length : now.length = table.length
  before : ∀ i old, i < count → table[i]? = some old →
    ∃ new, now[i]? = some new ∧ made i old new
  after : ∀ i, count ≤ i → now[i]? = table[i]?

theorem UpdatedTo.start (made : Nat → α → α → Prop) (table : List α) :
    UpdatedTo made table 0 table :=
  ⟨rfl, fun i _ below => absurd below (Nat.not_lt_zero i), fun _ _ => rfl⟩

theorem UpdatedTo.more {count : Nat} {now : List α} {old new : α}
    (updated : UpdatedTo made table count now)
    (here : now[count]? = some old) (makes : made count old new) :
    UpdatedTo made table (count + 1) (now.set count new) := by
  have inside : count < now.length :=
    (List.getElem?_eq_some_iff.mp here).choose
  refine ⟨by rw [List.length_set, updated.length], ?_, ?_⟩
  · intro i first below element
    by_cases last : i = count
    · subst last
      rw [← updated.after i (le_refl i), here] at element
      cases element
      exact ⟨new, List.getElem?_set_self inside, makes⟩
    · obtain ⟨changed, there, earlier⟩ := updated.before i first (by omega)
        element
      exact ⟨changed, by rw [List.getElem?_set_ne (Ne.symm last), there],
        earlier⟩
  · intro i from_
    rw [List.getElem?_set_ne (by omega)]
    exact updated.after i (by omega)

theorem UpdatedTo.updated (all : UpdatedTo made table table.length next) :
    Updated made table next :=
  ⟨all.length, fun i old element => all.before i old
    (List.getElem?_eq_some_iff.mp element).choose element⟩

/-- A loop that gives a result updates the whole table. -/
theorem updates_of_ok
    (done : (List.range table.length).foldlM
      (fun now i => updateAt outside (turn i) now i) table = .ok next) :
    Updated (fun i old new => turn i old = .ok new) table next := by
  have all := @count_keeps _ _ _ (UpdatedTo
      (fun i old new => turn i old = .ok new) table) table _ _
    (fun i now next below updated turned => by
      obtain ⟨old, new, here, changes, rfl⟩ := ok_of_updateAt turned
      exact updated.more here changes)
    (.start _ table) done
  exact all.updated

/-- The loop gives a result if every turn does. -/
theorem updates_ok (outside : ε) (turn : Nat → α → Except ε α)
    (table : List α)
    (all : ∀ i old, ∃ new, turn i old = .ok new ∧ made i old new) :
    ∃ next, (List.range table.length).foldlM
        (fun now i => updateAt outside (turn i) now i) table = .ok next ∧
      Updated made table next := by
  obtain ⟨next, done, updated⟩ := @count_rule _ _
    (fun now i => updateAt outside (turn i) now i) (UpdatedTo made table)
    table table.length
    (fun i now below updated => by
      have element := List.getElem?_eq_getElem below
      obtain ⟨new, changes, makes⟩ := all i table[i]
      have here := (updated.after i (le_refl i)).trans element
      exact ⟨_, updateAt_ok here changes, updated.more here makes⟩)
    (.start made table)
  exact ⟨next, done, updated.updated⟩

/-- A projection that no turn changes. -/
theorem Updated.map_eq {γ : Type} {other : α → γ}
    (updated : Updated made table next)
    (keeps : ∀ i old new, made i old new → other new = other old) :
    next.map other = table.map other := by
  refine List.ext_getElem? fun i => ?_
  rw [List.getElem?_map, List.getElem?_map]
  by_cases inside : i < table.length
  · have element := List.getElem?_eq_getElem inside
    obtain ⟨new, there, makes⟩ := updated.each i _ element
    rw [there, element]
    exact congrArg some (keeps i _ _ makes)
  · rw [List.getElem?_eq_none (not_lt.mp inside), List.getElem?_eq_none
      (updated.length.le.trans (not_lt.mp inside))]

/-- Each element of the result is made of the old one at its index. -/
theorem Updated.made_at (updated : Updated made table next) {i : Nat}
    (inside : i < next.length) :
    ∃ old, table[i]? = some old ∧ made i old next[i] := by
  have old := List.getElem?_eq_getElem (updated.length ▸ inside)
  obtain ⟨new, there, makes⟩ := updated.each i _ old
  rw [List.getElem?_eq_getElem inside] at there
  cases there
  exact ⟨_, old, makes⟩

/-- What every turn establishes holds of every element. -/
theorem Updated.forall_mem {holds : α → Prop}
    (updated : Updated made table next)
    (makes : ∀ i old new, made i old new → holds new) :
    ∀ element ∈ next, holds element := by
  intro element member
  obtain ⟨i, inside, rfl⟩ := List.getElem_of_mem member
  obtain ⟨old, _, turned⟩ := updated.made_at inside
  exact makes i old _ turned

end Updates

end Dnvme.Lib.TableLoop
