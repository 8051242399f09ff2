import Mathlib

/-!
# Computations that may stop

A computation in `Except` gives a result or stops.  The rules of this file
take a sequence apart and carry an invariant through a loop.
-/

namespace Dnvme.Lib.Results

variable {ε α β : Type}

/-- A sequence of two steps that gives a result. -/
theorem ok_of_bind {first : Except ε α} {rest : α → Except ε β} {result : β}
    (done : (first >>= rest) = .ok result) :
    ∃ value, first = .ok value ∧ rest value = .ok result := by
  cases first with
  | error stop => cases done
  | ok value => exact ⟨value, rfl, done⟩

/-- A result that was mapped. -/
theorem ok_of_map {first : Except ε α} {change : α → β} {result : β}
    (done : first.map change = .ok result) :
    ∃ value, first = .ok value ∧ change value = result := by
  cases first with
  | error stop => cases done
  | ok value => exact ⟨value, rfl, Except.ok.inj done⟩

/-- A map whose every step gives a result. -/
theorem mapM_ok {step : α → Except ε β} {value : α → β} :
    ∀ {items : List α}, (∀ item ∈ items, step item = .ok (value item)) →
      items.mapM step = .ok (items.map value)
  | [], _ => rfl
  | item :: items, all => by
      have rest := mapM_ok fun other member =>
        all other (List.mem_cons_of_mem item member)
      rw [List.mapM_cons, all item List.mem_cons_self, rest]
      rfl

/-- The first step of a map that gives a result. -/
theorem ok_of_mapM_cons {step : α → Except ε β} {item : α} {items : List α}
    {results : List β} (done : (item :: items).mapM step = .ok results) :
    ∃ value, step item = .ok value := by
  rw [List.mapM_cons] at done
  rcases ok_of_bind done with ⟨value, first, _⟩
  exact ⟨value, first⟩

/-- What each turn of a loop that gives a result keeps, the loop keeps. -/
theorem foldlM_keeps {holds : β → Prop} {turn : β → α → Except ε β}
    (one : ∀ {state next : β} {item : α}, holds state →
      turn state item = .ok next → holds next) (items : List α) :
    ∀ {state next : β}, holds state →
      items.foldlM turn state = .ok next → holds next := by
  induction items with
  | nil =>
      intro state next start done
      cases done
      exact start
  | cons item items ih =>
      intro state next start done
      rw [List.foldlM_cons] at done
      rcases ok_of_bind done with ⟨after, first, rest⟩
      exact ih (one start first) rest

/-- A loop over `turns` whose every turn gives a result and keeps an invariant
of the turns so far. -/
theorem foldlM_rule (step : β → α → Except ε β) (Inv : List α → β → Prop)
    (start : β) (turns : List α)
    (keeps : ∀ past turn rest state, turns = past ++ turn :: rest →
      Inv past state → ∃ next, step state turn = .ok next ∧
        Inv (past ++ [turn]) next)
    (first : Inv [] start) :
    ∃ last, turns.foldlM step start = .ok last ∧ Inv turns last := by
  have onward (todo : List α) :
      ∀ past state, turns = past ++ todo → Inv past state →
        ∃ last, todo.foldlM step state = .ok last ∧ Inv turns last := by
    induction todo with
    | nil =>
        intro past state parts inv
        rw [List.append_nil] at parts
        exact ⟨state, rfl, parts ▸ inv⟩
    | cons turn rest ih =>
        intro past state parts inv
        obtain ⟨next, steps, kept⟩ := keeps past turn rest state parts inv
        obtain ⟨last, done, final⟩ := ih (past ++ [turn]) next
          (by rw [parts, List.append_assoc]; rfl) kept
        refine ⟨last, ?_, final⟩
        rw [List.foldlM_cons, steps]
        exact done
  exact onward turns [] start rfl first

end Dnvme.Lib.Results
