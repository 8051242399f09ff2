import Mathlib

/-!
# Postconditions of computations that may stop

A computation in `Except` satisfies a specification when its result has a
property, or when it stops with an error that is allowed.  The rules follow the
structure of a program.
-/

namespace Dnvme.Lib.Outcomes

variable {ε α β : Type}

/-- The result has the property `post`, or the error is one of `allowed`. -/
def Gives (allowed : ε → Prop) (post : α → Prop) : Except ε α → Prop
  | .ok value => post value
  | .error error => allowed error

variable {allowed : ε → Prop} {post next : α → Prop} {last : β → Prop}

@[simp]
theorem gives_ok (value : α) :
    Gives allowed post (.ok value) ↔ post value :=
  Iff.rfl

@[simp]
theorem gives_pure (value : α) :
    Gives allowed post (pure value) ↔ post value :=
  Iff.rfl

@[simp]
theorem gives_error (error : ε) :
    Gives allowed post (.error error : Except ε α) ↔ allowed error :=
  Iff.rfl

/-- A sequence of two steps. -/
theorem Gives.bind {first : Except ε α} {rest : α → Except ε β}
    (start : Gives allowed post first)
    (onward : ∀ value, post value → Gives allowed last (rest value)) :
    Gives allowed last (first >>= rest) := by
  cases first with
  | error error => exact start
  | ok value => exact onward value start

/-- A weaker property of the result. -/
theorem Gives.mono {run : Except ε α} (given : Gives allowed post run)
    (weaker : ∀ value, post value → next value) : Gives allowed next run := by
  cases run with
  | error error => exact given
  | ok value => exact weaker value given

/-- More errors may be allowed. -/
theorem Gives.allow {more : ε → Prop} {run : Except ε α}
    (given : Gives allowed post run) (weaker : ∀ error, allowed error →
      more error) : Gives more post run := by
  cases run with
  | error error => exact weaker error given
  | ok value => exact given

/-- A choice between two programs. -/
theorem Gives.ite {condition : Prop} [Decidable condition]
    {yes no : Except ε α} (ifYes : condition → Gives allowed post yes)
    (ifNo : ¬ condition → Gives allowed post no) :
    Gives allowed post (if condition then yes else no) := by
  split
  · exact ifYes ‹_›
  · exact ifNo ‹_›

/-- What is known of a result that a computation gave. -/
theorem Gives.elim {run : Except ε α} {value : α}
    (given : Gives allowed post run) (done : run = .ok value) : post value := by
  subst done
  exact given

/-- A computation without an allowed error has a result. -/
theorem Gives.exists_ok {run : Except ε α}
    (given : Gives (fun _ => False) post run) :
    ∃ value, run = .ok value ∧ post value := by
  cases run with
  | error error => exact (show False from given).elim
  | ok value => exact ⟨value, rfl, given⟩

end Dnvme.Lib.Outcomes
