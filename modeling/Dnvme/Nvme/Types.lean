import Dnvme.Lib.Results
import Dnvme.Lib.Shuffle
import Dnvme.Driver.Types

/-!
# Programs of the user

The library and the tests on top of it are user programs.  A run of one of
their functions gives a result unless something stops the program; the numbers
of `rand()` are one stream, of which a function takes the next ones.
-/

namespace Dnvme.Nvme

open Dnvme.Lib.Results
open Dnvme.Lib.Shuffle

/-- What stops a program instead of returning an error code. -/
inductive Stop where
  /-- An element outside of a table is accessed. -/
  | outOfBounds
  /-- The operand of a division is zero. -/
  | divisionByZero
  /-- `BUG_ON`. -/
  | bugOn
  /-- A loop never ends. -/
  | endlessLoop
  /-- A number is shifted by its width or more. -/
  | shiftTooFar
  /-- Memory is freed that is not allocated. -/
  | badFree
  deriving DecidableEq, Repr

/-- The result of a function of the user. -/
abbrev Run (α : Type) := Except Stop α

/-- The element of a table. -/
def tableAt {α : Type} (table : List α) (index : Nat) : Run α :=
  match table[index]? with
  | none => .error .outOfBounds
  | some element => .ok element

/-- The remainder of a division. -/
def remainder (number by_ : Nat) : Run Nat :=
  if by_ = 0 then .error .divisionByZero else .ok (number % by_)

/-- `swap(table[i], table[i + rand() % (count - i)])`, for a field of the
elements. -/
def shuffleTurn {α β : Type} (field : Field α β) (count number : Nat)
    (table : List α) (i : Nat) : Run (List α) := do
  let more ← remainder number (count - i)
  match exchange field table i (i + more) with
  | none => .error .outOfBounds
  | some next => .ok next

section Tables

variable {α β : Type}

theorem tableAt_ok {table : List α} {index : Nat}
    (inside : index < table.length) :
    tableAt table index = .ok table[index] := by
  unfold tableAt
  rw [List.getElem?_eq_getElem inside]

theorem remainder_ok {number by_ : Nat} (some_ : 0 < by_) :
    remainder number by_ = .ok (number % by_) :=
  if_neg (Nat.ne_of_gt some_)

/-- A turn of a shuffle exchanges the field of two elements. -/
theorem shuffleTurn_exchanged {field : Field α β} {count number i : Nat}
    {table next : List α}
    (done : shuffleTurn field count number table i = .ok next) :
    Exchanged field table next := by
  rcases ok_of_bind done with ⟨more, _, rest⟩
  split at rest
  · cases rest
  · rename_i exchanges
    cases rest
    exact exchange_exchanged exchanges

/-- Inside of the table a turn has a result. -/
theorem shuffleTurn_some (field : Field α β) {count i : Nat} (number : Nat)
    {table : List α} (length : table.length = count) (inside : i < count) :
    ∃ next, shuffleTurn field count number table i = .ok next := by
  have room : 0 < count - i := Nat.sub_pos_of_lt inside
  have more := Nat.mod_lt number room
  obtain ⟨next, exchanges⟩ := exchange_some field
    (show i < table.length by omega)
    (show i + number % (count - i) < table.length by omega)
  refine ⟨next, ?_⟩
  simp only [shuffleTurn, remainder_ok room, bind, Except.bind, exchanges]

end Tables

end Dnvme.Nvme
