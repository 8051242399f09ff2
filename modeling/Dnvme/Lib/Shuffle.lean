import Mathlib

/-!
# Shuffling in place

A shuffle walks over a table and exchanges each element with one that lies at
or behind it.  What is exchanged may be a field of the elements only.  Whatever
the partners are, the values of that field are permuted, and the other fields
stay where they are.
-/

namespace Dnvme.Lib.Shuffle

variable {α β γ : Type}

/-- A field of a record: how it is read and written. -/
structure Field (α β : Type) where
  get : α → β
  put : α → β → α
  get_put : ∀ record value, get (put record value) = value

/-- The whole element as a field. -/
def Field.whole (α : Type) : Field α α where
  get record := record
  put _ value := value
  get_put _ _ := rfl

/-- A projection that writing a field does not change. -/
def Field.Keeps (field : Field α β) (other : α → γ) : Prop :=
  ∀ record value, other (field.put record value) = other record

/-- Exchange a field of two elements; there is no result when one of them is
missing. -/
def exchange (field : Field α β) (table : List α) (i j : Nat) :
    Option (List α) :=
  match table[i]?, table[j]? with
  | some first, some second =>
      some ((table.set i (field.put first (field.get second))).set j
        (field.put second (field.get first)))
  | _, _ => none

section Exchange

variable {field : Field α β} {table next : List α} {i j : Nat}

theorem exchange_some (field : Field α β) (first : i < table.length)
    (second : j < table.length) :
    ∃ next, exchange field table i j = some next := by
  unfold exchange
  rw [List.getElem?_eq_getElem first, List.getElem?_eq_getElem second]
  exact ⟨_, rfl⟩

/-- What an exchange that has a result does. -/
theorem exchange_spec (done : exchange field table i j = some next) :
    ∃ (first : i < table.length) (second : j < table.length),
      next = (table.set i (field.put table[i] (field.get table[j]))).set j
        (field.put table[j] (field.get table[i])) := by
  unfold exchange at done
  split at done
  · rename_i x y here there
    obtain ⟨first, rfl⟩ := List.getElem?_eq_some_iff.mp here
    obtain ⟨second, rfl⟩ := List.getElem?_eq_some_iff.mp there
    exact ⟨first, second, (Option.some.inj done).symm⟩
  · cases done

theorem exchange_length (done : exchange field table i j = some next) :
    next.length = table.length := by
  obtain ⟨_, _, rfl⟩ := exchange_spec done
  rw [List.length_set, List.length_set]

/-- The values of the field are permuted. -/
theorem exchange_perm (done : exchange field table i j = some next) :
    (next.map field.get).Perm (table.map field.get) := by
  obtain ⟨first, second, rfl⟩ := exchange_spec done
  rw [List.map_set, List.map_set, field.get_put, field.get_put]
  have swapped := List.set_set_perm
    (show i < (table.map field.get).length by rwa [List.length_map])
    (show j < (table.map field.get).length by rwa [List.length_map])
  rwa [List.getElem_map, List.getElem_map] at swapped

/-- Everything else stays. -/
theorem exchange_keeps {other : α → γ} (keeps : field.Keeps other)
    (done : exchange field table i j = some next) :
    next.map other = table.map other := by
  obtain ⟨first, second, rfl⟩ := exchange_spec done
  rw [List.map_set, List.map_set, keeps, keeps]
  refine List.ext_getElem (by simp) fun k _ _ => ?_
  simp only [List.getElem_set, List.getElem_map]
  split
  · rename_i same
    subst same
    rfl
  · split
    · rename_i same
      subst same
      rfl
    · rfl

/-- What exchanges of a field do to a table. -/
structure Exchanged (field : Field α β) (table next : List α) : Prop where
  length : next.length = table.length
  perm : (next.map field.get).Perm (table.map field.get)
  keeps : ∀ {γ : Type} {other : α → γ}, field.Keeps other →
    next.map other = table.map other

theorem exchange_exchanged (done : exchange field table i j = some next) :
    Exchanged field table next :=
  ⟨exchange_length done, exchange_perm done, fun keeps =>
    exchange_keeps keeps done⟩

theorem Exchanged.refl (field : Field α β) (table : List α) :
    Exchanged field table table :=
  ⟨rfl, List.Perm.refl _, fun _ => rfl⟩

theorem Exchanged.trans {last : List α} (first : Exchanged field table next)
    (second : Exchanged field next last) : Exchanged field table last :=
  ⟨second.length.trans first.length, second.perm.trans first.perm,
    fun keeps => (second.keeps keeps).trans (first.keeps keeps)⟩

end Exchange

end Dnvme.Lib.Shuffle
