import Mathlib

/-!
# Ledgers of owned resources

Resources are handed to owners and released again.  A ledger records who owns
what, which resources are live and what was released, in order.  It is sound
when nobody owns a dead resource, no resource has two owners, and nothing is
released twice.  It is complete when every live resource has an owner, that
is, when nothing has leaked.
-/

namespace Dnvme.Lib.Ownership

variable {Owner Resource : Type}

/-- Who owns what, what is live and what was released. -/
structure Ledger (Owner Resource : Type) where
  owns : Owner → Resource → Prop
  live : Resource → Prop
  released : List Resource

/-- Owners own live resources, at most one owner each, and a release happens
once. -/
structure Sound (ledger : Ledger Owner Resource) : Prop where
  live : ∀ {owner resource}, ledger.owns owner resource →
    ledger.live resource
  single : ∀ {first second resource}, ledger.owns first resource →
    ledger.owns second resource → first = second
  once : ledger.released.Nodup
  apart : ∀ {resource}, ledger.live resource →
    resource ∉ ledger.released

/-- Nothing has leaked. -/
def Complete (ledger : Ledger Owner Resource) : Prop :=
  ∀ resource, ledger.live resource → ∃ owner, ledger.owns owner resource

/-- In a sound and complete ledger every live resource has one owner. -/
theorem Sound.existsUnique {ledger : Ledger Owner Resource}
    (sound : Sound ledger) (complete : Complete ledger) {resource : Resource}
    (live : ledger.live resource) :
    ∃! owner, ledger.owns owner resource := by
  rcases complete resource live with ⟨owner, owns⟩
  exact ⟨owner, owns, fun other also => sound.single also owns⟩

/-! ## No change -/

/-- Two ledgers that say the same. -/
structure Same (before after : Ledger Owner Resource) : Prop where
  owns : ∀ owner resource,
    after.owns owner resource ↔ before.owns owner resource
  live : ∀ resource, after.live resource ↔ before.live resource
  released : after.released = before.released

/-! ## Handing out a resource -/

/-- A new resource is handed to one owner. -/
structure Given (before after : Ledger Owner Resource) (owner : Owner)
    (resource : Resource) : Prop where
  owns : ∀ other item, after.owns other item ↔
    before.owns other item ∨ (other = owner ∧ item = resource)
  live : ∀ item, after.live item ↔ before.live item ∨ item = resource
  released : after.released = before.released
  dead : ¬ before.live resource
  fresh : resource ∉ before.released

theorem Given.sound {before after : Ledger Owner Resource} {owner : Owner}
    {resource : Resource} (given : Given before after owner resource)
    (sound : Sound before) : Sound after where
  live owns := by
    rcases (given.owns _ _).mp owns with old | ⟨_, rfl⟩
    · exact (given.live _).mpr (Or.inl (sound.live old))
    · exact (given.live _).mpr (Or.inr rfl)
  single one two := by
    rcases (given.owns _ _).mp one with old | ⟨rfl, rfl⟩
    · rcases (given.owns _ _).mp two with also | ⟨_, rfl⟩
      · exact sound.single old also
      · exact absurd (sound.live old) given.dead
    · rcases (given.owns _ _).mp two with also | ⟨rfl, _⟩
      · exact absurd (sound.live also) given.dead
      · rfl
  once := by
    rw [given.released]
    exact sound.once
  apart live := by
    rw [given.released]
    rcases (given.live _).mp live with old | rfl
    · exact sound.apart old
    · exact given.fresh

theorem Given.complete {before after : Ledger Owner Resource} {owner : Owner}
    {resource : Resource} (given : Given before after owner resource)
    (complete : Complete before) : Complete after := by
  intro item live
  rcases (given.live _).mp live with old | rfl
  · rcases complete item old with ⟨other, owns⟩
    exact ⟨other, (given.owns _ _).mpr (Or.inl owns)⟩
  · exact ⟨owner, (given.owns _ _).mpr (Or.inr ⟨rfl, rfl⟩)⟩

/-! ## Owners that go away -/

/-- Some owners go away, and resources they owned are released. -/
structure Retired (before after : Ledger Owner Resource)
    (gone : Owner → Prop) (dropped : List Resource) : Prop where
  owns : ∀ owner resource, after.owns owner resource ↔
    before.owns owner resource ∧ ¬ gone owner
  live : ∀ resource, after.live resource ↔
    before.live resource ∧ resource ∉ dropped
  released : after.released = dropped.reverse ++ before.released
  nodup : dropped.Nodup
  owned : ∀ resource ∈ dropped,
    ∃ owner, gone owner ∧ before.owns owner resource

theorem Retired.sound {before after : Ledger Owner Resource}
    {gone : Owner → Prop} {dropped : List Resource}
    (retired : Retired before after gone dropped) (sound : Sound before) :
    Sound after where
  live owns := by
    rcases (retired.owns _ _).mp owns with ⟨old, stays⟩
    refine (retired.live _).mpr ⟨sound.live old, fun listed => stays ?_⟩
    rcases retired.owned _ listed with ⟨other, leaves, also⟩
    rw [sound.single old also]
    exact leaves
  single one two :=
    sound.single ((retired.owns _ _).mp one).1 ((retired.owns _ _).mp two).1
  once := by
    rw [retired.released, List.nodup_append]
    refine ⟨List.nodup_reverse.mpr retired.nodup, sound.once, ?_⟩
    intro resource listed other old equal
    subst other
    rcases retired.owned _ (List.mem_reverse.mp listed) with ⟨_, _, owns⟩
    exact sound.apart (sound.live owns) old
  apart live := by
    rw [retired.released]
    rcases (retired.live _).mp live with ⟨old, kept⟩
    intro listed
    rcases List.mem_append.mp listed with new | before
    · exact kept (List.mem_reverse.mp new)
    · exact sound.apart old before

/-- Nothing leaks when everything that was owned is released. -/
theorem Retired.complete {before after : Ledger Owner Resource}
    {gone : Owner → Prop} {dropped : List Resource}
    (retired : Retired before after gone dropped)
    (all : ∀ owner resource, gone owner → before.owns owner resource →
      resource ∈ dropped) (complete : Complete before) : Complete after := by
  intro resource live
  rcases (retired.live _).mp live with ⟨old, kept⟩
  rcases complete resource old with ⟨owner, owns⟩
  exact ⟨owner, (retired.owns _ _).mpr
    ⟨owns, fun leaves => kept (all owner resource leaves owns)⟩⟩

/-- Nobody goes away when nothing changes. -/
theorem Same.retired {before after : Ledger Owner Resource}
    (same : Same before after) :
    Retired before after (fun _ => False) [] where
  owns owner resource := by
    rw [same.owns, not_false_eq_true, and_true]
  live resource := by
    rw [same.live, and_iff_left List.not_mem_nil]
  released := same.released
  nodup := List.nodup_nil
  owned _ listed := absurd listed List.not_mem_nil

end Dnvme.Lib.Ownership
