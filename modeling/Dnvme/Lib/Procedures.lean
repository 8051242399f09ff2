import Mathlib

/-!
# Procedures with many outcomes

A program that talks to something else does not determine its outcome.  A
procedure relates the state it starts in to the results it may give and the
states it may leave.  The rules of this file say what every outcome meets.
-/

namespace Dnvme.Lib.Procedures

/-- A procedure over the states `σ`. -/
def Proc (σ α : Type) : Type :=
  σ → α → σ → Prop

instance (σ : Type) : Monad (Proc σ) where
  pure value := fun start result last => result = value ∧ last = start
  bind first rest := fun start result last =>
    ∃ value between, first start value between ∧
      rest value between result last

variable {σ α β ι : Type}

/-- Every outcome of a procedure that starts well. -/
def Holds (before : σ → Prop) (proc : Proc σ α) (after : α → σ → Prop) :
    Prop :=
  ∀ start, before start → ∀ result last, proc start result last →
    after result last

/-- Run the body for each item until one fails. -/
def forEach (body : ι → Proc σ Int) : List ι → Proc σ Int
  | [] => pure 0
  | item :: items => do
      let ret ← body item
      if ret < 0 then return ret else forEach body items

/-- A loop goes on after a turn that succeeds. -/
theorem forEach_cons {body : ι → Proc σ Int} {item : ι} {items : List ι}
    {start between last : σ} {ret : Int} (turn : body item start 0 between)
    (rest : forEach body items between ret last) :
    forEach body (item :: items) start ret last := by
  refine ⟨0, between, turn, ?_⟩
  dsimp only
  rw [if_neg (Int.lt_irrefl 0)]
  exact rest

section Rules

variable {before : σ → Prop} {after : α → σ → Prop} {first : Proc σ α}
  {rest : α → Proc σ β}

theorem holds_bind {last : β → σ → Prop} (one : Holds before first after)
    (two : ∀ value, Holds (after value) (rest value) last) :
    Holds before (first >>= rest) last := by
  rintro start well result final ⟨value, between, begins, ends⟩
  exact two value between (one start well value between begins) result final
    ends

theorem holds_weaken {stronger : σ → Prop} {weaker : α → σ → Prop}
    (holds : Holds before first after)
    (pre : ∀ state, stronger state → before state)
    (post : ∀ value state, after value state → weaker value state) :
    Holds stronger first weaker :=
  fun start well result last runs =>
    post result last (holds start (pre start well) result last runs)

/-- The loop goes on from an invariant of the items so far and the items that
are left, or it stops. -/
theorem holds_forEach {body : ι → Proc σ Int}
    {Inv : List ι → List ι → σ → Prop} {Stops : Int → σ → Prop}
    {items : List ι}
    (turn : ∀ past item later, items = past ++ item :: later →
      Holds (Inv past (item :: later)) (body item) fun ret state =>
        if ret < 0 then Stops ret state
        else Inv (past ++ [item]) later state) :
    Holds (Inv [] items) (forEach body items) fun ret state =>
      if ret < 0 then Stops ret state else ret = 0 ∧ Inv items [] state := by
  have onward (todo : List ι) : ∀ past, items = past ++ todo →
      Holds (Inv past todo) (forEach body todo) fun ret state =>
        if ret < 0 then Stops ret state
        else ret = 0 ∧ Inv items [] state := by
    induction todo with
    | nil =>
        rintro past parts start inv result last ⟨rfl, rfl⟩
        rw [List.append_nil] at parts
        rw [if_neg (Int.lt_irrefl 0), parts]
        exact ⟨rfl, inv⟩
    | cons item todo ih =>
        intro past parts
        refine holds_bind (turn past item todo parts) fun ret => ?_
        by_cases fails : ret < 0
        · rw [if_pos fails]
          rintro start stops result last ⟨rfl, rfl⟩
          rw [if_pos fails] at stops ⊢
          exact stops
        · rw [if_neg fails]
          refine holds_weaken (ih (past ++ [item]) ?_) (fun state inv => ?_)
            fun _ _ well => well
          · rw [parts, List.append_assoc, List.singleton_append]
          · rwa [if_neg fails] at inv
  exact onward items [] rfl

end Rules

end Dnvme.Lib.Procedures
