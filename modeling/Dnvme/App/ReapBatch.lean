import Dnvme.Nvme.Types

/-!
# Reaping a batch

`ut_reap_cq_entry` reaps the completions of a batch of commands in pieces.  A
completion queue of a given depth holds at most one entry less, while the
pieces are as long as the depth: a batch that fills the queue asks for an entry
that cannot be there and takes the missing one for a timeout of the device.

The device posts completions as long as there is room, and the driver waits
until the request can be met or nothing more can be posted.  How far the device
gets before the driver looks is a parameter.
-/

namespace Dnvme.App.ReapBatch

open Dnvme.Driver
open Dnvme.Nvme
open Relation (ReflTransGen)

/-! ## The queue -/

/-- A completion queue, the entries in it that were not reaped, and the
commands whose completion is still to come.  One entry stays free. -/
structure CqState where
  depth : Nat
  left : Nat
  ready : Nat
  room : ready + 1 ≤ depth

/-- The commands that are not reaped. -/
def CqState.outstanding (queue : CqState) : Nat :=
  queue.left + queue.ready

/-- Remove entries. -/
def CqState.take (queue : CqState) (count : Nat) : CqState where
  depth := queue.depth
  left := queue.left
  ready := queue.ready - count
  room := (Nat.add_le_add_right (Nat.sub_le _ _) 1).trans queue.room

/-- The device posts a completion. -/
inductive Posts : CqState → CqState → Prop
  | post {queue : CqState} (some_ : 0 < queue.left)
      (room : queue.ready + 2 ≤ queue.depth) :
      Posts queue ⟨queue.depth, queue.left - 1, queue.ready + 1, room⟩

/-- The driver waits for a number of entries: it stops when they are there, or
when the device cannot post any more. -/
structure Waits (expect : Nat) (queue waited : CqState) : Prop where
  posts : ReflTransGen Posts queue waited
  enough : expect ≤ waited.ready ∨ ∀ next, ¬ Posts waited next

/-- How far the device gets while the driver waits. -/
abbrev Waiting := CqState → Nat → CqState

/-! ## The functions -/

/-- `dnvme_gnl_cmd_reap_cqe` after it has waited, as
`nvme_gnl_cmd_reap_cqe` returns it: the number of entries or an error. -/
def dnvmeGnlCmdReapCqe (waited : CqState) (expect : Nat) : Int × CqState :=
  if waited.ready ≥ expect then (expect, waited.take expect)
  else if waited.ready > 0 then (waited.ready, waited.take waited.ready)
  else (-Errno.ETIMEDOUT, waited)

/-- `nvme_check_cq_entries` for the entries from the one with number `first`
on; `state` gives the status of each. -/
def nvmeCheckCqEntries (state : Nat → Nat) (first num : Nat) : Int :=
  (List.range num).foldl
    (fun ret i => if state (first + i) ≠ 0 then ret - 1 else ret) 0

/-- The check of the statuses, if it is asked for. -/
def checkStatus (checks : Bool) (state : Nat → Nat) (first num : Nat) : Int :=
  if checks then nvmeCheckCqEntries state first num else 0

/-- What is known after some requests: the queue, the number of entries reaped
and the requests made. -/
structure Batch where
  queue : CqState
  reaped : Nat
  requests : List Nat

/-- The loop of `ut_reap_cq_entry`; `checks` is the flag
`UT_CQ_F_CHECK_STATUS`. -/
def reapLoop (wait : Waiting) (checks : Bool) (state : Nat → Nat) :
    Nat → Nat → Batch → Run (Int × Batch)
  | 0, _, _ => .error .endlessLoop
  | fuel + 1, nrEntry, batch =>
      let nrReap := min batch.queue.depth nrEntry
      let (ret, queue) :=
        dnvmeGnlCmdReapCqe (wait batch.queue nrReap) nrReap
      let asked : Batch :=
        ⟨queue, batch.reaped + ret.toNat, batch.requests ++ [nrReap]⟩
      if ret ≠ nrReap then
        .ok (if ret < 0 then ret else -Errno.ETIME, asked)
      else
        let checked := checkStatus checks state batch.reaped nrReap
        if checked < 0 then .ok (checked, asked)
        else if nrEntry - nrReap ≠ 0 then
          reapLoop wait checks state fuel (nrEntry - nrReap) asked
        else .ok (0, asked)

/-- `ut_reap_cq_entry`. -/
def utReapCqEntry (wait : Waiting) (checks : Bool) (state : Nat → Nat)
    (queue : CqState) (nrEntry : Nat) : Run (Int × Batch) :=
  reapLoop wait checks state (nrEntry + 1) nrEntry ⟨queue, 0, []⟩

/-! ## The statement -/

/-- All outstanding commands are reaped, with requests that the queue can
hold. -/
def BatchSound (wait : Waiting) (checks : Bool) (state : Nat → Nat)
    (queue : CqState) : Prop :=
  ∃ batch, utReapCqEntry wait checks state queue queue.outstanding =
      .ok (0, batch) ∧
    (∀ request ∈ batch.requests, 1 ≤ request ∧ request ≤ queue.depth - 1) ∧
    batch.reaped = queue.outstanding

/-! ## Waiting -/

section Waiting

variable {queue waited : CqState} {expect : Nat}

theorem posts_keep (posts : ReflTransGen Posts queue waited) :
    waited.depth = queue.depth ∧ waited.outstanding = queue.outstanding := by
  induction posts with
  | refl => exact ⟨rfl, rfl⟩
  | tail _ last ih =>
      cases last with
      | post some_ room =>
          refine ⟨ih.1, Eq.trans ?_ ih.2⟩
          unfold CqState.outstanding
          dsimp only
          omega

/-- A device that cannot post has nothing left or no room. -/
theorem stuck_cases (stuck : ∀ next, ¬ Posts waited next) :
    waited.left = 0 ∨ waited.ready + 1 = waited.depth := by
  by_contra more
  push Not at more
  have room := waited.room
  exact stuck _ (.post (Nat.pos_of_ne_zero more.1) (by omega))

/-- A request that fits into the queue is met. -/
theorem Waits.met (waits : Waits expect queue waited)
    (outstanding : expect ≤ queue.outstanding) (fits : expect < queue.depth) :
    expect ≤ waited.ready := by
  obtain ⟨depth, total⟩ := posts_keep waits.posts
  rcases waits.enough with enough | stuck
  · exact enough
  · unfold CqState.outstanding at total outstanding
    rcases stuck_cases stuck with empty | full
    · omega
    · omega

end Waiting

/-! ## Statuses -/

theorem checkCqEntries_le (state : Nat → Nat) (first : Nat) (items : List Nat)
    (start : Int) :
    items.foldl
        (fun ret i => if state (first + i) ≠ 0 then ret - 1 else ret) start ≤
      start ∧
    (items.foldl
        (fun ret i => if state (first + i) ≠ 0 then ret - 1 else ret) start =
        start ↔ ∀ i ∈ items, state (first + i) = 0) := by
  induction items generalizing start with
  | nil => simp
  | cons i items ih =>
      rw [List.foldl_cons, List.forall_mem_cons]
      by_cases clean : state (first + i) = 0
      · rw [if_neg (not_not.mpr clean)]
        obtain ⟨below, same⟩ := ih start
        exact ⟨below, same.trans (and_iff_right clean).symm⟩
      · rw [if_pos clean]
        have below := (ih (start - 1)).1
        refine ⟨by omega, iff_of_false (by omega) fun all => clean all.1⟩

theorem checkStatus_le (checks : Bool) (state : Nat → Nat)
    (first num : Nat) : checkStatus checks state first num ≤ 0 := by
  unfold checkStatus
  split
  · exact (checkCqEntries_le state first (List.range num) 0).1
  · exact le_refl 0

/-- The check finds nothing exactly if it is off or all statuses are good. -/
theorem checkStatus_eq_zero_iff (checks : Bool) (state : Nat → Nat)
    (num : Nat) :
    checkStatus checks state 0 num = 0 ↔
      (checks = true → ∀ k < num, state k = 0) := by
  unfold checkStatus
  cases checks with
  | false => simp
  | true =>
      have good := (checkCqEntries_le state 0 (List.range num) 0).2
      simpa only [nvmeCheckCqEntries, if_true, true_implies, Nat.zero_add,
        List.mem_range] using good

/-! ## The batch -/

section Batch

variable {wait : Waiting} {checks : Bool} {state : Nat → Nat}
  {queue : CqState}

/-- A batch that does not fill the queue takes one request. -/
theorem utReapCqEntry_of_room
    (waits : ∀ queue expect, Waits expect queue (wait queue expect))
    (room : queue.outstanding < queue.depth) :
    ∃ after, utReapCqEntry wait checks state queue queue.outstanding =
      .ok (checkStatus checks state 0 queue.outstanding,
        ⟨after, queue.outstanding, [queue.outstanding]⟩) := by
  have met := (waits queue queue.outstanding).met (le_refl _) room
  have request : min queue.depth queue.outstanding = queue.outstanding :=
    min_eq_right room.le
  refine ⟨(wait queue queue.outstanding).take queue.outstanding, ?_⟩
  unfold utReapCqEntry
  rw [reapLoop]
  dsimp only
  rw [request, dnvmeGnlCmdReapCqe, if_pos met]
  dsimp only
  rw [if_neg (not_not.mpr rfl), Nat.sub_self, if_neg (not_not.mpr rfl),
    Nat.zero_add, List.nil_append, Int.toNat_natCast]
  split
  · rfl
  · rename_i fine
    have zero := le_antisymm (checkStatus_le checks state 0 _) (not_lt.mp fine)
    rw [zero]

/-- The requests of a loop come after those made before it. -/
theorem reapLoop_requests (fuel : Nat) :
    ∀ {nrEntry : Nat} {batch final : Batch} {ret : Int},
      reapLoop wait checks state fuel nrEntry batch = .ok (ret, final) →
      min batch.queue.depth nrEntry ∈ final.requests ∧
        batch.requests ⊆ final.requests := by
  induction fuel with
  | zero =>
      intro nrEntry batch final ret done
      cases done
  | succ fuel ih =>
      intro nrEntry batch final ret done
      rw [reapLoop] at done
      dsimp only at done
      have last : min batch.queue.depth nrEntry ∈
          batch.requests ++ [min batch.queue.depth nrEntry] :=
        List.mem_append_right _ (List.mem_singleton.mpr rfl)
      have before : batch.requests ⊆
          batch.requests ++ [min batch.queue.depth nrEntry] :=
        List.subset_append_left _ _
      split at done
      · cases done
        exact ⟨last, before⟩
      · split at done
        · cases done
          exact ⟨last, before⟩
        · split at done
          · have more := (ih done).2
            exact ⟨more last, fun request member => more (before member)⟩
          · cases done
            exact ⟨last, before⟩

/--
The whole batch is reaped with requests that fit exactly if it does not fill
the queue and, where the statuses are checked, each of them is good.
-/
theorem reap_batch_sound_iff
    (waits : ∀ queue expect, Waits expect queue (wait queue expect))
    (deep : 2 ≤ queue.depth) (some_ : 1 ≤ queue.outstanding) :
    BatchSound wait checks state queue ↔
      queue.outstanding < queue.depth ∧
        (checks = true → ∀ k < queue.outstanding, state k = 0) := by
  constructor
  · rintro ⟨batch, done, fits, _⟩
    have first := (reapLoop_requests _ done).1
    have room : queue.outstanding < queue.depth := by
      have bound := (fits _ first).2
      dsimp only at bound
      omega
    obtain ⟨after, also⟩ := @utReapCqEntry_of_room wait checks state queue
      waits room
    rw [done] at also
    have zero := congrArg Prod.fst (Except.ok.inj also)
    exact ⟨room, (checkStatus_eq_zero_iff checks state _).mp zero.symm⟩
  · rintro ⟨room, clean⟩
    obtain ⟨after, done⟩ := @utReapCqEntry_of_room wait checks state queue
      waits room
    rw [(checkStatus_eq_zero_iff checks state _).mpr clean] at done
    refine ⟨_, done, fun request member => ?_, rfl⟩
    rw [List.mem_singleton.mp member]
    exact ⟨some_, by omega⟩

end Batch

/-- The queue after some completions more. -/
def CqState.posted (queue : CqState) (count : Nat)
    (room : queue.ready + count + 1 ≤ queue.depth) : CqState :=
  ⟨queue.depth, queue.left - count, queue.ready + count, room⟩

theorem posts_many (queue : CqState) (count : Nat) :
    ∀ room, count ≤ queue.left →
      ReflTransGen Posts queue (queue.posted count room) := by
  induction count with
  | zero =>
      intro room _
      exact .refl
  | succ count ih =>
      intro room enough
      have less : queue.ready + count + 1 ≤ queue.depth := by omega
      exact (ih less (by omega)).tail (.post
        (show 0 < queue.left - count by omega)
        (show queue.ready + count + 2 ≤ queue.depth from room))

/-- A device that posts all it can while the driver waits. -/
def postAll : Waiting := fun queue _ =>
  queue.posted (min queue.left (queue.depth - 1 - queue.ready)) (by
    have room := queue.room
    omega)

theorem postAll_waits (queue : CqState) (expect : Nat) :
    Waits expect queue (postAll queue expect) := by
  refine ⟨posts_many queue _ _ (min_le_left _ _), Or.inr ?_⟩
  intro next posts
  have left : 0 < (postAll queue expect).left := by
    cases posts with
    | post some_ _ => exact some_
  have ready : (postAll queue expect).ready + 2 ≤ queue.depth := by
    cases posts with
    | post _ room => exact room
  unfold postAll CqState.posted at left ready
  dsimp only at left ready
  omega

/-- Three commands are reaped from a queue of four entries. -/
theorem reap_batch_sound_of_three :
    BatchSound postAll true (fun _ => 0) ⟨4, 3, 0, by decide⟩ :=
  (reap_batch_sound_iff postAll_waits (by decide) (by decide)).mpr
    ⟨by decide, fun _ _ _ => rfl⟩

/-- Two commands that fill a queue of two entries are not reaped. -/
theorem reap_batch_of_full_queue :
    ¬ ∀ wait queue, (∀ queue expect, Waits expect queue (wait queue expect)) →
      2 ≤ queue.depth → 1 ≤ queue.outstanding →
      BatchSound wait false (fun _ => 0) queue := by
  intro all
  obtain ⟨batch, done, fits, _⟩ := all postAll ⟨2, 2, 0, by decide⟩
    postAll_waits (by decide) (by decide)
  have first := (reapLoop_requests _ done).1
  exact absurd (fits 2 first).2 (by decide)

end Dnvme.App.ReapBatch
