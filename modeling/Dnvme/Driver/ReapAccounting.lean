import Dnvme.Driver.CommandId
import Dnvme.Driver.CqDelivery
import Dnvme.Driver.ReapAgreement

/-!
# Counting what a reap has processed

`copy_cq_data` handles an entry before it copies it.  A reap should count
every entry it handled, move the head past all of them and tell its caller
when the copy failed.  This module says exactly when the two paths do so: an
entry that cannot be copied is handled and not counted, an entry that is
refused is counted but the error is dropped, and the legacy path leaves the
head behind when it cannot write its result.
-/

namespace Dnvme.Driver.ReapAccounting

open Dnvme.Driver
open Dnvme.Driver.CqScan
open Dnvme.Driver.CommandId
open Dnvme.Driver.CqDelivery
open Dnvme.Driver.CqInvariant
open Dnvme.Driver.IrqBookkeeping
open Dnvme.Driver.ReapInvariant
open Dnvme.Driver.ReapAgreement

/-! ## What a reap processes -/

/-- The slots whose entries `copy_cq_data` hands to `handle_cmd_completion`,
in order, and the value it returns. -/
def copyTrace (cqid : Nat) (copyOk : Nat → Bool) :
    (nrReap slot : Nat) → (ndev : NvmeDevice) → (copied : Nat) →
      List Nat × Int
  | 0, _, _, _ => ([], 0)
  | nrReap + 1, slot, ndev, copied =>
      match ndev.findCq cqid with
      | none => ([], 0)
      | some cq =>
          match ndev.cqSlot cq slot with
          | none => ([], 0)
          | some entry =>
              let (latentErr, handled) := handleCmdCompletion ndev entry
              if !copyOk copied then ([slot], -Errno.EFAULT)
              else if latentErr ≠ 0 then ([slot], latentErr)
              else
                let (slots, ret) := copyTrace cqid copyOk nrReap
                  (cq.nextSlot slot) handled (copied + 1)
                (slot :: slots, ret)

/-- The copy of `dnvme_reap_cqe`. -/
def reapTrace (copyOk : Nat → Bool) (ndev : NvmeDevice)
    (cqid expect buf size : Nat) : List Nat × Int :=
  match ndev.findCq cqid with
  | none => ([], 0)
  | some cq =>
      if expect = 0 ∨ buf = 0 ∨ size < u32 (expect * 2 ^ cq.cqes) then
        ([], 0)
      else
        copyTrace cqid copyOk expect cq.headPtr ndev 0

/-- The copy of `dnvme_reap_cqe_legacy`. -/
def legacyTrace (env : ReapEnv) (ndev : NvmeDevice) (reap : NvmeReap) :
    List Nat × Int :=
  if !env.copyIn then ([], 0)
  else
    match ndev.findCq reap.cqid with
    | none => ([], 0)
    | some cq =>
        match ndev.scan reap.cqid cq with
        | .error _ => ([], 0)
        | .ok (remain, scanned) =>
            if remain ≥ cq.elements then ([], 0)
            else
              copyTrace reap.cqid env.copyEntry
                (min (reap.room cq.cqes) remain) cq.headPtr scanned 0

/-- Every entry that was processed is counted, the head has moved past all of
them by as many entries as reported, and a failed copy is an error of the
whole call. -/
structure Accounted (cqid : Nat) (cq : NvmeCq) (trace : List Nat × Int)
    (reported : Nat) (result : ReapResult) : Prop where
  counted : trace.1 = (List.range reported).map (slotFrom cq)
  moved : ∃ later, result.ndev.findCq cqid = some later ∧
    later.headPtr = slotFrom cq reported
  error : trace.2 ≠ 0 → result.ret < 0

/-! ## When nothing fails -/

/-- The entries from the `first`-th one on. -/
def window (cq : NvmeCq) (first count : Nat) : List NvmeCompletion :=
  (List.range count).map fun k => cq.entries (slotFrom cq (first + k))

theorem window_succ (cq : NvmeCq) (first count : Nat) :
    window cq first (count + 1) =
      cq.entries (slotFrom cq first) :: window cq (first + 1) count := by
  unfold window
  rw [List.range_succ_eq_map, List.map_cons, List.map_map, Nat.add_zero]
  congr 1
  refine List.map_congr_left fun k _ => ?_
  rw [Function.comp_apply, Nat.add_right_comm]
  rfl

/-- Entries are handled without an error and copied. -/
def Clean (cqid : Nat) (cq : NvmeCq) (ndev : NvmeDevice)
    (copyOk : Nat → Bool) (first count : Nat) : Prop :=
  (∃ final, Accepted cqid ndev (window cq first count) final) ∧
    ∀ k, k < count → copyOk (first + k) = true

/-- The `last`-th entry from `first` on is the first one that is refused, and
all entries up to it are copied. -/
def StopsAt (cqid : Nat) (cq : NvmeCq) (ndev : NvmeDevice)
    (copyOk : Nat → Bool) (first last : Nat) : Prop :=
  (∃ mid, Accepted cqid ndev (window cq first last) mid ∧
    (handleCmdCompletion mid
      (cq.entries (slotFrom cq (first + last)))).1 ≠ 0) ∧
    ∀ k, k ≤ last → copyOk (first + k) = true

theorem accepted_append {cqid : Nat} {rest : List NvmeCompletion}
    (entries : List NvmeCompletion) :
    ∀ {ndev final : NvmeDevice},
      Accepted cqid ndev (entries ++ rest) final →
      ∃ mid, Accepted cqid ndev entries mid ∧ Accepted cqid mid rest final := by
  induction entries with
  | nil =>
      intro ndev final accepted
      exact ⟨ndev, Accepted.nil ndev, accepted⟩
  | cons entry entries ih =>
      intro ndev final accepted
      cases accepted with
      | cons handled kept others =>
          obtain ⟨mid, before, after⟩ := ih others
          exact ⟨mid, Accepted.cons handled kept before, after⟩

theorem accepted_unique {cqid : Nat} (entries : List NvmeCompletion) :
    ∀ {ndev final other : NvmeDevice}, Accepted cqid ndev entries final →
      Accepted cqid ndev entries other → other = final := by
  induction entries with
  | nil =>
      intro ndev final other one two
      cases one
      cases two
      rfl
  | cons entry entries ih =>
      intro ndev final other one two
      cases one with
      | cons _ _ others =>
          cases two with
          | cons _ _ again => exact ih others again

/-- A run that stops is not clean. -/
theorem StopsAt.not_clean {cqid first last count : Nat} {cq : NvmeCq}
    {ndev : NvmeDevice} {copyOk : Nat → Bool}
    (stops : StopsAt cqid cq ndev copyOk first last) (within : last < count) :
    ¬ Clean cqid cq ndev copyOk first count := by
  rintro ⟨⟨final, accepted⟩, _⟩
  obtain ⟨⟨mid, before, refused⟩, _⟩ := stops
  have split : window cq first count = window cq first last ++
      cq.entries (slotFrom cq (first + last)) ::
        window cq (first + last + 1) (count - (last + 1)) := by
    obtain ⟨more, rfl⟩ := Nat.exists_eq_add_of_lt within
    rw [show last + more + 1 - (last + 1) = more by omega, ← window_succ]
    unfold window
    rw [show last + more + 1 = last + (more + 1) by omega, List.range_add,
      List.map_append, List.map_map]
    congr 1
    refine List.map_congr_left fun k _ => ?_
    rw [Function.comp_apply, Nat.add_assoc]
  rw [split] at accepted
  obtain ⟨other, again, rest⟩ := accepted_append _ accepted
  rw [accepted_unique _ before again] at rest
  cases rest with
  | cons handled _ _ => exact refused handled

/-- There is one first entry that is refused. -/
theorem StopsAt.unique {cqid first last other : Nat} {cq : NvmeCq}
    {ndev : NvmeDevice} {copyOk : Nat → Bool}
    (stops : StopsAt cqid cq ndev copyOk first last)
    (again : StopsAt cqid cq ndev copyOk first other) : last = other := by
  have earlier {one two : Nat}
      (stops : StopsAt cqid cq ndev copyOk first one)
      (again : StopsAt cqid cq ndev copyOk first two) : ¬ one < two := by
    intro less
    obtain ⟨⟨mid, accepted, _⟩, copies⟩ := again
    exact stops.not_clean less
      ⟨⟨mid, accepted⟩, fun k below => copies k below.le⟩
  have notBefore := earlier stops again
  have notAfter := earlier again stops
  omega

/-! ## What the copy does -/

/-- The slots from the `first`-th entry on. -/
def slotsFrom (cq : NvmeCq) (first count : Nat) : List Nat :=
  (List.range count).map fun k => slotFrom cq (first + k)

theorem slotsFrom_succ (cq : NvmeCq) (first count : Nat) :
    slotsFrom cq first (count + 1) =
      slotFrom cq first :: slotsFrom cq (first + 1) count := by
  unfold slotsFrom
  rw [List.range_succ_eq_map, List.map_cons, List.map_map, Nat.add_zero]
  congr 1
  refine List.map_congr_left fun k _ => ?_
  rw [Function.comp_apply, Nat.add_right_comm]
  rfl

theorem slotsFrom_length (cq : NvmeCq) (first count : Nat) :
    (slotsFrom cq first count).length = count := by
  rw [slotsFrom, List.length_map, List.length_range]

theorem nextSlot_slotFrom {cq : NvmeCq} (formed : WellFormed cq) (k : Nat) :
    cq.nextSlot (slotFrom cq k) = slotFrom cq (k + 1) := by
  have positive := formed.sane.positive
  have below := slotFrom_lt formed.sane k
  rw [NvmeCq.nextSlot, formed.cqes, formed.size]
  have split : (cq.headPtr + (k + 1)) % cq.elements =
      (slotFrom cq k + 1) % cq.elements := by
    rw [slotFrom, Nat.mod_add_mod, Nat.add_assoc]
  by_cases last : slotFrom cq k + 1 = cq.elements
  · rw [last, if_pos (le_refl _)]
    change 0 = (cq.headPtr + (k + 1)) % cq.elements
    rw [split, last, Nat.mod_self]
  · have inside : slotFrom cq k + 1 < cq.elements := by omega
    rw [if_neg]
    · change slotFrom cq k + 1 = (cq.headPtr + (k + 1)) % cq.elements
      rw [split, Nat.mod_eq_of_lt inside]
    · intro reaches
      have most := Nat.le_of_mul_le_mul_right reaches (Nat.two_pow_pos _)
      omega

/-- How a copy can end: all entries are reaped; an entry is handled and not
copied; or an entry is refused and copied. -/
inductive Copied (cqid : Nat) (cq : NvmeCq) (ndev : NvmeDevice)
    (copyOk : Nat → Bool) (first count : Nat) (copy : CopyResult)
    (trace : List Nat × Int) : Prop where
  | clean (clean : Clean cqid cq ndev copyOk first count)
      (ret : copy.ret = 0) (left : copy.left = 0)
      (traced : trace = (slotsFrom cq first count, 0)) :
      Copied cqid cq ndev copyOk first count copy trace
  | lost (last : Nat) (within : last < count)
      (fails : copyOk (first + last) = false) (ret : copy.ret ≠ 0)
      (left : copy.left = count - last)
      (traced : trace = (slotsFrom cq first (last + 1), copy.ret)) :
      Copied cqid cq ndev copyOk first count copy trace
  | refused (last : Nat) (within : last < count)
      (stops : StopsAt cqid cq ndev copyOk first last) (ret : copy.ret ≠ 0)
      (left : copy.left = count - (last + 1))
      (traced : trace = (slotsFrom cq first (last + 1), copy.ret)) :
      Copied cqid cq ndev copyOk first count copy trace

section Copy

variable {cqid : Nat} {cq : NvmeCq} {copyOk : Nat → Bool}

/-- The first entry is accepted and the rest ends in one of these ways. -/
theorem Copied.cons {ndev : NvmeDevice} {first count : Nat}
    {copy : CopyResult} {trace : List Nat × Int}
    (handled : (handleCmdCompletion ndev
      (cq.entries (slotFrom cq first))).1 = 0)
    (kept : ((handleCmdCompletion ndev
      (cq.entries (slotFrom cq first))).2.findCq cqid).isSome)
    (copies : copyOk first = true)
    (rest : Copied cqid cq (handleCmdCompletion ndev
      (cq.entries (slotFrom cq first))).2 copyOk (first + 1) count copy
        trace) :
    Copied cqid cq ndev copyOk first (count + 1) copy
      (slotFrom cq first :: trace.1, trace.2) := by
  have allCopied {bound : Nat}
      (later : ∀ k, k < bound → copyOk (first + 1 + k) = true) :
      ∀ k, k < bound + 1 → copyOk (first + k) = true := by
    intro k below
    cases k with
    | zero => exact copies
    | succ k =>
        rw [← Nat.add_assoc, Nat.add_right_comm]
        exact later k (by omega)
  cases rest with
  | clean clean ret left traced =>
      obtain ⟨⟨final, accepted⟩, later⟩ := clean
      refine .clean ⟨⟨final, ?_⟩, allCopied later⟩ ret left ?_
      · rw [window_succ]
        exact Accepted.cons handled kept accepted
      · rw [traced, slotsFrom_succ]
  | lost last within fails ret left traced =>
      refine .lost (last + 1) (by omega) ?_ ret (by omega) ?_
      · rw [← fails]
        congr 1
        omega
      · rw [traced, slotsFrom_succ cq first (last + 1)]
  | refused last within stops ret left traced =>
      obtain ⟨⟨mid, accepted, stopped⟩, later⟩ := stops
      refine .refused (last + 1) (by omega) ⟨⟨mid, ?_, ?_⟩, ?_⟩ ret
        (by omega) ?_
      · rw [window_succ]
        exact Accepted.cons handled kept accepted
      · rwa [show first + (last + 1) = first + 1 + last by omega]
      · intro k reached
        exact allCopied (fun k below => later k (by omega)) k
          (Nat.lt_succ_of_le reached)
      · rw [traced, slotsFrom_succ cq first (last + 1)]

/-- The copy loop ends in one of these ways. -/
theorem copyCqData_copied (formed : WellFormed cq) (count : Nat) :
    ∀ {first : Nat} {ndev : NvmeDevice} {copied : List NvmeCompletion}
      {copy : CopyResult}, ndev.findCq cqid = some cq →
      copied.length = first →
      copyCqData cqid copyOk count (slotFrom cq first) ndev copied =
        .ok copy →
      Copied cqid cq ndev copyOk first count copy
        (copyTrace cqid copyOk count (slotFrom cq first) ndev first) := by
  induction count with
  | zero =>
      intro first ndev copied copy found length done
      cases done
      exact .clean ⟨⟨ndev, Accepted.nil ndev⟩, fun k none_ => by omega⟩ rfl
        rfl rfl
  | succ count ih =>
      intro first ndev copied copy found length done
      rw [copyCqData, found] at done
      rw [copyTrace, found]
      dsimp only at done ⊢
      cases here : ndev.cqSlot cq (slotFrom cq first) with
      | none =>
        rw [here] at done
        cases done
      | some entry =>
        rw [here] at done
        have value := entries_of_cqSlot here
        subst value
        dsimp only at done ⊢
        split at done
        · cases done
        · rename_i kept survives
          have same := findCq_handleCmdCompletion found survives
          rw [length] at done
          split at done
          · rename_i fails
            cases done
            rw [if_pos fails]
            refine .lost 0 (Nat.succ_pos _) (by simpa using fails) ?_ rfl rfl
            exact show -Errno.EFAULT ≠ 0 by decide
          · rename_i copies
            rw [if_neg copies]
            have copyFirst : copyOk first = true := by simpa using copies
            split at done
            · rename_i stopped
              cases done
              rw [if_pos stopped]
              refine .refused 0 (Nat.succ_pos _)
                ⟨⟨ndev, Accepted.nil ndev, stopped⟩, ?_⟩ stopped
                (by dsimp only; omega) rfl
              intro k reached
              rw [Nat.le_zero.mp reached]
              exact copyFirst
            · rename_i handled
              rw [if_neg handled]
              rw [nextSlot_slotFrom formed] at done ⊢
              have next : (copied ++ [cq.entries (slotFrom cq first)]).length =
                  first + 1 := by
                rw [List.length_append, List.length_singleton, length]
              refine Copied.cons (not_not.mp handled) ?_ copyFirst
                (ih same next done)
              rw [same]
              rfl

/-- The copy from the head on. -/
theorem copied_from_head {ndev : NvmeDevice} {count : Nat}
    {copy : CopyResult} (formed : WellFormed cq)
    (found : ndev.findCq cqid = some cq)
    (copied : copyCqData cqid copyOk count cq.headPtr ndev [] = .ok copy) :
    Copied cqid cq ndev copyOk 0 count copy
      (copyTrace cqid copyOk count cq.headPtr ndev 0) := by
  have head := slotFrom_zero formed.sane
  have ends : Copied cqid cq ndev copyOk 0 count copy
      (copyTrace cqid copyOk count (slotFrom cq 0) ndev 0) :=
    copyCqData_copied formed count found List.length_nil
      (by rw [head]; exact copied)
  rwa [head] at ends

/-- Nothing of this reads the tail. -/
theorem Copied.of_tail {ndev : NvmeDevice} {first count tail : Nat}
    {copy : CopyResult} {trace : List Nat × Int}
    (ends : Copied cqid { cq with tailPtr := tail } ndev copyOk first count
      copy trace) :
    Copied cqid cq ndev copyOk first count copy trace := by
  cases ends with
  | clean clean ret left traced => exact .clean clean ret left traced
  | lost last within fails ret left traced =>
      exact .lost last within fails ret left traced
  | refused last within stops ret left traced =>
      exact .refused last within stops ret left traced

end Copy

/-! ## Where the head ends up -/

/-- The head of a queue. -/
def HeadAt (cqid head : Nat) (ndev : NvmeDevice) : Prop :=
  ∃ later, ndev.findCq cqid = some later ∧ later.headPtr = head

section Head

variable {cqid head : Nat} {ndev next : NvmeDevice}

theorem HeadAt.scan (at_ : HeadAt cqid head ndev) {id remain : Nat}
    {cq : NvmeCq} (found : ndev.findCq id = some cq)
    (scanned : ndev.scan id cq = .ok (remain, next)) :
    HeadAt cqid head next := by
  obtain ⟨later, here, same⟩ := at_
  obtain ⟨tail, rfl, _⟩ := scan_eq scanned
  by_cases equal : cqid = id
  · subst equal
    rw [found] at here
    cases here
    exact ⟨_, NvmeDevice.findCq_setCq _ _ _, same⟩
  · exact ⟨later, by rwa [NvmeDevice.findCq_setCq_ne _ _ equal], same⟩

theorem HeadAt.scanIcqs (icqs : List Nat) :
    ∀ {ndev next : NvmeDevice} {result : Except Int Bool},
      HeadAt cqid head ndev → scanIcqs ndev icqs = .ok (result, next) →
      HeadAt cqid head next := by
  induction icqs with
  | nil =>
      intro ndev next result at_ done
      cases done
      exact at_
  | cons id rest ih =>
      intro ndev next result at_ done
      rw [Driver.scanIcqs] at done
      split at done
      · cases done
        exact at_
      · rename_i cq found
        split at done
        · cases done
        · rename_i scanned
          have after := at_.scan found scanned
          split at done
          · cases done
            exact after
          · exact ih after done

theorem HeadAt.dnvmeResetIsrFlag (at_ : HeadAt cqid head ndev) {irqNo : Nat}
    {ret : Int} {cleared : Bool}
    (done : dnvmeResetIsrFlag ndev irqNo = .ok (ret, cleared, next)) :
    HeadAt cqid head next := by
  unfold Driver.dnvmeResetIsrFlag at done
  split at done
  · cases done
    exact at_
  · split at done
    · cases done
    · rename_i scanned
      cases done
      exact at_.scanIcqs _ scanned
    · rename_i scanned
      cases done
      exact at_.scanIcqs _ scanned
    · rename_i scanned
      have after := at_.scanIcqs _ scanned
      cases done
      exact after

end Head

/-- The head moves by the number of entries, also over a whole lap. -/
theorem updateCqHead_headPtr {cq : NvmeCq} (formed : WellFormed cq)
    {count : Nat} (within : count ≤ cq.elements) :
    (updateCqHead cq count).headPtr = slotFrom cq count := by
  have head := formed.sane.head
  have elements := formed.elements
  have below := slotFrom_lt formed.sane count
  have word : u32 (cq.headPtr + count) = cq.headPtr + count :=
    Nat.mod_eq_of_lt (by omega)
  have small : u16 (slotFrom cq count) = slotFrom cq count :=
    Nat.mod_eq_of_lt (by omega)
  unfold updateCqHead
  dsimp only
  rw [word]
  split
  · exact small
  · rename_i inside
    have same : slotFrom cq count = cq.headPtr + count :=
      slotFrom_inside (not_le.mp inside)
    rw [same] at small ⊢
    exact small

theorem headAt_moved {cqid count : Nat} {ndev : NvmeDevice} {cq : NvmeCq}
    (formed : WellFormed cq) (found : ndev.findCq cqid = some cq)
    (within : count ≤ cq.elements) :
    HeadAt cqid (slotFrom cq count)
      (if count = 0 then ndev else ndev.updateCqHead cqid count) := by
  split
  · rename_i zero
    rw [zero, slotFrom_zero formed.sane]
    exact ⟨cq, found, rfl⟩
  · rw [NvmeDevice.updateCqHead, found]
    exact ⟨_, NvmeDevice.findCq_setCq _ _ _,
      updateCqHead_headPtr formed within⟩

/-! ## The path over netlink -/

/-- A request that is rejected processes nothing. -/
theorem accounted_of_rejected {cqid : Nat} {cq : NvmeCq}
    {result : ReapResult} (sane : Sane cq)
    (at_ : HeadAt cqid cq.headPtr result.ndev) :
    Accounted cqid cq ([], 0) 0 result := by
  refine ⟨rfl, ?_, fun fails => absurd rfl fails⟩
  rw [slotFrom_zero sane]
  exact at_

/-- The parts of a reap whose request is accepted. -/
theorem dnvmeReapCqe_parts {copyOk : Nat → Bool} {ndev : NvmeDevice}
    {cqid expect buf size : Nat} {cq : NvmeCq} {result : ReapResult}
    (formed : WellFormed cq) (found : ndev.findCq cqid = some cq)
    (asked : expect ≤ cq.elements)
    (accepted : ¬ (expect = 0 ∨ buf = 0 ∨ size < u32 (expect * 2 ^ cq.cqes)))
    (done : dnvmeReapCqe copyOk ndev cqid expect buf size = .ok result) :
    ∃ copy, copyCqData cqid copyOk expect cq.headPtr ndev [] = .ok copy ∧
      result.ret = (expect - copy.left : Nat) ∧
      HeadAt cqid (slotFrom cq (expect - copy.left)) result.ndev := by
  rw [not_or, not_or] at accepted
  unfold dnvmeReapCqe at done
  rw [found] at done
  dsimp only at done
  rw [if_neg accepted.1, if_neg accepted.2.1, if_neg accepted.2.2] at done
  split at done
  · cases done
  · rename_i copy entries
    have copied := copyCqData_of_copyEntries entries
    have here := copyCqData_findCq expect found copied
    have moves := headAt_moved formed here
      (by omega : expect - copy.left ≤ cq.elements)
    refine ⟨copy, copied, ?_⟩
    split at done
    · cases done
    · rename_i later there
      split at done
      · cases done
      · rename_i remain scanned scans
        have after := moves.scan there scans
        split at done
        · split at done
          · cases done
          · rename_i resets
            have last := after.dnvmeResetIsrFlag resets
            cases done
            exact ⟨rfl, last⟩
        · cases done
          exact ⟨rfl, after⟩

theorem slotsFrom_zero (cq : NvmeCq) (count : Nat) :
    slotsFrom cq 0 count = (List.range count).map (slotFrom cq) := by
  refine List.map_congr_left fun k _ => ?_
  rw [Nat.zero_add]

/-- Counting too few entries is not counting all of them. -/
theorem not_accounted_of_fewer {cqid last reported : Nat} {cq : NvmeCq}
    {ret : Int} {result : ReapResult} (fewer : reported ≠ last + 1) :
    ¬ Accounted cqid cq (slotsFrom cq 0 (last + 1), ret) reported result := by
  intro accounted
  have lengths := congrArg List.length accounted.counted
  rw [slotsFrom_length, List.length_map, List.length_range] at lengths
  exact fewer lengths.symm

/-- `dnvme_reap_cqe` accounts for what it did if and only if it rejects the
request or nothing fails. -/
theorem dnvmeReapCqe_accounted_iff {copyOk : Nat → Bool} {ndev : NvmeDevice}
    {cqid expect buf size : Nat} {cq : NvmeCq} {result : ReapResult}
    (formed : WellFormed cq) (found : ndev.findCq cqid = some cq)
    (asked : expect ≤ cq.elements)
    (done : dnvmeReapCqe copyOk ndev cqid expect buf size = .ok result) :
    Accounted cqid cq (reapTrace copyOk ndev cqid expect buf size)
        result.ret.toNat result ↔
      (expect = 0 ∨ buf = 0 ∨ size < u32 (expect * 2 ^ cq.cqes)) ∨
        Clean cqid cq ndev copyOk 0 expect := by
  by_cases rejected :
      expect = 0 ∨ buf = 0 ∨ size < u32 (expect * 2 ^ cq.cqes)
  · refine iff_of_true ?_ (Or.inl rejected)
    rw [reapTrace, found]
    dsimp only
    rw [if_pos rejected]
    have at_ : HeadAt cqid cq.headPtr ndev := ⟨cq, found, rfl⟩
    unfold dnvmeReapCqe at done
    rw [found] at done
    dsimp only at done
    split at done
    · cases done
      exact accounted_of_rejected formed.sane at_
    · split at done
      · cases done
        exact accounted_of_rejected formed.sane at_
      · split at done
        · cases done
          exact accounted_of_rejected formed.sane at_
        · rename_i first second third
          exact absurd rejected (not_or.mpr ⟨first, not_or.mpr
            ⟨second, third⟩⟩)
  · obtain ⟨copy, copied, ret, at_⟩ :=
      dnvmeReapCqe_parts formed found asked rejected done
    have ends := copied_from_head formed found copied
    have trace : reapTrace copyOk ndev cqid expect buf size =
        copyTrace cqid copyOk expect cq.headPtr ndev 0 := by
      rw [reapTrace, found]
      exact if_neg rejected
    rw [trace, ret, Int.toNat_natCast, or_iff_right rejected]
    cases ends with
    | clean clean zero left traced =>
        refine iff_of_true ?_ clean
        rw [traced, left, Nat.sub_zero, slotsFrom_zero]
        rw [left, Nat.sub_zero] at at_
        exact ⟨rfl, at_, fun fails => absurd rfl fails⟩
    | lost last within fails nonzero left traced =>
        refine iff_of_false ?_ ?_
        · rw [traced, left]
          exact not_accounted_of_fewer (by omega)
        · rintro ⟨_, copies⟩
          rw [copies last within] at fails
          cases fails
    | refused last within stops nonzero left traced =>
        refine iff_of_false ?_ (stops.not_clean within)
        intro accounted
        have negative := accounted.error (by rw [traced]; exact nonzero)
        rw [ret] at negative
        omega

/-! ## The legacy path -/

/-- Being accepted does not depend on a tail. -/
theorem accepted_alike {cqid : Nat} (entries : List NvmeCompletion) :
    ∀ {ndev other final : NvmeDevice}, Alike cqid ndev other →
      Accepted cqid ndev entries final →
      ∃ last, Accepted cqid other entries last ∧ Alike cqid final last := by
  induction entries with
  | nil =>
      intro ndev other final alike accepted
      cases accepted
      exact ⟨other, Accepted.nil other, alike⟩
  | cons entry entries ih =>
      intro ndev other final alike accepted
      cases accepted with
      | cons handled kept others =>
          obtain ⟨value, after⟩ := alike.handleCmdCompletion entry
          obtain ⟨last, rest, still⟩ := ih after others
          refine ⟨last, Accepted.cons (value.trans handled) ?_ rest, still⟩
          obtain ⟨cqs, equal, apart⟩ := after
          obtain ⟨cq, found⟩ := Option.isSome_iff_exists.mp kept
          obtain ⟨tail, there⟩ := apart.some found
          rw [equal]
          change (cqs.lookup cqid).isSome = true
          rw [there]
          rfl

theorem clean_alike {cqid first count : Nat} {cq : NvmeCq}
    {ndev other : NvmeDevice} {copyOk : Nat → Bool}
    (alike : Alike cqid ndev other)
    (clean : Clean cqid cq ndev copyOk first count) :
    Clean cqid cq other copyOk first count := by
  obtain ⟨⟨final, accepted⟩, copies⟩ := clean
  obtain ⟨last, again, _⟩ := accepted_alike _ alike accepted
  exact ⟨⟨last, again⟩, copies⟩

theorem stopsAt_alike {cqid first last : Nat} {cq : NvmeCq}
    {ndev other : NvmeDevice} {copyOk : Nat → Bool}
    (alike : Alike cqid ndev other)
    (stops : StopsAt cqid cq ndev copyOk first last) :
    StopsAt cqid cq other copyOk first last := by
  obtain ⟨⟨mid, accepted, refused⟩, copies⟩ := stops
  obtain ⟨later, again, still⟩ := accepted_alike _ alike accepted
  refine ⟨⟨later, again, ?_⟩, copies⟩
  rw [(still.handleCmdCompletion _).1]
  exact refused

/-- Without its node, or without the admin queue that it lists first, an
interrupt is not reset. -/
theorem dnvmeResetIsrFlag_negative {ndev next : NvmeDevice} {irqNo : Nat}
    {ret : Int} {cleared : Bool} (books : Bookkeeping ndev)
    (cannot : ¬ CanReset ndev irqNo)
    (done : dnvmeResetIsrFlag ndev irqNo = .ok (ret, cleared, next)) :
    ret < 0 := by
  unfold dnvmeResetIsrFlag at done
  cases found : ndev.irqSet.findIrqNodeById irqNo with
  | none =>
      rw [found] at done
      cases done
      decide
  | some irq =>
      have member := List.mem_of_find?_eq_some found
      have id : irq.irqId = irqNo := by simpa using List.find?_some found
      have missing : irqNo = 0 ∧ ndev.findCq nvmeAqId = none := by
        by_contra present
        refine cannot ⟨List.mem_map.mpr ⟨irq, member, id⟩, fun zero => ?_⟩
        by_contra absent
        rw [Option.not_isSome_iff_eq_none] at absent
        exact present ⟨zero, absent⟩
      have first := books.admin irq member (id.trans missing.1)
      obtain ⟨rest, listed⟩ : ∃ rest, irq.icqList = nvmeAqId :: rest :=
        List.head?_eq_some_iff.mp first
      rw [found] at done
      dsimp only at done
      rw [listed, scanIcqs, missing.2] at done
      cases done
      decide

theorem canReset_steady_iff {start ndev : NvmeDevice} {irqNo : Nat}
    (steady : Steady start ndev) :
    CanReset ndev irqNo ↔ CanReset start irqNo := by
  constructor
  · intro can
    refine can.steady ⟨steady.ids.symm, steady.type.symm, steady.admin.symm⟩
  · intro can
    exact can.steady steady

/-- The interrupt of the queue is in use and cannot be reset. -/
def ResetFails (ndev : NvmeDevice) (cq : NvmeCq) : Prop :=
  ndev.irqSet.irqType ≠ .none ∧ cq.irqEnabled = 1 ∧ ¬ CanReset ndev cq.irqNo

section Legacy

variable {env : ReapEnv} {ndev : NvmeDevice} {reap : NvmeReap}
  {remain : Nat} {cq scanned : NvmeCq} {result : ReapResult}

/-- The parts of a legacy reap that comes to the copy. -/
theorem dnvmeReapCqeLegacy_parts (start : InReap ndev ndev)
    (formed : WellFormed cq) (found : ndev.findCq reap.cqid = some cq)
    (unreaped : dnvmeGetCqeRemain ndev cq = .ok (remain, scanned))
    (copyIn : env.copyIn = true) (notFull : ¬ remain ≥ cq.elements)
    (done : dnvmeReapCqeLegacy env ndev reap = .ok result) :
    ∃ copy, copyCqData reap.cqid env.copyEntry
        (min (reap.room cq.cqes) remain) cq.headPtr
        (ndev.setCq reap.cqid scanned) [] = .ok copy ∧
      (env.copyOut = false → HeadAt reap.cqid cq.headPtr result.ndev ∧
        legacyReport env ndev reap = none) ∧
      (env.copyOut = true →
        HeadAt reap.cqid
          (slotFrom cq (min (reap.room cq.cqes) remain - copy.left))
          result.ndev ∧
        (legacyReport env ndev reap).elim 0 Prod.fst =
          min (reap.room cq.cqes) remain - copy.left ∧
        (result.ret < 0 ↔ ResetFails ndev cq ∧
          remain - min (reap.room cq.cqes) remain + copy.left = 0)) := by
  obtain ⟨tail, rfl⟩ := dnvmeGetCqeRemain_tail unreaped
  have scan : ndev.scan reap.cqid cq = .ok (remain,
      ndev.setCq reap.cqid { cq with tailPtr := tail }) := by
    rw [NvmeDevice.scan, unreaped]
  generalize wanted_eq : min (reap.room cq.cqes) remain = wanted
  have within : wanted ≤ remain := by omega
  unfold dnvmeReapCqeLegacy at done
  unfold legacyReport
  simp only [copyIn, Bool.not_true, Bool.false_eq_true, if_false, found,
    scan, notFull, wanted_eq] at done ⊢
  split at done
  · cases done
  · rename_i copy entries
    have copied := copyCqData_of_copyEntries entries
    have here := copyCqData_findCq wanted
      (NvmeDevice.findCq_setCq ndev reap.cqid _) copied
    have scannedFormed := @CqClosed.tail _ wellFormed_closed _ tail formed
    have moves := headAt_moved scannedFormed here
      (show wanted - copy.left ≤ cq.elements by omega)
    change HeadAt reap.cqid (slotFrom cq (wanted - copy.left)) _ at moves
    have copying := (inReap_closed ndev).copyCqData wanted
      ((inReap_closed ndev).scan start found scan) copied
    have books : InReap ndev (if wanted - copy.left = 0 then copy.ndev
        else copy.ndev.updateCqHead reap.cqid (wanted - copy.left)) := by
      split
      · exact copying
      · exact (inReap_closed ndev).head _ _ copying
    refine ⟨copy, copied, ?_, ?_⟩
    · intro copyOut
      simp only [copyOut, Bool.not_false, if_true] at done ⊢
      cases done
      exact ⟨⟨_, here, rfl⟩, trivial⟩
    · intro copyOut
      simp only [copyOut, Bool.not_true, Bool.false_eq_true, if_false]
        at done ⊢
      generalize (if wanted - copy.left = 0 then copy.ndev
        else copy.ndev.updateCqHead reap.cqid (wanted - copy.left)) = moved
        at done moves books
      split at done
      · rename_i idle
        split at done
        · cases done
        · rename_i ret cleared reset resets
          have last := moves.dnvmeResetIsrFlag resets
          by_cases can : CanReset ndev cq.irqNo
          · have zero := dnvmeResetIsrFlag_zero books.order.books
              (can.steady books.steady) resets
            subst zero
            cases done
            refine ⟨last, rfl, iff_of_false (lt_irrefl 0) ?_⟩
            exact fun fails => fails.1.2.2 can
          · have negative := dnvmeResetIsrFlag_negative books.order.books
              (fun there => can
                ((canReset_steady_iff books.steady).mp there)) resets
            rw [if_pos negative] at done
            cases done
            exact ⟨last, rfl, iff_of_true negative
              ⟨⟨idle.1, idle.2.1, can⟩, idle.2.2⟩⟩
      · rename_i busy
        cases done
        refine ⟨moves, rfl, iff_of_false (lt_irrefl 0) ?_⟩
        rintro ⟨⟨type, enabled, _⟩, none_⟩
        exact busy ⟨type, enabled, none_⟩

end Legacy

section Exact

variable {env : ReapEnv} {ndev : NvmeDevice} {reap : NvmeReap}
  {remain : Nat} {cq scanned : NvmeCq} {result : ReapResult}

/-- When the legacy path accounts for what it did: it rejects the request or
has nothing to reap; or it can write its result and nothing fails; or only the
last unreaped entry is refused and the reset of the interrupt fails as well. -/
def LegacyAccounts (env : ReapEnv) (ndev : NvmeDevice) (cqid : Nat)
    (cq : NvmeCq) (remain wanted : Nat) : Prop :=
  env.copyIn = false ∨ cq.elements ≤ remain ∨ wanted = 0 ∨
    (env.copyOut = true ∧
      (Clean cqid cq ndev env.copyEntry 0 wanted ∨
        (wanted = remain ∧
          StopsAt cqid cq ndev env.copyEntry 0 (wanted - 1) ∧
          ResetFails ndev cq)))

/-- The trace of a request that comes to the copy. -/
theorem legacyTrace_eq (found : ndev.findCq reap.cqid = some cq)
    (unreaped : dnvmeGetCqeRemain ndev cq = .ok (remain, scanned))
    (copyIn : env.copyIn = true) (notFull : ¬ remain ≥ cq.elements) :
    legacyTrace env ndev reap = copyTrace reap.cqid env.copyEntry
      (min (reap.room cq.cqes) remain) cq.headPtr
      (ndev.setCq reap.cqid scanned) 0 := by
  have scan : ndev.scan reap.cqid cq =
      .ok (remain, ndev.setCq reap.cqid scanned) := by
    rw [NvmeDevice.scan, unreaped]
  unfold legacyTrace
  simp only [copyIn, Bool.not_true, Bool.false_eq_true, if_false, found,
    scan, notFull]

/-- A request that does not come to the copy. -/
theorem legacy_rejected (formed : WellFormed cq)
    (found : ndev.findCq reap.cqid = some cq)
    (unreaped : dnvmeGetCqeRemain ndev cq = .ok (remain, scanned))
    (rejected : env.copyIn = false ∨ cq.elements ≤ remain)
    (done : dnvmeReapCqeLegacy env ndev reap = .ok result) :
    Accounted reap.cqid cq (legacyTrace env ndev reap)
      ((legacyReport env ndev reap).elim 0 Prod.fst) result := by
  obtain ⟨tail, rfl⟩ := dnvmeGetCqeRemain_tail unreaped
  have scan : ndev.scan reap.cqid cq = .ok (remain,
      ndev.setCq reap.cqid { cq with tailPtr := tail }) := by
    rw [NvmeDevice.scan, unreaped]
  unfold dnvmeReapCqeLegacy at done
  unfold legacyTrace legacyReport
  cases copyIn : env.copyIn with
  | false =>
      simp only [copyIn, Bool.not_false, if_true] at done ⊢
      cases done
      exact accounted_of_rejected formed.sane ⟨cq, found, rfl⟩
  | true =>
      have full : remain ≥ cq.elements := by
        rcases rejected with off | full
        · rw [copyIn] at off
          cases off
        · exact full
      simp only [copyIn, Bool.not_true, Bool.false_eq_true, if_false, found,
        scan, if_pos full] at done ⊢
      cases done
      exact accounted_of_rejected formed.sane
        ⟨_, NvmeDevice.findCq_setCq _ _ _, rfl⟩

/-- `dnvme_reap_cqe_legacy` accounts for what it did exactly then. -/
theorem dnvmeReapCqeLegacy_accounted_iff (start : InReap ndev ndev)
    (formed : WellFormed cq) (found : ndev.findCq reap.cqid = some cq)
    (unreaped : dnvmeGetCqeRemain ndev cq = .ok (remain, scanned))
    (done : dnvmeReapCqeLegacy env ndev reap = .ok result) :
    Accounted reap.cqid cq (legacyTrace env ndev reap)
        ((legacyReport env ndev reap).elim 0 Prod.fst) result ↔
      LegacyAccounts env ndev reap.cqid cq remain
        (min (reap.room cq.cqes) remain) := by
  by_cases rejected : env.copyIn = false ∨ cq.elements ≤ remain
  · refine iff_of_true
      (legacy_rejected formed found unreaped rejected done) ?_
    rcases rejected with off | full
    · exact Or.inl off
    · exact Or.inr (Or.inl full)
  · rw [not_or] at rejected
    have copyIn : env.copyIn = true := by simpa using rejected.1
    obtain ⟨copy, copied, unwritten, written⟩ := dnvmeReapCqeLegacy_parts
      start formed found unreaped copyIn rejected.2 done
    rw [legacyTrace_eq found unreaped copyIn rejected.2]
    unfold LegacyAccounts
    rw [or_iff_right rejected.1, or_iff_right rejected.2]
    obtain ⟨tail, rfl⟩ := dnvmeGetCqeRemain_tail unreaped
    have alike := alike_scanned found tail
    have scannedFormed := @CqClosed.tail _ wellFormed_closed _ tail formed
    generalize wanted_eq : min (reap.room cq.cqes) remain = wanted
      at copied written ⊢
    have within : wanted ≤ remain := by omega
    have ends := (copied_from_head scannedFormed
      (NvmeDevice.findCq_setCq ndev reap.cqid _) copied).of_tail
    dsimp only at ends
    cases copyOut : env.copyOut with
    | false =>
        obtain ⟨at_, report⟩ := unwritten copyOut
        rw [report]
        by_cases none_ : wanted = 0
        · refine iff_of_true ?_ (Or.inl none_)
          rw [none_]
          exact accounted_of_rejected formed.sane at_
        · refine iff_of_false ?_ ?_
          · cases ends with
            | clean clean zero left traced =>
                rw [traced, show wanted = wanted - 1 + 1 by omega]
                exact not_accounted_of_fewer (by simp)
            | lost last inside fails nonzero left traced =>
                rw [traced]
                exact not_accounted_of_fewer (by simp)
            | refused last inside stops nonzero left traced =>
                rw [traced]
                exact not_accounted_of_fewer (by simp)
          · rintro (zero | ⟨off, _⟩)
            · exact none_ zero
            · cases off
    | true =>
        obtain ⟨at_, report, negative⟩ := written copyOut
        rw [report]
        cases ends with
        | clean clean zero left traced =>
            refine iff_of_true ?_ (Or.inr ⟨rfl, Or.inl
              (clean_alike alike.symm clean)⟩)
            rw [traced, left, Nat.sub_zero, slotsFrom_zero]
            rw [left, Nat.sub_zero] at at_
            exact ⟨rfl, at_, fun fails => absurd rfl fails⟩
        | lost last inside fails nonzero left traced =>
            refine iff_of_false ?_ ?_
            · rw [traced, left]
              exact not_accounted_of_fewer (by omega)
            · rintro (none_ | ⟨_, clean | ⟨_, stops, _⟩⟩)
              · omega
              · rw [clean.2 last inside] at fails
                cases fails
              · rw [stops.2 last (by omega)] at fails
                cases fails
        | refused last inside stops nonzero left traced =>
            have stopped := stopsAt_alike alike.symm stops
            rw [traced, left,
              show wanted - (wanted - (last + 1)) = last + 1 by omega]
            rw [left, show wanted - (wanted - (last + 1)) = last + 1 by omega]
              at at_
            rw [left] at negative
            constructor
            · intro accounted
              obtain ⟨fails, none_⟩ :=
                negative.mp (accounted.error nonzero)
              have lastOne : wanted - 1 = last := by omega
              refine Or.inr ⟨rfl, Or.inr ⟨by omega, ?_, fails⟩⟩
              rw [lastOne]
              exact stopped
            · rintro (none_ | ⟨_, clean | ⟨all, again, fails⟩⟩)
              · omega
              · exact absurd clean (stopped.not_clean inside)
              · have same := stopped.unique again
                refine ⟨slotsFrom_zero _ _, at_, fun _ => ?_⟩
                exact negative.mpr ⟨fails, by omega⟩

end Exact

/-! ## Both paths -/

/-- A scan that returns counts no slot twice. -/
theorem dnvmeGetCqeRemain_le {ndev : NvmeDevice} {cq scanned : NvmeCq}
    {remain : Nat} (formed : WellFormed cq)
    (unreaped : dnvmeGetCqeRemain ndev cq = .ok (remain, scanned)) :
    remain ≤ cq.elements := by
  rcases Nat.lt_or_eq_of_le formed.elements with small | largest
  · have run := ((dnvmeGetCqeRemain_iff formed.sane small).mp unreaped).2.2
    exact run.le_elements formed.sane
  · rw [dnvmeGetCqeRemain] at unreaped
    split at unreaped
    · cases unreaped
    · rename_i tail count walk
      cases unreaped
      rw [largest] at walk
      rcases scanCqe_overflow _ _ _ (largest ▸ formed.sane.head) walk with
        ⟨distance, total, walked, entry, found, stale⟩
      rw [Nat.zero_add] at total
      subst total
      rw [largest]
      by_contra more
      rw [not_le] at more
      -- one lap before the end the same slot was still new
      obtain ⟨before, rfl⟩ := Nat.exists_eq_add_of_le more.le
      rcases walked before (by omega) with ⟨again, there, fresh⟩
      rw [show cq.headPtr + (2 ^ 16 + before) =
        cq.headPtr + before + 2 ^ 16 by omega, Nat.add_mod_right,
        there] at found
      cases found
      exact stale fresh

/--
A reap handles every entry at most once, reports what it reaped and passes on
the errors of the copy exactly in these cases.  Over netlink the caller asks
for no more entries than the scan has found.
-/
theorem reap_accounting_iff {ndev : NvmeDevice} {cqid remain : Nat}
    {cq scanned : NvmeCq} (reachable : Reachable (fun _ _ _ => True) ndev)
    (found : ndev.findCq cqid = some cq)
    (unreaped : dnvmeGetCqeRemain ndev cq = .ok (remain, scanned)) :
    (∀ copyOk expect buf size result, expect ≤ remain →
      dnvmeReapCqe copyOk ndev cqid expect buf size = .ok result →
      (Accounted cqid cq (reapTrace copyOk ndev cqid expect buf size)
          result.ret.toNat result ↔
        (expect = 0 ∨ buf = 0 ∨ size < u32 (expect * 2 ^ cq.cqes)) ∨
          Clean cqid cq ndev copyOk 0 expect)) ∧
    (∀ env expect size result,
      dnvmeReapCqeLegacy env ndev ⟨cqid, expect, size⟩ = .ok result →
      (Accounted cqid cq (legacyTrace env ndev ⟨cqid, expect, size⟩)
          ((legacyReport env ndev ⟨cqid, expect, size⟩).elim 0 Prod.fst)
          result ↔
        LegacyAccounts env ndev cqid cq remain
          (min (NvmeReap.room ⟨cqid, expect, size⟩ cq.cqes) remain))) := by
  have formed := Reachable.wellFormed reachable cqid cq found
  have most := dnvmeGetCqeRemain_le formed unreaped
  constructor
  · intro copyOk expect buf size result asked done
    exact dnvmeReapCqe_accounted_iff formed found (asked.trans most) done
  · intro env expect size result done
    exact dnvmeReapCqeLegacy_accounted_iff (Reachable.inReap reachable)
      formed found unreaped done

/-- The device of an outstanding command after its completion was posted. -/
def answeredDevice : NvmeDevice :=
  (dnvmeCreateAcq ⟨true, some 8192, true⟩ (waitingDevice 1) 4).2.postEntry 0
    0 ⟨0, 1, 0, 0, 1⟩

theorem answeredDevice_reachable :
    Reachable (fun _ _ _ => True) answeredDevice :=
  ((waitingDevice_one _ trivial).next
    (.createAcq ⟨true, some 8192, true⟩ 4) (fun _ _ => nofun) rfl).next
      (.post 0 0 ⟨0, 1, 0, 0, 1⟩) (fun _ _ => nofun) rfl

/-- The admin completion queue with its new entry. -/
def answeredQueue : NvmeCq :=
  { NvmePrepCq.queue ⟨4, nvmeAqId, true, 1, 0, false⟩ nvmeCqes 8192 with
    entries := Function.update (fun _ => .zero) 0 ⟨0, 1, 0, 0, 1⟩ }

theorem reap_accounting_of_answer :
    ∃ result, dnvmeReapCqe (fun _ => true) answeredDevice 0 1 4096 16 =
        .ok result ∧
      Accounted 0 answeredQueue
        (reapTrace (fun _ => true) answeredDevice 0 1 4096 16)
        result.ret.toNat result := by
  have unreaped : dnvmeGetCqeRemain answeredDevice answeredQueue =
      .ok (1, { answeredQueue with tailPtr := 1 }) := rfl
  have clean : Clean 0 answeredQueue answeredDevice (fun _ => true) 0 1 :=
    ⟨⟨(handleCmdCompletion answeredDevice ⟨0, 1, 0, 0, 1⟩).2,
      Accepted.cons rfl rfl (Accepted.nil _)⟩, fun _ _ => rfl⟩
  obtain ⟨result, done⟩ : ∃ result, dnvmeReapCqe (fun _ => true)
      answeredDevice 0 1 4096 16 = .ok result := ⟨_, rfl⟩
  exact ⟨result, done,
    ((reap_accounting_iff answeredDevice_reachable rfl unreaped).1 _ 1 4096
      16 result (le_refl 1) done).mpr (Or.inr clean)⟩

/-- The device with an entry that names no submission queue. -/
def strayDevice : NvmeDevice :=
  sharedDevice.postEntry 1 0 strayEntry

/-- No entry can be copied to the user. -/
def noCopies : ReapEnv := ⟨true, fun _ => false, true⟩

/-- An entry that names no submission queue is reaped over netlink without an
error, and on the legacy path an entry that cannot be copied is handled and
not counted. -/
theorem reap_loses_errors :
    Reachable (fun _ _ _ => True) strayDevice ∧
    (∃ result, dnvmeReapCqe (fun _ => true) strayDevice 1 1 4096 16 =
        .ok result ∧ result.ret = 1 ∧
      (reapTrace (fun _ => true) strayDevice 1 1 4096 16).2 =
        -Errno.EBADSLT ∧
      ¬ Accounted 1 postedQueue
        (reapTrace (fun _ => true) strayDevice 1 1 4096 16)
        result.ret.toNat result) ∧
    (∃ result, dnvmeReapCqeLegacy noCopies strayDevice ⟨1, 1, 16⟩ =
        .ok result ∧ result.ret = 0 ∧
      legacyTrace noCopies strayDevice ⟨1, 1, 16⟩ = ([0], -Errno.EFAULT) ∧
      legacyReport noCopies strayDevice ⟨1, 1, 16⟩ = some (0, 1) ∧
      ¬ Accounted 1 postedQueue
        (legacyTrace noCopies strayDevice ⟨1, 1, 16⟩) 0 result) := by
  refine ⟨?_, ⟨_, rfl, rfl, rfl, fun accounted => ?_⟩,
    ⟨_, rfl, rfl, rfl, rfl, fun accounted => ?_⟩⟩
  · exact (sharedDevice_reachable _).next (.post 1 0 strayEntry)
      (fun _ _ => nofun) rfl
  · exact absurd (accounted.error (by decide)) (by decide)
  · exact absurd (accounted.error (by decide)) (by decide)

end Dnvme.Driver.ReapAccounting
