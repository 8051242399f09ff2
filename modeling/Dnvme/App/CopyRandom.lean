import Dnvme.Nvme.Types

/-!
# Random copy commands

`ut_send_io_copy_cmd_random_region` draws the source ranges and the destination
of a copy command until they respect the limits of the namespace.  Two nested
loops share a budget of retries, which each of them charges for what the
attempt before has left behind.

A command that is sent respects the limits.  What goes wrong are the limits
that leave nothing to draw from, and the case that the budget runs out: then
the function returns the zero of an earlier step.
-/

namespace Dnvme.App.CopyRandom

open Dnvme.Driver
open Dnvme.Nvme
open Dnvme.Lib.Results

/-! ## Namespaces -/

/-- `struct nvme_id_ns`, as far as it limits a copy command; the widths of the
fields are those of the structure. -/
structure NvmeIdNs where
  nsze : Nat
  mcl : Nat
  msrc : Nat
  mssrl : Nat
  nszeFits : nsze < 2 ^ 64
  mclFits : mcl < 2 ^ 32
  msrcFits : msrc < 2 ^ 8
  mssrlFits : mssrl < 2 ^ 16

/-- The namespace of a test: missing in one of three ways, or there. -/
inductive Namespace where
  | beyond
  | inactive
  | noData
  | sane (idNs : NvmeIdNs)

/-- `check_id_ns_sanity` of a namespace without data. -/
def checkIdNsSanity : Namespace → Int
  | .beyond => -Errno.EINVAL
  | .inactive => -Errno.ENODEV
  | .noData => -Errno.EFAULT
  | .sane _ => 0

/-- `nvme_id_ns_msrc`. -/
def nvmeIdNsMsrc (idNs : NvmeIdNs) : Nat :=
  idNs.msrc + 1

/-! ## Copy resources -/

/-- `struct copy_range`. -/
structure CopyRange where
  slba : Nat
  nlb : Nat
  deriving DecidableEq, Repr

/-- `struct copy_resource`; `slba` is the target. -/
structure CopyResource where
  format : Nat
  slba : Nat
  nrEntry : Nat
  entry : List CopyRange

/-- `NVME_COPY_DESC_FMT_32B`. -/
def nvmeCopyDescFmt32b : Nat := 0

/-- `NVME_COPY_DESC_FMT_40B`. -/
def nvmeCopyDescFmt40b : Nat := 1

/-- Whether there is memory for the resource and for its descriptors. -/
structure Allocs where
  resource : Bool
  desc : Bool

/-- `ut_alloc_copy_resource`. -/
def utAllocCopyResource (allocs : Allocs) (nrDesc format : Nat) :
    Option CopyResource :=
  if !allocs.resource then none
  else if format ≠ nvmeCopyDescFmt32b ∧ format ≠ nvmeCopyDescFmt40b then none
  else if !allocs.desc then none
  else some ⟨format, 0, nrDesc, List.replicate nrDesc ⟨0, 0⟩⟩

/-- The settings of a copy command in `struct case_config_effect`. -/
structure CopyConfig where
  useDesc : Bool
  nrDesc : Nat
  useFmt : Bool
  fmt : Nat

/-- The numbers that the function takes from `rand()`; those of the loops by
attempt. -/
structure Numbers where
  count : Nat
  format : Nat
  slba : Nat → Nat → Nat
  nlb : Nat → Nat → Nat
  dest : Nat → Nat

/-! ## The loops -/

/-- The values that stay the same in the loops. -/
structure Limits where
  nsze : Nat
  mcl : Nat
  limit : Nat
  nrEntry : Nat

/-- The values that change in them; `attempt` counts the draws of the
ranges. -/
structure Draw where
  attempt : Nat
  retry : Int
  sum : Nat
  slba : Nat
  entry : List CopyRange

/-- The loop over the entries. -/
def drawEntries (limits : Limits) (numbers : Numbers) (attempt : Nat) :
    Run (List CopyRange) :=
  (List.range limits.nrEntry).mapM fun i => do
    let slba ← remainder (numbers.slba attempt i) (limits.nsze / 4)
    let nlb ← remainder (numbers.nlb attempt i) limits.limit
    return ⟨slba, nlb + 1⟩

/-- The sum of the lengths. -/
def sumNlb (entry : List CopyRange) : Nat :=
  u32 (entry.map CopyRange.nlb).sum

/-- The inner loop; it tells whether ranges were found. -/
def innerLoop (limits : Limits) (numbers : Numbers) :
    Nat → Draw → Run (Bool × Draw)
  | 0, _ => .error .endlessLoop
  | fuel + 1, draw =>
      let retry := if draw.sum ≠ 0 then draw.retry - 1 else draw.retry
      if retry < 0 then return (false, { draw with retry := retry })
      else do
        let entry ← drawEntries limits numbers draw.attempt
        let draw := { draw with
          retry := retry
          sum := sumNlb entry
          entry := entry }
        if draw.sum > limits.mcl then
          innerLoop limits numbers fuel
            { draw with attempt := draw.attempt + 1 }
        else return (true, draw)

/-- The outer loop.  A turn of a loop after its first one costs a retry, so a
loop that takes more turns than there are retries never ends. -/
def outerLoop (limits : Limits) (numbers : Numbers) :
    Nat → Draw → Run (Bool × Draw)
  | 0, _ => .error .endlessLoop
  | fuel + 1, draw => do
      let retry := if draw.slba ≠ 0 then draw.retry - 1 else draw.retry
      let (found, draw) ← innerLoop limits numbers 102
        { draw with retry := retry }
      if !found then return (false, draw)
      else
        let slba ← remainder (numbers.dest draw.attempt) (limits.nsze / 4)
        let draw := { draw with slba := slba }
        if draw.slba + draw.sum > limits.nsze then
          outerLoop limits numbers fuel
            { draw with attempt := draw.attempt + 1 }
        else return (true, draw)

/-! ## The function -/

/-- What the function returns, and the command that it sends. -/
structure Outcome where
  ret : Int
  sent : Option CopyResource

/-- `limit`. -/
def lengthLimit (idNs : NvmeIdNs) : Nat :=
  u16 (min (min (idNs.nsze / 4) idNs.mssrl) 256)

/-- `nr_desc`. -/
def rangeCount (config : CopyConfig) (numbers : Numbers) (idNs : NvmeIdNs) :
    Run Nat :=
  if config.useDesc && config.nrDesc ≠ 0 then return config.nrDesc
  else do
    let more ← remainder numbers.count (min (nvmeIdNsMsrc idNs) 16)
    return more + 1

/-- `format`. -/
def copyFormat (config : CopyConfig) (numbers : Numbers) : Nat :=
  if config.useFmt then config.fmt
  else if numbers.format % 2 ≠ 0 then nvmeCopyDescFmt40b
  else nvmeCopyDescFmt32b

/-- The loops and the command behind them. -/
def sendRandomRegion (send : CopyResource → Int) (idNs : NvmeIdNs)
    (numbers : Numbers) (copy : CopyResource) : Run Outcome := do
  let limits : Limits :=
    ⟨idNs.nsze, idNs.mcl, lengthLimit idNs, copy.nrEntry⟩
  let (found, draw) ← outerLoop limits numbers 102
    ⟨0, 100, 0, copy.slba, copy.entry⟩
  -- `ret` is the zero of `nvme_id_ns_mcl` when the budget has run out
  if !found then return ⟨0, none⟩
  else
    let copy := { copy with slba := draw.slba, entry := draw.entry }
    return ⟨send copy, some copy⟩

/-- `ut_send_io_copy_cmd_random_region`; `send` gives what
`ut_send_io_copy_cmd` returns. -/
def utSendIoCopyCmdRandomRegion (send : CopyResource → Int)
    (namespace_ : Namespace) (config : CopyConfig) (allocs : Allocs)
    (numbers : Numbers) : Run Outcome :=
  match namespace_ with
  | .sane idNs => do
      let nrDesc ← rangeCount config numbers idNs
      (utAllocCopyResource allocs nrDesc (copyFormat config numbers)).elim
        (.ok ⟨-Errno.ENOMEM, none⟩) (sendRandomRegion send idNs numbers)
  | missing => .ok ⟨checkIdNsSanity missing, none⟩

/-! ## The statement -/

/-- The number of blocks of all ranges. -/
def CopyResource.total (copy : CopyResource) : Nat :=
  (copy.entry.map CopyRange.nlb).sum

/-- A command that respects the limits of a namespace. -/
structure Respects (idNs : NvmeIdNs) (copy : CopyResource) : Prop where
  count : copy.entry.length = copy.nrEntry
  ranges : 1 ≤ copy.nrEntry ∧ copy.nrEntry ≤ nvmeIdNsMsrc idNs
  lengths : ∀ range ∈ copy.entry, 1 ≤ range.nlb ∧ range.nlb ≤ idNs.mssrl
  ends : ∀ range ∈ copy.entry, range.slba + range.nlb ≤ idNs.nsze
  total : copy.total ≤ idNs.mcl
  dest : copy.slba + copy.total ≤ idNs.nsze

/-- The function ends, sends a command that respects the limits, or sends none
and tells so. -/
def Sound (send : CopyResource → Int) (namespace_ : Namespace)
    (config : CopyConfig) (allocs : Allocs) (numbers : Numbers) : Prop :=
  ∃ outcome, utSendIoCopyCmdRandomRegion send namespace_ config allocs
      numbers = .ok outcome ∧
    (∀ copy, outcome.sent = some copy →
      ∃ idNs, namespace_ = .sane idNs ∧ Respects idNs copy) ∧
    (outcome.sent = none → outcome.ret < 0)

/-- The number of ranges that is drawn. -/
def drawnCount (numbers : Numbers) (idNs : NvmeIdNs) : Nat :=
  numbers.count % min (nvmeIdNsMsrc idNs) 16 + 1

/-- The blocks of an attempt. -/
def attemptTotal (numbers : Numbers) (idNs : NvmeIdNs) (attempt : Nat) : Nat :=
  ((List.range (drawnCount numbers idNs)).map fun i =>
    numbers.nlb attempt i % lengthLimit idNs + 1).sum

/-- The destination of an attempt. -/
def attemptDest (numbers : Numbers) (idNs : NvmeIdNs) (attempt : Nat) : Nat :=
  numbers.dest attempt % (idNs.nsze / 4)

/-- An attempt that respects the limits. -/
def Accepted (numbers : Numbers) (idNs : NvmeIdNs) (attempt : Nat) : Prop :=
  attemptTotal numbers idNs attempt ≤ idNs.mcl ∧
    attemptDest numbers idNs attempt + attemptTotal numbers idNs attempt ≤
      idNs.nsze

/-- What an attempt that is given up costs: a retry for its blocks, and one
for its destination unless that is zero or was not drawn. -/
def cost (numbers : Numbers) (idNs : NvmeIdNs) (attempt : Nat) : Nat :=
  if attemptTotal numbers idNs attempt ≤ idNs.mcl ∧
      attemptDest numbers idNs attempt ≠ 0 then 2
  else 1

/-- What the attempts before one cost. -/
def spent (numbers : Numbers) (idNs : NvmeIdNs) (attempt : Nat) : Nat :=
  ((List.range attempt).map (cost numbers idNs)).sum

/-- The numbers hold an attempt within the budget that respects the
limits. -/
def Attempted (numbers : Numbers) (idNs : NvmeIdNs) : Prop :=
  ∃ attempt, Accepted numbers idNs attempt ∧ spent numbers idNs attempt ≤ 100

/-- There is something to draw from, and an attempt to accept. -/
structure Samples (numbers : Numbers) (idNs : NvmeIdNs) : Prop where
  size : 4 ≤ idNs.nsze
  length : 1 ≤ idNs.mssrl
  attempt : Attempted numbers idNs

/-! ## One attempt -/

section Attempt

variable {numbers : Numbers} {idNs : NvmeIdNs} {attempt : Nat}

/-- The values that stay the same for a namespace. -/
def limitsOf (numbers : Numbers) (idNs : NvmeIdNs) : Limits :=
  ⟨idNs.nsze, idNs.mcl, lengthLimit idNs, drawnCount numbers idNs⟩

/-- The ranges of an attempt. -/
def attemptEntry (numbers : Numbers) (idNs : NvmeIdNs) (attempt : Nat) :
    List CopyRange :=
  (List.range (drawnCount numbers idNs)).map fun i =>
    ⟨numbers.slba attempt i % (idNs.nsze / 4),
      numbers.nlb attempt i % lengthLimit idNs + 1⟩

theorem lengthLimit_eq (idNs : NvmeIdNs) :
    lengthLimit idNs = min (min (idNs.nsze / 4) idNs.mssrl) 256 :=
  Nat.mod_eq_of_lt (by omega)

theorem lengthLimit_pos_iff :
    0 < lengthLimit idNs ↔ 4 ≤ idNs.nsze ∧ 1 ≤ idNs.mssrl := by
  rw [lengthLimit_eq]
  omega

theorem drawnCount_bounds (numbers : Numbers) (idNs : NvmeIdNs) :
    1 ≤ drawnCount numbers idNs ∧
      drawnCount numbers idNs ≤ nvmeIdNsMsrc idNs ∧
      drawnCount numbers idNs ≤ 16 := by
  have some_ : 0 < min (nvmeIdNsMsrc idNs) 16 := by
    unfold nvmeIdNsMsrc
    omega
  have below := Nat.mod_lt numbers.count some_
  unfold drawnCount
  omega

theorem drawEntries_ok (some_ : 0 < lengthLimit idNs) :
    drawEntries (limitsOf numbers idNs) numbers attempt =
      .ok (attemptEntry numbers idNs attempt) := by
  have size := (lengthLimit_pos_iff.mp some_).1
  have quarter : 0 < idNs.nsze / 4 := by omega
  refine mapM_ok fun i _ => ?_
  change (do
    let slba ← remainder (numbers.slba attempt i) (idNs.nsze / 4)
    let nlb ← remainder (numbers.nlb attempt i) (lengthLimit idNs)
    return (⟨slba, nlb + 1⟩ : CopyRange)) = _
  rw [remainder_ok quarter, remainder_ok some_]
  rfl

/-- Without a length to draw from the first attempt divides by zero. -/
theorem drawEntries_stops (none_ : lengthLimit idNs = 0)
    {entry : List CopyRange} :
    drawEntries (limitsOf numbers idNs) numbers attempt ≠ .ok entry := by
  intro done
  have first : List.range (limitsOf numbers idNs).nrEntry =
      0 :: List.range' 1 (drawnCount numbers idNs - 1) := by
    have some_ := (drawnCount_bounds numbers idNs).1
    change List.range (drawnCount numbers idNs) = _
    rw [List.range_eq_range', ← Nat.sub_add_cancel some_, List.range'_succ,
      Nat.add_sub_cancel]
  unfold drawEntries at done
  rw [first] at done
  obtain ⟨range, turn⟩ := ok_of_mapM_cons done
  rcases ok_of_bind turn with ⟨slba, _, rest⟩
  rcases ok_of_bind rest with ⟨nlb, divides, _⟩
  change remainder _ (lengthLimit idNs) = _ at divides
  unfold remainder at divides
  rw [if_pos none_] at divides
  cases divides

theorem sum_attemptEntry (numbers : Numbers) (idNs : NvmeIdNs)
    (attempt : Nat) :
    ((attemptEntry numbers idNs attempt).map CopyRange.nlb).sum =
      attemptTotal numbers idNs attempt := by
  unfold attemptEntry attemptTotal
  rw [List.map_map]
  rfl

/-- An attempt has a block for each range, and not more than the limit. -/
theorem attemptTotal_bounds (some_ : 0 < lengthLimit idNs) :
    1 ≤ attemptTotal numbers idNs attempt ∧
      attemptTotal numbers idNs attempt ≤ 16 * 256 := by
  have count := drawnCount_bounds numbers idNs
  have limit : lengthLimit idNs ≤ 256 := by
    rw [lengthLimit_eq]
    exact Nat.min_le_right _ _
  have low := List.card_nsmul_le_sum
    ((List.range (drawnCount numbers idNs)).map fun i =>
      numbers.nlb attempt i % lengthLimit idNs + 1) 1 (by
        intro value member
        obtain ⟨i, _, rfl⟩ := List.mem_map.mp member
        exact Nat.le_add_left 1 _)
  have high := List.sum_le_card_nsmul
    ((List.range (drawnCount numbers idNs)).map fun i =>
      numbers.nlb attempt i % lengthLimit idNs + 1) 256 (by
        intro value member
        obtain ⟨i, _, rfl⟩ := List.mem_map.mp member
        exact (Nat.mod_lt _ some_).trans_le limit)
  rw [List.length_map, List.length_range, smul_eq_mul] at low high
  unfold attemptTotal
  omega

theorem sumNlb_attemptEntry (some_ : 0 < lengthLimit idNs) :
    sumNlb (attemptEntry numbers idNs attempt) =
      attemptTotal numbers idNs attempt := by
  unfold sumNlb
  rw [sum_attemptEntry]
  have small := (@attemptTotal_bounds numbers idNs attempt some_).2
  exact Nat.mod_eq_of_lt (by omega)

theorem spent_succ (numbers : Numbers) (idNs : NvmeIdNs) (attempt : Nat) :
    spent numbers idNs (attempt + 1) =
      spent numbers idNs attempt + cost numbers idNs attempt := by
  unfold spent
  rw [List.range_succ, List.map_append, List.sum_append, List.map_singleton,
    List.sum_singleton]

theorem spent_mono {first later : Nat} (order : first ≤ later) :
    spent numbers idNs first ≤ spent numbers idNs later := by
  induction later, order using Nat.le_induction with
  | base => exact le_refl _
  | succ later _ ih =>
      rw [spent_succ]
      exact ih.trans (Nat.le_add_right _ _)

/-- An accepted attempt is a command that respects the limits. -/
theorem respects_of_accepted (some_ : 0 < lengthLimit idNs)
    (accepted : Accepted numbers idNs attempt) (format : Nat) :
    Respects idNs ⟨format, attemptDest numbers idNs attempt,
      drawnCount numbers idNs, attemptEntry numbers idNs attempt⟩ := by
  have count := drawnCount_bounds numbers idNs
  have total := sum_attemptEntry numbers idNs attempt
  have limit := lengthLimit_eq idNs
  have quarter : 0 < idNs.nsze / 4 := by omega
  have range (element : CopyRange)
      (member : element ∈ attemptEntry numbers idNs attempt) :
      element.slba < idNs.nsze / 4 ∧ 1 ≤ element.nlb ∧
        element.nlb ≤ lengthLimit idNs := by
    obtain ⟨i, _, rfl⟩ := List.mem_map.mp member
    exact ⟨Nat.mod_lt _ quarter, Nat.le_add_left 1 _, Nat.mod_lt _ some_⟩
  refine ⟨?_, ⟨count.1, count.2.1⟩, ?_, ?_, ?_, ?_⟩
  · change ((List.range (drawnCount numbers idNs)).map _).length = _
    rw [List.length_map, List.length_range]
  · intro element member
    obtain ⟨_, low, high⟩ := range element member
    omega
  · intro element member
    obtain ⟨start, low, high⟩ := range element member
    omega
  · exact total.le.trans accepted.1
  · exact (congrArg (attemptDest numbers idNs attempt + ·) total).le.trans
      accepted.2

theorem cost_pos : 1 ≤ cost numbers idNs attempt := by
  unfold cost
  split <;> omega

end Attempt

/-! ## The loops over attempts -/

section Loops

variable {numbers : Numbers} {idNs : NvmeIdNs}

/-- What the inner loop has when it charged for the attempts before this
one. -/
def InnerBudget (numbers : Numbers) (idNs : NvmeIdNs) (draw : Draw) : Prop :=
  (if draw.sum ≠ 0 then draw.retry - 1 else draw.retry) =
    100 - (spent numbers idNs draw.attempt : Int)

/-- The values after the draws of an attempt. -/
def drawnAt (numbers : Numbers) (idNs : NvmeIdNs) (attempt slba : Nat) :
    Draw :=
  ⟨attempt, 100 - (spent numbers idNs attempt : Int),
    attemptTotal numbers idNs attempt, slba, attemptEntry numbers idNs attempt⟩

theorem innerLoop_spent {draw : Draw} (budget : InnerBudget numbers idNs draw)
    (none_ : 100 < spent numbers idNs draw.attempt) (fuel : Nat) :
    ∃ left, innerLoop (limitsOf numbers idNs) numbers (fuel + 1) draw =
      .ok (false, left) := by
  unfold innerLoop
  rw [budget]
  exact ⟨_, if_pos (by omega)⟩

theorem innerLoop_turn (some_ : 0 < lengthLimit idNs) {draw : Draw}
    (budget : InnerBudget numbers idNs draw)
    (left : spent numbers idNs draw.attempt ≤ 100) (fuel : Nat) :
    innerLoop (limitsOf numbers idNs) numbers (fuel + 1) draw =
      if attemptTotal numbers idNs draw.attempt > idNs.mcl then
        innerLoop (limitsOf numbers idNs) numbers fuel
          { drawnAt numbers idNs draw.attempt draw.slba with
            attempt := draw.attempt + 1 }
      else .ok (true, drawnAt numbers idNs draw.attempt draw.slba) := by
  rw [innerLoop]
  rw [budget, drawEntries_ok some_]
  refine (if_neg (by omega)).trans ?_
  change (if sumNlb _ > idNs.mcl then
    innerLoop _ _ _ ⟨_, _, sumNlb _, _, _⟩
      else .ok (true, ⟨_, _, sumNlb _, _, _⟩)) = _
  rw [sumNlb_attemptEntry some_]
  rfl

/-- The inner loop ends with the first attempt whose blocks are within MCL,
or when the budget is spent. -/
theorem innerLoop_ends (some_ : 0 < lengthLimit idNs) (fuel : Nat) :
    ∀ {draw : Draw}, InnerBudget numbers idNs draw →
      102 ≤ spent numbers idNs draw.attempt + fuel → 0 < fuel →
      ∃ last, draw.attempt ≤ last ∧
        (∀ attempt, draw.attempt ≤ attempt → attempt < last →
          idNs.mcl < attemptTotal numbers idNs attempt) ∧
        ((spent numbers idNs last ≤ 100 ∧
            attemptTotal numbers idNs last ≤ idNs.mcl ∧
            innerLoop (limitsOf numbers idNs) numbers fuel draw =
              .ok (true, drawnAt numbers idNs last draw.slba)) ∨
          (100 < spent numbers idNs last ∧
            ∃ left, innerLoop (limitsOf numbers idNs) numbers fuel draw =
              .ok (false, left))) := by
  induction fuel with
  | zero =>
      intro draw _ _ turns
      exact absurd turns (Nat.lt_irrefl 0)
  | succ fuel ih =>
      intro draw budget enough _
      by_cases left : spent numbers idNs draw.attempt ≤ 100
      · rw [innerLoop_turn some_ budget left]
        by_cases above : attemptTotal numbers idNs draw.attempt > idNs.mcl
        · have blocks := (@attemptTotal_bounds numbers idNs draw.attempt
            some_).1
          have charge : cost numbers idNs draw.attempt = 1 :=
            if_neg fun both => absurd both.1 (Nat.not_le.mpr above)
          have more := spent_succ numbers idNs draw.attempt
          have next : InnerBudget numbers idNs
              { drawnAt numbers idNs draw.attempt draw.slba with
                attempt := draw.attempt + 1 } := by
            unfold InnerBudget drawnAt
            rw [if_pos (Nat.ne_of_gt blocks)]
            dsimp only
            omega
          obtain ⟨last, later, rejects, ends⟩ := ih next
            (by dsimp only; omega) (by omega)
          rw [if_pos above]
          refine ⟨last, (Nat.le_succ _).trans later,
            fun attempt low high => ?_, ends⟩
          rcases Nat.eq_or_lt_of_le low with same | after
          · exact same ▸ above
          · exact rejects attempt after high
        · rw [if_neg above]
          exact ⟨draw.attempt, le_refl _,
            fun attempt low high => absurd high (Nat.not_lt.mpr low),
            .inl ⟨left, Nat.not_lt.mp above, rfl⟩⟩
      · have none_ := Nat.lt_of_not_le left
        exact ⟨draw.attempt, le_refl _,
          fun attempt low high => absurd high (Nat.not_lt.mpr low),
          .inr ⟨none_, innerLoop_spent budget none_ fuel⟩⟩

/-- What the outer loop has when it charged for the destination before. -/
def OuterBudget (numbers : Numbers) (idNs : NvmeIdNs) (draw : Draw) : Prop :=
  InnerBudget numbers idNs { draw with
    retry := if draw.slba ≠ 0 then draw.retry - 1 else draw.retry }

/-- The outer loop goes on with what the inner loop has found. -/
theorem outerLoop_found {draw : Draw} {last fuel : Nat}
    (found : innerLoop (limitsOf numbers idNs) numbers 102 { draw with
        retry := if draw.slba ≠ 0 then draw.retry - 1 else draw.retry } =
      .ok (true, drawnAt numbers idNs last draw.slba))
    (some_ : 0 < lengthLimit idNs) :
    outerLoop (limitsOf numbers idNs) numbers (fuel + 1) draw =
      if attemptDest numbers idNs last + attemptTotal numbers idNs last >
          idNs.nsze then
        outerLoop (limitsOf numbers idNs) numbers fuel
          { drawnAt numbers idNs last (attemptDest numbers idNs last) with
            attempt := last + 1 }
      else .ok (true,
        drawnAt numbers idNs last (attemptDest numbers idNs last)) := by
  have size := (lengthLimit_pos_iff.mp some_).1
  have quarter : 0 < idNs.nsze / 4 := by omega
  have dest : remainder (numbers.dest last) (idNs.nsze / 4) =
      .ok (attemptDest numbers idNs last) := remainder_ok quarter
  rw [outerLoop]
  rw [found]
  change (remainder (numbers.dest last) (idNs.nsze / 4) >>= _) = _
  rw [dest]
  rfl

theorem outerLoop_spent {draw : Draw} {left : Draw} {fuel : Nat}
    (spent_ : innerLoop (limitsOf numbers idNs) numbers 102 { draw with
        retry := if draw.slba ≠ 0 then draw.retry - 1 else draw.retry } =
      .ok (false, left)) :
    outerLoop (limitsOf numbers idNs) numbers (fuel + 1) draw =
      .ok (false, left) := by
  rw [outerLoop]
  rw [spent_]
  rfl

/-- The outer loop ends with the first accepted attempt, or when the budget is
spent. -/
theorem outerLoop_ends (some_ : 0 < lengthLimit idNs) (fuel : Nat) :
    ∀ {draw : Draw}, OuterBudget numbers idNs draw →
      102 ≤ spent numbers idNs draw.attempt + fuel → 0 < fuel →
      ∃ last, draw.attempt ≤ last ∧
        (∀ attempt, draw.attempt ≤ attempt → attempt < last →
          ¬Accepted numbers idNs attempt) ∧
        ((spent numbers idNs last ≤ 100 ∧ Accepted numbers idNs last ∧
            outerLoop (limitsOf numbers idNs) numbers fuel draw =
              .ok (true, drawnAt numbers idNs last
                (attemptDest numbers idNs last))) ∨
          (100 < spent numbers idNs last ∧
            ∃ left, outerLoop (limitsOf numbers idNs) numbers fuel draw =
              .ok (false, left))) := by
  induction fuel with
  | zero =>
      intro draw _ _ turns
      exact absurd turns (Nat.lt_irrefl 0)
  | succ fuel ih =>
      intro draw budget enough _
      obtain ⟨last, later, rejects, ends⟩ := innerLoop_ends some_ 102 budget
        (Nat.le_add_left _ _) (by omega)
      have before (attempt : Nat) (low : draw.attempt ≤ attempt)
          (high : attempt < last) : ¬Accepted numbers idNs attempt :=
        fun accepted =>
          absurd accepted.1 (Nat.not_le.mpr (rejects attempt low high))
      rcases ends with ⟨left, within, found⟩ | ⟨none_, left, ends⟩
      · have grown : spent numbers idNs draw.attempt ≤
            spent numbers idNs last := spent_mono later
        rw [outerLoop_found found some_]
        by_cases above : attemptDest numbers idNs last +
            attemptTotal numbers idNs last > idNs.nsze
        · have blocks := (@attemptTotal_bounds numbers idNs last some_).1
          have charge := @cost_pos numbers idNs last
          have more := spent_succ numbers idNs last
          have next : OuterBudget numbers idNs
              { drawnAt numbers idNs last (attemptDest numbers idNs last) with
                attempt := last + 1 } := by
            unfold OuterBudget InnerBudget drawnAt
            dsimp only
            rw [if_pos (Nat.ne_of_gt blocks), more]
            unfold cost
            split_ifs with one two two
            all_goals omega
          obtain ⟨final, after, none_, ends⟩ := ih next
            (by dsimp only; omega) (by omega)
          rw [if_pos above]
          refine ⟨final, later.trans ((Nat.le_succ _).trans after),
            fun attempt low high => ?_, ends⟩
          rcases Nat.lt_trichotomy attempt last with less | rfl | more
          · exact before attempt low less
          · exact fun accepted => absurd accepted.2 (Nat.not_le.mpr above)
          · exact none_ attempt more high
        · rw [if_neg above]
          exact ⟨last, later, before,
            .inl ⟨left, ⟨within, Nat.not_lt.mp above⟩, rfl⟩⟩
      · exact ⟨last, later, before, .inr ⟨none_, left, outerLoop_spent ends⟩⟩

end Loops

/-! ## The result -/

section Result

variable {numbers : Numbers} {idNs : NvmeIdNs} {config : CopyConfig}
  {allocs : Allocs} {send : CopyResource → Int}

/-- The resource at the begin of the loops. -/
def freshCopy (numbers : Numbers) (idNs : NvmeIdNs) (format : Nat) :
    CopyResource :=
  ⟨format, 0, drawnCount numbers idNs,
    List.replicate (drawnCount numbers idNs) ⟨0, 0⟩⟩

/-- The command of an attempt. -/
def attemptCopy (numbers : Numbers) (idNs : NvmeIdNs) (format attempt : Nat) :
    CopyResource :=
  ⟨format, attemptDest numbers idNs attempt, drawnCount numbers idNs,
    attemptEntry numbers idNs attempt⟩

/-- The outer loop from its begin. -/
theorem outerLoop_from_start (some_ : 0 < lengthLimit idNs)
    (entry : List CopyRange) :
    ∃ last, (∀ attempt < last, ¬Accepted numbers idNs attempt) ∧
      ((spent numbers idNs last ≤ 100 ∧ Accepted numbers idNs last ∧
          outerLoop (limitsOf numbers idNs) numbers 102 ⟨0, 100, 0, 0, entry⟩ =
            .ok (true, drawnAt numbers idNs last
              (attemptDest numbers idNs last))) ∨
        (100 < spent numbers idNs last ∧
          ∃ left, outerLoop (limitsOf numbers idNs) numbers 102
              ⟨0, 100, 0, 0, entry⟩ = .ok (false, left))) := by
  have budget : OuterBudget numbers idNs ⟨0, 100, 0, 0, entry⟩ := rfl
  obtain ⟨last, _, none_, ends⟩ := outerLoop_ends some_ 102 budget
    (Nat.le_add_left _ _) (by omega)
  exact ⟨last, fun attempt => none_ attempt (Nat.zero_le _), ends⟩

/-- With an attempt within the budget a command is sent. -/
theorem sendRandomRegion_sends (some_ : 0 < lengthLimit idNs)
    (attempted : Attempted numbers idNs) (format : Nat) :
    ∃ last, Accepted numbers idNs last ∧
      sendRandomRegion send idNs numbers (freshCopy numbers idNs format) =
        .ok ⟨send (attemptCopy numbers idNs format last),
          some (attemptCopy numbers idNs format last)⟩ := by
  obtain ⟨attempt, accepted, within⟩ := attempted
  obtain ⟨last, before, ends⟩ := @outerLoop_from_start numbers idNs some_
    (freshCopy numbers idNs format).entry
  rcases ends with ⟨_, found, ends⟩ | ⟨none_, _⟩
  · refine ⟨last, found, ?_⟩
    change (outerLoop (limitsOf numbers idNs) numbers 102
      ⟨0, 100, 0, 0, _⟩ >>= _) = _
    rw [ends]
    rfl
  · have less : attempt < last := by
      by_contra later
      have grown : spent numbers idNs last ≤ spent numbers idNs attempt :=
        spent_mono (Nat.le_of_not_lt later)
      omega
    exact absurd accepted (before attempt less)

/-- Without one the function returns zero and sends nothing. -/
theorem sendRandomRegion_givesUp (some_ : 0 < lengthLimit idNs)
    (none_ : ¬Attempted numbers idNs) (format : Nat) :
    sendRandomRegion send idNs numbers (freshCopy numbers idNs format) =
      .ok ⟨0, none⟩ := by
  obtain ⟨last, _, ends⟩ := @outerLoop_from_start numbers idNs some_
    (freshCopy numbers idNs format).entry
  rcases ends with ⟨within, found, _⟩ | ⟨_, left, ends⟩
  · exact absurd ⟨last, found, within⟩ none_
  · change (outerLoop (limitsOf numbers idNs) numbers 102
      ⟨0, 100, 0, 0, _⟩ >>= _) = _
    rw [ends]
    rfl

/-- Without a length to draw from the program is stopped. -/
theorem sendRandomRegion_stops (none_ : lengthLimit idNs = 0) (format : Nat)
    {outcome : Outcome} :
    sendRandomRegion send idNs numbers (freshCopy numbers idNs format) ≠
      .ok outcome := by
  intro done
  obtain ⟨_, loops, _⟩ := ok_of_bind done
  rw [outerLoop] at loops
  obtain ⟨_, inner, _⟩ := ok_of_bind loops
  rw [innerLoop] at inner
  obtain ⟨entry, draws, _⟩ := ok_of_bind inner
  exact drawEntries_stops none_ draws

/-- The resource can be allocated. -/
structure Allocated (config : CopyConfig) (allocs : Allocs)
    (numbers : Numbers) : Prop where
  resource : allocs.resource = true
  format : copyFormat config numbers = nvmeCopyDescFmt32b ∨
    copyFormat config numbers = nvmeCopyDescFmt40b
  desc : allocs.desc = true

theorem utAllocCopyResource_some (allocated : Allocated config allocs numbers) :
    utAllocCopyResource allocs (drawnCount numbers idNs)
        (copyFormat config numbers) =
      some (freshCopy numbers idNs (copyFormat config numbers)) := by
  have known : ¬(copyFormat config numbers ≠ nvmeCopyDescFmt32b ∧
      copyFormat config numbers ≠ nvmeCopyDescFmt40b) := by
    rintro ⟨one, two⟩
    exact allocated.format.elim one two
  unfold utAllocCopyResource
  rw [allocated.resource, allocated.desc, if_neg known]
  rfl

theorem utAllocCopyResource_none
    (missing : ¬Allocated config allocs numbers) (nrDesc : Nat) :
    utAllocCopyResource allocs nrDesc (copyFormat config numbers) = none := by
  by_contra some_
  apply missing
  unfold utAllocCopyResource at some_
  split_ifs at some_ with resource format desc
  · exact absurd rfl some_
  · exact absurd rfl some_
  · exact absurd rfl some_
  · refine ⟨by simpa using resource, ?_, by simpa using desc⟩
    by_contra unknown
    exact format (not_or.mp unknown)

theorem rangeCount_drawn (free : config.useDesc = false ∨ config.nrDesc = 0) :
    rangeCount config numbers idNs = .ok (drawnCount numbers idNs) := by
  have some_ : 0 < min (nvmeIdNsMsrc idNs) 16 := by
    unfold nvmeIdNsMsrc
    omega
  have drawn : ¬(config.useDesc && decide (config.nrDesc ≠ 0)) = true := by
    rcases free with off | zero
    · rw [off]
      exact Bool.false_ne_true
    · rw [zero, Bool.and_comm]
      exact Bool.false_ne_true
  unfold rangeCount
  rw [if_neg drawn, remainder_ok some_]
  rfl

/-- For a namespace with data the function goes on to the loops, unless there
is no memory. -/
theorem utSendIoCopyCmdRandomRegion_sane
    (free : config.useDesc = false ∨ config.nrDesc = 0) :
    utSendIoCopyCmdRandomRegion send (.sane idNs) config allocs numbers =
      (utAllocCopyResource allocs (drawnCount numbers idNs)
        (copyFormat config numbers)).elim (.ok ⟨-Errno.ENOMEM, none⟩)
          (sendRandomRegion send idNs numbers) := by
  change (rangeCount config numbers idNs >>= _) = _
  rw [rangeCount_drawn free]
  rfl

/-- A copy command that is drawn without a configured number of ranges is
sound exactly when there is something to draw from and the numbers hold an
attempt within the budget; where no resource can be allocated nothing is
drawn. -/
theorem utSendIoCopyCmdRandomRegion_sound_iff (send : CopyResource → Int)
    (namespace_ : Namespace) (config : CopyConfig) (allocs : Allocs)
    (numbers : Numbers) (free : config.useDesc = false ∨ config.nrDesc = 0) :
    Sound send namespace_ config allocs numbers ↔
      ∀ idNs, namespace_ = .sane idNs → Allocated config allocs numbers →
        Samples numbers idNs := by
  cases namespace_ with
  | beyond =>
      exact ⟨fun _ idNs same => (by cases same),
        fun _ => ⟨_, rfl, fun _ sent => (by cases sent), fun _ => by decide⟩⟩
  | inactive =>
      exact ⟨fun _ idNs same => (by cases same),
        fun _ => ⟨_, rfl, fun _ sent => (by cases sent), fun _ => by decide⟩⟩
  | noData =>
      exact ⟨fun _ idNs same => (by cases same),
        fun _ => ⟨_, rfl, fun _ sent => (by cases sent), fun _ => by decide⟩⟩
  | sane idNs =>
      have runs := @utSendIoCopyCmdRandomRegion_sane numbers idNs config
        allocs send free
      unfold Sound
      rw [runs]
      constructor
      · rintro ⟨outcome, done, _, tells⟩ _ same allocated
        cases same
        rw [utAllocCopyResource_some allocated] at done
        change sendRandomRegion send idNs numbers _ = _ at done
        have some_ : 0 < lengthLimit idNs := by
          by_contra none_
          exact sendRandomRegion_stops (Nat.eq_zero_of_not_pos none_) _ done
        have room := lengthLimit_pos_iff.mp some_
        refine ⟨room.1, room.2, ?_⟩
        by_contra none_
        rw [sendRandomRegion_givesUp some_ none_] at done
        cases done
        exact absurd (tells rfl) (by decide)
      · intro samples
        by_cases allocated : Allocated config allocs numbers
        · obtain ⟨size, length, attempt⟩ := samples idNs rfl allocated
          have some_ := lengthLimit_pos_iff.mpr ⟨size, length⟩
          obtain ⟨last, accepted, sends⟩ := @sendRandomRegion_sends numbers
            idNs send some_ attempt (copyFormat config numbers)
          rw [utAllocCopyResource_some allocated]
          refine ⟨_, sends, ?_, fun none_ => by cases none_⟩
          intro copy sent
          cases sent
          exact ⟨idNs, rfl, respects_of_accepted some_ accepted _⟩
        · rw [utAllocCopyResource_none allocated]
          exact ⟨_, rfl, fun _ sent => (by cases sent), fun _ => by decide⟩

/-- A namespace of 1024 blocks whose limits admit the first draw. -/
theorem utSendIoCopyCmdRandomRegion_sound_first :
    Sound (fun _ => 0)
      (.sane ⟨1024, 128, 15, 64, by decide, by decide, by decide, by decide⟩)
      ⟨false, 0, true, 0⟩ ⟨true, true⟩
      ⟨3, 0, fun _ i => 100 * i, fun _ i => i, fun _ => 200⟩ := by
  refine (utSendIoCopyCmdRandomRegion_sound_iff _ _ _ _ _ (.inl rfl)).mpr ?_
  intro idNs same _
  cases same
  exact ⟨by decide, by decide, 0, ⟨by decide, by decide⟩, by decide⟩

/-- With one block in all and two ranges no draw is accepted, and the function
gives up with zero; with ranges of no block it divides by zero. -/
theorem utSendIoCopyCmdRandomRegion_not_sound :
    ¬Sound (fun _ => 0)
        (.sane ⟨1024, 1, 1, 1, by decide, by decide, by decide, by decide⟩)
        ⟨false, 0, true, 0⟩ ⟨true, true⟩
        ⟨1, 0, fun _ _ => 0, fun _ _ => 0, fun _ => 0⟩ ∧
      ¬Sound (fun _ => 0)
        (.sane ⟨1024, 0, 0, 0, by decide, by decide, by decide, by decide⟩)
        ⟨false, 0, true, 0⟩ ⟨true, true⟩
        ⟨0, 0, fun _ _ => 0, fun _ _ => 0, fun _ => 0⟩ := by
  constructor
  · rintro ⟨outcome, done, _, tells⟩
    rw [utSendIoCopyCmdRandomRegion_sane (.inl rfl),
      utAllocCopyResource_some ⟨rfl, .inl rfl, rfl⟩, Option.elim_some,
      sendRandomRegion_givesUp (by decide)] at done
    · cases done
      exact absurd (tells rfl) (by decide)
    · rintro ⟨attempt, ⟨within, _⟩, _⟩
      change 2 ≤ 1 at within
      omega
  · rintro ⟨outcome, done, _⟩
    rw [utSendIoCopyCmdRandomRegion_sane (.inl rfl),
      utAllocCopyResource_some ⟨rfl, .inl rfl, rfl⟩,
      Option.elim_some] at done
    refine sendRandomRegion_stops ?_ _ done
    decide

end Result

end Dnvme.App.CopyRandom
