import Dnvme.Lib.TableLoop
import Dnvme.Nvme.Types

/-!
# Plans of the I/O queues

The library keeps a table of the I/O submission queues and one of the I/O
completion queues, from which it later creates the queues.  It fills the
tables with random sizes, and exchanges and replaces these between the tests.

The plans can be created exactly as long as a 16-bit counter can pass the
number of queues, no submission queue asks for a completion queue that is
missing, and the device takes queues of the sizes that a replacement draws.
-/

namespace Dnvme.Nvme.IoqInfo

open Dnvme.Driver
open Dnvme.Nvme
open Dnvme.Lib.Results
open Dnvme.Lib.Shuffle
open Dnvme.Lib.TableLoop

/-! ## Tables -/

/-- `NVME_SQ_PRIO_URGENT` and the ones below it. -/
inductive NvmeSqPrio where
  | urgent
  | high
  | medium
  | low
  deriving DecidableEq, Repr

/-- `struct nvme_sq_info`. -/
structure NvmeSqInfo where
  sqid : Nat
  cqid : Nat
  nrEntry : Nat
  prio : NvmeSqPrio
  contig : Nat
  deriving DecidableEq, Repr

/-- `struct nvme_cq_info`. -/
structure NvmeCqInfo where
  cqid : Nat
  irqNo : Nat
  irqEn : Nat
  nrEntry : Nat
  contig : Nat
  deriving DecidableEq, Repr

/-- What `calloc` makes of the elements. -/
def zeroSq : NvmeSqInfo := ⟨0, 0, 0, .urgent, 0⟩

/-- The same for a completion queue. -/
def zeroCq : NvmeCqInfo := ⟨0, 0, 0, 0, 0⟩

/-- `struct nvme_dev_info` as far as the plans are made from it. -/
structure NvmeDevInfo where
  nrSq : Nat
  nrCq : Nat
  cap : Nat
  irqType : NvmeIrqType
  nrIrq : Nat

/-- `iosqs` and `iocqs`; a table that is `NULL` is empty. -/
structure IoqTables where
  iosqs : List NvmeSqInfo
  iocqs : List NvmeCqInfo

/-- `NVME_CAP_MQES`, which is 0's based. -/
def nvmeCapMqes (cap : Nat) : Nat :=
  u16 cap

/-- The numbers that a loop takes from `rand()`, by turn. -/
abbrev Numbers := Nat → Nat → Nat

/-! ## Filling the tables -/

/-- `nvme_set_sq_prio_random`. -/
def nvmeSetSqPrioRandom (number : Nat) : NvmeSqPrio :=
  match number % 4 with
  | 0 => .urgent
  | 1 => .high
  | 2 => .medium
  | 3 => .low
  | _ => .medium

/-- `for (qid = 1; qid <= nr; qid++)` with a counter of 16 bits.  A loop that
takes more turns than the counter has values never ends. -/
def qidLoop {β : Type} (turn : Nat → β → Run β) (nr : Nat) :
    Nat → Nat → β → Run β
  | 0, _, _ => .error .endlessLoop
  | fuel + 1, qid, state =>
      if qid ≤ nr then do
        let next ← turn qid state
        qidLoop turn nr fuel (u16 (qid + 1)) next
      else .ok state

/-- A change of `table[qid - 1]`. -/
def entryTurn {α : Type} (turn : Nat → α → Run α) (qid : Nat)
    (table : List α) : Run (List α) :=
  if qid = 0 then .error .outOfBounds
  else updateAt .outOfBounds (turn qid) table (qid - 1)

/-- The entries of a new queue; `mqes` is 1's based. -/
def allocEntries (mqes number : Nat) : Run Nat :=
  if mqes > 256 then do
    let more ← remainder number (mqes - 255)
    return more + 256
  else return mqes

/-- A turn of `nvme_alloc_iosq_info`. -/
def allocSq (dev : NvmeDevInfo) (numbers : Numbers) (qid : Nat)
    (sq : NvmeSqInfo) : Run NvmeSqInfo := do
  let nrEntry ← allocEntries (nvmeCapMqes dev.cap + 1) (numbers qid 0)
  return { sq with
    sqid := qid
    cqid := qid
    contig := 1
    nrEntry := nrEntry
    prio := nvmeSetSqPrioRandom (numbers qid 1) }

/-- A turn of `nvme_alloc_iocq_info`. -/
def allocCq (dev : NvmeDevInfo) (numbers : Numbers) (qid : Nat)
    (cq : NvmeCqInfo) : Run NvmeCqInfo := do
  let nrEntry ← allocEntries (nvmeCapMqes dev.cap + 1) (numbers qid 0)
  return { cq with
    cqid := qid
    irqNo := if qid + 1 ≤ dev.nrIrq then qid else u16 (dev.nrIrq + 65535)
    contig := 1
    nrEntry := nrEntry }

/-- `nvme_alloc_iosq_info`; `calloc` tells whether there is memory. -/
def nvmeAllocIosqInfo (calloc : Bool) (numbers : Numbers)
    (dev : NvmeDevInfo) (tables : IoqTables) : Run (Int × IoqTables) :=
  if !calloc then .ok (-Errno.ENOMEM, tables)
  else do
    let sq ← qidLoop (entryTurn (allocSq dev numbers)) dev.nrSq (2 ^ 16 + 1) 1
      (List.replicate dev.nrSq zeroSq)
    return (0, { tables with iosqs := sq })

/-- `nvme_alloc_iocq_info`. -/
def nvmeAllocIocqInfo (calloc : Bool) (numbers : Numbers)
    (dev : NvmeDevInfo) (tables : IoqTables) : Run (Int × IoqTables) :=
  if !calloc then .ok (-Errno.ENOMEM, tables)
  else do
    let cq ← qidLoop (entryTurn (allocCq dev numbers)) dev.nrCq (2 ^ 16 + 1) 1
      (List.replicate dev.nrCq zeroCq)
    return (0, { tables with iocqs := cq })

/-- `nvme_init_ioq_info`. -/
def nvmeInitIoqInfo (sqCalloc cqCalloc : Bool) (sqNumbers cqNumbers : Numbers)
    (dev : NvmeDevInfo) (tables : IoqTables) : Run (Int × IoqTables) := do
  let (sqRet, tables) ← nvmeAllocIosqInfo sqCalloc sqNumbers dev tables
  if sqRet < 0 then return (-Errno.EPERM, tables)
  else
    let (cqRet, tables) ← nvmeAllocIocqInfo cqCalloc cqNumbers dev tables
    if cqRet < 0 then return (-Errno.EPERM, { tables with iosqs := [] })
    else return (0, tables)

/-! ## Looking up a queue -/

/-- `table[qid - 1]`, of which the ID is compared. -/
def findInfo {α : Type} (idOf : α → Nat) (nr : Nat) (table : List α)
    (qid : Nat) : Run (Option α) :=
  if qid > nr then .ok none
  else if qid = 0 then .error .outOfBounds
  else do
    let info ← tableAt table (qid - 1)
    return if idOf info ≠ qid then none else some info

/-- `nvme_find_iosq_info`. -/
def nvmeFindIosqInfo (dev : NvmeDevInfo) (tables : IoqTables) (sqid : Nat) :
    Run (Option NvmeSqInfo) :=
  findInfo NvmeSqInfo.sqid dev.nrSq tables.iosqs sqid

/-- `nvme_find_iocq_info`. -/
def nvmeFindIocqInfo (dev : NvmeDevInfo) (tables : IoqTables) (cqid : Nat) :
    Run (Option NvmeCqInfo) :=
  findInfo NvmeCqInfo.cqid dev.nrCq tables.iocqs cqid

/-! ## Replacing the random values -/

/-- `rand() % (mqes - 512) + 512`, in signed numbers. -/
def reinitEntries (mqes number : Nat) : Run Nat :=
  if (mqes : Int) - 512 = 0 then .error .divisionByZero
  else .ok ((number : Int).tmod (mqes - 512) + 512).toNat

/-- The first loop of `nvme_reinit_ioq_info_random`. -/
def reinitSq (dev : NvmeDevInfo) (numbers : Numbers) (i : Nat)
    (sq : NvmeSqInfo) : Run NvmeSqInfo := do
  let other ← remainder (numbers i 0) dev.nrCq
  let nrEntry ← reinitEntries (nvmeCapMqes dev.cap) (numbers i 1)
  return { sq with cqid := u16 (other + 1), nrEntry := nrEntry }

/-- The interrupt of a completion queue in its second loop. -/
def reinitIrq (dev : NvmeDevInfo) (number : Nat) (cq : NvmeCqInfo) :
    Run NvmeCqInfo :=
  if dev.irqType = .none ∨ dev.nrIrq = 0 then return { cq with irqEn := 0 }
  else do
    let irqNo ← remainder number dev.nrIrq
    return { cq with irqEn := 1, irqNo := irqNo }

/-- The second loop. -/
def reinitCq (dev : NvmeDevInfo) (numbers : Numbers) (i : Nat)
    (cq : NvmeCqInfo) : Run NvmeCqInfo := do
  let cq ← reinitIrq dev (numbers i 0) cq
  let nrEntry ← reinitEntries (nvmeCapMqes dev.cap) (numbers i 1)
  return { cq with nrEntry := nrEntry }

/-- `nvme_reinit_ioq_info_random`. -/
def nvmeReinitIoqInfoRandom (sqNumbers cqNumbers : Numbers)
    (dev : NvmeDevInfo) (tables : IoqTables) : Run IoqTables := do
  let sqs ← (List.range dev.nrSq).foldlM
    (fun sqs i => updateAt .outOfBounds (reinitSq dev sqNumbers i) sqs i)
    tables.iosqs
  let cqs ← (List.range dev.nrCq).foldlM
    (fun cqs i => updateAt .outOfBounds (reinitCq dev cqNumbers i) cqs i)
    tables.iocqs
  return ⟨sqs, cqs⟩

/-! ## Exchanging the random values -/

/-- The completion queue of a submission queue. -/
def sqCqid : Field NvmeSqInfo Nat where
  get := NvmeSqInfo.cqid
  put sq cqid := { sq with cqid := cqid }
  get_put _ _ := rfl

/-- The size of a submission queue. -/
def sqNrEntry : Field NvmeSqInfo Nat where
  get := NvmeSqInfo.nrEntry
  put sq nrEntry := { sq with nrEntry := nrEntry }
  get_put _ _ := rfl

/-- The size of a completion queue. -/
def cqNrEntry : Field NvmeCqInfo Nat where
  get := NvmeCqInfo.nrEntry
  put cq nrEntry := { cq with nrEntry := nrEntry }
  get_put _ _ := rfl

/-- A turn of `nvme_swap_iosq_info_random`. -/
def swapSq (numbers : Numbers) (nrSq : Nat) (sqs : List NvmeSqInfo)
    (i : Nat) : Run (List NvmeSqInfo) := do
  let sqs ← shuffleTurn sqCqid nrSq (numbers i 0) sqs i
  shuffleTurn sqNrEntry nrSq (numbers i 1) sqs i

/-- `nvme_swap_iosq_info_random`. -/
def nvmeSwapIosqInfoRandom (numbers : Numbers) (sqs : List NvmeSqInfo)
    (nrSq : Nat) : Run (List NvmeSqInfo) :=
  (List.range (nrSq - 1)).foldlM (swapSq numbers nrSq) sqs

/-- The interrupt of a completion queue in a swap. -/
def swapIrq (nrIrq number : Nat) (cq : NvmeCqInfo) : Run NvmeCqInfo :=
  if nrIrq ≠ 0 then do
    let irqNo ← remainder number nrIrq
    return { cq with irqNo := irqNo, irqEn := 1 }
  else return { cq with irqEn := 0 }

/-- `nvme_swap_iocq_info_random`; its loops take the numbers with the indices
zero and one. -/
def nvmeSwapIocqInfoRandom (numbers : Numbers) (cqs : List NvmeCqInfo)
    (nrCq nrIrq : Nat) : Run (List NvmeCqInfo) := do
  let cqs ← (List.range nrCq).foldlM
    (fun cqs i => updateAt .outOfBounds (swapIrq nrIrq (numbers i 0)) cqs i)
    cqs
  (List.range (nrCq - 1)).foldlM
    (fun cqs i => shuffleTurn cqNrEntry nrCq (numbers i 1) cqs i) cqs

/-- `nvme_swap_ioq_info_random`. -/
def nvmeSwapIoqInfoRandom (sqNumbers cqNumbers : Numbers)
    (dev : NvmeDevInfo) (tables : IoqTables) : Run IoqTables := do
  let sqs ← nvmeSwapIosqInfoRandom sqNumbers tables.iosqs dev.nrSq
  let cqs ← nvmeSwapIocqInfoRandom cqNumbers tables.iocqs dev.nrCq dev.nrIrq
  return ⟨sqs, cqs⟩

/-! ## The statement -/

/-- A call, with the numbers that it takes. -/
inductive Call where
  | reinit (sqNumbers cqNumbers : Numbers)
  | swap (sqNumbers cqNumbers : Numbers)

/-- The call replaces the random values. -/
def Call.Reinit : Call → Prop
  | .reinit _ _ => True
  | .swap _ _ => False

/-- What a call does. -/
def Call.run (dev : NvmeDevInfo) (tables : IoqTables) : Call → Run IoqTables
  | .reinit sqNumbers cqNumbers =>
      nvmeReinitIoqInfoRandom sqNumbers cqNumbers dev tables
  | .swap sqNumbers cqNumbers =>
      nvmeSwapIoqInfoRandom sqNumbers cqNumbers dev tables

/-- A size that the device takes. -/
def SizeTaken (dev : NvmeDevInfo) (nrEntry : Nat) : Prop :=
  1 ≤ nrEntry ∧ nrEntry ≤ nvmeCapMqes dev.cap + 1

/-- Plans from which the queues can be created. -/
structure Creatable (dev : NvmeDevInfo) (tables : IoqTables) : Prop where
  sqids : tables.iosqs.map NvmeSqInfo.sqid = List.range' 1 dev.nrSq
  cqids : tables.iocqs.map NvmeCqInfo.cqid = List.range' 1 dev.nrCq
  sqSizes : ∀ sq ∈ tables.iosqs, SizeTaken dev sq.nrEntry
  cqSizes : ∀ cq ∈ tables.iocqs, SizeTaken dev cq.nrEntry
  bound : ∀ sq ∈ tables.iosqs, 1 ≤ sq.cqid ∧ sq.cqid ≤ dev.nrCq

/-- A search that reads inside of the table and finds the entry with the ID if
there is one. -/
def FindsExactly {α : Type} (idOf : α → Nat) (table : List α) (qid : Nat)
    (search : Run (Option α)) : Prop :=
  ∃ found, search = .ok found ∧
    ∀ info, found = some info ↔ info ∈ table ∧ idOf info = qid

/-- Plans that can be created and searched for an ID. -/
structure Sound (dev : NvmeDevInfo) (qid : Nat) (tables : IoqTables) :
    Prop where
  creatable : Creatable dev tables
  sqFound : FindsExactly NvmeSqInfo.sqid tables.iosqs qid
    (nvmeFindIosqInfo dev tables qid)
  cqFound : FindsExactly NvmeCqInfo.cqid tables.iocqs qid
    (nvmeFindIocqInfo dev tables qid)

/-- What a swap does to the tables. -/
structure Swapped (tables next : IoqTables) : Prop where
  cqids : (next.iosqs.map NvmeSqInfo.cqid).Perm
    (tables.iosqs.map NvmeSqInfo.cqid)
  sqSizes : (next.iosqs.map NvmeSqInfo.nrEntry).Perm
    (tables.iosqs.map NvmeSqInfo.nrEntry)
  cqSizes : (next.iocqs.map NvmeCqInfo.nrEntry).Perm
    (tables.iocqs.map NvmeCqInfo.nrEntry)

/-- Every call gives a result, and all plans on the way are sound. -/
def SoundAlong (dev : NvmeDevInfo) (qid : Nat) :
    List Call → IoqTables → Prop
  | [], tables => Sound dev qid tables
  | call :: rest, tables =>
      Sound dev qid tables ∧
        ∃ next, call.run dev tables = .ok next ∧
          (¬ call.Reinit → Swapped tables next) ∧
          SoundAlong dev qid rest next

/-- The plans that are made from a device stay creatable. -/
def PlansCreatable (sqNumbers cqNumbers : Numbers) (dev : NvmeDevInfo)
    (tables : IoqTables) (calls : List Call) (qid : Nat) : Prop :=
  ∃ start, nvmeInitIoqInfo true true sqNumbers cqNumbers dev tables =
      .ok (0, start) ∧
    SoundAlong dev qid calls start

/-- The device takes queues of the sizes that a replacement draws. -/
def ReinitFits (dev : NvmeDevInfo) : Prop :=
  nvmeCapMqes dev.cap = 511 ∨ 512 < nvmeCapMqes dev.cap

/-! ## The counter of 16 bits -/

section Counter

variable {β : Type} {turn : Nat → β → Run β} {nr : Nat}

/-- A counter that passes the last queue takes one turn for each. -/
theorem qidLoop_eq (passes : nr < 65535) :
    ∀ (fuel qid : Nat) (state : β), nr + 1 < fuel + qid → qid ≤ nr + 1 →
      qidLoop turn nr fuel qid state =
        (List.range' qid (nr + 1 - qid)).foldlM (fun now q => turn q now)
          state := by
  intro fuel
  induction fuel with
  | zero => intro qid state enough inside; omega
  | succ fuel ih =>
      intro qid state enough inside
      unfold qidLoop
      by_cases more : qid ≤ nr
      · have next : u16 (qid + 1) = qid + 1 := Nat.mod_eq_of_lt (by omega)
        have turns : nr + 1 - qid = (nr + 1 - (qid + 1)) + 1 := by omega
        rw [if_pos more, turns, List.range'_succ, List.foldlM_cons, next]
        exact congrArg (turn qid state >>= ·) (funext fun now =>
          ih (qid + 1) now (by omega) (by omega))
      · have none_ : nr + 1 - qid = 0 := by omega
        rw [if_neg more, none_]
        rfl

/-- A counter that cannot pass the last queue never ends the loop. -/
theorem qidLoop_not_ok (stays : 65535 ≤ nr) :
    ∀ (fuel qid : Nat) (state last : β), qid ≤ 65535 →
      qidLoop turn nr fuel qid state ≠ .ok last := by
  intro fuel
  induction fuel with
  | zero => intro qid state last inside done; cases done
  | succ fuel ih =>
      intro qid state last inside done
      unfold qidLoop at done
      rw [if_pos (by omega)] at done
      rcases ok_of_bind done with ⟨next, _, rest⟩
      have wrapped : u16 (qid + 1) ≤ 65535 :=
        Nat.le_of_lt_succ (Nat.mod_lt _ (by decide))
      exact ih _ _ _ wrapped rest

end Counter

/-! ## Filling the tables -/

section Filling

variable {α : Type} {nr : Nat}

/-- The loop over the IDs changes each entry in a turn of its own. -/
theorem entryLoop_eq (turn : Nat → α → Run α) (passes : nr < 65535)
    (table : List α) :
    qidLoop (entryTurn turn) nr (2 ^ 16 + 1) 1 table =
      (List.range nr).foldlM
        (fun now i => updateAt .outOfBounds (turn (1 + i)) now i) table := by
  have loop := @qidLoop_eq _ (entryTurn turn) nr passes (2 ^ 16 + 1) 1 table
    (by omega) (by omega)
  rw [Nat.add_sub_cancel, List.range'_eq_map_range, List.foldlM_map] at loop
  refine loop.trans ?_
  congr 1
  funext now i
  unfold entryTurn
  rw [if_neg (by omega), Nat.add_sub_cancel_left]

/-- A table is filled with the IDs from one on. -/
theorem entryLoop_ok {turn : Nat → α → Run α} {idOf : α → Nat}
    {holds : α → Prop} {table : List α} (passes : nr < 65535)
    (length : table.length = nr)
    (makes : ∀ qid old, ∃ new, turn qid old = .ok new ∧ idOf new = qid ∧
      holds new) :
    ∃ next, qidLoop (entryTurn turn) nr (2 ^ 16 + 1) 1 table = .ok next ∧
      next.map idOf = List.range' 1 nr ∧ ∀ element ∈ next, holds element := by
  obtain ⟨next, done, updated⟩ := updates_ok Stop.outOfBounds
    (fun i => turn (1 + i)) table (fun i old => makes (1 + i) old)
  rw [length] at done
  refine ⟨next, (entryLoop_eq turn passes table).trans done, ?_,
    updated.forall_mem fun _ _ _ made => made.2⟩
  refine List.ext_getElem (by simp [updated.length, length]) ?_
  intro i inside _
  rw [List.length_map] at inside
  obtain ⟨_, _, id, _⟩ := updated.made_at inside
  rwa [List.getElem_map, List.getElem_range', Nat.one_mul]

/-- A new queue has a size that the device takes. -/
theorem allocEntries_ok (dev : NvmeDevInfo) (number : Nat) :
    ∃ nrEntry, allocEntries (nvmeCapMqes dev.cap + 1) number = .ok nrEntry ∧
      SizeTaken dev nrEntry := by
  unfold allocEntries SizeTaken
  split
  · rename_i large
    have room : 0 < nvmeCapMqes dev.cap + 1 - 255 := by omega
    have below := Nat.mod_lt number room
    refine ⟨_, by rw [remainder_ok room]; rfl, ?_, ?_⟩ <;> omega
  · exact ⟨_, rfl, by omega, le_refl _⟩

theorem allocSq_ok (dev : NvmeDevInfo) (numbers : Numbers) (qid : Nat)
    (old : NvmeSqInfo) :
    ∃ new, allocSq dev numbers qid old = .ok new ∧ new.sqid = qid ∧
      SizeTaken dev new.nrEntry ∧ new.cqid = new.sqid := by
  obtain ⟨nrEntry, done, taken⟩ := allocEntries_ok dev (numbers qid 0)
  have made : allocSq dev numbers qid old = .ok { old with
      sqid := qid
      cqid := qid
      contig := 1
      nrEntry := nrEntry
      prio := nvmeSetSqPrioRandom (numbers qid 1) } := by
    unfold allocSq
    rw [done]
    rfl
  exact ⟨_, made, rfl, taken, rfl⟩

theorem allocCq_ok (dev : NvmeDevInfo) (numbers : Numbers) (qid : Nat)
    (old : NvmeCqInfo) :
    ∃ new, allocCq dev numbers qid old = .ok new ∧ new.cqid = qid ∧
      SizeTaken dev new.nrEntry := by
  obtain ⟨nrEntry, done, taken⟩ := allocEntries_ok dev (numbers qid 0)
  have made : allocCq dev numbers qid old = .ok { old with
      cqid := qid
      irqNo := if qid + 1 ≤ dev.nrIrq then qid else u16 (dev.nrIrq + 65535)
      contig := 1
      nrEntry := nrEntry } := by
    unfold allocCq
    rw [done]
    rfl
  exact ⟨_, made, rfl, taken⟩

end Filling

section Init

variable {sqNumbers cqNumbers : Numbers} {dev : NvmeDevInfo}
  {tables start : IoqTables}

/-- The first plans.  Each submission queue is bound to the completion queue
with its own ID, whether there is one or not. -/
structure Planned (dev : NvmeDevInfo) (start : IoqTables) : Prop where
  sqids : start.iosqs.map NvmeSqInfo.sqid = List.range' 1 dev.nrSq
  cqids : start.iocqs.map NvmeCqInfo.cqid = List.range' 1 dev.nrCq
  sqs : ∀ sq ∈ start.iosqs, SizeTaken dev sq.nrEntry ∧ sq.cqid = sq.sqid
  cqs : ∀ cq ∈ start.iocqs, SizeTaken dev cq.nrEntry

theorem nvmeInitIoqInfo_planned (sqNumbers cqNumbers : Numbers)
    (tables : IoqTables) (sqPasses : dev.nrSq < 65535)
    (cqPasses : dev.nrCq < 65535) :
    ∃ start, nvmeInitIoqInfo true true sqNumbers cqNumbers dev tables =
      .ok (0, start) ∧ Planned dev start := by
  obtain ⟨sqs, sqDone, sqids, sqMade⟩ := entryLoop_ok sqPasses
    List.length_replicate (allocSq_ok dev sqNumbers)
  obtain ⟨cqs, cqDone, cqids, cqMade⟩ := entryLoop_ok cqPasses
    List.length_replicate (allocCq_ok dev cqNumbers)
  refine ⟨⟨sqs, cqs⟩, ?_, ⟨sqids, cqids, sqMade, cqMade⟩⟩
  unfold nvmeInitIoqInfo nvmeAllocIosqInfo nvmeAllocIocqInfo
  rw [sqDone, cqDone]
  rfl

/-- A result of the initialisation needs counters that pass. -/
theorem passes_of_init {ret : Int}
    (done : nvmeInitIoqInfo true true sqNumbers cqNumbers dev tables =
      .ok (ret, start)) :
    dev.nrSq < 65535 ∧ dev.nrCq < 65535 := by
  rcases ok_of_bind done with ⟨⟨sqRet, between⟩, sqDone, rest⟩
  rcases ok_of_bind sqDone with ⟨sqs, sqLoop, finish⟩
  cases finish
  rcases ok_of_bind rest with ⟨⟨cqRet, after⟩, cqDone, _⟩
  rcases ok_of_bind cqDone with ⟨cqs, cqLoop, _⟩
  constructor
  · by_contra stays
    exact qidLoop_not_ok (not_lt.mp stays) _ _ _ _ (by decide) sqLoop
  · by_contra stays
    exact qidLoop_not_ok (not_lt.mp stays) _ _ _ _ (by decide) cqLoop

theorem Planned.creatable (planned : Planned dev start)
    (bound : dev.nrSq ≤ dev.nrCq) : Creatable dev start where
  sqids := planned.sqids
  cqids := planned.cqids
  sqSizes sq member := (planned.sqs sq member).1
  cqSizes := planned.cqs
  bound sq member := by
    have id : sq.sqid ∈ start.iosqs.map NvmeSqInfo.sqid :=
      List.mem_map_of_mem member
    rw [planned.sqids, List.mem_range'_1] at id
    rw [(planned.sqs sq member).2]
    omega

/-- The last submission queue of the first plans needs a completion queue. -/
theorem Planned.bound (planned : Planned dev start) (some_ : 1 ≤ dev.nrSq)
    (creatable : Creatable dev start) : dev.nrSq ≤ dev.nrCq := by
  have last : dev.nrSq ∈ start.iosqs.map NvmeSqInfo.sqid := by
    rw [planned.sqids, List.mem_range'_1]
    omega
  obtain ⟨sq, member, id⟩ := List.mem_map.mp last
  have bound := (creatable.bound sq member).2
  rwa [(planned.sqs sq member).2, id] at bound

end Init

/-! ## Looking up a queue -/

section Finding

variable {α : Type} {idOf : α → Nat} {nr : Nat} {table : List α} {qid : Nat}

theorem length_of_ids (ids : table.map idOf = List.range' 1 nr) :
    table.length = nr := by
  have lengths := congrArg List.length ids
  rwa [List.length_map, List.length_range'] at lengths

/-- A table with the IDs from one on is searched exactly for every ID but
zero. -/
theorem findInfo_exact (ids : table.map idOf = List.range' 1 nr)
    (positive : qid ≠ 0) :
    FindsExactly idOf table qid (findInfo idOf nr table qid) := by
  have length := length_of_ids ids
  have idAt (i : Nat) (inside : i < table.length) :
      idOf table[i] = i + 1 := by
    have here : (table.map idOf)[i]? = (List.range' 1 nr)[i]? := by rw [ids]
    rw [List.getElem?_map, List.getElem?_eq_getElem inside,
      List.getElem?_range' (length ▸ inside), Nat.one_mul, Nat.add_comm] at here
    exact Option.some.inj here
  unfold findInfo
  by_cases beyond : qid > nr
  · rw [if_pos beyond]
    refine ⟨none, rfl, fun info => ⟨?_, ?_⟩⟩
    · intro never
      cases never
    · rintro ⟨member, rfl⟩
      obtain ⟨i, inside, rfl⟩ := List.getElem_of_mem member
      rw [idAt i inside] at beyond
      omega
  · have inside : qid - 1 < table.length := by omega
    have id : idOf table[qid - 1] = qid := by
      rw [idAt _ inside]
      omega
    rw [if_neg beyond, if_neg positive, tableAt_ok inside]
    refine ⟨some table[qid - 1], ?_, fun info => ⟨?_, ?_⟩⟩
    · dsimp only [bind, Except.bind, pure, Except.pure]
      rw [if_neg (not_not.mpr id)]
    · rintro ⟨⟩
      exact ⟨List.getElem_mem inside, id⟩
    · rintro ⟨member, same⟩
      obtain ⟨i, below, rfl⟩ := List.getElem_of_mem member
      rw [idAt i below] at same
      have index : i = qid - 1 := by omega
      subst index
      rfl

/-- The search for ID zero reads in front of the table. -/
theorem not_finds_zero : ¬ FindsExactly idOf table 0
    (findInfo idOf nr table 0) := by
  rintro ⟨found, done, _⟩
  unfold findInfo at done
  rw [if_neg (Nat.not_lt_zero nr), if_pos rfl] at done
  cases done

end Finding

theorem Creatable.sqLength {dev : NvmeDevInfo} {tables : IoqTables}
    (creatable : Creatable dev tables) : tables.iosqs.length = dev.nrSq :=
  length_of_ids creatable.sqids

theorem Creatable.cqLength {dev : NvmeDevInfo} {tables : IoqTables}
    (creatable : Creatable dev tables) : tables.iocqs.length = dev.nrCq :=
  length_of_ids creatable.cqids

theorem Creatable.sound {dev : NvmeDevInfo} {tables : IoqTables} {qid : Nat}
    (creatable : Creatable dev tables) (positive : qid ≠ 0) :
    Sound dev qid tables :=
  ⟨creatable, findInfo_exact creatable.sqids positive,
    findInfo_exact creatable.cqids positive⟩

/-! ## Replacing the random values -/

section Reinit

variable {dev : NvmeDevInfo} {tables next : IoqTables}
  {sqNumbers cqNumbers : Numbers}

/-- A replaced size is one that the device takes. -/
theorem reinitEntries_ok (fits : ReinitFits dev) (number : Nat) :
    ∃ nrEntry, reinitEntries (nvmeCapMqes dev.cap) number = .ok nrEntry ∧
      SizeTaken dev nrEntry := by
  unfold reinitEntries SizeTaken
  rcases fits with exact_ | more
  · rw [exact_]
    refine ⟨_, if_neg (by decide), ?_⟩
    have none_ : (number : Int).tmod ((511 : Nat) - 512) = 0 := by
      rw [show ((511 : Nat) : Int) - 512 = -1 by decide, Int.tmod_neg,
        Int.tmod_one]
    rw [none_]
    decide
  · refine ⟨_, if_neg (by omega), ?_⟩
    have low : 0 ≤ (number : Int).tmod (nvmeCapMqes dev.cap - 512) :=
      Int.tmod_nonneg _ (Int.natCast_nonneg number)
    have high : (number : Int).tmod (nvmeCapMqes dev.cap - 512) <
        nvmeCapMqes dev.cap - 512 :=
      Int.tmod_lt_of_pos _ (by omega)
    omega

/-- A size below the offset of the draw is never replaced by one that the
device takes. -/
theorem fits_of_reinitEntries {number nrEntry : Nat}
    (done : reinitEntries (nvmeCapMqes dev.cap) number = .ok nrEntry)
    (taken : SizeTaken dev nrEntry) : ReinitFits dev := by
  unfold reinitEntries at done
  split at done
  · cases done
  · cases done
    have low : 0 ≤ (number : Int).tmod (nvmeCapMqes dev.cap - 512) :=
      Int.tmod_nonneg _ (Int.natCast_nonneg number)
    have high := taken.2
    unfold ReinitFits
    omega

theorem reinitSq_ok (fits : ReinitFits dev) (some_ : 1 ≤ dev.nrCq)
    (small : dev.nrCq ≤ 65535) (i : Nat) (old : NvmeSqInfo) :
    ∃ new, reinitSq dev sqNumbers i old = .ok new ∧ new.sqid = old.sqid ∧
      SizeTaken dev new.nrEntry ∧ 1 ≤ new.cqid ∧ new.cqid ≤ dev.nrCq := by
  obtain ⟨nrEntry, drawn, taken⟩ := reinitEntries_ok fits (sqNumbers i 1)
  have below := Nat.mod_lt (sqNumbers i 0) (show dev.nrCq > 0 from some_)
  have whole : u16 (sqNumbers i 0 % dev.nrCq + 1) =
      sqNumbers i 0 % dev.nrCq + 1 := Nat.mod_eq_of_lt (by omega)
  have made : reinitSq dev sqNumbers i old = .ok { old with
      cqid := u16 (sqNumbers i 0 % dev.nrCq + 1)
      nrEntry := nrEntry } := by
    unfold reinitSq
    rw [remainder_ok some_, drawn]
    rfl
  refine ⟨_, made, rfl, taken, ?_, ?_⟩
  · rw [whole]
    exact Nat.le_add_left 1 _
  · rw [whole]
    exact below

theorem reinitIrq_ok (number : Nat) (old : NvmeCqInfo) :
    ∃ new, reinitIrq dev number old = .ok new ∧ new.cqid = old.cqid := by
  unfold reinitIrq
  split
  · exact ⟨_, rfl, rfl⟩
  · rename_i some_
    have positive : 0 < dev.nrIrq :=
      Nat.pos_of_ne_zero (not_or.mp some_).2
    rw [remainder_ok positive]
    exact ⟨_, rfl, rfl⟩

theorem reinitCq_ok (fits : ReinitFits dev) (i : Nat) (old : NvmeCqInfo) :
    ∃ new, reinitCq dev cqNumbers i old = .ok new ∧ new.cqid = old.cqid ∧
      SizeTaken dev new.nrEntry := by
  obtain ⟨nrEntry, drawn, taken⟩ := reinitEntries_ok fits (cqNumbers i 1)
  obtain ⟨between, irq, same⟩ := @reinitIrq_ok dev (cqNumbers i 0) old
  have made : reinitCq dev cqNumbers i old =
      .ok { between with nrEntry := nrEntry } := by
    unfold reinitCq
    rw [irq, drawn]
    rfl
  exact ⟨_, made, same, taken⟩

/-- A replacement keeps the plans creatable. -/
theorem reinit_creatable (creatable : Creatable dev tables)
    (fits : ReinitFits dev) (some_ : 1 ≤ dev.nrCq)
    (small : dev.nrCq ≤ 65535) (sqNumbers cqNumbers : Numbers) :
    ∃ next, nvmeReinitIoqInfoRandom sqNumbers cqNumbers dev tables =
      .ok next ∧ Creatable dev next := by
  obtain ⟨sqs, sqDone, sqUpdated⟩ := updates_ok Stop.outOfBounds
    (reinitSq dev sqNumbers) tables.iosqs (reinitSq_ok fits some_ small)
  obtain ⟨cqs, cqDone, cqUpdated⟩ := updates_ok Stop.outOfBounds
    (reinitCq dev cqNumbers) tables.iocqs (reinitCq_ok fits)
  refine ⟨⟨sqs, cqs⟩, ?_, ?_, ?_, ?_, ?_, ?_⟩
  · unfold nvmeReinitIoqInfoRandom
    rw [← creatable.sqLength, ← creatable.cqLength, sqDone, cqDone]
    rfl
  · exact (sqUpdated.map_eq fun _ _ _ made => made.1).trans creatable.sqids
  · exact (cqUpdated.map_eq fun _ _ _ made => made.1).trans creatable.cqids
  · exact sqUpdated.forall_mem fun _ _ _ made => made.2.1
  · exact cqUpdated.forall_mem fun _ _ _ made => made.2
  · exact sqUpdated.forall_mem fun _ _ _ made => made.2.2

/-- A replacement that gives plans with sizes that the device takes. -/
theorem fits_of_reinit (some_ : 1 ≤ dev.nrSq)
    (length : tables.iosqs.length = dev.nrSq)
    (done : nvmeReinitIoqInfoRandom sqNumbers cqNumbers dev tables =
      .ok next)
    (taken : ∀ sq ∈ next.iosqs, SizeTaken dev sq.nrEntry) :
    ReinitFits dev := by
  rcases ok_of_bind done with ⟨sqs, sqDone, rest⟩
  rcases ok_of_bind rest with ⟨cqs, _, finish⟩
  cases finish
  rw [← length] at sqDone
  have updated := updates_of_ok sqDone
  have first : 0 < sqs.length := by
    rw [updated.length, length]
    exact some_
  obtain ⟨old, _, turned⟩ := updated.made_at first
  rcases ok_of_bind turned with ⟨other, _, rest⟩
  rcases ok_of_bind rest with ⟨nrEntry, drawn, finish⟩
  have size := taken sqs[0] (List.getElem_mem first)
  rw [← Except.ok.inj finish] at size
  exact fits_of_reinitEntries drawn size

end Reinit

/-! ## Exchanging the random values -/

section Swap

variable {dev : NvmeDevInfo} {tables : IoqTables} {numbers : Numbers}

/-- What a swap does to the submission queues. -/
structure SqsSwapped (sqs next : List NvmeSqInfo) : Prop where
  sqids : next.map NvmeSqInfo.sqid = sqs.map NvmeSqInfo.sqid
  cqids : (next.map NvmeSqInfo.cqid).Perm (sqs.map NvmeSqInfo.cqid)
  sizes : (next.map NvmeSqInfo.nrEntry).Perm (sqs.map NvmeSqInfo.nrEntry)

theorem SqsSwapped.refl (sqs : List NvmeSqInfo) : SqsSwapped sqs sqs :=
  ⟨rfl, List.Perm.refl _, List.Perm.refl _⟩

theorem SqsSwapped.cqid {sqs now next : List NvmeSqInfo}
    (swapped : SqsSwapped sqs now) (exchanged : Exchanged sqCqid now next) :
    SqsSwapped sqs next := by
  have sizes : next.map NvmeSqInfo.nrEntry = now.map NvmeSqInfo.nrEntry :=
    exchanged.keeps fun _ _ => rfl
  exact ⟨(exchanged.keeps fun _ _ => rfl).trans swapped.sqids,
    exchanged.perm.trans swapped.cqids, sizes ▸ swapped.sizes⟩

theorem SqsSwapped.nrEntry {sqs now next : List NvmeSqInfo}
    (swapped : SqsSwapped sqs now)
    (exchanged : Exchanged sqNrEntry now next) : SqsSwapped sqs next := by
  have cqids : next.map NvmeSqInfo.cqid = now.map NvmeSqInfo.cqid :=
    exchanged.keeps fun _ _ => rfl
  exact ⟨(exchanged.keeps fun _ _ => rfl).trans swapped.sqids,
    cqids ▸ swapped.cqids, exchanged.perm.trans swapped.sizes⟩

theorem SqsSwapped.length {sqs next : List NvmeSqInfo}
    (swapped : SqsSwapped sqs next) : next.length = sqs.length := by
  have lengths := congrArg List.length swapped.sqids
  rwa [List.length_map, List.length_map] at lengths

theorem swapSq_ok {nrSq i : Nat} {sqs now : List NvmeSqInfo}
    (swapped : SqsSwapped sqs now) (length : sqs.length = nrSq)
    (inside : i < nrSq) :
    ∃ next, swapSq numbers nrSq now i = .ok next ∧ SqsSwapped sqs next := by
  obtain ⟨between, cqids⟩ := shuffleTurn_some sqCqid (numbers i 0)
    (swapped.length.trans length) inside
  have half := swapped.cqid (shuffleTurn_exchanged cqids)
  obtain ⟨next, sizes⟩ := shuffleTurn_some sqNrEntry (numbers i 1)
    (half.length.trans length) inside
  refine ⟨next, ?_, half.nrEntry (shuffleTurn_exchanged sizes)⟩
  unfold swapSq
  rw [cqids]
  exact sizes

theorem nvmeSwapIosqInfoRandom_ok (numbers : Numbers) {nrSq : Nat}
    {sqs : List NvmeSqInfo} (length : sqs.length = nrSq) :
    ∃ next, nvmeSwapIosqInfoRandom numbers sqs nrSq = .ok next ∧
      SqsSwapped sqs next :=
  @count_rule _ _ (swapSq numbers nrSq) (fun _ now => SqsSwapped sqs now) sqs
    _ (fun i _ below swapped =>
      swapSq_ok swapped length (show i < nrSq by omega)) (.refl sqs)

/-- What a swap does to the completion queues. -/
structure CqsSwapped (cqs next : List NvmeCqInfo) : Prop where
  cqids : next.map NvmeCqInfo.cqid = cqs.map NvmeCqInfo.cqid
  sizes : (next.map NvmeCqInfo.nrEntry).Perm (cqs.map NvmeCqInfo.nrEntry)

theorem CqsSwapped.length {cqs next : List NvmeCqInfo}
    (swapped : CqsSwapped cqs next) : next.length = cqs.length := by
  have lengths := congrArg List.length swapped.cqids
  rwa [List.length_map, List.length_map] at lengths

theorem swapIrq_ok (nrIrq number : Nat) (old : NvmeCqInfo) :
    ∃ new, swapIrq nrIrq number old = .ok new ∧ new.cqid = old.cqid ∧
      new.nrEntry = old.nrEntry := by
  unfold swapIrq
  split
  · rename_i some_
    rw [remainder_ok (Nat.pos_of_ne_zero some_)]
    exact ⟨_, rfl, rfl, rfl⟩
  · exact ⟨_, rfl, rfl, rfl⟩

theorem nvmeSwapIocqInfoRandom_ok (numbers : Numbers) (nrIrq : Nat)
    {nrCq : Nat} {cqs : List NvmeCqInfo} (length : cqs.length = nrCq) :
    ∃ next, nvmeSwapIocqInfoRandom numbers cqs nrCq nrIrq = .ok next ∧
      CqsSwapped cqs next := by
  obtain ⟨between, irqs, updated⟩ := updates_ok Stop.outOfBounds
    (fun i => swapIrq nrIrq (numbers i 0)) cqs
    (fun i old => swapIrq_ok nrIrq (numbers i 0) old)
  have start : CqsSwapped cqs between :=
    ⟨updated.map_eq fun _ _ _ made => made.1,
      (updated.map_eq fun _ _ _ made => made.2) ▸ List.Perm.refl _⟩
  rw [length] at irqs
  obtain ⟨next, turns, swapped⟩ := @count_rule _ _
    (fun now i => shuffleTurn cqNrEntry nrCq (numbers i 1) now i)
    (fun _ now => CqsSwapped cqs now) between (nrCq - 1)
    (fun i now below swapped => by
      obtain ⟨next, turn⟩ := shuffleTurn_some cqNrEntry (numbers i 1)
        (swapped.length.trans length) (show i < nrCq by omega)
      have exchanged := shuffleTurn_exchanged turn
      exact ⟨next, turn, ⟨(exchanged.keeps fun _ _ => rfl).trans swapped.cqids,
        exchanged.perm.trans swapped.sizes⟩⟩) start
  refine ⟨next, ?_, swapped⟩
  unfold nvmeSwapIocqInfoRandom
  rw [irqs]
  exact turns

/-- What holds of every value of a field holds of the permuted ones. -/
theorem forall_of_perm {α β : Type} {field : α → β} {holds : β → Prop}
    {table next : List α} (perm : (next.map field).Perm (table.map field))
    (all : ∀ element ∈ table, holds (field element)) :
    ∀ element ∈ next, holds (field element) := by
  intro element member
  obtain ⟨old, there, same⟩ := List.mem_map.mp
    (perm.mem_iff.mp (List.mem_map_of_mem member))
  rw [← same]
  exact all old there

/-- A swap keeps the plans creatable. -/
theorem swap_creatable (creatable : Creatable dev tables)
    (sqNumbers cqNumbers : Numbers) :
    ∃ next, nvmeSwapIoqInfoRandom sqNumbers cqNumbers dev tables = .ok next ∧
      Swapped tables next ∧ Creatable dev next := by
  obtain ⟨sqs, sqDone, sqSwapped⟩ := nvmeSwapIosqInfoRandom_ok sqNumbers
    creatable.sqLength
  obtain ⟨cqs, cqDone, cqSwapped⟩ := nvmeSwapIocqInfoRandom_ok cqNumbers
    dev.nrIrq creatable.cqLength
  refine ⟨⟨sqs, cqs⟩, ?_,
    ⟨sqSwapped.cqids, sqSwapped.sizes, cqSwapped.sizes⟩, ?_⟩
  · unfold nvmeSwapIoqInfoRandom
    rw [sqDone, cqDone]
    rfl
  · exact
      { sqids := sqSwapped.sqids.trans creatable.sqids
        cqids := cqSwapped.cqids.trans creatable.cqids
        sqSizes := forall_of_perm sqSwapped.sizes creatable.sqSizes
        cqSizes := forall_of_perm cqSwapped.sizes creatable.cqSizes
        bound := @forall_of_perm _ _ _
          (fun cqid => 1 ≤ cqid ∧ cqid ≤ dev.nrCq) _ _ sqSwapped.cqids
          creatable.bound }

end Swap

/-! ## All calls -/

section Calls

variable {sqNumbers cqNumbers : Numbers} {dev : NvmeDevInfo}
  {tables start : IoqTables} {calls : List Call} {qid : Nat}

/-- A call keeps the plans creatable. -/
theorem call_creatable (creatable : Creatable dev tables) (call : Call)
    (fits : call.Reinit → ReinitFits dev) (some_ : 1 ≤ dev.nrCq)
    (small : dev.nrCq ≤ 65535) :
    ∃ next, call.run dev tables = .ok next ∧
      (¬ call.Reinit → Swapped tables next) ∧ Creatable dev next := by
  cases call with
  | reinit sqNumbers cqNumbers =>
      obtain ⟨next, done, kept⟩ := reinit_creatable creatable
        (fits trivial) some_ small sqNumbers cqNumbers
      exact ⟨next, done, fun never => absurd trivial never, kept⟩
  | swap sqNumbers cqNumbers =>
      obtain ⟨next, done, swapped, kept⟩ := swap_creatable creatable
        sqNumbers cqNumbers
      exact ⟨next, done, fun _ => swapped, kept⟩

theorem soundAlong_of_creatable (fits : ∀ call ∈ calls, call.Reinit →
      ReinitFits dev) (some_ : 1 ≤ dev.nrCq) (small : dev.nrCq ≤ 65535)
    (positive : qid ≠ 0) :
    ∀ {tables}, Creatable dev tables → SoundAlong dev qid calls tables := by
  induction calls with
  | nil => exact fun creatable => creatable.sound positive
  | cons call rest ih =>
      intro tables creatable
      obtain ⟨next, done, swapped, kept⟩ := call_creatable creatable call
        (fits call List.mem_cons_self) some_ small
      exact ⟨creatable.sound positive, next, done, swapped,
        ih (fun other member => fits other (List.mem_cons_of_mem _ member))
          kept⟩

theorem SoundAlong.first (sound : SoundAlong dev qid calls tables) :
    Sound dev qid tables := by
  cases calls with
  | nil => exact sound
  | cons call rest => exact sound.1

/-- A replacement among the calls draws sizes that the device takes. -/
theorem SoundAlong.fits (some_ : 1 ≤ dev.nrSq) :
    ∀ {tables}, SoundAlong dev qid calls tables →
      ∀ call ∈ calls, call.Reinit → ReinitFits dev := by
  induction calls with
  | nil => exact fun _ _ none_ => absurd none_ List.not_mem_nil
  | cons first rest ih =>
      rintro tables ⟨sound, next, done, _, along⟩ call member reinit
      rcases List.mem_cons.mp member with rfl | later
      · cases call with
        | reinit sqNumbers cqNumbers =>
            exact fits_of_reinit some_ sound.creatable.sqLength done
              along.first.creatable.sqSizes
        | swap sqNumbers cqNumbers => exact reinit.elim
      · exact ih along call later reinit

/--
The plans stay creatable, and are searched exactly for an ID, if and only if
the counters pass the numbers of queues, there are not more submission queues
than completion queues, the replacements among the calls draw sizes that the
device takes, and the ID is not zero.
-/
theorem plans_creatable_iff (sqNumbers cqNumbers : Numbers)
    (tables : IoqTables) (calls : List Call) (qid : Nat)
    (someSq : 1 ≤ dev.nrSq) (someCq : 1 ≤ dev.nrCq) :
    PlansCreatable sqNumbers cqNumbers dev tables calls qid ↔
      dev.nrSq < 65535 ∧ dev.nrCq < 65535 ∧ dev.nrSq ≤ dev.nrCq ∧
        (∀ call ∈ calls, call.Reinit → ReinitFits dev) ∧ qid ≠ 0 := by
  constructor
  · rintro ⟨start, done, along⟩
    obtain ⟨sqPasses, cqPasses⟩ := passes_of_init done
    obtain ⟨same, also, planned⟩ := nvmeInitIoqInfo_planned sqNumbers
      cqNumbers tables sqPasses cqPasses
    rw [done] at also
    cases also
    refine ⟨sqPasses, cqPasses, planned.bound someSq along.first.creatable,
      along.fits someSq, ?_⟩
    rintro rfl
    exact not_finds_zero along.first.sqFound
  · rintro ⟨sqPasses, cqPasses, bound, fits, positive⟩
    obtain ⟨start, done, planned⟩ := nvmeInitIoqInfo_planned sqNumbers
      cqNumbers tables sqPasses cqPasses
    exact ⟨start, done, soundAlong_of_creatable fits someCq
      (Nat.le_of_lt cqPasses) positive (planned.creatable bound)⟩

end Calls

/-- A device with two pairs of queues of up to 1024 entries. -/
def twoPairs : NvmeDevInfo := ⟨2, 2, 1023, .msix, 2⟩

/-- Its plans stay creatable through a replacement and a swap that exchanges
the entries of both pairs. -/
theorem plans_creatable_of_two_pairs :
    PlansCreatable (fun qid _ => qid) (fun _ _ => 0) twoPairs ⟨[], []⟩
      [.reinit (fun i _ => i + 7) (fun i _ => i + 8),
        .swap (fun _ _ => 9) (fun _ _ => 11)] 2 :=
  (plans_creatable_iff _ _ _ _ _ (by decide) (by decide)).mpr
    ⟨by decide, by decide, le_refl 2, fun _ _ _ => Or.inr (by decide),
      by decide⟩

/-- A device with two submission queues and one completion queue. -/
def twoOnOne : NvmeDevInfo := ⟨2, 1, 1023, .none, 0⟩

/-- Its second submission queue asks for a completion queue that is missing. -/
theorem plans_not_creatable :
    ¬ ∀ sqNumbers cqNumbers dev tables calls qid, 1 ≤ dev.nrSq →
      1 ≤ dev.nrCq → dev.nrSq ≤ 65535 → dev.nrCq ≤ 65535 →
        PlansCreatable sqNumbers cqNumbers dev tables calls qid := by
  intro all
  obtain ⟨start, done, along⟩ := all (fun _ _ => 0) (fun _ _ => 0) twoOnOne
    ⟨[], []⟩ [] 1 (by decide) (by decide) (by decide) (by decide)
  obtain ⟨same, also, planned⟩ := @nvmeInitIoqInfo_planned twoOnOne
    (fun _ _ => 0) (fun _ _ => 0) ⟨[], []⟩ (by decide) (by decide)
  rw [done] at also
  cases also
  exact absurd (planned.bound (by decide) along.first.creatable) (by decide)

end Dnvme.Nvme.IoqInfo
