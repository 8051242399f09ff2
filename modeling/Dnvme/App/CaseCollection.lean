import Dnvme.Nvme.Types

/-!
# Running all test cases

`case_collection` runs the automatic test cases in loops, each time in another
order, and reports their results.  The report has room for 64 results, and
what the function returns comes from the report of the last loop alone.  So a
failure is told exactly if it is among the first 64 executions of that loop.
-/

namespace Dnvme.App.CaseCollection

open Dnvme.Driver
open Dnvme.Nvme
open Dnvme.Lib.Results
open Dnvme.Lib.Shuffle

/-! ## Reports -/

/-- `TEST_REPORT_ARRAY_SIZE`. -/
def testReportArraySize : Nat := 64

/-- `struct test_report`: the number of results, and each with the name of its
case. -/
structure TestReport where
  idx : Nat
  arr : Nat → String × Int

/-- `record_test_result`. -/
def recordTestResult (report : TestReport) (name : String) (result : Int) :
    TestReport :=
  if report.idx ≥ testReportArraySize then report
  else
    { idx := report.idx + 1
      arr := Function.update report.arr report.idx (name, result) }

/-- The counters of a display. -/
structure Tally where
  skip : Nat
  pass : Nat
  fail : Nat
  deriving DecidableEq, Repr

/-- Count a result. -/
def Tally.count (tally : Tally) (result : Int) : Tally :=
  if result = -Errno.EOPNOTSUPP then { tally with skip := tally.skip + 1 }
  else if result < 0 then { tally with fail := tally.fail + 1 }
  else { tally with pass := tally.pass + 1 }

/-- `display_test_report`. -/
def displayTestReport (report : TestReport) : Int × TestReport :=
  let tally := (List.range report.idx).foldl
    (fun (tally : Tally) i => tally.count (report.arr i).2) ⟨0, 0, 0⟩
  (if tally.fail = 0 then 0 else -Errno.EPERM, { report with idx := 0 })

/-! ## Runs -/

/-- `struct nvme_case`; `func` is what the function returns in the loop with
that number. -/
structure NvmeCase where
  name : String
  func : Nat → Int

/-- What the loops work on.  `executed` holds the executions so far, by loop
and case. -/
structure Collection where
  array : List Nat
  report : TestReport
  executed : List (Nat × Nat)
  ret : Int

/-- An execution in loop `k`. -/
def executeCase (cases : List NvmeCase) (k : Nat)
    (state : TestReport × List (Nat × Nat)) (index : Nat) :
    Run (TestReport × List (Nat × Nat)) := do
  let cur ← tableAt cases index
  return (recordTestResult state.1 cur.name (cur.func k),
    state.2 ++ [(k, index)])

/-- `total - 1` as the unsigned number it is. -/
def lastOf (total : Nat) : Nat :=
  u32 (total + (2 ^ 32 - 1))

/-- The shuffle at the end of loop `k`; `rand` gives the numbers of each
shuffle. -/
def shuffleCases (rand : Nat → Nat → Nat) (total k : Nat)
    (array : List Nat) : Run (List Nat) :=
  (List.range (lastOf total)).foldlM
    (fun array i => shuffleTurn (.whole Nat) total (rand k i) array i) array

/-- Loop `k`. -/
def collectionLoop (rand : Nat → Nat → Nat) (cases : List NvmeCase)
    (total : Nat) (state : Collection) (k : Nat) : Run Collection := do
  let (report, executed) ← state.array.foldlM (executeCase cases k)
    (state.report, state.executed)
  let (ret, shown) := displayTestReport report
  let array ← shuffleCases rand total k state.array
  return ⟨array, shown, executed, ret⟩

/-- `case_collection`; `loop` is the number that the user enters. -/
def caseCollection (rand : Nat → Nat → Nat) (alloc : Bool)
    (cases : List NvmeCase) (loop : Nat) (report : TestReport) :
    Run (Int × Collection) :=
  let total := u32 cases.length
  let start : Collection := ⟨List.range total, report, [], 0⟩
  if cases = [] then .ok (-Errno.EOPNOTSUPP, start)
  else if !alloc then .ok (-Errno.ENOMEM, start)
  else if loop = 2 ^ 32 - 1 then .error .endlessLoop
  else do
    let last ← (List.range' 1 loop).foldlM (collectionLoop rand cases total)
      start
    return (last.ret, last)

/-! ## The statement -/

/-- A result that counts as a failure. -/
def Failing (result : Int) : Prop :=
  result < 0 ∧ result ≠ -Errno.EOPNOTSUPP

/-- The execution of a case in loop `k` fails. -/
def Fails (cases : List NvmeCase) (k index : Nat) : Prop :=
  ∃ cur, cases[index]? = some cur ∧ Failing (cur.func k)

/-- Each of the loops executes the cases in some order, each case once. -/
def EachOnce (count loop : Nat) (executed : List (Nat × Nat)) : Prop :=
  ∃ order : Nat → List Nat,
    (∀ k, (order k).Perm (List.range count)) ∧
      executed = (List.range' 1 loop).flatMap fun k =>
        (order k).map fun index => (k, index)

/-- A run that executes what it should and hides no failure. -/
def TellsAll (rand : Nat → Nat → Nat) (alloc : Bool) (cases : List NvmeCase)
    (loop : Nat) (report : TestReport) : Prop :=
  ∃ ret last, caseCollection rand alloc cases loop report = .ok (ret, last) ∧
    EachOnce cases.length loop last.executed ∧
    (ret < 0 ↔ ∃ k index, 1 ≤ k ∧ k ≤ loop ∧ Fails cases k index)

/-- The order of loop `k + 1`. -/
def caseOrder (rand : Nat → Nat → Nat) (total : Nat) : Nat → List Nat
  | 0 => List.range total
  | k + 1 =>
      (shuffleCases rand total (k + 1)
        (caseOrder rand total k)).toOption.getD []

/-! ## What a report tells -/

/-- The report holds the first of the results. -/
structure Records (report : TestReport) (results : List (String × Int)) :
    Prop where
  idx : report.idx = min testReportArraySize results.length
  arr : ∀ i, i < report.idx → results[i]? = some (report.arr i)

theorem Records.nothing {report : TestReport} (clean : report.idx = 0) :
    Records report [] := by
  refine ⟨by rw [clean]; rfl, fun i below => ?_⟩
  rw [clean] at below
  exact absurd below (Nat.not_lt_zero i)

/-- One result more is recorded if there is room. -/
theorem Records.record {report : TestReport}
    {results : List (String × Int)} (records : Records report results)
    (name : String) (result : Int) :
    Records (recordTestResult report name result)
      (results ++ [(name, result)]) := by
  have idx := records.idx
  unfold recordTestResult
  split
  · rename_i full
    refine ⟨?_, fun i below => ?_⟩
    · rw [List.length_append, List.length_singleton]
      omega
    · rw [List.getElem?_append_left (by omega)]
      exact records.arr i below
  · rename_i room
    have here : report.idx = results.length := by omega
    refine ⟨?_, fun i below => ?_⟩
    · rw [List.length_append, List.length_singleton]
      dsimp only
      omega
    · dsimp only at below ⊢
      by_cases last : i = report.idx
      · rw [last, Function.update_self, here, List.getElem?_concat_length]
      · rw [Function.update_of_ne last,
          List.getElem?_append_left (by omega)]
        exact records.arr i (by omega)

/-- A tally has a failure exactly if it counts one. -/
theorem tally_fail_iff (result : Nat → Int) (indices : List Nat) :
    ∀ tally : Tally,
      (indices.foldl (fun (tally : Tally) i => tally.count (result i))
        tally).fail = 0 ↔
        tally.fail = 0 ∧ ∀ i ∈ indices, ¬ Failing (result i) := by
  induction indices with
  | nil => simp
  | cons i rest ih =>
      intro tally
      have one : (tally.count (result i)).fail = 0 ↔
          tally.fail = 0 ∧ ¬ Failing (result i) := by
        unfold Tally.count Failing
        split
        · rename_i skipped
          simp [skipped]
        · rename_i counted
          split
          · rename_i negative
            simp [negative, counted]
          · rename_i fine
            simp [fine]
      rw [List.foldl_cons, ih, one, List.forall_mem_cons, and_assoc]

/-- A display leaves the report empty. -/
theorem display_clean (report : TestReport) :
    (displayTestReport report).2.idx = 0 := by
  unfold displayTestReport
  rfl

/-- What a display returns. -/
theorem display_negative_iff {report : TestReport}
    {results : List (String × Int)} (records : Records report results) :
    (displayTestReport report).1 < 0 ↔
      ∃ entry ∈ results.take testReportArraySize, Failing entry.2 := by
  have counted := tally_fail_iff (fun i => (report.arr i).2)
    (List.range report.idx) ⟨0, 0, 0⟩
  unfold displayTestReport
  dsimp only at counted ⊢
  have idx := records.idx
  split
  · rename_i zero
    have fine := (counted.mp zero).2
    refine iff_of_false (Int.lt_irrefl 0) ?_
    rintro ⟨entry, member, failing⟩
    obtain ⟨i, here⟩ := List.mem_iff_getElem?.mp member
    have inside : i < report.idx := by
      have below := (List.getElem?_eq_some_iff.mp here).1
      rw [List.length_take] at below
      omega
    rw [List.getElem?_take_of_lt (by omega), records.arr i inside] at here
    cases here
    exact fine i (List.mem_range.mpr inside) failing
  · rename_i some_
    refine iff_of_true (by decide) ?_
    have failing : ∃ i ∈ List.range report.idx, Failing (report.arr i).2 := by
      by_contra none_
      push Not at none_
      exact some_ (counted.mpr ⟨rfl, none_⟩)
    obtain ⟨i, member, fails⟩ := failing
    have inside := List.mem_range.mp member
    refine ⟨report.arr i, List.mem_iff_getElem?.mpr ⟨i, ?_⟩, fails⟩
    rw [List.getElem?_take_of_lt (by omega)]
    exact records.arr i inside

/-! ## One loop -/

section Loop

variable {rand : Nat → Nat → Nat} {cases : List NvmeCase} {total k : Nat}

/-- The entry that the execution of a case leaves in the report. -/
def caseResult (cases : List NvmeCase) (k index : Nat) : String × Int :=
  match cases[index]? with
  | none => ("", 0)
  | some cur => (cur.name, cur.func k)

theorem failing_caseResult_iff (cases : List NvmeCase) (k index : Nat) :
    Failing (caseResult cases k index).2 ↔ Fails cases k index := by
  unfold caseResult Fails
  cases cases[index]? with
  | none => simp [Failing]
  | some cur => simp

/-- An execution is recorded. -/
theorem executeCase_turn {index : Nat} {report : TestReport}
    {results : List (String × Int)} (records : Records report results)
    (inside : index < cases.length) (executed : List (Nat × Nat)) :
    ∃ next, executeCase cases k (report, executed) index =
        .ok (next, executed ++ [(k, index)]) ∧
      Records next (results ++ [caseResult cases k index]) := by
  have entry : caseResult cases k index =
      (cases[index].name, cases[index].func k) := by
    unfold caseResult
    rw [List.getElem?_eq_getElem inside]
  refine ⟨_, ?_, entry ▸ records.record _ _⟩
  simp only [executeCase, tableAt_ok inside]
  rfl

/-- The executions of a loop, in the order of the array. -/
theorem executeCase_loop {array : List Nat} {report : TestReport}
    (clean : report.idx = 0)
    (inside : ∀ index ∈ array, index < cases.length)
    (executed : List (Nat × Nat)) :
    ∃ filled, array.foldlM (executeCase cases k) (report, executed) =
        .ok (filled, executed ++ array.map fun index => (k, index)) ∧
      Records filled (array.map (caseResult cases k)) := by
  obtain ⟨⟨filled, log⟩, done, records, rfl⟩ :=
    foldlM_rule (executeCase cases k)
      (fun past state =>
        Records state.1 (past.map (caseResult cases k)) ∧
          state.2 = executed ++ past.map fun index => (k, index))
      (report, executed) array
      (fun past index rest state parts inv => by
        have below := inside index (by rw [parts]; simp)
        obtain ⟨records, log⟩ := inv
        obtain ⟨next, turn, more⟩ := executeCase_turn records below state.2
        refine ⟨_, turn, ?_, ?_⟩
        · rw [List.map_append]
          exact more
        · rw [log, List.map_append, List.append_assoc]
          rfl)
      ⟨Records.nothing clean, (List.append_nil executed).symm⟩
  exact ⟨filled, done, records⟩

theorem Exchanged.perm_whole {array next : List Nat}
    (exchanged : Exchanged (.whole Nat) array next) : next.Perm array := by
  have perm := exchanged.perm
  rwa [show (Field.whole Nat).get = id from rfl, List.map_id, List.map_id]
    at perm

/-- A shuffle that has a result permutes. -/
theorem shuffleCases_perm {array next : List Nat}
    (done : shuffleCases rand total k array = .ok next) :
    next.Perm array :=
  @foldlM_keeps _ _ _ (fun now => now.Perm array) _
    (fun perm turn =>
      (Exchanged.perm_whole (shuffleTurn_exchanged turn)).trans perm)
    _ _ _ (List.Perm.refl array) done

/-- A shuffle of all cases has a result. -/
theorem shuffleCases_some {array : List Nat} (positive : 0 < total)
    (fits : total < 2 ^ 32) (length : array.length = total) :
    ∃ next, shuffleCases rand total k array = .ok next := by
  have last : lastOf total = total - 1 := by
    unfold lastOf u32
    omega
  obtain ⟨next, done, _⟩ := foldlM_rule
    (fun array i => shuffleTurn (.whole Nat) total (rand k i) array i)
    (fun _ now => now.length = total) array (List.range (lastOf total))
    (fun past i rest now parts kept => by
      have member : i ∈ List.range (lastOf total) := by
        rw [parts]
        exact List.mem_append_right past List.mem_cons_self
      have inside := List.mem_range.mp member
      obtain ⟨next, turn⟩ := shuffleTurn_some (.whole Nat) (rand k i) kept
        (show i < total by omega)
      exact ⟨next, turn, (shuffleTurn_exchanged turn).length.trans kept⟩)
    length
  exact ⟨next, done⟩

theorem collectionLoop_ok {state : Collection} {filled : TestReport}
    {log : List (Nat × Nat)} {next : List Nat}
    (executes : state.array.foldlM (executeCase cases k)
      (state.report, state.executed) = .ok (filled, log))
    (shuffles : shuffleCases rand total k state.array = .ok next) :
    collectionLoop rand cases total state k =
      .ok ⟨next, (displayTestReport filled).2, log,
        (displayTestReport filled).1⟩ := by
  unfold collectionLoop
  rw [executes, shuffles]
  dsimp only [bind, Except.bind, pure, Except.pure]

/-- The orders are permutations of all cases, each made from the one
before. -/
theorem caseOrder_perm (positive : 0 < total) (fits : total < 2 ^ 32) :
    ∀ count, (caseOrder rand total count).Perm (List.range total) ∧
      shuffleCases rand total (count + 1) (caseOrder rand total count) =
        .ok (caseOrder rand total (count + 1)) := by
  have shuffles (count : Nat)
      (perm : (caseOrder rand total count).Perm (List.range total)) :
      shuffleCases rand total (count + 1) (caseOrder rand total count) =
        .ok (caseOrder rand total (count + 1)) := by
    obtain ⟨next, done⟩ := @shuffleCases_some rand total (count + 1) _
      positive fits (perm.length_eq.trans List.length_range)
    rw [caseOrder, done]
    rfl
  intro count
  induction count with
  | zero => exact ⟨List.Perm.refl _, shuffles 0 (List.Perm.refl _)⟩
  | succ count ih =>
      have perm := (shuffleCases_perm ih.2).trans ih.1
      exact ⟨perm, shuffles (count + 1) perm⟩

end Loop

/-! ## All loops -/

section Loops

variable {rand : Nat → Nat → Nat} {cases : List NvmeCase} {count : Nat}

/-- A failure is among the executions of the last loop that the report has
room for. -/
def LastTells (rand : Nat → Nat → Nat) (cases : List NvmeCase)
    (loop : Nat) : Prop :=
  ∃ index ∈ (caseOrder rand cases.length (loop - 1)).take
    testReportArraySize, Fails cases loop index

/-- The executions of a number of loops. -/
def executions (rand : Nat → Nat → Nat) (total loop : Nat) :
    List (Nat × Nat) :=
  (List.range' 1 loop).flatMap fun k =>
    (caseOrder rand total (k - 1)).map fun index => (k, index)

/-- The state between the loops. -/
structure AfterLoops (rand : Nat → Nat → Nat) (cases : List NvmeCase)
    (count : Nat) (state : Collection) : Prop where
  array : state.array = caseOrder rand cases.length count
  clean : state.report.idx = 0
  executed : state.executed = executions rand cases.length count
  verdict : count ≠ 0 → (state.ret < 0 ↔ LastTells rand cases count)

theorem executions_succ (rand : Nat → Nat → Nat) (total count : Nat) :
    executions rand total (count + 1) = executions rand total count ++
      (caseOrder rand total count).map fun index => (count + 1, index) := by
  unfold executions
  rw [List.range'_1_concat, List.flatMap_append, List.flatMap_singleton,
    Nat.add_comm 1 count, Nat.add_sub_cancel]

theorem AfterLoops.turn {state : Collection}
    (after : AfterLoops rand cases count state) (some_ : cases ≠ [])
    (fits : cases.length < 2 ^ 32) :
    ∃ next, collectionLoop rand cases cases.length state (count + 1) =
      .ok next ∧ AfterLoops rand cases (count + 1) next := by
  have positive : 0 < cases.length := List.length_pos_iff.mpr some_
  obtain ⟨perm, shuffled⟩ := @caseOrder_perm rand _ positive fits count
  have inside : ∀ index ∈ state.array, index < cases.length := by
    intro index member
    rw [after.array] at member
    exact List.mem_range.mp (perm.mem_iff.mp member)
  obtain ⟨filled, executes, records⟩ := @executeCase_loop cases (count + 1)
    _ _ after.clean inside state.executed
  rw [← after.array] at shuffled
  refine ⟨_, collectionLoop_ok executes shuffled, ?_, display_clean filled,
    ?_, fun _ => ?_⟩
  · dsimp only
  · rw [executions_succ, after.executed, after.array]
  · rw [after.array] at records
    refine (display_negative_iff records).trans ?_
    unfold LastTells
    rw [← List.map_take, Nat.add_sub_cancel]
    simp only [List.mem_map, exists_exists_and_eq_and,
      failing_caseResult_iff]

/-- All loops end, and each executes all cases. -/
theorem caseCollection_runs {loop : Nat} {report : TestReport}
    (some_ : cases ≠ []) (fits : cases.length < 2 ^ 32)
    (clean : report.idx = 0) :
    ∃ last, (List.range' 1 loop).foldlM
        (collectionLoop rand cases cases.length)
        ⟨List.range cases.length, report, [], 0⟩ = .ok last ∧
      AfterLoops rand cases loop last := by
  obtain ⟨last, done, after⟩ := foldlM_rule
    (collectionLoop rand cases cases.length)
    (fun past state => AfterLoops rand cases past.length state)
    ⟨List.range cases.length, report, [], 0⟩ (List.range' 1 loop)
    (fun past k rest state parts after => by
      have here : (List.range' 1 loop)[past.length]? = some k := by
        rw [parts, List.getElem?_append_right (le_refl _), Nat.sub_self]
        rfl
      obtain ⟨below, rfl⟩ := List.getElem?_eq_some_iff.mp here
      rw [List.getElem_range', Nat.one_mul, Nat.add_comm 1,
        List.length_append, List.length_singleton]
      exact after.turn some_ fits)
    ⟨rfl, clean, rfl, fun never => absurd rfl never⟩
  rw [List.length_range'] at after
  exact ⟨last, done, after⟩

end Loops

/-! ## The verdict -/

section Verdict

variable {rand : Nat → Nat → Nat} {alloc : Bool} {cases : List NvmeCase}
  {loop : Nat} {report : TestReport}

theorem caseCollection_eq (some_ : cases ≠ []) (ends : loop < 2 ^ 32 - 1)
    (report : TestReport) :
    caseCollection rand true cases loop report =
      ((List.range' 1 loop).foldlM
        (collectionLoop rand cases (u32 cases.length))
        ⟨List.range (u32 cases.length), report, [], 0⟩).map
          fun last => (last.ret, last) := by
  unfold caseCollection
  rw [if_neg some_, if_neg (by decide), if_neg (by omega)]
  cases (List.range' 1 loop).foldlM
    (collectionLoop rand cases (u32 cases.length))
    ⟨List.range (u32 cases.length), report, [], 0⟩ with
  | error stop => rfl
  | ok last => rfl

/-- With room for the array, a failure of the last loop that the report has
room for is what the function tells. -/
theorem caseCollection_tells (some_ : cases ≠ [])
    (fits : cases.length < 2 ^ 32) (positive : 1 ≤ loop)
    (ends : loop < 2 ^ 32 - 1) (clean : report.idx = 0) :
    ∃ ret last, caseCollection rand true cases loop report =
        .ok (ret, last) ∧
      EachOnce cases.length loop last.executed ∧
      (ret < 0 ↔ LastTells rand cases loop) := by
  obtain ⟨last, done, after⟩ := @caseCollection_runs rand cases loop report
    some_ fits clean
  have total : u32 cases.length = cases.length := Nat.mod_eq_of_lt fits
  refine ⟨last.ret, last, ?_, ⟨fun k => caseOrder rand cases.length (k - 1),
    fun k => ?_, after.executed⟩, after.verdict (by omega)⟩
  · rw [caseCollection_eq some_ ends, total, done]
    rfl
  · exact (caseOrder_perm (List.length_pos_iff.mpr some_) fits (k - 1)).1

/-- The first loop executes each case. -/
theorem EachOnce.first_loop {count index : Nat}
    {executed : List (Nat × Nat)} (once : EachOnce count loop executed)
    (positive : 1 ≤ loop) (inside : index < count) :
    (1, index) ∈ executed := by
  obtain ⟨order, perm, rfl⟩ := once
  refine List.mem_flatMap.mpr ⟨1, ?_, List.mem_map.mpr ⟨index, ?_, rfl⟩⟩
  · exact List.mem_range'_1.mpr ⟨le_refl 1, by omega⟩
  · exact (perm 1).mem_iff.mpr (List.mem_range.mpr inside)

/-- No index from `total` on was executed. -/
structure Below (total : Nat) (state : Collection) : Prop where
  array : ∀ index ∈ state.array, index < total
  executed : ∀ entry ∈ state.executed, entry.2 < total

theorem Below.turn {total k : Nat} {state next : Collection}
    (below : Below total state)
    (done : collectionLoop rand cases total state k = .ok next) :
    Below total next := by
  rcases ok_of_bind done with ⟨⟨filled, log⟩, executes, rest⟩
  rcases ok_of_bind rest with ⟨array, shuffles, finish⟩
  cases finish
  refine ⟨fun index member => ?_, ?_⟩
  · exact below.array index ((shuffleCases_perm shuffles).mem_iff.mp member)
  · have all (items : List Nat) (inside : ∀ index ∈ items, index < total) :
        ∀ {from_ : TestReport × List (Nat × Nat)},
          (∀ entry ∈ from_.2, entry.2 < total) →
          ∀ {last}, items.foldlM (executeCase cases k) from_ = .ok last →
            ∀ entry ∈ last.2, entry.2 < total := by
      induction items with
      | nil =>
          intro from_ earlier last done
          cases done
          exact earlier
      | cons index items ih =>
          intro from_ earlier last done
          rw [List.foldlM_cons] at done
          rcases ok_of_bind done with ⟨next, turn, rest⟩
          rcases ok_of_bind turn with ⟨cur, _, finish⟩
          cases finish
          refine ih (fun other member =>
            inside other (List.mem_cons_of_mem _ member)) ?_ rest
          intro entry member
          rcases List.mem_append.mp member with old | new
          · exact earlier entry old
          · rw [List.mem_singleton.mp new]
            exact inside index List.mem_cons_self
    exact all state.array below.array below.executed executes

/-- More cases than the counter can count are not all executed. -/
theorem not_each_once {last : Collection} {ret : Int} (some_ : cases ≠ [])
    (many : 2 ^ 32 ≤ cases.length) (positive : 1 ≤ loop)
    (ends : loop < 2 ^ 32 - 1)
    (done : caseCollection rand true cases loop report = .ok (ret, last)) :
    ¬ EachOnce cases.length loop last.executed := by
  intro once
  rw [caseCollection_eq some_ ends] at done
  rcases ok_of_map done with ⟨final, runs, same⟩
  cases same
  have start : Below (u32 cases.length)
      ⟨List.range (u32 cases.length), report, [], 0⟩ :=
    ⟨fun _ member => List.mem_range.mp member, fun _ none_ =>
      absurd none_ List.not_mem_nil⟩
  have below := foldlM_keeps (fun below turn => Below.turn below turn) _ start
    runs
  have fewer : u32 cases.length < cases.length :=
    lt_of_lt_of_le (Nat.mod_lt _ (Nat.two_pow_pos 32)) many
  exact Nat.lt_irrefl _
    (below.executed _ (once.first_loop positive fewer))

/--
The collection tells every failure, and only failures, exactly if its array
can be allocated and indexed and no execution fails at all or one among the
first 64 of the last loop does.
-/
theorem collection_tells_all_iff (some_ : cases ≠ []) (positive : 1 ≤ loop)
    (ends : loop ≤ 2 ^ 32 - 2) (clean : report.idx = 0) :
    TellsAll rand alloc cases loop report ↔
      alloc = true ∧ cases.length < 2 ^ 32 ∧
        ((∀ k index, 1 ≤ k → k ≤ loop → ¬ Fails cases k index) ∨
          LastTells rand cases loop) := by
  constructor
  · rintro ⟨ret, last, done, once, verdict⟩
    cases alloc with
    | false =>
        unfold caseCollection at done
        rw [if_neg some_] at done
        cases done
        exact absurd (once.first_loop positive (List.length_pos_iff.mpr some_))
          List.not_mem_nil
    | true =>
        have fits : cases.length < 2 ^ 32 := by
          by_contra many
          exact not_each_once some_ (not_lt.mp many) positive (by omega) done
            once
        obtain ⟨told, final, also, _, tells⟩ := @caseCollection_tells rand
          cases loop report some_ fits positive (by omega) clean
        rw [done] at also
        cases also
        refine ⟨rfl, fits, or_iff_not_imp_left.mpr fun some_fail => ?_⟩
        push Not at some_fail
        exact tells.mp (verdict.mpr some_fail)
  · rintro ⟨rfl, fits, tells⟩
    obtain ⟨ret, last, done, once, verdict⟩ := @caseCollection_tells rand
      cases loop report some_ fits positive (by omega) clean
    refine ⟨ret, last, done, once, verdict.trans ⟨?_, ?_⟩⟩
    · rintro ⟨index, _, fails⟩
      exact ⟨loop, index, positive, le_refl _, fails⟩
    · rintro ⟨k, index, after, before, fails⟩
      exact tells.resolve_left fun none_ => none_ k index after before fails

end Verdict

/-- `static struct test_report rpt_case = {0}`. -/
def emptyReport : TestReport := ⟨0, fun _ => ("", 0)⟩

/-- A case that passes, one that fails in every second loop, and one that is
not supported. -/
def threeCases : List NvmeCase :=
  [⟨"first", fun _ => 0⟩, ⟨"second", fun k => if k % 2 = 0 then -5 else 0⟩,
    ⟨"third", fun _ => -Errno.EOPNOTSUPP⟩]

/-- Four loops in shuffled orders tell the failure of the second case. -/
theorem collection_tells_all_of_failure :
    TellsAll (fun k i => k + i) true threeCases 4 emptyReport :=
  (collection_tells_all_iff (by decide) (by decide) (by decide) rfl).mpr
    ⟨rfl, by decide, Or.inr ⟨1, by decide, _, rfl, by decide, by decide⟩⟩

/-- A case that fails in the first loop only. -/
def failsOnce : NvmeCase := ⟨"case", fun k => if k = 1 then -5 else 0⟩

/-- A failure of the first of two loops is hidden. -/
theorem collection_hides_failure :
    ¬ ∀ rand cases loop report, cases ≠ [] → 1 ≤ loop → loop ≤ 2 ^ 32 - 2 →
      report.idx = 0 → TellsAll rand true cases loop report := by
  intro all
  obtain ⟨ret, last, done, _, verdict⟩ := all (fun _ _ => 0) [failsOnce] 2
    emptyReport (by decide) (by decide) (by decide) rfl
  obtain ⟨told, final, also, _, tells⟩ := @caseCollection_tells
    (fun _ _ => 0) [failsOnce] 2 emptyReport (by decide) (by decide)
    (by decide) (by decide) rfl
  rw [done] at also
  cases also
  have failed : ∃ k index, 1 ≤ k ∧ k ≤ 2 ∧ Fails [failsOnce] k index :=
    ⟨1, 0, le_refl 1, by decide, failsOnce, rfl, by decide, by decide⟩
  obtain ⟨index, _, cur, here, negative, _⟩ := tells.mp (verdict.mpr failed)
  rw [List.mem_singleton.mp (List.mem_of_getElem? here)] at negative
  exact absurd negative (by decide)

end Dnvme.App.CaseCollection
