import Dnvme.Driver.IrqBookkeeping

/-!
# Setting the interrupt scheme

`dnvme_set_interrupt` tears down the scheme in use and sets up another one,
with a clean-up ladder in each of four functions.  A call that fails should
leave nothing behind, and one that sets up MSI-X should have the pointers that
the capability describes.

Two calls do not do so.  The ladder of `set_int_msi_multi` does not give back
the vectors.  And `init_msix_ptr` takes the table size for a sign that it has
run, also when it has failed: the call after a rejected one then reads the
pending bits through a null pointer.
-/

namespace Dnvme.Driver.IrqSetup

open Dnvme.Driver
open Dnvme.Driver.IrqBookkeeping

/-! ## Accesses through the pointers -/

/-- `set_int_msix` gets to the pending bits, and a pointer that it uses from
there on is null. -/
def accessesNull (env : IrqEnv) (numIrqs : Nat) (set : NvmeIrqSet) : Bool :=
  let (asked, registered) :=
    requestIrqs env numIrqs 0 { set with mode := .msix }
  let (made, _) := createPairs env numIrqs 0 registered
  env.entriesAlloc && env.granted = numIrqs && 0 ≤ asked && 0 ≤ made &&
    (set.msix.pba.isNone || (!env.pbaSet && set.msix.tb.isNone))

/-- The work queue for a new scheme, once the old one is gone. -/
def clearScheme (env : IrqEnv) (checked : NvmeIrqSet) : Int × NvmeIrqSet :=
  createIrqWorkQueue env.wqAlloc
    (if checked.irqType ≠ .none then dnvmeCleanInterrupt checked
      else checked)

/-- The set-up of the requested scheme. -/
def setScheme (env : IrqEnv) (irq : NvmeInterrupt) (ready : NvmeIrqSet) :
    Int × NvmeIrqSet :=
  match irq.irqType with
  | .msiSingle => setIntMsiSingle env ready
  | .msiMulti => setIntMsiMulti env irq.numIrqs ready
  | .msix => setIntMsix env irq.numIrqs ready
  | .pin => setIntPin env ready
  | .none => (0, ready)
  | .unknown _ => (-Errno.EBADRQC, ready)

/-- `dnvme_set_interrupt`, which stops the kernel when it uses a null
pointer. -/
def setInterrupt (env : IrqEnv) (ccEnable : Bool) (set : NvmeIrqSet)
    (irq : NvmeInterrupt) : Outcome (Int × NvmeIrqSet) :=
  let (ret, checked) := checkInterrupt env ccEnable set irq
  if ret < 0 then .ok (ret, checked)
  else
    let (ret, ready) := clearScheme env checked
    if ret < 0 then .ok (ret, ready)
    else if irq.irqType = .msix ∧ accessesNull env irq.numIrqs ready then
      .error .nullPointer
    else
      let (ret, done) := setScheme env irq ready
      if ret < 0 then .ok (ret, destroyIrqWorkQueue done)
      else
        .ok (0, { done with irqType := irq.irqType, nrIrq := irq.numIrqs })

/-- A call in these parts. -/
theorem dnvmeSetInterrupt_eq (env : IrqEnv) (ccEnable : Bool)
    (set : NvmeIrqSet) (irq : NvmeInterrupt) :
    dnvmeSetInterrupt env ccEnable set irq =
      let (ret, checked) := checkInterrupt env ccEnable set irq
      if ret < 0 then (ret, checked)
      else
        let (ret, ready) := clearScheme env checked
        if ret < 0 then (ret, ready)
        else
          let (ret, done) := setScheme env irq ready
          if ret < 0 then (ret, destroyIrqWorkQueue done)
          else
            (0, { done with irqType := irq.irqType, nrIrq := irq.numIrqs }) :=
  rfl

/-- A call that returns does what `dnvmeSetInterrupt` does. -/
theorem setInterrupt_eq {env : IrqEnv} {ccEnable : Bool} {set : NvmeIrqSet}
    {irq : NvmeInterrupt} {result : Int × NvmeIrqSet}
    (returns : setInterrupt env ccEnable set irq = .ok result) :
    dnvmeSetInterrupt env ccEnable set irq = result := by
  rw [dnvmeSetInterrupt_eq]
  unfold setInterrupt at returns
  dsimp only at returns ⊢
  split at returns
  · rename_i rejected
    rw [if_pos rejected]
    exact Except.ok.inj returns
  rename_i accepted
  rw [if_neg accepted]
  split at returns
  · rename_i failed
    rw [if_pos failed]
    exact Except.ok.inj returns
  rename_i queue
  rw [if_neg queue]
  split at returns
  · cases returns
  split at returns
  · rename_i failed
    rw [if_pos failed]
    exact Except.ok.inj returns
  · rename_i done
    rw [if_neg done]
    exact Except.ok.inj returns

/-! ## The statement -/

/-- Nothing of a scheme is there. -/
structure NothingLeft (set : NvmeIrqSet) : Prop where
  type : set.irqType = .none
  vectors : set.mode = .none
  handlers : set.handlers = []
  queue : set.wq = false

/-- The capability puts the table and the pending bits in BAR0. -/
def Placed (cap : Option (Nat × (Nat × Nat) × (Nat × Nat))) : Prop :=
  ∃ size table pba, cap = some (size, (0, table), (0, pba))

/-- The pointers are those that the capability describes. -/
def Points (cap : Option (Nat × (Nat × Nat) × (Nat × Nat)))
    (msix : NvmeMsix) : Prop :=
  ∃ size table pba, cap = some (size, (0, table), (0, pba)) ∧
    msix.tb = some table ∧ msix.pba = some pba

/-- A call returns; when it fails past the check nothing is left, and when it
sets up MSI-X the pointers are right. -/
def AllOrNothing (env : IrqEnv) (ccEnable : Bool) (set : NvmeIrqSet)
    (irq : NvmeInterrupt) : Prop :=
  ∃ ret after, setInterrupt env ccEnable set irq = .ok (ret, after) ∧
    (0 ≤ (checkInterrupt env ccEnable set irq).1 → ret < 0 →
      NothingLeft after) ∧
    (0 ≤ ret → irq.irqType = .msix → Points env.msixCap after.msix)

/-- What the kernel functions return, and the capability of the function. -/
structure Documented (cap : Option (Nat × (Nat × Nat) × (Nat × Nat)))
    (env : IrqEnv) (irq : NvmeInterrupt) : Prop where
  cap : env.msixCap = cap
  single : irq.irqType = .msiSingle → env.granted ≤ 0
  several : irq.irqType = .msiMulti ∨ irq.irqType = .msix →
    env.granted = irq.numIrqs ∨ env.granted < 0

/-- The nodes of interrupt `i` can be made. -/
structure PairMade (env : IrqEnv) (i : Nat) : Prop where
  irq : env.irqAlloc i = true
  work : env.workAlloc i = true
  vector : ∀ j < i, env.vector j ≠ env.vector i
  icq : i = 0 → env.icqAlloc = true

/-- No step after the allocation of the vectors fails. -/
def Registers (env : IrqEnv) (count : Nat) : Prop :=
  ∀ i < count, 0 ≤ env.request i ∧ PairMade env i

/-- There is a work queue, or one can be made. -/
def HasQueue (env : IrqEnv) (set : NvmeIrqSet) : Prop :=
  env.wqAlloc = true ∨ (set.irqType = .none ∧ set.wq = true)

/-- The condition on a call.  With its vectors allocated, a call for MSI-multi
does not fail; and a call for MSI-X that gets to the pending bits has a
capability with everything in BAR0. -/
def Meets (env : IrqEnv) (ccEnable : Bool) (set : NvmeIrqSet)
    (irq : NvmeInterrupt) : Prop :=
  0 ≤ (checkInterrupt env ccEnable set irq).1 → HasQueue env set →
    env.granted = irq.numIrqs →
    (irq.irqType = .msiMulti → Registers env irq.numIrqs) ∧
    (irq.irqType = .msix → env.entriesAlloc = true →
      Registers env irq.numIrqs → Placed env.msixCap)

/-- The irq sets after calls that meet the rule, with interrupts, their bottom
halves and the clean-up of the device in between. -/
inductive Reached (cap : Option (Nat × (Nat × Nat) × (Nat × Nat)))
    (rule : IrqEnv → Bool → NvmeIrqSet → NvmeInterrupt → Prop) :
    NvmeIrqSet → Prop
  | fresh (qDepth : Nat) (capCqr cmbSqs cmbCqs : Bool) :
      Reached cap rule (NvmeDevice.fresh qDepth capCqr cmbSqs cmbCqs).irqSet
  | call (env : IrqEnv) (ccEnable : Bool) (irq : NvmeInterrupt)
      {set after : NvmeIrqSet} {ret : Int} (earlier : Reached cap rule set)
      (documented : Documented cap env irq)
      (met : rule env ccEnable set irq)
      (done : setInterrupt env ccEnable set irq = .ok (ret, after)) :
      Reached cap rule after
  | interrupt (intVec : Nat) {set : NvmeIrqSet}
      (earlier : Reached cap rule set) :
      Reached cap rule (dnvmeInterrupt set intVec)
  | bottomHalf (irqId : Nat) {set : NvmeIrqSet}
      (earlier : Reached cap rule set) :
      Reached cap rule (updateIrqFlag set irqId)
  | clean {set : NvmeIrqSet} (earlier : Reached cap rule set) :
      Reached cap rule (dnvmeCleanInterrupt set)

/-! ## What the loops leave alone -/

/-- Only the lists of nodes, the flags and the masks differ. -/
structure Framed (set next : NvmeIrqSet) : Prop where
  type : next.irqType = set.irqType
  queue : next.wq = set.wq
  msix : next.msix = set.msix
  handlers : next.handlers = set.handlers
  mode : next.mode = set.mode

theorem Framed.refl (set : NvmeIrqSet) : Framed set set :=
  ⟨rfl, rfl, rfl, rfl, rfl⟩

theorem Framed.trans {first second third : NvmeIrqSet}
    (one : Framed first second) (two : Framed second third) :
    Framed first third :=
  ⟨two.type.trans one.type, two.queue.trans one.queue,
    two.msix.trans one.msix, two.handlers.trans one.handlers,
    two.mode.trans one.mode⟩

theorem Framed.createIrqNode (alloc : Bool) (set : NvmeIrqSet)
    (intVec irqId : Nat) :
    Framed set (createIrqNode alloc set intVec irqId).2 := by
  unfold Driver.createIrqNode
  split
  · split
    · exact .refl set
    · exact .refl set
  · split
    · exact .refl set
    · split
      · exact ⟨rfl, rfl, rfl, rfl, rfl⟩
      · exact .refl set

theorem Framed.createWorkNode (alloc : Bool) (set : NvmeIrqSet)
    (intVec irqId : Nat) :
    Framed set (createWorkNode alloc set intVec irqId).2 := by
  unfold Driver.createWorkNode
  split
  · split
    · exact .refl set
    · exact .refl set
  · split
    · exact .refl set
    · split
      · exact ⟨rfl, rfl, rfl, rfl, rfl⟩
      · exact .refl set

theorem Framed.dnvmeCreateIcqNode (alloc : Bool) (set : NvmeIrqSet)
    (cqId irqNo : Nat) :
    Framed set (dnvmeCreateIcqNode alloc set cqId irqNo).2 := by
  unfold Driver.dnvmeCreateIcqNode
  split
  · exact .refl set
  · split
    · exact .refl set
    · split
      · exact ⟨rfl, rfl, rfl, rfl, rfl⟩
      · exact .refl set

theorem Framed.deleteIrqNode (set : NvmeIrqSet) (irqId : Nat) :
    Framed set (deleteIrqNode set irqId) :=
  ⟨rfl, rfl, rfl, rfl, rfl⟩

theorem Framed.destroyIrqWorkPair (set : NvmeIrqSet) (irqId : Nat) :
    Framed set (destroyIrqWorkPair set irqId) :=
  ⟨rfl, rfl, rfl, rfl, rfl⟩

theorem Framed.createIrqWorkPair (env : IrqEnv) (set : NvmeIrqSet)
    (intVec irqId : Nat) :
    Framed set (createIrqWorkPair env set intVec irqId).2 := by
  have irq := Framed.createIrqNode (env.irqAlloc irqId) set intVec irqId
  have work := irq.trans
    (Framed.createWorkNode (env.workAlloc irqId) _ intVec irqId)
  have icq := work.trans (Framed.dnvmeCreateIcqNode env.icqAlloc _ 0 irqId)
  unfold Driver.createIrqWorkPair
  dsimp only
  split
  · exact irq
  · split
    · exact work.trans (.deleteIrqNode _ irqId)
    · split
      · split
        · exact icq.trans (.destroyIrqWorkPair _ irqId)
        · exact icq
      · exact work

theorem Framed.destroyPairs (ids : List Nat) (set : NvmeIrqSet) :
    Framed set (ids.foldl Driver.destroyIrqWorkPair set) := by
  induction ids generalizing set with
  | nil => exact .refl set
  | cons id ids ih => exact (Framed.destroyIrqWorkPair set id).trans (ih _)

theorem Framed.createPairs (env : IrqEnv) (count : Nat) {index : Nat}
    (set : NvmeIrqSet) :
    Framed set (createPairs env count index set).2 := by
  induction count generalizing index set with
  | zero => exact .refl set
  | succ count ih =>
      have pair := Framed.createIrqWorkPair env set (env.vector index) index
      rw [Driver.createPairs]
      dsimp only
      split
      · exact pair.trans (.destroyPairs _ _)
      · exact pair.trans (ih _)

theorem Framed.maskEntries (entries : List Nat) (set : NvmeIrqSet) :
    Framed set (entries.foldl
      (fun set entry => set.writeMsixMask entry true) set) := by
  induction entries generalizing set with
  | nil => exact .refl set
  | cons entry entries ih =>
      have first : Framed set (set.writeMsixMask entry true) :=
        ⟨rfl, rfl, rfl, rfl, rfl⟩
      exact first.trans (ih _)

theorem Framed.writeMask (set : NvmeIrqSet) (irqNo : Nat) (value : Bool) :
    Framed set (set.writeMask irqNo value) := by
  unfold NvmeIrqSet.writeMask
  split <;> exact ⟨rfl, rfl, rfl, rfl, rfl⟩

theorem Framed.dnvmeInterrupt (set : NvmeIrqSet) (intVec : Nat) :
    Framed set (dnvmeInterrupt set intVec) := by
  unfold Driver.dnvmeInterrupt
  split
  · exact .refl set
  · exact (Framed.writeMask set _ true).trans ⟨rfl, rfl, rfl, rfl, rfl⟩

theorem Framed.updateIrqFlag (set : NvmeIrqSet) (irqId : Nat) :
    Framed set (updateIrqFlag set irqId) := by
  unfold Driver.updateIrqFlag
  split
  · exact .refl set
  · split
    · exact ⟨rfl, rfl, rfl, rfl, rfl⟩
    · exact .refl set

/-- The end of the work queue changes no more than its work does. -/
theorem destroyIrqWorkQueue_framed (set : NvmeIrqSet) :
    Framed { set with wq := false } (destroyIrqWorkQueue set) := by
  have run (ids : List Nat) (start : NvmeIrqSet) :
      Framed start (ids.foldl updateIrqFlag start) := by
    induction ids generalizing start with
    | nil => exact .refl start
    | cons id ids ih => exact (Framed.updateIrqFlag start id).trans (ih _)
  unfold destroyIrqWorkQueue
  split
  · have same := run (set.workList.map NvmeWork.irqId) set
    exact ⟨same.type, rfl, same.msix, same.handlers, same.mode⟩
  · rename_i gone
    exact ⟨rfl, by simpa using gone, rfl, rfl, rfl⟩

/-! ## Handlers -/

/-- Handlers that are freed in another order than they were registered in are
all gone. -/
theorem foldl_erase_of_perm {vectors handlers : List Nat}
    (same : handlers.Perm vectors) :
    vectors.foldl List.erase handlers = [] := by
  rw [← List.diff_eq_foldl, ← Multiset.coe_eq_zero, ← Multiset.coe_sub,
    Multiset.coe_eq_coe.mpr same, tsub_self]

/-- The handlers of the first vectors, the last one first. -/
def registeredFor (env : IrqEnv) (index count : Nat) : List Nat :=
  ((List.range' index count).map env.vector).reverse

theorem registeredFor_cons (env : IrqEnv) (index count : Nat)
    (handlers : List Nat) :
    registeredFor env index (count + 1) ++ handlers =
      registeredFor env (index + 1) count ++
        env.vector index :: handlers := by
  simp [registeredFor, List.range'_succ]

/-- The same with other handlers. -/
def withHandlers (set : NvmeIrqSet) (handlers : List Nat) : NvmeIrqSet :=
  { set with handlers := handlers }

/-- Each vector gets its handler up to the first request that fails. -/
theorem requestIrqs_result (env : IrqEnv) (count : Nat) :
    ∀ (index : Nat) (set : NvmeIrqSet), ∃ made ≤ count,
      (requestIrqs env count index set).2 =
        withHandlers set (registeredFor env index made ++ set.handlers) ∧
      (∀ i, index ≤ i → i < index + made → 0 ≤ env.request i) ∧
      (((requestIrqs env count index set).1 = 0 ∧ made = count) ∨
        ((requestIrqs env count index set).1 < 0 ∧ made < count ∧
          env.request (index + made) < 0)) := by
  induction count with
  | zero =>
      intro index set
      exact ⟨0, le_refl 0, rfl, fun i from_ below => by omega,
        Or.inl ⟨rfl, rfl⟩⟩
  | succ count ih =>
      intro index set
      rw [requestIrqs]
      split
      · rename_i fails
        exact ⟨0, Nat.zero_le _, rfl, fun i from_ below => by omega,
          Or.inr ⟨fails, Nat.succ_pos _, fails⟩⟩
      · rename_i succeeds
        obtain ⟨made, most, after, good, outcome⟩ := ih (index + 1)
          { set with handlers := env.vector index :: set.handlers }
        refine ⟨made + 1, by omega, ?_, fun i from_ below => ?_, ?_⟩
        · rw [after, registeredFor_cons]
          rfl
        · rcases Nat.eq_or_lt_of_le from_ with rfl | later
          · exact not_lt.mp succeeds
          · exact good i later (by omega)
        · rcases outcome with ⟨zero, all⟩ | ⟨negative, fewer, fails⟩
          · exact Or.inl ⟨zero, by omega⟩
          · refine Or.inr ⟨negative, by omega, ?_⟩
            rwa [Nat.add_assoc, Nat.add_comm 1] at fails

/-- The number of handlers to free is that of the requests that succeeded. -/
theorem requested_eq {env : IrqEnv} {count made : Nat}
    (fewer : made < count) (good : ∀ i < made, 0 ≤ env.request i)
    (fails : env.request made < 0) : requested env count = made := by
  have parted : List.range count =
      List.range made ++ made :: List.range' (made + 1) (count - made - 1) := by
    have joined := @List.range'_append_1 0 made (count - made - 1 + 1)
    rw [Nat.zero_add, show made + (count - made - 1 + 1) = count by omega]
      at joined
    rw [List.range_eq_range', List.range_eq_range', ← joined,
      List.range'_succ]
  have all : ∀ i ∈ List.range made,
      (decide (0 ≤ env.request i)) = true := by
    intro i member
    exact decide_eq_true (good i (List.mem_range.mp member))
  unfold requested
  rw [parted, List.takeWhile_append_of_pos all,
    List.takeWhile_cons_of_neg (by simpa using fails), List.append_nil,
    List.length_range]

/-- Freeing the handlers that were registered leaves none. -/
theorem freeIrqs_registeredFor {env : IrqEnv} {count : Nat}
    {set : NvmeIrqSet} (here : set.handlers = registeredFor env 0 count) :
    (freeIrqs env count set).handlers = [] := by
  unfold freeIrqs
  dsimp only
  rw [here, registeredFor, List.range_eq_range']
  exact foldl_erase_of_perm (List.reverse_perm _)

/-! ## Pairs -/

/-- All pairs are made exactly if each of them can be. -/
theorem createPairs_result (env : IrqEnv) (count : Nat) :
    ∀ {index : Nat} {set : NvmeIrqSet}, Pairs index set →
      set.irqList.map NvmeIrq.intVec = (List.range index).map env.vector →
      (¬ (∀ i, index ≤ i → i < index + count → PairMade env i) ∧
          (createPairs env count index set).1 < 0 ∧
          Pairs 0 (createPairs env count index set).2) ∨
        ((∀ i, index ≤ i → i < index + count → PairMade env i) ∧
          (createPairs env count index set).1 = 0 ∧
          Pairs (index + count) (createPairs env count index set).2 ∧
          (createPairs env count index set).2.irqList.map NvmeIrq.intVec =
            (List.range (index + count)).map env.vector) := by
  induction count with
  | zero =>
      intro index set pairs vecs
      exact Or.inr ⟨fun i from_ below => by omega, rfl, pairs, vecs⟩
  | succ count ih =>
      intro index set pairs vecs
      have makes : Makes env set (env.vector index) index ↔
          PairMade env index := by
        have fresh : env.vector index ∉ set.irqList.map NvmeIrq.intVec ↔
            ∀ j < index, env.vector j ≠ env.vector index := by
          simp [vecs]
        constructor
        · exact fun can => ⟨can.irq, can.work, fresh.mp can.vector, can.icq⟩
        · exact fun can => ⟨can.irq, fresh.mpr can.vector, can.work, can.icq⟩
      rw [createPairs]
      rcases pairs.createIrqWorkPair env (env.vector index) with
        ⟨never, fails, same⟩ | ⟨can, made, more, longer⟩
      · dsimp only
        rw [if_pos fails]
        refine Or.inl ⟨fun all => never (makes.mpr ?_), fails,
          same.destroyAll⟩
        exact all index (le_refl _) (by omega)
      · dsimp only
        rw [made, if_neg (by decide)]
        rw [vecs, ← List.map_singleton, ← List.map_append,
          ← List.range_succ] at longer
        have later : (∀ i, index ≤ i → i < index + (count + 1) →
              PairMade env i) ↔
            ∀ i, index + 1 ≤ i → i < index + 1 + count → PairMade env i := by
          constructor
          · exact fun all i from_ below => all i (by omega) (by omega)
          · intro all i from_ below
            rcases Nat.eq_or_lt_of_le from_ with rfl | next
            · exact makes.mp can
            · exact all i next (by omega)
        rw [later, show index + (count + 1) = index + 1 + count by omega]
        exact ih more longer

/-- From empty lists, a request fails, or all handlers are registered and then
the pairs are made or not. -/
theorem register_cases (env : IrqEnv) (count : Nat) {start : NvmeIrqSet}
    (nodes : Pairs 0 start) (unused : start.handlers = []) :
    (¬ Registers env count ∧ (requestIrqs env count 0 start).1 < 0 ∧
        requested env count < count ∧
        Pairs 0 (requestIrqs env count 0 start).2 ∧
        Framed (withHandlers start (registeredFor env 0 (requested env count)))
          (requestIrqs env count 0 start).2) ∨
      ((requestIrqs env count 0 start).1 = 0 ∧
        Framed (withHandlers start (registeredFor env 0 count))
          (createPairs env count 0 (requestIrqs env count 0 start).2).2 ∧
        ((¬ Registers env count ∧
            (createPairs env count 0
              (requestIrqs env count 0 start).2).1 < 0 ∧
            Pairs 0 (createPairs env count 0
              (requestIrqs env count 0 start).2).2) ∨
          (Registers env count ∧
            (createPairs env count 0
              (requestIrqs env count 0 start).2).1 = 0 ∧
            Pairs count (createPairs env count 0
              (requestIrqs env count 0 start).2).2 ∧
            (createPairs env count 0
              (requestIrqs env count 0 start).2).2.irqList.map
                NvmeIrq.intVec = (List.range count).map env.vector))) := by
  obtain ⟨made, most, after, good, outcome⟩ :=
    requestIrqs_result env count 0 start
  rw [unused, List.append_nil] at after
  have good' : ∀ i < made, 0 ≤ env.request i := fun i below =>
    good i (Nat.zero_le i) (by omega)
  have asked : Pairs 0 (requestIrqs env count 0 start).2 :=
    nodes.requestIrqs env count
  rcases outcome with ⟨zero, all⟩ | ⟨negative, fewer, fails⟩
  · subst all
    have framed := @Framed.createPairs env made 0
      (requestIrqs env made 0 start).2
    refine Or.inr ⟨zero, ?_, ?_⟩
    · rw [after] at framed ⊢
      exact framed
    have vecs : (requestIrqs env made 0 start).2.irqList.map NvmeIrq.intVec =
        (List.range 0).map env.vector := by
      rw [((pairs_zero_iff _).mp asked).1]
      rfl
    have registers : Registers env made ↔
        ∀ i, 0 ≤ i → i < 0 + made → PairMade env i := by
      constructor
      · exact fun all i _ below => (all i (by omega)).2
      · exact fun all i below => ⟨good' i below, all i (Nat.zero_le i)
          (by omega)⟩
    rw [registers]
    have result := createPairs_result env made asked vecs
    rwa [Nat.zero_add] at result ⊢
  · rw [Nat.zero_add] at fails
    have count_eq := requested_eq fewer good' fails
    rw [count_eq]
    refine Or.inl ⟨fun all => ?_, negative, fewer, asked, ?_⟩
    · exact absurd (all made fewer).1 (not_le.mpr fails)
    · rw [after]
      exact .refl _

/-! ## The four set-ups -/

/-- No scheme is set up. -/
structure Ready (set : NvmeIrqSet) : Prop where
  type : set.irqType = .none
  nodes : Pairs 0 set
  handlers : set.handlers = []
  mode : set.mode = .none

/-- How a set-up ends: with a handler for each node, or without any handler or
node and with the function in mode `left`. -/
structure Ends (start : NvmeIrqSet) (left : NvmeIrqType)
    (result : Int × NvmeIrqSet) : Prop where
  sign : result.1 ≤ 0
  type : result.2.irqType = start.irqType
  queue : result.2.wq = start.wq
  msix : result.2.msix = start.msix
  failed : result.1 < 0 →
    Pairs 0 result.2 ∧ result.2.handlers = [] ∧ result.2.mode = left
  done : result.1 = 0 →
    result.2.handlers.Perm (result.2.irqList.map NvmeIrq.intVec)

theorem Ends.of_failed {start next : NvmeIrqSet} {left : NvmeIrqType}
    {ret : Int} (negative : ret < 0) (type : next.irqType = start.irqType)
    (queue : next.wq = start.wq) (msix : next.msix = start.msix)
    (nodes : Pairs 0 next) (handlers : next.handlers = [])
    (mode : next.mode = left) : Ends start left (ret, next) :=
  ⟨Int.le_of_lt negative, type, queue, msix,
    fun _ => ⟨nodes, handlers, mode⟩,
    fun zero => absurd zero (Int.ne_of_lt negative)⟩

theorem Ends.of_done {start next : NvmeIrqSet} (left : NvmeIrqType)
    (type : next.irqType = start.irqType) (queue : next.wq = start.wq)
    (msix : next.msix = start.msix)
    (handlers : next.handlers.Perm (next.irqList.map NvmeIrq.intVec)) :
    Ends start left (0, next) :=
  ⟨le_refl 0, type, queue, msix,
    fun negative => absurd negative (Int.lt_irrefl 0), fun _ => handlers⟩

/-- Each node has the handler of its vector. -/
theorem registeredFor_perm {env : IrqEnv} {count : Nat} {set : NvmeIrqSet}
    (handlers : set.handlers = registeredFor env 0 count)
    (vecs : set.irqList.map NvmeIrq.intVec =
      (List.range count).map env.vector) :
    set.handlers.Perm (set.irqList.map NvmeIrq.intVec) := by
  rw [handlers, vecs, registeredFor, List.range_eq_range']
  exact List.reverse_perm _

section SetUps

variable {env : IrqEnv} {set : NvmeIrqSet}

theorem registeredFor_requested_one (fewer : requested env 1 < 1) :
    registeredFor env 0 (requested env 1) = [] := by
  rw [Nat.lt_one_iff.mp fewer]
  rfl

theorem setIntPin_ends (ready : Ready set) :
    Ends set .none (setIntPin env set) := by
  unfold setIntPin
  dsimp only
  rcases register_cases env 1 ready.nodes ready.handlers with
    ⟨_, negative, fewer, nodes, same⟩ | ⟨zero, same, rest⟩
  · rw [if_pos negative]
    exact .of_failed negative same.type same.queue same.msix nodes
      (same.handlers.trans (registeredFor_requested_one fewer))
      (same.mode.trans ready.mode)
  · rw [zero, if_neg (Int.lt_irrefl 0)]
    rcases rest with ⟨_, negative, nodes⟩ | ⟨_, made, _, vecs⟩
    · rw [if_pos negative]
      exact .of_failed negative same.type same.queue same.msix
        (nodes.of_lists rfl rfl) (freeIrqs_registeredFor same.handlers)
        (same.mode.trans ready.mode)
    · rw [made, if_neg (Int.lt_irrefl 0)]
      exact .of_done _ same.type same.queue same.msix
        (registeredFor_perm same.handlers vecs)

theorem setIntMsiSingle_ends (ready : Ready set) (granted : env.granted ≤ 0) :
    Ends set .none (setIntMsiSingle env set) := by
  unfold setIntMsiSingle
  dsimp only
  split
  · rename_i refused
    exact .of_failed (by omega) rfl rfl rfl (ready.nodes.of_lists rfl rfl)
      ready.handlers ready.mode
  have nodes : Pairs 0
      { set.writeIntMasks false with mode := .msiSingle } :=
    ready.nodes.of_lists rfl rfl
  rcases register_cases env 1 nodes ready.handlers with
    ⟨_, negative, fewer, left, same⟩ | ⟨zero, same, rest⟩
  · rw [if_pos negative]
    exact .of_failed negative same.type same.queue same.msix
      (left.of_lists rfl rfl)
      (same.handlers.trans (registeredFor_requested_one fewer)) rfl
  · rw [zero, if_neg (Int.lt_irrefl 0)]
    rcases rest with ⟨_, negative, left⟩ | ⟨_, made, _, vecs⟩
    · rw [if_pos negative]
      exact .of_failed negative same.type same.queue same.msix
        (left.of_lists rfl rfl) (freeIrqs_registeredFor same.handlers) rfl
    · rw [made, if_neg (Int.lt_irrefl 0)]
      exact .of_done _ same.type same.queue same.msix
        (registeredFor_perm same.handlers vecs)

/-- The vectors stay allocated when a later step fails. -/
theorem setIntMsiMulti_ends {count : Nat} (ready : Ready set)
    (granted : env.granted = count ∨ env.granted < 0) :
    Ends set (if env.granted = count then .msiMulti else .none)
        (setIntMsiMulti env count set) ∧
      (env.granted = count →
        ((setIntMsiMulti env count set).1 < 0 ↔ ¬ Registers env count)) := by
  unfold setIntMsiMulti
  dsimp only
  by_cases given : env.granted = count
  · rw [if_neg (not_not.mpr given), if_pos given]
    have nodes : Pairs 0
        { set.writeIntMasks false with mode := .msiMulti } :=
      ready.nodes.of_lists rfl rfl
    rcases register_cases env count nodes ready.handlers with
      ⟨fails, negative, _, left, same⟩ | ⟨zero, same, rest⟩
    · rw [if_pos negative]
      refine ⟨.of_failed negative same.type same.queue same.msix
        (left.of_lists rfl rfl) (freeIrqs_registeredFor same.handlers)
        same.mode, fun _ => iff_of_true negative fails⟩
    · rw [zero, if_neg (Int.lt_irrefl 0)]
      rcases rest with ⟨fails, negative, left⟩ | ⟨registers, made, _, vecs⟩
      · rw [if_pos negative]
        exact ⟨.of_failed negative same.type same.queue same.msix
          (left.of_lists rfl rfl) (freeIrqs_registeredFor same.handlers)
          same.mode, fun _ => iff_of_true negative fails⟩
      · rw [made, if_neg (Int.lt_irrefl 0)]
        exact ⟨.of_done _ same.type same.queue same.msix
          (registeredFor_perm same.handlers vecs),
          fun _ => iff_of_false (Int.lt_irrefl 0) (not_not.mpr registers)⟩
  · rw [if_pos given, if_neg given]
    refine ⟨.of_failed (granted.resolve_left given) rfl rfl rfl
      (ready.nodes.of_lists rfl rfl) ready.handlers ready.mode,
      fun same => absurd same given⟩

/-- The masks of the MSI-X table are no part of the nodes. -/
theorem irqList_maskEntries (entries : List Nat) (set : NvmeIrqSet) :
    (entries.foldl (fun set entry => set.writeMsixMask entry true)
      set).irqList = set.irqList := by
  induction entries generalizing set with
  | nil => rfl
  | cons entry entries ih => exact ih _

theorem setIntMsix_ends {count : Nat} (ready : Ready set) :
    Ends set .none (setIntMsix env count set) ∧
      ((setIntMsix env count set).1 = 0 → env.entriesAlloc = true ∧
        env.granted = count ∧ Registers env count) := by
  have memory : -Errno.ENOMEM < 0 := by decide
  have refused : -Errno.EPERM < 0 := by decide
  have pending : -Errno.EINVAL < 0 := by decide
  unfold setIntMsix
  dsimp only
  split
  · exact ⟨.of_failed memory rfl rfl rfl ready.nodes ready.handlers
      ready.mode, fun zero => absurd zero (Int.ne_of_lt memory)⟩
  rename_i entries
  split
  · exact ⟨.of_failed refused rfl rfl rfl ready.nodes ready.handlers
      ready.mode, fun zero => absurd zero (Int.ne_of_lt refused)⟩
  rename_i granted
  have nodes : Pairs 0 { set with mode := .msix } :=
    ready.nodes.of_lists rfl rfl
  rcases register_cases env count nodes ready.handlers with
    ⟨_, negative, _, left, same⟩ | ⟨zero, same, rest⟩
  · rw [if_pos negative]
    exact ⟨.of_failed negative same.type same.queue same.msix
      (left.of_lists rfl rfl) (freeIrqs_registeredFor same.handlers) rfl,
      fun zero => absurd zero (Int.ne_of_lt negative)⟩
  · rw [zero, if_neg (Int.lt_irrefl 0)]
    rcases rest with ⟨_, negative, left⟩ | ⟨registers, made, pairs, vecs⟩
    · rw [if_pos negative]
      exact ⟨.of_failed negative same.type same.queue same.msix
        (left.of_lists rfl rfl) (freeIrqs_registeredFor same.handlers) rfl,
        fun zero => absurd zero (Int.ne_of_lt negative)⟩
    · rw [made, if_neg (Int.lt_irrefl 0)]
      split
      · have removed := same.trans
          (Framed.destroyPairs (List.range count).reverse _)
        exact ⟨.of_failed pending removed.type removed.queue removed.msix
          (pairs.destroyAll.of_lists rfl rfl)
          (freeIrqs_registeredFor removed.handlers) rfl,
          fun zero => absurd zero (Int.ne_of_lt pending)⟩
      · have masked := same.trans (Framed.maskEntries (List.range count) _)
        refine ⟨.of_done _ masked.type masked.queue masked.msix ?_,
          fun _ => ⟨by simpa using entries, not_not.mp granted, registers⟩⟩
        refine registeredFor_perm masked.handlers ?_
        rw [irqList_maskEntries]
        exact vecs

/-- A null pointer is used exactly if everything before has worked. -/
theorem accessesNull_iff {count : Nat} (ready : Ready set) :
    accessesNull env count set = true ↔
      env.entriesAlloc = true ∧ env.granted = count ∧ Registers env count ∧
        (set.msix.pba = none ∨ (env.pbaSet = false ∧ set.msix.tb = none)) := by
  have nodes : Pairs 0 { set with mode := .msix } :=
    ready.nodes.of_lists rfl rfl
  unfold accessesNull
  dsimp only
  rcases register_cases env count nodes ready.handlers with
    ⟨fails, negative, _⟩ | ⟨zero, _, ⟨fails, negative, _⟩ | ⟨regs, made, _⟩⟩
  · simp [fails, not_le.mpr negative]
  · simp [fails, not_le.mpr negative]
  · simp [zero, made, regs, and_assoc]

end SetUps

/-! ## The invariant -/

/-- Each node has a handler, and without a scheme nothing is set up. -/
structure Listed (set : NvmeIrqSet) : Prop where
  none : set.irqType = .none → Ready set
  known : ∀ value, set.irqType ≠ .unknown value
  handlers : set.handlers.Perm (set.irqList.map NvmeIrq.intVec)

/-- The pointers are right once the table size is known, and that of the
pending bits is null if it cannot be right. -/
structure Pointed (cap : Option (Nat × (Nat × Nat) × (Nat × Nat)))
    (msix : NvmeMsix) : Prop where
  placed : Placed cap → msix.irqs ≠ 0 → Points cap msix
  unplaced : ¬ Placed cap → msix.pba = none

theorem Ready.listed {set : NvmeIrqSet} (ready : Ready set) : Listed set := by
  refine ⟨fun _ => ready, fun value => ?_, ?_⟩
  · rw [ready.type]
    exact nofun
  · rw [ready.handlers, ((pairs_zero_iff _).mp ready.nodes).1]
    exact List.Perm.refl _

/-- Only flags, masks and the queues of an interrupt differ. -/
structure SameVectors (set next : NvmeIrqSet) : Prop where
  framed : Framed set next
  vecs : next.irqList.map NvmeIrq.intVec = set.irqList.map NvmeIrq.intVec
  works : next.workList.map workPair = set.workList.map workPair

theorem SameVectors.refl (set : NvmeIrqSet) : SameVectors set set :=
  ⟨.refl set, rfl, rfl⟩

theorem SameVectors.trans {first second third : NvmeIrqSet}
    (one : SameVectors first second) (two : SameVectors second third) :
    SameVectors first third :=
  ⟨one.framed.trans two.framed, two.vecs.trans one.vecs,
    two.works.trans one.works⟩

theorem SameVectors.of_shape {set next : NvmeIrqSet}
    (framed : Framed set next) (shape : SameShape set next) :
    SameVectors set next := by
  have vecs := congrArg (List.map fun shape => shape.2.1) shape.irqs
  rw [List.map_map, List.map_map] at vecs
  exact ⟨framed, vecs, shape.works⟩

/-- Flags, masks and queues are no part of it. -/
theorem Listed.sameVectors {set next : NvmeIrqSet} (listed : Listed set)
    (same : SameVectors set next) : Listed next := by
  have framed := same.framed
  constructor
  · intro type
    have ready := listed.none (framed.type.symm.trans type)
    obtain ⟨irqs, works⟩ := (pairs_zero_iff set).mp ready.nodes
    have noIrqs := same.vecs
    have noWorks := same.works
    rw [irqs, List.map_nil, List.map_eq_nil_iff] at noIrqs
    rw [works, List.map_nil, List.map_eq_nil_iff] at noWorks
    exact ⟨type, (pairs_zero_iff next).mpr ⟨noIrqs, noWorks⟩,
      framed.handlers.trans ready.handlers, framed.mode.trans ready.mode⟩
  · intro value
    rw [framed.type]
    exact listed.known value
  · rw [framed.handlers, same.vecs]
    exact listed.handlers

/-- The tear-down leaves nothing of a scheme. -/
theorem Listed.dnvmeCleanInterrupt {set : NvmeIrqSet} (listed : Listed set) :
    Ready (dnvmeCleanInterrupt set) ∧
      (dnvmeCleanInterrupt set).wq = false ∧
      (dnvmeCleanInterrupt set).msix = set.msix := by
  unfold Driver.dnvmeCleanInterrupt
  dsimp only
  refine ⟨⟨rfl, (pairs_zero_iff _).mpr ⟨rfl, rfl⟩, ?_, ?_⟩,
    (destroyIrqWorkQueue_framed _).queue, (destroyIrqWorkQueue_framed _).msix⟩
  · exact (destroyIrqWorkQueue_framed _).handlers.trans
      (foldl_erase_of_perm listed.handlers)
  · refine (destroyIrqWorkQueue_framed _).mode.trans ?_
    cases type : set.irqType with
    | none => exact (listed.none type).mode
    | unknown value => exact absurd type (listed.known value)
    | _ => rfl

/-- The old scheme is gone, and there is a work queue exactly if there can
be. -/
theorem clearScheme_ready (env : IrqEnv) {set : NvmeIrqSet}
    (listed : Listed set) :
    Ready (clearScheme env set).2 ∧
      (clearScheme env set).2.msix = set.msix ∧
      ((clearScheme env set).1 < 0 → (clearScheme env set).2.wq = false) ∧
      ((clearScheme env set).1 < 0 ↔ ¬ HasQueue env set) := by
  have positive : ¬ (0 : Int) < 0 := Int.lt_irrefl 0
  unfold clearScheme HasQueue
  obtain ⟨cleanReady, cleanQueue, cleanMsix⟩ := listed.dnvmeCleanInterrupt
  by_cases type : set.irqType = .none
  · rw [if_neg (not_not.mpr type)]
    have ready := listed.none type
    unfold createIrqWorkQueue
    cases queue : set.wq with
    | true => simp [type, ready]
    | false =>
        cases alloc : env.wqAlloc with
        | true =>
            simp only [Bool.false_eq_true, if_false, if_true, positive]
            exact ⟨⟨type, ready.nodes.of_lists rfl rfl, ready.handlers,
              ready.mode⟩, trivial, fun never => never.elim, by simp⟩
        | false => simp [ready, queue]
  · rw [if_pos type]
    unfold createIrqWorkQueue
    rw [cleanQueue]
    cases alloc : env.wqAlloc with
    | true =>
        simp only [Bool.false_eq_true, if_false, if_true, positive]
        exact ⟨⟨cleanReady.type, cleanReady.nodes.of_lists rfl rfl,
          cleanReady.handlers, cleanReady.mode⟩, cleanMsix,
          fun never => never.elim, by simp⟩
    | false => simp [cleanReady, cleanQueue, cleanMsix, type]

/-! ## The check -/

/-- The check changes nothing but the pointers. -/
theorem checkInterrupt_msix (env : IrqEnv) (ccEnable : Bool)
    (set : NvmeIrqSet) (irq : NvmeInterrupt) :
    (checkInterrupt env ccEnable set irq).2 =
      { set with msix := (checkInterrupt env ccEnable set irq).2.msix } := by
  have pointers (cap : Nat × (Nat × Nat) × (Nat × Nat)) :
      (initMsixPtr set cap).2 =
        { set with msix := (initMsixPtr set cap).2.msix } := by
    obtain ⟨irqs, ⟨tbir, tableOffset⟩, pbir, pbaOffset⟩ := cap
    unfold initMsixPtr
    dsimp only
    split
    · rfl
    · split
      · rfl
      · split
        · rfl
        · rfl
  unfold checkInterrupt
  split
  · rfl
  · split
    · split
      · rfl
      · split
        · rfl
        · rfl
    · split
      · rfl
      · split
        · rfl
        · split
          · rfl
          · split
            · rfl
            · rfl
    · split
      · rfl
      · split
        · rfl
        · dsimp only
          split
          · exact pointers _
          · split
            · exact pointers _
            · exact pointers _
    · rfl
    · rfl
    · rfl

/-- `init_msix_ptr` keeps what it did right and what it did not do. -/
theorem initMsixPtr_pointed {set : NvmeIrqSet}
    {cap : Nat × (Nat × Nat) × (Nat × Nat)}
    (pointed : Pointed (some cap) set.msix) :
    Pointed (some cap) (initMsixPtr set cap).2.msix ∧
      (Placed (some cap) → 0 ≤ (initMsixPtr set cap).1 →
        Points (some cap) (initMsixPtr set cap).2.msix) := by
  obtain ⟨irqs, ⟨tbir, tableOffset⟩, pbir, pbaOffset⟩ := cap
  have rejected : ¬ (0 : Int) ≤ -Errno.EINVAL := by decide
  unfold initMsixPtr
  dsimp only
  split
  · rename_i known
    exact ⟨pointed, fun placed _ => pointed.placed placed known⟩
  split
  · rename_i other
    have unplaced : ¬ Placed (some (irqs, (tbir, tableOffset),
        (pbir, pbaOffset))) := by
      rintro ⟨_, _, _, same⟩
      cases same
      exact other rfl
    exact ⟨⟨fun placed => absurd placed unplaced, pointed.unplaced⟩,
      fun placed => absurd placed unplaced⟩
  rename_i table
  split
  · rename_i other
    have unplaced : ¬ Placed (some (irqs, (tbir, tableOffset),
        (pbir, pbaOffset))) := by
      rintro ⟨_, _, _, same⟩
      cases same
      exact other rfl
    exact ⟨⟨fun placed => absurd placed unplaced, pointed.unplaced⟩,
      fun placed => absurd placed unplaced⟩
  · rename_i pba
    rw [not_not.mp table, not_not.mp pba]
    have points : Points (some (irqs, (0, tableOffset), (0, pbaOffset)))
        ⟨irqs, some tableOffset, some pbaOffset⟩ :=
      ⟨irqs, tableOffset, pbaOffset, rfl, rfl, rfl⟩
    exact ⟨⟨fun _ _ => points, fun unplaced =>
      absurd ⟨irqs, tableOffset, pbaOffset, rfl⟩ unplaced⟩, fun _ _ => points⟩

/-- A check for MSI-X that succeeds leaves the right pointers where there are
such. -/
theorem checkInterrupt_pointed {env : IrqEnv} {set : NvmeIrqSet}
    (ccEnable : Bool) (irq : NvmeInterrupt)
    (pointed : Pointed env.msixCap set.msix) :
    Pointed env.msixCap (checkInterrupt env ccEnable set irq).2.msix ∧
      (irq.irqType = .msix → Placed env.msixCap →
        0 ≤ (checkInterrupt env ccEnable set irq).1 →
        Points env.msixCap (checkInterrupt env ccEnable set irq).2.msix) := by
  have rejected : ¬ (0 : Int) ≤ -Errno.EINVAL := by decide
  unfold checkInterrupt
  split
  · exact ⟨pointed, fun _ _ accepted => absurd accepted rejected⟩
  cases type : irq.irqType with
  | msix =>
      dsimp only
      split
      · exact ⟨pointed, fun _ _ accepted => absurd accepted rejected⟩
      split
      · exact ⟨pointed, fun _ _ accepted => absurd accepted rejected⟩
      rename_i cap known
      rw [known] at pointed ⊢
      obtain ⟨after, points⟩ := initMsixPtr_pointed pointed
      split
      · rename_i negative
        exact ⟨after, fun _ _ accepted =>
          absurd accepted (not_le.mpr negative)⟩
      rename_i nonnegative
      split
      · exact ⟨after, fun _ _ accepted => absurd accepted rejected⟩
      · exact ⟨after, fun _ placed _ => points placed
          (not_lt.mp nonnegative)⟩
  | msiSingle =>
      dsimp only
      refine ⟨?_, nofun⟩
      split
      · exact pointed
      · split
        · exact pointed
        · exact pointed
  | msiMulti =>
      dsimp only
      refine ⟨?_, nofun⟩
      split
      · exact pointed
      · split
        · exact pointed
        · split
          · exact pointed
          · split
            · exact pointed
            · exact pointed
  | pin => exact ⟨pointed, nofun⟩
  | none => exact ⟨pointed, nofun⟩
  | unknown value => exact ⟨pointed, nofun⟩

/-! ## A call -/

/-- The mode that a set-up leaves the function in when it fails. -/
def leftMode (env : IrqEnv) (irq : NvmeInterrupt) : NvmeIrqType :=
  if irq.irqType = .msiMulti ∧ env.granted = irq.numIrqs then .msiMulti
  else .none

theorem setScheme_ends {cap : Option (Nat × (Nat × Nat) × (Nat × Nat))}
    {env : IrqEnv} {irq : NvmeInterrupt} {set : NvmeIrqSet}
    (documented : Documented cap env irq) (ready : Ready set) :
    Ends set (leftMode env irq) (setScheme env irq set) := by
  unfold setScheme leftMode
  cases type : irq.irqType with
  | msiSingle =>
      exact setIntMsiSingle_ends ready (documented.single type)
  | msiMulti =>
      have ends := (setIntMsiMulti_ends ready
        (documented.several (Or.inl type))).1
      simpa using ends
  | msix => exact (setIntMsix_ends ready).1
  | pin => exact setIntPin_ends ready
  | none => exact .of_done _ rfl rfl rfl ready.listed.handlers
  | unknown value =>
      exact .of_failed (by decide) rfl rfl rfl ready.nodes ready.handlers
        ready.mode

theorem setScheme_multi_fails_iff {env : IrqEnv} {irq : NvmeInterrupt}
    {set : NvmeIrqSet} (ready : Ready set) (type : irq.irqType = .msiMulti)
    (granted : env.granted = irq.numIrqs) :
    (setScheme env irq set).1 < 0 ↔ ¬ Registers env irq.numIrqs := by
  unfold setScheme
  rw [type]
  exact (setIntMsiMulti_ends ready (Or.inl granted)).2 granted

theorem setScheme_msix_done {env : IrqEnv} {irq : NvmeInterrupt}
    {set : NvmeIrqSet} (ready : Ready set) (type : irq.irqType = .msix)
    (done : (setScheme env irq set).1 = 0) : env.entriesAlloc = true ∧
      env.granted = irq.numIrqs ∧ Registers env irq.numIrqs := by
  unfold setScheme at done
  rw [type] at done
  exact (setIntMsix_ends ready).2 done

section Calls

variable {cap : Option (Nat × (Nat × Nat) × (Nat × Nat))} {env : IrqEnv}
  {irq : NvmeInterrupt} {set : NvmeIrqSet} {ccEnable : Bool}

/-- How a call comes to its end. -/
inductive Ending (env : IrqEnv) (ccEnable : Bool) (set : NvmeIrqSet)
    (irq : NvmeInterrupt) : Outcome (Int × NvmeIrqSet) → Prop
  | rejected {ret : Int} {checked : NvmeIrqSet}
      (check : checkInterrupt env ccEnable set irq = (ret, checked))
      (negative : ret < 0) : Ending env ccEnable set irq (.ok (ret, checked))
  | noQueue {ret : Int} {ready : NvmeIrqSet}
      (check : 0 ≤ (checkInterrupt env ccEnable set irq).1)
      (clear : clearScheme env (checkInterrupt env ccEnable set irq).2 =
        (ret, ready))
      (negative : ret < 0) : Ending env ccEnable set irq (.ok (ret, ready))
  | faults {ready : NvmeIrqSet}
      (check : 0 ≤ (checkInterrupt env ccEnable set irq).1)
      (clear : (clearScheme env (checkInterrupt env ccEnable set irq).2).2 =
        ready)
      (queue :
        ¬ (clearScheme env (checkInterrupt env ccEnable set irq).2).1 < 0)
      (type : irq.irqType = .msix)
      (null : accessesNull env irq.numIrqs ready = true) :
      Ending env ccEnable set irq (.error .nullPointer)
  | failed {ret : Int} {ready done : NvmeIrqSet}
      (check : 0 ≤ (checkInterrupt env ccEnable set irq).1)
      (clear : (clearScheme env (checkInterrupt env ccEnable set irq).2).2 =
        ready)
      (queue :
        ¬ (clearScheme env (checkInterrupt env ccEnable set irq).2).1 < 0)
      (valid : irq.irqType = .msix →
        ¬ accessesNull env irq.numIrqs ready = true)
      (scheme : setScheme env irq ready = (ret, done))
      (negative : ret < 0) :
      Ending env ccEnable set irq (.ok (ret, destroyIrqWorkQueue done))
  | succeeded {ready done : NvmeIrqSet}
      (check : 0 ≤ (checkInterrupt env ccEnable set irq).1)
      (clear : (clearScheme env (checkInterrupt env ccEnable set irq).2).2 =
        ready)
      (queue :
        ¬ (clearScheme env (checkInterrupt env ccEnable set irq).2).1 < 0)
      (valid : irq.irqType = .msix →
        ¬ accessesNull env irq.numIrqs ready = true)
      (scheme : setScheme env irq ready = (0, done)) :
      Ending env ccEnable set irq
        (.ok (0, { done with irqType := irq.irqType, nrIrq := irq.numIrqs }))

theorem Listed.checkInterrupt (listed : Listed set) (env : IrqEnv)
    (ccEnable : Bool) (irq : NvmeInterrupt) :
    Listed (checkInterrupt env ccEnable set irq).2 := by
  rw [checkInterrupt_msix]
  refine ⟨fun type => ?_, listed.known, listed.handlers⟩
  have ready := listed.none type
  exact ⟨type, ready.nodes.of_lists rfl rfl, ready.handlers, ready.mode⟩

theorem setInterrupt_ending (listed : Listed set)
    (documented : Documented cap env irq) :
    Ending env ccEnable set irq (setInterrupt env ccEnable set irq) := by
  unfold setInterrupt
  dsimp only
  split
  · rename_i negative
    exact .rejected rfl negative
  rename_i check
  split
  · rename_i negative
    exact .noQueue (not_lt.mp check) rfl negative
  rename_i queue
  split
  · rename_i null
    exact .faults (not_lt.mp check) rfl queue null.1 null.2
  rename_i valid
  split
  · rename_i negative
    exact .failed (not_lt.mp check) rfl queue
      (fun type null => valid ⟨type, null⟩) rfl negative
  · rename_i nonnegative
    have ready := (clearScheme_ready env
      (listed.checkInterrupt env ccEnable irq)).1
    have zero := le_antisymm (setScheme_ends documented ready).sign
      (not_lt.mp nonnegative)
    refine .succeeded (not_lt.mp check) rfl queue
      (fun type null => valid ⟨type, null⟩) ?_
    exact Prod.ext zero rfl

/-- The work queue is needed as before the check. -/
theorem hasQueue_checked :
    HasQueue env (checkInterrupt env ccEnable set irq).2 ↔
      HasQueue env set := by
  rw [checkInterrupt_msix]
  exact Iff.rfl

/-- Where the pointers can be right, the check has made them so. -/
theorem ready_points {ready : NvmeIrqSet} (listed : Listed set)
    (pointed : Pointed env.msixCap set.msix) (type : irq.irqType = .msix)
    (check : 0 ≤ (checkInterrupt env ccEnable set irq).1)
    (clear : (clearScheme env (checkInterrupt env ccEnable set irq).2).2 =
      ready) (placed : Placed env.msixCap) : Points env.msixCap ready.msix := by
  rw [← clear,
    (clearScheme_ready env (listed.checkInterrupt env ccEnable irq)).2.1]
  exact (checkInterrupt_pointed ccEnable irq pointed).2 type placed check

/-- Where they cannot be, a call that gets to the pending bits reads a null
pointer. -/
theorem placed_of_valid {ready : NvmeIrqSet} (listed : Listed set)
    (pointed : Pointed env.msixCap set.msix)
    (clear : (clearScheme env (checkInterrupt env ccEnable set irq).2).2 =
      ready) (valid : ¬ accessesNull env irq.numIrqs ready = true)
    (entries : env.entriesAlloc = true)
    (granted : env.granted = irq.numIrqs)
    (registers : Registers env irq.numIrqs) : Placed env.msixCap := by
  by_contra unplaced
  obtain ⟨isReady, same, _⟩ :=
    clearScheme_ready env (listed.checkInterrupt env ccEnable irq)
  rw [clear] at isReady same
  refine valid ((accessesNull_iff isReady).mpr
    ⟨entries, granted, registers, Or.inl ?_⟩)
  rw [same]
  exact (checkInterrupt_pointed ccEnable irq pointed).1.unplaced unplaced

/-- A call is all or nothing exactly if it meets the condition. -/
theorem allOrNothing_iff (listed : Listed set)
    (pointed : Pointed env.msixCap set.msix)
    (documented : Documented cap env irq) :
    AllOrNothing env ccEnable set irq ↔ Meets env ccEnable set irq := by
  have ending := @setInterrupt_ending cap env irq set ccEnable listed
    documented
  obtain ⟨isReady, same, noQueue, hasQueue⟩ :=
    clearScheme_ready env (listed.checkInterrupt env ccEnable irq)
  rw [hasQueue_checked] at hasQueue
  unfold AllOrNothing
  generalize result : setInterrupt env ccEnable set irq = outcome at ending
  cases ending with
  | rejected check negative =>
      refine iff_of_true ⟨_, _, rfl, ?_, ?_⟩ ?_
      · intro accepted
        rw [check] at accepted
        exact absurd negative (not_lt.mpr accepted)
      · exact fun success => absurd negative (not_lt.mpr success)
      · intro accepted
        rw [check] at accepted
        exact absurd negative (not_lt.mpr accepted)
  | noQueue check clear negative =>
      rw [clear] at isReady noQueue hasQueue
      refine iff_of_true ⟨_, _, rfl, fun _ _ => ?_, ?_⟩ ?_
      · exact ⟨isReady.type, isReady.mode, isReady.handlers,
          noQueue negative⟩
      · exact fun success => absurd negative (not_lt.mpr success)
      · exact fun _ queue => absurd queue (hasQueue.mp negative)
  | faults check clear queue type null =>
      rw [clear] at isReady
      obtain ⟨entries, granted, registers, pointer⟩ :=
        (accessesNull_iff isReady).mp null
      refine iff_of_false ?_ fun meets => ?_
      · rintro ⟨_, _, returns, _⟩
        cases returns
      · have placed := (meets check (not_not.mp (mt hasQueue.mpr queue))
          granted).2 type entries registers
        obtain ⟨_, _, _, _, table, pba⟩ :=
          ready_points listed pointed type check clear placed
        rcases pointer with none_ | ⟨_, none_⟩
        · rw [none_] at pba
          cases pba
        · rw [none_] at table
          cases table
  | failed check clear queue valid scheme negative =>
      rename_i ret ready next
      rw [clear] at isReady
      have ends := setScheme_ends documented isReady
      rw [scheme] at ends
      obtain ⟨nodes, handlers, mode⟩ := ends.failed negative
      have framed := destroyIrqWorkQueue_framed next
      have left : NothingLeft (destroyIrqWorkQueue next) ↔
          leftMode env irq = .none := by
        constructor
        · exact fun nothing => (framed.mode.trans mode).symm.trans
            nothing.vectors
        · exact fun unleft => ⟨framed.type.trans
            (ends.type.trans isReady.type),
            framed.mode.trans (mode.trans unleft),
            framed.handlers.trans handlers, framed.queue⟩
      have meets : leftMode env irq = .none ↔
          Meets env ccEnable set irq := by
        unfold leftMode
        split
        · rename_i leak
          refine iff_of_false nofun fun meets => ?_
          have registers := (meets check
            (not_not.mp (mt hasQueue.mpr queue)) leak.2).1 leak.1
          have fails := setScheme_multi_fails_iff isReady leak.1 leak.2
          rw [scheme] at fails
          exact absurd registers (fails.mp negative)
        · rename_i unleft
          refine iff_of_true rfl fun _ _ granted => ⟨?_, ?_⟩
          · exact fun type => absurd ⟨type, granted⟩ unleft
          · exact fun type entries registers => placed_of_valid listed
              pointed clear (valid type) entries granted registers
      rw [← meets, ← left]
      constructor
      · rintro ⟨_, _, returns, nothing, _⟩
        cases returns
        exact nothing check negative
      · intro nothing
        exact ⟨_, _, rfl, fun _ _ => nothing,
          fun success => absurd negative (not_lt.mpr success)⟩
  | succeeded check clear queue valid scheme =>
      rename_i ready next
      rw [clear] at isReady same
      have ends := setScheme_ends documented isReady
      rw [scheme] at ends
      refine iff_of_true ⟨_, _, rfl, ?_, ?_⟩ ?_
      · exact fun _ negative => absurd negative (Int.lt_irrefl 0)
      · intro _ type
        change Points _ next.msix
        rw [ends.msix]
        obtain ⟨entries, granted, registers⟩ :=
          setScheme_msix_done isReady type (congrArg Prod.fst scheme)
        exact ready_points listed pointed type check clear
          (placed_of_valid listed pointed clear (valid type) entries granted
            registers)
      · intro _ _ granted
        constructor
        · intro type
          have fails := setScheme_multi_fails_iff isReady type granted
          rw [scheme] at fails
          exact not_not.mp (mt fails.mpr (Int.lt_irrefl 0))
        · exact fun type entries registers => placed_of_valid listed
            pointed clear (valid type) entries granted registers

/-- What a call leaves is in order again if it meets the condition. -/
theorem setInterrupt_keeps {ret : Int} {after : NvmeIrqSet}
    (listed : Listed set) (pointed : Pointed env.msixCap set.msix)
    (documented : Documented cap env irq)
    (meets : Meets env ccEnable set irq)
    (done : setInterrupt env ccEnable set irq = .ok (ret, after)) :
    Listed after ∧ Pointed env.msixCap after.msix := by
  have ending := @setInterrupt_ending cap env irq set ccEnable listed
    documented
  have checked := listed.checkInterrupt env ccEnable irq
  obtain ⟨isReady, same, _⟩ := clearScheme_ready env checked
  have kept := (checkInterrupt_pointed ccEnable irq pointed).1
  rw [done] at ending
  cases ending with
  | rejected check negative =>
      rw [check] at checked kept
      exact ⟨checked, kept⟩
  | noQueue check clear negative =>
      rw [clear] at isReady same
      exact ⟨isReady.listed, same ▸ kept⟩
  | failed check clear queue valid scheme negative =>
      rename_i ready next
      rw [clear] at isReady same
      have ends := setScheme_ends documented isReady
      rw [scheme] at ends
      obtain ⟨nodes, _⟩ := ends.failed negative
      have framed := destroyIrqWorkQueue_framed next
      obtain ⟨_, _, returns, nothing, _⟩ :=
        (allOrNothing_iff listed pointed documented).mpr meets
      rw [done] at returns
      cases returns
      have left := nothing check negative
      have cleared : Ready (destroyIrqWorkQueue next) :=
        ⟨left.type, nodes.zero_of_shape
          (SameShape.destroyIrqWorkQueue next), left.handlers, left.vectors⟩
      refine ⟨cleared.listed, ?_⟩
      · rw [framed.msix]
        change Pointed _ next.msix
        rw [ends.msix, same]
        exact kept
  | succeeded check clear queue valid scheme =>
      rename_i ready next
      rw [clear] at isReady same
      have ends := setScheme_ends documented isReady
      rw [scheme] at ends
      refine ⟨⟨fun type => ?_, fun value type => ?_, ends.done rfl⟩, ?_⟩
      · unfold setScheme at scheme
        rw [show irq.irqType = .none from type] at scheme
        cases scheme
        exact ⟨type, isReady.nodes.of_lists rfl rfl, isReady.handlers,
          isReady.mode⟩
      · unfold setScheme at scheme
        rw [show irq.irqType = .unknown value from type] at scheme
        cases scheme
      · change Pointed _ next.msix
        rw [ends.msix, same]
        exact kept

end Calls

/-! ## Runs of calls -/

/-- In every run of calls that meet the condition, the lists and the pointers
stay in order. -/
theorem Reached.inOrder {cap : Option (Nat × (Nat × Nat) × (Nat × Nat))}
    {set : NvmeIrqSet} (reached : Reached cap Meets set) :
    Listed set ∧ Pointed cap set.msix := by
  induction reached with
  | fresh qDepth capCqr cmbSqs cmbCqs =>
      have ready : Ready
          (NvmeDevice.fresh qDepth capCqr cmbSqs cmbCqs).irqSet :=
        ⟨rfl, (pairs_zero_iff _).mpr ⟨rfl, rfl⟩, rfl, rfl⟩
      exact ⟨ready.listed, fun _ known => absurd rfl known, fun _ => rfl⟩
  | call env ccEnable irq earlier documented met done ih =>
      have same := documented.cap
      subst same
      exact setInterrupt_keeps ih.1 ih.2 documented met done
  | @interrupt intVec set earlier ih =>
      have framed := Framed.dnvmeInterrupt set intVec
      exact ⟨ih.1.sameVectors
        (.of_shape framed (SameShape.dnvmeInterrupt set intVec)),
        framed.msix ▸ ih.2⟩
  | @bottomHalf irqId set earlier ih =>
      have framed := Framed.updateIrqFlag set irqId
      exact ⟨ih.1.sameVectors
        (.of_shape framed (SameShape.updateIrqFlag set irqId)),
        framed.msix ▸ ih.2⟩
  | clean earlier ih =>
      obtain ⟨ready, _, same⟩ := ih.1.dnvmeCleanInterrupt
      exact ⟨ready.listed, same ▸ ih.2⟩

/--
After any run of calls that meet the condition, the next call is all or
nothing exactly if it meets the condition too.
-/
theorem set_interrupt_all_or_nothing_iff
    {cap : Option (Nat × (Nat × Nat) × (Nat × Nat))} {set : NvmeIrqSet}
    {env : IrqEnv} {irq : NvmeInterrupt} (ccEnable : Bool)
    (reached : Reached cap Meets set)
    (documented : Documented cap env irq) :
    AllOrNothing env ccEnable set irq ↔ Meets env ccEnable set irq := by
  obtain ⟨listed, pointed⟩ := reached.inOrder
  rw [← documented.cap] at pointed
  exact allOrNothing_iff listed pointed documented

/-! ## Two calls that fail -/

/-- Everything works, except that the handlers from `busy` on are refused. -/
def refusesFrom (busy count : Nat)
    (cap : Option (Nat × (Nat × Nat) × (Nat × Nat))) : IrqEnv where
  vector i := 40 + i
  granted := count
  request i := if i < busy then 0 else -Errno.EBUSY
  irqAlloc _ := true
  workAlloc _ := true
  icqAlloc := true
  wqAlloc := true
  entriesAlloc := true
  pbaSet := false
  msiCap := true
  msiVectors := .ok 32
  msixCap := cap

theorem refusesFrom_documented (busy count : Nat)
    (cap : Option (Nat × (Nat × Nat) × (Nat × Nat))) (type : NvmeIrqType)
    (several : type ≠ .msiSingle) :
    Documented cap (refusesFrom busy count cap) ⟨type, count⟩ :=
  ⟨rfl, fun single => absurd single several, fun _ => Or.inl rfl⟩

/-- The irq set of a device that was just found. -/
def freshSet : NvmeIrqSet := (NvmeDevice.fresh 64 false false false).irqSet

/-- Two MSI vectors with their handlers. -/
theorem set_interrupt_two_vectors :
    AllOrNothing (refusesFrom 2 2 none) false freshSet ⟨.msiMulti, 2⟩ := by
  refine (set_interrupt_all_or_nothing_iff false
    (.fresh 64 false false false)
    (refusesFrom_documented 2 2 none .msiMulti (by decide))).mpr ?_
  intro _ _ _
  refine ⟨fun _ i below => ⟨?_, rfl, rfl, fun j before => ?_, fun _ => rfl⟩,
    nofun⟩
  · simp only [refusesFrom]
    rw [if_pos below]
  · simp only [refusesFrom]
    omega

/-- With the second handler refused the vectors stay allocated; and the second
request for MSI-X reads the pending bits through a null pointer when the table
is in another BAR. -/
theorem set_interrupt_leaves_residue :
    ¬ (∀ cap set env irq ccEnable,
        Reached cap (fun _ _ _ _ => True) set → Documented cap env irq →
        AllOrNothing env ccEnable set irq) ∧
    ∃ rejected,
      setInterrupt (refusesFrom 1 1 (some (8, (2, 0), (2, 2048)))) false
        freshSet ⟨.msix, 1⟩ = .ok (-Errno.EINVAL, rejected) ∧
      setInterrupt (refusesFrom 1 1 (some (8, (2, 0), (2, 2048)))) false
        rejected ⟨.msix, 1⟩ = .error .nullPointer := by
  constructor
  · intro always
    obtain ⟨ret, after, done, failed, _⟩ := always none freshSet
      (refusesFrom 1 2 none) ⟨.msiMulti, 2⟩ false
      (.fresh 64 false false false)
      (refusesFrom_documented 1 2 none .msiMulti (by decide))
    cases done
    have left := failed (by decide) (by decide)
    exact absurd left.vectors (by decide)
  · exact ⟨_, rfl, rfl⟩

end Dnvme.Driver.IrqSetup
