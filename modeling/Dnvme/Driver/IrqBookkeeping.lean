import Dnvme.Driver.Effect

/-!
# The interrupt bookkeeping

The irq list, the work list and the icq lists hang together with the
completion queues: both lists hold the same pairs of id and vector, and every
icq node names a completion queue of its interrupt.  This module states that
as one invariant and shows that every operation keeps it, also when an
allocation or a request fails in the middle of a set-up.

What the invariant is about is the shape of the lists.  Flags, counters and
masks are no part of the shape, so interrupts and their bottom halves never
matter here.
-/

namespace Dnvme.Driver.IrqBookkeeping

open Dnvme.Lib.Results
open Dnvme.Driver

/-! ## The invariant -/

/-- The id and the vector of an irq node. -/
def irqPair (irq : NvmeIrq) : Nat × Nat :=
  (irq.irqId, irq.intVec)

/-- The id and the vector of a work node. -/
def workPair (work : NvmeWork) : Nat × Nat :=
  (work.irqId, work.intVec)

/-- What holds between the operations. -/
structure Bookkeeping (ndev : NvmeDevice) : Prop where
  /-- No two irq nodes have one id. -/
  ids : (ndev.irqSet.irqList.map NvmeIrq.irqId).Nodup
  /-- No two irq nodes have one vector. -/
  vecs : (ndev.irqSet.irqList.map NvmeIrq.intVec).Nodup
  /-- Both lists hold the same pairs. -/
  pairs : ∀ pair, pair ∈ ndev.irqSet.irqList.map irqPair ↔
    pair ∈ ndev.irqSet.workList.map workPair
  /-- No interrupt lists a queue twice. -/
  once : ∀ irq ∈ ndev.irqSet.irqList, irq.icqList.Nodup
  /-- An icq node is the one of the admin queue, or names a queue of its
  interrupt. -/
  named : ∀ irq ∈ ndev.irqSet.irqList, ∀ cqId ∈ irq.icqList,
    (cqId = nvmeAqId ∧ irq.irqId = 0) ∨
      ∃ cq, ndev.findCq cqId = some cq ∧ cq.irqNo = irq.irqId
  /-- The first interrupt lists the admin queue, before all others. -/
  admin : ∀ irq ∈ ndev.irqSet.irqList, irq.irqId = 0 →
    irq.icqList.head? = some nvmeAqId
  /-- Without a scheme there are no nodes. -/
  none : ndev.irqSet.irqType = .none →
    ndev.irqSet.irqList = [] ∧ ndev.irqSet.workList = []

/-! ## Shapes -/

/-- What the invariant reads of an irq node. -/
def irqShape (irq : NvmeIrq) : Nat × Nat × List Nat :=
  (irq.irqId, irq.intVec, irq.icqList)

/-- Only flags, counters and masks differ. -/
structure SameShape (set next : NvmeIrqSet) : Prop where
  irqs : next.irqList.map irqShape = set.irqList.map irqShape
  works : next.workList.map workPair = set.workList.map workPair
  type : next.irqType = set.irqType

theorem SameShape.refl (set : NvmeIrqSet) : SameShape set set :=
  ⟨rfl, rfl, rfl⟩

theorem SameShape.trans {first second third : NvmeIrqSet}
    (one : SameShape first second) (two : SameShape second third) :
    SameShape first third :=
  ⟨two.irqs.trans one.irqs, two.works.trans one.works,
    two.type.trans one.type⟩

theorem map_updateFirst {α β : Type} (part : α → β) (found : α → Bool)
    (change : α → α) (keeps : ∀ node, part (change node) = part node)
    (nodes : List α) :
    (updateFirst found change nodes).map part = nodes.map part := by
  induction nodes with
  | nil => rfl
  | cons node nodes ih =>
      rw [updateFirst]
      split
      · rw [List.map_cons, List.map_cons, keeps]
      · rw [List.map_cons, List.map_cons, ih]

theorem SameShape.updateIrq (set : NvmeIrqSet) (irqId : Nat)
    (change : NvmeIrq → NvmeIrq)
    (keeps : ∀ irq, irqShape (change irq) = irqShape irq) :
    SameShape set (set.updateIrq irqId change) :=
  ⟨map_updateFirst irqShape _ change keeps _, rfl, rfl⟩

theorem SameShape.updateWork (set : NvmeIrqSet) (irqId : Nat)
    (change : NvmeWork → NvmeWork)
    (keeps : ∀ work, workPair (change work) = workPair work) :
    SameShape set (set.updateWork irqId change) :=
  ⟨rfl, map_updateFirst workPair _ change keeps _, rfl⟩

theorem SameShape.writeMask (set : NvmeIrqSet) (irqNo : Nat)
    (value : Bool) : SameShape set (set.writeMask irqNo value) := by
  unfold NvmeIrqSet.writeMask
  split <;> exact ⟨rfl, rfl, rfl⟩

theorem SameShape.updateIrqFlag (set : NvmeIrqSet) (irqId : Nat) :
    SameShape set (updateIrqFlag set irqId) := by
  unfold Driver.updateIrqFlag
  split
  · exact .refl set
  · split
    · refine (SameShape.updateWork set irqId _ fun _ => ?_).trans
        (SameShape.updateIrq _ irqId _ fun _ => ?_)
      · rfl
      · rfl
    · exact .refl set

theorem SameShape.dnvmeInterrupt (set : NvmeIrqSet) (intVec : Nat) :
    SameShape set (dnvmeInterrupt set intVec) := by
  unfold Driver.dnvmeInterrupt
  split
  · exact .refl set
  · exact (SameShape.writeMask set _ true).trans
      (SameShape.updateWork _ _ _ fun _ => rfl)

theorem SameShape.destroyIrqWorkQueue (set : NvmeIrqSet) :
    SameShape set (destroyIrqWorkQueue set) := by
  unfold Driver.destroyIrqWorkQueue
  split
  · have run (ids : List Nat) (start : NvmeIrqSet) :
        SameShape start (ids.foldl Driver.updateIrqFlag start) := by
      induction ids generalizing start with
      | nil => exact .refl start
      | cons id ids ih =>
          exact (SameShape.updateIrqFlag start id).trans (ih _)
    have same := run (set.workList.map NvmeWork.irqId) set
    exact ⟨same.irqs, same.works, same.type⟩
  · exact .refl set

/-- A list of shapes tells which nodes there are. -/
theorem mem_of_map_eq {α γ β : Type} {part : α → β} {view : γ → β}
    {nodes : List α} {others : List γ}
    (same : others.map view = nodes.map part) {node : γ}
    (member : node ∈ others) : ∃ old ∈ nodes, part old = view node := by
  have shape : view node ∈ nodes.map part := by
    rw [← same]
    exact List.mem_map_of_mem member
  exact List.mem_map.mp shape

/-! ## Queues that stay -/

/-- The shape of the lists is the same and every completion queue is still
there with its interrupt. -/
structure Kept (ndev next : NvmeDevice) : Prop where
  shape : SameShape ndev.irqSet next.irqSet
  queues : ∀ id cq, ndev.findCq id = some cq →
    ∃ later, next.findCq id = some later ∧ later.irqNo = cq.irqNo

theorem Kept.refl (ndev : NvmeDevice) : Kept ndev ndev :=
  ⟨.refl _, fun _ cq found => ⟨cq, found, rfl⟩⟩

theorem Kept.trans {first second third : NvmeDevice}
    (one : Kept first second) (two : Kept second third) :
    Kept first third := by
  refine ⟨one.shape.trans two.shape, fun id cq found => ?_⟩
  obtain ⟨between, there, same⟩ := one.queues id cq found
  obtain ⟨later, here, equal⟩ := two.queues id between there
  exact ⟨later, here, equal.trans same⟩

theorem Kept.of_eq {ndev next : NvmeDevice} (cqs : next.cqs = ndev.cqs)
    (irqSet : next.irqSet = ndev.irqSet) : Kept ndev next := by
  refine ⟨irqSet ▸ .refl _, fun id cq found => ⟨cq, ?_, rfl⟩⟩
  rw [NvmeDevice.findCq, cqs]
  exact found

theorem Kept.of_irqSet {ndev : NvmeDevice} {irqSet : NvmeIrqSet}
    (shape : SameShape ndev.irqSet irqSet) :
    Kept ndev { ndev with irqSet := irqSet } :=
  ⟨shape, fun _ cq found => ⟨cq, found, rfl⟩⟩

/-- A queue is changed and keeps its interrupt, or is new. -/
theorem Kept.setCq {ndev : NvmeDevice} {id : Nat} {changed : NvmeCq}
    (same : ∀ cq, ndev.findCq id = some cq → changed.irqNo = cq.irqNo) :
    Kept ndev (ndev.setCq id changed) := by
  refine ⟨.refl _, fun other cq found => ?_⟩
  by_cases self : other = id
  · subst self
    exact ⟨changed, NvmeDevice.findCq_setCq _ _ _, same cq found⟩
  · exact ⟨cq, by rwa [NvmeDevice.findCq_setCq_ne _ _ self], rfl⟩

theorem Bookkeeping.kept {ndev next : NvmeDevice}
    (books : Bookkeeping ndev) (kept : Kept ndev next) :
    Bookkeeping next := by
  have shapes := kept.shape.irqs
  have parts {β : Type} (part : Nat × Nat × List Nat → β) :
      next.irqSet.irqList.map (fun irq => part (irqShape irq)) =
        ndev.irqSet.irqList.map fun irq => part (irqShape irq) := by
    have mapped := congrArg (List.map part) shapes
    rwa [List.map_map, List.map_map] at mapped
  have ids := parts Prod.fst
  have vecs := parts fun shape => shape.2.1
  have pairs := parts fun shape => (shape.1, shape.2.1)
  refine {
    ids := ?_
    vecs := ?_
    pairs := ?_
    once := ?_
    named := ?_
    admin := ?_
    none := ?_ }
  · change (next.irqSet.irqList.map fun irq => (irqShape irq).1).Nodup
    rw [ids]
    exact books.ids
  · change (next.irqSet.irqList.map fun irq => (irqShape irq).2.1).Nodup
    rw [vecs]
    exact books.vecs
  · intro pair
    change pair ∈ next.irqSet.irqList.map
      (fun irq => ((irqShape irq).1, (irqShape irq).2.1)) ↔ _
    rw [pairs, kept.shape.works]
    exact books.pairs pair
  · intro irq member
    obtain ⟨old, here, same⟩ := mem_of_map_eq shapes member
    have icqs : old.icqList = irq.icqList := congrArg (fun s => s.2.2) same
    rw [← icqs]
    exact books.once old here
  · intro irq member cqId listed
    obtain ⟨old, here, same⟩ := mem_of_map_eq shapes member
    have icqs : old.icqList = irq.icqList := congrArg (fun s => s.2.2) same
    have id : old.irqId = irq.irqId := congrArg Prod.fst same
    rcases books.named old here cqId (icqs ▸ listed) with
      ⟨admin, zero⟩ | ⟨cq, found, irqNo⟩
    · exact Or.inl ⟨admin, id ▸ zero⟩
    · obtain ⟨later, there, equal⟩ := kept.queues cqId cq found
      exact Or.inr ⟨later, there, by rw [equal, irqNo, id]⟩
  · intro irq member zero
    obtain ⟨old, here, same⟩ := mem_of_map_eq shapes member
    have icqs : old.icqList = irq.icqList := congrArg (fun s => s.2.2) same
    have id : old.irqId = irq.irqId := congrArg Prod.fst same
    rw [← icqs]
    exact books.admin old here (id.trans zero)
  · intro type
    rw [kept.shape.type] at type
    obtain ⟨noIrqs, noWorks⟩ := books.none type
    have works := kept.shape.works
    rw [noIrqs, List.map_nil, List.map_eq_nil_iff] at shapes
    rw [noWorks, List.map_nil, List.map_eq_nil_iff] at works
    exact ⟨shapes, works⟩

/-- Without nodes there is nothing to keep. -/
theorem Bookkeeping.of_empty {ndev : NvmeDevice}
    (irqs : ndev.irqSet.irqList = []) (works : ndev.irqSet.workList = []) :
    Bookkeeping ndev := by
  refine ⟨?_, ?_, ?_, ?_, ?_, ?_, fun _ => ⟨irqs, works⟩⟩
  · simp [irqs]
  · simp [irqs]
  · simp [irqs, works]
  · simp [irqs]
  · simp [irqs]
  · simp [irqs]

/-! ## Setting up pairs -/

/-- The lists after `count` pairs were made: ids in order, one vector each,
and only the first interrupt has an icq node. -/
structure Pairs (count : Nat) (set : NvmeIrqSet) : Prop where
  ids : set.irqList.map NvmeIrq.irqId = List.range count
  vecs : (set.irqList.map NvmeIrq.intVec).Nodup
  works : set.workList.map workPair = set.irqList.map irqPair
  icqs : ∀ irq ∈ set.irqList,
    irq.icqList = if irq.irqId = 0 then [nvmeAqId] else []

theorem pairs_zero_iff (set : NvmeIrqSet) :
    Pairs 0 set ↔ set.irqList = [] ∧ set.workList = [] := by
  constructor
  · intro pairs
    have irqs : set.irqList = [] := by
      have ids := pairs.ids
      rwa [List.range_zero, List.map_eq_nil_iff] at ids
    have works := pairs.works
    rw [irqs, List.map_nil, List.map_eq_nil_iff] at works
    exact ⟨irqs, works⟩
  · rintro ⟨irqs, works⟩
    exact ⟨by simp [irqs], by simp [irqs], by simp [irqs, works],
      by simp [irqs]⟩

/-- Nodes do not come from flags. -/
theorem Pairs.zero_of_shape {set next : NvmeIrqSet} (pairs : Pairs 0 set)
    (shape : SameShape set next) : Pairs 0 next := by
  obtain ⟨irqs, works⟩ := (pairs_zero_iff set).mp pairs
  have noIrqs := shape.irqs
  have noWorks := shape.works
  rw [irqs, List.map_nil, List.map_eq_nil_iff] at noIrqs
  rw [works, List.map_nil, List.map_eq_nil_iff] at noWorks
  exact (pairs_zero_iff next).mpr ⟨noIrqs, noWorks⟩

theorem Pairs.of_lists {count : Nat} {set next : NvmeIrqSet}
    (pairs : Pairs count set) (irqs : next.irqList = set.irqList)
    (works : next.workList = set.workList) : Pairs count next := by
  refine ⟨?_, ?_, ?_, ?_⟩
  · rw [irqs]
    exact pairs.ids
  · rw [irqs]
    exact pairs.vecs
  · rw [irqs, works]
    exact pairs.works
  · rw [irqs]
    exact pairs.icqs

theorem Pairs.id_lt {count : Nat} {set : NvmeIrqSet}
    (pairs : Pairs count set) {irq : NvmeIrq} (member : irq ∈ set.irqList) :
    irq.irqId < count := by
  have id : irq.irqId ∈ set.irqList.map NvmeIrq.irqId :=
    List.mem_map_of_mem member
  rwa [pairs.ids, List.mem_range] at id

/-- Every work node has the pair of an irq node. -/
theorem Pairs.work_mem {count : Nat} {set : NvmeIrqSet}
    (pairs : Pairs count set) {work : NvmeWork}
    (member : work ∈ set.workList) :
    ∃ irq ∈ set.irqList, irqPair irq = workPair work :=
  mem_of_map_eq pairs.works member

theorem eraseP_last {α : Type} {found : α → Bool} {front : List α} {last : α}
    (others : ∀ node ∈ front, found node = false)
    (here : found last = true) :
    (front ++ [last]).eraseP found = front := by
  rw [List.eraseP_append_right _ (by simpa using others)]
  simp [here]

/-- An irq node is added in place, or none is. -/
theorem Pairs.createIrqNode {count : Nat} {set : NvmeIrqSet}
    (pairs : Pairs count set) (alloc : Bool) (intVec : Nat) :
    (¬ (alloc = true ∧ intVec ∉ set.irqList.map NvmeIrq.intVec) ∧
        (createIrqNode alloc set intVec count).1 < 0 ∧
        (createIrqNode alloc set intVec count).2 = set) ∨
      (alloc = true ∧ intVec ∉ set.irqList.map NvmeIrq.intVec ∧
        createIrqNode alloc set intVec count =
          (0, { set with irqList := set.irqList ++
            [⟨count, intVec, false, 0, []⟩] })) := by
  have fresh : set.findIrqNodeById count = none := by
    rw [NvmeIrqSet.findIrqNodeById, List.find?_eq_none]
    intro irq member
    have less := pairs.id_lt member
    simp only [decide_eq_true_eq]
    omega
  simp only [Driver.createIrqNode, fresh]
  cases vec : set.findIrqNodeByVec intVec with
  | some irq =>
      refine Or.inl ⟨fun made => made.2 ?_,
        show -Errno.EINVAL < 0 by decide, rfl⟩
      have same : irq.intVec = intVec := by
        simpa using List.find?_some vec
      exact List.mem_map.mpr ⟨irq, List.mem_of_find?_eq_some vec, same⟩
  | none =>
      cases alloc with
      | false =>
          exact Or.inl ⟨fun made => Bool.noConfusion made.1,
            show -Errno.ENOMEM < 0 by decide, rfl⟩
      | true =>
          refine Or.inr ⟨rfl, fun member => ?_, rfl⟩
          rw [NvmeIrqSet.findIrqNodeByVec, List.find?_eq_none] at vec
          obtain ⟨irq, here, same⟩ := List.mem_map.mp member
          exact vec irq here (by simpa using same)

/-- A work node is added in place, or none is. -/
theorem Pairs.createWorkNode {count intVec : Nat} {set : NvmeIrqSet}
    (pairs : Pairs count set)
    (newVec : intVec ∉ set.irqList.map NvmeIrq.intVec) (alloc : Bool)
    (irqs : List NvmeIrq) :
    (alloc = false ∧
        (createWorkNode alloc { set with irqList := irqs } intVec count).1 <
          0 ∧
        (createWorkNode alloc { set with irqList := irqs } intVec count).2 =
          { set with irqList := irqs }) ∨
      (alloc = true ∧
        createWorkNode alloc { set with irqList := irqs } intVec count =
          (0, { set with
            irqList := irqs
            workList := set.workList ++ [⟨count, intVec, false⟩] })) := by
  have freshId : set.workList.find? (fun work => work.irqId = count) =
      none := by
    rw [List.find?_eq_none]
    intro work member
    obtain ⟨irq, here, same⟩ := pairs.work_mem member
    have less := pairs.id_lt here
    have id : irq.irqId = work.irqId := congrArg Prod.fst same
    simp only [decide_eq_true_eq]
    omega
  have freshVec : set.workList.find? (fun work => work.intVec = intVec) =
      none := by
    rw [List.find?_eq_none]
    intro work member taken
    obtain ⟨irq, here, same⟩ := pairs.work_mem member
    have vec : irq.intVec = work.intVec := congrArg Prod.snd same
    refine newVec (List.mem_map.mpr ⟨irq, here, ?_⟩)
    rw [vec]
    simpa using taken
  simp only [Driver.createWorkNode, NvmeIrqSet.findWorkNodeById,
    NvmeIrqSet.findWorkNodeByVec, freshId, freshVec]
  cases alloc with
  | false => exact Or.inl ⟨rfl, show -Errno.ENOMEM < 0 by decide, rfl⟩
  | true => exact Or.inr ⟨rfl, rfl⟩

/-- The lists with one more pair. -/
theorem Pairs.snoc {count intVec : Nat} {set : NvmeIrqSet}
    (pairs : Pairs count set)
    (newVec : intVec ∉ set.irqList.map NvmeIrq.intVec) :
    Pairs (count + 1)
      { set with
        irqList := set.irqList ++
          [⟨count, intVec, false, 0,
            if count = 0 then [nvmeAqId] else []⟩]
        workList := set.workList ++ [⟨count, intVec, false⟩] } := by
  refine ⟨?_, ?_, ?_, ?_⟩
  · simp only [List.map_append, pairs.ids, List.map_cons, List.map_nil,
      List.range_succ]
  · simp only [List.map_append, List.map_cons, List.map_nil]
    exact List.nodup_append.mpr ⟨pairs.vecs, by simp, by
      intro vec member other single
      rw [List.mem_singleton.mp single]
      rintro rfl
      exact newVec member⟩
  · simp only [List.map_append, pairs.works]
    rfl
  · intro irq member
    rcases List.mem_append.mp member with old | new
    · exact pairs.icqs irq old
    · rw [List.mem_singleton.mp new]

/-- Nothing fails while a pair is made. -/
structure Makes (env : IrqEnv) (set : NvmeIrqSet) (intVec irqId : Nat) :
    Prop where
  irq : env.irqAlloc irqId = true
  vector : intVec ∉ set.irqList.map NvmeIrq.intVec
  work : env.workAlloc irqId = true
  icq : irqId = 0 → env.icqAlloc = true

/-- A pair is made completely, or the lists are as before. -/
theorem Pairs.createIrqWorkPair {count : Nat} {set : NvmeIrqSet}
    (pairs : Pairs count set) (env : IrqEnv) (intVec : Nat) :
    (¬ Makes env set intVec count ∧
        (createIrqWorkPair env set intVec count).1 < 0 ∧
        Pairs count (createIrqWorkPair env set intVec count).2) ∨
      (Makes env set intVec count ∧
        (createIrqWorkPair env set intVec count).1 = 0 ∧
        Pairs (count + 1) (createIrqWorkPair env set intVec count).2 ∧
        (createIrqWorkPair env set intVec count).2.irqList.map
          NvmeIrq.intVec = set.irqList.map NvmeIrq.intVec ++ [intVec]) := by
  have below : ∀ irq ∈ set.irqList, decide (irq.irqId = count) = false := by
    intro irq member
    have less := pairs.id_lt member
    simp only [decide_eq_false_iff_not]
    omega
  have belowWork : ∀ work ∈ set.workList,
      decide (work.irqId = count) = false := by
    intro work member
    obtain ⟨irq, here, same⟩ := pairs.work_mem member
    have less := pairs.id_lt here
    have id : irq.irqId = work.irqId := congrArg Prod.fst same
    simp only [decide_eq_false_iff_not]
    omega
  unfold Driver.createIrqWorkPair
  rcases pairs.createIrqNode (env.irqAlloc count) intVec with
    ⟨never, fails, same⟩ | ⟨alloc, newVec, made⟩
  · dsimp only
    rw [if_pos fails]
    exact Or.inl ⟨fun makes => never ⟨makes.irq, makes.vector⟩, fails,
      by rw [same]; exact pairs⟩
  · rw [made]
    dsimp only
    rw [if_neg (by decide)]
    rcases pairs.createWorkNode newVec (env.workAlloc count)
      (set.irqList ++ [⟨count, intVec, false, 0, []⟩]) with
      ⟨never, fails, same⟩ | ⟨workAlloc, works⟩
    · rw [if_pos fails, same]
      refine Or.inl ⟨fun makes => ?_, fails, pairs.of_lists ?_ rfl⟩
      · rw [makes.work] at never
        cases never
      · exact eraseP_last below (by simp)
    · rw [works]
      dsimp only
      rw [if_neg (by decide)]
      have more := pairs.snoc newVec
      split
      · rename_i first
        subst first
        obtain ⟨irqs, works⟩ := (pairs_zero_iff set).mp pairs
        simp only [if_true, irqs, works, List.nil_append] at more ⊢
        simp only [dnvmeCreateIcqNode, NvmeIrqSet.findIrqNodeById,
          List.find?_cons, decide_true, List.not_mem_nil, if_false]
        cases icqAlloc : env.icqAlloc with
        | false =>
            refine Or.inl ⟨fun makes => ?_, show -Errno.ENOMEM < 0 by decide,
              (pairs_zero_iff _).mpr ⟨?_, ?_⟩⟩
            · rw [makes.icq rfl] at icqAlloc
              cases icqAlloc
            · simp [deleteIrqNode, deleteWorkNode]
            · simp [deleteIrqNode, deleteWorkNode]
        | true =>
            refine Or.inr ⟨⟨alloc, newVec, workAlloc, fun _ => icqAlloc⟩, rfl,
              more.of_lists ?_ rfl, ?_⟩
            · simp [NvmeIrqSet.updateIrq, updateFirst, nvmeAqId]
            · simp [NvmeIrqSet.updateIrq, updateFirst]
      · rename_i later
        rw [if_neg later] at more
        exact Or.inr ⟨⟨alloc, newVec, workAlloc, fun zero =>
          absurd zero later⟩, rfl, more, List.map_append⟩

/-- The last pair is taken back. -/
theorem Pairs.destroyIrqWorkPair {count : Nat} {set : NvmeIrqSet}
    (pairs : Pairs (count + 1) set) :
    Pairs count (destroyIrqWorkPair set count) := by
  have ids := pairs.ids
  rw [List.range_succ] at ids
  obtain ⟨irqs, rest, split, front, back⟩ := List.map_eq_append_iff.mp ids
  obtain ⟨last, rfl, lastId⟩ := List.map_eq_singleton_iff.mp back
  have works := pairs.works
  rw [split, List.map_append] at works
  obtain ⟨nodes, tail, parted, first, final⟩ :=
    List.map_eq_append_iff.mp works
  obtain ⟨work, rfl, workId⟩ := List.map_eq_singleton_iff.mp final
  have below : ∀ irq ∈ irqs, irq.irqId < count := by
    intro irq member
    have id : irq.irqId ∈ irqs.map NvmeIrq.irqId :=
      List.mem_map_of_mem member
    rwa [front, List.mem_range] at id
  have irqList : (Driver.destroyIrqWorkPair set count).irqList = irqs := by
    change set.irqList.eraseP _ = _
    rw [split]
    refine eraseP_last (fun irq member => ?_) (by simpa using lastId)
    have less := below irq member
    simp only [decide_eq_false_iff_not]
    omega
  have workList :
      (Driver.destroyIrqWorkPair set count).workList = nodes := by
    change set.workList.eraseP _ = _
    rw [parted]
    refine eraseP_last (fun node member => ?_) ?_
    · obtain ⟨irq, here, same⟩ := mem_of_map_eq first member
      have less := below irq here
      have id : irq.irqId = node.irqId := congrArg Prod.fst same
      simp only [decide_eq_false_iff_not]
      omega
    · have id : work.irqId = last.irqId := congrArg Prod.fst workId
      simp only [decide_eq_true_eq]
      omega
  refine ⟨?_, ?_, ?_, ?_⟩
  · rw [irqList]
    exact front
  · have vecs := pairs.vecs
    rw [split, List.map_append] at vecs
    rw [irqList]
    exact (List.nodup_append.mp vecs).1
  · rw [irqList, workList]
    exact first
  · rw [irqList]
    intro irq member
    refine pairs.icqs irq ?_
    rw [split]
    exact List.mem_append_left _ member

theorem Pairs.destroyAll {count : Nat} {set : NvmeIrqSet}
    (pairs : Pairs count set) :
    Pairs 0
      ((List.range count).reverse.foldl Driver.destroyIrqWorkPair set) := by
  induction count generalizing set with
  | zero => exact pairs
  | succ count ih =>
      rw [List.range_succ, List.reverse_append, List.reverse_singleton,
        List.singleton_append, List.foldl_cons]
      exact ih pairs.destroyIrqWorkPair

/-- All pairs are made, or none is left. -/
theorem Pairs.createPairs (env : IrqEnv) (count : Nat) {index : Nat}
    {set : NvmeIrqSet} (pairs : Pairs index set) :
    ((createPairs env count index set).1 < 0 ∧
        Pairs 0 (createPairs env count index set).2) ∨
      ((createPairs env count index set).1 = 0 ∧
        Pairs (index + count) (createPairs env count index set).2) := by
  induction count generalizing index set with
  | zero => exact Or.inr ⟨rfl, pairs⟩
  | succ count ih =>
      rw [Driver.createPairs]
      rcases pairs.createIrqWorkPair env (env.vector index) with
        ⟨_, fails, same⟩ | ⟨_, made, more, _⟩
      · dsimp only
        rw [if_pos fails]
        exact Or.inl ⟨fails, same.destroyAll⟩
      · dsimp only
        rw [made, if_neg (by decide)]
        have rest := ih more
        rwa [Nat.add_assoc, Nat.add_comm 1] at rest

/-! ## Setting up a scheme -/

theorem Pairs.requestIrqs {made : Nat} (env : IrqEnv) (count : Nat)
    {index : Nat} {set : NvmeIrqSet} (pairs : Pairs made set) :
    Pairs made (requestIrqs env count index set).2 := by
  induction count generalizing index set with
  | zero => exact pairs
  | succ count ih =>
      rw [Driver.requestIrqs]
      split
      · exact pairs
      · exact ih (pairs.of_lists rfl rfl)

theorem Pairs.maskEntries {made : Nat} (entries : List Nat)
    {set : NvmeIrqSet} (pairs : Pairs made set) :
    Pairs made (entries.foldl
      (fun set entry => set.writeMsixMask entry true) set) := by
  induction entries generalizing set with
  | nil => exact pairs
  | cons entry entries ih => exact ih (pairs.of_lists rfl rfl)

/-- What a set-up from empty lists leaves: all its pairs, and none when it
fails. -/
structure SetUp (result : Int × NvmeIrqSet) : Prop where
  pairs : ∃ count, Pairs count result.2
  failed : result.1 < 0 → Pairs 0 result.2

theorem SetUp.of_zero {ret : Int} {set : NvmeIrqSet} (pairs : Pairs 0 set) :
    SetUp (ret, set) :=
  ⟨⟨0, pairs⟩, fun _ => pairs⟩

theorem SetUp.of_pairs {count : Nat} {set : NvmeIrqSet}
    (pairs : Pairs count set) : SetUp (0, set) :=
  ⟨⟨count, pairs⟩, fun negative => absurd negative (Int.lt_irrefl 0)⟩

theorem setIntPin_setUp (env : IrqEnv) {set : NvmeIrqSet}
    (empty : Pairs 0 set) : SetUp (setIntPin env set) := by
  have registered : Pairs 0 (requestIrqs env 1 0 set).2 :=
    empty.requestIrqs env 1
  unfold setIntPin
  dsimp only
  split
  · exact SetUp.of_zero registered
  · rcases registered.createPairs env 1 with ⟨fails, left⟩ | ⟨made, pairs⟩
    · rw [if_pos fails]
      exact SetUp.of_zero (left.of_lists rfl rfl)
    · rw [made, if_neg (by decide)]
      exact SetUp.of_pairs (pairs.of_lists rfl rfl)

theorem setIntMsiSingle_setUp (env : IrqEnv) {set : NvmeIrqSet}
    (empty : Pairs 0 set) : SetUp (setIntMsiSingle env set) := by
  unfold setIntMsiSingle
  dsimp only
  split
  · exact SetUp.of_zero (empty.of_lists rfl rfl)
  · have registered : Pairs 0 (requestIrqs env 1 0
        { set.writeIntMasks false with mode := .msiSingle }).2 :=
      Pairs.requestIrqs env 1 (empty.of_lists rfl rfl)
    split
    · exact SetUp.of_zero (registered.of_lists rfl rfl)
    · rcases registered.createPairs env 1 with ⟨fails, left⟩ | ⟨made, pairs⟩
      · rw [if_pos fails]
        exact SetUp.of_zero (left.of_lists rfl rfl)
      · rw [made, if_neg (by decide)]
        exact SetUp.of_pairs pairs

theorem setIntMsiMulti_setUp (env : IrqEnv) (numIrqs : Nat)
    {set : NvmeIrqSet} (empty : Pairs 0 set) :
    SetUp (setIntMsiMulti env numIrqs set) := by
  unfold setIntMsiMulti
  dsimp only
  split
  · exact SetUp.of_zero (empty.of_lists rfl rfl)
  · have registered : Pairs 0 (requestIrqs env numIrqs 0
        { set.writeIntMasks false with mode := .msiMulti }).2 :=
      Pairs.requestIrqs env numIrqs (empty.of_lists rfl rfl)
    split
    · exact SetUp.of_zero (registered.of_lists rfl rfl)
    · rcases registered.createPairs env numIrqs with
        ⟨fails, left⟩ | ⟨made, pairs⟩
      · rw [if_pos fails]
        exact SetUp.of_zero (left.of_lists rfl rfl)
      · rw [made, if_neg (by decide)]
        exact SetUp.of_pairs pairs

theorem setIntMsix_setUp (env : IrqEnv) (numIrqs : Nat)
    {set : NvmeIrqSet} (empty : Pairs 0 set) :
    SetUp (setIntMsix env numIrqs set) := by
  unfold setIntMsix
  dsimp only
  split
  · exact SetUp.of_zero empty
  · split
    · exact SetUp.of_zero empty
    · have registered : Pairs 0 (requestIrqs env numIrqs 0
          { set with mode := .msix }).2 :=
        Pairs.requestIrqs env numIrqs (empty.of_lists rfl rfl)
      split
      · exact SetUp.of_zero (registered.of_lists rfl rfl)
      · rcases registered.createPairs env numIrqs with
          ⟨fails, left⟩ | ⟨made, pairs⟩
        · rw [if_pos fails]
          exact SetUp.of_zero (left.of_lists rfl rfl)
        · rw [made, if_neg (by decide)]
          rw [Nat.zero_add] at pairs
          split
          · exact SetUp.of_zero (pairs.destroyAll.of_lists rfl rfl)
          · exact SetUp.of_pairs (pairs.maskEntries _)

theorem SameShape.initMsixPtr (set : NvmeIrqSet)
    (cap : Nat × (Nat × Nat) × (Nat × Nat)) :
    SameShape set (initMsixPtr set cap).2 := by
  obtain ⟨irqs, ⟨tbir, tableOffset⟩, pbir, pbaOffset⟩ := cap
  unfold Driver.initMsixPtr
  dsimp only
  split
  · exact .refl set
  · split
    · exact ⟨rfl, rfl, rfl⟩
    · split
      · exact ⟨rfl, rfl, rfl⟩
      · exact ⟨rfl, rfl, rfl⟩

theorem SameShape.checkInterrupt (env : IrqEnv) (ccEnable : Bool)
    (set : NvmeIrqSet) (irq : NvmeInterrupt) :
    SameShape set (checkInterrupt env ccEnable set irq).2 := by
  unfold Driver.checkInterrupt
  split
  · exact .refl set
  · split
    · split
      · exact .refl set
      · split
        · exact .refl set
        · exact .refl set
    · split
      · exact .refl set
      · split
        · exact .refl set
        · split
          · exact .refl set
          · split
            · exact .refl set
            · exact .refl set
    · split
      · exact .refl set
      · split
        · exact .refl set
        · dsimp only
          split
          · exact SameShape.initMsixPtr set _
          · split
            · exact SameShape.initMsixPtr set _
            · exact SameShape.initMsixPtr set _
    · exact .refl set
    · exact .refl set
    · exact .refl set

theorem Pairs.dnvmeCleanInterrupt (set : NvmeIrqSet) :
    Pairs 0 (dnvmeCleanInterrupt set) :=
  (pairs_zero_iff _).mpr ⟨rfl, rfl⟩

/-- Pairs that were set up are kept in the books. -/
theorem Bookkeeping.of_pairs {ndev : NvmeDevice} {count : Nat}
    (pairs : Pairs count ndev.irqSet)
    (none : ndev.irqSet.irqType = .none → Pairs 0 ndev.irqSet) :
    Bookkeeping ndev where
  ids := by
    rw [pairs.ids]
    exact List.nodup_range
  vecs := pairs.vecs
  pairs pair := by rw [pairs.works]
  once irq member := by
    rw [pairs.icqs irq member]
    split
    · exact List.nodup_singleton _
    · exact List.nodup_nil
  named irq member cqId listed := by
    rw [pairs.icqs irq member] at listed
    split at listed
    · rename_i zero
      exact Or.inl ⟨List.mem_singleton.mp listed, zero⟩
    · cases listed
  admin irq member zero := by
    rw [pairs.icqs irq member, if_pos zero]
    rfl
  none type := (pairs_zero_iff _).mp (none type)

/-- The end of a set-up. -/
theorem SetUp.books {ndev : NvmeDevice} {result : Int × NvmeIrqSet}
    (setUp : SetUp result) {type : NvmeIrqType} (nrIrq : Nat)
    (none : type = .none → Pairs 0 result.2) :
    Bookkeeping { ndev with
      irqSet :=
        (if result.1 < 0 then (result.1, destroyIrqWorkQueue result.2)
          else (0, { result.2 with irqType := type, nrIrq := nrIrq })).2 } := by
  split
  · rename_i fails
    have left := (setUp.failed fails).zero_of_shape
      (SameShape.destroyIrqWorkQueue result.2)
    obtain ⟨noIrqs, noWorks⟩ := (pairs_zero_iff _).mp left
    exact Bookkeeping.of_empty noIrqs noWorks
  · obtain ⟨count, pairs⟩ := setUp.pairs
    exact Bookkeeping.of_pairs (pairs.of_lists rfl rfl)
      fun unset => (none unset).of_lists rfl rfl

theorem Bookkeeping.dnvmeSetInterrupt {ndev : NvmeDevice}
    (books : Bookkeeping ndev) (env : IrqEnv) (ccEnable : Bool)
    (irq : NvmeInterrupt) :
    Bookkeeping { ndev with
      irqSet := (dnvmeSetInterrupt env ccEnable ndev.irqSet irq).2 } := by
  have shape := SameShape.checkInterrupt env ccEnable ndev.irqSet irq
  have checked := books.kept (Kept.of_irqSet shape)
  unfold Driver.dnvmeSetInterrupt
  dsimp only
  split
  · exact checked
  · generalize (checkInterrupt env ccEnable ndev.irqSet irq).2 = set
      at checked
    have cleaned : Pairs 0
        (if set.irqType ≠ .none then Driver.dnvmeCleanInterrupt set
          else set) := by
      split
      · exact Pairs.dnvmeCleanInterrupt set
      · rename_i type
        exact (pairs_zero_iff set).mpr (checked.none (not_not.mp type))
    generalize (if set.irqType ≠ .none then Driver.dnvmeCleanInterrupt set
      else set) = clean at cleaned ⊢
    have ready : Pairs 0 (createIrqWorkQueue env.wqAlloc clean).2 := by
      unfold createIrqWorkQueue
      split
      · exact cleaned
      · split
        · exact cleaned.of_lists rfl rfl
        · exact cleaned
    split
    · exact Bookkeeping.of_pairs ready fun _ => ready
    · generalize (createIrqWorkQueue env.wqAlloc clean).2 = start at ready ⊢
      cases type : irq.irqType with
      | msiSingle =>
          exact (setIntMsiSingle_setUp env ready).books _ nofun
      | msiMulti =>
          exact (setIntMsiMulti_setUp env _ ready).books _ nofun
      | msix => exact (setIntMsix_setUp env _ ready).books _ nofun
      | pin => exact (setIntPin_setUp env ready).books _ nofun
      | none => exact (SetUp.of_zero ready).books _ fun _ => ready
      | unknown value => exact (SetUp.of_zero ready).books _ nofun

/-! ## Queues that come and go -/

/-- Where keys are not repeated, the first node of a key is the only one. -/
theorem mem_updateFirst {α : Type} {key : α → Nat} {wanted : Nat}
    {change : α → α} {nodes : List α} (unique : (nodes.map key).Nodup)
    {node : α}
    (member : node ∈ updateFirst (fun old => key old = wanted) change
      nodes) :
    ∃ old ∈ nodes, node = if key old = wanted then change old else old := by
  induction nodes with
  | nil => cases member
  | cons first nodes ih =>
      rw [List.map_cons, List.nodup_cons] at unique
      rw [updateFirst] at member
      split at member
      · rename_i found
        have here : key first = wanted := by simpa using found
        rcases List.mem_cons.mp member with rfl | later
        · exact ⟨first, List.mem_cons_self, (if_pos here).symm⟩
        · refine ⟨node, List.mem_cons_of_mem _ later, (if_neg ?_).symm⟩
          intro again
          refine unique.1 (List.mem_map.mpr ⟨node, later, ?_⟩)
          rw [here, again]
      · rename_i different
        rcases List.mem_cons.mp member with rfl | later
        · exact ⟨node, List.mem_cons_self,
            (if_neg (by simpa using different)).symm⟩
        · obtain ⟨old, there, same⟩ := ih unique.2 later
          exact ⟨old, List.mem_cons_of_mem _ there, same⟩

/-- One interrupt lists other queues than before. -/
theorem Bookkeeping.updateIcqs {ndev next : NvmeDevice}
    (books : Bookkeeping ndev) (irqId : Nat) (change : List Nat → List Nat)
    (changed : next.irqSet = ndev.irqSet.updateIrq irqId fun irq =>
      { irq with icqList := change irq.icqList })
    (once : ∀ irq ∈ ndev.irqSet.irqList, irq.irqId = irqId →
      (change irq.icqList).Nodup)
    (named : ∀ irq ∈ ndev.irqSet.irqList,
      ∀ cqId ∈ if irq.irqId = irqId then change irq.icqList
        else irq.icqList,
      (cqId = nvmeAqId ∧ irq.irqId = 0) ∨
        ∃ cq, next.findCq cqId = some cq ∧ cq.irqNo = irq.irqId)
    (first : ∀ icqs : List Nat, icqs.head? = some nvmeAqId →
      (change icqs).head? = some nvmeAqId) : Bookkeeping next := by
  have irqList : next.irqSet.irqList =
      updateFirst (fun irq => irq.irqId = irqId)
        (fun irq => { irq with icqList := change irq.icqList })
        ndev.irqSet.irqList := by rw [changed]; rfl
  have workList : next.irqSet.workList = ndev.irqSet.workList := by
    rw [changed]; rfl
  have parts {β : Type} (part : NvmeIrq → β)
      (keeps : ∀ irq, part { irq with icqList := change irq.icqList } =
        part irq) :
      next.irqSet.irqList.map part = ndev.irqSet.irqList.map part := by
    rw [irqList]
    exact map_updateFirst part _ _ keeps _
  have cases {irq : NvmeIrq} (member : irq ∈ next.irqSet.irqList) :
      ∃ old ∈ ndev.irqSet.irqList, irq.irqId = old.irqId ∧
        irq.icqList = if old.irqId = irqId then change old.icqList
          else old.icqList := by
    rw [irqList] at member
    obtain ⟨old, there, same⟩ := mem_updateFirst books.ids member
    refine ⟨old, there, ?_⟩
    rw [same]
    split
    · exact ⟨rfl, rfl⟩
    · exact ⟨rfl, rfl⟩
  refine {
    ids := ?_
    vecs := ?_
    pairs := ?_
    once := ?_
    named := ?_
    admin := ?_
    none := ?_ }
  · rw [parts NvmeIrq.irqId fun _ => rfl]
    exact books.ids
  · rw [parts NvmeIrq.intVec fun _ => rfl]
    exact books.vecs
  · intro pair
    rw [parts irqPair fun _ => rfl, workList]
    exact books.pairs pair
  · intro irq member
    obtain ⟨old, there, _, icqs⟩ := cases member
    rw [icqs]
    split
    · rename_i here
      exact once old there here
    · exact books.once old there
  · intro irq member cqId listed
    obtain ⟨old, there, id, icqs⟩ := cases member
    rw [icqs] at listed
    rw [id]
    exact named old there cqId listed
  · intro irq member zero
    obtain ⟨old, there, id, icqs⟩ := cases member
    have listed := books.admin old there (id.symm.trans zero)
    rw [icqs]
    split
    · exact first _ listed
    · exact listed
  · intro type
    have before : ndev.irqSet.irqType = .none := by
      rw [← type, changed]
      rfl
    obtain ⟨noIrqs, noWorks⟩ := books.none before
    rw [irqList, workList, noIrqs]
    exact ⟨rfl, noWorks⟩

theorem head?_erase_of_ne {icqs : List Nat} {first cqId : Nat}
    (different : cqId ≠ first) (head : icqs.head? = some first) :
    (icqs.erase cqId).head? = some first := by
  cases icqs with
  | nil => cases head
  | cons icq icqs =>
      cases head
      rw [List.erase_cons_tail (by simpa using Ne.symm different)]
      rfl

/-- A queue goes and its icq node with it. -/
theorem Bookkeeping.dnvmeDeleteCq {ndev : NvmeDevice}
    (books : Bookkeeping ndev) (keyed : Keyed ndev) {cqId : Nat}
    (target : cqId ≠ nvmeAqId) : Bookkeeping (dnvmeDeleteCq ndev cqId) := by
  cases found : ndev.findCq cqId with
  | none =>
      unfold Driver.dnvmeDeleteCq
      rw [found]
      exact books
  | some cq =>
      have set : (Driver.dnvmeDeleteCq ndev cqId).irqSet =
          dnvmeDeleteIcqNode ndev.irqSet cqId cq.irqNo := by
        unfold Driver.dnvmeDeleteCq
        rw [found]
        exact dnvmeReleaseCq_irqSet _ _
      refine books.updateIcqs cq.irqNo (fun icqs => icqs.erase cqId) set
        (fun irq member _ => (books.once irq member).erase cqId) ?_
        (fun _ => head?_erase_of_ne target)
      intro irq member other listed
      have old : other ∈ irq.icqList := by
        split at listed
        · exact List.mem_of_mem_erase listed
        · exact listed
      have different : other ≠ cqId := by
        rintro rfl
        rcases books.named irq member other old with
          ⟨admin, _⟩ | ⟨queue, here, irqNo⟩
        · exact target admin
        · rw [found] at here
          cases here
          rw [if_pos irqNo.symm] at listed
          exact (books.once irq member).not_mem_erase listed
      rcases books.named irq member other old with
        admin | ⟨queue, here, irqNo⟩
      · exact Or.inl admin
      · refine Or.inr ⟨queue, ?_, irqNo⟩
        rw [findCq_dnvmeDeleteCq keyed, if_neg different]
        exact here

/-- A new queue, not linked to an interrupt. -/
theorem Kept.newCq {ndev : NvmeDevice} {id : Nat} (cq : NvmeCq)
    (absent : ndev.findCq id = none) : Kept ndev (ndev.setCq id cq) := by
  refine Kept.setCq fun old found => ?_
  rw [absent] at found
  cases found

theorem Kept.of_added {ndev next : NvmeDevice} (added : CqAdded ndev next) :
    Kept ndev next := by
  rcases added with rfl | ⟨prep, dma, absent, _, rfl⟩
  · exact Kept.refl _
  · exact Kept.newCq _ absent

/-- What linking a queue to an interrupt can do. -/
theorem dnvmeCreateIcqNode_cases (alloc : Bool) (set : NvmeIrqSet)
    (cqId irqNo : Nat) :
    ((dnvmeCreateIcqNode alloc set cqId irqNo).1 < 0 ∧
        (dnvmeCreateIcqNode alloc set cqId irqNo).2 = set) ∨
      (∃ irq, set.findIrqNodeById irqNo = some irq ∧ cqId ∈ irq.icqList ∧
        dnvmeCreateIcqNode alloc set cqId irqNo = (0, set)) ∨
      ∃ irq, set.findIrqNodeById irqNo = some irq ∧ cqId ∉ irq.icqList ∧
        dnvmeCreateIcqNode alloc set cqId irqNo =
          (0, set.updateIrq irqNo fun irq =>
            { irq with icqList := irq.icqList ++ [cqId] }) := by
  unfold dnvmeCreateIcqNode
  cases found : set.findIrqNodeById irqNo with
  | none => exact Or.inl ⟨show -Errno.EINVAL < 0 by decide, rfl⟩
  | some irq =>
      dsimp only
      split
      · rename_i listed
        exact Or.inr (Or.inl ⟨irq, rfl, listed, rfl⟩)
      · rename_i unlisted
        cases alloc with
        | false => exact Or.inl ⟨show -Errno.ENOMEM < 0 by decide, rfl⟩
        | true => exact Or.inr (Or.inr ⟨irq, rfl, unlisted, rfl⟩)

/-- A new queue that is released again leaves no trace. -/
theorem Kept.released {ndev : NvmeDevice} {prep : NvmePrepCq} (dma : Nat)
    (absent : ndev.findCq prep.cqId = none) :
    Kept ndev (dnvmeReleaseCq
      (ndev.setCq prep.cqId (prep.queue nvmeCqes dma))
      (prep.queue nvmeCqes dma)) := by
  refine ⟨?_, fun id cq found => ⟨cq, ?_, rfl⟩⟩
  · rw [dnvmeReleaseCq_irqSet]
    exact .refl _
  · have different : id ≠ prep.cqId := by
      rintro rfl
      rw [absent] at found
      cases found
    unfold NvmeDevice.findCq
    rw [dnvmeReleaseCq_cqs]
    refine (AList.lookup_erase_ne different).trans ?_
    exact (NvmeDevice.findCq_setCq_ne _ _ different).trans found

/-- A new queue joins the list of its interrupt. -/
theorem Bookkeeping.linked {ndev : NvmeDevice} (books : Bookkeeping ndev)
    {cqId : Nat} {cq : NvmeCq} {irq : NvmeIrq}
    (found : ndev.findCq cqId = some cq)
    (node : ndev.irqSet.findIrqNodeById cq.irqNo = some irq)
    (unlisted : cqId ∉ irq.icqList) :
    Bookkeeping { ndev with
      irqSet := ndev.irqSet.updateIrq cq.irqNo fun irq =>
        { irq with icqList := irq.icqList ++ [cqId] } } := by
  refine books.updateIcqs cq.irqNo (fun icqs => icqs ++ [cqId]) rfl ?_ ?_ ?_
  · intro other member id
    have same : other = irq := by
      have key : irq.irqId = cq.irqNo := by
        simpa using List.find?_some node
      exact List.inj_on_of_nodup_map books.ids member
        (List.mem_of_find?_eq_some node) (id.trans key.symm)
    subst same
    refine List.nodup_append.mpr ⟨books.once other member, by simp, ?_⟩
    intro old listed new single
    rw [List.mem_singleton.mp single]
    rintro rfl
    exact unlisted listed
  · intro other member queue listed
    split at listed
    · rename_i id
      rcases List.mem_append.mp listed with old | new
      · exact books.named other member queue old
      · rw [List.mem_singleton.mp new]
        exact Or.inr ⟨cq, found, id.symm⟩
    · exact books.named other member queue listed
  · intro icqs head
    rw [List.head?_append, head]
    rfl

/-- A new queue is linked, or it is released again. -/
theorem Bookkeeping.dnvmePrepareCq {ndev : NvmeDevice}
    (books : Bookkeeping ndev) (env : AllocQueueEnv) (icqAlloc : Bool)
    (prep : NvmePrepCq) :
    Bookkeeping (dnvmePrepareCq env icqAlloc ndev prep).2 := by
  unfold Driver.dnvmePrepareCq
  split
  · exact books
  · split
    · exact books
    · split
      · exact books
      · split
        · exact books.kept (Kept.of_eq rfl rfl)
        · rename_i added allocated
          obtain ⟨absent, dma, rfl⟩ := dnvmeAllocCq_eq allocated
          have more := books.kept
            (Kept.newCq (prep.queue nvmeCqes dma) absent)
          split
          · exact more
          · have here := NvmeDevice.findCq_setCq ndev prep.cqId
              (prep.queue nvmeCqes dma)
            dsimp only
            rcases dnvmeCreateIcqNode_cases icqAlloc
              (ndev.setCq prep.cqId (prep.queue nvmeCqes dma)).irqSet
              prep.cqId prep.cqIrqNo with
              ⟨fails, same⟩ | ⟨irq, node, listed, made⟩ |
              ⟨irq, node, unlisted, made⟩
            · rw [if_pos fails, same, here]
              exact books.kept (Kept.released dma absent)
            · rw [made, if_neg (Int.lt_irrefl 0)]
              exact more
            · rw [made, if_neg (Int.lt_irrefl 0)]
              exact more.linked here node unlisted

/-! ## Completions and reaps -/

theorem Kept.headed {ndev : NvmeDevice} (entry : NvmeCompletion)
    (sq : NvmeSq) : Kept ndev (ndev.headed entry sq) :=
  Kept.of_eq rfl rfl

theorem Kept.deleteCmd (ndev : NvmeDevice) (sqId : Nat) (cmd : NvmeCmd) :
    Kept ndev (ndev.deleteCmd sqId cmd) :=
  Kept.of_eq (NvmeDevice.deleteCmd_cqs _ _ _)
    (NvmeDevice.deleteCmd_irqSet _ _ _)

theorem Kept.releasePrps (ndev : NvmeDevice) (prps : Option Nat) :
    Kept ndev (ndev.releasePrps prps) :=
  Kept.of_eq (NvmeDevice.releasePrps_cqs _ _)
    (NvmeDevice.releasePrps_irqSet _ _)

theorem Kept.dnvmeReleaseSq (ndev : NvmeDevice) (sq : NvmeSq) :
    Kept ndev (dnvmeReleaseSq ndev sq) :=
  Kept.of_eq (dnvmeReleaseSq_cqs _ _) (dnvmeReleaseSq_irqSet _ _)

theorem Kept.dnvmeDeleteSq (ndev : NvmeDevice) (sqId : Nat) :
    Kept ndev (dnvmeDeleteSq ndev sqId) := by
  unfold Driver.dnvmeDeleteSq
  split
  · exact Kept.refl ndev
  · exact Kept.dnvmeReleaseSq ndev _

theorem Bookkeeping.handleCmdCompletion {ndev : NvmeDevice}
    (books : Bookkeeping ndev) (keyed : Keyed ndev)
    (entry : NvmeCompletion) :
    Bookkeeping (handleCmdCompletion ndev entry).2 := by
  have headed (sq : NvmeSq) := books.kept (Kept.headed entry sq)
  have completed := handleCmdCompletion_completed ndev entry
  generalize (Driver.handleCmdCompletion ndev entry).2 = next at completed ⊢
  cases completed with
  | noQueue missing => exact books
  | noCommand found missing => exact headed _
  | general found here plain =>
      exact ((headed _).kept (Kept.releasePrps _ _)).kept
        (Kept.deleteCmd _ _ _)
  | kept found here admin special stays =>
      exact (headed _).kept (Kept.deleteCmd _ _ _)
  | freedSq found here admin type frees target =>
      exact ((headed _).kept (Kept.dnvmeDeleteSq _ _)).kept
        (Kept.deleteCmd _ _ _)
  | freedCq found here admin type frees target =>
      have after := keyed.effect
        (@headed_effect (fun _ _ _ => True) _ _ _ found)
      exact ((headed _).dnvmeDeleteCq after target).kept
        (Kept.deleteCmd _ _ _)

theorem Kept.scan {ndev next : NvmeDevice} {cqid remain : Nat}
    {cq : NvmeCq} (found : ndev.findCq cqid = some cq)
    (scanned : ndev.scan cqid cq = .ok (remain, next)) : Kept ndev next := by
  rcases scan_eq scanned with ⟨tail, rfl, _⟩
  refine Kept.setCq fun old here => ?_
  rw [found] at here
  cases here
  rfl

theorem updateCqHead_irqEnabled (cq : NvmeCq) (count : Nat) :
    (updateCqHead cq count).irqEnabled = cq.irqEnabled := by
  unfold updateCqHead
  dsimp only
  split
  · rfl
  · rfl

theorem updateCqHead_irqNo (cq : NvmeCq) (count : Nat) :
    (updateCqHead cq count).irqNo = cq.irqNo := by
  unfold updateCqHead
  dsimp only
  split
  · rfl
  · rfl

theorem Kept.updateCqHead (ndev : NvmeDevice) (cqid count : Nat) :
    Kept ndev (ndev.updateCqHead cqid count) := by
  unfold NvmeDevice.updateCqHead
  split
  · exact Kept.refl ndev
  · rename_i cq found
    refine Kept.setCq fun old here => ?_
    rw [found] at here
    cases here
    exact updateCqHead_irqNo cq count

/-- The books and the identifiers, as they are kept together. -/
structure InOrder (ndev : NvmeDevice) : Prop where
  books : Bookkeeping ndev
  keyed : Keyed ndev

theorem reapClosed_inOrder : ReapClosed InOrder where
  scan start found scanned :=
    ⟨start.books.kept (Kept.scan found scanned),
      start.keyed.effect
        (@scan_effect (fun _ _ _ => True) _ _ _ _ _ found scanned)⟩
  head cqid count start :=
    ⟨start.books.kept (Kept.updateCqHead _ cqid count),
      start.keyed.effects
        (@updateCqHead_effects (fun _ _ _ => True) _ cqid count)⟩
  complete entry start :=
    ⟨start.books.handleCmdCompletion start.keyed entry,
      start.keyed.effects
        (@handleCmdCompletion_effects (fun _ _ _ => True) _ start.keyed
          entry)⟩
  clear irqNo start :=
    ⟨start.books.kept
        (Kept.of_irqSet (SameShape.updateIrq _ irqNo _ fun _ => rfl)),
      start.keyed.effect (@irqSet_effect (fun _ _ _ => True) _ _)⟩
  unmask irqNo start :=
    ⟨start.books.kept (Kept.of_irqSet (SameShape.writeMask _ irqNo false)),
      start.keyed.effect (@irqSet_effect (fun _ _ _ => True) _ _)⟩

/-! ## Metadata nodes and cleaning up -/

theorem Kept.of_metas {ndev next : NvmeDevice}
    (changed : MetaChanged ndev next) : Kept ndev next := by
  rcases changed with ⟨_, _, _, rfl⟩
  exact Kept.of_eq rfl rfl

theorem clearSq_irqSet {saveAq : Bool} {ndev next : NvmeDevice} {id : Nat}
    (done : clearSq saveAq ndev id = .ok next) :
    next.irqSet = ndev.irqSet := by
  unfold clearSq at done
  split at done
  · cases done
    rfl
  · split at done
    · unfold dnvmeReinitAsq dnvmeDeleteCmdList at done
      dsimp only at done
      split at done
      · cases done
      · cases done
        exact NvmeDevice.releaseCmds_irqSet _ _
    · cases done
      exact dnvmeReleaseSq_irqSet _ _

theorem clearCq_irqSet {saveAq : Bool} {ndev next : NvmeDevice} {id : Nat}
    (done : clearCq saveAq ndev id = .ok next) :
    next.irqSet = ndev.irqSet := by
  unfold clearCq at done
  split at done
  · cases done
    rfl
  · split at done
    · unfold dnvmeReinitAcq at done
      split at done
      · cases done
      · cases done
        rfl
    · dsimp only at done
      split at done
      · cases done
      · cases done
        exact dnvmeReleaseCq_irqSet _ _

/-- Of the interrupts a clean up tears down the scheme. -/
theorem dnvmeCleanupDevice_irqSet {ndev next : NvmeDevice} {saveAq : Bool}
    (done : dnvmeCleanupDevice ndev saveAq = .ok next) :
    next.irqSet = dnvmeCleanInterrupt ndev.irqSet := by
  unfold dnvmeCleanupDevice at done
  rcases ok_of_bind done with ⟨cleared, clears, rest⟩
  unfold dnvmeDeleteAllQueues at clears
  rcases ok_of_bind clears with ⟨noSqs, first, second⟩
  have set : cleared.irqSet = dnvmeCleanInterrupt ndev.irqSet :=
    foldlM_keeps (fun start turn => (clearCq_irqSet turn).trans start) _
      (foldlM_keeps (fun start turn => (clearSq_irqSet turn).trans start) _
        rfl first) second
  cases rest
  rcases deleteMetas_changed cleared.metas.keys.mergeSort cleared with
    ⟨_, _, _, same⟩
  rw [same]
  exact set

theorem Bookkeeping.dnvmeCleanupDevice {ndev next : NvmeDevice}
    {saveAq : Bool} (done : dnvmeCleanupDevice ndev saveAq = .ok next) :
    Bookkeeping next := by
  refine Bookkeeping.of_empty ?_ ?_
  · rw [dnvmeCleanupDevice_irqSet done]
    rfl
  · rw [dnvmeCleanupDevice_irqSet done]
    rfl

theorem Bookkeeping.dnvmeSetDeviceState {ndev next : NvmeDevice}
    {ready ret : Int} {state : NvmeState} (books : Bookkeeping ndev)
    (done : dnvmeSetDeviceState ready ndev state = .ok (ret, next)) :
    Bookkeeping next := by
  refine dnvmeSetDeviceState_keeps ?_ ?_ done
  · intro enable
    exact books.kept (Kept.of_eq rfl rfl)
  · intro saveAq cleaned cleans
    exact Bookkeeping.dnvmeCleanupDevice cleans

/-! ## Every operation -/

theorem Kept.of_submitted {ndev next : NvmeDevice} {env : SubmitEnv}
    {cmd : Nvme64bCmd} {sq : NvmeSq} {ccmd filled : NvmeCommonCommand}
    {prps : Option NvmePrps}
    (accepted : Submitted env cmd ndev next sq ccmd filled prps) :
    Kept ndev next := by
  refine ⟨accepted.irqSet ▸ .refl _, fun id cq found => ?_⟩
  rw [accepted.findCq, found]
  refine ⟨_, rfl, ?_⟩
  unfold createdCq
  split
  · split
    · rfl
    · rfl
  · rfl

theorem Kept.of_refused {ndev next : NvmeDevice} {cmd : Nvme64bCmd}
    (refused : SubmitRefused cmd ndev next) : Kept ndev next := by
  rcases refused with ⟨pinned, poolPages, rfl | ⟨sq, cid, found, _, rfl⟩⟩
  · exact Kept.of_eq rfl rfl
  · exact Kept.of_eq rfl rfl

theorem Kept.postEntry (ndev : NvmeDevice) (cqid slot : Nat)
    (entry : NvmeCompletion) : Kept ndev (ndev.postEntry cqid slot entry) := by
  unfold NvmeDevice.postEntry
  split
  · exact Kept.refl ndev
  · rename_i cq found
    refine Kept.setCq fun old here => ?_
    rw [found] at here
    cases here
    rfl

theorem Kept.of_sqAdded {ndev next : NvmeDevice}
    (added : SqAdded ndev next) : Kept ndev next := by
  rcases added with rfl | ⟨prep, dma, absent, _, rfl⟩
  · exact Kept.refl _
  · exact Kept.of_eq rfl rfl

/-- Every operation keeps the books. -/
theorem InOrder.step {ndev next : NvmeDevice} {op : Op} {ret : Int}
    (order : InOrder ndev) (done : step ndev op = .ok (ret, next)) :
    Bookkeeping next := by
  have books := order.books
  replace done := (perform_of_step done).1
  cases op with
  | createAsq env elements =>
      rw [snd_of_ok done]
      exact books.kept (Kept.of_sqAdded (dnvmeCreateAsq_added env elements))
  | createAcq env elements =>
      rw [snd_of_ok done]
      exact books.kept (Kept.of_added (dnvmeCreateAcq_added env elements))
  | prepareSq env prep =>
      rw [snd_of_ok done]
      exact books.kept (Kept.of_sqAdded (dnvmePrepareSq_added env prep))
  | prepareCq env icqAlloc prep =>
      rw [snd_of_ok done]
      exact books.dnvmePrepareCq env icqAlloc prep
  | ringSqDoorbell sqId =>
      rw [snd_of_ok done]
      refine books.kept ?_
      unfold dnvmeRingSqDoorbell
      split
      · exact Kept.refl ndev
      · exact Kept.of_eq rfl rfl
  | submit64bCmd env cmd =>
      rcases dnvmeSubmit64bCmd_cases done with ⟨_, refused⟩ |
        ⟨_, sq, ccmd, filled, prps, accepted⟩
      · exact books.kept (Kept.of_refused refused)
      · exact books.kept (Kept.of_submitted accepted)
  | emptyCmdList sqId =>
      rw [snd_of_ok done]
      refine books.kept ?_
      unfold emptyCmdList
      split
      · exact Kept.refl ndev
      · exact Kept.of_eq (NvmeDevice.releaseCmds_cqs _ _)
          (NvmeDevice.releaseCmds_irqSet _ _)
  | inquiryCqe copyIn copyOut cqid =>
      rw [Driver.perform] at done
      split at done
      · cases done
      · rename_i asked
        cases done
        exact (reapClosed_inOrder.dnvmeInquiryCqe order asked).books
  | reapCqeLegacy env reap =>
      rw [Driver.perform] at done
      unfold ReapResult.toStep at done
      split at done
      · cases done
      · rename_i reaped
        cases done
        exact (reapClosed_inOrder.dnvmeReapCqeLegacy order reaped).books
  | gnlReapCqe copyOk cqid expect buf size =>
      rw [Driver.perform] at done
      unfold ReapResult.toStep at done
      split at done
      · cases done
      · rename_i reaped
        cases done
        exact (reapClosed_inOrder.dnvmeGnlCmdReapCqe order reaped).books
  | createMetaNode env create =>
      exact books.kept (Kept.of_metas (dnvmeCreateMetaNode_changed done))
  | deleteMetaId id =>
      cases done
      exact books.kept (Kept.of_metas (dnvmeDeleteMetaId_changed ndev id))
  | setInterrupt env irq =>
      cases done
      exact books.dnvmeSetInterrupt env ndev.ccEnable irq
  | maskInterrupt irqNo =>
      cases done
      exact books.kept (Kept.of_irqSet (SameShape.writeMask _ irqNo true))
  | unmaskInterrupt irqNo =>
      cases done
      exact books.kept (Kept.of_irqSet (SameShape.writeMask _ irqNo false))
  | setDeviceState ready state => exact books.dnvmeSetDeviceState done
  | release =>
      rw [Driver.perform] at done
      split at done
      · cases done
      · rename_i cleaned
        cases done
        exact Bookkeeping.dnvmeCleanupDevice cleaned
  | interrupt intVec =>
      cases done
      exact books.kept (Kept.of_irqSet (SameShape.dnvmeInterrupt _ intVec))
  | bottomHalf irqId =>
      cases done
      exact books.kept (Kept.of_irqSet (SameShape.updateIrqFlag _ irqId))
  | post cqid slot entry =>
      cases done
      exact books.kept (Kept.postEntry ndev cqid slot entry)

theorem Reachable.inOrder {rule : SubmitRule} {ndev : NvmeDevice}
    (reachable : Reachable rule ndev) : InOrder ndev := by
  obtain ⟨qDepth, capCqr, cmbSqs, cmbCqs, _, run⟩ := reachable
  induction run with
  | refl =>
      exact ⟨Bookkeeping.of_empty rfl rfl, Keyed.fresh _ _ _ _⟩
  | tail _ moves order =>
      obtain ⟨op, ret, meets, done⟩ := moves
      exact ⟨order.step done,
        order.keyed.effects (step_effects order.keyed meets done)⟩

/--
Whatever succeeds and whatever fails in a run, the interrupt lists are in
order between its operations.
-/
theorem interrupt_bookkeeping {ndev : NvmeDevice}
    (reachable : Reachable (fun _ _ _ => True) ndev) : Bookkeeping ndev :=
  (Reachable.inOrder reachable).books

/-- A platform that grants every request. -/
def grantingEnv : IrqEnv where
  vector index := index
  granted := 0
  request _ := 0
  irqAlloc _ := true
  workAlloc _ := true
  icqAlloc := true
  wqAlloc := true
  entriesAlloc := true
  pbaSet := false
  msiCap := true
  msiVectors := .ok 1
  msixCap := none

/-- A device with the interrupt pin set up. -/
def pinDevice : NvmeDevice :=
  { NvmeDevice.fresh 64 false false false with
    irqSet := (dnvmeSetInterrupt grantingEnv false
      (NvmeDevice.fresh 64 false false false).irqSet ⟨.pin, 1⟩).2 }

/-- A completion queue on the first interrupt. -/
def sharedPrep : NvmePrepCq where
  elements := 4
  cqId := 1
  contig := true
  cqIrqEn := 1
  cqIrqNo := 0
  useCmb := false

/-- The device with an I/O completion queue on its interrupt. -/
def linkedDevice : NvmeDevice :=
  (dnvmePrepareCq ⟨true, some 4096, true⟩ true pinDevice sharedPrep).2

theorem pinDevice_reachable (rule : SubmitRule) :
    Reachable rule pinDevice :=
  (Reachable.fresh (by decide) false false false).next
    (.setInterrupt grantingEnv ⟨.pin, 1⟩) (fun _ _ => nofun) rfl

theorem linkedDevice_reachable (rule : SubmitRule) :
    Reachable rule linkedDevice :=
  (pinDevice_reachable rule).next
    (.prepareCq ⟨true, some 4096, true⟩ true sharedPrep) (fun _ _ => nofun)
    rfl

theorem interrupt_bookkeeping_linked :
    linkedDevice.irqSet.irqList = [⟨0, 0, false, 0, [0, 1]⟩] ∧
      Bookkeeping linkedDevice :=
  ⟨rfl, interrupt_bookkeeping (linkedDevice_reachable _)⟩

end Dnvme.Driver.IrqBookkeeping
