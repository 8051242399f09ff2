import Dnvme.Nvme.NsInstance

/-!
# Initialisation of the namespaces

`init_ns_group` reads the list of the active namespaces, initialises an
instance for each of them, and unwinds all of it when one cannot be
initialised.  The list comes from the device, so it may be in any order.

A group is built completely or not at all as long as nothing of the list is
refused.  The two exits that were overlooked, a list without memory and an
entry out of order, leave with the zero of the step before.
-/

namespace Dnvme.Nvme.Namespaces

open Dnvme.Driver
open Dnvme.Nvme
open Dnvme.Nvme.NsIdDesc
open Dnvme.Lib.Holdings (total total_split total_eq_zero mem_total)

/-! ## The function -/

/-- `struct nvme_ns_group`. -/
structure NsGroup where
  nrNs : Nat
  nrAct : Nat
  actList : Option Object
  ns : List NsInstance

/-- The variables of the loop. -/
structure Loop where
  i : Nat
  last : Nat
  ret : Int
  group : NsGroup
  heap : Heap

/-- Where the loop goes on. -/
inductive Label where
  | done
  | exitNsInstance
  | freeNsList
  deriving DecidableEq, Repr

/-- The loop over the list, with the number of turns that are left. -/
def initLoop (world : World) (nn : Nat) : Nat → Loop → Run (Label × Loop)
  | 0, loop => return (.done, loop)
  | left + 1, loop => do
      let nsid ← tableAt world.nsList loop.i
      if nsid = 0 then return (.done, loop)
      else if nsid ≤ loop.last then return (.freeNsList, loop)
      else if nsid > nn then return (.done, { loop with last := nsid })
      else do
        let ns ← tableAt loop.group.ns (nsid - 1)
        let init ← initNsInstance world { ns with nsid := nsid } loop.heap
        let table := loop.group.ns.set (nsid - 1) init.ns
        let loop : Loop := { loop with
          last := nsid
          ret := init.ret
          group := { loop.group with ns := table }
          heap := init.heap }
        if init.ret < 0 then return (.exitNsInstance, loop)
        else
          initLoop world nn left { loop with
            i := loop.i + 1
            group := { loop.group with nrAct := loop.group.nrAct + 1 } }

/-- `exit_ns_instance`: the loop back over the list. -/
def exitNsInstance (world : World) :
    Nat → List NsInstance → Heap → Run Heap
  | 0, _, heap => return heap
  | i + 1, table, heap => do
      let nsid ← tableAt world.nsList i
      let ns ← tableAt table (nsid - 1)
      let (ns, heap) ← deinitNsInstance ns heap
      exitNsInstance world i (table.set (nsid - 1) ns) heap

/-- What the function returns, what `ndev->ns_grp` is then, and what is live
of all that it has allocated. -/
structure Outcome where
  ret : Int
  nsGrp : Option NsGroup
  heap : Heap

/-- `free_ns_list` and `free_ns_group`. -/
def freeNsList (before : Option NsGroup) (ret : Int) (heap : Heap) :
    Run Outcome := do
  let heap ← free .list heap
  let heap ← free .group heap
  return ⟨ret, before, heap⟩

/-- The end of the function behind its loop. -/
def finish (world : World) (before : Option NsGroup) (label : Label)
    (loop : Loop) : Run Outcome :=
  match label with
  | .exitNsInstance => do
      let heap ← exitNsInstance world loop.i loop.group.ns loop.heap
      freeNsList before loop.ret heap
  | .freeNsList => freeNsList before loop.ret loop.heap
  | .done =>
      if loop.group.nrAct = 0 then .error .bugOn
      else
        let group := { loop.group with actList := some .list }
        return ⟨0, some group, loop.heap⟩

/-- The function behind `nvme_id_ctrl_nn`. -/
def initNsGroupOf (world : World) (before : Option NsGroup) (nn : Nat) :
    Run Outcome :=
  if !world.memory .group then return ⟨-Errno.ENOMEM, before, 0⟩
  else if !world.memory .list then do
    -- `ret` is the zero of `nvme_id_ctrl_nn`
    let heap ← free .group (.group ::ₘ 0)
    return ⟨0, before, heap⟩
  else
    let heap := Object.list ::ₘ .group ::ₘ 0
    let ret := nvmeIdentifyNsListActive world
    if ret < 0 then freeNsList before ret heap
    else do
      let group : NsGroup := ⟨nn, 0, none, List.replicate nn clearInstance⟩
      let (label, loop) ← initLoop world nn nn ⟨0, 0, ret, group, heap⟩
      finish world before label loop

/-- `init_ns_group`; `before` is `ndev->ns_grp` at its begin. -/
def initNsGroup (world : World) (before : Option NsGroup) : Run Outcome :=
  world.nn.elim (.ok ⟨-Errno.ENODEV, before, 0⟩) fun nn =>
    initNsGroupOf world before (min nn 1024)

/-! ## The statement -/

/-- The entries of the list up to its end. -/
def entries (world : World) (nn : Nat) : List Nat :=
  (world.nsList.take nn).takeWhile fun entry => entry ≠ 0

/-- Those of them that have an instance. -/
def leading (world : World) (nn : Nat) : List Nat :=
  (entries world nn).takeWhile fun entry => entry ≤ nn

/-- The instances of the namespaces in a list are initialised, and the other
ones are as they were. -/
structure Filled (world : World) (past : List Nat)
    (table : List NsInstance) : Prop where
  inside : ∀ nsid ∈ past, ∃ ns, table[nsid - 1]? = some ns ∧
    Initialised world nsid ns
  outside : ∀ i ns, table[i]? = some ns → i + 1 ∉ past → ns = clearInstance

/-- The group that the function should build; its instances hold all that is
live, so that none of them was initialised twice. -/
structure Complete (world : World) (nn : Nat) (outcome : Outcome)
    (group : NsGroup) : Prop where
  set_ : outcome.nsGrp = some group
  actList : group.actList = some .list
  nrNs : group.nrNs = nn ∧ group.ns.length = nn
  nrAct : group.nrAct = (leading world nn).length
  distinct : (leading world nn).Nodup
  filled : Filled world (leading world nn) group.ns
  heap : outcome.heap = .list ::ₘ .group ::ₘ total held group.ns

/-- The function returns, and what it leaves is all or nothing. -/
def AllOrNothing (world : World) (before : Option NsGroup) : Prop :=
  ∃ outcome, initNsGroup world before = .ok outcome ∧
    ((outcome.ret = 0 ∧ ∃ nn group, world.nn = some nn ∧
        Complete world (min nn 1024) outcome group) ∨
      (outcome.ret < 0 ∧ outcome.nsGrp = before ∧ outcome.heap = 0))

/-- None of the entries that are read is refused: each one that comes after
initialised namespaces is larger than the entries before it, and the size of
the blocks of its namespace is accepted. -/
def Smooth (world : World) (nn : Nat) (past todo : List Nat) : Prop :=
  ∀ before entry rest, todo = before ++ entry :: rest →
    (∀ nsid ∈ before, nsid ≤ nn ∧ Initialises world nsid) →
    (∀ nsid ∈ past ++ before, nsid < entry) ∧
      (entry ≤ nn → IdRead world entry → SizeOk world entry)

/-- There is memory for a list if there is for a group, and a list that is
read starts with a namespace and is not refused. -/
def Orderly (world : World) : Prop :=
  ∀ nn, world.nn = some nn → world.memory .group = true →
    world.memory .list = true ∧
      (nvmeIdentifyNsListActive world = 0 →
        leading world (min nn 1024) ≠ [] ∧
          Smooth world (min nn 1024) [] (entries world (min nn 1024)))

/-! ## Refused entries -/

section Smoothness

variable {world : World} {nn entry : Nat} {past rest : List Nat}

theorem Smooth.nil : Smooth world nn past [] := by
  intro before entry rest parts
  exact absurd parts.symm (by simp)

theorem Smooth.head (smooth : Smooth world nn past (entry :: rest)) :
    (∀ nsid ∈ past, nsid < entry) ∧
      (entry ≤ nn → IdRead world entry → SizeOk world entry) := by
  have first := smooth [] entry rest rfl fun _ never =>
    absurd never List.not_mem_nil
  rwa [List.append_nil] at first

theorem Smooth.tail (smooth : Smooth world nn past (entry :: rest))
    (small : entry ≤ nn) (ready : Initialises world entry) :
    Smooth world nn (past ++ [entry]) rest := by
  intro before other more parts reached
  have later := smooth (entry :: before) other more (by rw [parts]; rfl) ?_
  · rwa [List.append_assoc]
  · intro nsid member
    rcases List.mem_cons.mp member with rfl | earlier
    · exact ⟨small, ready⟩
    · exact reached nsid earlier

theorem Smooth.cons (larger : ∀ nsid ∈ past, nsid < entry)
    (size : entry ≤ nn → IdRead world entry → SizeOk world entry)
    (later : entry ≤ nn → Initialises world entry →
      Smooth world nn (past ++ [entry]) rest) :
    Smooth world nn past (entry :: rest) := by
  intro before other more parts reached
  cases before with
  | nil =>
      obtain ⟨rfl, rfl⟩ := List.cons.inj parts
      rw [List.append_nil]
      exact ⟨larger, size⟩
  | cons first before =>
      obtain ⟨rfl, rfl⟩ := List.cons.inj parts
      obtain ⟨small, ready⟩ := reached entry List.mem_cons_self
      have found := later small ready before other more rfl
        fun nsid member => reached nsid (List.mem_cons_of_mem entry member)
      rwa [List.append_assoc] at found

end Smoothness

/-! ## The loop back -/

section Unwinding

variable {world : World} {table : List NsInstance}

/-- Only the instances of a list hold something. -/
def HeldBy (past : List Nat) (table : List NsInstance) : Prop :=
  ∀ i ns, table[i]? = some ns → i + 1 ∉ past → held ns = 0

theorem held_split {i : Nat} {old : NsInstance}
    (here : table[i]? = some old) :
    ∃ rest, total held table = held old + rest ∧
      ∀ new, total held (table.set i new) = held new + rest :=
  total_split here

/-- All that the instances of the list hold is freed.  The induction is on the
entries that are left; the instances of the other ones hold nothing. -/
theorem exitNsInstance_frees (base : Heap) (i : Nat) :
    ∀ {table : List NsInstance}, i ≤ world.nsList.length →
      (∀ nsid ∈ world.nsList.take i, 0 < nsid ∧ nsid ≤ table.length) →
      HeldBy (world.nsList.take i) table →
      exitNsInstance world i table (base + total held table) = .ok base := by
  induction i with
  | zero =>
      intro table _ _ clear
      have nothing : total held table = 0 :=
        total_eq_zero fun ns member => by
          obtain ⟨index, here⟩ := List.mem_iff_getElem?.mp member
          exact clear index ns here List.not_mem_nil
      rw [nothing, add_zero]
      rfl
  | succ i ih =>
      intro table inside small clear
      have here := List.getElem?_eq_getElem (show i < _ from inside)
      have taken : world.nsList.take (i + 1) =
          world.nsList.take i ++ [world.nsList[i]] :=
        List.take_succ_eq_append_getElem inside
      have bounds := small world.nsList[i] (by
        rw [taken]
        exact List.mem_append_right _ List.mem_cons_self)
      have there := List.getElem?_eq_getElem
        (show world.nsList[i] - 1 < table.length by omega)
      obtain ⟨rest, before, after⟩ := held_split there
      obtain ⟨left, frees, none_⟩ := deinitNsInstance_frees
        table[world.nsList[i] - 1] (base + rest)
      have next := after left
      rw [none_, zero_add] at next
      unfold exitNsInstance
      rw [tableAt_of_some here]
      dsimp only [bind, Except.bind]
      rw [tableAt_of_some there, before, add_left_comm]
      dsimp only
      rw [frees]
      dsimp only
      rw [← next]
      refine ih (by omega) (fun nsid member => ?_) fun j ns element absent => ?_
      · rw [List.length_set]
        exact small nsid (by rw [taken]; exact List.mem_append_left _ member)
      · by_cases same : world.nsList[i] - 1 = j
        · subst same
          rw [List.getElem?_set_self (by omega)] at element
          cases element
          exact none_
        · rw [List.getElem?_set_ne same] at element
          refine clear j ns element fun member => ?_
          rw [taken, List.mem_append, List.mem_singleton] at member
          rcases member with earlier | last
          · exact absent earlier
          · exact same (by omega)

end Unwinding

/-! ## The loop -/

section Turns

variable {world : World} {nn nsid left : Nat} {past : List Nat}
  {loop : Loop} {table : List NsInstance} {after : NsInstance}

/-- The loop after a turn that initialises an instance. -/
def turned (loop : Loop) (nsid : Nat) (init : Init) : Loop :=
  { loop with
    last := nsid
    ret := init.ret
    group := { loop.group with ns := loop.group.ns.set (nsid - 1) init.ns }
    heap := init.heap }

/-- The loop before its next turn. -/
def counted (loop : Loop) : Loop :=
  { loop with
    i := loop.i + 1
    group := { loop.group with nrAct := loop.group.nrAct + 1 } }

theorem initLoop_zero (here : world.nsList[loop.i]? = some 0) :
    initLoop world nn (left + 1) loop = .ok (.done, loop) := by
  unfold initLoop
  rw [tableAt_of_some here]
  rfl

theorem initLoop_order (here : world.nsList[loop.i]? = some nsid)
    (some_ : nsid ≠ 0) (order : nsid ≤ loop.last) :
    initLoop world nn (left + 1) loop = .ok (.freeNsList, loop) := by
  unfold initLoop
  rw [tableAt_of_some here]
  exact (if_neg some_).trans (if_pos order)

theorem initLoop_beyond (here : world.nsList[loop.i]? = some nsid)
    (some_ : nsid ≠ 0) (order : loop.last < nsid) (beyond : nn < nsid) :
    initLoop world nn (left + 1) loop =
      .ok (.done, { loop with last := nsid }) := by
  unfold initLoop
  rw [tableAt_of_some here]
  refine (if_neg some_).trans ((if_neg (Nat.not_le.mpr order)).trans ?_)
  exact if_pos beyond

theorem initLoop_instance (here : world.nsList[loop.i]? = some nsid)
    (some_ : nsid ≠ 0) (order : loop.last < nsid) (small : nsid ≤ nn)
    (there : loop.group.ns[nsid - 1]? = some clearInstance) :
    initLoop world nn (left + 1) loop =
      (initNsInstance world (blankInstance nsid) loop.heap >>= fun init =>
        if init.ret < 0 then .ok (.exitNsInstance, turned loop nsid init)
        else initLoop world nn left (counted (turned loop nsid init))) := by
  conv_lhs => unfold initLoop
  rw [tableAt_of_some here]
  refine (if_neg some_).trans ((if_neg (Nat.not_le.mpr order)).trans ?_)
  refine (if_neg (Nat.not_lt.mpr small)).trans ?_
  rw [tableAt_of_some there]
  rfl

theorem Filled.start (world : World) (nn : Nat) :
    Filled world [] (List.replicate nn clearInstance) := by
  refine ⟨fun _ never => absurd never List.not_mem_nil, ?_⟩
  intro i ns element _
  exact List.eq_of_mem_replicate (List.mem_of_getElem? element)

theorem Filled.more (filled : Filled world past table)
    (inside : nsid - 1 < table.length) (positive : 0 < nsid)
    (fresh : nsid ∉ past) (small : ∀ other ∈ past, 0 < other)
    (initialised : Initialised world nsid after) :
    Filled world (past ++ [nsid]) (table.set (nsid - 1) after) := by
  constructor
  · intro other member
    rcases List.mem_append.mp member with earlier | last
    · obtain ⟨ns, element, facts⟩ := filled.inside other earlier
      have apart : nsid - 1 ≠ other - 1 := by
        intro same
        have above := small other earlier
        have equal : other = nsid := by omega
        exact fresh (equal ▸ earlier)
      exact ⟨ns, by rw [List.getElem?_set_ne apart, element], facts⟩
    · cases List.mem_singleton.mp last
      exact ⟨after, List.getElem?_set_self inside, initialised⟩
  · intro i ns element absent
    rw [List.mem_append, List.mem_singleton, not_or] at absent
    rw [List.getElem?_set_ne (by omega)] at element
    exact filled.outside i ns element absent.1

/-- Outside of the list the instances hold nothing. -/
theorem Filled.heldBy (filled : Filled world past table) :
    HeldBy past table := by
  intro i ns element absent
  rw [filled.outside i ns element absent]
  rfl

/-- The instances hold nothing but their own pages. -/
theorem Filled.group_notMem (filled : Filled world past table) :
    Object.group ∉ total held table := by
  intro member
  obtain ⟨ns, there, holds⟩ := mem_total member
  obtain ⟨i, element⟩ := List.mem_iff_getElem?.mp there
  by_cases listed : i + 1 ∈ past
  · obtain ⟨other, same, facts⟩ := filled.inside (i + 1) listed
    rw [Nat.add_sub_cancel, element] at same
    cases same
    unfold held at holds
    rw [facts.idNs, facts.raw] at holds
    rcases facts.nvm with ⟨_, nvm⟩ | ⟨_, nvm⟩
    all_goals rcases facts.zns with ⟨_, zns⟩ | ⟨_, zns⟩
    all_goals
      rw [nvm, zns] at holds
      simp [Lib.Holdings.pointed] at holds
  · rw [filled.heldBy i ns element listed] at holds
    exact Multiset.notMem_zero _ holds

end Turns

/-- The list and the group. -/
def base : Heap :=
  .list ::ₘ .group ::ₘ 0

/-- The group with the instances of the namespaces so far, which hold the rest
of what is live. -/
structure Made (world : World) (nn : Nat) (past : List Nat) (group : NsGroup)
    (heap : Heap) : Prop where
  length : group.ns.length = nn
  nrNs : group.nrNs = nn
  nrAct : group.nrAct = past.length
  sorted : past.Pairwise (· < ·)
  small : ∀ nsid ∈ past, 0 < nsid ∧ nsid ≤ nn
  filled : Filled world past group.ns
  heap : heap = base + total held group.ns

/-- What holds at the begin of a turn. -/
structure LoopInv (world : World) (nn : Nat) (past : List Nat) (loop : Loop) :
    Prop where
  made : Made world nn past loop.group loop.heap
  i : loop.i = past.length
  last : ∀ nsid, 0 < nsid →
    (loop.last < nsid ↔ ∀ earlier ∈ past, earlier < nsid)
  ret : loop.ret = 0

/-- How the loop ends for the entries that are left. -/
inductive LoopEnds (world : World) (nn : Nat) (past todo : List Nat) :
    Label → Loop → Prop where
  | done {loop : Loop} (smooth : Smooth world nn past todo)
      (made : Made world nn
        (past ++ todo.takeWhile fun entry => entry ≤ nn) loop.group
        loop.heap) :
      LoopEnds world nn past todo .done loop
  | failed {loop : Loop} (smooth : Smooth world nn past todo)
      (some_ : todo.takeWhile (fun entry => entry ≤ nn) ≠ [])
      (negative : loop.ret < 0)
      (unwinds : exitNsInstance world loop.i loop.group.ns loop.heap =
        .ok base) :
      LoopEnds world nn past todo .exitNsInstance loop
  | refused {loop : Loop} {rest : Heap}
      (rough : ¬Smooth world nn past todo) (ret : loop.ret = 0)
      (heap : loop.heap = base + rest) (apart : Object.group ∉ rest) :
      LoopEnds world nn past todo .freeNsList loop

section Loops

variable {world : World} {nn nsid : Nat} {past todo : List Nat} {loop : Loop}

/-- How the loop ends for one more entry. -/
theorem LoopEnds.before {label : Label}
    (ends : LoopEnds world nn (past ++ [nsid]) todo label loop)
    (larger : ∀ earlier ∈ past, earlier < nsid) (small : nsid ≤ nn)
    (size : IdRead world nsid → SizeOk world nsid)
    (ready : Initialises world nsid) :
    LoopEnds world nn past (nsid :: todo) label loop := by
  have onward (smooth : Smooth world nn (past ++ [nsid]) todo) :
      Smooth world nn past (nsid :: todo) :=
    .cons larger (fun _ => size) fun _ _ => smooth
  cases ends with
  | done smooth made =>
      refine .done (onward smooth) ?_
      rw [List.takeWhile_cons_of_pos (by simpa using small)]
      rwa [List.append_assoc] at made
  | failed smooth _ negative unwinds =>
      refine .failed (onward smooth) ?_ negative unwinds
      rw [List.takeWhile_cons_of_pos (by simpa using small)]
      exact List.cons_ne_nil _ _
  | refused rough ret heap apart =>
      exact .refused (fun smooth => rough (smooth.tail small ready)) ret heap
        apart

/-- One more instance that is initialised. -/
theorem LoopInv.turned {after : NsInstance} {rest : Heap}
    (inv : LoopInv world nn past loop) (positive : 0 < nsid)
    (small : nsid ≤ nn) (larger : ∀ earlier ∈ past, earlier < nsid)
    (others : ∀ new, total held (loop.group.ns.set (nsid - 1) new) =
      held new + rest)
    (initialised : Initialised world nsid after) :
    LoopInv world nn (past ++ [nsid])
      (counted (turned loop nsid ⟨0, after, held after + (base + rest)⟩)) := by
  have made := inv.made
  have fresh : nsid ∉ past := fun member =>
    absurd (larger nsid member) (lt_irrefl nsid)
  have inside : nsid - 1 < loop.group.ns.length := by
    rw [made.length]
    omega
  refine ⟨⟨?_, made.nrNs, ?_, ?_, ?_, ?_, ?_⟩, ?_, ?_, rfl⟩
  · exact List.length_set.trans made.length
  · change loop.group.nrAct + 1 = _
    rw [made.nrAct, List.length_append]
    rfl
  · refine List.pairwise_append.mpr ⟨made.sorted, List.pairwise_singleton _ _,
      fun earlier member last here => ?_⟩
    rw [List.mem_singleton.mp here]
    exact larger earlier member
  · intro other member
    rcases List.mem_append.mp member with earlier | last
    · exact made.small other earlier
    · cases List.mem_singleton.mp last
      exact ⟨positive, small⟩
  · exact made.filled.more inside positive fresh
      (fun other member => (made.small other member).1) initialised
  · change held after + (base + rest) = base +
      total held (loop.group.ns.set (nsid - 1) after)
    rw [others, add_left_comm]
  · change loop.i + 1 = _
    rw [inv.i, List.length_append]
    rfl
  · intro other _
    change nsid < other ↔ _
    refine ⟨fun above earlier member => ?_, fun all =>
      all nsid (List.mem_append_right _ List.mem_cons_self)⟩
    rcases List.mem_append.mp member with before | last
    · exact (larger earlier before).trans above
    · rw [List.mem_singleton.mp last]
      exact above

theorem whole_list {later : List Nat}
    (parts : world.nsList.take nn = past ++ later) :
    world.nsList = past ++ (later ++ world.nsList.drop nn) := by
  rw [← List.append_assoc, ← parts, List.take_append_drop]

/-- An instance that fails holds nothing, and the loop back frees what the
instances before it hold. -/
theorem LoopInv.unwinds {after : NsInstance} {rest : Heap}
    {later : List Nat} (inv : LoopInv world nn past loop)
    (parts : world.nsList.take nn = past ++ later)
    (positive : 0 < nsid) (small : nsid ≤ nn)
    (others : ∀ new, total held (loop.group.ns.set (nsid - 1) new) =
      held new + rest) (clear : held after = 0) :
    exitNsInstance world loop.i (loop.group.ns.set (nsid - 1) after)
      (held after + (base + rest)) = .ok base := by
  have made := inv.made
  have whole := whole_list parts
  have taken : world.nsList.take loop.i = past := by
    rw [whole, inv.i, List.take_left]
  have inside : loop.i ≤ world.nsList.length := by
    rw [whole, inv.i, List.length_append]
    exact Nat.le_add_right _ _
  have length : (loop.group.ns.set (nsid - 1) after).length = nn :=
    List.length_set.trans made.length
  rw [add_left_comm, ← others]
  refine exitNsInstance_frees base loop.i inside ?_ ?_
  · rw [taken, length]
    exact made.small
  · rw [taken]
    intro i ns element absent
    by_cases same : nsid - 1 = i
    · subst same
      rw [List.getElem?_set_self (by rw [made.length]; omega)] at element
      cases element
      exact clear
    · rw [List.getElem?_set_ne same] at element
      exact made.filled.heldBy i ns element absent

/-- The instance of the next namespace is clear, and all that is live is held
apart from it. -/
theorem LoopInv.clear (inv : LoopInv world nn past loop) (positive : 0 < nsid)
    (small : nsid ≤ nn) (larger : ∀ earlier ∈ past, earlier < nsid) :
    loop.group.ns[nsid - 1]? = some clearInstance ∧
      ∃ rest, loop.heap = base + rest ∧
        ∀ new, total held (loop.group.ns.set (nsid - 1) new) =
          held new + rest := by
  have made := inv.made
  have inside : nsid - 1 < loop.group.ns.length := by
    rw [made.length]
    omega
  have fresh : nsid - 1 + 1 ∉ past := by
    rw [Nat.sub_add_cancel positive]
    exact fun member => absurd (larger nsid member) (lt_irrefl nsid)
  have there := List.getElem?_eq_getElem inside
  have clear := made.filled.outside _ _ there fresh
  rw [clear] at there
  obtain ⟨rest, before, others⟩ := held_split there
  refine ⟨there, rest, ?_, others⟩
  rw [made.heap, before]
  exact congrArg (base + ·) (zero_add rest)

/-- The loop ends in one of the three ways, or is stopped at an entry that is
refused.  The induction is on the part of the list that is left. -/
theorem initLoop_ends (later : List Nat) :
    ∀ {past : List Nat} {loop : Loop},
      world.nsList.take nn = past ++ later → LoopInv world nn past loop →
      (¬Smooth world nn past (later.takeWhile fun entry => entry ≠ 0) ∧
        ∃ stop, initLoop world nn later.length loop = .error stop) ∨
      ∃ label last, initLoop world nn later.length loop = .ok (label, last) ∧
        LoopEnds world nn past (later.takeWhile fun entry => entry ≠ 0)
          label last := by
  induction later with
  | nil =>
      intro past loop _ inv
      refine .inr ⟨.done, loop, rfl, .done .nil ?_⟩
      rw [List.takeWhile_nil, List.takeWhile_nil, List.append_nil]
      exact inv.made
  | cons nsid later ih =>
      intro past loop parts inv
      have made := inv.made
      have here : world.nsList[loop.i]? = some nsid := by
        rw [whole_list parts, inv.i, List.getElem?_append_right (le_refl _),
          Nat.sub_self]
        rfl
      by_cases some_ : nsid = 0
      · subst some_
        refine .inr ⟨.done, loop, initLoop_zero here, ?_⟩
        rw [List.takeWhile_cons_of_neg (by simp)]
        refine .done .nil ?_
        rw [List.takeWhile_nil, List.append_nil]
        exact made
      · have positive := Nat.pos_of_ne_zero some_
        rw [List.takeWhile_cons_of_pos (by simpa using some_)]
        by_cases order : loop.last < nsid
        · have larger := (inv.last nsid positive).mp order
          by_cases small : nsid ≤ nn
          · obtain ⟨there, rest, heap, others⟩ := inv.clear positive small
              larger
            have turn := @initLoop_instance world nn nsid later.length loop
              here some_ order small there
            rw [heap] at turn
            by_cases size : IdRead world nsid → SizeOk world nsid
            · obtain ⟨ret, after, ends, how⟩ := initNsInstance_ends size
                (base + rest)
              rw [ends] at turn
              cases how with
              | ready all initialised =>
                  have next := inv.turned positive small larger others
                    initialised
                  have onward := ih (by
                    rw [parts, List.append_assoc]
                    rfl) next
                  change initLoop world nn (later.length + 1) loop = initLoop
                    world nn later.length (counted (turned loop nsid
                      ⟨0, after, held after + (base + rest)⟩)) at turn
                  rcases onward with ⟨rough, stop, stops⟩ |
                    ⟨label, last, done, ends⟩
                  · exact .inl ⟨fun smooth => rough (smooth.tail small all),
                      stop, turn.trans stops⟩
                  · exact .inr ⟨label, last, turn.trans done,
                      ends.before larger small size all⟩
              | failed unready negative none_ =>
                  refine .inr ⟨.exitNsInstance, _,
                    turn.trans (if_pos negative), .failed ?_ ?_ negative ?_⟩
                  · exact .cons larger (fun _ => size)
                      fun _ all => absurd all unready
                  · rw [List.takeWhile_cons_of_pos (by simpa using small)]
                    exact List.cons_ne_nil _ _
                  · exact inv.unwinds parts positive small others none_
            · obtain ⟨read, wrong⟩ := Classical.not_imp.mp size
              obtain ⟨stop, stops⟩ := @initNsInstance_stops world
                (base + rest) nsid read wrong
              rw [stops] at turn
              exact .inl ⟨fun smooth => size (smooth.head.2 small), stop,
                turn⟩
          · have beyond := Nat.lt_of_not_le small
            refine .inr ⟨.done, _, initLoop_beyond here some_ order beyond,
              .done ?_ ?_⟩
            · exact .cons larger (fun below => absurd below small)
                fun below => absurd below small
            · rw [List.takeWhile_cons_of_neg (by simpa using beyond),
                List.append_nil]
              exact made
        · refine .inr ⟨.freeNsList, loop,
            initLoop_order here some_ (Nat.le_of_not_lt order),
            .refused ?_ inv.ret made.heap made.filled.group_notMem⟩
          exact fun smooth => order ((inv.last nsid positive).mpr
            smooth.head.1)

end Loops

/-! ## The result -/

section Groups

variable {world : World} {nn : Nat} {loop : Loop} {rest : Heap}

theorem freeNsList_frees (before : Option NsGroup) (ret : Int)
    (rest : Heap) :
    freeNsList before ret (base + rest) = .ok ⟨ret, before, rest⟩ := by
  have parts : base + rest = .list ::ₘ .group ::ₘ rest := by
    unfold base
    rw [Multiset.cons_add, Multiset.cons_add, zero_add]
  unfold freeNsList
  rw [parts, free_cons]
  dsimp only [bind, Except.bind]
  rw [free_cons]
  rfl

/-- The variables at the begin of the loop. -/
def startLoop (nn : Nat) : Loop :=
  ⟨0, 0, 0, ⟨nn, 0, none, List.replicate nn clearInstance⟩, base⟩

theorem startLoop_inv (world : World) (nn : Nat) :
    LoopInv world nn [] (startLoop nn) := by
  refine ⟨⟨List.length_replicate, rfl, rfl, .nil, ?_, .start world nn, ?_⟩,
    rfl, ?_, rfl⟩
  · exact fun _ never => absurd never List.not_mem_nil
  · have nothing : total held (List.replicate nn clearInstance) = 0 :=
      total_eq_zero fun ns member => by
        rw [List.eq_of_mem_replicate member]
        rfl
    change base = base + total held (List.replicate nn clearInstance)
    rw [nothing, add_zero]
  · exact fun nsid positive =>
      ⟨fun _ _ never => absurd never List.not_mem_nil, fun _ => positive⟩

/-- The loop over the whole list. -/
theorem initLoop_startLoop (limited : nn ≤ 1024) :
    (¬Smooth world nn [] (entries world nn) ∧
      ∃ stop, initLoop world nn nn (startLoop nn) = .error stop) ∨
    ∃ label last, initLoop world nn nn (startLoop nn) = .ok (label, last) ∧
      LoopEnds world nn [] (entries world nn) label last := by
  have length : (world.nsList.take nn).length = nn := by
    rw [List.length_take, world.nsListLength]
    exact Nat.min_eq_left limited
  have ends := @initLoop_ends world nn (world.nsList.take nn) [] (startLoop nn)
    rfl (startLoop_inv world nn)
  rwa [length] at ends

/-- A group with an instance is returned. -/
theorem finish_done (before : Option NsGroup)
    (made : Made world nn (leading world nn) loop.group loop.heap)
    (some_ : leading world nn ≠ []) :
    ∃ outcome group, finish world before .done loop = .ok outcome ∧
      outcome.ret = 0 ∧ Complete world nn outcome group := by
  have count : loop.group.nrAct ≠ 0 := by
    rw [made.nrAct]
    exact fun zero => some_ (List.length_eq_zero_iff.mp zero)
  refine ⟨_, { loop.group with actList := some .list }, if_neg count, rfl,
    ⟨rfl, rfl, ⟨made.nrNs, made.length⟩, made.nrAct,
      made.sorted.imp ne_of_lt, made.filled, ?_⟩⟩
  refine made.heap.trans ?_
  unfold base
  rw [Multiset.cons_add, Multiset.cons_add, zero_add]

/-- With memory for the list and the list itself the function runs its
loop. -/
theorem initNsGroupOf_lists (before : Option NsGroup)
    (group : world.memory .group = true) (list : world.memory .list = true)
    (read : nvmeIdentifyNsListActive world = 0) :
    initNsGroupOf world before nn =
      (initLoop world nn nn (startLoop nn) >>= fun ended =>
        finish world before ended.1 ended.2) := by
  unfold initNsGroupOf
  rw [group, list, read]
  rfl

/-- What the function returns for a list that is not refused. -/
theorem initNsGroupOf_smooth (before : Option NsGroup)
    (limited : nn ≤ 1024) (group : world.memory .group = true)
    (list : world.memory .list = true)
    (read : nvmeIdentifyNsListActive world = 0)
    (some_ : leading world nn ≠ [])
    (smooth : Smooth world nn [] (entries world nn)) :
    ∃ outcome, initNsGroupOf world before nn = .ok outcome ∧
      ((outcome.ret = 0 ∧ ∃ group, Complete world nn outcome group) ∨
        (outcome.ret < 0 ∧ outcome.nsGrp = before ∧ outcome.heap = 0)) := by
  rw [initNsGroupOf_lists before group list read]
  rcases @initLoop_startLoop world nn limited with ⟨rough, _⟩ |
    ⟨label, last, done, ends⟩
  · exact absurd smooth rough
  · rw [done]
    cases ends with
    | done _ made =>
        obtain ⟨outcome, built, returns, zero, complete⟩ :=
          finish_done before made some_
        exact ⟨outcome, returns, .inl ⟨zero, built, complete⟩⟩
    | failed _ _ negative unwinds =>
        refine ⟨⟨last.ret, before, 0⟩, ?_, .inr ⟨negative, rfl, rfl⟩⟩
        change (exitNsInstance world last.i last.group.ns last.heap >>= _) = _
        rw [unwinds]
        exact (congrArg (freeNsList before last.ret) (add_zero base).symm).trans
          (freeNsList_frees before last.ret 0)
    | refused rough => exact absurd smooth rough

/-- A list that is refused is left with zero, or stops the program. -/
theorem initNsGroupOf_rough {before : Option NsGroup} {outcome : Outcome}
    (limited : nn ≤ 1024) (group : world.memory .group = true)
    (list : world.memory .list = true)
    (read : nvmeIdentifyNsListActive world = 0)
    (refused : ¬(leading world nn ≠ [] ∧
      Smooth world nn [] (entries world nn)))
    (done : initNsGroupOf world before nn = .ok outcome) :
    outcome.ret = 0 ∧ Object.group ∉ outcome.heap := by
  rw [initNsGroupOf_lists before group list read] at done
  rcases @initLoop_startLoop world nn limited with ⟨_, stop, stops⟩ |
    ⟨label, last, loops, ends⟩
  · rw [stops] at done
    cases done
  · rw [loops] at done
    cases ends with
    | done smooth made =>
        have empty : leading world nn = [] := by
          by_contra some_
          exact refused ⟨some_, smooth⟩
        have zero : last.group.nrAct = 0 := by
          rw [made.nrAct]
          exact congrArg List.length empty
        change (if last.group.nrAct = 0 then _ else _) = _ at done
        rw [if_pos zero] at done
        cases done
    | failed smooth some_ => exact absurd ⟨some_, smooth⟩ refused
    | refused _ ret heap apart =>
        change freeNsList before last.ret last.heap = _ at done
        rw [heap, freeNsList_frees] at done
        cases done
        exact ⟨ret, apart⟩

/-- Without memory for the list the function returns the zero of the step
before. -/
theorem initNsGroupOf_no_list {before : Option NsGroup}
    (group : world.memory .group = true)
    (list : world.memory .list = false) :
    initNsGroupOf world before nn = .ok ⟨0, before, 0⟩ := by
  unfold initNsGroupOf
  rw [group, list, free_cons]
  rfl

theorem initNsGroupOf_no_group {before : Option NsGroup}
    (group : world.memory .group = false) :
    initNsGroupOf world before nn = .ok ⟨-Errno.ENOMEM, before, 0⟩ := by
  unfold initNsGroupOf
  rw [group]
  rfl

theorem initNsGroupOf_unread {before : Option NsGroup}
    (group : world.memory .group = true) (list : world.memory .list = true)
    (fails : nvmeIdentifyNsListActive world < 0) :
    initNsGroupOf world before nn =
      .ok ⟨nvmeIdentifyNsListActive world, before, 0⟩ := by
  unfold initNsGroupOf
  rw [group, list]
  refine (if_neg Bool.false_ne_true).trans ((if_neg Bool.false_ne_true).trans
    ((if_pos fails).trans ?_))
  exact (congrArg (freeNsList before _) (add_zero base).symm).trans
    (freeNsList_frees before _ 0)

end Groups

/-! ## All or nothing -/

section Result

variable {world : World} {before : Option NsGroup}

/-- A return of zero without the group is neither all nor nothing. -/
theorem not_allOrNothing {outcome : Outcome}
    (done : initNsGroup world before = .ok outcome) (zero : outcome.ret = 0)
    (apart : Object.group ∉ outcome.heap) : ¬AllOrNothing world before := by
  rintro ⟨other, same, ends⟩
  rw [done] at same
  cases same
  rcases ends with ⟨_, nn, group, _, complete⟩ | ⟨negative, _⟩
  · rw [complete.heap] at apart
    exact apart (Multiset.mem_cons_of_mem (Multiset.mem_cons_self _ _))
  · omega

theorem allOrNothing_of_orderly (orderly : Orderly world)
    (before : Option NsGroup) : AllOrNothing world before := by
  unfold AllOrNothing initNsGroup
  cases count : world.nn with
  | none =>
      exact ⟨_, rfl, .inr ⟨show -Errno.ENODEV < 0 by decide, rfl, rfl⟩⟩
  | some nn =>
      have limited : min nn 1024 ≤ 1024 := Nat.min_le_right nn 1024
      cases group : world.memory .group with
      | false =>
          exact ⟨_, initNsGroupOf_no_group group,
            .inr ⟨show -Errno.ENOMEM < 0 by decide, rfl, rfl⟩⟩
      | true =>
          obtain ⟨list, onward⟩ := orderly nn count group
          rcases nvmeIdentify_cases world.nsListSteps with read | fails
          · obtain ⟨some_, smooth⟩ := onward read
            obtain ⟨outcome, done, ends⟩ := initNsGroupOf_smooth before
              limited group list read some_ smooth
            refine ⟨outcome, done, ends.imp ?_ id⟩
            rintro ⟨zero, built, complete⟩
            exact ⟨zero, nn, built, rfl, complete⟩
          · exact ⟨_, initNsGroupOf_unread group list fails,
              .inr ⟨fails, rfl, rfl⟩⟩

theorem orderly_of_allOrNothing (holds : AllOrNothing world before) :
    Orderly world := by
  intro nn count group
  have runs : initNsGroup world before =
      initNsGroupOf world before (min nn 1024) := by
    unfold initNsGroup
    rw [count]
    rfl
  have list : world.memory .list = true := by
    by_contra missing
    rw [Bool.not_eq_true] at missing
    exact not_allOrNothing
      (runs.trans (initNsGroupOf_no_list group missing)) rfl
      (Multiset.notMem_zero _) holds
  refine ⟨list, fun read => ?_⟩
  by_contra refused
  have returns := holds
  obtain ⟨outcome, done, _⟩ := returns
  obtain ⟨zero, apart⟩ := initNsGroupOf_rough (Nat.min_le_right nn 1024)
    group list read refused (runs.symm.trans done)
  exact not_allOrNothing done zero apart holds

/-- The initialisation of the namespaces is all or nothing exactly when there
is memory for the list, and the list starts with a namespace and is not
refused at an entry that is reached. -/
theorem initNsGroup_allOrNothing_iff (world : World)
    (before : Option NsGroup) :
    AllOrNothing world before ↔ Orderly world :=
  ⟨orderly_of_allOrNothing, fun orderly =>
    allOrNothing_of_orderly orderly before⟩

/-- A controller with the list 2, 1 that answers all commands. -/
def unsortedWorld : World where
  nn := some 4
  vs := nvmeVs 1 4 0
  memory := fun _ => true
  nsListSteps := ⟨0, 0, 1, 0⟩
  nsList := 2 :: 1 :: List.replicate 1022 0
  idNsSteps := fun _ => ⟨0, 0, 1, 0⟩
  idNs := fun _ => ⟨0, List.replicate 64 ⟨0, 9⟩, rfl⟩
  descSteps := fun _ => ⟨0, 0, 1, 0⟩
  desc := fun _ => 0 :: List.replicate 4095 0
  csNsSteps := fun _ _ => ⟨0, 0, 1, 0⟩
  nsListLength := by
    rw [List.length_cons, List.length_cons, List.length_replicate]
  descLength := fun _ => by
    rw [List.length_cons, List.length_replicate]
    rfl

theorem unsortedWorld_initialises (nsid : Nat) :
    Initialises unsortedWorld nsid := by
  refine ⟨⟨rfl, rfl⟩, ⟨rfl, rfl, [], List.nodup_nil, _, rfl⟩, ?_⟩
  rintro csi ⟨recent, _⟩
  exact absurd recent (by decide)

/-- The list out of order is left with zero and an instance that is leaked,
and so is a list without memory. -/
theorem initNsGroup_not_allOrNothing :
    ¬AllOrNothing unsortedWorld none ∧
      ¬AllOrNothing { unsortedWorld with
        memory := fun object => decide (object ≠ .list) } none := by
  constructor
  · intro holds
    have orderly := orderly_of_allOrNothing holds
    have smooth := ((orderly 4 rfl rfl).2 rfl).2
    have order := (smooth [2] 1 [] rfl fun nsid member => by
      cases List.mem_singleton.mp member
      exact ⟨by decide, unsortedWorld_initialises 2⟩).1 2 (by decide)
    exact absurd order (by decide)
  · intro holds
    have list := (orderly_of_allOrNothing holds 4 rfl rfl).1
    exact absurd list (by decide)

end Result

end Dnvme.Nvme.Namespaces
