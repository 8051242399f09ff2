import Dnvme.Lib.LaggedRing
import Dnvme.Driver.Effect
import Dnvme.Driver.PrpReading

/-!
# The submission queue as a ring

A submission queue has three positions in the driver: the tail up to which
commands were written, the tail that was announced with the doorbell, and the
head that the last reaped completion reported.  The device has a fourth one,
its own head.  This module runs the driver against a device that fetches what
was announced and reports its head in completions, with everything in any
order, and shows that commands reach the device in the order of submission,
each once, and are never overwritten before.
-/

namespace Dnvme.Driver.SqRing

open Dnvme.Lib.LaggedRing

/-! ## Driver and device -/

/-- An accepted submission: its node and the command in its slot. -/
structure Submission where
  node : NvmeCmd
  command : NvmeCommonCommand

/-- The driver, the device and what passed between them on one queue.
`submitted` and `fetched` are histories; `inFlight` are the completions of the
queue that were posted and not reaped. -/
structure SqSystem where
  ndev : NvmeDevice
  head : Nat
  submitted : List Submission
  fetched : List NvmeCommonCommand
  inFlight : List NvmeCompletion

/-- What a submission added to the queue: the last node of its list and the
content of the slot that was its tail. -/
def added (qid : Nat) (before after : NvmeDevice) : Option Submission := do
  let old ← before.findSq qid
  let new ← after.findSq qid
  let node ← new.cmdList.getLast?
  return ⟨node, new.entries old.tailPtrVirt⟩

/-- One step of the driver or of the device. -/
inductive SqStep (qid : Nat) : SqSystem → SqSystem → Prop where
  | submit {s : SqSystem} {env : SubmitEnv} {cmd : Nvme64bCmd} {ret : Int}
      {next : NvmeDevice}
      (done : dnvmeSubmit64bCmd env s.ndev cmd = .ok (ret, next)) :
      SqStep qid s
        { s with
          ndev := next
          submitted := s.submitted ++
            if ret = 0 ∧ cmd.sqid = qid then (added qid s.ndev next).toList
            else [] }
  | ring {s : SqSystem} (id : Nat) :
      SqStep qid s { s with ndev := (dnvmeRingSqDoorbell s.ndev id).2 }
  /-- The device reads the slot at its head, which is not the tail it was
  told. -/
  | fetch {s : SqSystem} {sq : NvmeSq}
      (found : s.ndev.findSq qid = some sq) (rung : s.head ≠ sq.db) :
      SqStep qid s
        { s with
          head := (s.head + 1) % sq.elements
          fetched := s.fetched ++ [sq.entries s.head] }
  | post {s : SqSystem} {entry : NvmeCompletion} (own : entry.sqId = qid)
      (head : entry.sqHead = s.head) :
      SqStep qid s { s with inFlight := s.inFlight ++ [entry] }
  | reap {s : SqSystem} {entry : NvmeCompletion}
      {rest : List NvmeCompletion} (own : entry.sqId = qid)
      (first : s.inFlight = entry :: rest) :
      SqStep qid s
        { s with
          ndev := (handleCmdCompletion s.ndev entry).2
          inFlight := rest }
  | reapOther {s : SqSystem} (entry : NvmeCompletion)
      (other : entry.sqId ≠ qid) :
      SqStep qid s { s with ndev := (handleCmdCompletion s.ndev entry).2 }

/-- The system right after the queue was allocated. -/
def SqSystem.start (ndev : NvmeDevice) : SqSystem := ⟨ndev, 0, [], [], []⟩

/-! ## The invariant -/

/-- The queue object and the device agree on the positions. -/
structure InStep (size : Nat) (s : SqSystem) (sq : NvmeSq)
    (reported announced : Nat) : Prop where
  elements : sq.elements = size
  lagged : Lagged size reported s.fetched.length announced s.submitted.length
  tailPtrVirt : sq.tailPtrVirt = s.submitted.length % size
  tailPtr : sq.tailPtr = announced % size
  db : sq.db = announced % size
  headPtr : sq.headPtr = reported % size
  head : s.head = s.fetched.length % size
  reports : Reports size s.fetched.length reported
    (s.inFlight.map NvmeCompletion.sqHead)
  /-- What was not fetched is still in its slot. -/
  slots : ∀ k sub, s.fetched.length ≤ k → s.submitted[k]? = some sub →
    sq.entries (k % size) = sub.command
  nodes : ∀ node ∈ sq.cmdList, ∃ sub ∈ s.submitted, sub.node = node
  /-- The memory of a discontiguous queue comes with its create command, and
  nothing is written before. -/
  memory : sq.contig = true ∨ sq.created = true ∨ s.submitted = []
  attached : sq.prps ≠ none → sq.created = true

/-- What holds in every state, whether the queue still exists or not. -/
structure Invariant (qid size : Nat) (s : SqSystem) : Prop where
  keyed : Keyed s.ndev
  inOrder : s.fetched <+: s.submitted.map Submission.command
  near : s.submitted.length < s.fetched.length + size
  idx : ∀ k sub, s.submitted[k]? = some sub → sub.node.idx = k % size
  cid : ∀ sub ∈ s.submitted, sub.node.cid = sub.command.commandId
  queue : ∀ sq, s.ndev.findSq qid = some sq →
    ∃ reported announced, InStep size s sq reported announced

variable {qid size : Nat} {s : SqSystem} {sq : NvmeSq}
  {reported announced : Nat}

/-! ## Steps that leave the histories alone -/

/-- The object may change where the positions do not depend on it. -/
theorem InStep.of_same (inStep : InStep size s sq reported announced)
    (ndev : NvmeDevice) (nextCid : Nat) :
    InStep size { s with ndev := ndev } { sq with nextCid := nextCid }
      reported announced :=
  { inStep with }

theorem InStep.ring (inStep : InStep size s sq reported announced)
    (ndev : NvmeDevice) :
    InStep size { s with ndev := ndev }
      { sq with tailPtr := sq.tailPtrVirt, db := sq.tailPtrVirt } reported
      s.submitted.length :=
  { inStep with
    lagged := inStep.lagged.announce
    tailPtr := inStep.tailPtrVirt
    db := inStep.tailPtrVirt }

theorem Invariant.ring (invariant : Invariant qid size s) (id : Nat) :
    Invariant qid size
      { s with ndev := (dnvmeRingSqDoorbell s.ndev id).2 } := by
  refine { invariant with
    keyed := Keyed.effects (dnvmeRingSqDoorbell_effects id :
      Effects (fun _ _ _ => True) _ _) invariant.keyed
    queue := ?_ }
  intro later found
  unfold dnvmeRingSqDoorbell at found ⊢
  cases here : s.ndev.findSq id with
  | none =>
      rw [here] at found
      rcases invariant.queue later found with ⟨reported, announced, inStep⟩
      exact ⟨reported, announced, { inStep with }⟩
  | some sq =>
      rw [here] at found
      rcases findSq_setSq_cases found with ⟨rfl, rfl⟩ | ⟨_, same⟩
      · rcases invariant.queue sq here with ⟨reported, announced, inStep⟩
        exact ⟨reported, _, inStep.ring _⟩
      · rcases invariant.queue later same with ⟨reported, announced, inStep⟩
        exact ⟨reported, announced, { inStep with }⟩

/-! ## The device -/

theorem InStep.fetch (inStep : InStep size s sq reported announced)
    (rung : s.head ≠ sq.db) (command : NvmeCommonCommand) :
    InStep size
      { s with
        head := (s.head + 1) % sq.elements
        fetched := s.fetched ++ [command] } sq reported announced := by
  have longer : (s.fetched ++ [command]).length = s.fetched.length + 1 :=
    List.length_append
  have apart : s.fetched.length % size ≠ announced % size := by
    rw [← inStep.head, ← inStep.db]
    exact rung
  refine { inStep with lagged := ?_, head := ?_, reports := ?_, slots := ?_ }
  · rw [longer]
    exact inStep.lagged.take apart
  · rw [inStep.head, inStep.elements, longer, Nat.mod_add_mod]
  · rw [longer]
    exact inStep.reports.mono (Nat.le_succ _)
  · intro k sub pending here
    rw [longer] at pending
    exact inStep.slots k sub (by omega) here

/-- The device fetches the next command. -/
theorem InStep.fetched_next (inStep : InStep size s sq reported announced)
    (rung : s.head ≠ sq.db) :
    ∃ sub, s.submitted[s.fetched.length]? = some sub ∧
      sq.entries s.head = sub.command := by
  have apart : s.fetched.length % size ≠ announced % size := by
    rw [← inStep.head, ← inStep.db]
    exact rung
  have more := (inStep.lagged.take apart).taken_le
  have bound := inStep.lagged.announced_le
  have inside : s.fetched.length < s.submitted.length := by omega
  refine ⟨s.submitted[s.fetched.length], List.getElem?_eq_getElem inside, ?_⟩
  rw [inStep.head]
  exact inStep.slots _ _ le_rfl (List.getElem?_eq_getElem inside)

theorem Invariant.fetch (invariant : Invariant qid size s)
    (found : s.ndev.findSq qid = some sq) (rung : s.head ≠ sq.db) :
    Invariant qid size
      { s with
        head := (s.head + 1) % sq.elements
        fetched := s.fetched ++ [sq.entries s.head] } := by
  rcases invariant.queue sq found with ⟨reported, announced, inStep⟩
  rcases inStep.fetched_next rung with ⟨sub, next, content⟩
  refine { invariant with inOrder := ?_, near := ?_, queue := ?_ }
  · have known := List.prefix_iff_eq_take.mp invariant.inOrder
    refine List.prefix_iff_eq_take.mpr ?_
    have mapped : (s.submitted.map Submission.command)[s.fetched.length]? =
        some sub.command := by
      rw [List.getElem?_map, next, Option.map_some]
    rw [List.length_append, List.length_singleton, List.take_add_one, mapped,
      ← known, content, Option.toList_some]
  · rw [List.length_append]
    exact Nat.lt_of_lt_of_le invariant.near (by omega)
  · intro later again
    rw [found] at again
    cases again
    exact ⟨reported, announced, inStep.fetch rung _⟩

theorem InStep.post (inStep : InStep size s sq reported announced)
    {entry : NvmeCompletion} (head : entry.sqHead = s.head) :
    InStep size { s with inFlight := s.inFlight ++ [entry] } sq reported
      announced := by
  refine { inStep with reports := ?_ }
  rw [List.map_append, List.map_singleton, head, inStep.head]
  exact inStep.reports.concat

theorem Invariant.post (invariant : Invariant qid size s)
    {entry : NvmeCompletion} (head : entry.sqHead = s.head) :
    Invariant qid size { s with inFlight := s.inFlight ++ [entry] } := by
  refine { invariant with queue := ?_ }
  intro sq found
  rcases invariant.queue sq found with ⟨reported, announced, inStep⟩
  exact ⟨reported, announced, inStep.post head⟩

/-! ## Completions -/

theorem InStep.reap (inStep : InStep size s sq reported announced)
    {entry : NvmeCompletion} {rest : List NvmeCompletion}
    (first : s.inFlight = entry :: rest) (ndev : NvmeDevice)
    {cmdList : List NvmeCmd} (fewer : cmdList.Sublist sq.cmdList) :
    ∃ reported, InStep size { s with ndev := ndev, inFlight := rest }
      { sq with headPtr := entry.sqHead, cmdList := cmdList } reported
      announced := by
  have reports := inStep.reports
  rw [first, List.map_cons] at reports
  generalize slot : entry.sqHead = head at reports
  cases reports with
  | @cons _ here _ newer reports =>
      exact ⟨here, { inStep with
        lagged := inStep.lagged.report newer reports.low_le
        headPtr := rfl
        reports := reports
        nodes := fun node member =>
          inStep.nodes node (fewer.subset member) }⟩

theorem Invariant.reap (invariant : Invariant qid size s)
    {entry : NvmeCompletion} {rest : List NvmeCompletion}
    (own : entry.sqId = qid) (first : s.inFlight = entry :: rest) :
    Invariant qid size
      { s with
        ndev := (handleCmdCompletion s.ndev entry).2
        inFlight := rest } := by
  have completed := handleCmdCompletion_completed s.ndev entry
  refine { invariant with
    keyed := Keyed.effects (completed.effects invariant.keyed :
      Effects (fun _ _ _ => True) _ _) invariant.keyed
    queue := ?_ }
  intro later found
  rcases completed.sq_after found with ⟨sq, before, after⟩
  have equal := after.equal
  rw [if_pos own.symm] at equal
  rcases invariant.queue sq before with ⟨_, announced, inStep⟩
  rcases inStep.reap first (handleCmdCompletion s.ndev entry).2
    after.sublist with ⟨reported, moved⟩
  rw [← equal] at moved
  exact ⟨reported, announced, moved⟩

theorem Invariant.reapOther (invariant : Invariant qid size s)
    {entry : NvmeCompletion} (other : entry.sqId ≠ qid) :
    Invariant qid size
      { s with ndev := (handleCmdCompletion s.ndev entry).2 } := by
  have completed := handleCmdCompletion_completed s.ndev entry
  refine { invariant with
    keyed := Keyed.effects (completed.effects invariant.keyed :
      Effects (fun _ _ _ => True) _ _) invariant.keyed
    queue := ?_ }
  intro later found
  rcases completed.sq_after found with ⟨sq, before, after⟩
  have equal := after.equal
  rw [if_neg other.symm] at equal
  subst equal
  rcases invariant.queue later before with ⟨reported, announced, inStep⟩
  exact ⟨reported, announced, { inStep with }⟩

/-! ## Submissions -/

section Submit

variable {env : SubmitEnv} {cmd : Nvme64bCmd} {next : NvmeDevice}
  {source : NvmeSq} {ccmd filled : NvmeCommonCommand}
  {prps : Option NvmePrps}

/-- A create command gives a queue its memory before anything was written
into it. -/
theorem InStep.created (inStep : InStep size s sq reported announced)
    (accepted : Submitted env cmd s.ndev next source ccmd filled prps)
    (found : s.ndev.findSq qid = some sq) (ndev : NvmeDevice) :
    InStep size { s with ndev := ndev }
      (createdSq env cmd ccmd s.ndev.nextObject prps.isSome qid sq) reported
      announced := by
  unfold createdSq
  split
  · rename_i creates
    rcases accepted.target.sq qid creates with ⟨_, here, fresh, _⟩
    rw [found] at here
    cases here
    split
    · refine { inStep with
        slots := fun k sub pending here => ?_
        memory := Or.inr (Or.inl rfl)
        attached := fun _ => rfl }
      rcases inStep.memory with contig | old | nothing
      · have kept := inStep.slots k sub pending here
        simpa [NvmeSq.attach, contig] using kept
      · rw [fresh] at old
        cases old
      · rw [nothing] at here
        cases here
    · exact { inStep with
        memory := Or.inr (Or.inl rfl)
        attached := fun _ => rfl }
  · exact { inStep with }

/-- Taking a command moves the tail by one slot. -/
theorem InStep.enqueue (inStep : InStep size s sq reported announced)
    (small : size ≤ 2 ^ 16) (notFull : dnvmeSqIsFull sq = false)
    (memory : sq.contig = true ∨ sq.prps ≠ none) (node : NvmeCmd)
    (filled : NvmeCommonCommand) (ndev : NvmeDevice) :
    InStep size
      { s with
        ndev := ndev
        submitted := s.submitted ++ [⟨node, filled⟩] }
      (enqueued filled node sq) reported announced := by
  have longer : (s.submitted ++ [(⟨node, filled⟩ : Submission)]).length =
      s.submitted.length + 1 := List.length_append
  have positive := inStep.lagged.size_pos
  have room : (s.submitted.length + 1) % size ≠ reported % size := by
    rw [← Nat.mod_add_mod, ← inStep.tailPtrVirt, ← inStep.headPtr,
      ← inStep.elements]
    simpa [dnvmeSqIsFull] using notFull
  have written := inStep.lagged.write room
  refine { inStep with
    lagged := ?_
    tailPtrVirt := ?_
    slots := ?_
    nodes := ?_
    memory := ?_ }
  · rw [longer]
    exact written
  · have below : (s.submitted.length + 1) % size < 2 ^ 16 :=
      (Nat.mod_lt _ positive).trans_le small
    unfold enqueued
    rw [longer, inStep.tailPtrVirt, inStep.elements, Nat.mod_add_mod, u16,
      Nat.mod_eq_of_lt below]
  · intro k sub pending here
    change Function.update sq.entries sq.tailPtrVirt filled (k % size) = _
    rw [inStep.tailPtrVirt]
    rcases Nat.lt_trichotomy k s.submitted.length with old | rfl | beyond
    · rw [List.getElem?_append_left old] at here
      rw [Function.update_of_ne
        (inStep.lagged.slot_ne_written pending old)]
      exact inStep.slots k sub pending here
    · rw [List.getElem?_concat_length] at here
      cases here
      exact Function.update_self _ _ _
    · rw [List.getElem?_eq_none (by rw [longer]; omega)] at here
      cases here
  · intro other member
    rcases List.mem_append.mp member with old | new
    · rcases inStep.nodes other old with ⟨sub, listed, equal⟩
      exact ⟨sub, List.mem_append_left _ listed, equal⟩
    · rw [List.mem_singleton] at new
      exact ⟨⟨node, filled⟩,
        List.mem_append_right _ (List.mem_singleton_self _), new.symm⟩
  · rcases memory with contig | paged
    · exact Or.inl contig
    · exact Or.inr (Or.inl (inStep.attached paged))

/-- A create command leaves the positions alone. -/
theorem createdSq_position (object : Nat) (paged : Bool) (id : Nat) :
    (createdSq env cmd ccmd object paged id sq).tailPtrVirt =
        sq.tailPtrVirt ∧
      (createdSq env cmd ccmd object paged id sq).headPtr = sq.headPtr ∧
      (createdSq env cmd ccmd object paged id sq).elements =
        sq.elements := by
  unfold createdSq
  split
  · split <;> exact ⟨rfl, rfl, rfl⟩
  · exact ⟨rfl, rfl, rfl⟩

/-- What an accepted submission to the queue adds. -/
theorem added_eq_some
    (accepted : Submitted env cmd s.ndev next source ccmd filled prps) :
    added cmd.sqid s.ndev next = some
      ⟨submittedNode s.ndev.nextObject source cmd ccmd prps.isSome,
        filled⟩ := by
  have after := accepted.findSq cmd.sqid
  rw [accepted.found, Option.map_some, if_pos rfl] at after
  have kept := (@createdSq_position source env cmd ccmd s.ndev.nextObject
    prps.isSome cmd.sqid).1
  simp [added, accepted.found, after, enqueued, kept]

theorem Invariant.refused (invariant : Invariant qid size s)
    (refused : SubmitRefused cmd s.ndev next) :
    Invariant qid size { s with ndev := next } := by
  refine { invariant with
    keyed := Keyed.effects (refused.effects :
      Effects (fun _ _ _ => True) _ _) invariant.keyed
    queue := ?_ }
  intro later found
  rcases refused with ⟨_, _, same | ⟨sq, cid, here, _, changed⟩⟩
  · rw [same] at found
    rcases invariant.queue later found with ⟨reported, announced, inStep⟩
    exact ⟨reported, announced, { inStep with }⟩
  · rw [changed] at found
    rcases findSq_setSq_cases found with ⟨rfl, rfl⟩ | ⟨_, same⟩
    · rcases invariant.queue sq here with ⟨reported, announced, inStep⟩
      exact ⟨reported, announced, inStep.of_same _ _⟩
    · rcases invariant.queue later same with ⟨reported, announced, inStep⟩
      exact ⟨reported, announced, { inStep with }⟩

/-- A submission to another queue can only give this one its memory. -/
theorem Invariant.acceptedOther (invariant : Invariant qid size s)
    (accepted : Submitted env cmd s.ndev next source ccmd filled prps)
    (other : cmd.sqid ≠ qid) : Invariant qid size { s with ndev := next } := by
  refine { invariant with
    keyed := Keyed.effect (.submit accepted trivial :
      Effect (fun _ _ _ => True) _ _) invariant.keyed
    queue := ?_ }
  intro later found
  rw [accepted.findSq] at found
  rcases Option.map_eq_some_iff.mp found with ⟨sq, before, rfl⟩
  rw [if_neg other.symm]
  rcases invariant.queue sq before with ⟨reported, announced, inStep⟩
  exact ⟨reported, announced, inStep.created accepted before _⟩

/-- A submission to this queue. -/
theorem Invariant.accepted (invariant : Invariant cmd.sqid size s)
    (small : size ≤ 2 ^ 16)
    (accepted : Submitted env cmd s.ndev next source ccmd filled prps) :
    Invariant cmd.sqid size
      { s with
        ndev := next
        submitted := s.submitted ++
          [⟨submittedNode s.ndev.nextObject source cmd ccmd prps.isSome,
            filled⟩] } := by
  rcases invariant.queue source accepted.found with
    ⟨reported, announced, inStep⟩
  have created := inStep.created accepted accepted.found next
  rcases @createdSq_position source env cmd ccmd s.ndev.nextObject
    prps.isSome cmd.sqid with ⟨tail, head, elements⟩
  have notFull : dnvmeSqIsFull (createdSq env cmd ccmd s.ndev.nextObject
      prps.isSome cmd.sqid source) = false := by
    unfold dnvmeSqIsFull
    rw [tail, head, elements]
    exact accepted.notFull
  have memory : (createdSq env cmd ccmd s.ndev.nextObject prps.isSome
      cmd.sqid source).contig = true ∨
      (createdSq env cmd ccmd s.ndev.nextObject prps.isSome cmd.sqid
        source).prps ≠ none := by
    rw [(createdSq_later env cmd ccmd _ _ _ source).contig]
    rcases accepted.memory with contig | paged
    · exact Or.inl contig
    · refine Or.inr ?_
      unfold createdSq
      split
      · split
        · simp [NvmeSq.attach]
        · exact paged
      · exact paged
  have enqueued := created.enqueue small notFull memory
    (submittedNode s.ndev.nextObject source cmd ccmd prps.isSome) filled next
  refine {
    keyed := Keyed.effect (.submit accepted trivial :
      Effect (fun _ _ _ => True) _ _) invariant.keyed
    inOrder := ?_
    near := enqueued.lagged.near_taken
    idx := ?_
    cid := ?_
    queue := ?_ }
  · rw [List.map_append]
    exact invariant.inOrder.trans (List.prefix_append _ _)
  · intro k sub here
    rcases Nat.lt_trichotomy k s.submitted.length with old | rfl | beyond
    · rw [List.getElem?_append_left old] at here
      exact invariant.idx k sub here
    · rw [List.getElem?_concat_length] at here
      cases here
      exact inStep.tailPtrVirt
    · rw [List.getElem?_eq_none (by simp; omega)] at here
      cases here
  · intro sub member
    rcases List.mem_append.mp member with old | new
    · exact invariant.cid sub old
    · rw [List.mem_singleton] at new
      subst new
      exact accepted.commandId.symm
  · intro later found
    rw [accepted.findSq, accepted.found, Option.map_some, if_pos rfl] at found
    cases found
    exact ⟨reported, announced, enqueued⟩

end Submit

/-! ## Runs -/

theorem Invariant.step {next : SqSystem} (small : size ≤ 2 ^ 16)
    (invariant : Invariant qid size s) (moves : SqStep qid s next) :
    Invariant qid size next := by
  cases moves with
  | @submit env cmd ret after done =>
      rcases dnvmeSubmit64bCmd_cases done with
        ⟨fails, refused⟩ | ⟨rfl, source, ccmd, filled, prps, accepted⟩
      · have failed : ¬ (ret = 0 ∧ cmd.sqid = qid) := by
          rintro ⟨rfl, _⟩
          exact absurd fails (by decide)
        rw [if_neg failed, List.append_nil]
        exact invariant.refused refused
      · by_cases own : cmd.sqid = qid
        · subst own
          rw [if_pos ⟨rfl, rfl⟩, added_eq_some accepted, Option.toList_some]
          exact invariant.accepted small accepted
        · rw [if_neg (fun both => own both.2), List.append_nil]
          exact invariant.acceptedOther accepted own
  | ring id => exact invariant.ring id
  | fetch found rung => exact invariant.fetch found rung
  | post own head => exact invariant.post head
  | reap own first => exact invariant.reap own first
  | reapOther entry other => exact invariant.reapOther other

theorem Invariant.start {env : AllocQueueEnv} {before ndev : NvmeDevice}
    {prep : NvmePrepSq} {sqes : Nat} (keyed : Keyed before)
    (positive : 1 ≤ prep.elements)
    (allocated : dnvmeAllocSq env before prep sqes = some ndev) :
    Invariant prep.sqId prep.elements (SqSystem.start ndev) := by
  rcases dnvmeAllocSq_eq allocated with ⟨_, dma, rfl⟩
  refine {
    keyed := ⟨fun id sq found => ?_, keyed.cq⟩
    inOrder := List.nil_prefix
    near := by simpa [SqSystem.start] using Nat.lt_of_succ_le positive
    idx := fun k sub here => by cases here
    cid := fun sub member => by cases member
    queue := fun sq found => ?_ }
  · rcases findSq_setSq_cases found with ⟨rfl, rfl⟩ | ⟨_, here⟩
    · rfl
    · exact keyed.sq id sq here
  · rcases findSq_setSq_cases found with ⟨_, rfl⟩ | ⟨other, _⟩
    · exact ⟨0, 0, {
        elements := rfl
        lagged := Lagged.start positive
        tailPtrVirt := (Nat.zero_mod _).symm
        tailPtr := (Nat.zero_mod _).symm
        db := (Nat.zero_mod _).symm
        headPtr := (Nat.zero_mod _).symm
        head := (Nat.zero_mod _).symm
        reports := .nil le_rfl
        slots := fun k sub _ here => by cases here
        nodes := fun node member => by cases member
        memory := Or.inr (Or.inr rfl)
        attached := fun paged => absurd rfl paged }⟩
    · exact absurd rfl other

theorem Invariant.run {next : SqSystem} (small : size ≤ 2 ^ 16)
    (invariant : Invariant qid size s)
    (run : Relation.ReflTransGen (SqStep qid) s next) :
    Invariant qid size next := by
  induction run with
  | refl => exact invariant
  | tail _ moves ih => exact ih.step small moves

/-- What the ring guarantees. -/
structure RingSafe (qid size : Nat) (s : SqSystem) : Prop where
  tails : ∀ sq, s.ndev.findSq qid = some sq → sq.elements = size ∧
    sq.tailPtr < sq.elements ∧ sq.tailPtrVirt < sq.elements
  /-- The slot that a submission writes holds no command to be fetched. -/
  spared : ∀ env cmd sq next, cmd.sqid = qid →
    s.ndev.findSq qid = some sq →
    dnvmeSubmit64bCmd env s.ndev cmd = .ok (0, next) →
    ∀ k sub, s.fetched.length ≤ k → s.submitted[k]? = some sub →
      sub.node.idx ≠ sq.tailPtrVirt
  unfetched : s.submitted.length - s.fetched.length ≤ size - 1
  inOrder : s.fetched <+: s.submitted.map Submission.command
  /-- The nodes in the list are nodes of submissions. -/
  nodes : ∀ sq, s.ndev.findSq qid = some sq → ∀ node ∈ sq.cmdList,
    ∃ sub ∈ s.submitted, sub.node = node ∧
      node.cid = sub.command.commandId
  /-- A command that was not fetched is in the slot its node names. -/
  idx : ∀ sq, s.ndev.findSq qid = some sq → ∀ k sub,
    s.fetched.length ≤ k → s.submitted[k]? = some sub →
      sq.entries sub.node.idx = sub.command

/-- Whatever is submitted, announced, fetched and completed in whatever
order, the ring stays safe. -/
theorem sq_ring_safe {env : AllocQueueEnv} {before ndev : NvmeDevice}
    {prep : NvmePrepSq} {sqes : Nat} {s : SqSystem}
    (reachable : Reachable (fun _ _ _ => True) before)
    (allocated : dnvmeAllocSq env before prep sqes = some ndev)
    (positive : 1 ≤ prep.elements) (small : prep.elements ≤ 2 ^ 16)
    (run : Relation.ReflTransGen (SqStep prep.sqId) (.start ndev) s) :
    RingSafe prep.sqId prep.elements s := by
  have invariant := (Invariant.start reachable.keyed positive
    allocated).run small run
  refine ⟨fun sq found => ?_, fun _ _ sq _ _ found _ k sub pending here => ?_,
    ?_, invariant.inOrder, fun sq found node member => ?_,
    fun sq found k sub pending here => ?_⟩
  · rcases invariant.queue sq found with ⟨reported, announced, inStep⟩
    rw [inStep.tailPtr, inStep.tailPtrVirt, inStep.elements]
    exact ⟨rfl, Nat.mod_lt _ positive, Nat.mod_lt _ positive⟩
  · rcases invariant.queue sq found with ⟨reported, announced, inStep⟩
    have inside := (List.getElem?_eq_some_iff.mp here).1
    rw [invariant.idx k sub here, inStep.tailPtrVirt]
    exact inStep.lagged.slot_ne_written pending inside
  · have near := invariant.near
    omega
  · rcases invariant.queue sq found with ⟨reported, announced, inStep⟩
    rcases inStep.nodes node member with ⟨sub, listed, rfl⟩
    exact ⟨sub, listed, rfl, invariant.cid sub listed⟩
  · rcases invariant.queue sq found with ⟨reported, announced, inStep⟩
    rw [invariant.idx k sub here]
    exact inStep.slots k sub pending here

/-- An admin submission queue with two slots. -/
def twoSlotQueue : NvmePrepSq := ⟨2, 0, 0, true, false⟩

/-- A command without data. -/
def plainCmd : Nvme64bCmd :=
  ⟨0, 0, 8, ⟨false, false, false, false, false⟩, 0, 0, 0, 0, 0⟩

/-- An identify command, with nothing failing. -/
def plainEnv : SubmitEnv :=
  .smooth (PrpReading.evenPages 1) PrpReading.oddPages
    { NvmeCommonCommand.zero with opcode := 6 }

/-- The device with that queue. -/
def twoSlotDevice : NvmeDevice :=
  (NvmeDevice.fresh 64 false false false).setSq 0
    (twoSlotQueue.queue nvmeSqes 4096)

theorem two_slot_run :
    ∃ s sq, Relation.ReflTransGen (SqStep 0) (.start twoSlotDevice) s ∧
      s.submitted.length = 2 ∧ s.fetched.length = 2 ∧ s.inFlight = [] ∧
      s.ndev.findSq 0 = some sq ∧ sq.headPtr = 1 ∧ sq.tailPtr = 0 := by
  have run := Relation.ReflTransGen.single
    (@SqStep.submit 0 (.start twoSlotDevice) plainEnv plainCmd 0 _ rfl)
  have run := run.tail (.ring 0)
  have run := run.tail (.fetch rfl (by decide))
  have run := run.tail (@SqStep.post 0 _ ⟨0, 1, 0, 0, 0⟩ rfl rfl)
  have run := run.tail (.reap rfl rfl)
  have run := run.tail (@SqStep.submit 0 _ plainEnv plainCmd 0 _ rfl)
  have run := run.tail (.ring 0)
  have run := run.tail (.fetch rfl (by decide))
  exact ⟨_, _, run, rfl, rfl, rfl, rfl, rfl, rfl⟩

/-- A command is submitted, announced, fetched and completed, and a second one
is submitted, announced and fetched where the tail wraps. -/
theorem sq_ring_safe_two_slots :
    ∃ s sq, Relation.ReflTransGen (SqStep 0) (.start twoSlotDevice) s ∧
      s.submitted.length = 2 ∧ s.fetched.length = 2 ∧ s.inFlight = [] ∧
      s.ndev.findSq 0 = some sq ∧ sq.headPtr = 1 ∧ sq.tailPtr = 0 ∧
      RingSafe 0 2 s := by
  rcases two_slot_run with
    ⟨s, sq, run, submitted, fetched, empty, found, head, tail⟩
  have start : Reachable (fun _ _ _ => True)
      (NvmeDevice.fresh 64 false false false) :=
    ⟨64, false, false, false, by decide, .refl⟩
  have allocated : dnvmeAllocSq ⟨true, some 4096, true⟩
      (NvmeDevice.fresh 64 false false false) twoSlotQueue nvmeSqes =
        some twoSlotDevice := rfl
  exact ⟨s, sq, run, submitted, fetched, empty, found, head, tail,
    sq_ring_safe start allocated (by decide) (by decide) run⟩

end Dnvme.Driver.SqRing
