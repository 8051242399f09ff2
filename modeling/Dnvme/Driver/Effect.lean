import Dnvme.Driver.Submission

/-!
# Effects

Every operation of the driver is a sequence of a few kinds of changes to its
objects.  `Effect` lists them, and `step_effects` says that no operation does
anything else.  An invariant of all runs is then proved once for each kind of
change, never for each operation.

An accepted submission is one effect.  The relation takes a condition on
submissions, for invariants that only hold when the user meets it.
-/

namespace Dnvme.Driver

open Dnvme.Lib.Results

/-! ## Kinds of changes -/

/-- The device has the same queues and pages. -/
structure SameObjects (ndev next : NvmeDevice) : Prop where
  findSq : ∀ id, next.findSq id = ndev.findSq id
  findCq : ∀ id, next.findCq id = ndev.findCq id
  prpsHeap : next.prpsHeap = ndev.prpsHeap
  released : next.released = ndev.released
  nextObject : next.nextObject = ndev.nextObject
  qDepth : next.qDepth = ndev.qDepth

/-- A submission queue object of which only positions, the next identifier
and the contents of its memory have changed; the tail stays in the ring. -/
structure SqKept (sq changed : NvmeSq) : Prop where
  sqId : changed.sqId = sq.sqId
  elements : changed.elements = sq.elements
  sqes : changed.sqes = sq.sqes
  cmdList : changed.cmdList = sq.cmdList
  buf : changed.buf = sq.buf
  size : changed.size = sq.size
  prps : changed.prps = sq.prps
  contig : changed.contig = sq.contig
  created : changed.created = sq.created
  tail : sq.tailPtrVirt < sq.elements →
    changed.tailPtrVirt < changed.elements

/-- A completion queue object of which only positions, the phase, the
interrupt enable and the contents of its memory have changed. -/
structure CqKept (cq changed : NvmeCq) : Prop where
  qId : changed.qId = cq.qId
  elements : changed.elements = cq.elements
  cqes : changed.cqes = cq.cqes
  buf : changed.buf = cq.buf
  size : changed.size = cq.size
  prps : changed.prps = cq.prps
  contig : changed.contig = cq.contig
  created : changed.created = cq.created

/-- The number of elements the driver accepts for a new queue. -/
def ElementsOk (ndev : NvmeDevice) (elements : Nat) : Prop :=
  elements ≠ 0 ∧ elements ≤ max ndev.qDepth nvmeAqMaxSize

/-- A condition on submissions, in the device they find. -/
abbrev SubmitRule := NvmeDevice → SubmitEnv → Nvme64bCmd → Prop

/-- One change. -/
inductive Effect (rule : SubmitRule) : NvmeDevice → NvmeDevice → Prop where
  | quiet {ndev next : NvmeDevice} (same : SameObjects ndev next) :
      Effect rule ndev next
  | sqData {ndev : NvmeDevice} (id : Nat) {sq changed : NvmeSq}
      (found : ndev.findSq id = some sq) (kept : SqKept sq changed) :
      Effect rule ndev (ndev.setSq id changed)
  | cqData {ndev : NvmeDevice} (id : Nat) {cq changed : NvmeCq}
      (found : ndev.findCq id = some cq) (kept : CqKept cq changed) :
      Effect rule ndev (ndev.setCq id changed)
  | newSq {ndev : NvmeDevice} (prep : NvmePrepSq) (dma : Nat)
      (absent : ndev.findSq prep.sqId = none)
      (elements : ElementsOk ndev prep.elements) :
      Effect rule ndev (ndev.setSq prep.sqId (prep.queue nvmeSqes dma))
  | newCq {ndev : NvmeDevice} (prep : NvmePrepCq) (dma : Nat)
      (absent : ndev.findCq prep.cqId = none)
      (elements : ElementsOk ndev prep.elements) :
      Effect rule ndev (ndev.setCq prep.cqId (prep.queue nvmeCqes dma))
  | dropSq {ndev : NvmeDevice} {sq : NvmeSq}
      (found : ndev.findSq sq.sqId = some sq) :
      Effect rule ndev (dnvmeReleaseSq ndev sq)
  | dropCq {ndev : NvmeDevice} {cq : NvmeCq}
      (found : ndev.findCq cq.qId = some cq) :
      Effect rule ndev (dnvmeReleaseCq ndev cq)
  /-- All commands of a queue are released. -/
  | clearList {ndev : NvmeDevice} (id : Nat) {sq : NvmeSq}
      (found : ndev.findSq id = some sq) :
      Effect rule ndev
        ((ndev.releaseCmds sq.cmdList).setSq id { sq with cmdList := [] })
  /-- A command completes and its pages are released. -/
  | complete {ndev : NvmeDevice} (id : Nat) {sq : NvmeSq} {cmd : NvmeCmd}
      (found : ndev.findSq id = some sq) (member : cmd ∈ sq.cmdList)
      (general : id ≠ nvmeAqId ∨ adminOpcode cmd.opcode = .other) :
      Effect rule ndev ((ndev.releasePrps cmd.prps).deleteCmd id cmd)
  /-- A queue command completes. -/
  | forget {ndev : NvmeDevice} {sq : NvmeSq} {cmd : NvmeCmd}
      (found : ndev.findSq nvmeAqId = some sq) (member : cmd ∈ sq.cmdList)
      (special : adminOpcode cmd.opcode ≠ .other) :
      Effect rule ndev (ndev.deleteCmd nvmeAqId cmd)
  | submit {ndev next : NvmeDevice} {env : SubmitEnv} {cmd : Nvme64bCmd}
      {sq : NvmeSq} {ccmd filled : NvmeCommonCommand}
      {prps : Option NvmePrps}
      (accepted : Submitted env cmd ndev next sq ccmd filled prps)
      (meets : rule ndev env cmd) :
      Effect rule ndev next

/-- Several changes. -/
abbrev Effects (rule : SubmitRule) : NvmeDevice → NvmeDevice → Prop :=
  Relation.ReflTransGen (Effect rule)

/-- Every queue object carries the identifier it is stored under. -/
structure Keyed (ndev : NvmeDevice) : Prop where
  sq : ∀ id sq, ndev.findSq id = some sq → sq.sqId = id
  cq : ∀ id cq, ndev.findCq id = some cq → cq.qId = id

/-! ## Identifiers stay in place -/

theorem CqKept.refl (cq : NvmeCq) : CqKept cq cq :=
  ⟨rfl, rfl, rfl, rfl, rfl, rfl, rfl, rfl⟩

/-- A queue that is found after a write is the one written or an old one. -/
theorem findSq_setSq_cases {ndev : NvmeDevice} {id other : Nat}
    {sq queue : NvmeSq} (found : (ndev.setSq id sq).findSq other = some queue) :
    (other = id ∧ queue = sq) ∨
      (other ≠ id ∧ ndev.findSq other = some queue) := by
  by_cases equal : other = id
  · subst other
    rw [NvmeDevice.findSq_setSq] at found
    exact Or.inl ⟨rfl, (Option.some.inj found).symm⟩
  · rw [NvmeDevice.findSq_setSq_ne _ _ equal] at found
    exact Or.inr ⟨equal, found⟩

theorem findCq_setCq_cases {ndev : NvmeDevice} {id other : Nat}
    {cq queue : NvmeCq} (found : (ndev.setCq id cq).findCq other = some queue) :
    (other = id ∧ queue = cq) ∨
      (other ≠ id ∧ ndev.findCq other = some queue) := by
  by_cases equal : other = id
  · subst other
    rw [NvmeDevice.findCq_setCq] at found
    exact Or.inl ⟨rfl, (Option.some.inj found).symm⟩
  · rw [NvmeDevice.findCq_setCq_ne _ _ equal] at found
    exact Or.inr ⟨equal, found⟩

theorem findSq_deleteCmd (ndev : NvmeDevice) (key : Nat) (cmd : NvmeCmd)
    (id : Nat) :
    (ndev.deleteCmd key cmd).findSq id = (ndev.findSq id).map fun q =>
      if id = key then
        { q with cmdList := q.cmdList.eraseP fun node =>
            node.node = cmd.node }
      else q :=
  ndev.findSq_modifySq key (fun q =>
    { q with cmdList := q.cmdList.eraseP fun node =>
        node.node = cmd.node }) id

theorem findSq_of_sqs_eq {ndev next : NvmeDevice}
    (same : next.sqs = ndev.sqs) (id : Nat) :
    next.findSq id = ndev.findSq id :=
  congrArg (fun sqs => AList.lookup id sqs) same

theorem findCq_of_cqs_eq {ndev next : NvmeDevice}
    (same : next.cqs = ndev.cqs) (id : Nat) :
    next.findCq id = ndev.findCq id :=
  congrArg (fun cqs => AList.lookup id cqs) same

theorem lookup_erase_some {α : Type} {map : XArray α} {key id : Nat}
    {value : α} (found : (map.erase key).lookup id = some value) :
    id ≠ key ∧ map.lookup id = some value := by
  by_cases equal : id = key
  · subst id
    rw [AList.lookup_erase] at found
    cases found
  · rw [AList.lookup_erase_ne equal] at found
    exact ⟨equal, found⟩

theorem findSq_dnvmeReleaseSq {ndev : NvmeDevice} {sq queue : NvmeSq}
    {id : Nat} (found : (dnvmeReleaseSq ndev sq).findSq id = some queue) :
    id ≠ sq.sqId ∧ ndev.findSq id = some queue := by
  unfold NvmeDevice.findSq at found
  rw [dnvmeReleaseSq_sqs] at found
  exact lookup_erase_some found

theorem findCq_dnvmeReleaseCq {ndev : NvmeDevice} {cq queue : NvmeCq}
    {id : Nat} (found : (dnvmeReleaseCq ndev cq).findCq id = some queue) :
    id ≠ cq.qId ∧ ndev.findCq id = some queue := by
  unfold NvmeDevice.findCq at found
  rw [dnvmeReleaseCq_cqs] at found
  exact lookup_erase_some found

/-- What an effect can make of a submission queue. -/
structure SqLater (sq later : NvmeSq) : Prop where
  sqId : later.sqId = sq.sqId
  elements : later.elements = sq.elements
  sqes : later.sqes = sq.sqes
  buf : later.buf = sq.buf
  size : later.size = sq.size
  contig : later.contig = sq.contig
  tail : sq.tailPtrVirt < sq.elements →
    later.tailPtrVirt < later.elements

/-- What an effect can make of a completion queue. -/
structure CqLater (cq later : NvmeCq) : Prop where
  qId : later.qId = cq.qId
  elements : later.elements = cq.elements
  cqes : later.cqes = cq.cqes
  buf : later.buf = cq.buf
  size : later.size = cq.size
  contig : later.contig = cq.contig

theorem SqLater.refl (sq : NvmeSq) : SqLater sq sq :=
  ⟨rfl, rfl, rfl, rfl, rfl, rfl, fun inside => inside⟩

theorem SqLater.trans {first second third : NvmeSq}
    (one : SqLater first second) (two : SqLater second third) :
    SqLater first third :=
  ⟨two.sqId.trans one.sqId, two.elements.trans one.elements,
    two.sqes.trans one.sqes, two.buf.trans one.buf,
    two.size.trans one.size, two.contig.trans one.contig,
    fun inside => two.tail (one.tail inside)⟩

theorem CqLater.refl (cq : NvmeCq) : CqLater cq cq :=
  ⟨rfl, rfl, rfl, rfl, rfl, rfl⟩

theorem SqKept.later {sq changed : NvmeSq} (kept : SqKept sq changed) :
    SqLater sq changed :=
  ⟨kept.sqId, kept.elements, kept.sqes, kept.buf, kept.size, kept.contig,
    kept.tail⟩

theorem CqKept.later {cq changed : NvmeCq} (kept : CqKept cq changed) :
    CqLater cq changed :=
  ⟨kept.qId, kept.elements, kept.cqes, kept.buf, kept.size, kept.contig⟩

theorem createdSq_later (env : SubmitEnv) (cmd : Nvme64bCmd)
    (ccmd : NvmeCommonCommand) (object : Nat) (paged : Bool) (id : Nat)
    (sq : NvmeSq) : SqLater sq (createdSq env cmd ccmd object paged id sq) := by
  unfold createdSq
  split
  · split
    · exact ⟨rfl, rfl, rfl, rfl, rfl, rfl, fun inside => inside⟩
    · exact ⟨rfl, rfl, rfl, rfl, rfl, rfl, fun inside => inside⟩
  · exact SqLater.refl sq

theorem createdCq_later (env : SubmitEnv) (cmd : Nvme64bCmd)
    (ccmd : NvmeCommonCommand) (object : Nat) (paged : Bool) (id : Nat)
    (cq : NvmeCq) : CqLater cq (createdCq env cmd ccmd object paged id cq) := by
  unfold createdCq
  split
  · split
    · exact ⟨rfl, rfl, rfl, rfl, rfl, rfl⟩
    · exact ⟨rfl, rfl, rfl, rfl, rfl, rfl⟩
  · exact CqLater.refl cq

theorem enqueued_later (filled : NvmeCommonCommand) (node : NvmeCmd)
    (sq : NvmeSq) : SqLater sq (enqueued filled node sq) := by
  refine ⟨rfl, rfl, rfl, rfl, rfl, rfl, fun inside => ?_⟩
  have below := Nat.mod_lt (sq.tailPtrVirt + 1) (Nat.zero_lt_of_lt inside)
  exact (Nat.mod_le _ _).trans_lt below

section Objects

variable {rule : SubmitRule} {ndev next : NvmeDevice}

/-- Where a submission queue comes from. -/
theorem Effect.sq_before (effect : Effect rule ndev next) {id : Nat}
    {later : NvmeSq} (found : next.findSq id = some later) :
    (∃ sq, ndev.findSq id = some sq ∧ SqLater sq later) ∨
      (∃ (prep : NvmePrepSq) (dma : Nat), prep.sqId = id ∧
        later = prep.queue nvmeSqes dma ∧ ElementsOk ndev prep.elements) := by
  cases effect with
  | quiet same =>
      rw [same.findSq] at found
      exact Or.inl ⟨later, found, SqLater.refl later⟩
  | sqData key here kept =>
      rcases findSq_setSq_cases found with ⟨rfl, rfl⟩ | ⟨_, before⟩
      · exact Or.inl ⟨_, here, kept.later⟩
      · exact Or.inl ⟨later, before, SqLater.refl later⟩
  | cqData key here kept => exact Or.inl ⟨later, found, SqLater.refl later⟩
  | newSq prep dma absent elements =>
      rcases findSq_setSq_cases found with ⟨rfl, rfl⟩ | ⟨_, before⟩
      · exact Or.inr ⟨prep, dma, rfl, rfl, elements⟩
      · exact Or.inl ⟨later, before, SqLater.refl later⟩
  | newCq prep dma absent elements =>
      exact Or.inl ⟨later, found, SqLater.refl later⟩
  | dropSq here =>
      exact Or.inl ⟨later, (findSq_dnvmeReleaseSq found).2,
        SqLater.refl later⟩
  | dropCq here =>
      rw [findSq_of_sqs_eq (dnvmeReleaseCq_sqs ndev _)] at found
      exact Or.inl ⟨later, found, SqLater.refl later⟩
  | clearList key here =>
      rcases findSq_setSq_cases found with ⟨rfl, rfl⟩ | ⟨_, before⟩
      · exact Or.inl ⟨_, here, rfl, rfl, rfl, rfl, rfl, rfl,
          fun inside => inside⟩
      · rw [findSq_of_sqs_eq (NvmeDevice.releaseCmds_sqs ndev _)] at before
        exact Or.inl ⟨later, before, SqLater.refl later⟩
  | complete key here member general =>
      rw [findSq_deleteCmd,
        findSq_of_sqs_eq (NvmeDevice.releasePrps_sqs ndev _)] at found
      rcases Option.map_eq_some_iff.mp found with ⟨sq, before, rfl⟩
      refine Or.inl ⟨sq, before, ?_⟩
      split
      · exact ⟨rfl, rfl, rfl, rfl, rfl, rfl, fun inside => inside⟩
      · exact SqLater.refl sq
  | forget here member special =>
      rw [findSq_deleteCmd] at found
      rcases Option.map_eq_some_iff.mp found with ⟨sq, before, rfl⟩
      refine Or.inl ⟨sq, before, ?_⟩
      split
      · exact ⟨rfl, rfl, rfl, rfl, rfl, rfl, fun inside => inside⟩
      · exact SqLater.refl sq
  | submit accepted meets =>
      rw [accepted.findSq] at found
      rcases Option.map_eq_some_iff.mp found with ⟨sq, before, rfl⟩
      refine Or.inl ⟨sq, before, ?_⟩
      split
      · exact (createdSq_later _ _ _ _ _ _ _).trans (enqueued_later _ _ _)
      · exact createdSq_later _ _ _ _ _ _ _

/-- Where a completion queue comes from. -/
theorem Effect.cq_before (effect : Effect rule ndev next) {id : Nat}
    {later : NvmeCq} (found : next.findCq id = some later) :
    (∃ cq, ndev.findCq id = some cq ∧ CqLater cq later) ∨
      (∃ (prep : NvmePrepCq) (dma : Nat), prep.cqId = id ∧
        later = prep.queue nvmeCqes dma ∧ ElementsOk ndev prep.elements) := by
  cases effect with
  | quiet same =>
      rw [same.findCq] at found
      exact Or.inl ⟨later, found, CqLater.refl later⟩
  | sqData key here kept => exact Or.inl ⟨later, found, CqLater.refl later⟩
  | cqData key here kept =>
      rcases findCq_setCq_cases found with ⟨rfl, rfl⟩ | ⟨_, before⟩
      · exact Or.inl ⟨_, here, kept.later⟩
      · exact Or.inl ⟨later, before, CqLater.refl later⟩
  | newSq prep dma absent elements =>
      exact Or.inl ⟨later, found, CqLater.refl later⟩
  | newCq prep dma absent elements =>
      rcases findCq_setCq_cases found with ⟨rfl, rfl⟩ | ⟨_, before⟩
      · exact Or.inr ⟨prep, dma, rfl, rfl, elements⟩
      · exact Or.inl ⟨later, before, CqLater.refl later⟩
  | dropSq here =>
      rw [findCq_of_cqs_eq (dnvmeReleaseSq_cqs ndev _)] at found
      exact Or.inl ⟨later, found, CqLater.refl later⟩
  | dropCq here =>
      exact Or.inl ⟨later, (findCq_dnvmeReleaseCq found).2,
        CqLater.refl later⟩
  | clearList key here =>
      rw [NvmeDevice.findCq_setSq,
        findCq_of_cqs_eq (NvmeDevice.releaseCmds_cqs ndev _)] at found
      exact Or.inl ⟨later, found, CqLater.refl later⟩
  | complete key here member general =>
      rw [findCq_of_cqs_eq (NvmeDevice.deleteCmd_cqs _ _ _),
        findCq_of_cqs_eq (NvmeDevice.releasePrps_cqs ndev _)] at found
      exact Or.inl ⟨later, found, CqLater.refl later⟩
  | forget here member special =>
      rw [findCq_of_cqs_eq (NvmeDevice.deleteCmd_cqs _ _ _)] at found
      exact Or.inl ⟨later, found, CqLater.refl later⟩
  | submit accepted meets =>
      rw [accepted.findCq] at found
      rcases Option.map_eq_some_iff.mp found with ⟨cq, before, rfl⟩
      exact Or.inl ⟨cq, before, createdCq_later _ _ _ _ _ _ _⟩

theorem Keyed.effect (effect : Effect rule ndev next) (keyed : Keyed ndev) :
    Keyed next := by
  constructor
  · intro id later found
    rcases effect.sq_before found with ⟨sq, before, same⟩ |
      ⟨prep, dma, rfl, rfl, _⟩
    · exact same.sqId.trans (keyed.sq id sq before)
    · rfl
  · intro id later found
    rcases effect.cq_before found with ⟨cq, before, same⟩ |
      ⟨prep, dma, rfl, rfl, _⟩
    · exact same.qId.trans (keyed.cq id cq before)
    · rfl

/-- An invariant of the effects holds along all of them. -/
theorem Effects.preserve {holds : NvmeDevice → Prop}
    (keep : ∀ {ndev next}, Effect rule ndev next → holds ndev → holds next)
    (effects : Effects rule ndev next) (start : holds ndev) : holds next := by
  induction effects with
  | refl => exact start
  | tail _ effect ih => exact keep effect ih

theorem Keyed.effects (effects : Effects rule ndev next)
    (keyed : Keyed ndev) : Keyed next :=
  effects.preserve Keyed.effect keyed

end Objects

/-! ## Completions -/

/-- Whether a completed queue command makes the driver free its queue. -/
def freesQueue (opcode : AdminOpcode) (status : Nat) : Bool :=
  match opcode with
  | .deleteSq | .deleteCq => status = 0
  | .createSq | .createCq => status ≠ 0
  | .other => false

/-- The type of queue that a command creates or deletes. -/
def queueType (opcode : AdminOpcode) : Option NvmeQueueType :=
  match opcode with
  | .deleteSq | .createSq => some .sq
  | .deleteCq | .createCq => some .cq
  | .other => none

/-- The queue with the head that a completion reports. -/
def NvmeDevice.headed (ndev : NvmeDevice) (entry : NvmeCompletion)
    (sq : NvmeSq) : NvmeDevice :=
  ndev.setSq entry.sqId { sq with headPtr := entry.sqHead }

/-- All that handling a completion can do. -/
inductive Completed (ndev : NvmeDevice) (entry : NvmeCompletion) :
    NvmeDevice → Prop where
  | noQueue (missing : ndev.findSq entry.sqId = none) :
      Completed ndev entry ndev
  | noCommand {sq : NvmeSq} (found : ndev.findSq entry.sqId = some sq)
      (missing : dnvmeFindCmd sq entry.commandId = none) :
      Completed ndev entry (ndev.headed entry sq)
  | general {sq : NvmeSq} {cmd : NvmeCmd}
      (found : ndev.findSq entry.sqId = some sq)
      (here : dnvmeFindCmd sq entry.commandId = some cmd)
      (plain : entry.sqId ≠ nvmeAqId ∨ adminOpcode cmd.opcode = .other) :
      Completed ndev entry
        (((ndev.headed entry sq).releasePrps cmd.prps).deleteCmd entry.sqId
          cmd)
  | kept {sq : NvmeSq} {cmd : NvmeCmd}
      (found : ndev.findSq entry.sqId = some sq)
      (here : dnvmeFindCmd sq entry.commandId = some cmd)
      (admin : entry.sqId = nvmeAqId)
      (special : adminOpcode cmd.opcode ≠ .other)
      (stays : freesQueue (adminOpcode cmd.opcode) entry.state = false ∨
        cmd.targetQid = nvmeAqId) :
      Completed ndev entry ((ndev.headed entry sq).deleteCmd entry.sqId cmd)
  | freedSq {sq : NvmeSq} {cmd : NvmeCmd}
      (found : ndev.findSq entry.sqId = some sq)
      (here : dnvmeFindCmd sq entry.commandId = some cmd)
      (admin : entry.sqId = nvmeAqId)
      (type : queueType (adminOpcode cmd.opcode) = some .sq)
      (frees : freesQueue (adminOpcode cmd.opcode) entry.state = true)
      (target : cmd.targetQid ≠ nvmeAqId) :
      Completed ndev entry
        ((dnvmeDeleteSq (ndev.headed entry sq) cmd.targetQid).deleteCmd
          entry.sqId cmd)
  | freedCq {sq : NvmeSq} {cmd : NvmeCmd}
      (found : ndev.findSq entry.sqId = some sq)
      (here : dnvmeFindCmd sq entry.commandId = some cmd)
      (admin : entry.sqId = nvmeAqId)
      (type : queueType (adminOpcode cmd.opcode) = some .cq)
      (frees : freesQueue (adminOpcode cmd.opcode) entry.state = true)
      (target : cmd.targetQid ≠ nvmeAqId) :
      Completed ndev entry
        ((dnvmeDeleteCq (ndev.headed entry sq) cmd.targetQid).deleteCmd
          entry.sqId cmd)

/-- A completed queue command. -/
theorem Completed.of_queue {ndev : NvmeDevice} {entry : NvmeCompletion}
    {sq : NvmeSq} {cmd : NvmeCmd} {type : NvmeQueueType}
    (found : ndev.findSq entry.sqId = some sq)
    (here : dnvmeFindCmd sq entry.commandId = some cmd)
    (admin : entry.sqId = nvmeAqId)
    (typed : queueType (adminOpcode cmd.opcode) = some type) :
    Completed ndev entry
      (handleQueueCmdCompletion (ndev.headed entry sq) entry.sqId cmd type
        (freesQueue (adminOpcode cmd.opcode) entry.state)).2 := by
  have special : adminOpcode cmd.opcode ≠ .other := by
    intro other
    rw [other] at typed
    cases typed
  unfold handleQueueCmdCompletion
  cases frees : freesQueue (adminOpcode cmd.opcode) entry.state with
  | false => exact Completed.kept found here admin special (Or.inl frees)
  | true =>
      by_cases target : cmd.targetQid = nvmeAqId
      · simp only [Bool.not_true, Bool.false_eq_true, if_false, target,
          if_true]
        exact Completed.kept found here admin special (Or.inr target)
      · simp only [Bool.not_true, Bool.false_eq_true, if_false, target]
        cases type with
        | sq => exact Completed.freedSq found here admin typed frees target
        | cq => exact Completed.freedCq found here admin typed frees target

/-- Handling a completion does one of these things. -/
theorem handleCmdCompletion_completed (ndev : NvmeDevice)
    (entry : NvmeCompletion) :
    Completed ndev entry (handleCmdCompletion ndev entry).2 := by
  unfold handleCmdCompletion
  cases found : ndev.findSq entry.sqId with
  | none => exact Completed.noQueue found
  | some sq =>
      dsimp only
      cases here : dnvmeFindCmd sq entry.commandId with
      | none => exact Completed.noCommand found here
      | some cmd =>
          dsimp only
          by_cases admin : entry.sqId = nvmeAqId
          · rw [if_pos admin]
            unfold handleAdminCmdCompletion
            cases opcode : adminOpcode cmd.opcode with
            | other => exact Completed.general found here (Or.inr opcode)
            | deleteSq =>
                have done := Completed.of_queue found here admin
                  (congrArg queueType opcode)
                rw [opcode] at done
                exact done
            | createSq =>
                have done := Completed.of_queue found here admin
                  (congrArg queueType opcode)
                rw [opcode] at done
                exact done
            | deleteCq =>
                have done := Completed.of_queue found here admin
                  (congrArg queueType opcode)
                rw [opcode] at done
                exact done
            | createCq =>
                have done := Completed.of_queue found here admin
                  (congrArg queueType opcode)
                rw [opcode] at done
                exact done
          · rw [if_neg admin]
            exact Completed.general found here (Or.inl admin)

/-! ## What a reap is made of -/

/-- A property of devices that all the parts of a reap keep. -/
structure ReapClosed (holds : NvmeDevice → Prop) : Prop where
  scan : ∀ {ndev next : NvmeDevice} {cqid remain : Nat} {cq : NvmeCq},
    holds ndev → ndev.findCq cqid = some cq →
      ndev.scan cqid cq = .ok (remain, next) → holds next
  head : ∀ {ndev : NvmeDevice} (cqid count : Nat), holds ndev →
    holds (ndev.updateCqHead cqid count)
  complete : ∀ {ndev : NvmeDevice} (entry : NvmeCompletion), holds ndev →
    holds (handleCmdCompletion ndev entry).2
  clear : ∀ {ndev : NvmeDevice} (irqNo : Nat), holds ndev →
    holds { ndev with
      irqSet := ndev.irqSet.updateIrq irqNo fun irq =>
        { irq with isrFired := false } }
  unmask : ∀ {ndev : NvmeDevice} (irqNo : Nat), holds ndev →
    holds (ndev.unmask irqNo)

section Reaps

variable {holds : NvmeDevice → Prop} {ndev next : NvmeDevice}

theorem ReapClosed.copyCqData (closed : ReapClosed holds) {cqid : Nat}
    {copyOk : Nat → Bool} (count : Nat) :
    ∀ {slot : Nat} {ndev : NvmeDevice} {copied : List NvmeCompletion}
      {copy : CopyResult}, holds ndev →
      Driver.copyCqData cqid copyOk count slot ndev copied = .ok copy →
      holds copy.ndev := by
  induction count with
  | zero =>
      intro slot ndev copied copy start done
      cases done
      exact start
  | succ count ih =>
      intro slot ndev copied copy start done
      rw [Driver.copyCqData] at done
      split at done
      · cases done
      · split at done
        · cases done
        · rename_i cq found entry here
          have one := closed.complete entry start
          dsimp only at done
          split at done
          · cases done
          · split at done
            · cases done
              exact one
            · split at done
              · cases done
                exact one
              · exact ih one done

theorem ReapClosed.scanIcqs (closed : ReapClosed holds) (icqs : List Nat) :
    ∀ {ndev next : NvmeDevice} {result : Except Int Bool}, holds ndev →
      Driver.scanIcqs ndev icqs = .ok (result, next) → holds next := by
  induction icqs with
  | nil =>
      intro ndev next result start done
      cases done
      exact start
  | cons cqid rest ih =>
      intro ndev next result start done
      rw [Driver.scanIcqs] at done
      split at done
      · cases done
        exact start
      · rename_i cq found
        split at done
        · cases done
        · rename_i remain after scanned
          have one := closed.scan start found scanned
          split at done
          · cases done
            exact one
          · exact ih one done

theorem ReapClosed.dnvmeResetIsrFlag (closed : ReapClosed holds)
    {irqNo : Nat} {ret : Int} {cleared : Bool} (start : holds ndev)
    (done : Driver.dnvmeResetIsrFlag ndev irqNo = .ok (ret, cleared, next)) :
    holds next := by
  unfold Driver.dnvmeResetIsrFlag at done
  split at done
  · cases done
    exact start
  · split at done
    · cases done
    · rename_i scanned
      cases done
      exact closed.scanIcqs _ start scanned
    · rename_i scanned
      cases done
      exact closed.scanIcqs _ start scanned
    · rename_i scanned
      cases done
      exact closed.clear _ (closed.scanIcqs _ start scanned)

theorem ReapClosed.dnvmeReapCqe (closed : ReapClosed holds)
    {copyOk : Nat → Bool} {cqid expect buf size : Nat}
    {result : ReapResult} (start : holds ndev)
    (done : Driver.dnvmeReapCqe copyOk ndev cqid expect buf size =
      .ok result) : holds result.ndev := by
  unfold Driver.dnvmeReapCqe at done
  split at done
  · cases done
  · split at done
    · cases done
      exact start
    · split at done
      · cases done
        exact start
      · split at done
        · cases done
          exact start
        · split at done
          · cases done
          · rename_i copy copied
            have one := closed.copyCqData _ start
              (copyCqData_of_copyEntries copied)
            extract_lets reaped moved at done
            have two : holds moved := by
              subst moved
              split
              · exact one
              · exact closed.head _ _ one
            clear_value moved
            split at done
            · cases done
            · rename_i cq found
              split at done
              · cases done
              · rename_i remain scanned scans
                have three := closed.scan two found scans
                split at done
                · split at done
                  · cases done
                  · rename_i resets
                    cases done
                    exact closed.unmask _
                      (closed.dnvmeResetIsrFlag three resets)
                · cases done
                  exact three

theorem ReapClosed.dnvmeReapCqeLegacy (closed : ReapClosed holds)
    {env : ReapEnv} {reap : NvmeReap} {result : ReapResult}
    (start : holds ndev)
    (done : Driver.dnvmeReapCqeLegacy env ndev reap = .ok result) :
    holds result.ndev := by
  unfold Driver.dnvmeReapCqeLegacy at done
  split at done
  · cases done
    exact start
  · split at done
    · cases done
      exact start
    · rename_i cq found
      split at done
      · cases done
      · rename_i remain scanned scans
        have one := closed.scan start found scans
        split at done
        · cases done
          exact one
        · extract_lets wanted at done
          split at done
          · cases done
          · rename_i copy copied
            have two := closed.copyCqData _ one
              (copyCqData_of_copyEntries copied)
            extract_lets reaped remained moved at done
            have three : holds moved := by
              subst moved
              split
              · exact two
              · exact closed.head _ _ two
            clear_value moved
            split at done
            · cases done
              exact two
            · split at done
              · split at done
                · cases done
                · rename_i resets
                  have four := closed.dnvmeResetIsrFlag three resets
                  split at done
                  · cases done
                    exact four
                  · cases done
                    exact closed.unmask _ four
              · cases done
                exact three

theorem ReapClosed.dnvmeGnlCmdReapCqe (closed : ReapClosed holds)
    {copyOk : Nat → Bool} {cqid expect buf size : Nat}
    {result : ReapResult} (start : holds ndev)
    (done : Driver.dnvmeGnlCmdReapCqe copyOk ndev cqid expect buf size =
      .ok result) : holds result.ndev := by
  unfold Driver.dnvmeGnlCmdReapCqe at done
  split at done
  · cases done
    exact start
  · rename_i cq found
    split at done
    · cases done
    · rename_i actual scanned scans
      have one := closed.scan start found scans
      split at done
      · exact closed.dnvmeReapCqe one done
      · split at done
        · exact closed.dnvmeReapCqe one done
        · cases done
          exact one

theorem ReapClosed.dnvmeInquiryCqe (closed : ReapClosed holds)
    {copyIn copyOut : Bool} {cqid remain : Nat} {ret : Int}
    (start : holds ndev)
    (done : Driver.dnvmeInquiryCqe copyIn copyOut ndev cqid =
      .ok (ret, remain, next)) : holds next := by
  unfold Driver.dnvmeInquiryCqe at done
  split at done
  · cases done
    exact start
  · split at done
    · cases done
      exact start
    · rename_i cq found
      split at done
      · cases done
      · rename_i count scanned scans
        have one := closed.scan start found scans
        split at done
        · cases done
          exact one
        · split at done
          · cases done
            exact one
          · cases done
            exact one

end Reaps

section Decompose

variable {rule : SubmitRule} {ndev next : NvmeDevice}

theorem headed_effect {entry : NvmeCompletion} {sq : NvmeSq}
    (found : ndev.findSq entry.sqId = some sq) :
    Effect rule ndev (ndev.headed entry sq) :=
  Effect.sqData entry.sqId found
    ⟨rfl, rfl, rfl, rfl, rfl, rfl, rfl, rfl, rfl, fun inside => inside⟩

theorem findSq_headed {entry : NvmeCompletion} (sq : NvmeSq)
    (admin : entry.sqId = nvmeAqId) :
    (ndev.headed entry sq).findSq nvmeAqId =
      some { sq with headPtr := entry.sqHead } := by
  rw [← admin]
  exact NvmeDevice.findSq_setSq _ _ _

theorem mem_of_dnvmeFindCmd {sq : NvmeSq} {cid : Nat} {cmd : NvmeCmd}
    (here : dnvmeFindCmd sq cid = some cmd) : cmd ∈ sq.cmdList :=
  List.mem_of_find?_eq_some here

theorem dnvmeDeleteSq_effects (keyed : Keyed ndev) (id : Nat) :
    Effects rule ndev (dnvmeDeleteSq ndev id) := by
  unfold dnvmeDeleteSq
  cases found : ndev.findSq id with
  | none => exact Relation.ReflTransGen.refl
  | some sq =>
      have key := keyed.sq id sq found
      exact Relation.ReflTransGen.single (Effect.dropSq (key ▸ found))

theorem irqSet_effect (irqSet : NvmeIrqSet) :
    Effect rule ndev { ndev with irqSet := irqSet } :=
  Effect.quiet ⟨fun _ => rfl, fun _ => rfl, rfl, rfl, rfl, rfl⟩

theorem dnvmeDeleteCq_effects (keyed : Keyed ndev) (id : Nat) :
    Effects rule ndev (dnvmeDeleteCq ndev id) := by
  unfold dnvmeDeleteCq
  cases found : ndev.findCq id with
  | none => exact Relation.ReflTransGen.refl
  | some cq =>
      have key := keyed.cq id cq found
      refine Relation.ReflTransGen.tail
        (Relation.ReflTransGen.single (irqSet_effect _)) (Effect.dropCq ?_)
      exact key ▸ found

theorem findSq_dnvmeDeleteSq_ne (keyed : Keyed ndev) {id other : Nat}
    (different : other ≠ id) :
    (dnvmeDeleteSq ndev id).findSq other = ndev.findSq other := by
  unfold dnvmeDeleteSq
  cases found : ndev.findSq id with
  | none => rfl
  | some sq =>
      have key := keyed.sq id sq found
      unfold NvmeDevice.findSq
      rw [dnvmeReleaseSq_sqs, key]
      exact AList.lookup_erase_ne different

theorem findSq_dnvmeDeleteSq (keyed : Keyed ndev) (key id : Nat) :
    (dnvmeDeleteSq ndev key).findSq id =
      if id = key then none else ndev.findSq id := by
  split
  · rename_i equal
    subst id
    unfold dnvmeDeleteSq
    cases found : ndev.findSq key with
    | none => exact found
    | some sq =>
        have same := keyed.sq key sq found
        unfold NvmeDevice.findSq
        rw [dnvmeReleaseSq_sqs, same]
        exact AList.lookup_erase _ _
  · rename_i different
    exact findSq_dnvmeDeleteSq_ne keyed different

theorem findCq_dnvmeDeleteCq (keyed : Keyed ndev) (key id : Nat) :
    (dnvmeDeleteCq ndev key).findCq id =
      if id = key then none else ndev.findCq id := by
  unfold dnvmeDeleteCq
  cases found : ndev.findCq key with
  | none =>
      dsimp only
      by_cases equal : id = key
      · rw [if_pos equal, equal, found]
      · rw [if_neg equal]
  | some cq =>
      have same := keyed.cq key cq found
      unfold NvmeDevice.findCq
      rw [dnvmeReleaseCq_cqs, same]
      by_cases equal : id = key
      · rw [if_pos equal, equal]
        exact AList.lookup_erase _ _
      · rw [if_neg equal]
        exact AList.lookup_erase_ne equal

theorem findSq_dnvmeDeleteCq (id other : Nat) :
    (dnvmeDeleteCq ndev id).findSq other = ndev.findSq other := by
  unfold dnvmeDeleteCq
  cases ndev.findCq id with
  | none => rfl
  | some cq => exact findSq_of_sqs_eq (dnvmeReleaseCq_sqs _ _) other

/-- Handling a completion as a sequence of effects. -/
theorem Completed.effects {entry : NvmeCompletion} (keyed : Keyed ndev)
    (completed : Completed ndev entry next) : Effects rule ndev next := by
  cases completed with
  | noQueue missing => exact Relation.ReflTransGen.refl
  | noCommand found missing =>
      exact Relation.ReflTransGen.single (headed_effect found)
  | general found here plain =>
      refine Relation.ReflTransGen.tail
        (Relation.ReflTransGen.single (headed_effect found)) ?_
      exact Effect.complete entry.sqId (NvmeDevice.findSq_setSq _ _ _)
        (mem_of_dnvmeFindCmd here) plain
  | kept found here admin special stays =>
      refine Relation.ReflTransGen.tail
        (Relation.ReflTransGen.single (headed_effect found)) ?_
      rw [admin]
      exact Effect.forget (findSq_headed _ admin) (mem_of_dnvmeFindCmd here)
        special
  | @freedSq sq cmd found here admin type frees target =>
      have first := @headed_effect rule _ _ _ found
      have keyed := keyed.effect first
      refine Relation.ReflTransGen.tail
        ((Relation.ReflTransGen.single first).trans
          (dnvmeDeleteSq_effects keyed cmd.targetQid)) ?_
      rw [admin]
      have special : adminOpcode cmd.opcode ≠ .other := by
        intro other
        rw [other] at type
        cases type
      exact Effect.forget
        ((findSq_dnvmeDeleteSq_ne keyed (Ne.symm target)).trans
          (findSq_headed _ admin)) (mem_of_dnvmeFindCmd here) special
  | @freedCq sq cmd found here admin type frees target =>
      have first := @headed_effect rule _ _ _ found
      have keyed := keyed.effect first
      refine Relation.ReflTransGen.tail
        ((Relation.ReflTransGen.single first).trans
          (dnvmeDeleteCq_effects keyed cmd.targetQid)) ?_
      rw [admin]
      have special : adminOpcode cmd.opcode ≠ .other := by
        intro other
        rw [other] at type
        cases type
      exact Effect.forget
        ((findSq_dnvmeDeleteCq _ _).trans (findSq_headed _ admin))
        (mem_of_dnvmeFindCmd here) special

theorem handleCmdCompletion_effects (keyed : Keyed ndev)
    (entry : NvmeCompletion) :
    Effects rule ndev (handleCmdCompletion ndev entry).2 :=
  (handleCmdCompletion_completed ndev entry).effects keyed

/-! ## Submission queues after a completion -/

theorem findSq_of_dnvmeDeleteSq {key id : Nat} {later : NvmeSq}
    (found : (dnvmeDeleteSq ndev key).findSq id = some later) :
    ndev.findSq id = some later := by
  unfold dnvmeDeleteSq at found
  split at found
  · exact found
  · exact (findSq_dnvmeReleaseSq found).2

/-- A queue after a completion: its own completion moves the head, and takes
at most one command off the list. -/
structure AfterCompletion (entry : NvmeCompletion) (id : Nat)
    (sq later : NvmeSq) : Prop where
  sublist : later.cmdList.Sublist sq.cmdList
  equal : later =
    if id = entry.sqId then
      { sq with headPtr := entry.sqHead, cmdList := later.cmdList }
    else sq

theorem AfterCompletion.of_headed {entry : NvmeCompletion} {id : Nat}
    {sq later : NvmeSq} (here : ndev.findSq entry.sqId = some sq)
    (found : (ndev.headed entry sq).findSq id = some later) :
    ∃ before, ndev.findSq id = some before ∧
      AfterCompletion entry id before later := by
  rcases findSq_setSq_cases found with ⟨rfl, rfl⟩ | ⟨other, same⟩
  · exact ⟨sq, here, List.Sublist.refl _, (if_pos rfl).symm⟩
  · exact ⟨later, same, List.Sublist.refl _, (if_neg other).symm⟩

theorem AfterCompletion.of_deleteCmd {entry : NvmeCompletion} {id : Nat}
    {sq later : NvmeSq} {cmd : NvmeCmd}
    (here : ndev.findSq entry.sqId = some sq)
    (kept : ∀ queue, next.findSq id = some queue →
      (ndev.headed entry sq).findSq id = some queue)
    (found : (next.deleteCmd entry.sqId cmd).findSq id = some later) :
    ∃ before, ndev.findSq id = some before ∧
      AfterCompletion entry id before later := by
  rw [findSq_deleteCmd] at found
  rcases Option.map_eq_some_iff.mp found with ⟨queue, there, rfl⟩
  rcases AfterCompletion.of_headed here (kept queue there) with
    ⟨before, found, after⟩
  refine ⟨before, found, ?_⟩
  have equal := after.equal
  by_cases own : id = entry.sqId
  · rw [if_pos own] at equal ⊢
    refine ⟨(List.eraseP_sublist).trans after.sublist, ?_⟩
    rw [if_pos own, equal]
  · rw [if_neg own] at equal ⊢
    exact ⟨after.sublist, by rw [if_neg own, equal]⟩

theorem Completed.sq_after {entry : NvmeCompletion}
    (completed : Completed ndev entry next) {id : Nat} {later : NvmeSq}
    (found : next.findSq id = some later) :
    ∃ sq, ndev.findSq id = some sq ∧ AfterCompletion entry id sq later := by
  cases completed with
  | noQueue missing =>
      refine ⟨later, found, List.Sublist.refl _, (if_neg ?_).symm⟩
      rintro rfl
      rw [missing] at found
      cases found
  | noCommand here missing => exact AfterCompletion.of_headed here found
  | general here cmd plain =>
      refine AfterCompletion.of_deleteCmd here (fun queue there => ?_) found
      rwa [findSq_of_sqs_eq (NvmeDevice.releasePrps_sqs _ _)] at there
  | kept here cmd admin special stays =>
      exact AfterCompletion.of_deleteCmd here (fun _ there => there) found
  | freedSq here cmd admin type frees target =>
      exact AfterCompletion.of_deleteCmd here
        (fun _ there => findSq_of_dnvmeDeleteSq there) found
  | freedCq here cmd admin type frees target =>
      refine AfterCompletion.of_deleteCmd here (fun queue there => ?_) found
      rwa [findSq_dnvmeDeleteCq] at there

/-! ## Scans and reaps -/

theorem dnvmeGetCqeRemain_tail {cq scanned : NvmeCq}
    {remain : Nat} (done : dnvmeGetCqeRemain ndev cq = .ok (remain, scanned)) :
    ∃ tail, scanned = { cq with tailPtr := tail } := by
  rw [dnvmeGetCqeRemain] at done
  split at done
  · cases done
  · cases done
    exact ⟨_, rfl⟩

/-- A scan moves the tail of its queue. -/
theorem scan_eq {cqid remain : Nat} {cq : NvmeCq}
    (scanned : ndev.scan cqid cq = .ok (remain, next)) :
    ∃ tail, next = ndev.setCq cqid { cq with tailPtr := tail } ∧
      dnvmeGetCqeRemain ndev cq =
        .ok (remain, { cq with tailPtr := tail }) := by
  unfold NvmeDevice.scan at scanned
  split at scanned
  · cases scanned
  · rename_i count changed unreaped
    rcases dnvmeGetCqeRemain_tail unreaped with ⟨tail, rfl⟩
    cases scanned
    exact ⟨tail, rfl, unreaped⟩

theorem scan_effect {cqid remain : Nat} {cq : NvmeCq}
    (found : ndev.findCq cqid = some cq)
    (scanned : ndev.scan cqid cq = .ok (remain, next)) :
    Effect rule ndev next := by
  rcases scan_eq scanned with ⟨tail, rfl, _⟩
  exact Effect.cqData cqid found ⟨rfl, rfl, rfl, rfl, rfl, rfl, rfl, rfl⟩

theorem updateCqHead_kept (cq : NvmeCq) (count : Nat) :
    CqKept cq (updateCqHead cq count) := by
  unfold updateCqHead
  dsimp only
  split
  · exact ⟨rfl, rfl, rfl, rfl, rfl, rfl, rfl, rfl⟩
  · exact ⟨rfl, rfl, rfl, rfl, rfl, rfl, rfl, rfl⟩

theorem updateCqHead_effects (cqid count : Nat) :
    Effects rule ndev (ndev.updateCqHead cqid count) := by
  unfold NvmeDevice.updateCqHead
  cases found : ndev.findCq cqid with
  | none => exact Relation.ReflTransGen.refl
  | some cq =>
      exact Relation.ReflTransGen.single
        (Effect.cqData cqid found (updateCqHead_kept cq count))

/-- Effects from a device on are closed under the parts of a reap. -/
theorem effects_reapClosed (keyed : Keyed ndev) :
    ReapClosed fun later => Effects rule ndev later where
  scan start found scanned := start.tail (scan_effect found scanned)
  head _ _ start := start.trans (updateCqHead_effects _ _)
  complete entry start :=
    start.trans (handleCmdCompletion_effects (keyed.effects start) entry)
  clear _ start := start.tail (irqSet_effect _)
  unmask _ start := start.tail (irqSet_effect _)

/-! ## New queues -/

theorem dnvmeAllocSq_eq {env : AllocQueueEnv} {prep : NvmePrepSq}
    {sqes : Nat} (done : dnvmeAllocSq env ndev prep sqes = some next) :
    ndev.findSq prep.sqId = none ∧
      ∃ dma, next = ndev.setSq prep.sqId (prep.queue sqes dma) := by
  unfold dnvmeAllocSq at done
  split at done
  · cases done
  · split at done
    · cases done
    · split at done
      · cases done
      · rename_i dma _ free
        cases done
        simp only [Bool.or_eq_true, not_or, Bool.not_eq_true,
          Option.isSome_eq_false_iff, Option.isNone_iff_eq_none] at free
        exact ⟨free.2, dma, rfl⟩

theorem dnvmeAllocCq_eq {env : AllocQueueEnv} {prep : NvmePrepCq}
    {cqes : Nat} (done : dnvmeAllocCq env ndev prep cqes = some next) :
    ndev.findCq prep.cqId = none ∧
      ∃ dma, next = ndev.setCq prep.cqId (prep.queue cqes dma) := by
  unfold dnvmeAllocCq at done
  split at done
  · cases done
  · split at done
    · cases done
    · split at done
      · cases done
      · rename_i dma _ free
        cases done
        simp only [Bool.or_eq_true, not_or, Bool.not_eq_true,
          Option.isSome_eq_false_iff, Option.isNone_iff_eq_none] at free
        exact ⟨free.2, dma, rfl⟩

/-- At most a new submission queue. -/
def SqAdded (ndev next : NvmeDevice) : Prop :=
  next = ndev ∨ ∃ (prep : NvmePrepSq) (dma : Nat),
    ndev.findSq prep.sqId = none ∧ ElementsOk ndev prep.elements ∧
      next = ndev.setSq prep.sqId (prep.queue nvmeSqes dma)

/-- At most a new completion queue. -/
def CqAdded (ndev next : NvmeDevice) : Prop :=
  next = ndev ∨ ∃ (prep : NvmePrepCq) (dma : Nat),
    ndev.findCq prep.cqId = none ∧ ElementsOk ndev prep.elements ∧
      next = ndev.setCq prep.cqId (prep.queue nvmeCqes dma)

theorem SqAdded.effects (added : SqAdded ndev next) :
    Effects rule ndev next := by
  rcases added with rfl | ⟨prep, dma, absent, elements, rfl⟩
  · exact Relation.ReflTransGen.refl
  · exact Relation.ReflTransGen.single
      (Effect.newSq prep dma absent elements)

theorem CqAdded.effects (added : CqAdded ndev next) :
    Effects rule ndev next := by
  rcases added with rfl | ⟨prep, dma, absent, elements, rfl⟩
  · exact Relation.ReflTransGen.refl
  · exact Relation.ReflTransGen.single
      (Effect.newCq prep dma absent elements)

theorem SqAdded.of_alloc {env : AllocQueueEnv} {prep : NvmePrepSq}
    (elements : ElementsOk ndev prep.elements)
    (done : dnvmeAllocSq env ndev prep nvmeSqes = some next) :
    SqAdded ndev next := by
  rcases dnvmeAllocSq_eq done with ⟨absent, dma, equal⟩
  exact Or.inr ⟨prep, dma, absent, elements, equal⟩

theorem CqAdded.of_alloc {env : AllocQueueEnv} {prep : NvmePrepCq}
    (elements : ElementsOk ndev prep.elements)
    (done : dnvmeAllocCq env ndev prep nvmeCqes = some next) :
    CqAdded ndev next := by
  rcases dnvmeAllocCq_eq done with ⟨absent, dma, equal⟩
  exact Or.inr ⟨prep, dma, absent, elements, equal⟩

theorem elementsOk_of_admin {elements : Nat}
    (accepted : ¬ (elements = 0 ∨ elements > nvmeAqMaxSize)) :
    ElementsOk ndev elements := by
  rcases not_or.mp accepted with ⟨positive, small⟩
  exact ⟨positive, le_max_of_le_right (not_lt.mp small)⟩

theorem elementsOk_of_prepare {elements : Nat}
    (accepted : ¬ (elements = 0 ∨ elements > ndev.qDepth)) :
    ElementsOk ndev elements := by
  rcases not_or.mp accepted with ⟨positive, small⟩
  exact ⟨positive, le_max_of_le_left (not_lt.mp small)⟩

theorem dnvmeCreateAsq_added (env : AllocQueueEnv) (elements : Nat) :
    SqAdded ndev (dnvmeCreateAsq env ndev elements).2 := by
  unfold dnvmeCreateAsq
  split
  · exact Or.inl rfl
  · rename_i accepted
    split
    · exact Or.inl rfl
    · split
      · exact Or.inl rfl
      · split
        · exact Or.inl rfl
        · rename_i allocated
          exact SqAdded.of_alloc (elementsOk_of_admin accepted) allocated

theorem dnvmeCreateAcq_added (env : AllocQueueEnv) (elements : Nat) :
    CqAdded ndev (dnvmeCreateAcq env ndev elements).2 := by
  unfold dnvmeCreateAcq
  split
  · exact Or.inl rfl
  · rename_i accepted
    split
    · exact Or.inl rfl
    · split
      · exact Or.inl rfl
      · split
        · exact Or.inl rfl
        · rename_i allocated
          exact CqAdded.of_alloc (elementsOk_of_admin accepted) allocated

theorem dnvmePrepareSq_added (env : AllocQueueEnv) (prep : NvmePrepSq) :
    SqAdded ndev (dnvmePrepareSq env ndev prep).2 := by
  unfold dnvmePrepareSq
  split
  · exact Or.inl rfl
  · rename_i accepted
    split
    · exact Or.inl rfl
    · split
      · exact Or.inl rfl
      · split
        · exact Or.inl rfl
        · rename_i allocated
          exact SqAdded.of_alloc (elementsOk_of_prepare accepted) allocated

theorem dnvmePrepareCq_effects (keyed : Keyed ndev) (env : AllocQueueEnv)
    (icqAlloc : Bool) (prep : NvmePrepCq) :
    Effects rule ndev (dnvmePrepareCq env icqAlloc ndev prep).2 := by
  unfold dnvmePrepareCq
  split
  · exact Relation.ReflTransGen.refl
  · rename_i accepted
    split
    · exact Relation.ReflTransGen.refl
    · split
      · exact Relation.ReflTransGen.refl
      · split
        · exact Relation.ReflTransGen.single (Effect.quiet
            ⟨fun _ => rfl, fun _ => rfl, rfl, rfl, rfl, rfl⟩)
        · rename_i added allocated
          have one : Effects rule ndev added :=
            (CqAdded.of_alloc (elementsOk_of_prepare accepted)
              allocated).effects
          split
          · exact one
          · dsimp only
            have two := one.tail (irqSet_effect (dnvmeCreateIcqNode icqAlloc
              added.irqSet prep.cqId prep.cqIrqNo).2)
            split
            · split
              · exact two
              · rename_i cq found
                have key := (keyed.effects two).cq _ cq found
                exact two.tail (Effect.dropCq (key ▸ found))
            · exact two

/-- The device of a result. -/
theorem snd_of_ok {result : Int × NvmeDevice} {ret : Int}
    (done : (.ok result : Outcome (Int × NvmeDevice)) = .ok (ret, next)) :
    next = result.2 := by
  injection done with equal
  rw [equal]

/-! ## Metadata nodes -/

theorem SameObjects.trans {first second third : NvmeDevice}
    (one : SameObjects first second) (two : SameObjects second third) :
    SameObjects first third :=
  ⟨fun id => (two.findSq id).trans (one.findSq id),
    fun id => (two.findCq id).trans (one.findCq id),
    two.prpsHeap.trans one.prpsHeap, two.released.trans one.released,
    two.nextObject.trans one.nextObject, two.qDepth.trans one.qDepth⟩

/-- Changes outside the queues and their pages. -/
theorem SameObjects.of_parts (metas : XArray NvmeMeta)
    (pinned poolPages : List Nat) (irqSet : NvmeIrqSet) (ccEnable : Bool) :
    SameObjects ndev
      { ndev with
        metas := metas
        pinned := pinned
        poolPages := poolPages
        irqSet := irqSet
        ccEnable := ccEnable } :=
  ⟨fun _ => rfl, fun _ => rfl, rfl, rfl, rfl, rfl⟩

/-- Only metadata nodes and what belongs to them are different. -/
def MetaChanged (ndev next : NvmeDevice) : Prop :=
  ∃ metas pinned poolPages,
    next = { ndev with
      metas := metas
      pinned := pinned
      poolPages := poolPages }

theorem MetaChanged.refl (ndev : NvmeDevice) : MetaChanged ndev ndev :=
  ⟨ndev.metas, ndev.pinned, ndev.poolPages, rfl⟩

theorem MetaChanged.trans {first second third : NvmeDevice}
    (one : MetaChanged first second) (two : MetaChanged second third) :
    MetaChanged first third := by
  rcases one with ⟨_, _, _, rfl⟩
  rcases two with ⟨metas, pinned, poolPages, rfl⟩
  exact ⟨metas, pinned, poolPages, rfl⟩

theorem MetaChanged.same (changed : MetaChanged ndev next) :
    SameObjects ndev next := by
  rcases changed with ⟨_, _, _, rfl⟩
  exact SameObjects.of_parts _ _ _ _ _

theorem releaseMetaPrps_changed (ndev : NvmeDevice)
    (prps : Option NvmePrps) :
    MetaChanged ndev (ndev.releaseMetaPrps prps) := by
  cases prps with
  | none => exact MetaChanged.refl ndev
  | some prps => exact ⟨_, _, _, rfl⟩

theorem insertMeta_changed (insertOk : Bool) (ndev : NvmeDevice) (id : Nat)
    (node : NvmeMeta) :
    MetaChanged ndev (insertMeta insertOk ndev id node).2 := by
  unfold insertMeta
  split
  · exact ⟨_, _, _, rfl⟩
  · exact releaseMetaPrps_changed ndev _

theorem dnvmeMetaPrepareSgl_changed {env : MetaEnv} {buf size : Nat}
    {ret : Int} {prps : Option NvmePrps}
    (done : dnvmeMetaPrepareSgl env ndev buf size = .ok (ret, prps, next)) :
    MetaChanged ndev next := by
  unfold dnvmeMetaPrepareSgl at done
  split at done
  · cases done
    exact MetaChanged.refl ndev
  · split at done
    · cases done
    · dsimp only at done
      split at done
      · cases done
        exact ⟨_, _, _, rfl⟩
      · split at done
        · cases done
        · split at done
          · cases done
            exact ⟨_, _, _, rfl⟩
          · cases done
            exact ⟨_, _, _, rfl⟩

theorem dnvmeCreateMetaNode_changed {env : MetaEnv}
    {create : NvmeMetaCreate} {ret : Int}
    (done : dnvmeCreateMetaNode env ndev create = .ok (ret, next)) :
    MetaChanged ndev next := by
  unfold dnvmeCreateMetaNode at done
  split at done
  · cases done
    exact MetaChanged.refl ndev
  · split at done
    · cases done
      exact MetaChanged.refl ndev
    · split at done
      · cases done
        exact MetaChanged.refl ndev
      · split at done
        · cases done
          exact MetaChanged.refl ndev
        · split at done
          · split at done
            · cases done
              exact MetaChanged.refl ndev
            · rw [snd_of_ok done]
              exact insertMeta_changed _ _ _ _
          · split at done
            · cases done
            · rename_i prepared
              have one := dnvmeMetaPrepareSgl_changed prepared
              split at done
              · cases done
                exact one
              · rw [snd_of_ok done]
                exact one.trans (insertMeta_changed _ _ _ _)

theorem dnvmeDeleteMetaId_changed (ndev : NvmeDevice) (id : Nat) :
    MetaChanged ndev (dnvmeDeleteMetaId ndev id) := by
  unfold dnvmeDeleteMetaId
  split
  · exact MetaChanged.refl ndev
  · exact MetaChanged.trans ⟨_, _, _, rfl⟩ (releaseMetaPrps_changed _ _)

theorem deleteMetas_changed (ids : List Nat) (ndev : NvmeDevice) :
    MetaChanged ndev (ids.foldl dnvmeDeleteMetaId ndev) := by
  induction ids generalizing ndev with
  | nil => exact MetaChanged.refl ndev
  | cons id ids ih =>
      exact (dnvmeDeleteMetaId_changed ndev id).trans (ih _)

/-! ## Cleaning up -/

theorem clearSq_effects {saveAq : Bool} {id : Nat} (keyed : Keyed ndev)
    (done : clearSq saveAq ndev id = .ok next) : Effects rule ndev next := by
  unfold clearSq at done
  split at done
  · cases done
    exact Relation.ReflTransGen.refl
  · rename_i sq found
    have key := keyed.sq id sq found
    subst key
    split at done
    · unfold dnvmeReinitAsq dnvmeDeleteCmdList at done
      dsimp only at done
      split at done
      · cases done
      · cases done
        have one := @Effect.clearList rule ndev sq.sqId sq found
        have queue := NvmeDevice.findSq_setSq (ndev.releaseCmds sq.cmdList)
          sq.sqId { sq with cmdList := [] }
        have two := @Effect.sqData rule _ sq.sqId _
          { sq with
            cmdList := []
            headPtr := 0
            tailPtr := 0
            tailPtrVirt := 0
            nextCid := 0
            entries := fun _ => .zero } queue
          ⟨rfl, rfl, rfl, rfl, rfl, rfl, rfl, rfl, rfl,
            Nat.zero_lt_of_lt⟩
        unfold NvmeDevice.setSq at two
        simp only [AList.insert_insert] at two
        exact Relation.ReflTransGen.tail
          (Relation.ReflTransGen.single one) two
    · cases done
      exact Relation.ReflTransGen.single (Effect.dropSq found)

theorem clearCq_effects {saveAq : Bool} {id : Nat} (keyed : Keyed ndev)
    (done : clearCq saveAq ndev id = .ok next) : Effects rule ndev next := by
  unfold clearCq at done
  split at done
  · cases done
    exact Relation.ReflTransGen.refl
  · rename_i cq found
    have key := keyed.cq id cq found
    subst key
    split at done
    · unfold dnvmeReinitAcq at done
      split at done
      · cases done
      · cases done
        exact Relation.ReflTransGen.single (Effect.cqData cq.qId found
          ⟨rfl, rfl, rfl, rfl, rfl, rfl, rfl, rfl⟩)
    · dsimp only at done
      split at done
      · cases done
      · cases done
        exact Relation.ReflTransGen.single (Effect.dropCq found)

theorem dnvmeDeleteAllQueues_effects {saveAq : Bool} (keyed : Keyed ndev)
    (done : dnvmeDeleteAllQueues ndev saveAq = .ok next) :
    Effects rule ndev next := by
  unfold dnvmeDeleteAllQueues at done
  rcases ok_of_bind done with ⟨noSqs, first, rest⟩
  have one : Effects rule ndev noSqs :=
    foldlM_keeps (fun start turn =>
      start.trans (clearSq_effects (keyed.effects start) turn)) _
      Relation.ReflTransGen.refl first
  exact foldlM_keeps (fun start turn =>
    start.trans (clearCq_effects (keyed.effects start) turn)) _ one rest

theorem dnvmeCleanupDevice_effects {saveAq : Bool} (keyed : Keyed ndev)
    (done : dnvmeCleanupDevice ndev saveAq = .ok next) :
    Effects rule ndev next := by
  unfold dnvmeCleanupDevice at done
  rcases ok_of_bind done with ⟨cleared, clears, rest⟩
  have one : Effects rule ndev
      { ndev with irqSet := dnvmeCleanInterrupt ndev.irqSet } :=
    Relation.ReflTransGen.single (irqSet_effect _)
  have two := one.trans
    (dnvmeDeleteAllQueues_effects (keyed.effects one) clears)
  cases rest
  exact two.tail (Effect.quiet (deleteMetas_changed _ _).same)

/-- A change of the state of the device switches it and may clean up. -/
theorem dnvmeSetDeviceState_keeps {holds : NvmeDevice → Prop}
    {ready ret : Int} {state : NvmeState}
    (switched : ∀ enable, holds { ndev with ccEnable := enable })
    (cleans : ∀ saveAq cleaned,
      dnvmeCleanupDevice { ndev with ccEnable := false } saveAq =
        .ok cleaned → holds cleaned)
    (done : dnvmeSetDeviceState ready ndev state = .ok (ret, next)) :
    holds next := by
  unfold dnvmeSetDeviceState at done
  cases state with
  | enable =>
      cases done
      exact switched true
  | disable | disableComplete =>
      dsimp only at done
      split at done
      · cases done
        exact switched false
      · split at done
        · cases done
        · rename_i cleaned
          cases done
          exact cleans _ _ cleaned

theorem dnvmeSetDeviceState_effects {ready ret : Int} {state : NvmeState}
    (keyed : Keyed ndev)
    (done : dnvmeSetDeviceState ready ndev state = .ok (ret, next)) :
    Effects rule ndev next := by
  have switched : ∀ enable : Bool,
      Effects rule ndev { ndev with ccEnable := enable } := fun enable =>
    Relation.ReflTransGen.single
      (Effect.quiet (SameObjects.of_parts _ _ _ _ enable))
  refine dnvmeSetDeviceState_keeps switched ?_ done
  intro saveAq cleaned cleans
  exact (switched false).trans (dnvmeCleanupDevice_effects
    (keyed.effects (switched false)) cleans)

/-! ## Every operation -/

theorem SubmitRefused.effects {cmd : Nvme64bCmd}
    (refused : SubmitRefused cmd ndev next) : Effects rule ndev next := by
  rcases refused with ⟨pinned, poolPages, rfl | ⟨sq, cid, found, _, rfl⟩⟩
  · exact Relation.ReflTransGen.single
      (Effect.quiet (SameObjects.of_parts _ _ _ _ _))
  · have one := @Effect.sqData rule ndev cmd.sqid sq
      { sq with nextCid := cid } found
      ⟨rfl, rfl, rfl, rfl, rfl, rfl, rfl, rfl, rfl, fun inside => inside⟩
    exact Relation.ReflTransGen.tail (Relation.ReflTransGen.single one)
      (Effect.quiet (SameObjects.of_parts _ _ _ _ _))

theorem postEntry_effects (cqid slot : Nat) (entry : NvmeCompletion) :
    Effects rule ndev (ndev.postEntry cqid slot entry) := by
  unfold NvmeDevice.postEntry
  cases found : ndev.findCq cqid with
  | none => exact Relation.ReflTransGen.refl
  | some cq =>
      exact Relation.ReflTransGen.single (Effect.cqData cqid found
        ⟨rfl, rfl, rfl, rfl, rfl, rfl, rfl, rfl⟩)

theorem dnvmeRingSqDoorbell_effects (sqId : Nat) :
    Effects rule ndev (dnvmeRingSqDoorbell ndev sqId).2 := by
  unfold dnvmeRingSqDoorbell
  cases found : ndev.findSq sqId with
  | none => exact Relation.ReflTransGen.refl
  | some sq =>
      exact Relation.ReflTransGen.single (Effect.sqData sqId found
        ⟨rfl, rfl, rfl, rfl, rfl, rfl, rfl, rfl, rfl, fun inside => inside⟩)

theorem emptyCmdList_effects (sqId : Nat) :
    Effects rule ndev (emptyCmdList ndev sqId).2 := by
  unfold emptyCmdList
  cases found : ndev.findSq sqId with
  | none => exact Relation.ReflTransGen.refl
  | some sq =>
      exact Relation.ReflTransGen.single (Effect.clearList sqId found)

/-- No operation does anything but effects. -/
theorem step_effects {op : Op} {ret : Int} (keyed : Keyed ndev)
    (meets : ∀ env cmd, op = .submit64bCmd env cmd → rule ndev env cmd)
    (done : step ndev op = .ok (ret, next)) : Effects rule ndev next := by
  replace done := (perform_of_step done).1
  cases op with
  | createAsq env elements =>
      rw [snd_of_ok done]
      exact (dnvmeCreateAsq_added env elements).effects
  | createAcq env elements =>
      rw [snd_of_ok done]
      exact (dnvmeCreateAcq_added env elements).effects
  | prepareSq env prep =>
      rw [snd_of_ok done]
      exact (dnvmePrepareSq_added env prep).effects
  | prepareCq env icqAlloc prep =>
      rw [snd_of_ok done]
      exact dnvmePrepareCq_effects keyed env icqAlloc prep
  | ringSqDoorbell sqId =>
      rw [snd_of_ok done]
      exact dnvmeRingSqDoorbell_effects sqId
  | submit64bCmd env cmd =>
      rcases dnvmeSubmit64bCmd_cases done with ⟨_, refused⟩ |
        ⟨_, sq, ccmd, filled, prps, accepted⟩
      · exact refused.effects
      · exact Relation.ReflTransGen.single
          (Effect.submit accepted (meets env cmd rfl))
  | emptyCmdList sqId =>
      rw [snd_of_ok done]
      exact emptyCmdList_effects sqId
  | inquiryCqe copyIn copyOut cqid =>
      rw [perform] at done
      split at done
      · cases done
      · rename_i asked
        cases done
        exact (effects_reapClosed keyed).dnvmeInquiryCqe
          Relation.ReflTransGen.refl asked
  | reapCqeLegacy env reap =>
      rw [perform] at done
      unfold ReapResult.toStep at done
      split at done
      · cases done
      · rename_i reaped
        cases done
        exact (effects_reapClosed keyed).dnvmeReapCqeLegacy
          Relation.ReflTransGen.refl reaped
  | gnlReapCqe copyOk cqid expect buf size =>
      rw [perform] at done
      unfold ReapResult.toStep at done
      split at done
      · cases done
      · rename_i reaped
        cases done
        exact (effects_reapClosed keyed).dnvmeGnlCmdReapCqe
          Relation.ReflTransGen.refl reaped
  | createMetaNode env create =>
      exact Relation.ReflTransGen.single
        (Effect.quiet (dnvmeCreateMetaNode_changed done).same)
  | deleteMetaId id =>
      cases done
      exact Relation.ReflTransGen.single
        (Effect.quiet (dnvmeDeleteMetaId_changed ndev id).same)
  | setInterrupt env irq =>
      cases done
      exact Relation.ReflTransGen.single (irqSet_effect _)
  | maskInterrupt irqNo =>
      cases done
      exact Relation.ReflTransGen.single (irqSet_effect _)
  | unmaskInterrupt irqNo =>
      cases done
      exact Relation.ReflTransGen.single (irqSet_effect _)
  | setDeviceState ready state => exact dnvmeSetDeviceState_effects keyed done
  | release =>
      rw [perform] at done
      split at done
      · cases done
      · rename_i cleaned
        cases done
        exact dnvmeCleanupDevice_effects keyed cleaned
  | interrupt intVec =>
      cases done
      exact Relation.ReflTransGen.single (irqSet_effect _)
  | bottomHalf irqId =>
      cases done
      exact Relation.ReflTransGen.single (irqSet_effect _)
  | post cqid slot entry =>
      cases done
      exact postEntry_effects cqid slot entry

end Decompose

/-! ## Runs -/

/-- One operation whose submission, if it is one, meets the rule. -/
def Step (rule : SubmitRule) (ndev next : NvmeDevice) : Prop :=
  ∃ op ret, (∀ env cmd, op = .submit64bCmd env cmd → rule ndev env cmd) ∧
    step ndev op = .ok (ret, next)

/-- The devices that runs of such operations reach.  The depth of a queue is
at most what the 16 bits of `CAP.MQES` give. -/
def Reachable (rule : SubmitRule) (ndev : NvmeDevice) : Prop :=
  ∃ qDepth capCqr cmbSqs cmbCqs, qDepth ≤ 2 ^ 16 ∧
    Relation.ReflTransGen (Step rule)
      (NvmeDevice.fresh qDepth capCqr cmbSqs cmbCqs) ndev

theorem Reachable.fresh {rule : SubmitRule} {qDepth : Nat}
    (small : qDepth ≤ 2 ^ 16) (capCqr cmbSqs cmbCqs : Bool) :
    Reachable rule (NvmeDevice.fresh qDepth capCqr cmbSqs cmbCqs) :=
  ⟨qDepth, capCqr, cmbSqs, cmbCqs, small, Relation.ReflTransGen.refl⟩

theorem Reachable.next {rule : SubmitRule} {ndev next : NvmeDevice}
    (reachable : Reachable rule ndev) (op : Op) {ret : Int}
    (meets : ∀ env cmd, op = .submit64bCmd env cmd → rule ndev env cmd)
    (done : step ndev op = .ok (ret, next)) : Reachable rule next := by
  rcases reachable with ⟨qDepth, capCqr, cmbSqs, cmbCqs, small, run⟩
  exact ⟨qDepth, capCqr, cmbSqs, cmbCqs, small,
    run.tail ⟨op, ret, meets, done⟩⟩

/-- No `BUG_ON` was hit. -/
theorem Reachable.running {rule : SubmitRule} {ndev : NvmeDevice}
    (reachable : Reachable rule ndev) : ndev.bug = false := by
  rcases reachable with ⟨qDepth, capCqr, cmbSqs, cmbCqs, small, run⟩
  cases run with
  | refl => rfl
  | tail _ moves =>
      rcases moves with ⟨op, ret, _, done⟩
      exact (perform_of_step done).2

theorem Keyed.fresh (qDepth : Nat) (capCqr cmbSqs cmbCqs : Bool) :
    Keyed (NvmeDevice.fresh qDepth capCqr cmbSqs cmbCqs) where
  sq _ _ found := by cases found
  cq _ _ found := by cases found

theorem Step.effects {rule : SubmitRule} {ndev next : NvmeDevice}
    (moves : Step rule ndev next) (keyed : Keyed ndev) :
    Effects rule ndev next := by
  rcases moves with ⟨op, ret, meets, done⟩
  exact step_effects keyed meets done

theorem Reachable.effects {rule : SubmitRule} {ndev : NvmeDevice}
    (reachable : Reachable rule ndev) :
    ∃ qDepth capCqr cmbSqs cmbCqs, qDepth ≤ 2 ^ 16 ∧
      Effects rule (NvmeDevice.fresh qDepth capCqr cmbSqs cmbCqs) ndev := by
  rcases reachable with ⟨qDepth, capCqr, cmbSqs, cmbCqs, small, run⟩
  refine ⟨qDepth, capCqr, cmbSqs, cmbCqs, small, ?_⟩
  induction run with
  | refl => exact Relation.ReflTransGen.refl
  | tail _ moves ih =>
      exact ih.trans (moves.effects ((Keyed.fresh _ _ _ _).effects ih))

/-- What holds at the start and survives every effect holds in every run. -/
theorem Reachable.invariant {rule : SubmitRule} {ndev : NvmeDevice}
    {holds : NvmeDevice → Prop}
    (start : ∀ qDepth capCqr cmbSqs cmbCqs, qDepth ≤ 2 ^ 16 →
      holds (NvmeDevice.fresh qDepth capCqr cmbSqs cmbCqs))
    (keep : ∀ {ndev next}, Effect rule ndev next → holds ndev → holds next)
    (reachable : Reachable rule ndev) : holds ndev := by
  rcases reachable.effects with
    ⟨qDepth, capCqr, cmbSqs, cmbCqs, small, effects⟩
  exact effects.preserve keep (start qDepth capCqr cmbSqs cmbCqs small)

theorem Reachable.keyed {rule : SubmitRule} {ndev : NvmeDevice}
    (reachable : Reachable rule ndev) : Keyed ndev :=
  reachable.invariant (fun _ _ _ _ _ => Keyed.fresh _ _ _ _) Keyed.effect

end Dnvme.Driver
