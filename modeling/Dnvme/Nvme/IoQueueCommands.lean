import Dnvme.Nvme.IoQueues

/-!
# Admin commands that succeed

Whatever an admin command of the library returns, the driver and the device
went through steps of theirs.  Where no other command for a queue is in flight,
a return value of zero means that the device executed this command, with
success, and that the driver has reaped it.  A return value that is negative
has a reason.
-/

namespace Dnvme.Nvme.IoQueues

open Dnvme.Driver
open Dnvme.Driver.CommandId
open Dnvme.Driver.QueueAgreement
open Dnvme.Lib.Procedures

/-! ## Steps -/

/-- A step of the driver and the device, or a doorbell that is rung. -/
inductive Turn : QueueSystem → QueueSystem → Prop where
  | step {s t : QueueSystem} (moves : QueueStep s t) : Turn s t
  | ring {s : QueueSystem} (sqid : Nat) :
      Turn s { s with ndev := (dnvmeRingSqDoorbell s.ndev sqid).2 }

abbrev Turns : QueueSystem → QueueSystem → Prop :=
  Relation.ReflTransGen Turn

variable {s t : QueueSystem} {faults : Faults}

theorem Executes.turn (executes : Executes faults s t) : Turn s t := by
  obtain ⟨other, some, answers, _⟩ := executes
  exact .step (.execute other some answers)

theorem Executes.turns (run : Relation.ReflTransGen (Executes faults) s t) :
    Turns s t := by
  induction run with
  | refl => exact Relation.ReflTransGen.refl
  | tail _ executes ih => exact ih.tail executes.turn

theorem submitted_turn {env : SubmitEnv} {cmd : Nvme64bCmd} {code : Int}
    {next : NvmeDevice}
    (done : dnvmeSubmit64bCmd env s.ndev cmd = .ok (code, next)) :
    Turn s (submitted s cmd code next) :=
  .step (.submit done)

/-! ## The invariant -/

theorem createdOf_ring (ndev : NvmeDevice) (sqid : Nat)
    (type : NvmeQueueType) (id : Nat) :
    createdOf (dnvmeRingSqDoorbell ndev sqid).2 type id =
      createdOf ndev type id := by
  unfold dnvmeRingSqDoorbell
  cases found : ndev.findSq sqid with
  | none => rfl
  | some sq =>
      cases type with
      | sq =>
          simp only [createdOf]
          by_cases same : id = sqid
          · rw [same, NvmeDevice.findSq_setSq, found]
            rfl
          · rw [NvmeDevice.findSq_setSq_ne _ _ same]
      | cq => rfl

/-- A doorbell changes the positions of its queue. -/
theorem findSq_ring (ndev : NvmeDevice) (sqid id : Nat) :
    (dnvmeRingSqDoorbell ndev sqid).2.findSq id =
      (ndev.findSq id).map fun sq => if id = sqid then
        { sq with tailPtr := sq.tailPtrVirt, db := sq.tailPtrVirt }
        else sq := by
  unfold dnvmeRingSqDoorbell
  cases found : ndev.findSq sqid with
  | none =>
      by_cases same : id = sqid
      · rw [same, found]
        rfl
      · simp only [if_neg same, Option.map_id']
  | some sq =>
      by_cases same : id = sqid
      · rw [same, NvmeDevice.findSq_setSq, found, Option.map_some, if_pos rfl]
      · simp only [NvmeDevice.findSq_setSq_ne _ _ same, if_neg same,
          Option.map_id']

theorem findCq_ring (ndev : NvmeDevice) (sqid id : Nat) :
    (dnvmeRingSqDoorbell ndev sqid).2.findCq id = ndev.findCq id := by
  unfold dnvmeRingSqDoorbell
  split <;> rfl

theorem QueuesKept.of_ring (ndev : NvmeDevice) (sqid : Nat) :
    QueuesKept 0 ndev (dnvmeRingSqDoorbell ndev sqid).2 := by
  constructor
  · intro type id _
    rw [createdOf_ring]
  · intro sq here
    rw [findSq_ring, here, Option.map_some]
    refine ⟨_, rfl, ?_⟩
    split <;> exact ⟨rfl, .inl rfl⟩
  · intro absent sq here
    rw [findSq_ring, absent] at here
    cases here

theorem Turn.requests_le (turn : Turn s t) : s.requests ≤ t.requests := by
  cases turn with
  | step moves => exact moves.requests_le
  | ring sqid => exact Nat.le_refl _

theorem Turns.requests_le (turns : Turns s t) : s.requests ≤ t.requests := by
  induction turns with
  | refl => exact Nat.le_refl _
  | tail _ turn ih => exact ih.trans turn.requests_le

theorem invariant_turn (invariant : Invariant s) (turn : Turn s t)
    (few : t.requests < 2 ^ 16) : Invariant t := by
  cases turn with
  | step moves => exact invariant.step moves few
  | ring sqid =>
      exact @Invariant.kept s _ 0 invariant (dnvmeRingSqDoorbell_effects sqid)
        (QueuesKept.of_ring s.ndev sqid) few

theorem invariant_turns (invariant : Invariant s) (turns : Turns s t)
    (few : t.requests < 2 ^ 16) : Invariant t := by
  induction turns with
  | refl => exact invariant
  | tail _ turn ih =>
      exact invariant_turn (ih (turn.requests_le.trans_lt few)) turn few

/-- No command for a queue is in flight. -/
def Quiet (s : QueueSystem) : Prop :=
  ∀ command ∈ s.outstanding, queueType (adminOpcode command.opcode) = none

/-- Where no command for a queue is in flight, the device has a queue exactly
if the driver has marked it. -/
theorem has_eq_created (invariant : Invariant s) (quiet : Quiet s)
    (type : NvmeQueueType) {id : Nat} (io : id ≠ 0) :
    s.controller.has type id = (createdOf s.ndev type id == some true) := by
  have noCreate : s.waiting.countP (creates type id) = 0 := by
    rw [List.countP_eq_zero]
    intro command member making
    have none_ := quiet command (List.mem_append_left _ member)
    simp only [creates, Bool.and_eq_true, decide_eq_true_eq] at making
    rw [making.1] at none_
    cases type <;> cases none_
  have noDelete : s.posted.countP (deleted type id) = 0 := by
    rw [List.countP_eq_zero]
    intro done member gone
    have none_ := quiet done.1
      (List.mem_append_right _ (List.mem_map_of_mem member))
    simp only [deleted, deletes, Bool.and_eq_true, decide_eq_true_eq] at gone
    rw [gone.1.1] at none_
    cases type <;> cases none_
  have count := invariant.tokens type id io
  unfold tokenCount at count
  rw [noCreate, noDelete, Nat.zero_add, Nat.add_zero] at count
  cases here : s.controller.has type id <;>
    cases marked : createdOf s.ndev type id == some true <;> simp_all

/-! ## One command for a queue in flight -/

/-- A command that concerns no queue leaves the device as it is. -/
theorem execute_of_plain {controller : Controller} {other : Bool}
    {command : NvmeCommonCommand}
    (plain : queueType (adminOpcode command.opcode) = none) :
    (controller.execute other command).2 = controller := by
  unfold Controller.execute
  dsimp only
  split
  · rfl
  · cases opcode : adminOpcode command.opcode with
    | other => rfl
    | deleteSq | createSq | deleteCq | createCq =>
        rw [opcode] at plain
        cases plain

/-- The outcome of a command for a queue is the one of the device. -/
theorem execute_special {controller : Controller}
    {command : NvmeCommonCommand}
    (special : queueType (adminOpcode command.opcode) ≠ none)
    (io : command.qid ≠ 0) (other : Bool) :
    controller.execute other command = controller.execute false command := by
  unfold Controller.execute
  dsimp only
  rw [if_neg io, if_neg io]
  cases opcode : adminOpcode command.opcode with
  | other =>
      rw [opcode] at special
      exact absurd rfl special
  | deleteSq | createSq | deleteCq | createCq => rfl

/-- What a completion says about a command that was executed. -/
structure Told (faults : Faults) (controller : Controller)
    (command : NvmeCommonCommand) (entry : NvmeCompletion) : Prop where
  answers : Answers entry command (controller.execute false command).1
  plain : entry.state = 0 →
    nvmeCqeStatusToState entry.status = 0 ∨ faults.flagged

/-- The command for a queue was not executed yet. -/
structure Waits (start u : QueueSystem) : Prop where
  controller : u.controller = start.controller
  posted : ∀ done ∈ u.posted, queueType (adminOpcode done.1.opcode) = none

/-- The command for a queue was executed. -/
structure Executed (faults : Faults) (start : QueueSystem)
    (filled : NvmeCommonCommand) (u : QueueSystem) : Prop where
  controller : u.controller = (start.controller.execute false filled).2
  waiting : ∀ command ∈ u.waiting,
    queueType (adminOpcode command.opcode) = none
  posted : ∀ done ∈ u.posted, queueType (adminOpcode done.1.opcode) ≠ none →
    done.1 = filled ∧ Told faults start.controller filled done.2

/-- The device since a command for a queue was submitted. -/
structure InFlight (faults : Faults) (start : QueueSystem)
    (filled : NvmeCommonCommand) (u : QueueSystem) : Prop where
  ndev : u.ndev = start.ndev
  requests : u.requests = start.requests
  outstanding : u.outstanding.Perm start.outstanding
  phase : Waits start u ∨ Executed faults start filled u

/-- The system when the only command for a queue was submitted. -/
structure Sent (start : QueueSystem) (filled : NvmeCommonCommand) : Prop where
  special : queueType (adminOpcode filled.opcode) ≠ none
  io : filled.qid ≠ 0
  waiting : filled ∈ start.waiting
  posted : ∀ done ∈ start.posted, queueType (adminOpcode done.1.opcode) = none
  /-- There is no other one. -/
  alone : ∀ command others, start.outstanding.Perm (command :: others) →
    queueType (adminOpcode command.opcode) ≠ none → command = filled ∧
      ∀ another ∈ others, queueType (adminOpcode another.opcode) = none

theorem Sent.of_append {s start : QueueSystem} {filled : NvmeCommonCommand}
    (quiet : Quiet s) (special : queueType (adminOpcode filled.opcode) ≠ none)
    (io : filled.qid ≠ 0) (waiting : start.waiting = s.waiting ++ [filled])
    (posted : start.posted = s.posted) : Sent start filled := by
  constructor
  · exact special
  · exact io
  · rw [waiting]
    exact List.mem_append_right _ List.mem_cons_self
  · intro done member
    rw [posted] at member
    exact quiet done.1 (List.mem_append_right _ (List.mem_map_of_mem member))
  · intro command others parts kind
    have moved : start.outstanding.Perm (filled :: s.outstanding) := by
      unfold QueueSystem.outstanding
      rw [waiting, posted, List.append_assoc]
      exact List.perm_middle
    have here := (parts.symm.trans moved).mem_iff.mp List.mem_cons_self
    rcases List.mem_cons.mp here with rfl | before
    · refine ⟨rfl, fun another member => quiet another ?_⟩
      exact (List.Perm.cons_inv (parts.symm.trans moved)).mem_iff.mp member
    · exact absurd (quiet command before) kind

theorem InFlight.start {start : QueueSystem} {filled : NvmeCommonCommand}
    (sent : Sent start filled) : InFlight faults start filled start :=
  ⟨rfl, rfl, List.Perm.refl _, .inl ⟨rfl, sent.posted⟩⟩

theorem outstanding_executed {before after : List NvmeCommonCommand}
    {command : NvmeCommonCommand} {u : QueueSystem} {entry : NvmeCompletion}
    (some : u.waiting = before ++ command :: after) :
    (before ++ after ++ (u.posted ++ [(command, entry)]).map Prod.fst).Perm
      u.outstanding := by
  unfold QueueSystem.outstanding
  rw [some, List.map_append, List.map_singleton, ← List.append_assoc]
  refine List.perm_append_comm.trans ?_
  rw [List.append_assoc before, List.append_assoc before,
    List.singleton_append, List.cons_append]
  exact List.perm_middle.symm

theorem InFlight.executes {start u v : QueueSystem}
    {filled : NvmeCommonCommand} (sent : Sent start filled)
    (flight : InFlight faults start filled u)
    (executes : Executes faults u v) : InFlight faults start filled v := by
  obtain @⟨command, before, after, entry, other, some, answers, plain⟩ :=
    executes
  have moved := @outstanding_executed before after command u entry some
  constructor
  · exact flight.ndev
  · exact flight.requests
  · exact moved.trans flight.outstanding
  · by_cases kind : queueType (adminOpcode command.opcode) = none
    · -- a command that concerns no queue
      have less : ∀ another ∈ before ++ after, another ∈ u.waiting := by
        intro another member
        rw [some]
        rcases List.mem_append.mp member with first | last
        · exact List.mem_append_left _ first
        · exact List.mem_append_right _ (List.mem_cons_of_mem _ last)
      rcases flight.phase with waits | executed
      · refine .inl ⟨(execute_of_plain kind).trans waits.controller, ?_⟩
        intro done member
        rcases List.mem_append.mp member with old | new
        · exact waits.posted done old
        · rw [List.mem_singleton.mp new]
          exact kind
      · refine .inr ⟨(execute_of_plain kind).trans executed.controller,
          fun another member => executed.waiting another (less another member),
          ?_⟩
        intro done member special
        rcases List.mem_append.mp member with old | new
        · exact executed.posted done old special
        · rw [List.mem_singleton.mp new] at special
          exact absurd kind special
    · have here : command ∈ u.waiting := by
        rw [some]
        exact List.mem_append_right _ List.mem_cons_self
      rcases flight.phase with waits | executed
      · have parts : start.outstanding.Perm (command ::
            (before ++ after ++ u.posted.map Prod.fst)) := by
          refine flight.outstanding.symm.trans ?_
          unfold QueueSystem.outstanding
          rw [some, List.append_assoc, List.append_assoc]
          exact List.perm_middle
        obtain ⟨rfl, others⟩ := sent.alone command _ parts kind
        rw [waits.controller] at answers ⊢
        rw [execute_special kind sent.io] at answers
        refine .inr ⟨?_, fun another member => others another
          (List.mem_append_left _ member), ?_⟩
        · rw [execute_special kind sent.io]
        · intro done member special
          rcases List.mem_append.mp member with old | new
          · exact absurd (waits.posted done old) special
          · rw [List.mem_singleton.mp new]
            exact ⟨rfl, answers, plain⟩
      · exact absurd (executed.waiting command here) kind

theorem InFlight.run {start u : QueueSystem} {filled : NvmeCommonCommand}
    (sent : Sent start filled)
    (run : Relation.ReflTransGen (Executes faults) start u) :
    InFlight faults start filled u := by
  induction run with
  | refl => exact InFlight.start sent
  | tail _ executes ih => exact ih.executes sent executes

/-! ## What a command changes -/

/-- What the creation of a queue says about it. -/
structure SameSq (sq later : NvmeSq) : Prop where
  cqId : later.cqId = sq.cqId
  elements : later.elements = sq.elements
  contig : later.contig = sq.contig

/-- The same of a completion queue. -/
structure SameCq (cq later : NvmeCq) : Prop where
  elements : later.elements = cq.elements
  irqEnabled : later.irqEnabled = cq.irqEnabled
  irqNo : later.irqNo = cq.irqNo
  contig : later.contig = cq.contig

/-- No queue is replaced by another one. -/
structure SameQueues (ndev next : NvmeDevice) : Prop where
  sq : ∀ id later, next.findSq id = some later →
    ∃ sq, ndev.findSq id = some sq ∧ SameSq sq later
  cq : ∀ id later, next.findCq id = some later →
    ∃ cq, ndev.findCq id = some cq ∧ SameCq cq later

theorem SameQueues.trans {first second third : NvmeDevice}
    (one : SameQueues first second) (two : SameQueues second third) :
    SameQueues first third := by
  constructor
  · intro id later found
    obtain ⟨sq, between, last⟩ := two.sq id later found
    obtain ⟨old, here, begun⟩ := one.sq id sq between
    exact ⟨old, here, last.cqId.trans begun.cqId,
      last.elements.trans begun.elements, last.contig.trans begun.contig⟩
  · intro id later found
    obtain ⟨cq, between, last⟩ := two.cq id later found
    obtain ⟨old, here, begun⟩ := one.cq id cq between
    exact ⟨old, here, last.elements.trans begun.elements,
      last.irqEnabled.trans begun.irqEnabled, last.irqNo.trans begun.irqNo,
      last.contig.trans begun.contig⟩

theorem SameQueues.of_ring (ndev : NvmeDevice) (sqid : Nat) :
    SameQueues ndev (dnvmeRingSqDoorbell ndev sqid).2 := by
  constructor
  · intro id later found
    rw [findSq_ring] at found
    obtain ⟨sq, here, rfl⟩ := Option.map_eq_some_iff.mp found
    refine ⟨sq, here, ?_⟩
    split <;> exact ⟨rfl, rfl, rfl⟩
  · intro id later found
    rw [findCq_ring] at found
    exact ⟨later, found, rfl, rfl, rfl, rfl⟩

theorem SameQueues.of_submitted {env : SubmitEnv} {cmd : Nvme64bCmd}
    {ndev next : NvmeDevice} {sq : NvmeSq} {ccmd filled : NvmeCommonCommand}
    {prps : Option NvmePrps}
    (accepted : Submitted env cmd ndev next sq ccmd filled prps) :
    SameQueues ndev next := by
  have sqs : ∀ object paged id queue,
      SameSq queue (createdSq env cmd ccmd object paged id queue) := by
    intro object paged id queue
    unfold createdSq
    split
    · split <;> exact ⟨rfl, rfl, rfl⟩
    · exact ⟨rfl, rfl, rfl⟩
  constructor
  · intro id later found
    rw [accepted.findSq] at found
    obtain ⟨queue, here, rfl⟩ := Option.map_eq_some_iff.mp found
    refine ⟨queue, here, ?_⟩
    split
    · have made := sqs ndev.nextObject prps.isSome id queue
      exact ⟨made.cqId, made.elements, made.contig⟩
    · exact sqs _ _ _ _
  · intro id later found
    rw [accepted.findCq] at found
    obtain ⟨queue, here, rfl⟩ := Option.map_eq_some_iff.mp found
    refine ⟨queue, here, ?_⟩
    unfold createdCq
    split
    · split <;> exact ⟨rfl, rfl, rfl, rfl⟩
    · exact ⟨rfl, rfl, rfl, rfl⟩

theorem findCq_of_dnvmeDeleteCq {ndev : NvmeDevice} {key id : Nat}
    {later : NvmeCq} (found : (dnvmeDeleteCq ndev key).findCq id = some later) :
    ndev.findCq id = some later := by
  unfold dnvmeDeleteCq at found
  split at found
  · exact found
  · exact (findCq_dnvmeReleaseCq found).2

/-- A completion does not change a completion queue that it leaves. -/
theorem findCq_of_completed {ndev next : NvmeDevice} {entry : NvmeCompletion}
    (completed : Completed ndev entry next) {id : Nat} {later : NvmeCq}
    (found : next.findCq id = some later) : ndev.findCq id = some later := by
  cases completed with
  | noQueue missing => exact found
  | noCommand here missing => exact found
  | general here cmd plain =>
      rwa [findCq_of_cqs_eq (NvmeDevice.deleteCmd_cqs _ _ _),
        findCq_of_cqs_eq (NvmeDevice.releasePrps_cqs _ _)] at found
  | kept here cmd admin special stays =>
      rwa [findCq_of_cqs_eq (NvmeDevice.deleteCmd_cqs _ _ _)] at found
  | freedSq here cmd admin type frees target =>
      rwa [findCq_of_cqs_eq (NvmeDevice.deleteCmd_cqs _ _ _),
        findCq_of_cqs_eq (dnvmeDeleteSq_cqs _ _)] at found
  | freedCq here cmd admin type frees target =>
      rw [findCq_of_cqs_eq (NvmeDevice.deleteCmd_cqs _ _ _)] at found
      have before := findCq_of_dnvmeDeleteCq found
      exact before

theorem SameQueues.of_completed {ndev next : NvmeDevice}
    {entry : NvmeCompletion} (completed : Completed ndev entry next) :
    SameQueues ndev next := by
  constructor
  · intro id later found
    obtain ⟨sq, here, after⟩ := completed.sq_after found
    refine ⟨sq, here, ?_⟩
    rw [after.equal]
    split <;> exact ⟨rfl, rfl, rfl⟩
  · intro id later found
    exact ⟨later, findCq_of_completed completed found, rfl, rfl, rfl, rfl⟩

/-! ## A command of the library -/

/-- An admin command for a queue that the driver accepted. -/
structure Accepted (s : QueueSystem) (cmd : Nvme64bCmd)
    (ccmd filled : NvmeCommonCommand) (next : NvmeDevice) : Prop where
  taken : ∃ env sq prps, Submitted env cmd s.ndev next sq ccmd filled prps
  waiting : (submitted s cmd 0 next).waiting = s.waiting ++ [filled]
  cid : ((s.ndev.findSq cmd.sqid).elim 0 NvmeSq.nextCid : Nat) =
    filled.commandId
  opcode : filled.opcode = ccmd.opcode
  qid : filled.qid = ccmd.qid
  attachedCqid : filled.attachedCqid = ccmd.attachedCqid

theorem accepted_of_submit {env : SubmitEnv} {cmd : Nvme64bCmd}
    {ccmd : NvmeCommonCommand} {next : NvmeDevice}
    (read : env.ccmd = none ∨ env.ccmd = some ccmd)
    (admin : cmd.sqid = nvmeAqId)
    (done : dnvmeSubmit64bCmd env s.ndev cmd = .ok (0, next)) :
    ∃ filled, Accepted s cmd ccmd filled next := by
  rcases dnvmeSubmit64bCmd_cases done with
    ⟨fails, _⟩ | ⟨_, sq, other, filled, prps, accepted⟩
  · exact absurd fails (by decide)
  · obtain rfl : other = ccmd := by
      rcases read with nothing | this
      · rw [accepted.read] at nothing
        cases nothing
      · rw [accepted.read] at this
        exact Option.some.inj this
    have adds := @SqRing.added_eq_some ⟨s.ndev, 0, [], [], []⟩ _ _ _ _ _ _ _
      accepted
    rw [admin] at adds
    refine ⟨filled, ⟨env, sq, prps, accepted⟩, ?_, ?_, ?_, ?_, ?_⟩
    · unfold submitted
      rw [if_pos ⟨rfl, admin⟩, adds]
      rfl
    · rw [accepted.found, accepted.commandId]
      rfl
    · obtain ⟨_, _, rfl⟩ := accepted.filled_fields
      rfl
    · obtain ⟨_, _, rfl⟩ := accepted.filled_fields
      rfl
    · obtain ⟨_, _, rfl⟩ := accepted.filled_fields
      rfl

/-- The device looks at the opcode and at the identifiers of the queues. -/
theorem execute_congr {controller : Controller} {other : Bool}
    {first second : NvmeCommonCommand} (opcode : first.opcode = second.opcode)
    (qid : first.qid = second.qid)
    (attachedCqid : first.attachedCqid = second.attachedCqid) :
    controller.execute other first = controller.execute other second := by
  unfold Controller.execute
  rw [opcode, qid, attachedCqid]

/-- A command for a queue ended well. -/
structure Succeeded (s : QueueSystem) (ccmd : NvmeCommonCommand)
    (t : QueueSystem) : Prop where
  success : (s.controller.execute false ccmd).1 = true
  controller : t.controller = (s.controller.execute false ccmd).2
  outstanding : t.outstanding.Perm s.outstanding
  created : ∀ type id, id ≠ 0 → createdOf t.ndev type id =
    if creates type id ccmd = true then some true
    else if deletes type id ccmd = true then none
    else createdOf s.ndev type id
  same : SameQueues s.ndev t.ndev

/-- Why a command for a queue may end badly. -/
def Excused (faults : Faults) (s : QueueSystem) (ccmd : NvmeCommonCommand) :
    Prop :=
  faults.refused ∨ faults.silent ∨ faults.flagged ∨ s.outstanding ≠ [] ∨
    (s.controller.execute false ccmd).1 = false

theorem nvmeValidCqEntry_eq_zero {entry : NvmeCompletion}
    {sqid cid status : Nat}
    (valid : ¬ nvmeValidCqEntry entry sqid cid status < 0) :
    entry.sqId = sqid ∧ entry.commandId = cid ∧
      nvmeCqeStatusToState entry.status = status := by
  unfold nvmeValidCqEntry at valid
  split at valid
  · exact absurd (by decide) valid
  split at valid
  · exact absurd (by decide) valid
  split at valid
  · exact absurd (by decide) valid
  · rename_i one two three
    exact ⟨not_not.mp one, not_not.mp two, not_not.mp three⟩

theorem state_eq_zero {entry : NvmeCompletion}
    (clear : nvmeCqeStatusToState entry.status = 0) : entry.state = 0 := by
  unfold nvmeCqeStatusToState at clear
  unfold NvmeCompletion.state
  omega

section Command

variable {cmd : Nvme64bCmd} {ccmd filled : NvmeCommonCommand}
  {next : NvmeDevice}

/-- The system when the doorbell was rung. -/
def rung (s : QueueSystem) (cmd : Nvme64bCmd) (next : NvmeDevice) :
    QueueSystem :=
  { submitted s cmd 0 next with
    ndev := (dnvmeRingSqDoorbell next nvmeAqId).2 }

theorem Accepted.sent (accepted : Accepted s cmd ccmd filled next)
    (quiet : Quiet s) (special : queueType (adminOpcode ccmd.opcode) ≠ none)
    (io : ccmd.qid ≠ 0) : Sent (rung s cmd next) filled := by
  apply Sent.of_append quiet
  · rwa [accepted.opcode]
  · rwa [accepted.qid]
  · exact accepted.waiting
  · rfl

theorem rung_outstanding (accepted : Accepted s cmd ccmd filled next) :
    (rung s cmd next).outstanding.Perm (filled :: s.outstanding) := by
  have waiting : (rung s cmd next).waiting = s.waiting ++ [filled] :=
    accepted.waiting
  unfold QueueSystem.outstanding
  rw [waiting, List.append_assoc]
  exact List.perm_middle

theorem Accepted.executed (accepted : Accepted s cmd ccmd filled next)
    (controller : Controller) :
    controller.execute false filled = controller.execute false ccmd :=
  execute_congr accepted.opcode accepted.qid accepted.attachedCqid

/-- The posted completion of a command that is executed. -/
theorem told_of_posted {start u : QueueSystem} {command : NvmeCommonCommand}
    {entry : NvmeCompletion} (flight : InFlight faults start filled u)
    (special : queueType (adminOpcode filled.opcode) ≠ none)
    (posted : (filled, entry) ∈ u.posted) (same : command = filled) :
    u.controller = (start.controller.execute false filled).2 ∧
      Told faults start.controller command entry := by
  rcases flight.phase with waits | executed
  · exact absurd (waits.posted _ posted) special
  · rw [same]
    exact ⟨executed.controller, (executed.posted _ posted special).2⟩

/-- The admin queue knows the command of a completion. -/
theorem reaped_node {u : QueueSystem} {command : NvmeCommonCommand}
    {entry : NvmeCompletion} (invariant : Invariant u)
    (posted : (command, entry) ∈ u.posted) :
    ∃ sq node, u.ndev.findSq nvmeAqId = some sq ∧
      dnvmeFindCmd sq entry.commandId = some node ∧ Matches node command := by
  obtain ⟨admin, cid⟩ := invariant.answers _ posted
  obtain ⟨sq, found, node, listed, fits⟩ := invariant.listed command
    (List.mem_append_right _ (List.mem_map.mpr ⟨_, posted, rfl⟩))
  refine ⟨sq, node, found, ?_, fits⟩
  rw [cid, ← fits.cid]
  exact dnvmeFindCmd_of_mem (invariant.counted sq found).nodup listed

theorem outstanding_reaped {u : QueueSystem} {command : NvmeCommonCommand}
    {entry : NvmeCompletion}
    {before after : List (NvmeCommonCommand × NvmeCompletion)}
    (some : u.posted = before ++ (command, entry) :: after) :
    u.outstanding.Perm
      (command :: (u.waiting ++ (before ++ after).map Prod.fst)) := by
  unfold QueueSystem.outstanding
  rw [some, List.map_append, List.map_append, List.map_cons,
    ← List.append_assoc, ← List.append_assoc]
  exact List.perm_middle

/-- The objects of the driver after the completion of a command. -/
theorem createdOf_reaped {u : QueueSystem} {entry : NvmeCompletion}
    (invariant : Invariant u) (posted : (filled, entry) ∈ u.posted)
    (clear : entry.state = 0) (type : NvmeQueueType) {id : Nat} (io : id ≠ 0) :
    createdOf (handleCmdCompletion u.ndev entry).2 type id =
      if deletes type id filled = true then none
      else createdOf u.ndev type id := by
  obtain ⟨sq, node, found, here, fits⟩ := reaped_node invariant posted
  have completed := handleCmdCompletion_completed u.ndev entry
  have drops := @drops_iff node filled entry fits type id fun _ => clear
  have gone : deleted type id (filled, entry) = deletes type id filled := by
    unfold deleted
    rw [clear, decide_eq_true rfl, Bool.and_true]
  rw [createdOf_completed completed invariant.keyed
    (invariant.answers _ posted).1 found here type io]
  rw [gone] at drops
  exact if_congr drops rfl rfl

theorem reap_succeeds {u : QueueSystem} {command : NvmeCommonCommand}
    {entry : NvmeCompletion}
    {before after : List (NvmeCommonCommand × NvmeCompletion)}
    (accepted : Accepted s cmd ccmd filled next) (quiet : Quiet s)
    (admin : cmd.sqid = nvmeAqId)
    (special : queueType (adminOpcode ccmd.opcode) ≠ none)
    (io : ccmd.qid ≠ 0) (invariant : Invariant u)
    (run : Relation.ReflTransGen (Executes faults) (rung s cmd next) u)
    (some : u.posted = before ++ (command, entry) :: after)
    (valid : ¬ nvmeValidCqEntry entry nvmeAqId filled.commandId 0 < 0) :
    Succeeded s ccmd { u with
      ndev := (handleCmdCompletion u.ndev entry).2
      posted := before ++ after } := by
  obtain ⟨_, cid, clear⟩ := nvmeValidCqEntry_eq_zero valid
  have flight := InFlight.run (accepted.sent quiet special io) run
  have posted : (command, entry) ∈ u.posted := by
    rw [some]
    exact List.mem_append_right _ List.mem_cons_self
  -- the identifiers in flight are distinct
  have mine : filled ∈ u.outstanding :=
    flight.outstanding.mem_iff.mpr
      ((rung_outstanding accepted).mem_iff.mpr List.mem_cons_self)
  have its : command ∈ u.outstanding :=
    (outstanding_reaped some).mem_iff.mpr List.mem_cons_self
  obtain rfl : command = filled := by
    refine List.inj_on_of_nodup_map invariant.distinct its mine ?_
    rw [← cid]
    exact (invariant.answers _ posted).2.symm
  have kind : queueType (adminOpcode command.opcode) ≠ none := by
    rwa [accepted.opcode]
  obtain ⟨controller, told⟩ := told_of_posted flight kind posted rfl
  have start : (rung s cmd next).controller = s.controller := rfl
  rw [start, accepted.executed] at controller
  have success := told.answers.state.mp (state_eq_zero clear)
  rw [start, accepted.executed] at success
  constructor
  · exact success
  · exact controller
  · refine List.Perm.cons_inv ?_ (a := command)
    exact (outstanding_reaped some).symm.trans
      (flight.outstanding.trans (rung_outstanding accepted))
  · intro type id other
    dsimp only
    rw [createdOf_reaped invariant posted (state_eq_zero clear) type other,
      flight.ndev]
    change (if _ then _ else createdOf
      (dnvmeRingSqDoorbell next nvmeAqId).2 type id) = _
    obtain ⟨env, sq, prps, taken⟩ := accepted.taken
    have sameKind : ∀ type id,
        creates type id command = creates type id ccmd ∧
          deletes type id command = deletes type id ccmd := by
      intro type id
      unfold creates deletes
      rw [accepted.opcode, accepted.qid]
      exact ⟨rfl, rfl⟩
    rw [createdOf_ring, createdOf_submitted taken admin, (sameKind _ _).1,
      (sameKind _ _).2]
    by_cases deleting : deletes type id ccmd = true
    · rw [if_pos deleting, not_creates_of_deletes deleting,
        if_neg Bool.false_ne_true, if_pos deleting]
    · rw [if_neg deleting, if_neg deleting]
  · obtain ⟨env, sq, prps, taken⟩ := accepted.taken
    refine (SameQueues.of_submitted taken).trans ?_
    refine (SameQueues.of_ring next nvmeAqId).trans ?_
    have before : (dnvmeRingSqDoorbell next nvmeAqId).2 = u.ndev :=
      flight.ndev.symm
    rw [before]
    exact SameQueues.of_completed
      (handleCmdCompletion_completed u.ndev entry)

/-- A completion that the library does not accept has a reason. -/
theorem reap_excused {u : QueueSystem} {command : NvmeCommonCommand}
    {entry : NvmeCompletion}
    {before after : List (NvmeCommonCommand × NvmeCompletion)}
    (accepted : Accepted s cmd ccmd filled next) (quiet : Quiet s)
    (special : queueType (adminOpcode ccmd.opcode) ≠ none)
    (io : ccmd.qid ≠ 0)
    (run : Relation.ReflTransGen (Executes faults) (rung s cmd next) u)
    (some : u.posted = before ++ (command, entry) :: after)
    (invalid : nvmeValidCqEntry entry nvmeAqId filled.commandId 0 < 0) :
    Excused faults s ccmd := by
  have flight := InFlight.run (accepted.sent quiet special io) run
  have posted : (command, entry) ∈ u.posted := by
    rw [some]
    exact List.mem_append_right _ List.mem_cons_self
  unfold Excused
  by_cases alone : s.outstanding = []
  · -- the completion is the one of this command
    have its : command ∈ u.outstanding :=
      (outstanding_reaped some).mem_iff.mpr List.mem_cons_self
    have only := (flight.outstanding.trans
      (rung_outstanding accepted)).mem_iff.mp its
    rw [alone, List.mem_singleton] at only
    obtain rfl := only
    have kind : queueType (adminOpcode command.opcode) ≠ none := by
      rwa [accepted.opcode]
    obtain ⟨_, told⟩ := told_of_posted flight kind posted rfl
    have start : (rung s cmd next).controller = s.controller := rfl
    have answers := told.answers
    rw [start, accepted.executed] at answers
    by_cases clear : entry.state = 0
    · rcases told.plain clear with zero | flagged
      · unfold nvmeValidCqEntry at invalid
        rw [if_neg (not_not.mpr answers.sqId),
          if_neg (not_not.mpr answers.commandId),
          if_neg (not_not.mpr zero)] at invalid
        exact absurd invalid (Int.lt_irrefl 0)
      · exact .inr (.inr (.inl flagged))
    · have fails : ¬ (s.controller.execute false ccmd).1 = true :=
        fun success => clear (answers.state.mpr success)
      exact .inr (.inr (.inr (.inr (Bool.eq_false_iff.mpr fails))))
  · exact .inr (.inr (.inr (.inl alone)))

/-- An admin command for a queue succeeds, or there is a reason. -/
theorem adminCommand_cases {ret : Int} (invariant : Invariant s)
    (few : s.requests + 1 < 2 ^ 16) (quiet : Quiet s)
    (admin : cmd.sqid = nvmeAqId)
    (special : queueType (adminOpcode ccmd.opcode) ≠ none)
    (io : ccmd.qid ≠ 0) (run : adminCommand faults cmd ccmd s ret t) :
    if ret < 0 then Excused faults s ccmd
    else ret = 0 ∧ t.requests = s.requests + 1 ∧ Succeeded s ccmd t := by
  obtain ⟨cid, v, ⟨env, code, next, read, done, rfl, refused, cidEq⟩, rest⟩ :=
    run
  by_cases fails : code < 0
  · rw [if_pos fails] at cidEq
    rw [if_pos (cidEq ▸ fails)] at rest
    obtain ⟨rfl, rfl⟩ := rest
    rw [if_pos (by decide)]
    exact .inl (refused fails)
  rw [if_neg fails] at cidEq
  obtain rfl : code = 0 := by
    rcases dnvmeSubmit64bCmd_cases done with ⟨less, _⟩ | ⟨zero, _⟩
    · exact absurd less fails
    · exact zero
  obtain ⟨filled, accepted⟩ := accepted_of_submit read admin done
  have positive : ¬ cid < 0 := by
    rw [cidEq]
    exact not_lt.mpr (Int.natCast_nonneg _)
  rw [if_neg positive] at rest
  obtain ⟨code, w, ⟨codeEq, rfl⟩, rest⟩ := rest
  have rings : code = 0 := by
    obtain ⟨env, sq, prps, taken⟩ := accepted.taken
    have after := taken.findSq nvmeAqId
    rw [← admin, taken.found, Option.map_some] at after
    rw [codeEq]
    change (dnvmeRingSqDoorbell next nvmeAqId).1 = 0
    unfold dnvmeRingSqDoorbell
    rw [← admin, after]
  rw [rings, if_neg (Int.lt_irrefl 0)] at rest
  obtain ⟨⟨count, entry⟩, w, ⟨u, run, reaped⟩, rest⟩ := rest
  have requests : u.requests = s.requests + 1 := by
    rw [(InFlight.run (accepted.sent quiet special io) run).requests]
    change s.requests + (if cmd.sqid = nvmeAqId then 1 else 0) = _
    rw [if_pos admin]
  rcases reaped with ⟨missing, silent, rfl⟩ |
    ⟨command, entry', before, after, some, result, rfl⟩
  · dsimp only at missing rest
    rw [if_pos missing] at rest
    obtain ⟨rfl, rfl⟩ := rest
    rw [if_pos (by decide)]
    exact .inr (.inl silent)
  · cases result
    dsimp only at rest
    rw [if_neg (not_not.mpr rfl), cidEq, Int.toNat_natCast,
      accepted.cid] at rest
    split at rest
    · rename_i invalid
      obtain ⟨rfl, rfl⟩ := rest
      rw [if_pos (by decide)]
      exact reap_excused accepted quiet special io run some invalid
    · rename_i valid
      obtain ⟨rfl, rfl⟩ := rest
      rw [if_neg (Int.lt_irrefl 0)]
      refine ⟨rfl, requests, ?_⟩
      have turns : Turns s u :=
        ((Relation.ReflTransGen.single (submitted_turn done)).tail
          (.ring nvmeAqId)).trans (Executes.turns run)
      exact reap_succeeds accepted quiet admin special io
        (invariant_turns invariant turns (by omega)) run some valid

end Command

/-! ## Commands that are safe -/

/-- No command waits that deletes a completion queue which a submission queue
uses. -/
def Careful (s : QueueSystem) : Prop :=
  ∀ command ∈ s.waiting, adminOpcode command.opcode = .deleteCq →
    s.controller.attached command.qid = false

/-- A turn into a state where the driver and the device agree, and from which
the device deletes no completion queue in use. -/
structure SafeTurn (s t : QueueSystem) : Prop where
  turn : Turn s t
  invariant : Invariant t
  careful : Careful t

abbrev SafeTurns : QueueSystem → QueueSystem → Prop :=
  Relation.ReflTransGen SafeTurn

theorem SafeTurns.invariant (safe : SafeTurns s t) (before : Invariant s) :
    Invariant t := by
  rcases Relation.ReflTransGen.cases_tail safe with rfl | ⟨_, _, last⟩
  · exact before
  · exact last.invariant

/-- A command that deletes a completion queue is a command for a queue. -/
theorem Quiet.careful (quiet : Quiet s) : Careful s := by
  intro command member deleting
  have none_ := quiet command (List.mem_append_left _ member)
  rw [deleting] at none_
  cases none_

section InFlight

variable {start u : QueueSystem} {filled : NvmeCommonCommand}
  (sent : Sent start filled)
  (unused : adminOpcode filled.opcode = .deleteCq →
    start.controller.attached filled.qid = false)

include sent unused

/-- While the only command for a queue is in flight, it is the one that may
delete a completion queue. -/
theorem InFlight.careful (flight : InFlight faults start filled u) :
    Careful u := by
  intro command member deleting
  have special : queueType (adminOpcode command.opcode) ≠ none := by
    rw [deleting]
    exact fun none_ => (by cases none_)
  rcases flight.phase with waits | executed
  · obtain ⟨before, after, parts⟩ := List.append_of_mem
      (flight.outstanding.mem_iff.mp (List.mem_append_left _ member))
    have moved : start.outstanding.Perm (command :: (before ++ after)) := by
      rw [parts]
      exact List.perm_middle
    obtain ⟨rfl, _⟩ := sent.alone command _ moved special
    rw [waits.controller]
    exact unused deleting
  · exact absurd (executed.waiting command member) special

theorem Executes.safe (invariant : Invariant start)
    (few : start.requests < 2 ^ 16)
    (run : Relation.ReflTransGen (Executes faults) start u) :
    SafeTurns start u := by
  induction run with
  | refl => exact Relation.ReflTransGen.refl
  | tail past executes ih =>
      have flight := InFlight.run sent (past.tail executes)
      have fewer := flight.requests.trans_lt few
      exact ih.tail ⟨executes.turn, invariant_turns invariant
        (Executes.turns (past.tail executes)) fewer,
        flight.careful sent unused⟩

/-- Waiting for one completion is safe. -/
theorem nvmeGnlCmdReapCqe_safe {result : Int × NvmeCompletion}
    (invariant : Invariant start) (few : start.requests < 2 ^ 16)
    (run : nvmeGnlCmdReapCqe faults start result t) : SafeTurns start t := by
  obtain ⟨u, executes, reaped⟩ := run
  have before := Executes.safe sent unused invariant few executes
  rcases reaped with ⟨_, _, rfl⟩ | ⟨command, entry, _, _, some, _, rfl⟩
  · exact before
  · have flight := InFlight.run sent executes
    have kept : Careful u := flight.careful sent unused
    have reap : Turn u _ := .step (.reap some)
    exact before.tail ⟨reap, invariant_turn (before.invariant invariant) reap
      (flight.requests.trans_lt few), kept⟩

end InFlight

section Safe

variable {cmd : Nvme64bCmd} {ccmd filled : NvmeCommonCommand}
  {env : SubmitEnv} {next : NvmeDevice} (invariant : Invariant s)
  (few : s.requests + 1 < 2 ^ 16) (admin : cmd.sqid = nvmeAqId)

include invariant few admin

/-- A submission that is refused brings the device no command. -/
theorem refused_safe {code : Int} (quiet : Quiet s) (fails : code < 0)
    (done : dnvmeSubmit64bCmd env s.ndev cmd = .ok (code, next)) :
    SafeTurns s (submitted s cmd code next) := by
  have requests : (submitted s cmd code next).requests = s.requests + 1 := by
    change s.requests + (if cmd.sqid = nvmeAqId then 1 else 0) = _
    rw [if_pos admin]
  have waiting : (submitted s cmd code next).waiting = s.waiting := by
    unfold submitted
    dsimp only
    rw [if_neg fun (both : code = 0 ∧ cmd.sqid = nvmeAqId) =>
      absurd (both.1 ▸ fails) (Int.lt_irrefl 0), List.append_nil]
  refine Relation.ReflTransGen.single ⟨submitted_turn done,
    invariant_turn invariant (submitted_turn done) (requests.trans_lt few), ?_⟩
  unfold Careful
  rw [waiting]
  exact quiet.careful

/-- A submission that is accepted, and the doorbell. -/
theorem rung_safe
    (done : dnvmeSubmit64bCmd env s.ndev cmd = .ok (0, next))
    (careful : Careful (rung s cmd next)) :
    SafeTurns s (rung s cmd next) := by
  have requests : (submitted s cmd 0 next).requests = s.requests + 1 := by
    change s.requests + (if cmd.sqid = nvmeAqId then 1 else 0) = _
    rw [if_pos admin]
  have fewer : (submitted s cmd 0 next).requests < 2 ^ 16 :=
    requests.trans_lt few
  have submission := invariant_turn invariant (submitted_turn done) fewer
  exact (Relation.ReflTransGen.single
    ⟨submitted_turn done, submission, careful⟩).tail
      ⟨.ring nvmeAqId, invariant_turn submission (.ring nvmeAqId) fewer,
        careful⟩

/-- Whatever an admin command for a queue returns, the driver and the device
agreed all the time. -/
theorem adminCommand_safe {ret : Int} (quiet : Quiet s)
    (special : queueType (adminOpcode ccmd.opcode) ≠ none)
    (io : ccmd.qid ≠ 0)
    (unused : adminOpcode ccmd.opcode = .deleteCq →
      s.controller.attached ccmd.qid = false)
    (run : adminCommand faults cmd ccmd s ret t) : SafeTurns s t := by
  obtain ⟨cid, v, ⟨env, code, next, read, done, rfl, _, cidEq⟩, rest⟩ := run
  by_cases fails : code < 0
  · rw [if_pos fails] at cidEq
    rw [if_pos (cidEq ▸ fails)] at rest
    obtain ⟨_, rfl⟩ := rest
    exact refused_safe invariant few admin quiet fails done
  rw [if_neg fails] at cidEq
  obtain rfl : code = 0 := by
    rcases dnvmeSubmit64bCmd_cases done with ⟨less, _⟩ | ⟨zero, _⟩
    · exact absurd less fails
    · exact zero
  obtain ⟨filled, accepted⟩ := accepted_of_submit read admin done
  have sent := accepted.sent quiet special io
  have free : adminOpcode filled.opcode = .deleteCq →
      (rung s cmd next).controller.attached filled.qid = false := by
    rw [accepted.opcode, accepted.qid]
    exact unused
  have safe := rung_safe invariant few admin done
    ((@InFlight.start faults _ _ sent).careful sent free)
  rw [if_neg (cidEq ▸ not_lt.mpr (Int.natCast_nonneg _))] at rest
  obtain ⟨code, w, ⟨_, rfl⟩, rest⟩ := rest
  change (if code < 0 then _ else _ : Proc QueueSystem Int)
    (rung s cmd next) ret t at rest
  by_cases fails : code < 0
  · rw [if_pos fails] at rest
    obtain ⟨_, rfl⟩ := rest
    exact safe
  rw [if_neg fails] at rest
  obtain ⟨result, w, reaped, rest⟩ := rest
  have fewer : (rung s cmd next).requests < 2 ^ 16 := by
    change s.requests + (if cmd.sqid = nvmeAqId then 1 else 0) < _
    rwa [if_pos admin]
  have after := safe.trans (nvmeGnlCmdReapCqe_safe sent free
    (safe.invariant invariant) fewer reaped)
  obtain rfl : t = w := by
    dsimp only at rest
    split at rest
    · exact rest.2
    split at rest
    · exact rest.2
    · exact rest.2
  exact after

end Safe

/-! ## A command without faults -/

/-- The completion of a command that succeeded. -/
def successEntry (cid : Nat) : NvmeCompletion :=
  ⟨0, 0, nvmeAqId, cid, 0⟩

theorem nvmeValidCqEntry_successEntry (cid : Nat) :
    nvmeValidCqEntry (successEntry cid) nvmeAqId cid 0 = 0 := by
  simp [nvmeValidCqEntry, successEntry, nvmeCqeStatusToState]

/-- The system when the only admin command was executed and reaped. -/
def afterCommand (s : QueueSystem) (ccmd : NvmeCommonCommand)
    (next : NvmeDevice) (cid : Nat) : QueueSystem :=
  { s with
    ndev := (handleCmdCompletion (dnvmeRingSqDoorbell next nvmeAqId).2
      (successEntry cid)).2
    controller := (s.controller.execute false ccmd).2
    requests := s.requests + 1 }

/-- Where nothing goes wrong, an admin command is carried out. -/
theorem adminCommand_run {env : SubmitEnv} {cmd : Nvme64bCmd}
    {ccmd : NvmeCommonCommand} {next : NvmeDevice}
    (done : dnvmeSubmit64bCmd env s.ndev cmd = .ok (0, next))
    (read : env.ccmd = some ccmd) (admin : cmd.sqid = nvmeAqId)
    (waiting : s.waiting = []) (posted : s.posted = [])
    (success : (s.controller.execute false ccmd).1 = true) :
    adminCommand faults cmd ccmd s 0 (afterCommand s ccmd next
      ((s.ndev.findSq cmd.sqid).elim 0 NvmeSq.nextCid)) := by
  obtain ⟨filled, accepted⟩ := accepted_of_submit (.inr read) admin done
  have same := accepted.executed s.controller
  refine ⟨_, submitted s cmd 0 next, ⟨env, 0, next, .inr read, done, rfl,
    fun no => absurd no (Int.lt_irrefl 0), rfl⟩, ?_⟩
  dsimp only
  rw [if_neg (Int.lt_irrefl 0), accepted.cid]
  rw [if_neg (not_lt.mpr (Int.natCast_nonneg _))]
  refine ⟨0, rung s cmd next, ⟨?_, rfl⟩, ?_⟩
  · obtain ⟨env, sq, prps, taken⟩ := accepted.taken
    have after := taken.findSq nvmeAqId
    rw [← admin, taken.found, Option.map_some] at after
    change 0 = (dnvmeRingSqDoorbell next nvmeAqId).1
    unfold dnvmeRingSqDoorbell
    rw [← admin, after]
  dsimp only
  rw [if_neg (Int.lt_irrefl 0)]
  have queue : (rung s cmd next).waiting = [] ++ filled :: [] := by
    refine accepted.waiting.trans ?_
    rw [waiting]
  have clear : nvmeCqeStatusToState (successEntry filled.commandId).status =
      0 := by
    change 0 / 2 % 2 ^ 15 = 0
    decide
  have answers : Answers (successEntry filled.commandId) filled
      ((rung s cmd next).controller.execute false filled).1 := by
    refine ⟨rfl, rfl, ?_⟩
    change 0 / 2 % 2 ^ 11 = 0 ↔ (s.controller.execute false filled).1 = true
    rw [same, success]
    decide
  refine ⟨(1, successEntry filled.commandId), _, ⟨_,
    Relation.ReflTransGen.single (.execute false queue answers
      fun _ => .inl clear), .inr ⟨filled, _, [], [], ?_, rfl, rfl⟩⟩, ?_⟩
  · dsimp only
    rw [show (rung s cmd next).posted = [] from posted]
  · dsimp only
    rw [if_neg (not_not.mpr rfl), if_neg]
    · refine ⟨rfl, ?_⟩
      unfold afterCommand
      have requests : (rung s cmd next).requests = s.requests + 1 := by
        change s.requests + (if cmd.sqid = nvmeAqId then 1 else 0) = _
        rw [if_pos admin]
      rw [← same, waiting, posted, requests]
      rfl
    · rw [Int.toNat_natCast]
      rw [nvmeValidCqEntry_successEntry]
      exact Int.lt_irrefl 0

end Dnvme.Nvme.IoQueues
