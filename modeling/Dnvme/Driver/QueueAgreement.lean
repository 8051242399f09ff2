import Dnvme.Driver.PagesHeld
import Dnvme.Driver.CommandId
import Dnvme.Driver.SqRing

/-!
# Which I/O queues exist

The driver marks a queue object as created when it sends the create command
and deletes the object when it reaps a successful delete command; the
controller creates and deletes when it executes the commands.  In between the
two disagree, and commands for the same queue can be in flight together.

For every queue other than queue 0 the number of create commands that were not
executed, the queue of the controller and the number of successful delete
commands that were not reaped together make one or nothing: one exactly when
the object of the driver is marked.  Hence no create command fails, and when no
such command is in flight both sides have the same queues.
-/

namespace Dnvme.Driver.QueueAgreement

open Dnvme.Driver.PagesHeld
open Dnvme.Driver.CommandId
open Dnvme.Driver.SqRing (added added_eq_some)

/-! ## The controller -/

/-- The I/O queues of a controller; a submission queue has a completion
queue. -/
structure Controller where
  sqs : XArray Nat
  cqs : Finset Nat

namespace Controller

/-- Whether the controller has a queue. -/
def has (controller : Controller) : NvmeQueueType → Nat → Bool
  | .sq, id => (controller.sqs.lookup id).isSome
  | .cq, id => id ∈ controller.cqs

/-- Whether a submission queue uses the completion queue `id`. -/
def attached (controller : Controller) (id : Nat) : Bool :=
  controller.sqs.entries.any fun entry => entry.2 = id

/-- Execute a command: whether it succeeds, and the controller.  Commands that
do not concern an I/O queue end as `other` says. -/
def execute (controller : Controller) (other : Bool)
    (command : NvmeCommonCommand) : Bool × Controller :=
  let id := command.qid
  if id = 0 then (other, controller)
  else
    match adminOpcode command.opcode with
    | .createSq =>
        if controller.has .sq id then (false, controller)
        else
          (true, { controller with
            sqs := controller.sqs.insert id command.attachedCqid })
    | .createCq =>
        if controller.has .cq id then (false, controller)
        else (true, { controller with cqs := insert id controller.cqs })
    | .deleteSq =>
        if controller.has .sq id then
          (true, { controller with sqs := controller.sqs.erase id })
        else (false, controller)
    | .deleteCq =>
        if controller.has .cq id && !controller.attached id then
          (true, { controller with cqs := controller.cqs.erase id })
        else (false, controller)
    | .other => (other, controller)

end Controller

/-- The command that creates queues of a type. -/
def createOpcode : NvmeQueueType → AdminOpcode
  | .sq => .createSq
  | .cq => .createCq

/-- The command that deletes queues of a type. -/
def deleteOpcode : NvmeQueueType → AdminOpcode
  | .sq => .deleteSq
  | .cq => .deleteCq

/-- The command creates the queue `id`. -/
def creates (type : NvmeQueueType) (id : Nat)
    (command : NvmeCommonCommand) : Bool :=
  adminOpcode command.opcode = createOpcode type && command.qid = id

/-- The command deletes the queue `id`. -/
def deletes (type : NvmeQueueType) (id : Nat)
    (command : NvmeCommonCommand) : Bool :=
  adminOpcode command.opcode = deleteOpcode type && command.qid = id

/-! ## Driver and controller -/

/-- The driver, the controller and the admin commands between them.
`waiting` were submitted and not executed, `posted` were executed and not
reaped; `requests` counts the calls that asked for an admin command. -/
structure QueueSystem where
  ndev : NvmeDevice
  controller : Controller
  waiting : List NvmeCommonCommand
  posted : List (NvmeCommonCommand × NvmeCompletion)
  requests : Nat

/-- The admin commands in flight. -/
def QueueSystem.outstanding (s : QueueSystem) : List NvmeCommonCommand :=
  s.waiting ++ s.posted.map Prod.fst

/-- A completion of an admin command. -/
structure Answers (entry : NvmeCompletion) (command : NvmeCommonCommand)
    (success : Bool) : Prop where
  sqId : entry.sqId = nvmeAqId
  commandId : entry.commandId = command.commandId
  state : entry.state = 0 ↔ success = true

/-- One step of the driver or of the controller. -/
inductive QueueStep : QueueSystem → QueueSystem → Prop where
  | createAsq {s : QueueSystem} (env : AllocQueueEnv) (elements : Nat) :
      QueueStep s { s with ndev := (dnvmeCreateAsq env s.ndev elements).2 }
  | createAcq {s : QueueSystem} (env : AllocQueueEnv) (elements : Nat) :
      QueueStep s { s with ndev := (dnvmeCreateAcq env s.ndev elements).2 }
  | prepareSq {s : QueueSystem} (env : AllocQueueEnv) (prep : NvmePrepSq) :
      QueueStep s { s with ndev := (dnvmePrepareSq env s.ndev prep).2 }
  | prepareCq {s : QueueSystem} (env : AllocQueueEnv) (icqAlloc : Bool)
      (prep : NvmePrepCq) :
      QueueStep s
        { s with ndev := (dnvmePrepareCq env icqAlloc s.ndev prep).2 }
  | submit {s : QueueSystem} {env : SubmitEnv} {cmd : Nvme64bCmd}
      {ret : Int} {next : NvmeDevice}
      (done : dnvmeSubmit64bCmd env s.ndev cmd = .ok (ret, next)) :
      QueueStep s
        { s with
          ndev := next
          waiting := s.waiting ++
            if ret = 0 ∧ cmd.sqid = nvmeAqId then
              ((added nvmeAqId s.ndev next).map (·.command)).toList
            else []
          requests := s.requests + if cmd.sqid = nvmeAqId then 1 else 0 }
  | execute {s : QueueSystem} {command : NvmeCommonCommand}
      {before after : List NvmeCommonCommand} {entry : NvmeCompletion}
      (other : Bool) (some : s.waiting = before ++ command :: after)
      (answers : Answers entry command
        (s.controller.execute other command).1) :
      QueueStep s
        { s with
          controller := (s.controller.execute other command).2
          waiting := before ++ after
          posted := s.posted ++ [(command, entry)] }
  | reap {s : QueueSystem} {command : NvmeCommonCommand}
      {entry : NvmeCompletion}
      {before after : List (NvmeCommonCommand × NvmeCompletion)}
      (some : s.posted = before ++ (command, entry) :: after) :
      QueueStep s
        { s with
          ndev := (handleCmdCompletion s.ndev entry).2
          posted := before ++ after }
  | reapOther {s : QueueSystem} (entry : NvmeCompletion)
      (other : entry.sqId ≠ nvmeAqId) :
      QueueStep s { s with ndev := (handleCmdCompletion s.ndev entry).2 }

/-- A device without queues. -/
def QueueSystem.start (ndev : NvmeDevice) : QueueSystem :=
  ⟨ndev, ⟨∅, ∅⟩, [], [], 0⟩

/-! ## What the controller does -/

section Execute

variable {controller : Controller} {other : Bool}
  {command : NvmeCommonCommand} {type : NvmeQueueType} {id : Nat}

/-- A create command for an I/O queue succeeds when the queue is absent. -/
theorem execute_of_creates (creating : creates type id command = true)
    (io : id ≠ 0) :
    (controller.execute other command).1 = !controller.has type id := by
  simp only [creates, Bool.and_eq_true, decide_eq_true_eq] at creating
  rcases creating with ⟨opcode, rfl⟩
  unfold Controller.execute
  rw [if_neg io, opcode]
  cases type with
  | sq =>
      simp only [createOpcode]
      cases controller.has .sq command.qid <;> rfl
  | cq =>
      simp only [createOpcode]
      cases controller.has .cq command.qid <;> rfl

/-- A delete command for an I/O queue that succeeds finds the queue. -/
theorem has_of_deletes (deleting : deletes type id command = true)
    (io : id ≠ 0) (success : (controller.execute other command).1 = true) :
    controller.has type id = true := by
  simp only [deletes, Bool.and_eq_true, decide_eq_true_eq] at deleting
  rcases deleting with ⟨opcode, rfl⟩
  unfold Controller.execute at success
  rw [if_neg io, opcode] at success
  cases type with
  | sq =>
      simp only [deleteOpcode] at success
      cases here : controller.has .sq command.qid with
      | true => rfl
      | false => simp [here] at success
  | cq =>
      simp only [deleteOpcode] at success
      cases here : controller.has .cq command.qid with
      | true => rfl
      | false => simp [here] at success

theorem has_insertSq (controller : Controller) (key cqid : Nat) :
    Controller.has { controller with sqs := controller.sqs.insert key cqid }
      type id = (decide (type = .sq ∧ id = key) || controller.has type id) := by
  cases type with
  | sq =>
      by_cases same : id = key
      · subst same
        simp [Controller.has]
      · simp [Controller.has, same, AList.lookup_insert_ne]
  | cq => simp [Controller.has]

theorem has_eraseSq (controller : Controller) (key : Nat) :
    Controller.has { controller with sqs := controller.sqs.erase key } type
      id = (!decide (type = .sq ∧ id = key) && controller.has type id) := by
  cases type with
  | sq =>
      by_cases same : id = key
      · subst same
        simp [Controller.has]
      · simp [Controller.has, same, AList.lookup_erase_ne]
  | cq => simp [Controller.has]

theorem has_insertCq (controller : Controller) (key : Nat) :
    Controller.has { controller with cqs := insert key controller.cqs } type
      id = (decide (type = .cq ∧ id = key) || controller.has type id) := by
  cases type <;> simp [Controller.has]

theorem has_eraseCq (controller : Controller) (key : Nat) :
    Controller.has { controller with cqs := controller.cqs.erase key } type
      id = (!decide (type = .cq ∧ id = key) && controller.has type id) := by
  cases type <;> simp [Controller.has]

/-- The queues of the controller after a command. -/
theorem has_execute (io : id ≠ 0) :
    (controller.execute other command).2.has type id =
      if (controller.execute other command).1 = true ∧
          creates type id command = true then true
      else if (controller.execute other command).1 = true ∧
          deletes type id command = true then false
      else controller.has type id := by
  unfold Controller.execute creates deletes
  by_cases zero : command.qid = 0
  · simp [zero, Ne.symm io]
  · dsimp only
    rw [if_neg zero]
    by_cases same : command.qid = id
    · subst same
      cases opcode : adminOpcode command.opcode with
      | createSq =>
          cases here : controller.has .sq command.qid <;> cases type <;>
            simp [has_insertSq, createOpcode, deleteOpcode]
      | createCq =>
          cases here : controller.has .cq command.qid <;> cases type <;>
            simp [has_insertCq, createOpcode, deleteOpcode]
      | deleteSq =>
          cases here : controller.has .sq command.qid <;> cases type <;>
            simp [has_eraseSq, createOpcode, deleteOpcode]
      | deleteCq =>
          cases here : (controller.has .cq command.qid &&
              !controller.attached command.qid) <;> cases type <;>
            simp [has_eraseCq, createOpcode, deleteOpcode]
      | other => cases type <;> simp [createOpcode, deleteOpcode]
    · cases opcode : adminOpcode command.opcode with
      | createSq =>
          cases controller.has .sq command.qid <;>
            simp [has_insertSq, same, Ne.symm same]
      | createCq =>
          cases controller.has .cq command.qid <;>
            simp [has_insertCq, same, Ne.symm same]
      | deleteSq =>
          cases controller.has .sq command.qid <;>
            simp [has_eraseSq, same, Ne.symm same]
      | deleteCq =>
          cases (controller.has .cq command.qid &&
              !controller.attached command.qid) <;>
            simp [has_eraseCq, same, Ne.symm same]
      | other => simp [same]

/-- The controller never has an I/O queue 0. -/
theorem has_execute_zero (clean : controller.has type 0 = false) :
    (controller.execute other command).2.has type 0 = false := by
  unfold Controller.execute
  by_cases zero : command.qid = 0
  · simpa [zero] using clean
  · dsimp only
    rw [if_neg zero]
    cases adminOpcode command.opcode with
    | createSq =>
        cases controller.has .sq command.qid <;>
          simp [has_insertSq, clean, Ne.symm zero]
    | createCq =>
        cases controller.has .cq command.qid <;>
          simp [has_insertCq, clean, Ne.symm zero]
    | deleteSq =>
        cases controller.has .sq command.qid <;>
          simp [has_eraseSq, clean]
    | deleteCq =>
        cases (controller.has .cq command.qid &&
            !controller.attached command.qid) <;>
          simp [has_eraseCq, clean]
    | other => exact clean

end Execute

/-! ## What the driver has -/

/-- The object of the driver for a queue, and whether it is marked. -/
def createdOf (ndev : NvmeDevice) : NvmeQueueType → Nat → Option Bool
  | .sq, id => (ndev.findSq id).map NvmeSq.created
  | .cq, id => (ndev.findCq id).map NvmeCq.created

section CreatedOf

variable {ndev next : NvmeDevice}

theorem createdOf_congr (sqs : ∀ id, next.findSq id = ndev.findSq id)
    (cqs : ∀ id, next.findCq id = ndev.findCq id) (type : NvmeQueueType)
    (id : Nat) : createdOf next type id = createdOf ndev type id := by
  cases type with
  | sq => simp only [createdOf, sqs]
  | cq => simp only [createdOf, cqs]

theorem createdOf_deleteCmd (ndev : NvmeDevice) (key : Nat) (cmd : NvmeCmd)
    (type : NvmeQueueType) (id : Nat) :
    createdOf (ndev.deleteCmd key cmd) type id = createdOf ndev type id := by
  cases type with
  | sq =>
      simp only [createdOf, findSq_deleteCmd, Option.map_map]
      congr 1
      funext sq
      simp only [Function.comp_apply]
      split <;> rfl
  | cq =>
      simp only [createdOf]
      rw [findCq_of_cqs_eq (ndev.deleteCmd_cqs key cmd)]

theorem createdOf_headed {entry : NvmeCompletion} {sq : NvmeSq}
    (found : ndev.findSq entry.sqId = some sq) (type : NvmeQueueType)
    (id : Nat) :
    createdOf (ndev.headed entry sq) type id = createdOf ndev type id := by
  cases type with
  | sq =>
      simp only [createdOf]
      by_cases same : id = entry.sqId
      · rw [same, found, NvmeDevice.headed, NvmeDevice.findSq_setSq]
        rfl
      · rw [NvmeDevice.headed, NvmeDevice.findSq_setSq_ne _ _ same]
  | cq => rfl

theorem createdOf_releasePrps (ndev : NvmeDevice) (prps : Option Nat)
    (type : NvmeQueueType) (id : Nat) :
    createdOf (ndev.releasePrps prps) type id = createdOf ndev type id :=
  createdOf_congr (findSq_of_sqs_eq (ndev.releasePrps_sqs prps))
    (findCq_of_cqs_eq (ndev.releasePrps_cqs prps)) type id

theorem createdOf_dnvmeDeleteSq (keyed : Keyed ndev) (key : Nat)
    (type : NvmeQueueType) (id : Nat) :
    createdOf (dnvmeDeleteSq ndev key) type id =
      if type = .sq ∧ id = key then none else createdOf ndev type id := by
  cases type with
  | sq =>
      simp only [createdOf, findSq_dnvmeDeleteSq keyed, true_and]
      split <;> rfl
  | cq =>
      simp only [createdOf, reduceCtorEq, false_and, if_false]
      rw [findCq_of_cqs_eq (dnvmeDeleteSq_cqs ndev key)]

theorem createdOf_dnvmeDeleteCq (keyed : Keyed ndev) (key : Nat)
    (type : NvmeQueueType) (id : Nat) :
    createdOf (dnvmeDeleteCq ndev key) type id =
      if type = .cq ∧ id = key then none else createdOf ndev type id := by
  cases type with
  | sq => simp only [createdOf, findSq_dnvmeDeleteCq, reduceCtorEq, false_and,
      if_false]
  | cq =>
      simp only [createdOf, findCq_dnvmeDeleteCq keyed, true_and]
      split <;> rfl

/-- A completed admin command makes the driver drop the queue `id`. -/
def Drops (node : NvmeCmd) (entry : NvmeCompletion) (type : NvmeQueueType)
    (id : Nat) : Prop :=
  queueType (adminOpcode node.opcode) = some type ∧
    freesQueue (adminOpcode node.opcode) entry.state = true ∧
    node.targetQid = id

instance (node : NvmeCmd) (entry : NvmeCompletion) (type : NvmeQueueType)
    (id : Nat) : Decidable (Drops node entry type id) :=
  inferInstanceAs (Decidable (_ ∧ _ ∧ _))

/-- The objects after an admin command completed. -/
theorem createdOf_completed {entry : NvmeCompletion} {sq : NvmeSq}
    {node : NvmeCmd} (completed : Completed ndev entry next)
    (keyed : Keyed ndev) (admin : entry.sqId = nvmeAqId)
    (found : ndev.findSq nvmeAqId = some sq)
    (here : dnvmeFindCmd sq entry.commandId = some node)
    (type : NvmeQueueType) {id : Nat} (io : id ≠ 0) :
    createdOf next type id =
      if Drops node entry type id then none else createdOf ndev type id := by
  have headedKeyed : ∀ queue, ndev.findSq entry.sqId = some queue →
      Keyed (ndev.headed entry queue) := fun queue there =>
    keyed.effect (headed_effect there : Effect (fun _ _ _ => True) _ _)
  have only : ∀ {queue cmd}, ndev.findSq entry.sqId = some queue →
      dnvmeFindCmd queue entry.commandId = some cmd → node = cmd := by
    intro queue cmd there listed
    rw [admin, found] at there
    cases there
    rw [here] at listed
    exact Option.some.inj listed
  cases completed with
  | noQueue missing =>
      rw [admin, found] at missing
      cases missing
  | noCommand there missing =>
      rw [admin, found] at there
      cases there
      rw [here] at missing
      cases missing
  | general there cmd plain =>
      rw [createdOf_deleteCmd, createdOf_releasePrps, createdOf_headed there]
      obtain rfl := only there cmd
      rw [if_neg]
      rintro ⟨typed, _⟩
      rcases plain with other | other
      · exact other admin
      · rw [other] at typed
        cases typed
  | kept there cmd _ special stays =>
      rw [createdOf_deleteCmd, createdOf_headed there]
      obtain rfl := only there cmd
      rw [if_neg]
      rintro ⟨_, frees, target⟩
      rcases stays with keeps | zero
      · rw [frees] at keeps
        cases keeps
      · exact io (target.symm.trans zero)
  | freedSq there cmd _ typed frees target =>
      rw [createdOf_deleteCmd,
        createdOf_dnvmeDeleteSq (headedKeyed _ there), createdOf_headed there]
      obtain rfl := only there cmd
      by_cases drops : type = .sq ∧ id = node.targetQid
      · rw [if_pos drops, if_pos]
        exact ⟨drops.1 ▸ typed, frees, drops.2.symm⟩
      · rw [if_neg drops, if_neg]
        rintro ⟨sort, _, same⟩
        rw [typed] at sort
        exact drops ⟨(Option.some.inj sort).symm, same.symm⟩
  | freedCq there cmd _ typed frees target =>
      rw [createdOf_deleteCmd,
        createdOf_dnvmeDeleteCq (headedKeyed _ there), createdOf_headed there]
      obtain rfl := only there cmd
      by_cases drops : type = .cq ∧ id = node.targetQid
      · rw [if_pos drops, if_pos]
        exact ⟨drops.1 ▸ typed, frees, drops.2.symm⟩
      · rw [if_neg drops, if_neg]
        rintro ⟨sort, _, same⟩
        rw [typed] at sort
        exact drops ⟨(Option.some.inj sort).symm, same.symm⟩

/-- The admin queue after one of its commands completed. -/
theorem adminQueue_completed {entry : NvmeCompletion} {sq : NvmeSq}
    {node : NvmeCmd} (completed : Completed ndev entry next)
    (keyed : Keyed ndev) (admin : entry.sqId = nvmeAqId)
    (found : ndev.findSq nvmeAqId = some sq)
    (here : dnvmeFindCmd sq entry.commandId = some node) :
    next.findSq nvmeAqId = some
      { sq with
        headPtr := entry.sqHead
        cmdList := sq.cmdList.eraseP fun cmd => cmd.node = node.node } := by
  have headedKeyed : Keyed (ndev.headed entry sq) :=
    keyed.effect (headed_effect (admin ▸ found) :
      Effect (fun _ _ _ => True) _ _)
  have same : ∀ {queue}, ndev.findSq entry.sqId = some queue → sq = queue := by
    intro queue there
    rw [admin, found] at there
    exact Option.some.inj there
  -- whatever else happened, the node was taken out of the list at the end
  have erased : ∀ {last : NvmeDevice}, last.findSq nvmeAqId =
      (ndev.headed entry sq).findSq nvmeAqId →
      (last.deleteCmd entry.sqId node).findSq nvmeAqId = some
        { sq with
          headPtr := entry.sqHead
          cmdList := sq.cmdList.eraseP fun cmd => cmd.node = node.node } := by
    intro last kept
    rw [findSq_deleteCmd, kept, findSq_headed sq admin, Option.map_some,
      if_pos admin.symm]
  cases completed with
  | noQueue missing =>
      rw [admin, found] at missing
      cases missing
  | noCommand there missing =>
      obtain rfl := same there
      rw [here] at missing
      cases missing
  | general there cmd plain =>
      obtain rfl := same there
      obtain rfl := Option.some.inj (here.symm.trans cmd)
      exact erased (findSq_of_sqs_eq (NvmeDevice.releasePrps_sqs _ _) _)
  | kept there cmd _ special stays =>
      obtain rfl := same there
      obtain rfl := Option.some.inj (here.symm.trans cmd)
      exact erased rfl
  | freedSq there cmd _ typed frees target =>
      obtain rfl := same there
      obtain rfl := Option.some.inj (here.symm.trans cmd)
      exact erased (findSq_dnvmeDeleteSq_ne headedKeyed (Ne.symm target))
  | freedCq there cmd _ typed frees target =>
      obtain rfl := same there
      obtain rfl := Option.some.inj (here.symm.trans cmd)
      exact erased (findSq_dnvmeDeleteCq _ _)

end CreatedOf

/-! ## The invariant -/

/-- A successful delete command that was not reaped. -/
def deleted (type : NvmeQueueType) (id : Nat)
    (done : NvmeCommonCommand × NvmeCompletion) : Bool :=
  deletes type id done.1 && done.2.state = 0

/-- Everything that can stand for the marked object of a queue. -/
def tokenCount (s : QueueSystem) (type : NvmeQueueType) (id : Nat) : Nat :=
  s.waiting.countP (creates type id) + (s.controller.has type id).toNat +
    s.posted.countP (deleted type id)

/-- The node of a command. -/
structure Matches (node : NvmeCmd) (command : NvmeCommonCommand) : Prop where
  cid : node.cid = command.commandId
  opcode : node.opcode = command.opcode
  target : queueType (adminOpcode command.opcode) ≠ none →
    node.targetQid = command.qid

/-- The identifiers of an admin queue after some requests. -/
structure Counted (requests : Nat) (sq : NvmeSq) : Prop where
  nodup : (cids sq).Nodup
  below : ∀ node ∈ sq.cmdList, node.cid < sq.nextCid
  few : sq.nextCid ≤ requests

/-- What holds in every state. -/
structure Invariant (s : QueueSystem) : Prop where
  held : Held s.ndev
  keyed : Keyed s.ndev
  counted : ∀ sq, s.ndev.findSq nvmeAqId = some sq → Counted s.requests sq
  /-- Every command in flight has its node. -/
  listed : ∀ command ∈ s.outstanding, ∃ sq,
    s.ndev.findSq nvmeAqId = some sq ∧
      ∃ node ∈ sq.cmdList, Matches node command
  distinct : (s.outstanding.map NvmeCommonCommand.commandId).Nodup
  answers : ∀ done ∈ s.posted, done.2.sqId = nvmeAqId ∧
    done.2.commandId = done.1.commandId
  /-- No create command failed. -/
  fine : ∀ done ∈ s.posted, ∀ type id, id ≠ 0 →
    creates type id done.1 = true → done.2.state = 0
  zero : ∀ type, s.controller.has type 0 = false
  tokens : ∀ type id, id ≠ 0 →
    tokenCount s type id = (createdOf s.ndev type id == some true).toNat

variable {s : QueueSystem} {next : NvmeDevice}

theorem Invariant.start (qDepth : Nat) (capCqr cmbSqs cmbCqs : Bool) :
    Invariant (.start (.fresh qDepth capCqr cmbSqs cmbCqs)) where
  held := Held.fresh qDepth capCqr cmbSqs cmbCqs
  keyed := Keyed.fresh qDepth capCqr cmbSqs cmbCqs
  counted _ found := by cases found
  listed _ member := by cases member
  distinct := List.nodup_nil
  answers _ member := by cases member
  fine _ member := by cases member
  zero type := by cases type <;> rfl
  tokens type id _ := by cases type <;> rfl

/-! ## Steps that leave the commands alone -/

/-- The marked queues and the admin list stay; up to `more` identifiers are
taken. -/
structure QueuesKept (more : Nat) (ndev next : NvmeDevice) : Prop where
  created : ∀ type id, id ≠ 0 → (createdOf next type id = some true ↔
    createdOf ndev type id = some true)
  admin : ∀ sq, ndev.findSq nvmeAqId = some sq → ∃ later,
    next.findSq nvmeAqId = some later ∧ later.cmdList = sq.cmdList ∧
      (later.nextCid = sq.nextCid ∨
        (more = 1 ∧ later.nextCid = u16 (sq.nextCid + 1)))
  fresh : ndev.findSq nvmeAqId = none → ∀ sq,
    next.findSq nvmeAqId = some sq → sq.cmdList = [] ∧ sq.nextCid = 0

theorem Counted.more {requests more : Nat} {sq later : NvmeSq}
    (counted : Counted requests sq) (few : requests + more < 2 ^ 16)
    (list : later.cmdList = sq.cmdList)
    (next : later.nextCid = sq.nextCid ∨
      (more = 1 ∧ later.nextCid = u16 (sq.nextCid + 1))) :
    Counted (requests + more) later := by
  have bound := counted.few
  have grows : sq.nextCid ≤ later.nextCid ∧
      later.nextCid ≤ requests + more := by
    rcases next with same | ⟨one, bumped⟩
    · omega
    · rw [bumped, u16, Nat.mod_eq_of_lt (by omega)]
      omega
  refine ⟨?_, fun node member => ?_, grows.2⟩
  · rw [cids, list]
    exact counted.nodup
  · rw [list] at member
    exact (counted.below node member).trans_le grows.1

theorem Invariant.kept {more : Nat} (invariant : Invariant s)
    (effects : Effects (fun _ _ _ => True) s.ndev next)
    (kept : QueuesKept more s.ndev next) (few : s.requests + more < 2 ^ 16) :
    Invariant { s with ndev := next, requests := s.requests + more } where
  held := effects.preserve Held.effect invariant.held
  keyed := invariant.keyed.effects effects
  counted sq found := by
    cases before : s.ndev.findSq nvmeAqId with
    | none =>
        rcases kept.fresh before sq found with ⟨list, next⟩
        refine ⟨?_, fun node member => ?_, ?_⟩
        · rw [cids, list]
          exact List.nodup_nil
        · rw [list] at member
          cases member
        · rw [next]
          exact Nat.zero_le _
    | some old =>
        rcases kept.admin old before with ⟨later, here, list, next⟩
        rw [found] at here
        cases here
        exact (invariant.counted old before).more few list next
  listed command member := by
    rcases invariant.listed command member with ⟨sq, found, node, listed, fits⟩
    rcases kept.admin sq found with ⟨later, here, list, _⟩
    exact ⟨later, here, node, by rwa [list], fits⟩
  distinct := invariant.distinct
  answers := invariant.answers
  fine := invariant.fine
  zero := invariant.zero
  tokens type id io := by
    have before := invariant.tokens type id io
    have same : (createdOf next type id == some true) =
        (createdOf s.ndev type id == some true) := by
      rw [Bool.eq_iff_iff, beq_iff_eq, beq_iff_eq]
      exact kept.created type id io
    rw [same]
    exact before

section Kept

variable {ndev : NvmeDevice}

/-- New objects are not marked. -/
theorem QueuesKept.of_created
    (created : ∀ type id, id ≠ 0 → createdOf next type id =
      createdOf ndev type id ∨ (createdOf ndev type id = none ∧
        createdOf next type id = some false))
    (admin : next.findSq nvmeAqId = ndev.findSq nvmeAqId ∨
      (ndev.findSq nvmeAqId = none ∧ ∃ (prep : NvmePrepSq) (dma : Nat),
        next.findSq nvmeAqId = some (prep.queue nvmeSqes dma))) :
    QueuesKept 0 ndev next where
  created type id io := by
    rcases created type id io with same | ⟨absent, unmarked⟩
    · rw [same]
    · rw [absent, unmarked]
      simp
  admin sq found := by
    rcases admin with same | ⟨absent, _⟩
    · exact ⟨sq, same.trans found, rfl, Or.inl rfl⟩
    · rw [absent] at found
      cases found
  fresh absent sq found := by
    rcases admin with same | ⟨_, prep, dma, added⟩
    · rw [same, absent] at found
      cases found
    · rw [added] at found
      cases found
      exact ⟨rfl, rfl⟩

theorem QueuesKept.of_same (sqs : ∀ id, next.findSq id = ndev.findSq id)
    (cqs : ∀ id, next.findCq id = ndev.findCq id) :
    QueuesKept 0 ndev next :=
  .of_created (fun type id _ => Or.inl (createdOf_congr sqs cqs type id))
    (Or.inl (sqs nvmeAqId))

theorem QueuesKept.of_sqAdded (added : SqAdded ndev next) :
    QueuesKept 0 ndev next := by
  rcases added with rfl | ⟨prep, dma, absent, _, rfl⟩
  · exact .of_same (fun _ => rfl) (fun _ => rfl)
  · refine .of_created (fun type id _ => ?_) ?_
    · cases type with
      | sq =>
          by_cases same : id = prep.sqId
          · subst same
            simp [createdOf, absent, NvmePrepSq.queue]
          · simp [createdOf, NvmeDevice.findSq_setSq_ne _ _ same]
      | cq => exact Or.inl rfl
    · by_cases same : prep.sqId = nvmeAqId
      · rw [← same]
        exact Or.inr ⟨absent, prep, dma, NvmeDevice.findSq_setSq _ _ _⟩
      · exact Or.inl (NvmeDevice.findSq_setSq_ne _ _ (Ne.symm same))

/-- A change of completion queues that adds unmarked objects only. -/
theorem QueuesKept.of_cqs (sqs : next.sqs = ndev.sqs)
    (cqs : ∀ id, next.findCq id = ndev.findCq id ∨
      (ndev.findCq id = none ∧ ∃ cq, next.findCq id = some cq ∧
        cq.created = false)) : QueuesKept 0 ndev next := by
  refine .of_created (fun type id _ => ?_) (Or.inl (findSq_of_sqs_eq sqs _))
  cases type with
  | sq =>
      simp only [createdOf]
      rw [findSq_of_sqs_eq sqs]
      exact Or.inl rfl
  | cq =>
      rcases cqs id with same | ⟨absent, cq, here, unmarked⟩
      · simp only [createdOf, same, true_or]
      · simp [createdOf, absent, here, unmarked]

/-- The new object of a completion queue. -/
theorem findCq_setCq_new {prep : NvmePrepCq}
    (absent : ndev.findCq prep.cqId = none) (dma id : Nat) :
    (ndev.setCq prep.cqId (prep.queue nvmeCqes dma)).findCq id =
        ndev.findCq id ∨
      (ndev.findCq id = none ∧ ∃ cq,
        (ndev.setCq prep.cqId (prep.queue nvmeCqes dma)).findCq id = some cq ∧
          cq.created = false) := by
  by_cases same : id = prep.cqId
  · subst same
    exact Or.inr ⟨absent, _, NvmeDevice.findCq_setCq _ _ _, rfl⟩
  · exact Or.inl (NvmeDevice.findCq_setCq_ne _ _ same)

theorem QueuesKept.of_cqAdded (added : CqAdded ndev next) :
    QueuesKept 0 ndev next := by
  rcases added with rfl | ⟨prep, dma, absent, _, rfl⟩
  · exact .of_same (fun _ => rfl) (fun _ => rfl)
  · exact .of_cqs rfl (findCq_setCq_new absent dma)

theorem QueuesKept.of_prepareCq (env : AllocQueueEnv) (icqAlloc : Bool)
    (prep : NvmePrepCq) :
    QueuesKept 0 ndev (dnvmePrepareCq env icqAlloc ndev prep).2 := by
  have nothing : QueuesKept 0 ndev ndev :=
    .of_same (fun _ => rfl) (fun _ => rfl)
  unfold dnvmePrepareCq
  split
  · exact nothing
  · split
    · exact nothing
    · split
      · exact nothing
      · split
        · exact .of_same (fun _ => rfl) (fun _ => rfl)
        · rename_i added allocated
          rcases dnvmeAllocCq_eq allocated with ⟨absent, dma, rfl⟩
          have linked : ∀ irqSet : NvmeIrqSet, QueuesKept 0 ndev
              { ndev.setCq prep.cqId (prep.queue nvmeCqes dma) with
                irqSet := irqSet } :=
            fun _ => .of_cqs rfl (findCq_setCq_new absent dma)
          split
          · exact linked _
          · dsimp only
            split
            · split
              · exact linked _
              · rename_i cq found
                -- the object that is released is the new one
                obtain rfl : prep.queue nvmeCqes dma = cq :=
                  Option.some.inj
                    ((NvmeDevice.findCq_setCq ndev _ _).symm.trans found)
                refine .of_cqs (dnvmeReleaseCq_sqs _ _) fun id => Or.inl ?_
                unfold NvmeDevice.findCq
                rw [dnvmeReleaseCq_cqs]
                by_cases same : id = prep.cqId
                · subst same
                  exact (AList.lookup_erase _ _).trans absent.symm
                · exact (AList.lookup_erase_ne same).trans
                    (AList.lookup_insert_ne same)
            · exact linked _

/-- The admin list after a submission that was refused. -/
theorem QueuesKept.of_refused {cmd : Nvme64bCmd}
    (refused : SubmitRefused cmd ndev next) :
    QueuesKept (if cmd.sqid = nvmeAqId then 1 else 0) ndev next := by
  rcases refused with ⟨pinned, poolPages, rfl | ⟨sq, cid, found, bump, rfl⟩⟩
  · exact {
      created := fun type id _ => by cases type <;> exact Iff.rfl
      admin := fun sq found => ⟨sq, found, rfl, Or.inl rfl⟩
      fresh := fun absent sq here => by
        rw [show ndev.findSq nvmeAqId = some sq from here] at absent
        cases absent }
  · have marked : ∀ type id, createdOf
        { ndev.setSq cmd.sqid { sq with nextCid := cid } with
          pinned := pinned
          poolPages := poolPages } type id = createdOf ndev type id := by
      intro type id
      cases type with
      | sq =>
          by_cases same : id = cmd.sqid
          · subst same
            change ((ndev.setSq cmd.sqid { sq with nextCid := cid }).findSq
              cmd.sqid).map _ = (ndev.findSq cmd.sqid).map _
            rw [NvmeDevice.findSq_setSq, found]
            rfl
          · change ((ndev.setSq cmd.sqid { sq with nextCid := cid }).findSq
              id).map _ = (ndev.findSq id).map _
            rw [NvmeDevice.findSq_setSq_ne _ _ same]
      | cq => rfl
    refine ⟨fun type id _ => by rw [marked], fun queue here => ?_,
      fun absent queue here => ?_⟩
    · by_cases same : nvmeAqId = cmd.sqid
      · rw [same, found] at here
        cases here
        refine ⟨{ sq with nextCid := cid }, ?_, rfl, ?_⟩
        · rw [same]
          exact NvmeDevice.findSq_setSq _ _ _
        rcases bump with kept | more
        · exact Or.inl kept
        · exact Or.inr ⟨if_pos same.symm, more⟩
      · exact ⟨queue, (NvmeDevice.findSq_setSq_ne _ _ same).trans here, rfl,
          Or.inl rfl⟩
    · rcases findSq_setSq_cases here with ⟨same, _⟩ | ⟨_, there⟩
      · rw [same, found] at absent
        cases absent
      · rw [there] at absent
        cases absent

/-- A command on an I/O queue creates nothing. -/
theorem QueuesKept.of_submitted {env : SubmitEnv} {cmd : Nvme64bCmd}
    {sq : NvmeSq} {ccmd filled : NvmeCommonCommand} {prps : Option NvmePrps}
    (accepted : Submitted env cmd ndev next sq ccmd filled prps)
    (io : cmd.sqid ≠ nvmeAqId) : QueuesKept 0 ndev next := by
  have noSq : ∀ id, ¬ CreatesSq cmd ccmd id := fun _ creates => io creates.1
  have noCq : ∀ id, ¬ CreatesCq cmd ccmd id := fun _ creates => io creates.1
  refine .of_created (fun type id _ => Or.inl ?_) (Or.inl ?_)
  · cases type with
    | sq =>
        simp only [createdOf]
        rw [accepted.findSq, Option.map_map]
        congr 1
        funext queue
        simp only [Function.comp_apply, createdSq_of_not (noSq id)]
        split <;> rfl
    | cq =>
        simp only [createdOf]
        rw [accepted.findCq, Option.map_map]
        congr 1
        funext queue
        simp only [Function.comp_apply, createdCq_of_not (noCq id)]
  · rw [accepted.findSq]
    have same : (fun q => if nvmeAqId = cmd.sqid then
        enqueued filled
          (submittedNode ndev.nextObject sq cmd ccmd prps.isSome)
          (createdSq env cmd ccmd ndev.nextObject prps.isSome nvmeAqId q)
        else createdSq env cmd ccmd ndev.nextObject prps.isSome nvmeAqId q) =
        id := by
      funext q
      rw [if_neg (Ne.symm io), createdSq_of_not (noSq _)]
      rfl
    rw [same, Option.map_id_fun, id]

/-- A completion of an I/O queue deletes nothing. -/
theorem QueuesKept.of_completed {entry : NvmeCompletion}
    (completed : Completed ndev entry next) (io : entry.sqId ≠ nvmeAqId) :
    QueuesKept 0 ndev next := by
  cases completed with
  | noQueue missing => exact .of_same (fun _ => rfl) (fun _ => rfl)
  | noCommand found missing =>
      exact .of_created
        (fun type id _ => Or.inl (createdOf_headed found type id))
        (Or.inl (NvmeDevice.findSq_setSq_ne _ _ (Ne.symm io)))
  | @general sq cmd found here plain =>
      refine .of_created (fun type id _ => Or.inl ?_) (Or.inl ?_)
      · rw [createdOf_deleteCmd, createdOf_releasePrps,
          createdOf_headed found]
      · rw [findSq_deleteCmd,
          findSq_of_sqs_eq (NvmeDevice.releasePrps_sqs _ _),
          NvmeDevice.headed, NvmeDevice.findSq_setSq_ne _ _ (Ne.symm io)]
        simp [Ne.symm io]
  | kept _ _ admin => exact absurd admin io
  | freedSq _ _ admin => exact absurd admin io
  | freedCq _ _ admin => exact absurd admin io

end Kept

/-! ## An admin command is submitted -/

section Submit

variable {env : SubmitEnv} {cmd : Nvme64bCmd} {sq : NvmeSq}
  {ccmd filled : NvmeCommonCommand} {prps : Option NvmePrps}

theorem creates_iff
    (accepted : Submitted env cmd s.ndev next sq ccmd filled prps)
    (admin : cmd.sqid = nvmeAqId) (id : Nat) :
    (creates .sq id filled = true ↔ CreatesSq cmd ccmd id) ∧
      (creates .cq id filled = true ↔ CreatesCq cmd ccmd id) := by
  have opcode : filled.opcode = ccmd.opcode := by
    rcases accepted.filled_fields with ⟨_, _, rfl⟩
    rfl
  have qid : filled.qid = ccmd.qid := by
    rcases accepted.filled_fields with ⟨_, _, rfl⟩
    rfl
  simp only [creates, createOpcode, Bool.and_eq_true, decide_eq_true_eq,
    opcode, qid, CreatesSq, CreatesCq, admin, true_and]

/-- An admin command marks the queue it creates. -/
theorem createdOf_submitted
    (accepted : Submitted env cmd s.ndev next sq ccmd filled prps)
    (admin : cmd.sqid = nvmeAqId) (type : NvmeQueueType) (id : Nat) :
    createdOf next type id =
      if creates type id filled = true then some true
      else createdOf s.ndev type id := by
  rcases creates_iff accepted admin id with ⟨sqIff, cqIff⟩
  cases type with
  | sq =>
      simp only [createdOf, sqIff]
      rw [accepted.findSq, Option.map_map]
      by_cases making : CreatesSq cmd ccmd id
      · rcases accepted.target.sq id making with ⟨old, here, _⟩
        rw [if_pos making, here, Option.map_some, Function.comp_apply]
        split
        · exact congrArg some (createdSq_created making)
        · exact congrArg some (createdSq_created making)
      · rw [if_neg making]
        congr 1
        funext queue
        rw [Function.comp_apply, createdSq_of_not making]
        split <;> rfl
  | cq =>
      simp only [createdOf, cqIff]
      rw [accepted.findCq, Option.map_map]
      by_cases making : CreatesCq cmd ccmd id
      · rcases accepted.target.cq id making with ⟨old, here, _⟩
        rw [if_pos making, here, Option.map_some, Function.comp_apply]
        exact congrArg some (createdCq_created making)
      · rw [if_neg making]
        congr 1
        funext queue
        rw [Function.comp_apply, createdCq_of_not making]

/-- The queue that a command creates was prepared and not marked. -/
theorem createdOf_before
    (accepted : Submitted env cmd s.ndev next sq ccmd filled prps)
    (admin : cmd.sqid = nvmeAqId) {type : NvmeQueueType} {id : Nat}
    (making : creates type id filled = true) :
    createdOf s.ndev type id = some false := by
  rcases creates_iff accepted admin id with ⟨sqIff, cqIff⟩
  cases type with
  | sq =>
      rcases accepted.target.sq id (sqIff.mp making) with
        ⟨old, here, unmarked, _⟩
      simp [createdOf, here, unmarked]
  | cq =>
      rcases accepted.target.cq id (cqIff.mp making) with
        ⟨old, here, unmarked, _⟩
      simp [createdOf, here, unmarked]

theorem matches_submitted
    (accepted : Submitted env cmd s.ndev next sq ccmd filled prps)
    (admin : cmd.sqid = nvmeAqId) (object : Nat) (paged : Bool) :
    Matches (submittedNode object sq cmd ccmd paged) filled where
  cid := accepted.commandId.symm
  opcode := by
    rcases accepted.filled_fields with ⟨_, _, rfl⟩
    rfl
  target special := by
    rcases accepted.filled_fields with ⟨_, _, rfl⟩
    change targetQid cmd ccmd = ccmd.qid
    change queueType (adminOpcode ccmd.opcode) ≠ none at special
    unfold targetQid
    rw [if_pos admin]
    cases opcode : adminOpcode ccmd.opcode with
    | other =>
        rw [opcode] at special
        exact absurd rfl special
    | deleteSq => rfl
    | createSq => rfl
    | deleteCq => rfl
    | createCq => rfl

/-- The admin queue after the submission. -/
theorem adminQueue_submitted
    (accepted : Submitted env cmd s.ndev next sq ccmd filled prps)
    (admin : cmd.sqid = nvmeAqId) :
    ∃ later, next.findSq nvmeAqId = some later ∧
      later.cmdList = sq.cmdList ++
        [submittedNode s.ndev.nextObject sq cmd ccmd prps.isSome] ∧
      later.nextCid = u16 (sq.nextCid + 1) := by
  have after := accepted.findSq cmd.sqid
  rw [accepted.found, Option.map_some, if_pos rfl] at after
  refine ⟨_, admin ▸ after, ?_, ?_⟩
  · exact congrArg (· ++ [_]) (createdSq_cmdList _ _ _ _ _ _ _)
  · unfold enqueued createdSq
    split
    · split <;> rfl
    · rfl

theorem Invariant.submitted (invariant : Invariant s)
    (accepted : Submitted env cmd s.ndev next sq ccmd filled prps)
    (admin : cmd.sqid = nvmeAqId) (few : s.requests + 1 < 2 ^ 16) :
    Invariant
      { s with
        ndev := next
        waiting := s.waiting ++ [filled]
        requests := s.requests + 1 } := by
  have found : s.ndev.findSq nvmeAqId = some sq := admin ▸ accepted.found
  have effect : Effect (fun _ _ _ => True) s.ndev next :=
    .submit accepted trivial
  have counted := invariant.counted sq found
  have bound := counted.few
  have fits := matches_submitted accepted admin s.ndev.nextObject prps.isSome
  rcases adminQueue_submitted accepted admin with ⟨later, here, list, bump⟩
  rw [u16, Nat.mod_eq_of_lt (by omega)] at bump
  -- the commands in flight have smaller identifiers
  have smaller : ∀ command ∈ s.outstanding,
      command.commandId < sq.nextCid := by
    intro command member
    rcases invariant.listed command member with
      ⟨queue, there, node, listed, same⟩
    rw [found] at there
    cases there
    rw [← same.cid]
    exact counted.below node listed
  have moved : (s.waiting ++ [filled] ++ s.posted.map Prod.fst).Perm
      (filled :: s.outstanding) := by
    rw [List.append_assoc, QueueSystem.outstanding]
    exact List.perm_middle
  refine {
    held := invariant.held.effect effect
    keyed := invariant.keyed.effect effect
    counted := fun queue there => ?_
    listed := fun command member => ?_
    distinct := ?_
    answers := invariant.answers
    fine := invariant.fine
    zero := invariant.zero
    tokens := fun type id io => ?_ }
  · rw [here] at there
    cases there
    refine ⟨?_, fun node member => ?_, bump.trans_le (by simpa using bound)⟩
    · rw [cids, list, List.map_append, List.nodup_append]
      refine ⟨counted.nodup, List.nodup_singleton _, ?_⟩
      intro cid old other new same
      rcases List.mem_map.mp old with ⟨node, member, rfl⟩
      rw [List.map_singleton, List.mem_singleton] at new
      have less := counted.below node member
      rw [same, new] at less
      exact Nat.lt_irrefl _ less
    · rw [list] at member
      rw [bump]
      rcases List.mem_append.mp member with old | new
      · exact (counted.below node old).trans (Nat.lt_succ_self _)
      · rw [List.mem_singleton] at new
        rw [new]
        exact Nat.lt_succ_self _
  · refine ⟨later, here, ?_⟩
    rcases List.mem_cons.mp (moved.mem_iff.mp member) with rfl | old
    · exact ⟨_, by rw [list]; exact List.mem_concat_self, fits⟩
    · rcases invariant.listed command old with
        ⟨queue, there, node, listed, same⟩
      rw [found] at there
      cases there
      exact ⟨node, by rw [list]; exact List.mem_append_left _ listed, same⟩
  · refine (moved.map _).nodup_iff.mpr ?_
    rw [List.map_cons, List.nodup_cons]
    refine ⟨fun again => ?_, invariant.distinct⟩
    rcases List.mem_map.mp again with ⟨command, member, same⟩
    have less := smaller command member
    rw [same, accepted.commandId] at less
    exact Nat.lt_irrefl _ less
  · have before := invariant.tokens type id io
    have after := createdOf_submitted accepted admin type id
    unfold tokenCount at before ⊢
    rw [List.countP_append, List.countP_singleton, after]
    by_cases making : creates type id filled = true
    · rw [createdOf_before accepted admin making] at before
      rw [if_pos making, if_pos making]
      change _ = 0 at before
      change s.waiting.countP (creates type id) + 1 +
        (s.controller.has type id).toNat +
          s.posted.countP (deleted type id) = 1
      omega
    · rw [if_neg making, if_neg making]
      exact before

end Submit

/-! ## The controller executes a command -/

theorem not_creates_of_deletes {type other : NvmeQueueType} {id : Nat}
    {command : NvmeCommonCommand} (deleting : deletes type id command = true) :
    creates other id command = false := by
  simp only [deletes, Bool.and_eq_true, decide_eq_true_eq] at deleting
  unfold creates
  rw [deleting.1]
  cases type <;> cases other <;> rfl

/-- Executing a command turns one token into another. -/
theorem tokenCount_execute {command : NvmeCommonCommand}
    {before after : List NvmeCommonCommand} {entry : NvmeCompletion}
    {other : Bool} (some : s.waiting = before ++ command :: after)
    (answers : Answers entry command (s.controller.execute other command).1)
    {type : NvmeQueueType} {id : Nat} (io : id ≠ 0)
    (single : tokenCount s type id ≤ 1) :
    tokenCount
        { s with
          controller := (s.controller.execute other command).2
          waiting := before ++ after
          posted := s.posted ++ [(command, entry)] } type id =
      tokenCount s type id := by
  unfold tokenCount at single ⊢
  have queues := @has_execute s.controller other command type id io
  rw [some, List.countP_append, List.countP_cons] at single
  rw [some, List.countP_append, List.countP_append, List.countP_append,
    List.countP_singleton, List.countP_cons]
  dsimp only
  rw [queues]
  by_cases making : creates type id command = true
  · -- the queue is absent, so the command succeeds
    have absent : s.controller.has type id = false := by
      rw [if_pos making] at single
      cases here : s.controller.has type id with
      | false => rfl
      | true =>
          rw [here, Bool.toNat_true] at single
          omega
    have success := @execute_of_creates s.controller other command type id
      making io
    rw [absent, Bool.not_false] at success
    have kept : deleted type id (command, entry) = false := by
      cases deleting : deletes type id command with
      | false => simp [deleted, deleting]
      | true =>
          have := @not_creates_of_deletes _ type _ _ deleting
          rw [making] at this
          cases this
    rw [if_pos making, if_pos ⟨success, making⟩, absent, kept]
    simp only [Bool.toNat_true, Bool.toNat_false, Bool.false_eq_true, if_false]
    omega
  · rw [if_neg making, if_neg (fun both => making both.2)]
    by_cases deleting : (s.controller.execute other command).1 = true ∧
        deletes type id command = true
    · have here := has_of_deletes deleting.2 io deleting.1
      have gone : deleted type id (command, entry) = true := by
        simp [deleted, deleting.2, answers.state.mpr deleting.1]
      rw [if_pos deleting, here, gone]
      simp only [Bool.toNat_true, Bool.toNat_false, if_true]
      omega
    · have kept : deleted type id (command, entry) = false := by
        cases also : deletes type id command with
        | false => simp [deleted, also]
        | true =>
            have failed : entry.state ≠ 0 := fun zero =>
              deleting ⟨answers.state.mp zero, also⟩
            simp [deleted, failed]
      rw [if_neg deleting, kept]
      simp only [Bool.false_eq_true, if_false]
      omega

theorem Invariant.execute {command : NvmeCommonCommand}
    {before after : List NvmeCommonCommand} {entry : NvmeCompletion}
    {other : Bool} (invariant : Invariant s)
    (some : s.waiting = before ++ command :: after)
    (answers : Answers entry command
      (s.controller.execute other command).1) :
    Invariant
      { s with
        controller := (s.controller.execute other command).2
        waiting := before ++ after
        posted := s.posted ++ [(command, entry)] } := by
  have single : ∀ type id, id ≠ 0 → tokenCount s type id ≤ 1 := by
    intro type id io
    rw [invariant.tokens type id io]
    exact Bool.toNat_le _
  have moved : (before ++ after ++
      (s.posted ++ [(command, entry)]).map Prod.fst).Perm s.outstanding := by
    rw [QueueSystem.outstanding, some, List.map_append, List.map_singleton,
      ← List.append_assoc]
    refine (List.perm_append_singleton _ _).trans ?_
    rw [List.append_assoc, List.append_assoc, List.cons_append]
    exact List.perm_middle.symm
  refine { invariant with
    listed := fun command member =>
      invariant.listed command (moved.mem_iff.mp member)
    distinct := (moved.map _).nodup_iff.mpr invariant.distinct
    answers := fun done member => ?_
    fine := fun done member type id io making => ?_
    zero := fun type => has_execute_zero (invariant.zero type)
    tokens := fun type id io => ?_ }
  · rcases List.mem_append.mp member with old | new
    · exact invariant.answers done old
    · rw [List.mem_singleton] at new
      subst new
      exact ⟨answers.sqId, answers.commandId⟩
  · rcases List.mem_append.mp member with old | new
    · exact invariant.fine done old type id io making
    · rw [List.mem_singleton] at new
      subst new
      have few := single type id io
      unfold tokenCount at few
      rw [some, List.countP_append, List.countP_cons, if_pos making] at few
      refine answers.state.mpr ?_
      rw [execute_of_creates making io]
      cases here : s.controller.has type id with
      | false => rfl
      | true =>
          rw [here, Bool.toNat_true] at few
          omega
  · rw [tokenCount_execute some answers io (single type id io)]
    exact invariant.tokens type id io

/-! ## A completion is reaped -/

/-- What the driver drops is what a successful delete command named; a create
command, which never failed, drops nothing. -/
theorem drops_iff {node : NvmeCmd} {command : NvmeCommonCommand}
    {entry : NvmeCompletion} (fits : Matches node command)
    {type : NvmeQueueType} {id : Nat}
    (fine : creates type id command = true → entry.state = 0) :
    Drops node entry type id ↔
      deleted type id (command, entry) = true := by
  unfold Drops deleted deletes
  unfold creates at fine
  have target := fits.target
  rw [fits.opcode]
  cases opcode : adminOpcode command.opcode with
  | other => cases type <;> simp [queueType, deleteOpcode]
  | deleteSq =>
      rw [opcode] at target
      rw [target (by simp [queueType])]
      cases type <;> simp [queueType, freesQueue, deleteOpcode, and_comm]
  | deleteCq =>
      rw [opcode] at target
      rw [target (by simp [queueType])]
      cases type <;> simp [queueType, freesQueue, deleteOpcode, and_comm]
  | createSq =>
      rw [opcode] at target fine
      rw [target (by simp [queueType])]
      cases type with
      | sq =>
          simp only [createOpcode, decide_true, Bool.true_and,
            decide_eq_true_eq] at fine
          simp only [queueType, freesQueue, deleteOpcode, reduceCtorEq,
            decide_false, Bool.false_and, Bool.false_eq_true, iff_false,
            decide_eq_true_eq, true_and, not_and]
          exact fun failed same => failed (fine same)
      | cq => simp [queueType, deleteOpcode]
  | createCq =>
      rw [opcode] at target fine
      rw [target (by simp [queueType])]
      cases type with
      | sq => simp [queueType, deleteOpcode]
      | cq =>
          simp only [createOpcode, decide_true, Bool.true_and,
            decide_eq_true_eq] at fine
          simp only [queueType, freesQueue, deleteOpcode, reduceCtorEq,
            decide_false, Bool.false_and, Bool.false_eq_true, iff_false,
            decide_eq_true_eq, true_and, not_and]
          exact fun failed same => failed (fine same)

theorem Invariant.reap {command : NvmeCommonCommand}
    {entry : NvmeCompletion}
    {before after : List (NvmeCommonCommand × NvmeCompletion)}
    (invariant : Invariant s)
    (some : s.posted = before ++ (command, entry) :: after) :
    Invariant
      { s with
        ndev := (handleCmdCompletion s.ndev entry).2
        posted := before ++ after } := by
  have posted : (command, entry) ∈ s.posted := by
    rw [some]
    exact List.mem_append_right _ List.mem_cons_self
  have fewer : ∀ done ∈ before ++ after, done ∈ s.posted := by
    intro done member
    rw [some]
    rcases List.mem_append.mp member with first | last
    · exact List.mem_append_left _ first
    · exact List.mem_append_right _ (List.mem_cons_of_mem _ last)
  have moved : s.outstanding.Perm
      (command :: (s.waiting ++ (before ++ after).map Prod.fst)) := by
    rw [QueueSystem.outstanding, some, List.map_append, List.map_append,
      List.map_cons, ← List.append_assoc, ← List.append_assoc]
    exact List.perm_middle
  have distinct := (moved.map NvmeCommonCommand.commandId).nodup_iff.mp
    invariant.distinct
  rw [List.map_cons, List.nodup_cons] at distinct
  rcases invariant.answers _ posted with ⟨admin, cid⟩
  rcases invariant.listed command
    (moved.mem_iff.mpr List.mem_cons_self) with ⟨sq, found, node, listed, fits⟩
  have counted := invariant.counted sq found
  have here : dnvmeFindCmd sq entry.commandId = Option.some node := by
    rw [cid, ← fits.cid]
    exact dnvmeFindCmd_of_mem counted.nodup listed
  have completed := handleCmdCompletion_completed s.ndev entry
  have effects : Effects (fun _ _ _ => True) s.ndev
      (handleCmdCompletion s.ndev entry).2 :=
    completed.effects invariant.keyed
  have adminQueue := adminQueue_completed completed invariant.keyed admin
    found here
  have nodes := invariant.held.nodes nvmeAqId
  rw [cmds_eq found] at nodes
  refine {
    held := effects.preserve Held.effect invariant.held
    keyed := invariant.keyed.effects effects
    counted := fun queue there => ?_
    listed := fun other member => ?_
    distinct := distinct.2
    answers := fun done member => invariant.answers done (fewer done member)
    fine := fun done member => invariant.fine done (fewer done member)
    zero := invariant.zero
    tokens := fun type id io => ?_ }
  · rw [adminQueue] at there
    cases there
    refine ⟨?_, fun other member => ?_, counted.few⟩
    · exact counted.nodup.sublist ((List.eraseP_sublist).map NvmeCmd.cid)
    · exact counted.below other (List.mem_of_mem_eraseP member)
  · rcases invariant.listed other
      (moved.mem_iff.mpr (List.mem_cons_of_mem _ member)) with
      ⟨queue, there, own, ownListed, ownFits⟩
    rw [found] at there
    cases there
    refine ⟨_, adminQueue, own, ?_, ownFits⟩
    refine (mem_eraseP_node nodes).mpr ⟨ownListed, fun same => ?_⟩
    -- two commands in flight would share their identifier
    have equal : own = node :=
      List.inj_on_of_nodup_map nodes ownListed listed same
    refine distinct.1 (List.mem_map.mpr ⟨other, member, ?_⟩)
    rw [← ownFits.cid, equal, fits.cid]
  · have count := invariant.tokens type id io
    have drops := drops_iff fits (invariant.fine _ posted type id io)
    have marked := createdOf_completed completed invariant.keyed admin found
      here type io
    unfold tokenCount at count ⊢
    rw [some, List.countP_append, List.countP_cons] at count
    rw [List.countP_append, marked]
    dsimp only
    by_cases gone : Drops node entry type id
    · rw [if_pos gone]
      rw [if_pos (drops.mp gone)] at count
      have bound := Bool.toNat_le (createdOf s.ndev type id == Option.some true)
      change _ = 0
      omega
    · rw [if_neg gone]
      rw [if_neg (fun also => gone (drops.mpr also)), Nat.add_zero] at count
      exact count

/-! ## Runs -/

theorem QueueStep.requests_le {later : QueueSystem}
    (moves : QueueStep s later) : s.requests ≤ later.requests := by
  cases moves with
  | submit done => exact Nat.le_add_right _ _
  | _ => exact le_rfl

theorem Invariant.step {later : QueueSystem} (invariant : Invariant s)
    (moves : QueueStep s later) (few : later.requests < 2 ^ 16) :
    Invariant later := by
  cases moves with
  | createAsq env elements =>
      have added := @dnvmeCreateAsq_added s.ndev env elements
      exact invariant.kept added.effects (.of_sqAdded added) few
  | createAcq env elements =>
      have added := @dnvmeCreateAcq_added s.ndev env elements
      exact invariant.kept added.effects (.of_cqAdded added) few
  | prepareSq env prep =>
      have added := @dnvmePrepareSq_added s.ndev env prep
      exact invariant.kept added.effects (.of_sqAdded added) few
  | prepareCq env icqAlloc prep =>
      exact invariant.kept
        (dnvmePrepareCq_effects invariant.keyed env icqAlloc prep)
        (.of_prepareCq env icqAlloc prep) few
  | @submit env cmd ret next done =>
      rcases dnvmeSubmit64bCmd_cases done with
        ⟨fails, refused⟩ | ⟨rfl, sq, ccmd, filled, prps, accepted⟩
      · have failed : ¬ (ret = 0 ∧ cmd.sqid = nvmeAqId) := by
          rintro ⟨rfl, _⟩
          exact absurd fails (by decide)
        rw [if_neg failed, List.append_nil]
        exact invariant.kept refused.effects (.of_refused refused) few
      · by_cases admin : cmd.sqid = nvmeAqId
        · have adds := @added_eq_some ⟨s.ndev, 0, [], [], []⟩ _ _ _ _ _ _ _
            accepted
          rw [admin] at adds
          rw [if_pos admin] at few
          rw [if_pos ⟨rfl, admin⟩, if_pos admin, adds, Option.map_some,
            Option.toList_some]
          exact invariant.submitted accepted admin few
        · rw [if_neg admin] at few
          rw [if_neg (fun both => admin both.2), if_neg admin,
            List.append_nil]
          exact invariant.kept (Relation.ReflTransGen.single
            (.submit accepted trivial)) (.of_submitted accepted admin) few
  | execute other some answers => exact invariant.execute some answers
  | reap some => exact invariant.reap some
  | reapOther entry other =>
      have completed := handleCmdCompletion_completed s.ndev entry
      exact invariant.kept (completed.effects invariant.keyed)
        (.of_completed completed other) few

theorem Invariant.run {first : QueueSystem} (invariant : Invariant first)
    (run : Relation.ReflTransGen QueueStep first s)
    (few : s.requests < 2 ^ 16) : Invariant s := by
  induction run with
  | refl => exact invariant
  | tail _ moves ih =>
      exact (ih (moves.requests_le.trans_lt few)).step moves few

/-- When no create or delete command is in flight, driver and controller have
the same I/O queues. -/
theorem queues_agree {qDepth : Nat} {capCqr cmbSqs cmbCqs : Bool}
    (run : Relation.ReflTransGen QueueStep
      (.start (.fresh qDepth capCqr cmbSqs cmbCqs)) s)
    (few : s.requests < 2 ^ 16)
    (idle : ∀ command ∈ s.outstanding,
      queueType (adminOpcode command.opcode) = none)
    (type : NvmeQueueType) :
    {id | id ≠ 0 ∧ createdOf s.ndev type id = some true} =
        {id | s.controller.has type id = true} ∧
      ∀ id, createdOf s.ndev type id = some false →
        s.controller.has type id = false := by
  have invariant :=
    (Invariant.start qDepth capCqr cmbSqs cmbCqs).run run few
  have noCreate : ∀ id, s.waiting.countP (creates type id) = 0 := by
    intro id
    rw [List.countP_eq_zero]
    intro command member making
    have none := idle command (List.mem_append_left _ member)
    simp only [creates, Bool.and_eq_true, decide_eq_true_eq] at making
    rw [making.1] at none
    cases type <;> cases none
  have noDelete : ∀ id, s.posted.countP (deleted type id) = 0 := by
    intro id
    rw [List.countP_eq_zero]
    intro done member gone
    have none := idle done.1
      (List.mem_append_right _ (List.mem_map_of_mem member))
    simp only [deleted, deletes, Bool.and_eq_true, decide_eq_true_eq] at gone
    rw [gone.1.1] at none
    cases type <;> cases none
  have agree : ∀ id, id ≠ 0 → s.controller.has type id =
      (createdOf s.ndev type id == some true) := by
    intro id io
    have count := invariant.tokens type id io
    unfold tokenCount at count
    rw [noCreate, noDelete, Nat.zero_add, Nat.add_zero] at count
    cases here : s.controller.has type id <;>
      cases marked : (createdOf s.ndev type id == some true) <;>
      simp_all
  constructor
  · ext id
    constructor
    · rintro ⟨io, marked⟩
      change s.controller.has type id = true
      rw [agree id io, marked]
      rfl
    · intro here
      have io : id ≠ 0 := by
        rintro rfl
        have clean := invariant.zero type
        rw [show s.controller.has type 0 = true from here] at clean
        cases clean
      refine ⟨io, ?_⟩
      have marked := agree id io
      rw [show s.controller.has type id = true from here] at marked
      simpa using marked.symm
  · intro id unmarked
    by_cases zero : id = 0
    · rw [zero]
      exact invariant.zero type
    · rw [agree id zero, unmarked]
      rfl

/-- Create a contiguous completion queue 1. -/
def createCq : NvmeCommonCommand :=
  { NvmeCommonCommand.zero with opcode := 5, cdw10 := 1, cdw11 := 1 }

theorem create_run :
    ∃ s, Relation.ReflTransGen QueueStep
        (.start (.fresh 64 false false false)) s ∧
      s.requests = 1 ∧ s.outstanding = [] ∧
      s.controller.has .cq 1 = true := by
  have one := Relation.ReflTransGen.single
    (@QueueStep.createAsq (.start (.fresh 64 false false false))
      ⟨true, some 4096, true⟩ 2)
  have two := one.tail (.prepareCq ⟨true, some 4096, true⟩ true
    ⟨2, 1, true, 0, 0, false⟩)
  have three := two.tail (@QueueStep.submit _
    (.smooth (PrpReading.evenPages 1) PrpReading.oddPages createCq)
    SqRing.plainCmd 0 _ rfl)
  have four := three.tail (@QueueStep.execute _
    { createCq with dptr := ⟨4096, 0⟩ } [] [] ⟨0, 1, 0, 0, 1⟩ true rfl
    ⟨rfl, rfl, by decide⟩)
  have five := four.tail (@QueueStep.reap _ _ _ [] [] rfl)
  exact ⟨_, five, rfl, rfl, rfl⟩

/-- A completion queue is prepared, created and reaped. -/
theorem queues_agree_after_create :
    ∃ s, Relation.ReflTransGen QueueStep
        (.start (.fresh 64 false false false)) s ∧
      s.controller.has .cq 1 = true ∧
      {id | id ≠ 0 ∧ createdOf s.ndev .cq id = some true} =
        {id | s.controller.has .cq id = true} := by
  rcases create_run with ⟨s, run, requests, idle, here⟩
  refine ⟨s, run, here, (queues_agree run ?_ ?_ .cq).1⟩
  · rw [requests]
    decide
  · intro command member
    rw [idle] at member
    cases member

end Dnvme.Driver.QueueAgreement
