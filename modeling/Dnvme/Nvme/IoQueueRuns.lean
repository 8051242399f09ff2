import Dnvme.Nvme.IoQueueCommands

/-!
# The I/O queues that the library creates and deletes

Plans from which the queues can be created are carried out: after
`nvme_create_all_ioq` the driver and the device have the planned queues and no
others, each submission queue on its completion queue, and after
`nvme_delete_all_ioq` they have none.  Both functions fail for a reason only,
and the driver and the device agree all the time.
-/

namespace Dnvme.Nvme.IoQueues

open Dnvme.Driver
open Dnvme.Driver.QueueAgreement
open Dnvme.Lib.Procedures
open Dnvme.Nvme.IoqInfo

/-! ## Queues that were made -/

/-- The driver and the device have a submission queue as it was planned. -/
structure SqMade (s : QueueSystem) (info : NvmeSqInfo) : Prop where
  object : ∃ sq, s.ndev.findSq info.sqid = some sq ∧ sq.created = true ∧
    sq.cqId = info.cqid ∧ sq.elements = info.nrEntry ∧ sq.contig = true
  device : s.controller.sqs.lookup info.sqid = some info.cqid

/-- The same of a completion queue. -/
structure CqMade (s : QueueSystem) (info : NvmeCqInfo) : Prop where
  object : ∃ cq, s.ndev.findCq info.cqid = some cq ∧ cq.created = true ∧
    cq.elements = info.nrEntry ∧ cq.irqEnabled = info.irqEn ∧
    cq.irqNo = info.irqNo ∧ cq.contig = true
  device : info.cqid ∈ s.controller.cqs

theorem SqMade.has {s : QueueSystem} {info : NvmeSqInfo}
    (made : SqMade s info) : s.controller.has .sq info.sqid = true := by
  change (s.controller.sqs.lookup info.sqid).isSome = true
  rw [made.device]
  rfl

theorem CqMade.has {s : QueueSystem} {info : NvmeCqInfo}
    (made : CqMade s info) : s.controller.has .cq info.cqid = true :=
  decide_eq_true made.device

/-- The queues of the lists were made and no others. -/
structure Exactly (cqs : List NvmeCqInfo) (sqs : List NvmeSqInfo)
    (s : QueueSystem) : Prop where
  sq : ∀ info ∈ sqs, SqMade s info
  cq : ∀ info ∈ cqs, CqMade s info
  onlySq : ∀ id, id ≠ 0 → createdOf s.ndev .sq id ≠ none →
    id ∈ sqs.map NvmeSqInfo.sqid
  onlyCq : ∀ id, id ≠ 0 → createdOf s.ndev .cq id ≠ none →
    id ∈ cqs.map NvmeCqInfo.cqid

/-- The system after `count` admin commands, none of which is in flight. -/
structure Since (start : QueueSystem) (count : Nat) (s : QueueSystem) :
    Prop where
  safe : SafeTurns start s
  requests : s.requests ≤ start.requests + count
  outstanding : s.outstanding.Perm start.outstanding

/-- The system after `count` commands when the queues of the lists were
made. -/
def Made (start : QueueSystem) (count : Nat) (cqs : List NvmeCqInfo)
    (sqs : List NvmeSqInfo) (s : QueueSystem) : Prop :=
  Since start count s ∧ Exactly cqs sqs s

/-- Why the queues may not be made. -/
def Reason (faults : Faults) (start : QueueSystem) : Prop :=
  faults.refused ∨ faults.silent ∨ faults.flagged ∨ start.outstanding ≠ []

/-- The system when the queues were not made. -/
structure Stopped (faults : Faults) (start s : QueueSystem) : Prop where
  reason : Reason faults start
  safe : SafeTurns start s

variable {faults : Faults} {start s t : QueueSystem} {count : Nat}
  {cqs : List NvmeCqInfo} {sqs : List NvmeSqInfo}

/-! ## Commands, one after the other -/

theorem Since.refl (start : QueueSystem) : Since start 0 start :=
  ⟨Relation.ReflTransGen.refl, Nat.le_refl _, List.Perm.refl _⟩

theorem Since.quiet (since : Since start count s) (quiet : Quiet start) :
    Quiet s :=
  fun command member => quiet command (since.outstanding.mem_iff.mp member)

theorem Since.invariant (since : Since start count s)
    (invariant : Invariant start) : Invariant s :=
  since.safe.invariant invariant

/-- A queue is prepared. -/
theorem Since.prepare (since : Since start count s)
    (invariant : Invariant start) (quiet : Quiet start)
    (few : start.requests + count < 2 ^ 16) {next : NvmeDevice}
    (moves : QueueStep s { s with ndev := next }) :
    Since start count { s with ndev := next } := by
  have kept := invariant_turn (since.invariant invariant) (.step moves)
    (since.requests.trans_lt few)
  exact ⟨since.safe.tail ⟨.step moves, kept, (since.quiet quiet).careful⟩,
    since.requests, since.outstanding⟩

/-- A command that the device can execute succeeds, or there is a reason. -/
theorem Since.command {cmd : Nvme64bCmd} {ccmd : NvmeCommonCommand}
    {ret : Int} (since : Since start count s) (invariant : Invariant start)
    (quiet : Quiet start) (few : start.requests + (count + 1) < 2 ^ 16)
    (admin : cmd.sqid = nvmeAqId)
    (special : queueType (adminOpcode ccmd.opcode) ≠ none)
    (io : ccmd.qid ≠ 0)
    (unused : adminOpcode ccmd.opcode = .deleteCq →
      s.controller.attached ccmd.qid = false)
    (succeeds : (s.controller.execute false ccmd).1 = true)
    (makes : Succeeded s ccmd t → Exactly cqs sqs t)
    (run : adminCommand faults cmd ccmd s ret t) :
    if ret < 0 then Stopped faults start t
    else ret = 0 ∧ Made start (count + 1) cqs sqs t := by
  have requests := since.requests
  have fewer : s.requests + 1 < 2 ^ 16 := by omega
  have outcome := adminCommand_cases (since.invariant invariant) fewer
    (since.quiet quiet) admin special io run
  have safe := since.safe.trans (adminCommand_safe
    (since.invariant invariant) fewer admin (since.quiet quiet) special io
    unused run)
  split
  · rename_i fails
    rw [if_pos fails] at outcome
    refine ⟨?_, safe⟩
    rcases outcome with refused | silent | flagged | others | never
    · exact .inl refused
    · exact .inr (.inl silent)
    · exact .inr (.inr (.inl flagged))
    · refine .inr (.inr (.inr fun none_ => others ?_))
      have kept := since.outstanding
      rw [none_] at kept
      exact List.Perm.eq_nil kept
    · rw [succeeds] at never
      cases never
  · rename_i well
    rw [if_neg well] at outcome
    obtain ⟨zero, more, succeeded⟩ := outcome
    exact ⟨zero, ⟨safe, by omega,
      succeeded.outstanding.trans since.outstanding⟩, makes succeeded⟩

/-! ## Preparation -/

theorem dnvmePrepareSq_cases (env : AllocQueueEnv) (ndev : NvmeDevice)
    (prep : NvmePrepSq) :
    (dnvmePrepareSq env ndev prep).1 < 0 ∨
      ndev.findSq prep.sqId = none ∧ ∃ dma, dnvmePrepareSq env ndev prep =
        (0, ndev.setSq prep.sqId (prep.queue nvmeSqes dma)) := by
  unfold dnvmePrepareSq
  split
  · exact .inl (show -Errno.EINVAL < 0 by decide)
  split
  · exact .inl (show -Errno.EEXIST < 0 by decide)
  split
  · exact .inl (show -Errno.EINVAL < 0 by decide)
  split
  · exact .inl (show -Errno.ENOMEM < 0 by decide)
  · rename_i next allocated
    obtain ⟨absent, dma, rfl⟩ := dnvmeAllocSq_eq allocated
    exact .inr ⟨absent, dma, rfl⟩

theorem dnvmePrepareCq_cases (env : AllocQueueEnv) (icqAlloc : Bool)
    (ndev : NvmeDevice) (prep : NvmePrepCq) :
    (dnvmePrepareCq env icqAlloc ndev prep).1 < 0 ∨
      ndev.findCq prep.cqId = none ∧ ∃ dma irqSet,
        dnvmePrepareCq env icqAlloc ndev prep =
          (0, { ndev.setCq prep.cqId (prep.queue nvmeCqes dma) with
            irqSet := irqSet }) := by
  unfold dnvmePrepareCq
  split
  · exact .inl (show -Errno.EINVAL < 0 by decide)
  split
  · exact .inl (show -Errno.EEXIST < 0 by decide)
  split
  · exact .inl (show -Errno.EINVAL < 0 by decide)
  split
  · exact .inl (show -Errno.ENOMEM < 0 by decide)
  · rename_i next allocated
    obtain ⟨absent, dma, rfl⟩ := dnvmeAllocCq_eq allocated
    split
    · exact .inr ⟨absent, dma, _, rfl⟩
    · dsimp only
      split
      · rename_i fails
        split
        · exact .inl fails
        · exact .inl fails
      · exact .inr ⟨absent, dma, _, rfl⟩

/-- A queue that was made stays when another one is prepared. -/
theorem SqMade.setSq {info : NvmeSqInfo} {id : Nat} {sq : NvmeSq}
    (made : SqMade s info) (other : info.sqid ≠ id) :
    SqMade { s with ndev := s.ndev.setSq id sq } info := by
  obtain ⟨queue, found, rest⟩ := made.object
  exact ⟨⟨queue, (NvmeDevice.findSq_setSq_ne _ _ other).trans found, rest⟩,
    made.device⟩

theorem CqMade.setCq {info : NvmeCqInfo} {id : Nat} {cq : NvmeCq}
    {irqSet : NvmeIrqSet} (made : CqMade s info) (other : info.cqid ≠ id) :
    CqMade { s with ndev := { s.ndev.setCq id cq with irqSet := irqSet } }
      info := by
  obtain ⟨queue, found, rest⟩ := made.object
  exact ⟨⟨queue, (NvmeDevice.findCq_setCq_ne _ _ other).trans found, rest⟩,
    made.device⟩

/-! ## Other queues -/

/-- A command for another queue leaves a queue that was made. -/
theorem SqMade.kept {info : NvmeSqInfo} {command : NvmeCommonCommand}
    (made : SqMade s info) (succeeded : Succeeded s command t)
    (io : info.sqid ≠ 0) (creating : creates .sq info.sqid command = false)
    (deleting : deletes .sq info.sqid command = false)
    (device : t.controller.sqs.lookup info.sqid =
      s.controller.sqs.lookup info.sqid) : SqMade t info := by
  obtain ⟨sq, found, created, cqId, elements, contig⟩ := made.object
  have after := succeeded.created .sq info.sqid io
  rw [creating, deleting, if_neg Bool.false_ne_true,
    if_neg Bool.false_ne_true] at after
  have before : createdOf s.ndev .sq info.sqid = some true := by
    simp only [createdOf, found, Option.map_some, created]
  rw [before] at after
  obtain ⟨later, there, marked⟩ := Option.map_eq_some_iff.mp after
  obtain ⟨old, here, same⟩ := succeeded.same.sq _ later there
  cases found.symm.trans here
  exact ⟨⟨later, there, marked, same.cqId.trans cqId,
    same.elements.trans elements, same.contig.trans contig⟩,
    device.trans made.device⟩

theorem CqMade.kept {info : NvmeCqInfo} {command : NvmeCommonCommand}
    (made : CqMade s info) (succeeded : Succeeded s command t)
    (io : info.cqid ≠ 0) (creating : creates .cq info.cqid command = false)
    (deleting : deletes .cq info.cqid command = false)
    (device : info.cqid ∈ t.controller.cqs ↔ info.cqid ∈ s.controller.cqs) :
    CqMade t info := by
  obtain ⟨cq, found, created, elements, irqEnabled, irqNo, contig⟩ :=
    made.object
  have after := succeeded.created .cq info.cqid io
  rw [creating, deleting, if_neg Bool.false_ne_true,
    if_neg Bool.false_ne_true] at after
  have before : createdOf s.ndev .cq info.cqid = some true := by
    simp only [createdOf, found, Option.map_some, created]
  rw [before] at after
  obtain ⟨later, there, marked⟩ := Option.map_eq_some_iff.mp after
  obtain ⟨old, here, same⟩ := succeeded.same.cq _ later there
  cases found.symm.trans here
  exact ⟨⟨later, there, marked, same.elements.trans elements,
    same.irqEnabled.trans irqEnabled, same.irqNo.trans irqNo,
    same.contig.trans contig⟩, device.mpr made.device⟩

/-- The objects after a command that succeeded. -/
theorem Succeeded.only {ccmd : NvmeCommonCommand} {type : NvmeQueueType}
    {id : Nat} (succeeded : Succeeded s ccmd t) (io : id ≠ 0)
    (here : createdOf t.ndev type id ≠ none) :
    creates type id ccmd = true ∨
      deletes type id ccmd = false ∧ createdOf s.ndev type id ≠ none := by
  rw [succeeded.created type id io] at here
  by_cases creating : creates type id ccmd = true
  · exact .inl creating
  rw [if_neg creating] at here
  by_cases deleting : deletes type id ccmd = true
  · rw [if_pos deleting] at here
    exact absurd rfl here
  · rw [if_neg deleting] at here
    exact .inr ⟨Bool.eq_false_iff.mpr deleting, here⟩

/-! ## Commands -/

section Commands

variable (sqid cqid elements prio irqEn irqNo : Nat) (contig : Bool)

theorem createSq_qid (small : sqid < 2 ^ 16) :
    (nvmeCmdFillCreateSq sqid cqid elements contig prio).qid = sqid := by
  change u16 (sqid + u16 (elements + 65535) * 2 ^ 16) = sqid
  unfold u16
  rw [Nat.add_mul_mod_self_right, Nat.mod_eq_of_lt small]

theorem createCq_qid (small : cqid < 2 ^ 16) :
    (nvmeCmdFillCreateCq cqid elements contig irqEn irqNo).qid = cqid := by
  change u16 (cqid + u16 (elements + 65535) * 2 ^ 16) = cqid
  unfold u16
  rw [Nat.add_mul_mod_self_right, Nat.mod_eq_of_lt small]

theorem deleteSq_qid (small : sqid < 2 ^ 16) :
    (deleteSqCommand sqid).qid = sqid :=
  Nat.mod_eq_of_lt small

theorem deleteCq_qid (small : cqid < 2 ^ 16) :
    (deleteCqCommand cqid).qid = cqid :=
  Nat.mod_eq_of_lt small

/-- A planned queue has its completion queue in the command. -/
theorem createSq_attachedCqid (small : cqid < 2 ^ 16) :
    (nvmeCmdFillCreateSq sqid cqid elements true nvmeSqPrioMedium).attachedCqid
      = cqid := by
  change u16 (((1 ||| 4) + cqid * 2 ^ 16) / 2 ^ 16) = cqid
  rw [Nat.add_mul_div_right _ _ (by decide)]
  change u16 (0 + cqid) = cqid
  rw [Nat.zero_add]
  exact Nat.mod_eq_of_lt small

end Commands

/-! ## The device after a command that succeeded -/

/-- What a command for a queue changes when it succeeds. -/
def changed (controller : Controller) (command : NvmeCommonCommand) :
    Controller :=
  match adminOpcode command.opcode with
  | .createSq =>
      { controller with
        sqs := controller.sqs.insert command.qid command.attachedCqid }
  | .createCq =>
      { controller with cqs := insert command.qid controller.cqs }
  | .deleteSq => { controller with sqs := controller.sqs.erase command.qid }
  | .deleteCq => { controller with cqs := controller.cqs.erase command.qid }
  | .other => controller

theorem Succeeded.controller_eq {ccmd : NvmeCommonCommand}
    (succeeded : Succeeded s ccmd t) (io : ccmd.qid ≠ 0) :
    t.controller = changed s.controller ccmd := by
  have success := succeeded.success
  rw [succeeded.controller]
  unfold Controller.execute changed at *
  rw [if_neg io] at success ⊢
  cases opcode : adminOpcode ccmd.opcode with
  | other => rfl
  | createSq | createCq =>
      rw [opcode] at success
      dsimp only at success ⊢
      split at success
      · cases success
      · rename_i absent
        rw [if_neg absent]
  | deleteSq | deleteCq =>
      rw [opcode] at success
      dsimp only at success ⊢
      split at success
      · rename_i here
        rw [if_pos here]
      · cases success

/-! ## One more queue -/

/-- The command that creates a planned submission queue. -/
def createSqOf (info : NvmeSqInfo) : NvmeCommonCommand :=
  nvmeCmdFillCreateSq info.sqid info.cqid info.nrEntry true nvmeSqPrioMedium

/-- The command that creates a planned completion queue. -/
def createCqOf (info : NvmeCqInfo) : NvmeCommonCommand :=
  nvmeCmdFillCreateCq info.cqid info.nrEntry true info.irqEn info.irqNo

/-- The system when a planned submission queue is prepared. -/
def preparedSq (s : QueueSystem) (info : NvmeSqInfo) (dma : Nat) :
    QueueSystem :=
  { s with ndev := s.ndev.setSq info.sqid (NvmePrepSq.queue
    ⟨info.nrEntry, info.sqid, info.cqid, true, false⟩ nvmeSqes dma) }

/-- The system when a planned completion queue is prepared. -/
def preparedCq (s : QueueSystem) (info : NvmeCqInfo) (dma : Nat)
    (irqSet : NvmeIrqSet) : QueueSystem :=
  { s with ndev := { s.ndev.setCq info.cqid (NvmePrepCq.queue
    ⟨info.nrEntry, info.cqid, true, info.irqEn, info.irqNo, false⟩ nvmeCqes
    dma) with irqSet := irqSet } }

theorem creates_createSqOf {info : NvmeSqInfo} (small : info.sqid < 2 ^ 16)
    (id : Nat) :
    creates .sq id (createSqOf info) = decide (info.sqid = id) := by
  have qid := createSq_qid info.sqid info.cqid info.nrEntry nvmeSqPrioMedium
    true small
  unfold creates createSqOf
  rw [qid]
  rfl

theorem creates_createCqOf {info : NvmeCqInfo} (small : info.cqid < 2 ^ 16)
    (id : Nat) :
    creates .cq id (createCqOf info) = decide (info.cqid = id) := by
  have qid := createCq_qid info.cqid info.nrEntry info.irqEn info.irqNo true
    small
  unfold creates createCqOf
  rw [qid]
  rfl

section Joins

variable {dma : Nat} (exactly : Exactly cqs sqs s)
  (ioSqs : ∀ other ∈ sqs, other.sqid ≠ 0)
  (ioCqs : ∀ other ∈ cqs, other.cqid ≠ 0)

include exactly ioSqs ioCqs

/-- A submission queue that was prepared and created joins the others. -/
theorem Exactly.createSq {info : NvmeSqInfo}
    (absent : s.ndev.findSq info.sqid = none) (io : info.sqid ≠ 0)
    (small : info.sqid < 2 ^ 16) (cqidSmall : info.cqid < 2 ^ 16)
    (succeeded : Succeeded (preparedSq s info dma) (createSqOf info) t) :
    Exactly cqs (sqs ++ [info]) t := by
  have qid : (createSqOf info).qid = info.sqid := createSq_qid _ _ _ _ _ small
  have controller := succeeded.controller_eq
    (show (createSqOf info).qid ≠ 0 from qid ▸ io)
  have cqid : (createSqOf info).attachedCqid = info.cqid :=
    createSq_attachedCqid _ _ _ cqidSmall
  change _ = Controller.mk (s.controller.sqs.insert (createSqOf info).qid
    (createSqOf info).attachedCqid) s.controller.cqs at controller
  rw [qid, cqid] at controller
  constructor
  · intro other member
    rcases List.mem_append.mp member with old | new
    · have different : other.sqid ≠ info.sqid := by
        intro same
        obtain ⟨sq, found, _⟩ := (exactly.sq other old).object
        rw [same, absent] at found
        cases found
      apply ((exactly.sq other old).setSq different).kept succeeded
      · exact ioSqs other old
      · rw [creates_createSqOf small, decide_eq_false different.symm]
      · rfl
      · rw [controller]
        exact AList.lookup_insert_ne different
    · obtain rfl := List.mem_singleton.mp new
      have created := succeeded.created .sq other.sqid io
      rw [creates_createSqOf small, decide_eq_true rfl, if_pos rfl] at created
      obtain ⟨sq, found, marked⟩ := Option.map_eq_some_iff.mp created
      obtain ⟨old, here, same⟩ := succeeded.same.sq _ sq found
      unfold preparedSq at here
      rw [NvmeDevice.findSq_setSq] at here
      cases here
      refine ⟨⟨sq, found, marked, same.cqId, same.elements, same.contig⟩, ?_⟩
      rw [controller]
      exact AList.lookup_insert _
  · intro other member
    have kept : CqMade (preparedSq s info dma) other :=
      ⟨(exactly.cq other member).object, (exactly.cq other member).device⟩
    apply kept.kept succeeded
    · exact ioCqs other member
    · rfl
    · rfl
    · rw [controller]
      rfl
  · intro id other here
    rw [List.map_append, List.map_singleton]
    rcases succeeded.only other here with new | ⟨_, old⟩
    · rw [creates_createSqOf small] at new
      rw [← of_decide_eq_true new]
      exact List.mem_append_right _ List.mem_cons_self
    · by_cases same : id = info.sqid
      · rw [same]
        exact List.mem_append_right _ List.mem_cons_self
      · unfold preparedSq at old
        simp only [createdOf, NvmeDevice.findSq_setSq_ne _ _ same] at old
        exact List.mem_append_left _ (exactly.onlySq id other old)
  · intro id other here
    rcases succeeded.only other here with new | ⟨_, old⟩
    · cases new
    · exact exactly.onlyCq id other old

/-- A completion queue that was prepared and created joins the others. -/
theorem Exactly.createCq {info : NvmeCqInfo} {irqSet : NvmeIrqSet}
    (absent : s.ndev.findCq info.cqid = none) (io : info.cqid ≠ 0)
    (small : info.cqid < 2 ^ 16)
    (succeeded : Succeeded (preparedCq s info dma irqSet) (createCqOf info)
      t) : Exactly (cqs ++ [info]) sqs t := by
  have qid : (createCqOf info).qid = info.cqid := createCq_qid _ _ _ _ _ small
  have controller := succeeded.controller_eq
    (show (createCqOf info).qid ≠ 0 from qid ▸ io)
  change _ = Controller.mk s.controller.sqs
    (insert (createCqOf info).qid s.controller.cqs) at controller
  rw [qid] at controller
  constructor
  · intro other member
    have kept : SqMade (preparedCq s info dma irqSet) other :=
      ⟨(exactly.sq other member).object, (exactly.sq other member).device⟩
    apply kept.kept succeeded
    · exact ioSqs other member
    · rfl
    · rfl
    · rw [controller]
      rfl
  · intro other member
    rcases List.mem_append.mp member with old | new
    · have different : other.cqid ≠ info.cqid := by
        intro same
        obtain ⟨cq, found, _⟩ := (exactly.cq other old).object
        rw [same, absent] at found
        cases found
      apply ((exactly.cq other old).setCq different).kept succeeded
      · exact ioCqs other old
      · rw [creates_createCqOf small, decide_eq_false different.symm]
      · rfl
      · rw [controller]
        exact Finset.mem_insert.trans (or_iff_right different)
    · obtain rfl := List.mem_singleton.mp new
      have created := succeeded.created .cq other.cqid io
      rw [creates_createCqOf small, decide_eq_true rfl, if_pos rfl] at created
      obtain ⟨cq, found, marked⟩ := Option.map_eq_some_iff.mp created
      obtain ⟨old, here, same⟩ := succeeded.same.cq _ cq found
      change (s.ndev.setCq other.cqid _).findCq other.cqid = some old at here
      rw [NvmeDevice.findCq_setCq] at here
      cases here
      refine ⟨⟨cq, found, marked, same.elements, same.irqEnabled, same.irqNo,
        same.contig⟩, ?_⟩
      rw [controller]
      exact Finset.mem_insert_self _ _
  · intro id other here
    rcases succeeded.only other here with new | ⟨_, old⟩
    · cases new
    · exact exactly.onlySq id other old
  · intro id other here
    rw [List.map_append, List.map_singleton]
    rcases succeeded.only other here with new | ⟨_, old⟩
    · rw [creates_createCqOf small] at new
      rw [← of_decide_eq_true new]
      exact List.mem_append_right _ List.mem_cons_self
    · by_cases same : id = info.cqid
      · rw [same]
        exact List.mem_append_right _ List.mem_cons_self
      · change Option.map _ ((s.ndev.setCq info.cqid _).findCq id) ≠ none
          at old
        rw [NvmeDevice.findCq_setCq_ne _ _ same] at old
        exact List.mem_append_left _ (exactly.onlyCq id other old)

end Joins

/-- A planned completion queue is created, or there is a reason. -/
theorem nvmeCreateIocq_cases {info : NvmeCqInfo} {ret : Int}
    (invariant : Invariant start) (quiet : Quiet start)
    (few : start.requests + (count + 1) < 2 ^ 16)
    (ioSqs : ∀ other ∈ sqs, other.sqid ≠ 0)
    (ioCqs : ∀ other ∈ cqs, other.cqid ≠ 0) (io : info.cqid ≠ 0)
    (small : info.cqid < 2 ^ 16) (since : Since start count s)
    (exactly : Exactly cqs sqs s)
    (run : nvmeCreateIocq faults ⟨info.cqid, info.nrEntry, info.irqNo,
      info.irqEn, true, 0, 0⟩ s ret t) :
    if ret < 0 then Stopped faults start t
    else ret = 0 ∧ Made start (count + 1) (cqs ++ [info]) sqs t := by
  have fewer : start.requests + count < 2 ^ 16 := by omega
  obtain ⟨code, u, ⟨refused, prepared⟩, rest⟩ := run
  by_cases fails : code < 0
  · rw [if_pos fails] at rest
    obtain ⟨rfl, rfl⟩ := rest
    rw [if_pos (by decide)]
    refine ⟨.inl (refused fails), ?_⟩
    rcases prepared with ⟨_, rfl⟩ | ⟨env, icqAlloc, _, rfl⟩
    · exact since.safe
    · exact (since.prepare invariant quiet fewer
        (.prepareCq env icqAlloc _)).safe
  rw [if_neg fails] at rest
  rcases prepared with ⟨rfl, rfl⟩ | ⟨env, icqAlloc, rfl, rfl⟩
  · exact absurd (by decide) fails
  rcases dnvmePrepareCq_cases env icqAlloc s.ndev ⟨info.nrEntry, info.cqid,
    true, info.irqEn, info.irqNo, false⟩ with never | ⟨absent, dma, irqSet,
    done⟩
  · exact absurd never fails
  have then_ := since.prepare invariant quiet fewer (.prepareCq env icqAlloc
    ⟨info.nrEntry, info.cqid, true, info.irqEn, info.irqNo, false⟩)
  rw [done] at then_ rest
  change Since start count (preparedCq s info dma irqSet) at then_
  have qid : (createCqOf info).qid = info.cqid :=
    createCq_qid _ _ _ _ _ small
  have marked : createdOf (preparedCq s info dma irqSet).ndev .cq info.cqid =
      some false := by
    change Option.map _ ((s.ndev.setCq info.cqid _).findCq info.cqid) = _
    rw [NvmeDevice.findCq_setCq]
    rfl
  have succeeds : ((preparedCq s info dma irqSet).controller.execute false
      (createCqOf info)).1 = true := by
    rw [execute_of_creates ((creates_createCqOf small _).trans
      (decide_eq_true rfl)) io, has_eq_created (then_.invariant invariant)
      (then_.quiet quiet) .cq io, marked]
    rfl
  exact then_.command invariant quiet few rfl
    (show queueType (adminOpcode (createCqOf info).opcode) ≠ none from
      fun no => (by cases no)) (qid ▸ io) (fun no => (by cases no)) succeeds
    (exactly.createCq ioSqs ioCqs absent io small) rest

/-- A planned submission queue is created, or there is a reason. -/
theorem nvmeCreateIosq_cases {info : NvmeSqInfo} {ret : Int}
    (invariant : Invariant start) (quiet : Quiet start)
    (few : start.requests + (count + 1) < 2 ^ 16)
    (ioSqs : ∀ other ∈ sqs, other.sqid ≠ 0)
    (ioCqs : ∀ other ∈ cqs, other.cqid ≠ 0) (io : info.sqid ≠ 0)
    (small : info.sqid < 2 ^ 16) (cqidSmall : info.cqid < 2 ^ 16)
    (since : Since start count s) (exactly : Exactly cqs sqs s)
    (run : nvmeCreateIosq faults ⟨info.sqid, info.cqid, info.nrEntry,
      nvmeSqPrioMedium, true, 0, 0⟩ s ret t) :
    if ret < 0 then Stopped faults start t
    else ret = 0 ∧ Made start (count + 1) cqs (sqs ++ [info]) t := by
  have fewer : start.requests + count < 2 ^ 16 := by omega
  obtain ⟨code, u, ⟨refused, prepared⟩, rest⟩ := run
  by_cases fails : code < 0
  · rw [if_pos fails] at rest
    obtain ⟨rfl, rfl⟩ := rest
    rw [if_pos (by decide)]
    refine ⟨.inl (refused fails), ?_⟩
    rcases prepared with ⟨_, rfl⟩ | ⟨env, _, rfl⟩
    · exact since.safe
    · exact (since.prepare invariant quiet fewer (.prepareSq env _)).safe
  rw [if_neg fails] at rest
  rcases prepared with ⟨rfl, rfl⟩ | ⟨env, rfl, rfl⟩
  · exact absurd (by decide) fails
  rcases dnvmePrepareSq_cases env s.ndev ⟨info.nrEntry, info.sqid, info.cqid,
    true, false⟩ with never | ⟨absent, dma, done⟩
  · exact absurd never fails
  have then_ := since.prepare invariant quiet fewer (.prepareSq env
    ⟨info.nrEntry, info.sqid, info.cqid, true, false⟩)
  rw [done] at then_ rest
  change Since start count (preparedSq s info dma) at then_
  have qid : (createSqOf info).qid = info.sqid := createSq_qid _ _ _ _ _ small
  have marked : createdOf (preparedSq s info dma).ndev .sq info.sqid =
      some false := by
    change Option.map _ ((s.ndev.setSq info.sqid _).findSq info.sqid) = _
    rw [NvmeDevice.findSq_setSq]
    rfl
  have succeeds : ((preparedSq s info dma).controller.execute false
      (createSqOf info)).1 = true := by
    rw [execute_of_creates ((creates_createSqOf small _).trans
      (decide_eq_true rfl)) io, has_eq_created (then_.invariant invariant)
      (then_.quiet quiet) .sq io, marked]
    rfl
  exact then_.command invariant quiet few rfl
    (show queueType (adminOpcode (createSqOf info).opcode) ≠ none from
      fun no => (by cases no)) (qid ▸ io) (fun no => (by cases no)) succeeds
    (exactly.createSq ioSqs ioCqs absent io small cqidSmall) rest

/-! ## One queue less -/

theorem deletes_deleteSqCommand {sqid : Nat} (small : sqid < 2 ^ 16)
    (id : Nat) :
    deletes .sq id (deleteSqCommand sqid) = decide (sqid = id) := by
  unfold deletes
  rw [deleteSq_qid sqid small]
  rfl

theorem deletes_deleteCqCommand {cqid : Nat} (small : cqid < 2 ^ 16)
    (id : Nat) :
    deletes .cq id (deleteCqCommand cqid) = decide (cqid = id) := by
  unfold deletes
  rw [deleteCq_qid cqid small]
  rfl

section Leaves

variable (ioSqs : ∀ other ∈ sqs, other.sqid ≠ 0)
  (ioCqs : ∀ other ∈ cqs, other.cqid ≠ 0)

include ioSqs ioCqs

/-- A submission queue that was deleted leaves the others. -/
theorem Exactly.deleteSq {info : NvmeSqInfo}
    (exactly : Exactly cqs (info :: sqs) s)
    (distinct : ((info :: sqs).map NvmeSqInfo.sqid).Nodup)
    (io : info.sqid ≠ 0) (small : info.sqid < 2 ^ 16)
    (succeeded : Succeeded s (deleteSqCommand info.sqid) t) :
    Exactly cqs sqs t := by
  have controller := succeeded.controller_eq
    (show (deleteSqCommand info.sqid).qid ≠ 0 from
      (deleteSq_qid _ small).symm ▸ io)
  change _ = Controller.mk (s.controller.sqs.erase
    (deleteSqCommand info.sqid).qid) s.controller.cqs at controller
  rw [deleteSq_qid _ small] at controller
  constructor
  · intro other member
    have different : other.sqid ≠ info.sqid := by
      intro same
      exact (List.nodup_cons.mp distinct).1
        (same ▸ List.mem_map_of_mem member)
    apply (exactly.sq other (List.mem_cons_of_mem _ member)).kept succeeded
    · exact ioSqs other member
    · rfl
    · rw [deletes_deleteSqCommand small, decide_eq_false different.symm]
    · rw [controller]
      exact AList.lookup_erase_ne different
  · intro other member
    apply (exactly.cq other member).kept succeeded
    · exact ioCqs other member
    · rfl
    · rfl
    · rw [controller]
  · intro id other here
    rcases succeeded.only other here with new | ⟨kept, old⟩
    · cases new
    · rcases List.mem_cons.mp (exactly.onlySq id other old) with same | rest
      · rw [deletes_deleteSqCommand small, decide_eq_true same.symm] at kept
        cases kept
      · exact rest
  · intro id other here
    rcases succeeded.only other here with new | ⟨_, old⟩
    · cases new
    · exact exactly.onlyCq id other old

/-- A completion queue that was deleted leaves the others. -/
theorem Exactly.deleteCq {info : NvmeCqInfo}
    (exactly : Exactly (info :: cqs) sqs s)
    (distinct : ((info :: cqs).map NvmeCqInfo.cqid).Nodup)
    (io : info.cqid ≠ 0) (small : info.cqid < 2 ^ 16)
    (succeeded : Succeeded s (deleteCqCommand info.cqid) t) :
    Exactly cqs sqs t := by
  have controller := succeeded.controller_eq
    (show (deleteCqCommand info.cqid).qid ≠ 0 from
      (deleteCq_qid _ small).symm ▸ io)
  change _ = Controller.mk s.controller.sqs
    (s.controller.cqs.erase (deleteCqCommand info.cqid).qid) at controller
  rw [deleteCq_qid _ small] at controller
  constructor
  · intro other member
    apply (exactly.sq other member).kept succeeded
    · exact ioSqs other member
    · rfl
    · rfl
    · rw [controller]
  · intro other member
    have different : other.cqid ≠ info.cqid := by
      intro same
      exact (List.nodup_cons.mp distinct).1
        (same ▸ List.mem_map_of_mem member)
    apply (exactly.cq other (List.mem_cons_of_mem _ member)).kept succeeded
    · exact ioCqs other member
    · rfl
    · rw [deletes_deleteCqCommand small, decide_eq_false different.symm]
    · rw [controller]
      exact Finset.mem_erase.trans (and_iff_right different)
  · intro id other here
    rcases succeeded.only other here with new | ⟨_, old⟩
    · cases new
    · exact exactly.onlySq id other old
  · intro id other here
    rcases succeeded.only other here with new | ⟨kept, old⟩
    · cases new
    · rcases List.mem_cons.mp (exactly.onlyCq id other old) with same | rest
      · rw [deletes_deleteCqCommand small, decide_eq_true same.symm] at kept
        cases kept
      · exact rest

/-- A submission queue that was made is deleted, or there is a reason. -/
theorem nvmeDeleteIosq_cases {info : NvmeSqInfo} {ret : Int}
    (invariant : Invariant start) (quiet : Quiet start)
    (few : start.requests + (count + 1) < 2 ^ 16)
    (distinct : ((info :: sqs).map NvmeSqInfo.sqid).Nodup)
    (io : info.sqid ≠ 0) (small : info.sqid < 2 ^ 16)
    (since : Since start count s) (exactly : Exactly cqs (info :: sqs) s)
    (run : nvmeDeleteIosq faults info.sqid s ret t) :
    if ret < 0 then Stopped faults start t
    else ret = 0 ∧ Made start (count + 1) cqs sqs t := by
  have qid := deleteSq_qid info.sqid small
  have succeeds : (s.controller.execute false
      (deleteSqCommand info.sqid)).1 = true := by
    unfold Controller.execute
    rw [qid, if_neg io]
    change (if s.controller.has .sq info.sqid = true then _ else _ :
      Bool × Controller).1 = true
    rw [if_pos (exactly.sq info List.mem_cons_self).has]
  exact since.command invariant quiet few rfl
    (show queueType (adminOpcode (deleteSqCommand info.sqid).opcode) ≠ none
      from fun no => (by cases no)) (qid.symm ▸ io) (fun no => (by cases no))
    succeeds (exactly.deleteSq ioSqs ioCqs distinct io small) run

end Leaves

/-- Without submission queues, no completion queue is in use. -/
theorem not_attached (invariant : Invariant s) (quiet : Quiet s)
    (exactly : Exactly cqs [] s) (cqid : Nat) :
    s.controller.attached cqid = false := by
  rw [Bool.eq_false_iff]
  intro attached
  obtain ⟨⟨id, used⟩, member, _⟩ := List.any_eq_true.mp attached
  have device : s.controller.has .sq id = true := by
    change (s.controller.sqs.lookup id).isSome = true
    rw [AList.mem_lookup_iff.mpr member]
    rfl
  have io : id ≠ 0 := by
    rintro rfl
    rw [invariant.zero] at device
    cases device
  rw [has_eq_created invariant quiet .sq io, beq_iff_eq] at device
  have none_ := exactly.onlySq id io (by
    rw [device]
    exact Option.some_ne_none true)
  cases none_

/-- The same of a completion queue, when there is no submission queue. -/
theorem nvmeDeleteIocq_cases {info : NvmeCqInfo} {ret : Int}
    (invariant : Invariant start) (quiet : Quiet start)
    (few : start.requests + (count + 1) < 2 ^ 16)
    (ioCqs : ∀ other ∈ cqs, other.cqid ≠ 0)
    (distinct : ((info :: cqs).map NvmeCqInfo.cqid).Nodup)
    (io : info.cqid ≠ 0) (small : info.cqid < 2 ^ 16)
    (since : Since start count s) (exactly : Exactly (info :: cqs) [] s)
    (run : nvmeDeleteIocq faults info.cqid s ret t) :
    if ret < 0 then Stopped faults start t
    else ret = 0 ∧ Made start (count + 1) cqs [] t := by
  have qid := deleteCq_qid info.cqid small
  have free := not_attached (since.invariant invariant) (since.quiet quiet)
    exactly info.cqid
  have succeeds : (s.controller.execute false
      (deleteCqCommand info.cqid)).1 = true := by
    unfold Controller.execute
    rw [qid, if_neg io]
    change (if (s.controller.has .cq info.cqid &&
      !s.controller.attached info.cqid) = true then _ else _ :
      Bool × Controller).1 = true
    rw [(exactly.cq info List.mem_cons_self).has, free]
    rfl
  exact since.command invariant quiet few rfl
    (show queueType (adminOpcode (deleteCqCommand info.cqid).opcode) ≠ none
      from fun no => (by cases no)) (qid.symm ▸ io)
    (fun _ => qid.symm ▸ free) succeeds (exactly.deleteCq
      (fun _ none_ => (by cases none_)) ioCqs distinct io small) run

/-! ## All queues -/

/-- A turn that does not stop the loop goes on with its invariant. -/
theorem goes_on {ret : Int} {stops well : Prop}
    (outcome : if ret < 0 then stops else ret = 0 ∧ well) :
    if ret < 0 then stops else well := by
  split at outcome
  · rename_i fails
    rwa [if_pos fails]
  · rename_i succeeds
    rw [if_neg succeeds]
    exact outcome.2

section Loops

variable (invariant : Invariant start) (quiet : Quiet start)
  (sqIds : ∀ info ∈ sqs, info.sqid ≠ 0 ∧ info.sqid < 2 ^ 16)
  (cqIds : ∀ info ∈ cqs, info.cqid ≠ 0 ∧ info.cqid < 2 ^ 16)

include invariant quiet cqIds

theorem nvmeCreateAllIocq_holds (few : start.requests + cqs.length < 2 ^ 16) :
    Holds (Made start 0 [] []) (nvmeCreateAllIocq faults cqs)
      fun ret t => if ret < 0 then Stopped faults start t
        else ret = 0 ∧ Made start cqs.length cqs [] t := by
  apply @holds_forEach _ _ _ (fun past _ => Made start past.length past [])
    (fun _ t => Stopped faults start t)
  rintro past info later rfl s ⟨since, exactly⟩ ret t run
  rw [List.length_append, List.length_cons] at few
  have ids := cqIds info (List.mem_append_right _ List.mem_cons_self)
  have outcome := nvmeCreateIocq_cases invariant quiet (by omega)
    (fun _ none_ => (by cases none_))
    (fun other member => (cqIds other (List.mem_append_left _ member)).1)
    ids.1 ids.2 since exactly run
  rw [List.length_append, List.length_singleton]
  exact goes_on outcome

theorem nvmeDeleteAllIocq_holds
    (few : start.requests + (count + cqs.length) < 2 ^ 16)
    (distinct : (cqs.map NvmeCqInfo.cqid).Nodup) :
    Holds (Made start count cqs []) (nvmeDeleteAllIocq faults cqs)
      fun ret t => if ret < 0 then Stopped faults start t
        else ret = 0 ∧ Made start (count + cqs.length) [] [] t := by
  apply @holds_forEach _ _ _
    (fun past later => Made start (count + past.length) later [])
    (fun _ t => Stopped faults start t)
  rintro past info later rfl s ⟨since, exactly⟩ ret t run
  rw [List.length_append, List.length_cons] at few
  rw [List.map_append] at distinct
  have ids := cqIds info (List.mem_append_right _ List.mem_cons_self)
  have outcome := nvmeDeleteIocq_cases invariant quiet (by omega)
    (fun other member => (cqIds other
      (List.mem_append_right _ (List.mem_cons_of_mem _ member))).1)
    (List.nodup_append.mp distinct).2.1 ids.1 ids.2 since exactly run
  rw [List.length_append, List.length_singleton]
  exact goes_on outcome

include sqIds

theorem nvmeCreateAllIosq_holds
    (few : start.requests + (count + sqs.length) < 2 ^ 16)
    (bound : ∀ info ∈ sqs, info.cqid < 2 ^ 16) :
    Holds (Made start count cqs []) (nvmeCreateAllIosq faults sqs)
      fun ret t => if ret < 0 then Stopped faults start t
        else ret = 0 ∧ Made start (count + sqs.length) cqs sqs t := by
  apply @holds_forEach _ _ _
    (fun past _ => Made start (count + past.length) cqs past)
    (fun _ t => Stopped faults start t)
  rintro past info later rfl s ⟨since, exactly⟩ ret t run
  rw [List.length_append, List.length_cons] at few
  have member : info ∈ past ++ info :: later :=
    List.mem_append_right _ List.mem_cons_self
  have ids := sqIds info member
  have outcome := nvmeCreateIosq_cases invariant quiet (by omega)
    (fun other member => (sqIds other (List.mem_append_left _ member)).1)
    (fun other member => (cqIds other member).1) ids.1 ids.2
    (bound info member) since exactly run
  rw [List.length_append, List.length_singleton]
  exact goes_on outcome

theorem nvmeDeleteAllIosq_holds (few : start.requests + sqs.length < 2 ^ 16)
    (distinct : (sqs.map NvmeSqInfo.sqid).Nodup) :
    Holds (Made start 0 cqs sqs) (nvmeDeleteAllIosq faults sqs)
      fun ret t => if ret < 0 then Stopped faults start t
        else ret = 0 ∧ Made start sqs.length cqs [] t := by
  apply @holds_forEach _ _ _
    (fun past later => Made start past.length cqs later)
    (fun _ t => Stopped faults start t)
  rintro past info later rfl s ⟨since, exactly⟩ ret t run
  rw [List.length_append, List.length_cons] at few
  rw [List.map_append] at distinct
  have ids := sqIds info (List.mem_append_right _ List.mem_cons_self)
  have outcome := nvmeDeleteIosq_cases (fun other member => (sqIds other
      (List.mem_append_right _ (List.mem_cons_of_mem _ member))).1)
    (fun other member => (cqIds other member).1) invariant quiet (by omega)
    (List.nodup_append.mp distinct).2.1 ids.1 ids.2 since exactly run
  rw [List.length_append, List.length_singleton]
  exact goes_on outcome

end Loops

/-! ## The statement -/

/-- The driver and the device have the planned queues, each submission queue on
a completion queue, and no others. -/
structure Ready (tables : IoqTables) (s : QueueSystem) : Prop where
  invariant : Invariant s
  quiet : Quiet s
  exactly : Exactly tables.iocqs tables.iosqs s
  served : ∀ info ∈ tables.iosqs, info.cqid ∈ s.controller.cqs
  device : ∀ type id, s.controller.has type id = true →
    createdOf s.ndev type id = some true

theorem Made.ready {tables : IoqTables}
    (made : Made start count tables.iocqs tables.iosqs s)
    (invariant : Invariant start) (quiet : Quiet start)
    (bound : ∀ info ∈ tables.iosqs,
      info.cqid ∈ tables.iocqs.map NvmeCqInfo.cqid) : Ready tables s := by
  obtain ⟨since, exactly⟩ := made
  have later := since.invariant invariant
  constructor
  · exact later
  · exact since.quiet quiet
  · exact exactly
  · intro info member
    obtain ⟨cq, there, same⟩ := List.mem_map.mp (bound info member)
    rw [← same]
    exact (exactly.cq cq there).device
  · intro type id device
    have io : id ≠ 0 := by
      rintro rfl
      rw [later.zero] at device
      cases device
    rwa [has_eq_created later (since.quiet quiet) type io, beq_iff_eq]
      at device

section Plans

variable {dev : NvmeDevInfo} {tables next : IoqTables}

/-- One interrupt for all completion queues keeps the plans creatable. -/
theorem bindSingleIrq_creatable (creatable : Creatable dev tables)
    (number : Option Nat) :
    Creatable dev (bindSingleIrq dev number tables).2 := by
  cases number with
  | none => exact creatable
  | some number =>
      unfold bindSingleIrq
      dsimp only
      split
      · exact creatable
      · refine ⟨creatable.sqids, ?_, creatable.sqSizes, ?_, creatable.bound⟩
        · rw [List.map_map]
          exact creatable.cqids
        · intro cq member
          obtain ⟨old, there, rfl⟩ := List.mem_map.mp member
          exact creatable.cqSizes old there

theorem bindSingleIrq_cases (dev : NvmeDevInfo) (number : Option Nat)
    (tables : IoqTables) :
    (bindSingleIrq dev number tables).1 = 0 ∨ number ≠ none ∧
      (dev.irqType = .none ∨ dev.nrIrq = 0) := by
  cases number with
  | none => exact .inl rfl
  | some number =>
      unfold bindSingleIrq
      dsimp only
      split
      · rename_i without
        exact .inr ⟨Option.some_ne_none number, without⟩
      · exact .inl rfl

theorem mem_range'_of_creatable {id nr : Nat}
    (member : id ∈ List.range' 1 nr) : id ≠ 0 ∧ id ≤ nr := by
  have inside := List.mem_range'_1.mp member
  omega

theorem sqIds_of_creatable (creatable : Creatable dev tables)
    (small : dev.nrSq < 2 ^ 16) :
    ∀ info ∈ tables.iosqs, info.sqid ≠ 0 ∧ info.sqid < 2 ^ 16 := by
  intro info member
  have inside := creatable.sqids ▸ List.mem_map_of_mem member
  have bounds := mem_range'_of_creatable inside
  exact ⟨bounds.1, bounds.2.trans_lt small⟩

theorem cqIds_of_creatable (creatable : Creatable dev tables)
    (small : dev.nrCq < 2 ^ 16) :
    ∀ info ∈ tables.iocqs, info.cqid ≠ 0 ∧ info.cqid < 2 ^ 16 := by
  intro info member
  have inside := creatable.cqids ▸ List.mem_map_of_mem member
  have bounds := mem_range'_of_creatable inside
  exact ⟨bounds.1, bounds.2.trans_lt small⟩

theorem served_of_creatable (creatable : Creatable dev tables) :
    ∀ info ∈ tables.iosqs, info.cqid ∈ tables.iocqs.map NvmeCqInfo.cqid := by
  intro info member
  have bounds := creatable.bound info member
  rw [creatable.cqids]
  exact List.mem_range'_1.mpr ⟨bounds.1, by omega⟩

/-- Creating the queues of plans as they are. -/
theorem createPlanned_holds (creatable : Creatable dev tables)
    (number : Option Nat) (invariant : Invariant start) (quiet : Quiet start)
    (few : start.requests + (dev.nrCq + dev.nrSq) < 2 ^ 16) :
    Holds (Made start 0 [] []) (createPlanned faults dev number tables)
      fun result t => Creatable dev result.2 ∧ SafeTurns start t ∧
        if result.1 < 0 then
          Reason faults start ∨ number ≠ none ∧
            (dev.irqType = .none ∨ dev.nrIrq = 0)
        else result.1 = 0 ∧ Ready result.2 t ∧
          t.requests ≤ start.requests + (dev.nrCq + dev.nrSq) := by
  have binding := bindSingleIrq_cases dev number tables
  have planned := bindSingleIrq_creatable creatable number
  rintro s made ⟨ret, next⟩ t run
  unfold createPlanned at run
  generalize bindSingleIrq dev number tables = bound at binding planned run
  obtain ⟨code, bound⟩ := bound
  dsimp only at binding planned run ⊢
  by_cases refused : code < 0
  · rw [if_pos refused] at run
    obtain ⟨result, rfl⟩ := run
    cases result
    rw [if_pos refused]
    refine ⟨planned, made.1.safe, .inr (binding.resolve_left ?_)⟩
    rintro rfl
    exact absurd refused (Int.lt_irrefl 0)
  rw [if_neg refused] at run
  obtain ⟨code, u, creates, run⟩ := run
  have cqLength := planned.cqLength
  have sqLength := planned.sqLength
  have cqs := nvmeCreateAllIocq_holds invariant quiet
    (cqIds_of_creatable planned (by omega)) (by omega) s made code u creates
  by_cases refused : code < 0
  · rw [if_pos refused] at run cqs
    obtain ⟨result, rfl⟩ := run
    cases result
    rw [if_pos (by decide)]
    exact ⟨planned, cqs.safe, .inl cqs.reason⟩
  rw [if_neg refused] at run cqs
  obtain ⟨code, v, creates, run⟩ := run
  have small : ∀ info ∈ bound.iosqs, info.cqid < 2 ^ 16 := by
    intro info member
    have bounds := planned.bound info member
    omega
  have sqs := nvmeCreateAllIosq_holds invariant quiet
    (sqIds_of_creatable planned (by omega))
    (cqIds_of_creatable planned (by omega)) (by omega) small u cqs.2 code v
    creates
  by_cases refused : code < 0
  · rw [if_pos refused] at run sqs
    obtain ⟨result, rfl⟩ := run
    cases result
    rw [if_pos (by decide)]
    exact ⟨planned, sqs.safe, .inl sqs.reason⟩
  rw [if_neg refused] at run sqs
  obtain ⟨result, rfl⟩ := run
  cases result
  rw [if_neg (Int.lt_irrefl 0)]
  have all := sqs.2
  rw [cqLength, sqLength] at all
  exact ⟨planned, all.1.safe, rfl, all.ready invariant quiet
    (served_of_creatable planned), all.1.requests⟩

end Plans

/--
Where no command for a queue is in flight and no I/O queue exists,
`nvme_create_all_ioq` makes the planned queues and no others, or there is a
reason.  The driver and the device agree all the time.
-/
theorem nvmeCreateAllIoq_ready {dev : NvmeDevInfo} {tables next : IoqTables}
    {sqNumbers cqNumbers : Numbers} {number : Option Nat} {ret : Int}
    (creatable : Creatable dev tables) (ready : Ready ⟨[], []⟩ s)
    (few : s.requests + (dev.nrCq + dev.nrSq) < 2 ^ 16)
    (run : nvmeCreateAllIoq faults dev sqNumbers cqNumbers number tables s
      (ret, next) t) :
    Creatable dev next ∧ Invariant t ∧ SafeTurns s t ∧
      if ret < 0 then
        Reason faults s ∨ number ≠ none ∧ (dev.irqType = .none ∨ dev.nrIrq = 0)
      else ret = 0 ∧ Ready next t ∧
        t.requests ≤ s.requests + (dev.nrCq + dev.nrSq) := by
  obtain ⟨swapped, swaps, run⟩ := run
  obtain ⟨again, also, _, planned⟩ := swap_creatable creatable sqNumbers
    cqNumbers
  rw [swaps] at also
  cases also
  obtain ⟨kept, safe, ends⟩ := createPlanned_holds planned number
    ready.invariant ready.quiet few s ⟨Since.refl s, ready.exactly⟩ (ret, next)
    t run
  exact ⟨kept, safe.invariant ready.invariant, safe, ends⟩

/-! ## Commands without faults -/

/-- Nothing goes wrong. -/
def noFaults : Faults := ⟨False, False, False⟩

/-- The device when a command is submitted and nothing fails. -/
def submittedDevice (s : QueueSystem) (cmd : Nvme64bCmd)
    (ccmd : NvmeCommonCommand) : Int × NvmeDevice :=
  match dnvmeSubmit64bCmd (.smooth (PrpReading.evenPages 1)
    PrpReading.oddPages ccmd) s.ndev cmd with
  | .ok done => done
  | .error _ => (-Errno.EPERM, s.ndev)

/-- The system after a command, when nothing fails. -/
def commanded (s : QueueSystem) (cmd : Nvme64bCmd)
    (ccmd : NvmeCommonCommand) : QueueSystem :=
  afterCommand s ccmd (submittedDevice s cmd ccmd).2
    ((s.ndev.findSq cmd.sqid).elim 0 NvmeSq.nextCid)

theorem commanded_run {cmd : Nvme64bCmd} {ccmd : NvmeCommonCommand}
    (accepted : (submittedDevice s cmd ccmd).1 = 0)
    (admin : cmd.sqid = nvmeAqId) (waiting : s.waiting = [])
    (posted : s.posted = [])
    (success : (s.controller.execute false ccmd).1 = true) :
    adminCommand faults cmd ccmd s 0 (commanded s cmd ccmd) := by
  have done : dnvmeSubmit64bCmd (.smooth (PrpReading.evenPages 1)
      PrpReading.oddPages ccmd) s.ndev cmd =
        .ok (0, (submittedDevice s cmd ccmd).2) := by
    unfold submittedDevice at accepted ⊢
    split at accepted
    · rename_i result done
      rw [done, ← accepted]
    · exact absurd accepted (show ¬ -Errno.EPERM = 0 by decide)
  exact adminCommand_run done rfl admin waiting posted success

/-! ## Two pairs of queues -/

/-- A device with two pairs of queues. -/
def pairsDev : NvmeDevInfo := ⟨2, 2, 1023, .none, 0⟩

def firstCq : NvmeCqInfo := ⟨1, 0, 0, 600, 1⟩

def secondCq : NvmeCqInfo := ⟨2, 0, 0, 512, 1⟩

def firstSq : NvmeSqInfo := ⟨1, 2, 600, .medium, 1⟩

def secondSq : NvmeSqInfo := ⟨2, 1, 512, .medium, 1⟩

/-- The plans; each submission queue is on the completion queue of the other
pair. -/
def crossedTables : IoqTables := ⟨[firstSq, secondSq], [firstCq, secondCq]⟩

/-- The plans before the swap. -/
def pairTables : IoqTables where
  iosqs := [⟨1, 1, 512, .medium, 1⟩, ⟨2, 2, 600, .medium, 1⟩]
  iocqs := [⟨1, 0, 0, 512, 1⟩, ⟨2, 0, 0, 600, 1⟩]

/-- The driver with its admin queues. -/
def adminStart : QueueSystem :=
  .start (dnvmeCreateAcq ⟨true, some 8192, true⟩ (dnvmeCreateAsq
    ⟨true, some 4096, true⟩ (.fresh 1024 false false false) 16).2 16).2

def cqPrepared (s : QueueSystem) (info : NvmeCqInfo) (dma : Nat) :
    QueueSystem :=
  { s with ndev := (dnvmePrepareCq ⟨true, some dma, true⟩ true s.ndev
    ⟨info.nrEntry, info.cqid, true, info.irqEn, info.irqNo, false⟩).2 }

def sqPrepared (s : QueueSystem) (info : NvmeSqInfo) (dma : Nat) :
    QueueSystem :=
  { s with ndev := (dnvmePrepareSq ⟨true, some dma, true⟩ s.ndev
    ⟨info.nrEntry, info.sqid, info.cqid, true, false⟩).2 }

/-- The system when a planned completion queue was made. -/
def cqMade (s : QueueSystem) (info : NvmeCqInfo) (dma : Nat) : QueueSystem :=
  commanded (cqPrepared s info dma) (adminRequest true 0 0 0) (createCqOf info)

/-- The system when a planned submission queue was made. -/
def sqMade (s : QueueSystem) (info : NvmeSqInfo) (dma : Nat) : QueueSystem :=
  commanded (sqPrepared s info dma) (adminRequest true 0 0 0) (createSqOf info)

theorem cqMade_run {info : NvmeCqInfo} {dma : Nat}
    (prepared : (dnvmePrepareCq ⟨true, some dma, true⟩ true s.ndev
      ⟨info.nrEntry, info.cqid, true, info.irqEn, info.irqNo, false⟩).1 = 0)
    (accepted : (submittedDevice (cqPrepared s info dma)
      (adminRequest true 0 0 0) (createCqOf info)).1 = 0)
    (waiting : s.waiting = []) (posted : s.posted = [])
    (success : (s.controller.execute false (createCqOf info)).1 = true) :
    nvmeCreateIocq noFaults ⟨info.cqid, info.nrEntry, info.irqNo, info.irqEn,
      true, 0, 0⟩ s 0 (cqMade s info dma) := by
  refine ⟨0, cqPrepared s info dma, ⟨fun no => absurd no (Int.lt_irrefl 0),
    .inr ⟨⟨true, some dma, true⟩, true, prepared.symm, rfl⟩⟩, ?_⟩
  dsimp only
  rw [if_neg (Int.lt_irrefl 0)]
  exact commanded_run accepted rfl waiting posted success

theorem sqMade_run {info : NvmeSqInfo} {dma : Nat}
    (prepared : (dnvmePrepareSq ⟨true, some dma, true⟩ s.ndev
      ⟨info.nrEntry, info.sqid, info.cqid, true, false⟩).1 = 0)
    (accepted : (submittedDevice (sqPrepared s info dma)
      (adminRequest true 0 0 0) (createSqOf info)).1 = 0)
    (waiting : s.waiting = []) (posted : s.posted = [])
    (success : (s.controller.execute false (createSqOf info)).1 = true) :
    nvmeCreateIosq noFaults ⟨info.sqid, info.cqid, info.nrEntry,
      nvmeSqPrioMedium, true, 0, 0⟩ s 0 (sqMade s info dma) := by
  refine ⟨0, sqPrepared s info dma, ⟨fun no => absurd no (Int.lt_irrefl 0),
    .inr ⟨⟨true, some dma, true⟩, prepared.symm, rfl⟩⟩, ?_⟩
  dsimp only
  rw [if_neg (Int.lt_irrefl 0)]
  exact commanded_run accepted rfl waiting posted success

def pairCqsMade : QueueSystem :=
  cqMade (cqMade adminStart firstCq 12288) secondCq 20480

def pairsMade : QueueSystem :=
  sqMade (sqMade pairCqsMade firstSq 32768) secondSq 40960

theorem pairCqs_run :
    nvmeCreateAllIocq noFaults [firstCq, secondCq] adminStart 0 pairCqsMade :=
  forEach_cons (cqMade_run (by decide) (by decide) rfl rfl (by decide))
    (forEach_cons (cqMade_run (by decide) (by decide) rfl rfl (by decide))
      ⟨rfl, rfl⟩)

theorem pairSqs_run :
    nvmeCreateAllIosq noFaults [firstSq, secondSq] pairCqsMade 0 pairsMade :=
  forEach_cons (sqMade_run (by decide) (by decide) rfl rfl (by decide))
    (forEach_cons (sqMade_run (by decide) (by decide) rfl rfl (by decide))
      ⟨rfl, rfl⟩)

theorem crossedPlanned_run :
    createPlanned noFaults pairsDev none crossedTables adminStart
      (0, crossedTables) pairsMade := by
  refine ⟨0, pairCqsMade, pairCqs_run, ?_⟩
  dsimp only
  rw [if_neg (Int.lt_irrefl 0)]
  refine ⟨0, pairsMade, pairSqs_run, ?_⟩
  dsimp only
  rw [if_neg (Int.lt_irrefl 0)]
  exact ⟨rfl, rfl⟩

theorem pairTables_creatable : Creatable pairsDev pairTables := by
  constructor
  · decide
  · decide
  · exact List.forall_mem_cons.mpr ⟨⟨by decide, by decide⟩,
      List.forall_mem_singleton.mpr ⟨by decide, by decide⟩⟩
  · exact List.forall_mem_cons.mpr ⟨⟨by decide, by decide⟩,
      List.forall_mem_singleton.mpr ⟨by decide, by decide⟩⟩
  · exact by decide

theorem pairTables_swapped :
    nvmeSwapIoqInfoRandom (fun _ _ => 1) (fun _ _ => 1) pairsDev pairTables =
      .ok crossedTables :=
  rfl

theorem crossedTables_creatable : Creatable pairsDev crossedTables := by
  obtain ⟨again, swaps, _, planned⟩ := swap_creatable pairTables_creatable
    (fun _ _ => 1) (fun _ _ => 1)
  cases pairTables_swapped.symm.trans swaps
  exact planned

theorem adminStart_ready : Ready ⟨[], []⟩ adminStart := by
  have first := (Invariant.start 1024 false false false).step
    (.createAsq ⟨true, some 4096, true⟩ 16) (by decide)
  constructor
  · exact first.step (.createAcq ⟨true, some 8192, true⟩ 16) (by decide)
  · exact fun _ none_ => (by cases none_)
  · constructor
    · exact fun _ none_ => (by cases none_)
    · exact fun _ none_ => (by cases none_)
    · intro id io here
      change Option.map _ ((NvmeDevice.setSq _ 0 _).findSq id) ≠ none at here
      rw [NvmeDevice.findSq_setSq_ne _ _ io] at here
      exact absurd rfl here
    · intro id io here
      change Option.map _ ((NvmeDevice.setCq _ 0 _).findCq id) ≠ none at here
      rw [NvmeDevice.findCq_setCq_ne _ _ io] at here
      exact absurd rfl here
  · exact fun _ none_ => (by cases none_)
  · intro type id device
    cases type with
    | sq => cases device
    | cq => cases device

theorem pairsCreated_run :
    nvmeCreateAllIoq noFaults pairsDev (fun _ _ => 1) (fun _ _ => 1) none
      pairTables adminStart (0, crossedTables) pairsMade :=
  ⟨crossedTables, pairTables_swapped, crossedPlanned_run⟩

/-- Two pairs of queues are made, each submission queue on the completion queue
of the other pair. -/
theorem nvmeCreateAllIoq_ready_pairs :
    Creatable pairsDev crossedTables ∧ SafeTurns adminStart pairsMade ∧
      Ready crossedTables pairsMade := by
  obtain ⟨planned, _, safe, made⟩ := nvmeCreateAllIoq_ready
    pairTables_creatable adminStart_ready (by decide) pairsCreated_run
  rw [if_neg (Int.lt_irrefl 0)] at made
  exact ⟨planned, safe, made.2.1⟩

/--
`nvme_delete_all_ioq` deletes the planned queues, after which none is left, or
there is a reason.  The driver and the device agree all the time, and no
completion queue is deleted that a submission queue uses.
-/
theorem nvmeDeleteAllIoq_ready {dev : NvmeDevInfo} {tables : IoqTables}
    {ret : Int} (creatable : Creatable dev tables) (ready : Ready tables s)
    (few : s.requests + (dev.nrSq + dev.nrCq) < 2 ^ 16)
    (run : nvmeDeleteAllIoq faults tables s ret t) :
    Invariant t ∧ SafeTurns s t ∧
      if ret < 0 then Reason faults s
      else ret = 0 ∧ Ready ⟨[], []⟩ t ∧
        t.requests ≤ s.requests + (dev.nrSq + dev.nrCq) := by
  have cqLength := creatable.cqLength
  have sqLength := creatable.sqLength
  have cqIds := cqIds_of_creatable creatable (by omega)
  obtain ⟨code, u, deletes, run⟩ := run
  have sqs := nvmeDeleteAllIosq_holds ready.invariant ready.quiet
    (sqIds_of_creatable creatable (by omega)) cqIds (by omega)
    (creatable.sqids ▸ List.nodup_range') s ⟨Since.refl s, ready.exactly⟩
    code u deletes
  by_cases refused : code < 0
  · rw [if_pos refused] at run sqs
    obtain ⟨rfl, rfl⟩ := run
    rw [if_pos (by decide)]
    exact ⟨sqs.safe.invariant ready.invariant, sqs.safe, sqs.reason⟩
  rw [if_neg refused] at run sqs
  obtain ⟨code, v, deletes, run⟩ := run
  have cqs := nvmeDeleteAllIocq_holds ready.invariant ready.quiet cqIds
    (by omega) (creatable.cqids ▸ List.nodup_range') u sqs.2 code v deletes
  by_cases refused : code < 0
  · rw [if_pos refused] at run cqs
    obtain ⟨rfl, rfl⟩ := run
    rw [if_pos (by decide)]
    exact ⟨cqs.safe.invariant ready.invariant, cqs.safe, cqs.reason⟩
  rw [if_neg refused] at run cqs
  obtain ⟨rfl, rfl⟩ := run
  rw [if_neg (Int.lt_irrefl 0)]
  have all := cqs.2
  rw [sqLength, cqLength] at all
  have clear := @Made.ready s t _ ⟨[], []⟩ all ready.invariant ready.quiet
    fun _ none_ => (by cases none_)
  exact ⟨clear.invariant, all.1.safe, rfl, clear, all.1.requests⟩

/-! The same pairs are deleted. -/

/-- The request of a delete command. -/
def deleteRequest : Nvme64bCmd :=
  { adminRequest false 0 0 0 with
    bitMask := ⟨false, false, false, false, false⟩ }

/-- The system when a queue was deleted. -/
def afterDelete (s : QueueSystem) (ccmd : NvmeCommonCommand) : QueueSystem :=
  commanded s deleteRequest ccmd

def pairSqsDeleted : QueueSystem :=
  afterDelete (afterDelete pairsMade (deleteSqCommand 1)) (deleteSqCommand 2)

def pairsDeleted : QueueSystem :=
  afterDelete (afterDelete pairSqsDeleted (deleteCqCommand 1))
    (deleteCqCommand 2)

theorem pairsDeleted_run :
    nvmeDeleteAllIoq noFaults crossedTables pairsMade 0 pairsDeleted := by
  refine ⟨0, pairSqsDeleted, forEach_cons
    (commanded_run (by decide) rfl rfl rfl (by decide)) (forEach_cons
      (commanded_run (by decide) rfl rfl rfl (by decide)) ⟨rfl, rfl⟩), ?_⟩
  dsimp only
  rw [if_neg (Int.lt_irrefl 0)]
  refine ⟨0, pairsDeleted, forEach_cons
    (commanded_run (by decide) rfl rfl rfl (by decide)) (forEach_cons
      (commanded_run (by decide) rfl rfl rfl (by decide)) ⟨rfl, rfl⟩), ?_⟩
  dsimp only
  rw [if_neg (Int.lt_irrefl 0)]
  exact ⟨rfl, rfl⟩

theorem pairsMade_ready : Ready crossedTables pairsMade := by
  obtain ⟨_, _, made⟩ := createPlanned_holds crossedTables_creatable none
    adminStart_ready.invariant adminStart_ready.quiet (by decide) adminStart
    ⟨Since.refl _, adminStart_ready.exactly⟩ (0, crossedTables) pairsMade
    crossedPlanned_run
  rw [if_neg (Int.lt_irrefl 0)] at made
  exact made.2.1

/-- And deleted. -/
theorem nvmeDeleteAllIoq_ready_pairs :
    SafeTurns pairsMade pairsDeleted ∧ Ready ⟨[], []⟩ pairsDeleted := by
  obtain ⟨_, safe, gone⟩ := nvmeDeleteAllIoq_ready crossedTables_creatable
    pairsMade_ready (by decide) pairsDeleted_run
  rw [if_neg (Int.lt_irrefl 0)] at gone
  exact ⟨safe, gone.2.1⟩

end Dnvme.Nvme.IoQueues
