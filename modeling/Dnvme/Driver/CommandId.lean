import Dnvme.Driver.Effect
import Dnvme.Driver.PrpReading

/-!
# Identifiers of outstanding commands

`next_cid` counts modulo `2 ^ 16` and is never compared with the commands that
are still in the list of the queue.  In every run in which it does not come
round to one of them the identifiers in a list are different, and
`dnvme_find_cmd` returns the one command a completion can mean.
-/

namespace Dnvme.Driver.CommandId

/-- The identifiers of the outstanding commands of a queue. -/
def cids (sq : NvmeSq) : List Nat :=
  sq.cmdList.map NvmeCmd.cid

/-- `next_cid` of a queue with a free slot is not outstanding. -/
def NextCidFree : SubmitRule := fun ndev _ cmd =>
  ∀ sq, ndev.findSq cmd.sqid = some sq → dnvmeSqIsFull sq = false →
    dnvmeFindCmd sq sq.nextCid = none

/-- No two outstanding commands of a queue have the same identifier. -/
def CidsNodup (ndev : NvmeDevice) : Prop :=
  ∀ id sq, ndev.findSq id = some sq → (cids sq).Nodup

/-- Identifiers are unique, and each of them finds its command. -/
structure CidsUnique (ndev : NvmeDevice) : Prop where
  nodup : CidsNodup ndev
  finds : ∀ id sq, ndev.findSq id = some sq → ∀ cmd ∈ sq.cmdList,
    dnvmeFindCmd sq cmd.cid = some cmd

/-! ## Lists of commands -/

theorem dnvmeFindCmd_eq_none_iff {sq : NvmeSq} {cid : Nat} :
    dnvmeFindCmd sq cid = none ↔ cid ∉ cids sq := by
  simp [dnvmeFindCmd, cids]

/-- With different identifiers the first match is the only one. -/
theorem dnvmeFindCmd_of_mem {sq : NvmeSq} {cmd : NvmeCmd}
    (nodup : (cids sq).Nodup) (member : cmd ∈ sq.cmdList) :
    dnvmeFindCmd sq cmd.cid = some cmd := by
  cases result : dnvmeFindCmd sq cmd.cid with
  | none =>
      have absent := dnvmeFindCmd_eq_none_iff.mp result
      exact absurd (List.mem_map_of_mem member) absent
  | some other =>
      have here := mem_of_dnvmeFindCmd result
      have equal : other.cid = cmd.cid := by
        have found := List.find?_some result
        simpa using found
      exact congrArg some
        (List.inj_on_of_nodup_map nodup here member equal)

theorem CidsNodup.unique {ndev : NvmeDevice} (nodup : CidsNodup ndev) :
    CidsUnique ndev where
  nodup := nodup
  finds id _ found _ member := dnvmeFindCmd_of_mem (nodup id _ found) member

/-! ## Effects -/

section Effects

variable {ndev next : NvmeDevice}

theorem cids_createdSq (env : SubmitEnv) (cmd : Nvme64bCmd)
    (ccmd : NvmeCommonCommand) (object : Nat) (paged : Bool) (id : Nat)
    (sq : NvmeSq) :
    cids (createdSq env cmd ccmd object paged id sq) = cids sq := by
  unfold createdSq
  split
  · split <;> rfl
  · rfl

theorem cids_enqueued (filled : NvmeCommonCommand) (node : NvmeCmd)
    (sq : NvmeSq) : cids (enqueued filled node sq) = cids sq ++ [node.cid] := by
  simp [cids, enqueued]

/-- An accepted submission adds one identifier to one queue. -/
theorem cids_submitted {env : SubmitEnv} {cmd : Nvme64bCmd} {sq : NvmeSq}
    {ccmd filled : NvmeCommonCommand} {prps : Option NvmePrps}
    (accepted : Submitted env cmd ndev next sq ccmd filled prps) {id : Nat}
    {later : NvmeSq} (found : next.findSq id = some later) :
    (id = cmd.sqid ∧ cids later = cids sq ++ [sq.nextCid]) ∨
      (id ≠ cmd.sqid ∧ ∃ before, ndev.findSq id = some before ∧
        cids later = cids before) := by
  rw [accepted.findSq] at found
  rcases Option.map_eq_some_iff.mp found with ⟨before, here, equal⟩
  by_cases target : id = cmd.sqid
  · left
    subst target
    rw [accepted.found] at here
    cases here
    rw [if_pos rfl] at equal
    rw [← equal, cids_enqueued, cids_createdSq]
    exact ⟨rfl, rfl⟩
  · right
    rw [if_neg target] at equal
    refine ⟨target, before, here, ?_⟩
    rw [← equal, cids_createdSq]

/-- An accepted submission keeps identifiers different exactly when the next
one was free. -/
theorem CidsNodup.submit_iff {env : SubmitEnv} {cmd : Nvme64bCmd}
    {sq : NvmeSq} {ccmd filled : NvmeCommonCommand} {prps : Option NvmePrps}
    (nodup : CidsNodup ndev)
    (accepted : Submitted env cmd ndev next sq ccmd filled prps) :
    CidsNodup next ↔ dnvmeFindCmd sq sq.nextCid = none := by
  rw [dnvmeFindCmd_eq_none_iff]
  constructor
  · intro after
    have found := accepted.findSq cmd.sqid
    rw [accepted.found, Option.map_some] at found
    rcases cids_submitted accepted found with ⟨_, equal⟩ | ⟨other, _⟩
    · have distinct := after _ _ found
      rw [equal, List.nodup_append] at distinct
      intro member
      exact distinct.2.2 _ member _ (List.mem_singleton_self _) rfl
    · exact absurd rfl other
  · intro free id later found
    rcases cids_submitted accepted found with
      ⟨_, equal⟩ | ⟨_, before, here, equal⟩
    · rw [equal, List.nodup_append]
      refine ⟨nodup _ _ accepted.found, List.nodup_singleton _, ?_⟩
      intro cid member other listed same
      rw [List.mem_singleton] at listed
      exact free (by rwa [← listed, ← same])
    · rw [equal]
      exact nodup _ _ here

/-- Taking a command out of a list keeps identifiers different. -/
theorem CidsNodup.deleteCmd (nodup : CidsNodup ndev) (key : Nat)
    (cmd : NvmeCmd) : CidsNodup (ndev.deleteCmd key cmd) := by
  intro id sq found
  rw [findSq_deleteCmd] at found
  rcases Option.map_eq_some_iff.mp found with ⟨before, here, rfl⟩
  have distinct := nodup id before here
  split
  · exact distinct.sublist ((List.eraseP_sublist).map NvmeCmd.cid)
  · exact distinct

theorem CidsNodup.of_sqs_eq (nodup : CidsNodup ndev)
    (same : next.sqs = ndev.sqs) : CidsNodup next := by
  intro id sq found
  rw [findSq_of_sqs_eq same] at found
  exact nodup id sq found

theorem CidsNodup.setSq (nodup : CidsNodup ndev) (id : Nat) {sq : NvmeSq}
    (distinct : (cids sq).Nodup) : CidsNodup (ndev.setSq id sq) := by
  intro other queue found
  rcases findSq_setSq_cases found with ⟨_, rfl⟩ | ⟨_, here⟩
  · exact distinct
  · exact nodup other queue here

theorem CidsNodup.effect (effect : Effect NextCidFree ndev next)
    (nodup : CidsNodup ndev) : CidsNodup next := by
  cases effect with
  | quiet same =>
      intro id sq found
      rw [same.findSq] at found
      exact nodup id sq found
  | sqData id found kept =>
      refine nodup.setSq id ?_
      rw [cids, kept.cmdList]
      exact nodup id _ found
  | cqData id found kept => exact nodup.of_sqs_eq rfl
  | newSq prep dma absent elements =>
      exact nodup.setSq prep.sqId List.nodup_nil
  | newCq prep dma absent elements => exact nodup.of_sqs_eq rfl
  | dropSq found =>
      intro id queue still
      exact nodup id queue (findSq_dnvmeReleaseSq still).2
  | dropCq found => exact nodup.of_sqs_eq (dnvmeReleaseCq_sqs _ _)
  | clearList id found =>
      refine CidsNodup.setSq (nodup.of_sqs_eq ?_) id List.nodup_nil
      exact NvmeDevice.releaseCmds_sqs _ _
  | complete id found member general =>
      refine CidsNodup.deleteCmd (nodup.of_sqs_eq ?_) id _
      exact NvmeDevice.releasePrps_sqs _ _
  | forget found member special => exact nodup.deleteCmd _ _
  | submit accepted meets =>
      rw [nodup.submit_iff accepted]
      exact meets _ accepted.found accepted.notFull

end Effects

/-! ## Runs -/

theorem CidsNodup.fresh (qDepth : Nat) (capCqr cmbSqs cmbCqs : Bool) :
    CidsNodup (NvmeDevice.fresh qDepth capCqr cmbSqs cmbCqs) :=
  fun _ _ found => by cases found

/-- Runs whose submissions find `next_cid` free keep identifiers unique, and
an accepted submission that does not find it free is the one that breaks
this. -/
theorem cids_unique {ndev : NvmeDevice}
    (reachable : Reachable NextCidFree ndev) :
    CidsUnique ndev ∧ ∀ env cmd next,
      dnvmeSubmit64bCmd env ndev cmd = .ok (0, next) →
        (CidsUnique next ↔ NextCidFree ndev env cmd) := by
  have nodup : CidsNodup ndev :=
    reachable.invariant (fun _ _ _ _ _ => CidsNodup.fresh _ _ _ _)
      CidsNodup.effect
  refine ⟨nodup.unique, fun env cmd next done => ?_⟩
  rcases dnvmeSubmit64bCmd_cases done with
    ⟨fails, _⟩ | ⟨_, sq, ccmd, filled, prps, accepted⟩
  · exact absurd fails (by decide)
  · have exactly := nodup.submit_iff accepted
    constructor
    · intro unique other found _
      rw [accepted.found] at found
      cases found
      exact exactly.mp unique.nodup
    · intro free
      refine (exactly.mpr ?_).unique
      exact free sq accepted.found accepted.notFull

/-! ## An event request that stays outstanding -/

/-- An admin submission queue with three slots. -/
def adminQueue : NvmeSq :=
  NvmePrepSq.queue ⟨3, 0, 0, true, false⟩ nvmeSqes 4096

/-- An asynchronous event request; it may never complete. -/
def eventRequest : NvmeCommonCommand :=
  { NvmeCommonCommand.zero with opcode := 0x0c }

/-- Nothing fails. -/
def eventEnv : SubmitEnv :=
  .smooth (PrpReading.evenPages 1) PrpReading.oddPages eventRequest

/-- The request on the admin queue, with or without a metadata buffer; there
is no metadata buffer 7. -/
def eventCmd (mptr : Bool) : Nvme64bCmd :=
  ⟨0, 0, 8, ⟨false, false, false, false, mptr⟩, 0, 0, 0, 7, 0⟩

/-- The node of the first request. -/
def firstNode : NvmeCmd := ⟨0, 0, 0, 0, 0, 0x0c, none⟩

/-- The admin queue with the first request and the next identifier `cid`. -/
def waitingQueue (cid : Nat) : NvmeSq :=
  { adminQueue with
    cmdList := [firstNode]
    nextCid := cid
    tailPtrVirt := 1
    entries := Function.update adminQueue.entries 0 eventRequest }

/-- The device with that queue. -/
def waitingDevice (cid : Nat) : NvmeDevice :=
  { (NvmeDevice.fresh 64 false false false).setSq 0 (waitingQueue cid) with
    nextObject := 1 }

theorem waitingDevice_one (rule : SubmitRule)
    (meets : rule ((NvmeDevice.fresh 64 false false false).setSq 0 adminQueue)
      eventEnv (eventCmd false)) :
    Reachable rule (waitingDevice 1) := by
  have first : Step rule (NvmeDevice.fresh 64 false false false)
      ((NvmeDevice.fresh 64 false false false).setSq 0 adminQueue) :=
    ⟨.createAsq ⟨true, some 4096, true⟩ 3, 0,
      (fun _ _ other => by cases other), rfl⟩
  have second : Step rule
      ((NvmeDevice.fresh 64 false false false).setSq 0 adminQueue)
      (waitingDevice 1) := by
    refine ⟨.submit64bCmd eventEnv (eventCmd false), 0, ?_, rfl⟩
    intro env cmd equal
    cases equal
    exact meets
  exact ⟨64, false, false, false, by decide,
    (Relation.ReflTransGen.single first).tail second⟩

/-- A request with an unknown metadata buffer is refused, and takes an
identifier. -/
theorem waitingDevice_refuses (cid : Nat) :
    step (waitingDevice cid) (.submit64bCmd eventEnv (eventCmd true)) =
      .ok (-Errno.EINVAL, waitingDevice (u16 (cid + 1))) :=
  rfl

theorem waitingDevice_reachable (count : Nat) :
    Reachable (fun _ _ _ => True) (waitingDevice (u16 (1 + count))) := by
  induction count with
  | zero => exact waitingDevice_one _ trivial
  | succ count ih =>
      rcases ih with ⟨qDepth, capCqr, cmbSqs, cmbCqs, bound, run⟩
      refine ⟨qDepth, capCqr, cmbSqs, cmbCqs, bound, run.tail ?_⟩
      have next : u16 (u16 (1 + count) + 1) = u16 (1 + (count + 1)) := by
        unfold u16
        omega
      rw [← next]
      exact ⟨.submit64bCmd eventEnv (eventCmd true), -Errno.EINVAL,
        fun _ _ _ => trivial, waitingDevice_refuses _⟩

/-- An identifier is given out a second time after `2 ^ 16` requests. -/
theorem cids_repeat_after_wrap :
    ¬ ∀ ndev, Reachable (fun _ _ _ => True) ndev → CidsUnique ndev := by
  intro all
  rcases waitingDevice_reachable (2 ^ 16 - 1) with
    ⟨qDepth, capCqr, cmbSqs, cmbCqs, bound, run⟩
  have wrapped : u16 (1 + (2 ^ 16 - 1)) = 0 := by decide
  rw [wrapped] at run
  have done : ∃ next, dnvmeSubmit64bCmd eventEnv (waitingDevice 0)
      (eventCmd false) = .ok (0, next) := ⟨_, rfl⟩
  rcases done with ⟨next, done⟩
  have reachable : Reachable (fun _ _ _ => True) next :=
    ⟨qDepth, capCqr, cmbSqs, cmbCqs, bound, run.tail
      ⟨.submit64bCmd eventEnv (eventCmd false), 0, fun _ _ _ => trivial,
        done⟩⟩
  have unique := all next reachable
  rcases dnvmeSubmit64bCmd_cases done with
    ⟨fails, _⟩ | ⟨_, sq, ccmd, filled, prps, accepted⟩
  · exact absurd fails (by decide)
  obtain rfl : waitingQueue 0 = sq := Option.some.inj accepted.found
  have found := accepted.findSq 0
  rcases cids_submitted accepted found with ⟨_, equal⟩ | ⟨other, _⟩
  · have distinct := unique.nodup _ _ found
    rw [equal] at distinct
    exact absurd distinct (by decide)
  · exact absurd rfl other

/-- The node of a second request. -/
def secondNode : NvmeCmd := ⟨1, 1, 0, 0, 1, 0x0c, none⟩

/-- Two requests with free identifiers are outstanding. -/
theorem cids_unique_waiting :
    ∃ ndev sq, Reachable NextCidFree ndev ∧ CidsUnique ndev ∧
      ndev.findSq 0 = some sq ∧ sq.cmdList = [firstNode, secondNode] ∧
      dnvmeFindCmd sq 0 = some firstNode ∧
      dnvmeFindCmd sq 1 = some secondNode := by
  have first : Reachable NextCidFree (waitingDevice 1) := by
    refine waitingDevice_one _ ?_
    intro sq found _
    cases found
    rfl
  have free : ∀ env cmd, Op.submit64bCmd eventEnv (eventCmd false) =
      .submit64bCmd env cmd → NextCidFree (waitingDevice 1) env cmd := by
    rintro env cmd equal sq found _
    cases equal
    cases found
    rfl
  have second := first.next _ free rfl
  have unique := (cids_unique second).1
  exact ⟨_, _, second, unique, rfl, rfl,
    unique.finds 0 _ rfl firstNode (by decide),
    unique.finds 0 _ rfl secondNode (by decide)⟩

end Dnvme.Driver.CommandId
