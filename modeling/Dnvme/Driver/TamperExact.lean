import Dnvme.Driver.Tamper
import Dnvme.Driver.CommandId

/-!
# What tampering changes

`ut_modify_cmd_prp` asks for the entry of a command, replaces its two PRP
fields and writes it back.  The answer to the first request is only as long as
a pointer, so the entry never reaches the user: what is written back is an
all-zero entry with the two fields set.  It is the original entry with the
fields replaced exactly when everything else in that entry was zero.
-/

namespace Dnvme.Driver.TamperExact

open Dnvme.Driver

/-- The device with one entry of a submission queue replaced, and nothing
else. -/
def withEntry (ndev : NvmeDevice) (sqid slot : Nat) (sq : NvmeSq)
    (entry : NvmeCommonCommand) : NvmeDevice :=
  ndev.setSq sqid
    { sq with entries := Function.update sq.entries slot entry }

/-- The entry with its two PRP fields replaced. -/
def withPrps (entry : NvmeCommonCommand) (prp1 prp2 : Nat) :
    NvmeCommonCommand :=
  { entry with dptr := ⟨prp1, prp2⟩ }

/-- The inquiry answers with the first eight bytes of the request. -/
theorem dnvmeTamperCmdInquiry_ok {env : TamperEnv} {ndev next : NvmeDevice}
    {tamper : NvmeCmdTamper} {utamper answer : UserTamper} {ret : Int}
    (done : dnvmeTamperCmdInquiry env ndev tamper utamper =
      .ok (ret, answer, next)) (success : 0 ≤ ret) :
    next = ndev ∧
      answer =
        { utamper with
          tamper := tamper.copyBytes sizeofTamperPtr utamper.tamper } := by
  rw [dnvmeTamperCmdInquiry] at done
  cases queue : ndev.findSq tamper.sqid with
  | none => simp [queue] at done
  | some sq =>
      cases command : dnvmeFindCmd sq tamper.cid with
      | none =>
          simp only [queue, command, Except.ok.injEq, Prod.mk.injEq] at done
          rw [← done.1] at success
          exact absurd success (by decide)
      | some cmd =>
          simp only [queue, command, dnvmeTamperCmdFetchCmd] at done
          split at done
          · cases copied : env.copyOut with
            | false =>
                simp only [copied, bind, Except.bind, Bool.not_false, if_true,
                  pure, Except.pure, Except.ok.injEq, Prod.mk.injEq] at done
                rw [← done.1] at success
                exact absurd success (by decide)
            | true =>
                simp only [copied, bind, Except.bind, Bool.not_true,
                  Bool.false_eq_true, if_false, pure, Except.pure,
                  Except.ok.injEq, Prod.mk.injEq] at done
                obtain ⟨_, rfl, rfl⟩ := done
                exact ⟨rfl, rfl⟩
          · simp [bind, Except.bind] at done

/-- A request that modifies no list writes the entry it carries. -/
theorem dnvmeTamperCmdModify_ok {env : TamperEnv} {ndev next : NvmeDevice}
    {tamper : NvmeCmdTamper} {utamper answer : UserTamper} {ret : Int}
    {sq : NvmeSq} {cmd : NvmeCmd}
    (queue : ndev.findSq tamper.sqid = some sq)
    (command : dnvmeFindCmd sq tamper.cid = some cmd)
    (noPrpList : tamper.mdfPrpList = false)
    (noSglSeg : tamper.mdfSglSeg = false)
    (done : dnvmeTamperCmdModify env ndev tamper utamper =
      .ok (ret, answer, next)) (success : 0 ≤ ret) :
    next = withEntry ndev tamper.sqid cmd.idx sq tamper.cmd := by
  simp only [dnvmeTamperCmdModify, queue, command, noPrpList, noSglSeg,
    Bool.false_and, Bool.false_eq_true, if_false] at done
  split at done
  · simp only [Except.ok.injEq, Prod.mk.injEq] at done
    rw [← done.1] at success
    exact absurd success (by decide)
  split at done
  · simp only [Except.ok.injEq, Prod.mk.injEq] at done
    rw [← done.1] at success
    exact absurd success (by decide)
  split at done
  · simp only [Except.ok.injEq, Prod.mk.injEq] at done
    rw [← done.1] at success
    exact absurd success (by decide)
  · simp only [dnvmeTamperCmdModifyCmd, queue] at done
    split at done
    · simp only [bind, Except.bind, pure, Except.pure, Except.ok.injEq,
        Prod.mk.injEq] at done
      exact done.2.2.symm
    · simp [bind, Except.bind] at done

/-- What `ut_modify_cmd_prp` leaves when both requests succeed. -/
theorem utModifyCmdPrp_ok {inquiry modify : TamperEnv}
    {ndev next : NvmeDevice} {sqid cid prp1 prp2 : Nat} {sq : NvmeSq}
    {cmd : NvmeCmd} (queue : ndev.findSq sqid = some sq)
    (command : dnvmeFindCmd sq cid = some cmd)
    (done : utModifyCmdPrp inquiry modify ndev sqid cid prp1 prp2 =
      .ok (0, next)) :
    next = withEntry ndev sqid cmd.idx sq (withPrps .zero prp1 prp2) := by
  simp only [utModifyCmdPrp, bind, Except.bind] at done
  split at done
  · cases done
  rename_i first answered
  obtain ⟨ret, answer, inquired⟩ := first
  simp only at done
  split at done
  · rename_i negative
    simp only [pure, Except.pure, Except.ok.injEq, Prod.mk.injEq] at done
    omega
  rename_i nonnegative
  split at done
  · cases done
  rename_i second modified
  obtain ⟨ret', answer', changed⟩ := second
  simp only at done
  split at done
  · simp only [pure, Except.pure, Except.ok.injEq, Prod.mk.injEq] at done
    omega
  rename_i nonnegative'
  simp only [pure, Except.pure, Except.ok.injEq, Prod.mk.injEq,
    true_and] at done
  subst done
  rw [dnvmeTamperCmd] at answered modified
  split at answered
  · simp only [Except.ok.injEq, Prod.mk.injEq] at answered
    rw [← answered.1] at nonnegative
    exact absurd (by decide) nonnegative
  split at modified
  · simp only [Except.ok.injEq, Prod.mk.injEq] at modified
    rw [← modified.1] at nonnegative'
    exact absurd (by decide) nonnegative'
  simp only [if_true] at answered
  obtain ⟨rfl, rfl⟩ := dnvmeTamperCmdInquiry_ok answered (by omega)
  exact dnvmeTamperCmdModify_ok queue command rfl rfl modified (by omega)

theorem withEntry_inj {ndev : NvmeDevice} {sqid slot : Nat} {sq : NvmeSq}
    {first second : NvmeCommonCommand} :
    withEntry ndev sqid slot sq first = withEntry ndev sqid slot sq second ↔
      first = second := by
  constructor
  · intro same
    have queues := congrArg (fun ndev => ndev.findSq sqid) same
    simp only [withEntry, NvmeDevice.findSq, NvmeDevice.setSq,
      AList.lookup_insert, Option.some.injEq] at queues
    have entries := congrArg (fun sq => sq.entries slot) queues
    simpa using entries
  · rintro rfl
    rfl

theorem withPrps_zero_iff (entry : NvmeCommonCommand) (prp1 prp2 : Nat) :
    withPrps .zero prp1 prp2 = withPrps entry prp1 prp2 ↔
      withPrps entry 0 0 = .zero := by
  simp only [withPrps, NvmeCommonCommand.zero, NvmeCommonCommand.mk.injEq,
    true_and]
  grind

/--
Tampering replaces the two PRP fields of an outstanding command and nothing
else exactly when all other fields of its entry are zero.
-/
theorem tamper_exact_iff {inquiry modify : TamperEnv}
    {ndev next : NvmeDevice} {sqid cid prp1 prp2 : Nat} {sq : NvmeSq}
    {cmd : NvmeCmd} (queue : ndev.findSq sqid = some sq)
    (command : dnvmeFindCmd sq cid = some cmd)
    (done : utModifyCmdPrp inquiry modify ndev sqid cid prp1 prp2 =
      .ok (0, next)) :
    next = withEntry ndev sqid cmd.idx sq
        (withPrps (sq.entries cmd.idx) prp1 prp2) ↔
      withPrps (sq.entries cmd.idx) 0 0 = .zero := by
  rw [utModifyCmdPrp_ok queue command done, withEntry_inj, withPrps_zero_iff]

/-- No external call of a request fails. -/
def smoothTamper : TamperEnv := ⟨true, true, true, true, fun _ => 0⟩

/-- A queue whose outstanding command is a zero entry: a flush of namespace 0
with identifier 0. -/
def flushQueue : NvmeSq :=
  { CommandId.waitingQueue 1 with entries := fun _ => .zero }

theorem tamper_exact_flush :
    utModifyCmdPrp smoothTamper smoothTamper
        ((CommandId.waitingDevice 1).setSq 0 flushQueue) 0 0 4096 8192 =
      .ok (0, withEntry ((CommandId.waitingDevice 1).setSq 0 flushQueue) 0 0
        flushQueue (withPrps .zero 4096 8192)) := by
  obtain ⟨next, done⟩ : ∃ next, utModifyCmdPrp smoothTamper smoothTamper
      ((CommandId.waitingDevice 1).setSq 0 flushQueue) 0 0 4096 8192 =
        .ok (0, next) := ⟨_, rfl⟩
  have exactly := (@tamper_exact_iff _ _ _ _ _ _ _ _ flushQueue
    CommandId.firstNode rfl rfl done).mpr rfl
  rw [done, exactly]
  rfl

/-- The opcode of an outstanding request for events is lost. -/
theorem tamper_clears_the_entry :
    Reachable (fun _ _ _ => True) (CommandId.waitingDevice 1) ∧
      ∃ next, utModifyCmdPrp smoothTamper smoothTamper
          (CommandId.waitingDevice 1) 0 0 4096 8192 = .ok (0, next) ∧
        next ≠ withEntry (CommandId.waitingDevice 1) 0 0
          (CommandId.waitingQueue 1)
          (withPrps ((CommandId.waitingQueue 1).entries 0) 4096 8192) := by
  obtain ⟨next, done⟩ : ∃ next, utModifyCmdPrp smoothTamper smoothTamper
      (CommandId.waitingDevice 1) 0 0 4096 8192 = .ok (0, next) := ⟨_, rfl⟩
  refine ⟨CommandId.waitingDevice_one _ trivial, next, done, fun same => ?_⟩
  have written := @utModifyCmdPrp_ok _ _ _ _ _ _ _ _
    (CommandId.waitingQueue 1) CommandId.firstNode rfl rfl done
  have opcodes := withEntry_inj.mp (written.symm.trans same)
  exact absurd (congrArg NvmeCommonCommand.opcode opcodes) (by decide)

end Dnvme.Driver.TamperExact
