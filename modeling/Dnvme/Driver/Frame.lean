import Dnvme.Driver.Ioctl

/-!
# What the helpers leave alone

One lemma for each helper and each part of the device it does not change.
Later modules never unfold a helper to see that something stayed the same.
-/

namespace Dnvme.Driver

namespace NvmeDevice

variable (ndev : NvmeDevice)

/-! ## Writing back a queue -/

@[simp]
theorem findSq_setSq (id : Nat) (sq : NvmeSq) :
    (ndev.setSq id sq).findSq id = some sq :=
  AList.lookup_insert _

theorem findSq_setSq_ne {id other : Nat} (sq : NvmeSq)
    (different : other ≠ id) :
    (ndev.setSq id sq).findSq other = ndev.findSq other :=
  AList.lookup_insert_ne different

@[simp]
theorem findCq_setSq (id other : Nat) (sq : NvmeSq) :
    (ndev.setSq id sq).findCq other = ndev.findCq other :=
  rfl

@[simp]
theorem findCq_setCq (id : Nat) (cq : NvmeCq) :
    (ndev.setCq id cq).findCq id = some cq :=
  AList.lookup_insert _

theorem findCq_setCq_ne {id other : Nat} (cq : NvmeCq)
    (different : other ≠ id) :
    (ndev.setCq id cq).findCq other = ndev.findCq other :=
  AList.lookup_insert_ne different

/-! ## Releasing pages -/

@[simp]
theorem releasePrps_sqs (prps : Option Nat) :
    (ndev.releasePrps prps).sqs = ndev.sqs := by
  cases prps <;> rfl

@[simp]
theorem releasePrps_cqs (prps : Option Nat) :
    (ndev.releasePrps prps).cqs = ndev.cqs := by
  cases prps <;> rfl

@[simp]
theorem releasePrps_irqSet (prps : Option Nat) :
    (ndev.releasePrps prps).irqSet = ndev.irqSet := by
  cases prps <;> rfl

@[simp]
theorem releasePrps_nextObject (prps : Option Nat) :
    (ndev.releasePrps prps).nextObject = ndev.nextObject := by
  cases prps <;> rfl

@[simp]
theorem releasePrps_bug (prps : Option Nat) :
    (ndev.releasePrps prps).bug = ndev.bug := by
  cases prps <;> rfl

@[simp]
theorem releaseCmds_nil : ndev.releaseCmds [] = ndev :=
  rfl

@[simp]
theorem releaseCmds_cons (cmd : NvmeCmd) (cmds : List NvmeCmd) :
    ndev.releaseCmds (cmd :: cmds) =
      (ndev.releasePrps cmd.prps).releaseCmds cmds :=
  rfl

end NvmeDevice

/-- A part of the device that releasing one set keeps is kept by releasing
many. -/
theorem releaseCmds_keeps {α : Type} (part : NvmeDevice → α)
    (keeps : ∀ ndev prps, part (NvmeDevice.releasePrps ndev prps) =
      part ndev)
    (cmds : List NvmeCmd) :
    ∀ ndev, part (NvmeDevice.releaseCmds ndev cmds) = part ndev := by
  induction cmds with
  | nil => intro ndev; rfl
  | cons cmd cmds ih =>
      intro ndev
      rw [NvmeDevice.releaseCmds_cons, ih, keeps]

namespace NvmeDevice

variable (ndev : NvmeDevice)

@[simp]
theorem releaseCmds_sqs (cmds : List NvmeCmd) :
    (ndev.releaseCmds cmds).sqs = ndev.sqs :=
  releaseCmds_keeps NvmeDevice.sqs releasePrps_sqs cmds ndev

@[simp]
theorem releaseCmds_cqs (cmds : List NvmeCmd) :
    (ndev.releaseCmds cmds).cqs = ndev.cqs :=
  releaseCmds_keeps NvmeDevice.cqs releasePrps_cqs cmds ndev

@[simp]
theorem releaseCmds_irqSet (cmds : List NvmeCmd) :
    (ndev.releaseCmds cmds).irqSet = ndev.irqSet :=
  releaseCmds_keeps NvmeDevice.irqSet releasePrps_irqSet cmds ndev

@[simp]
theorem releaseCmds_nextObject (cmds : List NvmeCmd) :
    (ndev.releaseCmds cmds).nextObject = ndev.nextObject :=
  releaseCmds_keeps NvmeDevice.nextObject releasePrps_nextObject cmds ndev

@[simp]
theorem releaseCmds_bug (cmds : List NvmeCmd) :
    (ndev.releaseCmds cmds).bug = ndev.bug :=
  releaseCmds_keeps NvmeDevice.bug releasePrps_bug cmds ndev

/-! ## Freeing a buffer -/

section FreeCqBuf

variable (useCmb : Bool)

@[simp]
theorem freeCqBuf_sqs : (ndev.freeCqBuf useCmb).sqs = ndev.sqs :=
  rfl

@[simp]
theorem freeCqBuf_cqs : (ndev.freeCqBuf useCmb).cqs = ndev.cqs :=
  rfl

@[simp]
theorem freeCqBuf_irqSet : (ndev.freeCqBuf useCmb).irqSet = ndev.irqSet :=
  rfl

@[simp]
theorem freeCqBuf_prpsHeap :
    (ndev.freeCqBuf useCmb).prpsHeap = ndev.prpsHeap :=
  rfl

@[simp]
theorem freeCqBuf_released :
    (ndev.freeCqBuf useCmb).released = ndev.released :=
  rfl

@[simp]
theorem freeCqBuf_nextObject :
    (ndev.freeCqBuf useCmb).nextObject = ndev.nextObject :=
  rfl

end FreeCqBuf

/-! ## Deleting queues and commands -/

@[simp]
theorem deleteCmd_cqs (sqId : Nat) (cmd : NvmeCmd) :
    (ndev.deleteCmd sqId cmd).cqs = ndev.cqs := by
  unfold deleteCmd
  cases ndev.findSq sqId <;> rfl

@[simp]
theorem deleteCmd_irqSet (sqId : Nat) (cmd : NvmeCmd) :
    (ndev.deleteCmd sqId cmd).irqSet = ndev.irqSet := by
  unfold deleteCmd
  cases ndev.findSq sqId <;> rfl

@[simp]
theorem deleteCmd_prpsHeap (sqId : Nat) (cmd : NvmeCmd) :
    (ndev.deleteCmd sqId cmd).prpsHeap = ndev.prpsHeap := by
  unfold deleteCmd
  cases ndev.findSq sqId <;> rfl

@[simp]
theorem deleteCmd_released (sqId : Nat) (cmd : NvmeCmd) :
    (ndev.deleteCmd sqId cmd).released = ndev.released := by
  unfold deleteCmd
  cases ndev.findSq sqId <;> rfl

@[simp]
theorem deleteCmd_nextObject (sqId : Nat) (cmd : NvmeCmd) :
    (ndev.deleteCmd sqId cmd).nextObject = ndev.nextObject := by
  unfold deleteCmd
  cases ndev.findSq sqId <;> rfl

end NvmeDevice

@[simp]
theorem dnvmeReleaseSq_sqs (ndev : NvmeDevice) (sq : NvmeSq) :
    (dnvmeReleaseSq ndev sq).sqs = ndev.sqs.erase sq.sqId := by
  unfold dnvmeReleaseSq dnvmeDeleteCmdList
  cases sq.contig <;> simp

@[simp]
theorem dnvmeReleaseSq_cqs (ndev : NvmeDevice) (sq : NvmeSq) :
    (dnvmeReleaseSq ndev sq).cqs = ndev.cqs := by
  unfold dnvmeReleaseSq dnvmeDeleteCmdList
  cases sq.contig <;> simp

@[simp]
theorem dnvmeReleaseSq_irqSet (ndev : NvmeDevice) (sq : NvmeSq) :
    (dnvmeReleaseSq ndev sq).irqSet = ndev.irqSet := by
  unfold dnvmeReleaseSq dnvmeDeleteCmdList
  cases sq.contig <;> simp

@[simp]
theorem dnvmeReleaseSq_nextObject (ndev : NvmeDevice) (sq : NvmeSq) :
    (dnvmeReleaseSq ndev sq).nextObject = ndev.nextObject := by
  unfold dnvmeReleaseSq dnvmeDeleteCmdList
  cases sq.contig <;> simp

@[simp]
theorem dnvmeReleaseSq_bug (ndev : NvmeDevice) (sq : NvmeSq) :
    (dnvmeReleaseSq ndev sq).bug = ndev.bug := by
  unfold dnvmeReleaseSq dnvmeDeleteCmdList
  cases sq.contig <;> simp

@[simp]
theorem dnvmeReleaseCq_cqs (ndev : NvmeDevice) (cq : NvmeCq) :
    (dnvmeReleaseCq ndev cq).cqs = ndev.cqs.erase cq.qId := by
  unfold dnvmeReleaseCq
  cases cq.contig <;> simp

@[simp]
theorem dnvmeReleaseCq_sqs (ndev : NvmeDevice) (cq : NvmeCq) :
    (dnvmeReleaseCq ndev cq).sqs = ndev.sqs := by
  unfold dnvmeReleaseCq
  cases cq.contig <;> simp

@[simp]
theorem dnvmeReleaseCq_irqSet (ndev : NvmeDevice) (cq : NvmeCq) :
    (dnvmeReleaseCq ndev cq).irqSet = ndev.irqSet := by
  unfold dnvmeReleaseCq
  cases cq.contig <;> simp

@[simp]
theorem dnvmeReleaseCq_nextObject (ndev : NvmeDevice) (cq : NvmeCq) :
    (dnvmeReleaseCq ndev cq).nextObject = ndev.nextObject := by
  unfold dnvmeReleaseCq
  cases cq.contig <;> simp

/-- Releasing a completion queue hits a `BUG_ON` when its buffer is in the
controller memory buffer. -/
theorem dnvmeReleaseCq_bug (ndev : NvmeDevice) (cq : NvmeCq) :
    (dnvmeReleaseCq ndev cq).bug =
      (ndev.bug || (cq.contig && cq.useCmb)) := by
  unfold dnvmeReleaseCq
  cases cq.contig with
  | true => rfl
  | false => simp

/-! ## Completions and completion queues -/

/-- Every completion queue stays as it is or goes away. -/
def CqsShrink (before after : XArray NvmeCq) : Prop :=
  ∀ id, after.lookup id = before.lookup id ∨ after.lookup id = none

theorem CqsShrink.refl (cqs : XArray NvmeCq) : CqsShrink cqs cqs :=
  fun _ => Or.inl rfl

theorem CqsShrink.trans {first second third : XArray NvmeCq}
    (one : CqsShrink first second) (two : CqsShrink second third) :
    CqsShrink first third := by
  intro id
  rcases two id with same | gone
  · rw [same]
    exact one id
  · exact Or.inr gone

theorem CqsShrink.erase (cqs : XArray NvmeCq) (key : Nat) :
    CqsShrink cqs (cqs.erase key) := by
  intro id
  by_cases equal : id = key
  · subst id
    exact Or.inr (AList.lookup_erase _ _)
  · exact Or.inl (AList.lookup_erase_ne equal)

theorem dnvmeDeleteCq_cqsShrink (ndev : NvmeDevice) (cqId : Nat) :
    CqsShrink ndev.cqs (dnvmeDeleteCq ndev cqId).cqs := by
  unfold dnvmeDeleteCq
  cases ndev.findCq cqId with
  | none => exact CqsShrink.refl _
  | some cq =>
      rw [dnvmeReleaseCq_cqs]
      exact CqsShrink.erase _ _

@[simp]
theorem dnvmeDeleteSq_cqs (ndev : NvmeDevice) (sqId : Nat) :
    (dnvmeDeleteSq ndev sqId).cqs = ndev.cqs := by
  unfold dnvmeDeleteSq
  cases ndev.findSq sqId with
  | none => rfl
  | some sq => exact dnvmeReleaseSq_cqs ndev sq

theorem handleQueueCmdCompletion_cqsShrink (ndev : NvmeDevice)
    (sqId : Nat) (cmd : NvmeCmd) (type : NvmeQueueType) (freeQueue : Bool) :
    CqsShrink ndev.cqs
      (handleQueueCmdCompletion ndev sqId cmd type freeQueue).2.cqs := by
  unfold handleQueueCmdCompletion
  split
  · rw [NvmeDevice.deleteCmd_cqs]
    exact CqsShrink.refl _
  · split
    · rw [NvmeDevice.deleteCmd_cqs]
      exact CqsShrink.refl _
    · cases type with
      | cq =>
          rw [NvmeDevice.deleteCmd_cqs]
          exact dnvmeDeleteCq_cqsShrink _ _
      | sq =>
          rw [NvmeDevice.deleteCmd_cqs, dnvmeDeleteSq_cqs]
          exact CqsShrink.refl _

theorem handleGenCmdCompletion_cqs (ndev : NvmeDevice) (sqId : Nat)
    (node : NvmeCmd) :
    (handleGenCmdCompletion ndev sqId node).2.cqs = ndev.cqs := by
  simp [handleGenCmdCompletion]

/-- A completion leaves the completion queues as they are, or deletes one. -/
theorem handleCmdCompletion_cqsShrink (ndev : NvmeDevice)
    (entry : NvmeCompletion) :
    CqsShrink ndev.cqs (handleCmdCompletion ndev entry).2.cqs := by
  unfold handleCmdCompletion
  cases ndev.findSq entry.sqId with
  | none => exact CqsShrink.refl _
  | some sq =>
      dsimp only
      cases dnvmeFindCmd sq entry.commandId with
      | none => exact CqsShrink.refl _
      | some cmd =>
          dsimp only
          split
          · unfold handleAdminCmdCompletion
            split
            · exact handleQueueCmdCompletion_cqsShrink _ _ _ _ _
            · exact handleQueueCmdCompletion_cqsShrink _ _ _ _ _
            · exact handleQueueCmdCompletion_cqsShrink _ _ _ _ _
            · exact handleQueueCmdCompletion_cqsShrink _ _ _ _ _
            · rw [handleGenCmdCompletion_cqs]
              exact CqsShrink.refl _
          · rw [handleGenCmdCompletion_cqs]
            exact CqsShrink.refl _

/-- The queue is the same after a completion, unless it is gone. -/
theorem findCq_handleCmdCompletion {ndev : NvmeDevice}
    {entry : NvmeCompletion} {cqid : Nat} {cq kept : NvmeCq}
    (found : ndev.findCq cqid = some cq)
    (survives : (handleCmdCompletion ndev entry).2.findCq cqid = some kept) :
    (handleCmdCompletion ndev entry).2.findCq cqid = some cq := by
  rcases handleCmdCompletion_cqsShrink ndev entry cqid with same | gone
  · exact same.trans found
  · exact absurd (survives.symm.trans gone) (by simp)

end Dnvme.Driver
