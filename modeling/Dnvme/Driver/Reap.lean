import Dnvme.Driver.Submit

/-!
# Scanning and reaping completion queues

This module embeds the second half of `queue.c`: the scan, the handling of
completions, the two reap paths and the inquiry, together with
`dnvme_reset_isr_flag` of `irq.c` and the reap request of `netlink.c`.

A reap runs to its end before the next step; what the device writes in between
is a step of its own.
-/

namespace Dnvme.Driver

/-! ## The scan -/

/-- The completion entry in a slot, if the slot lies in queue memory. -/
def NvmeDevice.cqSlot (ndev : NvmeDevice) (cq : NvmeCq) (slot : Nat) :
    Option NvmeCompletion :=
  if slotInside (ndev.cqSpan cq) cq.cqes slot then some (cq.entries slot)
  else none

/-- The loop of `dnvme_get_cqe_remain`: the final tail and the count. -/
def scanCqe (slot : Nat → Option NvmeCompletion) (elements : Nat) :
    (fuel tail phase remain : Nat) → Outcome (Nat × Nat)
  | 0, _, _, _ => .error .endlessLoop
  | fuel + 1, tail, phase, remain =>
      match slot tail with
      | none => .error .queueMemory
      | some entry =>
          if entry.phase = phase then
            if u16 (tail + 1) ≥ elements then
              scanCqe slot elements fuel 0 (phase ^^^ 1) (remain + 1)
            else
              scanCqe slot elements fuel (u16 (tail + 1)) phase (remain + 1)
          else
            .ok (tail, remain)

/-- The tail and the phase have `2 ^ 17` values together: a loop that makes
more turns repeats itself for ever. -/
def scanFuel : Nat := 2 ^ 17 + 1

/-- `dnvme_get_cqe_remain`: the count and the queue with its new tail. -/
def dnvmeGetCqeRemain (ndev : NvmeDevice) (cq : NvmeCq) :
    Outcome (Nat × NvmeCq) :=
  match scanCqe (ndev.cqSlot cq) cq.elements scanFuel cq.headPtr
      cq.pbitNewEntry 0 with
  | .error oops => .error oops
  | .ok (tail, remain) => .ok (remain, { cq with tailPtr := tail })

/-- The scan of the queue `cqid`, written back. -/
def NvmeDevice.scan (ndev : NvmeDevice) (cqid : Nat) (cq : NvmeCq) :
    Outcome (Nat × NvmeDevice) :=
  match dnvmeGetCqeRemain ndev cq with
  | .error oops => .error oops
  | .ok (remain, cq) => .ok (remain, ndev.setCq cqid cq)

/-! ## Handling one completion -/

/-- `enum nvme_queue_type`. -/
inductive NvmeQueueType where
  | sq
  | cq
  deriving DecidableEq, Repr

/-- `handle_queue_cmd_completion`. -/
def handleQueueCmdCompletion (ndev : NvmeDevice) (sqId : Nat)
    (cmd : NvmeCmd) (type : NvmeQueueType) (freeQueue : Bool) :
    Int × NvmeDevice :=
  if !freeQueue then
    (0, ndev.deleteCmd sqId cmd)
  else if cmd.targetQid = nvmeAqId then
    (-Errno.EINVAL, ndev.deleteCmd sqId cmd)
  else
    match type with
    | .cq => (0, (dnvmeDeleteCq ndev cmd.targetQid).deleteCmd sqId cmd)
    | .sq => (0, (dnvmeDeleteSq ndev cmd.targetQid).deleteCmd sqId cmd)

/-- `handle_gen_cmd_completion`. -/
def handleGenCmdCompletion (ndev : NvmeDevice) (sqId : Nat)
    (node : NvmeCmd) : Int × NvmeDevice :=
  (0, (ndev.releasePrps node.prps).deleteCmd sqId node)

/-- `handle_admin_cmd_completion`. -/
def handleAdminCmdCompletion (ndev : NvmeDevice) (sqId : Nat)
    (cmd : NvmeCmd) (status : Nat) : Int × NvmeDevice :=
  match adminOpcode cmd.opcode with
  | .deleteSq => handleQueueCmdCompletion ndev sqId cmd .sq (status = 0)
  | .createSq => handleQueueCmdCompletion ndev sqId cmd .sq (status ≠ 0)
  | .deleteCq => handleQueueCmdCompletion ndev sqId cmd .cq (status = 0)
  | .createCq => handleQueueCmdCompletion ndev sqId cmd .cq (status ≠ 0)
  | .other => handleGenCmdCompletion ndev sqId cmd

/-- `handle_cmd_completion`. -/
def handleCmdCompletion (ndev : NvmeDevice) (entry : NvmeCompletion) :
    Int × NvmeDevice :=
  match ndev.findSq entry.sqId with
  | none => (-Errno.EBADSLT, ndev)
  | some sq =>
      let headed := ndev.setSq entry.sqId { sq with headPtr := entry.sqHead }
      match dnvmeFindCmd sq entry.commandId with
      | none => (-Errno.EBADSLT, headed)
      | some cmd =>
          if entry.sqId = nvmeAqId then
            handleAdminCmdCompletion headed entry.sqId cmd entry.state
          else
            handleGenCmdCompletion headed entry.sqId cmd

/-! ## Copying entries -/

/-- What `copy_cq_data` leaves behind: its return value, the part of
`nr_reap` that is left, the entries the user received and the device. -/
structure CopyResult where
  ret : Int
  left : Nat
  copied : List NvmeCompletion
  ndev : NvmeDevice

/-- The slot after `slot`, by the comparison with the size of the queue. -/
def NvmeCq.nextSlot (cq : NvmeCq) (slot : Nat) : Nat :=
  if cq.size ≤ (slot + 1) * 2 ^ cq.cqes then 0 else slot + 1

/--
The loop of `copy_cq_data`, from `slot` on; `copyOk` gives the outcomes of
`copy_to_user`.  The queue object is read after each completion was handled,
so it must not have been freed by that.  A `BUG_ON` on the way shows in the
device that is left behind.
-/
def copyCqData (cqid : Nat) (copyOk : Nat → Bool) :
    (nrReap slot : Nat) → (ndev : NvmeDevice) → (copied : List NvmeCompletion)
      → Outcome CopyResult
  | 0, _, ndev, copied => .ok ⟨0, 0, copied, ndev⟩
  | nrReap + 1, slot, ndev, copied =>
      match ndev.findCq cqid with
      | none => .error .useAfterFree
      | some cq =>
          match ndev.cqSlot cq slot with
          | none => .error .queueMemory
          | some entry =>
              let (latentErr, handled) := handleCmdCompletion ndev entry
              match handled.findCq cqid with
              | none => .error .useAfterFree
              | some _ =>
                  if !copyOk copied.length then
                    .ok ⟨-Errno.EFAULT, nrReap + 1, copied, handled⟩
                  else if latentErr ≠ 0 then
                    .ok ⟨latentErr, nrReap, copied ++ [entry], handled⟩
                  else
                    copyCqData cqid copyOk nrReap (cq.nextSlot slot) handled
                      (copied ++ [entry])

/-- `copy_cq_data` from the head on, unless a `BUG_ON` is hit. -/
def copyEntries (cqid : Nat) (copyOk : Nat → Bool) (nrReap head : Nat)
    (ndev : NvmeDevice) : Outcome CopyResult :=
  match copyCqData cqid copyOk nrReap head ndev [] with
  | .error oops => .error oops
  | .ok copy => if copy.ndev.bug then .error .bug else .ok copy

theorem copyCqData_of_copyEntries {cqid nrReap head : Nat}
    {copyOk : Nat → Bool} {ndev : NvmeDevice} {copy : CopyResult}
    (done : copyEntries cqid copyOk nrReap head ndev = .ok copy) :
    copyCqData cqid copyOk nrReap head ndev [] = .ok copy := by
  unfold copyEntries at done
  split at done
  · cases done
  · rename_i copied
    split at done
    · cases done
    · cases done
      exact copied

/-- `update_cq_head`. -/
def updateCqHead (cq : NvmeCq) (numReaped : Nat) : NvmeCq :=
  let head := u32 (cq.headPtr + numReaped)
  if head ≥ cq.elements then
    { cq with
      pbitNewEntry := if cq.pbitNewEntry = 0 then 1 else 0
      headPtr := u16 (head % cq.elements)
      db := u16 (head % cq.elements) }
  else
    { cq with
      headPtr := u16 head
      db := u16 head }

/-- `update_cq_head` on the queue `cqid`. -/
def NvmeDevice.updateCqHead (ndev : NvmeDevice) (cqid numReaped : Nat) :
    NvmeDevice :=
  match ndev.findCq cqid with
  | none => ndev
  | some cq => ndev.setCq cqid (Driver.updateCqHead cq numReaped)

/-! ## Re-arming an interrupt -/

/-- The loop of `dnvme_reset_isr_flag` over the queues of an interrupt: an
error, or whether all of them are empty. -/
def scanIcqs (ndev : NvmeDevice) :
    List Nat → Outcome (Except Int Bool × NvmeDevice)
  | [] => .ok (.ok true, ndev)
  | cqId :: rest =>
      match ndev.findCq cqId with
      | none => .ok (.error (-Errno.EBADSLT), ndev)
      | some cq =>
          match ndev.scan cqId cq with
          | .error oops => .error oops
          | .ok (remain, scanned) =>
              if remain ≠ 0 then .ok (.ok false, scanned)
              else scanIcqs scanned rest

/-- `dnvme_reset_isr_flag`: the return value, whether the flag was cleared,
and the device. -/
def dnvmeResetIsrFlag (ndev : NvmeDevice) (irqNo : Nat) :
    Outcome (Int × Bool × NvmeDevice) :=
  match ndev.irqSet.findIrqNodeById irqNo with
  | none => .ok (-Errno.EINVAL, false, ndev)
  | some irq =>
      match scanIcqs ndev irq.icqList with
      | .error oops => .error oops
      | .ok (.error ret, scanned) => .ok (ret, false, scanned)
      | .ok (.ok false, scanned) => .ok (0, false, scanned)
      | .ok (.ok true, scanned) =>
          .ok (0, true, { scanned with
            irqSet := scanned.irqSet.updateIrq irqNo fun irq =>
              { irq with isrFired := false } })

/-- `dnvme_unmask_interrupt` on the device. -/
def NvmeDevice.unmask (ndev : NvmeDevice) (irqNo : Nat) : NvmeDevice :=
  { ndev with irqSet := dnvmeUnmaskInterrupt ndev.irqSet irqNo }

/-! ## The reap paths -/

/-- What a reap did: its return value, the entries the user received, the
interrupt whose flag it cleared, the interrupt it unmasked and the device. -/
structure ReapResult where
  ret : Int
  copied : List NvmeCompletion
  cleared : Option Nat
  unmasked : Option Nat
  ndev : NvmeDevice

/-- `dnvme_reap_cqe` on the queue `cqid`. -/
def dnvmeReapCqe (copyOk : Nat → Bool) (ndev : NvmeDevice)
    (cqid expect buf size : Nat) : Outcome ReapResult :=
  match ndev.findCq cqid with
  | none => .error .useAfterFree
  | some cq =>
      if expect = 0 then .ok ⟨-Errno.EINVAL, [], none, none, ndev⟩
      else if buf = 0 then .ok ⟨-Errno.EFAULT, [], none, none, ndev⟩
      else if size < u32 (expect * 2 ^ cq.cqes) then
        .ok ⟨-Errno.ENOMEM, [], none, none, ndev⟩
      else
        match copyEntries cqid copyOk expect cq.headPtr ndev with
        | .error oops => .error oops
        | .ok copy =>
            let reaped := expect - copy.left
            let moved :=
              if reaped = 0 then copy.ndev
              else copy.ndev.updateCqHead cqid reaped
            match moved.findCq cqid with
            | none => .error .useAfterFree
            | some cq =>
                match moved.scan cqid cq with
                | .error oops => .error oops
                | .ok (remain, scanned) =>
                    if ndev.irqSet.irqType ≠ .none ∧ cq.irqEnabled = 1 ∧
                        remain = 0 then
                      match dnvmeResetIsrFlag scanned cq.irqNo with
                      | .error oops => .error oops
                      | .ok (_, cleared, reset) =>
                          -- unmasked whatever the reset returned
                          .ok ⟨reaped, copy.copied,
                            if cleared then some cq.irqNo else none,
                            some cq.irqNo, reset.unmask cq.irqNo⟩
                    else
                      .ok ⟨reaped, copy.copied, none, none, scanned⟩

/-- `struct nvme_reap`, the fields that are read. -/
structure NvmeReap where
  cqid : Nat
  expect : Nat
  size : Nat
  deriving DecidableEq, Repr

/-- The outcomes of the user copies of a reap. -/
structure ReapEnv where
  copyIn : Bool
  copyEntry : Nat → Bool
  copyOut : Bool

/-- The number of entries a request has room for. -/
def NvmeReap.room (reap : NvmeReap) (cqes : Nat) : Nat :=
  if reap.expect ≠ 0 then min reap.expect (reap.size / 2 ^ cqes)
  else reap.size / 2 ^ cqes

/-- `dnvme_reap_cqe_legacy`. -/
def dnvmeReapCqeLegacy (env : ReapEnv) (ndev : NvmeDevice)
    (reap : NvmeReap) : Outcome ReapResult :=
  if !env.copyIn then .ok ⟨-Errno.EFAULT, [], none, none, ndev⟩
  else
    match ndev.findCq reap.cqid with
    | none => .ok ⟨-Errno.EBADSLT, [], none, none, ndev⟩
    | some cq =>
        match ndev.scan reap.cqid cq with
        | .error oops => .error oops
        | .ok (remain, scanned) =>
            if remain ≥ cq.elements then
              .ok ⟨-Errno.EPERM, [], none, none, scanned⟩
            else
              let wanted := min (reap.room cq.cqes) remain
              match copyEntries reap.cqid env.copyEntry wanted cq.headPtr
                  scanned with
              | .error oops => .error oops
              | .ok copy =>
                  let reaped := wanted - copy.left
                  let remained := remain - wanted + copy.left
                  if !env.copyOut then
                    .ok ⟨if copy.ret = 0 then -Errno.EFAULT else copy.ret,
                      copy.copied, none, none, copy.ndev⟩
                  else
                    let moved :=
                      if reaped = 0 then copy.ndev
                      else copy.ndev.updateCqHead reap.cqid reaped
                    if ndev.irqSet.irqType ≠ .none ∧ cq.irqEnabled = 1 ∧
                        remained = 0 then
                      match dnvmeResetIsrFlag moved cq.irqNo with
                      | .error oops => .error oops
                      | .ok (ret, cleared, reset) =>
                          if ret < 0 then
                            .ok ⟨ret, copy.copied, none, none, reset⟩
                          else
                            .ok ⟨0, copy.copied,
                              if cleared then some cq.irqNo else none,
                              some cq.irqNo, reset.unmask cq.irqNo⟩
                    else
                      .ok ⟨0, copy.copied, none, none, moved⟩

/-- The fields `reaped` and `remained` that `dnvme_reap_cqe_legacy` copies to
the user, if it comes to that. -/
def legacyReport (env : ReapEnv) (ndev : NvmeDevice) (reap : NvmeReap) :
    Option (Nat × Nat) :=
  if !env.copyIn then none
  else
    match ndev.findCq reap.cqid with
    | none => none
    | some cq =>
        match ndev.scan reap.cqid cq with
        | .error _ => none
        | .ok (remain, scanned) =>
            if remain ≥ cq.elements then none
            else
              let wanted := min (reap.room cq.cqes) remain
              match copyEntries reap.cqid env.copyEntry wanted cq.headPtr
                  scanned with
              | .error _ => none
              | .ok copy =>
                  if !env.copyOut then none
                  else
                    some (wanted - copy.left, remain - wanted + copy.left)

/-- `dnvme_gnl_cmd_reap_cqe` after its attributes were read.  Of the scans of
its wait loop only the last one decides. -/
def dnvmeGnlCmdReapCqe (copyOk : Nat → Bool) (ndev : NvmeDevice)
    (cqid expect buf size : Nat) : Outcome ReapResult :=
  match ndev.findCq cqid with
  | none => .ok ⟨-Errno.ENOENT, [], none, none, ndev⟩
  | some cq =>
      match ndev.scan cqid cq with
      | .error oops => .error oops
      | .ok (actual, scanned) =>
          if actual ≥ expect then
            dnvmeReapCqe copyOk scanned cqid expect buf size
          else if actual > 0 then
            dnvmeReapCqe copyOk scanned cqid actual buf size
          else
            .ok ⟨-Errno.ETIMEDOUT, [], none, none, scanned⟩

/-- `dnvme_inquiry_cqe`: the return value, the count and the device. -/
def dnvmeInquiryCqe (copyIn copyOut : Bool) (ndev : NvmeDevice)
    (cqid : Nat) : Outcome (Int × Nat × NvmeDevice) :=
  if !copyIn then .ok (-Errno.EFAULT, 0, ndev)
  else
    match ndev.findCq cqid with
    | none => .ok (-Errno.EINVAL, 0, ndev)
    | some cq =>
        match ndev.scan cqid cq with
        | .error oops => .error oops
        | .ok (remain, scanned) =>
            if !copyOut then .ok (-Errno.EFAULT, 0, scanned)
            else if remain ≥ cq.elements then
              .ok (-Errno.EPERM, remain, scanned)
            else
              .ok (0, remain, scanned)

end Dnvme.Driver
