import Mathlib

/-!
# The read/write/copy consistency test

This module embeds the `rwcvc` part of `case_rw_consistency.c`: a round submits
randomly chosen write, read, compare, verify and copy commands for two ranges
of logical blocks, waits for their completions and replays the recorded
commands in a table of two buffers to check what the reads returned.

The calls into the library are outcomes of a round.  The random numbers are one
stream; a round carries the number of values drawn from it.  A buffer is the
list of its blocks; a pointer in the table is the buffer it points at, and
`NULL` is `none`.
-/

namespace Dnvme.App

/-! ## Buffers and groups -/

/-- `DEF_CMD_NUM`. -/
def defCmdNum : Nat := 512

/-- `DEF_WRITE_SIZE`. -/
def defWriteSize : Nat := 4096

/-- A block size that passes `BUG_ON(DEF_WRITE_SIZE % lbads)`. -/
structure LbaFormat where
  lbads : Nat
  positive : 0 < lbads
  divides : defWriteSize % lbads = 0

/-- The blocks of one range, `DEF_WRITE_SIZE / lbads`. -/
def LbaFormat.nlb (format : LbaFormat) : Nat :=
  defWriteSize / format.lbads

theorem LbaFormat.nlb_pos (format : LbaFormat) : 0 < format.nlb := by
  have divisor : format.lbads ∣ defWriteSize :=
    Nat.dvd_of_mod_eq_zero format.divides
  exact Nat.div_pos (Nat.le_of_dvd (by decide) divisor) format.positive

/-- `DEF_WRITE_SIZE` bytes, block by block. -/
abbrev Buf (Block : Type) (format : LbaFormat) := Fin format.nlb → Block

/-- `struct cmd_group`. -/
structure CmdGroup (Block : Type) (format : LbaFormat) where
  readBuf : Buf Block format
  readPart : Nat
  writeBuf : Buf Block format
  writePart : Nat
  copySlba : Nat
  copyEntrySlba : Nat
  copyEntryNlb : Nat
  copySrcPart : Nat
  copyDstPart : Nat
  submitIoRead : Bool
  submitIoWrite : Bool
  submitIoCompare : Bool
  submitIoVerify : Bool
  submitIoCopy : Bool

/-- `struct cmd_set`. -/
structure CmdSet (Block : Type) (format : LbaFormat) where
  nrUsedGrp : Nat
  nrSubmitCmd : Nat
  grp : List (CmdGroup Block format)

variable {Block : Type} {format : LbaFormat}

/-- `cmd_group_alloc` followed by `cmd_group_init_buffer`; `read` is what the
memory of the read buffer holds. -/
def cmdGroupAlloc (read write : Buf Block format) : CmdGroup Block format :=
  ⟨read, 0, write, 0, 0, 0, 0, 0, 0, false, false, false, false, false⟩

/-- `cmd_set_alloc` followed by `cmd_set_init_buffer`. -/
def cmdSetAlloc (buffers : List (Buf Block format × Buf Block format)) :
    CmdSet Block format :=
  ⟨0, 0, buffers.map fun pair => cmdGroupAlloc pair.1 pair.2⟩

/-! ## The device -/

/-- What the logical blocks hold. -/
abbrev Media (Block : Type) := Nat → Block

/-- A submitted command.  A write or compare command carries the contents of
its buffer, which never change; a read command names the group whose read
buffer it fills. -/
inductive Cmd (Block : Type) (format : LbaFormat) where
  | write (slba : Nat) (data : Buf Block format)
  | read (slba group : Nat)
  | compare (slba : Nat) (data : Buf Block format)
  | verify (slba nlb : Nat)
  | copy (slba source nlb : Nat)

/-- Whether a command is a write command. -/
def Cmd.isWrite : Cmd Block format → Bool
  | .write _ _ => true
  | _ => false

/-- The blocks from `slba` on. -/
def Media.range (media : Media Block) (slba : Nat) : Buf Block format :=
  fun index => media (slba + index)

/-- What the blocks hold after a command. -/
def Media.perform (media : Media Block) : Cmd Block format → Media Block
  | .write slba data => fun lba =>
      if inside : slba ≤ lba ∧ lba < slba + format.nlb then
        data ⟨lba - slba, by omega⟩
      else media lba
  | .copy slba source nlb => fun lba =>
      if slba ≤ lba ∧ lba < slba + nlb then media (source + (lba - slba))
      else media lba
  | .read _ _ | .compare _ _ | .verify _ _ => media

/-- What the blocks hold after some commands. -/
def Media.after (media : Media Block) (cmds : List (Cmd Block format)) :
    Media Block :=
  cmds.foldl Media.perform media

/-- A correct device executes one command: the blocks and the groups. -/
def execute (state : Media Block × List (CmdGroup Block format))
    (cmd : Cmd Block format) : Media Block × List (CmdGroup Block format) :=
  (state.1.perform cmd,
    match cmd with
    | .read slba group =>
        state.2.modify group fun grp =>
          { grp with readBuf := state.1.range slba }
    | _ => state.2)

/-! ## Submission -/

/-- The outcomes of the library calls of one round. -/
structure RoundCalls where
  /-- `nvme_find_iocq_info` finds the queue. -/
  cqFound : Bool
  /-- `ut_create_pair_io_queue`. -/
  createPair : Int
  /-- `nvme_id_ns_lbads`. -/
  idNs : Int
  /-- The submission that follows `nrCmd` successful ones. -/
  submit : Nat → Int
  /-- `ut_ring_sq_doorbell`. -/
  doorbell : Int
  /-- `ut_reap_cq_entry_no_check`. -/
  reap : Int

/-- What `round_rwcvc_submit` works on within one group. -/
structure SubmitState (Block : Type) (format : LbaFormat) where
  grp : CmdGroup Block format
  drawn : Nat
  nrCmd : Nat
  cmds : List (Cmd Block format)

/-- A failed submission ends the round with an error code. -/
abbrev Submitting (Block : Type) (format : LbaFormat) :=
  Except (Int × SubmitState Block format) (SubmitState Block format)

/-- `rand() & 0x1`. -/
def randBit (rand : Nat → Nat) (state : SubmitState Block format) :
    Bool × SubmitState Block format :=
  (rand state.drawn % 2 = 1, { state with drawn := state.drawn + 1 })

/-- `i != 0 || (rand() & 0x1)`. -/
def randBitFirst (rand : Nat → Nat) (index : Nat)
    (state : SubmitState Block format) :
    Bool × SubmitState Block format :=
  if index ≠ 0 then (true, state) else randBit rand state

/-- Submit one command and record it in the group. -/
def submitCmd (calls : RoundCalls) (cmd : Cmd Block format)
    (record : CmdGroup Block format → CmdGroup Block format)
    (state : SubmitState Block format) : Submitting Block format :=
  if calls.submit state.nrCmd < 0 then
    .error (calls.submit state.nrCmd, state)
  else
    .ok
      { state with
        grp := record state.grp
        nrCmd := state.nrCmd + 1
        cmds := state.cmds ++ [cmd] }

/-- The first block of range 0 (`slba0`) or of range 1 (`slba1`). -/
def slbaOf (format : LbaFormat) (part : Nat) : Nat :=
  part * format.nlb

/-- `(slba == slba0) ? 0 : 1`. -/
def partOf (slba : Nat) : Nat :=
  if slba = 0 then 0 else 1

/-- The write command of a group. -/
def submitWrite (calls : RoundCalls) (slba : Nat)
    (state : SubmitState Block format) : Submitting Block format :=
  submitCmd calls (.write slba state.grp.writeBuf)
    (fun grp => { grp with writePart := partOf slba, submitIoWrite := true })
    state

/-- The read command of a group; `ut_submit_io_read_cmd` clears the buffer
first. -/
def submitRead [Zero Block] (calls : RoundCalls) (index slba : Nat)
    (state : SubmitState Block format) : Submitting Block format :=
  submitCmd calls (.read slba index)
    (fun grp => { grp with readPart := partOf slba, submitIoRead := true })
    { state with grp := { state.grp with readBuf := fun _ => 0 } }

/-- The compare command of a group. -/
def submitCompare (calls : RoundCalls) (slba : Nat)
    (state : SubmitState Block format) : Submitting Block format :=
  submitCmd calls (.compare slba state.grp.writeBuf)
    (fun grp => { grp with submitIoCompare := true }) state

/-- The verify command of a group. -/
def submitVerify (calls : RoundCalls) (slba : Nat)
    (state : SubmitState Block format) : Submitting Block format :=
  submitCmd calls (.verify slba format.nlb)
    (fun grp => { grp with submitIoVerify := true }) state

/-- The copy command of a group, to range 0 or to range 1. -/
def submitCopy (calls : RoundCalls) (toFirst : Bool)
    (state : SubmitState Block format) : Submitting Block format :=
  let target := slbaOf format (if toFirst then 0 else 1)
  let source := slbaOf format (if toFirst then 1 else 0)
  submitCmd calls (.copy target source format.nlb)
    (fun grp => { grp with submitIoCopy := true })
    { state with
      grp :=
        { state.grp with
          copySlba := target
          copyEntrySlba := source
          copyEntryNlb := format.nlb
          copyDstPart := if toFirst then 1 else 2
          copySrcPart := if toFirst then 2 else 1 } }

/-- Submit a command if it was chosen. -/
def submitIf (wanted : Bool)
    (submit : SubmitState Block format → Submitting Block format)
    (state : SubmitState Block format) : Submitting Block format :=
  if wanted then submit state else .ok state

/-- One turn of the loop of `round_rwcvc_submit`. -/
def submitGroup [Zero Block] (rand : Nat → Nat) (calls : RoundCalls)
    (slba index : Nat) (state : SubmitState Block format) :
    Submitting Block format := do
  let (write, state) := randBitFirst rand index state
  let state ← submitIf write (submitWrite calls slba) state
  let (read, state) := randBitFirst rand index state
  let state ← submitIf read (submitRead calls index slba) state
  let (compare, state) := randBit rand state
  let state ← submitIf compare (submitCompare calls slba) state
  let (verify, state) := randBit rand state
  let state ← submitIf verify (submitVerify calls slba) state
  let (copy, state) := randBit rand state
  if copy then
    let (toFirst, state) := randBit rand state
    submitCopy calls toFirst state
  else
    .ok state

/-- What the loop of `round_rwcvc_submit` leaves: the groups, the commands of
each group it used, the values drawn and the commands counted. -/
structure Submitted (Block : Type) (format : LbaFormat) where
  groups : List (CmdGroup Block format)
  cmds : List (List (Cmd Block format))
  drawn : Nat
  nrCmd : Nat

/-- Put a group and its commands in front. -/
def Submitted.cons (state : SubmitState Block format)
    (rest : Submitted Block format) : Submitted Block format :=
  { rest with
    groups := state.grp :: rest.groups
    cmds := state.cmds :: rest.cmds }

/-- The loop of `round_rwcvc_submit`. -/
def submitGroups [Zero Block] (rand : Nat → Nat) (calls : RoundCalls)
    (slba : Nat) :
    Nat → List (CmdGroup Block format) → Nat → Nat →
      Except (Int × Submitted Block format) (Submitted Block format)
  | _, [], drawn, nrCmd => .ok ⟨[], [], drawn, nrCmd⟩
  | index, grp :: groups, drawn, nrCmd =>
      if nrCmd < defCmdNum then
        match submitGroup rand calls slba index ⟨grp, drawn, nrCmd, []⟩ with
        | .error (ret, state) =>
            .error (ret, .cons state ⟨groups, [], state.drawn, state.nrCmd⟩)
        | .ok state =>
            match submitGroups rand calls slba (index + 1) groups
                state.drawn state.nrCmd with
            | .error (ret, rest) => .error (ret, .cons state rest)
            | .ok rest => .ok (.cons state rest)
      else
        .ok ⟨grp :: groups, [], drawn, nrCmd⟩

/-- `(rand() % 2) ? slba0 : slba1`, as the number of the range. -/
def partDrawn (rand : Nat → Nat) (drawn : Nat) : Nat :=
  if rand drawn % 2 ≠ 0 then 0 else 1

/-- `round_rwcvc_submit`. -/
def roundRwcvcSubmit [Zero Block] (rand : Nat → Nat) (calls : RoundCalls)
    (drawn : Nat) (set : CmdSet Block format) :
    Except (Int × Submitted Block format) (Submitted Block format) :=
  if calls.idNs < 0 then .error (calls.idNs, ⟨set.grp, [], drawn, 0⟩)
  else
    match submitGroups rand calls (slbaOf format (partDrawn rand drawn)) 0
        set.grp (drawn + 1) 0 with
    | .error failed => .error failed
    | .ok submitted =>
        if calls.doorbell < 0 then .error (calls.doorbell, submitted)
        else .ok submitted

/-! ## Verification -/

/-- `void *buf[2]`. -/
abbrev Table (Block : Type) (format : LbaFormat) :=
  Fin 2 → Option (Buf Block format)

/-- What is not a return value. -/
inductive Fault where
  /-- The table of two buffers is indexed outside its bounds. -/
  | outOfTable
  deriving DecidableEq, Repr

/-- Read `buf[part]`. -/
def Table.get (table : Table Block format) (part : Nat) :
    Except Fault (Option (Buf Block format)) :=
  if inside : part < 2 then .ok (table ⟨part, inside⟩) else .error .outOfTable

/-- Write `buf[part]`. -/
def Table.set (table : Table Block format) (part : Nat)
    (buffer : Option (Buf Block format)) :
    Except Fault (Table Block format) :=
  if inside : part < 2 then
    .ok (Function.update table ⟨part, inside⟩ buffer)
  else
    .error .outOfTable

/-- Replay the write command of a group. -/
def noteWrite (grp : CmdGroup Block format) (table : Table Block format) :
    Except Fault (Table Block format) :=
  if grp.submitIoWrite then table.set grp.writePart (some grp.writeBuf)
  else .ok table

/-- Compare what the read command of a group returned; `false` is a
mismatch. -/
def checkRead [DecidableEq Block] (grp : CmdGroup Block format)
    (table : Table Block format) : Except Fault Bool :=
  if grp.submitIoRead then
    match table.get grp.readPart with
    | .error fault => .error fault
    | .ok none => .ok true
    | .ok (some buffer) => .ok (grp.readBuf = buffer)
  else
    .ok true

/-- Replay the copy command of a group. -/
def noteCopy (grp : CmdGroup Block format) (table : Table Block format) :
    Except Fault (Table Block format) :=
  if grp.submitIoCopy then
    match table.get grp.copySrcPart with
    | .error fault => .error fault
    | .ok none => .ok table
    | .ok (some buffer) => table.set grp.copyDstPart (some buffer)
  else
    .ok table

/-- `-EIO`. -/
def mismatch : Int := -5

/-- The loop of `round_rwcvc_verify`. -/
def verifyGroups [DecidableEq Block] :
    List (CmdGroup Block format) → Table Block format → Except Fault Int
  | [], _ => .ok 0
  | grp :: groups, table => do
      let written ← noteWrite grp table
      let same ← checkRead grp written
      if !same then
        return mismatch
      let copied ← noteCopy grp written
      verifyGroups groups copied

/-- `round_rwcvc_verify`. -/
def roundRwcvcVerify [DecidableEq Block] (set : CmdSet Block format) :
    Except Fault Int :=
  verifyGroups set.grp fun _ => none

/-! ## Rounds -/

/-- What consecutive rounds work on. -/
structure Bench (Block : Type) (format : LbaFormat) where
  media : Media Block
  set : CmdSet Block format
  drawn : Nat

/-- `-ENOENT`. -/
def noEntry : Int := -2

/-- The bench after a device executed everything that was submitted. -/
def Bench.executed (bench : Bench Block format)
    (submitted : Submitted Block format) : Bench Block format :=
  let state := submitted.cmds.flatten.foldl execute
    (bench.media, submitted.groups)
  ⟨state.1, ⟨submitted.cmds.length, submitted.nrCmd, state.2⟩,
    submitted.drawn⟩

/-- `round_rwcvc` against a correct device. -/
def roundRwcvc [DecidableEq Block] [Zero Block] (rand : Nat → Nat)
    (calls : RoundCalls) (bench : Bench Block format) :
    Except Fault (Int × Bench Block format) :=
  if !calls.cqFound then .ok (noEntry, bench)
  else if calls.createPair < 0 then .ok (calls.createPair, bench)
  else
    match roundRwcvcSubmit rand calls bench.drawn bench.set with
    | .error (ret, submitted) =>
        .ok (ret, ⟨bench.media, { bench.set with grp := submitted.groups },
          submitted.drawn⟩)
    | .ok submitted =>
        let done := bench.executed submitted
        if calls.reap < 0 then .ok (calls.reap, done)
        else
          match roundRwcvcVerify done.set with
          | .error fault => .error fault
          | .ok ret => .ok (ret, done)

end Dnvme.App
