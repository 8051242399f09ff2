import Dnvme.App.RwConsistency

/-!
# Soundness of the consistency oracle

`round_rwcvc_verify` replays the recorded commands in a table of two buffers.
This module compares the table with what a correct device holds after the same
commands.  The replay is sound exactly as long as no recorded copy makes it
leave the table, provided that no flag of an earlier round is replayed: the
flags of a group are never cleared, copies number the two ranges from one while
writes and reads number them from zero.
-/

namespace Dnvme.App.RwOracle

open Dnvme.App

variable {Block : Type} {format : LbaFormat}

/-! ## The random choices of a round -/

/-- What a group submits; the copy goes to range 0 when its flag is set. -/
structure Choices where
  write : Bool
  read : Bool
  compare : Bool
  verify : Bool
  copy : Option Bool
  deriving DecidableEq, Repr

/-- The number of commands chosen. -/
def Choices.count (choices : Choices) : Nat :=
  choices.write.toNat + choices.read.toNat + choices.compare.toNat +
    choices.verify.toNat + choices.copy.isSome.toNat

/-- The choice at one place of the stream. -/
def bitAt (rand : Nat → Nat) (drawn : Nat) : Bool :=
  rand drawn % 2 = 1

/-- The first place behind the choice of a write and of a read. -/
def pastFirst (index drawn : Nat) : Nat :=
  if index = 0 then drawn + 2 else drawn

/-- What group `index` chooses, starting at a place of the stream. -/
def choicesAt (rand : Nat → Nat) (index drawn : Nat) : Choices where
  write := if index = 0 then bitAt rand drawn else true
  read := if index = 0 then bitAt rand (drawn + 1) else true
  compare := bitAt rand (pastFirst index drawn)
  verify := bitAt rand (pastFirst index drawn + 1)
  copy :=
    if bitAt rand (pastFirst index drawn + 2) then
      some (bitAt rand (pastFirst index drawn + 3))
    else none

/-- The place of the stream behind the choices of a group. -/
def pastChoices (rand : Nat → Nat) (index drawn : Nat) : Nat :=
  if bitAt rand (pastFirst index drawn + 2) then pastFirst index drawn + 4
  else pastFirst index drawn + 3

/-- What the used groups choose, from one group on. -/
def choicesFrom (rand : Nat → Nat) : Nat → Nat → Nat → Nat → List Choices
  | _, 0, _, _ => []
  | index, groups + 1, drawn, nrCmd =>
      if nrCmd < defCmdNum then
        choicesAt rand index drawn ::
          choicesFrom rand (index + 1) groups (pastChoices rand index drawn)
            (nrCmd + (choicesAt rand index drawn).count)
      else []

/-- What the groups of a round choose. -/
def roundChoices (rand : Nat → Nat) (bench : Bench Block format) :
    List Choices :=
  choicesFrom rand 0 bench.set.grp.length (bench.drawn + 1) 0

/-- The range a round works on. -/
def roundPart (rand : Nat → Nat) (bench : Bench Block format) : Nat :=
  partDrawn rand bench.drawn

/-! ## What a group records and submits -/

/-- Every library call of a round succeeds. -/
structure Completes (calls : RoundCalls) : Prop where
  cqFound : calls.cqFound = true
  createPair : 0 ≤ calls.createPair
  idNs : 0 ≤ calls.idNs
  submit : ∀ nrCmd, 0 ≤ calls.submit nrCmd
  doorbell : 0 ≤ calls.doorbell
  reap : 0 ≤ calls.reap

/-- The group after its commands were submitted. -/
def Choices.record [Zero Block] (choices : Choices) (part : Nat)
    (grp : CmdGroup Block format) : CmdGroup Block format where
  readBuf := if choices.read then fun _ => 0 else grp.readBuf
  readPart := if choices.read then part else grp.readPart
  writeBuf := grp.writeBuf
  writePart := if choices.write then part else grp.writePart
  copySlba := choices.copy.elim grp.copySlba fun toFirst =>
    slbaOf format (if toFirst then 0 else 1)
  copyEntrySlba := choices.copy.elim grp.copyEntrySlba fun toFirst =>
    slbaOf format (if toFirst then 1 else 0)
  copyEntryNlb := choices.copy.elim grp.copyEntryNlb fun _ => format.nlb
  copySrcPart := choices.copy.elim grp.copySrcPart fun toFirst =>
    if toFirst then 2 else 1
  copyDstPart := choices.copy.elim grp.copyDstPart fun toFirst =>
    if toFirst then 1 else 2
  submitIoRead := grp.submitIoRead || choices.read
  submitIoWrite := grp.submitIoWrite || choices.write
  submitIoCompare := grp.submitIoCompare || choices.compare
  submitIoVerify := grp.submitIoVerify || choices.verify
  submitIoCopy := grp.submitIoCopy || choices.copy.isSome

/-- The write command of a group, if it is chosen. -/
def Choices.writeCmds (choices : Choices) (part : Nat)
    (grp : CmdGroup Block format) : List (Cmd Block format) :=
  if choices.write then [.write (slbaOf format part) grp.writeBuf] else []

/-- The commands between the write and the copy. -/
def Choices.checkCmds (choices : Choices) (part index : Nat)
    (grp : CmdGroup Block format) : List (Cmd Block format) :=
  (if choices.read then [.read (slbaOf format part) index] else []) ++
    (if choices.compare then [.compare (slbaOf format part) grp.writeBuf]
      else []) ++
    (if choices.verify then [.verify (slbaOf format part) format.nlb] else [])

/-- The copy command of a group, if it is chosen. -/
def Choices.copyCmds (choices : Choices) : List (Cmd Block format) :=
  match choices.copy with
  | none => []
  | some toFirst =>
      [.copy (slbaOf format (if toFirst then 0 else 1))
        (slbaOf format (if toFirst then 1 else 0)) format.nlb]

/-- The commands of a group in the order of their submission. -/
def Choices.cmds (choices : Choices) (part index : Nat)
    (grp : CmdGroup Block format) : List (Cmd Block format) :=
  choices.writeCmds part grp ++ choices.checkCmds part index grp ++
    choices.copyCmds

theorem partOf_slbaOf (format : LbaFormat) {part : Nat} (range : part < 2) :
    partOf (slbaOf format part) = part := by
  have positive := format.nlb_pos
  rcases part with _ | _ | part
  · simp [partOf, slbaOf]
  · simp [partOf, slbaOf, positive.ne']
  · omega

theorem submitCmd_ok {calls : RoundCalls} (completes : Completes calls)
    (cmd : Cmd Block format)
    (record : CmdGroup Block format → CmdGroup Block format)
    (state : SubmitState Block format) :
    submitCmd calls cmd record state =
      .ok
        { state with
          grp := record state.grp
          nrCmd := state.nrCmd + 1
          cmds := state.cmds ++ [cmd] } := by
  have success := completes.submit state.nrCmd
  rw [submitCmd, if_neg (by omega)]

/-- Where the submission of a group stands once some commands are
submitted. -/
def Choices.progress [Zero Block] (choices : Choices) (part index : Nat)
    (grp : CmdGroup Block format) (drawn nrCmd : Nat) :
    SubmitState Block format :=
  ⟨choices.record part grp, drawn, nrCmd + choices.count,
    choices.cmds part index grp⟩

section Stages

variable [Zero Block] {calls : RoundCalls} (completes : Completes calls)
  {part : Nat} (range : part < 2) (index drawn nrCmd : Nat)
  (grp : CmdGroup Block format) (write read compare verify : Bool)

theorem progress_nothing (part : Nat) :
    Choices.progress ⟨false, false, false, false, none⟩ part index grp drawn
        nrCmd =
      ⟨grp, drawn, nrCmd, []⟩ := by
  simp [Choices.progress, Choices.record, Choices.count, Choices.cmds,
    Choices.writeCmds, Choices.checkCmds, Choices.copyCmds]

theorem randBit_progress (rand : Nat → Nat) (choices : Choices) :
    randBit rand (choices.progress part index grp drawn nrCmd) =
      (bitAt rand drawn,
        choices.progress part index grp (drawn + 1) nrCmd) :=
  rfl

include completes range

theorem submitWrite_progress :
    submitIf write (submitWrite calls (slbaOf format part))
        (Choices.progress ⟨false, false, false, false, none⟩ part index grp
          drawn nrCmd) =
      .ok (Choices.progress ⟨write, false, false, false, none⟩ part index grp
        drawn nrCmd) := by
  cases write <;>
    simp [submitIf, submitWrite, submitCmd_ok completes, Choices.progress,
      partOf_slbaOf format range, Choices.record, Choices.count,
      Choices.cmds, Choices.writeCmds, Choices.checkCmds, Choices.copyCmds]

theorem submitRead_progress :
    submitIf read (submitRead calls index (slbaOf format part))
        (Choices.progress ⟨write, false, false, false, none⟩ part index grp
          drawn nrCmd) =
      .ok (Choices.progress ⟨write, read, false, false, none⟩ part index grp
        drawn nrCmd) := by
  cases read <;>
    simp [submitIf, submitRead, submitCmd_ok completes, Choices.progress,
      partOf_slbaOf format range, Choices.record, Choices.count,
      Choices.cmds, Choices.writeCmds, Choices.checkCmds, Choices.copyCmds,
      Nat.add_assoc]

omit range

theorem submitCompare_progress :
    submitIf compare (submitCompare calls (slbaOf format part))
        (Choices.progress ⟨write, read, false, false, none⟩ part index grp
          drawn nrCmd) =
      .ok (Choices.progress ⟨write, read, compare, false, none⟩ part index grp
        drawn nrCmd) := by
  cases compare <;>
    simp [submitIf, submitCompare, submitCmd_ok completes, Choices.progress,
      Choices.record, Choices.count, Choices.cmds, Choices.writeCmds,
      Choices.checkCmds, Choices.copyCmds, Nat.add_assoc]

theorem submitVerify_progress :
    submitIf verify (submitVerify calls (slbaOf format part))
        (Choices.progress ⟨write, read, compare, false, none⟩ part index grp
          drawn nrCmd) =
      .ok (Choices.progress ⟨write, read, compare, verify, none⟩ part index
        grp drawn nrCmd) := by
  cases verify <;>
    simp [submitIf, submitVerify, submitCmd_ok completes, Choices.progress,
      Choices.record, Choices.count, Choices.cmds, Choices.writeCmds,
      Choices.checkCmds, Choices.copyCmds, Nat.add_assoc]

theorem submitCopy_progress (toFirst : Bool) :
    submitCopy calls toFirst
        (Choices.progress ⟨write, read, compare, verify, none⟩ part index grp
          drawn nrCmd) =
      .ok (Choices.progress ⟨write, read, compare, verify, some toFirst⟩ part
        index grp drawn nrCmd) := by
  simp [submitCopy, submitCmd_ok completes, Choices.progress,
    Choices.record, Choices.count, Choices.cmds, Choices.writeCmds,
    Choices.checkCmds, Choices.copyCmds, Nat.add_assoc]

end Stages

theorem submitGroup_ok [Zero Block] (rand : Nat → Nat) {calls : RoundCalls}
    (completes : Completes calls) {part : Nat} (range : part < 2)
    (index drawn nrCmd : Nat) (grp : CmdGroup Block format) :
    submitGroup rand calls (slbaOf format part) index
        ⟨grp, drawn, nrCmd, []⟩ =
      .ok ((choicesAt rand index drawn).progress part index grp
        (pastChoices rand index drawn) nrCmd) := by
  rw [← progress_nothing index drawn nrCmd grp part]
  have first : index = 0 ∨ index ≠ 0 := eq_or_ne index 0
  rcases first with rfl | later
  · simp only [submitGroup, randBitFirst, ne_eq, not_true_eq_false, if_false,
      randBit_progress, submitWrite_progress completes range,
      submitRead_progress completes range, submitCompare_progress completes,
      submitVerify_progress completes, submitCopy_progress completes, bind,
      Except.bind, choicesAt, pastChoices, pastFirst, if_true, Nat.add_assoc,
      Nat.reduceAdd]
    split <;> rfl
  · simp only [submitGroup, randBitFirst, ne_eq, later, not_false_eq_true,
      if_true, randBit_progress, submitWrite_progress completes range,
      submitRead_progress completes range, submitCompare_progress completes,
      submitVerify_progress completes, submitCopy_progress completes, bind,
      Except.bind, choicesAt, pastChoices, pastFirst, if_false, Nat.add_assoc,
      Nat.reduceAdd]
    split <;> rfl

/-! ## What a round submits and a device executes -/

/-- The groups after the submission of a round. -/
def recordAll [Zero Block] (part : Nat) :
    List Choices → List (CmdGroup Block format) →
      List (CmdGroup Block format)
  | choices :: rest, grp :: groups =>
      choices.record part grp :: recordAll part rest groups
  | _, groups => groups

/-- The commands of a round, group by group. -/
def cmdsAll (part : Nat) :
    Nat → List Choices → List (CmdGroup Block format) →
      List (List (Cmd Block format))
  | index, choices :: rest, grp :: groups =>
      choices.cmds part index grp :: cmdsAll part (index + 1) rest groups
  | _, _, _ => []

theorem submitGroups_ok [Zero Block] (rand : Nat → Nat) {calls : RoundCalls}
    (completes : Completes calls) {part : Nat} (range : part < 2)
    (groups : List (CmdGroup Block format)) (index drawn nrCmd : Nat) :
    ∃ drawn' nrCmd',
      submitGroups rand calls (slbaOf format part) index groups drawn nrCmd =
        .ok ⟨recordAll part
            (choicesFrom rand index groups.length drawn nrCmd) groups,
          cmdsAll part index
            (choicesFrom rand index groups.length drawn nrCmd) groups,
          drawn', nrCmd'⟩ := by
  induction groups generalizing index drawn nrCmd with
  | nil => exact ⟨drawn, nrCmd, rfl⟩
  | cons grp groups ih =>
      by_cases room : nrCmd < defCmdNum
      · obtain ⟨drawn', nrCmd', rest⟩ := ih (index + 1)
          (pastChoices rand index drawn)
          (nrCmd + (choicesAt rand index drawn).count)
        refine ⟨drawn', nrCmd', ?_⟩
        simp only [submitGroups, if_pos room, submitGroup_ok rand completes
          range, Choices.progress, rest, List.length_cons, choicesFrom,
          recordAll, cmdsAll, Submitted.cons]
      · refine ⟨drawn, nrCmd, ?_⟩
        simp only [submitGroups, if_neg room, List.length_cons, choicesFrom,
          recordAll, cmdsAll]

/-- What the blocks hold after the commands of a group. -/
def Choices.mediaAfter (choices : Choices) (part : Nat)
    (grp : CmdGroup Block format) (media : Media Block) : Media Block :=
  (media.after (choices.writeCmds part grp)).after
    (choices.copyCmds : List (Cmd Block format))

/-- The group after its commands were executed. -/
def Choices.done [Zero Block] (choices : Choices) (part : Nat)
    (media : Media Block) (grp : CmdGroup Block format) :
    CmdGroup Block format :=
  { choices.record part grp with
    readBuf :=
      if choices.read then
        (media.after (choices.writeCmds part grp)).range (slbaOf format part)
      else grp.readBuf }

/-- The groups after the commands of a round were executed. -/
def doneAll [Zero Block] (part : Nat) :
    Media Block → List Choices → List (CmdGroup Block format) →
      List (CmdGroup Block format)
  | media, choices :: rest, grp :: groups =>
      choices.done part media grp ::
        doneAll part (choices.mediaAfter part grp media) rest groups
  | _, _, groups => groups

theorem Media.after_append (media : Media Block)
    (first second : List (Cmd Block format)) :
    media.after (first ++ second) = (media.after first).after second :=
  List.foldl_append

theorem Choices.after_checkCmds (choices : Choices) (part index : Nat)
    (grp : CmdGroup Block format) (media : Media Block) :
    media.after (choices.checkCmds part index grp) = media := by
  simp only [Choices.checkCmds]
  split <;> split <;> split <;> rfl

theorem Choices.after_cmds (choices : Choices) (part index : Nat)
    (grp : CmdGroup Block format) (media : Media Block) :
    media.after (choices.cmds part index grp) =
      choices.mediaAfter part grp media := by
  rw [Choices.cmds, Media.after_append, Media.after_append,
    Choices.after_checkCmds, Choices.mediaAfter]

theorem Choices.takeWhile_cmds (choices : Choices) (part index : Nat)
    (grp : CmdGroup Block format) :
    (choices.cmds part index grp).takeWhile Cmd.isWrite =
      choices.writeCmds part grp := by
  obtain ⟨write, read, compare, verify, copy⟩ := choices
  cases write <;> cases read <;> cases compare <;> cases verify <;>
    cases copy <;> rfl

theorem modify_middle {α : Type} (before after : List α) (value : α)
    (change : α → α) :
    (before ++ value :: after).modify before.length change =
      before ++ change value :: after := by
  rw [List.modify_eq_take_cons_drop (by simp)]
  simp

theorem execute_writeCmds (choices : Choices) (part : Nat)
    (grp : CmdGroup Block format) (groups : List (CmdGroup Block format))
    (media : Media Block) :
    (choices.writeCmds part grp).foldl execute (media, groups) =
      (media.after (choices.writeCmds part grp), groups) := by
  rw [Choices.writeCmds]
  split <;> rfl

theorem execute_copyCmds (choices : Choices)
    (groups : List (CmdGroup Block format)) (media : Media Block) :
    choices.copyCmds.foldl execute (media, groups) =
      (media.after (choices.copyCmds : List (Cmd Block format)), groups) := by
  rw [Choices.copyCmds]
  split <;> rfl

theorem execute_checkCmds (choices : Choices) (part : Nat)
    (grp recorded : CmdGroup Block format)
    (before after : List (CmdGroup Block format)) (media : Media Block) :
    (choices.checkCmds part before.length grp).foldl execute
        (media, before ++ recorded :: after) =
      (media, before ++
        { recorded with
          readBuf :=
            if choices.read then media.range (slbaOf format part)
            else recorded.readBuf } :: after) := by
  obtain ⟨write, read, compare, verify, copy⟩ := choices
  cases read <;> cases compare <;> cases verify <;>
    simp [Choices.checkCmds, execute, Media.perform, modify_middle]

theorem execute_group [Zero Block] (choices : Choices) (part : Nat)
    (grp : CmdGroup Block format)
    (before after : List (CmdGroup Block format)) (media : Media Block) :
    (choices.cmds part before.length grp).foldl execute
        (media, before ++ choices.record part grp :: after) =
      (choices.mediaAfter part grp media,
        before ++ choices.done part media grp :: after) := by
  rw [Choices.cmds, List.foldl_append, List.foldl_append, execute_writeCmds,
    execute_checkCmds, execute_copyCmds]
  simp only [Choices.mediaAfter, Choices.done, Choices.record]
  cases choices.read <;> rfl

theorem execute_cmdsAll [Zero Block] (part : Nat) (rounds : List Choices)
    (groups before : List (CmdGroup Block format)) (media : Media Block) :
    ∃ media',
      (cmdsAll part before.length rounds groups).flatten.foldl execute
          (media, before ++ recordAll part rounds groups) =
        (media', before ++ doneAll part media rounds groups) := by
  induction groups generalizing rounds before media with
  | nil => exact ⟨media, by cases rounds <;> rfl⟩
  | cons grp groups ih =>
      rcases rounds with _ | ⟨choices, rounds⟩
      · exact ⟨media, rfl⟩
      · obtain ⟨media', rest⟩ := ih rounds
          (before ++ [choices.done part media grp])
          (choices.mediaAfter part grp media)
        refine ⟨media', ?_⟩
        simp only [List.length_append, List.length_singleton,
          List.append_assoc, List.singleton_append] at rest
        simp only [cmdsAll, recordAll, doneAll, List.flatten_cons,
          List.foldl_append, execute_group, rest]

/-! ## A sound replay -/

/-- Every buffer of the table holds what its range holds. -/
def Tracks (table : Table Block format) (media : Media Block) : Prop :=
  ∀ part : Fin 2, ∀ buffer, table part = some buffer →
    buffer = media.range (slbaOf format part)

/-- The replay of some groups stays in the table, tracks the device after every
command that changes it, and finds no mismatch. -/
def SoundFrom [DecidableEq Block] :
    List (CmdGroup Block format) → List (List (Cmd Block format)) →
      Table Block format → Media Block → Prop
  | [], _, table, media => Tracks table media
  | grp :: groups, cmds, table, media =>
      ∃ written, noteWrite grp table = .ok written ∧
        Tracks written
          (media.after ((cmds.headD []).takeWhile Cmd.isWrite)) ∧
        checkRead grp written = .ok true ∧
        ∃ copied, noteCopy grp written = .ok copied ∧
          Tracks copied (media.after (cmds.headD [])) ∧
          SoundFrom groups cmds.tail copied (media.after (cmds.headD []))

theorem verifyGroups_sound [DecidableEq Block]
    (groups : List (CmdGroup Block format))
    (cmds : List (List (Cmd Block format))) (table : Table Block format)
    (media : Media Block) (sound : SoundFrom groups cmds table media) :
    verifyGroups groups table = .ok 0 := by
  induction groups generalizing cmds table media with
  | nil => rfl
  | cons grp groups ih =>
      obtain ⟨written, wrote, _, same, copied, noted, _, rest⟩ := sound
      simp only [verifyGroups, wrote, same, noted, bind, Except.bind]
      exact ih _ _ _ rest

/-! ## When a group is replayed soundly -/

/-- A group that records what the code can record: a copy has one of the two
directions, and only the first group copies without a write. -/
structure Recorded (index : Nat) (grp : CmdGroup Block format) : Prop where
  parts : grp.submitIoCopy = true →
    grp.copySrcPart = 1 ∧ grp.copyDstPart = 2 ∨
      grp.copySrcPart = 2 ∧ grp.copyDstPart = 1
  written : index ≠ 0 → grp.submitIoCopy = true → grp.submitIoWrite = true

/-- No write or read of an earlier round is left over in a group. -/
structure Fresh (choices : Choices) (grp : CmdGroup Block format) :
    Prop where
  write : grp.submitIoWrite = true → choices.write = true
  read : grp.submitIoRead = true → choices.read = true

theorem Media.range_write_same (media : Media Block) (slba : Nat)
    (data : Buf Block format) :
    (media.perform (.write slba data)).range slba = data := by
  funext index
  have inside : slba + index.val < slba + format.nlb := by
    have := index.isLt
    omega
  simp only [Media.range, Media.perform]
  rw [dif_pos ⟨by omega, inside⟩]
  congr 1
  ext
  simp

theorem slbaOf_disjoint (format : LbaFormat) {first second : Nat}
    (different : first ≠ second) (index : Fin format.nlb) :
    ¬(slbaOf format first ≤ slbaOf format second + index.val ∧
      slbaOf format second + index.val <
        slbaOf format first + format.nlb) := by
  have bound := index.isLt
  simp only [slbaOf]
  rintro ⟨low, high⟩
  rcases Nat.lt_or_gt_of_ne different with less | more
  · have apart : (first + 1) * format.nlb ≤ second * format.nlb :=
      Nat.mul_le_mul_right _ less
    rw [Nat.add_mul] at apart
    omega
  · have apart : (second + 1) * format.nlb ≤ first * format.nlb :=
      Nat.mul_le_mul_right _ more
    rw [Nat.add_mul] at apart
    omega

theorem Media.range_write_other (media : Media Block)
    {first second : Nat} (different : first ≠ second)
    (data : Buf Block format) :
    ((media.perform (.write (slbaOf format first) data)).range
        (slbaOf format second) : Buf Block format) =
      media.range (slbaOf format second) := by
  funext index
  simp only [Media.range, Media.perform]
  rw [dif_neg (slbaOf_disjoint format different index)]

theorem Media.range_copy_other (media : Media Block)
    {first second : Nat} (different : first ≠ second) (source : Nat) :
    ((media.perform (.copy (slbaOf format first) source format.nlb :
        Cmd Block format)).range (slbaOf format second) :
          Buf Block format) =
      media.range (slbaOf format second) := by
  funext index
  simp only [Media.range, Media.perform]
  rw [if_neg (slbaOf_disjoint format different index)]

/-- The table after the write of a group was replayed. -/
def Choices.written (choices : Choices) (part : Fin 2)
    (grp : CmdGroup Block format) (table : Table Block format) :
    Table Block format :=
  if choices.write then Function.update table part (some grp.writeBuf)
  else table

section Replay

variable {choices : Choices} {part : Fin 2}
  {grp : CmdGroup Block format} {table : Table Block format}
  {media : Media Block}

theorem noteWrite_done [Zero Block] (fresh : Fresh choices grp) :
    noteWrite (choices.done part media grp) table =
      .ok (choices.written part grp table) := by
  have flag : (grp.submitIoWrite || choices.write) = choices.write := by
    cases left : grp.submitIoWrite with
    | false => simp
    | true => simp [fresh.write left]
  simp only [noteWrite, Choices.done, Choices.record, flag, Choices.written]
  cases choices.write with
  | false => rfl
  | true => simp only [if_true, Table.set, part.isLt, dif_pos, Fin.eta]

theorem tracks_written (tracks : Tracks table media) :
    Tracks (choices.written part grp table)
      (media.after (choices.writeCmds part grp)) := by
  simp only [Choices.written, Choices.writeCmds]
  split
  · intro place buffer found
    rcases eq_or_ne place part with rfl | other
    · rw [Function.update_self] at found
      rw [← Option.some.inj found]
      exact (Media.range_write_same media _ _).symm
    · rw [Function.update_of_ne other] at found
      rw [tracks place buffer found]
      exact (Media.range_write_other media
        (fun same => other (Fin.ext same.symm)) _).symm
  · exact tracks

theorem checkRead_done [DecidableEq Block] [Zero Block]
    (fresh : Fresh choices grp)
    (tracks : Tracks table
      (media.after (choices.writeCmds part.val grp))) :
    checkRead (choices.done part media grp) table = .ok true := by
  have flag : (grp.submitIoRead || choices.read) = choices.read := by
    cases left : grp.submitIoRead with
    | false => simp
    | true => simp [fresh.read left]
  simp only [checkRead, Choices.done, Choices.record, flag]
  cases wanted : choices.read with
  | false => rfl
  | true =>
      simp only [if_true, Table.get, part.isLt, dif_pos, Fin.eta]
      cases found : table part with
      | none => rfl
      | some buffer => simp [tracks part buffer found]

/-- The range a replayed copy comes from: of the copy that is chosen, or else
of one that an earlier round left. -/
def Choices.copySource (choices : Choices) (grp : CmdGroup Block format) :
    Option Nat :=
  match choices.copy with
  | some toFirst => some (if toFirst then 1 else 0)
  | none => if grp.submitIoCopy then some (grp.copySrcPart - 1) else none

theorem copySource_eq_none_iff [Zero Block] (part : Fin 2)
    (media : Media Block) :
    choices.copySource grp = none ↔
      (choices.done part media grp).submitIoCopy = false := by
  simp only [Choices.copySource, Choices.done, Choices.record]
  cases choices.copy <;> simp

theorem done_parts [Zero Block] (part : Fin 2) (media : Media Block)
    {index source : Nat} (recorded : Recorded index grp)
    (found : choices.copySource grp = some source) :
    (choices.done part media grp).submitIoCopy = true ∧
      (source = 0 ∧ (choices.done part media grp).copySrcPart = 1 ∧
          (choices.done part media grp).copyDstPart = 2 ∨
        source = 1 ∧ (choices.done part media grp).copySrcPart = 2 ∧
          (choices.done part media grp).copyDstPart = 1) := by
  simp only [Choices.copySource, Choices.done, Choices.record] at found ⊢
  cases chosen : choices.copy with
  | some toFirst =>
      simp only [chosen, Option.some.injEq] at found
      subst found
      cases toFirst <;> simp
  | none =>
      simp only [chosen, Option.ite_none_right_eq_some,
        Option.some.injEq] at found
      obtain ⟨flag, rfl⟩ := found
      rcases recorded.parts flag with ⟨src, dst⟩ | ⟨src, dst⟩ <;>
        simp [flag, src, dst]

theorem noteCopy_iff [Zero Block] {index : Nat} (recorded : Recorded index grp)
    (copied : Table Block format) :
    noteCopy (choices.done part media grp) table = .ok copied ↔
      (∀ source, choices.copySource grp = some source →
        source = 0 ∧ table 1 = none) ∧ copied = table := by
  cases found : choices.copySource grp with
  | none =>
      have flag := (copySource_eq_none_iff part media).mp found
      simp [noteCopy, flag, eq_comm]
  | some source =>
      obtain ⟨flag, ⟨rfl, src, dst⟩ | ⟨rfl, src, dst⟩⟩ :=
        done_parts part media recorded found
      · simp only [noteCopy, flag, if_true, Table.get, src,
          Nat.one_lt_ofNat, dif_pos, dst, Table.set, lt_self_iff_false]
        cases held : table ⟨1, by omega⟩ with
        | none =>
            have blank : table 1 = none := held
            simp [blank, eq_comm]
        | some buffer =>
            have filled : table 1 = some buffer := held
            simp [filled]
      · simp [noteCopy, flag, Table.get, src]

theorem tracks_copied
    (tracks : Tracks table (media.after (choices.writeCmds part.val grp)))
    (harmless : ∀ source, choices.copySource grp = some source →
      source = 0 ∧ table 1 = none) :
    Tracks table (choices.mediaAfter part grp media) := by
  simp only [Choices.mediaAfter, Choices.copyCmds]
  cases chosen : choices.copy with
  | none => exact tracks
  | some toFirst =>
      have source := harmless _ (by rw [Choices.copySource, chosen])
      obtain ⟨zero, blank⟩ := source
      cases toFirst with
      | true => simp at zero
      | false =>
          intro place buffer found
          have other : (1 : Nat) ≠ place.val := by
            rintro same
            have one : place = 1 := Fin.ext same.symm
            rw [one, blank] at found
            exact absurd found (by simp)
          rw [tracks place buffer found]
          exact (Media.range_copy_other _ other _).symm

end Replay

/-! ## Replaying a round -/

/-- Every write and read that is recorded in a group is submitted again. -/
def NothingLeft (rounds : List Choices)
    (groups : List (CmdGroup Block format)) : Prop :=
  ∀ (index : Nat) (grp : CmdGroup Block format), groups[index]? = some grp →
    (grp.submitIoWrite = true →
      ∃ choices, rounds[index]? = some choices ∧ choices.write = true) ∧
    (grp.submitIoRead = true →
      ∃ choices, rounds[index]? = some choices ∧ choices.read = true)

/-- Every copy that is replayed comes from range 0 and finds no buffer for
range 1: the round works on range 0, or the copy is in the first group and
that group does not write. -/
def CopiesUntracked (part first : Nat) (rounds : List Choices)
    (groups : List (CmdGroup Block format)) : Prop :=
  ∀ (index : Nat) (choices : Choices) (grp : CmdGroup Block format)
      (source : Nat),
    rounds[index]? = some choices → groups[index]? = some grp →
    choices.copySource grp = some source →
      source = 0 ∧ (part = 0 ∨ first + index = 0 ∧ choices.write = false)

theorem copiesUntracked_cons (part first : Nat) (choices : Choices)
    (rounds : List Choices) (grp : CmdGroup Block format)
    (groups : List (CmdGroup Block format)) :
    CopiesUntracked part first (choices :: rounds) (grp :: groups) ↔
      (∀ source, choices.copySource grp = some source →
        source = 0 ∧ (part = 0 ∨ first = 0 ∧ choices.write = false)) ∧
      CopiesUntracked part (first + 1) rounds groups := by
  constructor
  · intro untracked
    constructor
    · intro source found
      exact untracked 0 choices grp source rfl rfl found
    · intro index chosen other source picked member found
      have result := untracked (index + 1) chosen other source picked member
        found
      rwa [Nat.add_comm index, ← Nat.add_assoc] at result
  · rintro ⟨head, tail⟩ index chosen other source picked member found
    rcases index with _ | index
    · obtain rfl : choices = chosen := Option.some.inj picked
      obtain rfl : grp = other := Option.some.inj member
      exact head source found
    · have result := tail index chosen other source picked member found
      rwa [Nat.add_assoc, Nat.add_comm 1] at result

theorem NothingLeft.tail {choices : Choices} {rounds : List Choices}
    {grp : CmdGroup Block format} {groups : List (CmdGroup Block format)}
    (fresh : NothingLeft (choices :: rounds) (grp :: groups)) :
    NothingLeft rounds groups := by
  intro index other member
  exact fresh (index + 1) other member

theorem NothingLeft.head {choices : Choices} {rounds : List Choices}
    {grp : CmdGroup Block format} {groups : List (CmdGroup Block format)}
    (fresh : NothingLeft (choices :: rounds) (grp :: groups)) :
    Fresh choices grp := by
  obtain ⟨write, read⟩ := fresh 0 grp rfl
  constructor
  · intro flag
    obtain ⟨chosen, same, wanted⟩ := write flag
    rwa [← Option.some.inj same] at wanted
  · intro flag
    obtain ⟨chosen, same, wanted⟩ := read flag
    rwa [← Option.some.inj same] at wanted

/-- Groups that are not used and record nothing change nothing. -/
theorem soundFrom_idle [DecidableEq Block]
    (groups : List (CmdGroup Block format)) (table : Table Block format)
    (media : Media Block) (tracks : Tracks table media)
    (idle : ∀ grp ∈ groups, grp.submitIoWrite = false ∧
      grp.submitIoRead = false ∧ grp.submitIoCopy = false) :
    SoundFrom groups [] table media := by
  induction groups with
  | nil => exact tracks
  | cons grp groups ih =>
      obtain ⟨write, read, copy⟩ := idle grp (by simp)
      refine ⟨table, by simp [noteWrite, write], tracks,
        by simp [checkRead, read], table, by simp [noteCopy, copy], tracks, ?_⟩
      exact ih fun other member => idle other (by simp [member])

/-- The table has a buffer for range 1 only after a write to it. -/
theorem written_blank_iff {part : Fin 2} {choices : Choices} {first : Nat}
    {grp : CmdGroup Block format} {table : Table Block format}
    (blank : part.val = 0 ∨ first = 0 → table 1 = none)
    (later : first ≠ 0 → choices.write = true) :
    choices.written part grp table 1 = none ↔
      part.val = 0 ∨ first = 0 ∧ choices.write = false := by
  rcases Fin.exists_fin_two.mp ⟨part, rfl⟩ with zero | one
  · subst zero
    have empty := blank (Or.inl rfl)
    refine iff_of_true ?_ (Or.inl rfl)
    rw [Choices.written]
    split
    · rw [Function.update_of_ne (by decide), empty]
    · exact empty
  · subst one
    simp only [Choices.written]
    cases wanted : choices.write with
    | true => simp
    | false =>
        have begin : first = 0 := by
          by_contra other
          rw [later other] at wanted
          cases wanted
        simp [begin, blank (Or.inr begin)]

theorem soundFrom_iff [DecidableEq Block] [Zero Block] (part : Fin 2)
    (groups : List (CmdGroup Block format)) (rounds : List Choices)
    (first : Nat) (table : Table Block format) (media : Media Block)
    (tracks : Tracks table media)
    (blank : part.val = 0 ∨ first = 0 → table 1 = none)
    (recorded : ∀ index grp, groups[index]? = some grp →
      Recorded (first + index) grp)
    (later : ∀ index choices, rounds[index]? = some choices →
      first + index ≠ 0 → choices.write = true)
    (used : first = 0 → rounds = [] → groups = [])
    (fresh : NothingLeft rounds groups) :
    SoundFrom (doneAll part media rounds groups)
        (cmdsAll part first rounds groups) table media ↔
      CopiesUntracked part first rounds groups := by
  induction groups generalizing rounds first table media with
  | nil =>
      have empty : cmdsAll part first rounds ([] : List (CmdGroup Block
          format)) = [] := by cases rounds <;> rfl
      have idle : doneAll part media rounds ([] : List (CmdGroup Block
          format)) = [] := by cases rounds <;> rfl
      rw [empty, idle]
      simp [SoundFrom, tracks, CopiesUntracked]
  | cons grp groups ih =>
      rcases rounds with _ | ⟨choices, rounds⟩
      · have begun : first ≠ 0 := fun start =>
          absurd (used start rfl) (by simp)
        have idle : ∀ other ∈ grp :: groups, other.submitIoWrite = false ∧
            other.submitIoRead = false ∧ other.submitIoCopy = false := by
          intro other member
          obtain ⟨index, found⟩ := List.mem_iff_getElem?.mp member
          obtain ⟨write, read⟩ := fresh index other found
          have unwritten : other.submitIoWrite = false := by
            by_contra flag
            obtain ⟨_, impossible, _⟩ := write (by simpa using flag)
            simp at impossible
          have unread : other.submitIoRead = false := by
            by_contra flag
            obtain ⟨_, impossible, _⟩ := read (by simpa using flag)
            simp at impossible
          refine ⟨unwritten, unread, ?_⟩
          by_contra flag
          have both := (recorded index other found).written (by omega)
            (by simpa using flag)
          rw [unwritten] at both
          cases both
        exact iff_of_true (soundFrom_idle _ _ _ tracks idle) (by
          intro index chosen other source impossible
          simp at impossible)
      · have freshHead := fresh.head
        have recordedHead : Recorded first grp := recorded 0 grp rfl
        have stepped := @tracks_written _ _ choices part grp _ _ tracks
        have blanked := @written_blank_iff _ _ part choices first grp table
          blank (later 0 choices rfl)
        have onward (harmless : ∀ source,
            choices.copySource grp = some source →
              source = 0 ∧ choices.written part grp table 1 = none) :=
          ih rounds (first + 1) (choices.written part grp table)
            (choices.mediaAfter part grp media)
            (tracks_copied stepped harmless)
            (by
              rintro (zero | impossible)
              · exact blanked.mpr (Or.inl zero)
              · omega)
            (by
              intro index other found
              have shifted := recorded (index + 1) other found
              rwa [Nat.add_comm index, ← Nat.add_assoc] at shifted)
            (by
              intro index chosen found nonzero
              exact later (index + 1) chosen found (by omega))
            (by intro impossible; omega)
            fresh.tail
        rw [copiesUntracked_cons]
        simp only [doneAll, cmdsAll, SoundFrom, List.headD_cons,
          List.tail_cons, Choices.takeWhile_cmds, Choices.after_cmds]
        constructor
        · rintro ⟨written, wrote, _, _, copied, noted, _, rest⟩
          rw [noteWrite_done freshHead] at wrote
          obtain rfl := Except.ok.inj wrote
          obtain ⟨harmless, rfl⟩ := (noteCopy_iff recordedHead copied).mp noted
          refine ⟨fun source found => ?_, (onward harmless).mp rest⟩
          obtain ⟨zero, empty⟩ := harmless source found
          exact ⟨zero, blanked.mp empty⟩
        · rintro ⟨head, tail⟩
          have harmless : ∀ source, choices.copySource grp = some source →
              source = 0 ∧ choices.written part grp table 1 = none := by
            intro source found
            obtain ⟨zero, empty⟩ := head source found
            exact ⟨zero, blanked.mpr empty⟩
          exact ⟨_, noteWrite_done freshHead, stepped,
            checkRead_done freshHead stepped, _,
            (noteCopy_iff recordedHead _).mpr ⟨harmless, rfl⟩,
            tracks_copied stepped harmless, (onward harmless).mpr tail⟩

/-! ## Consecutive rounds -/

theorem choicesFrom_later (rand : Nat → Nat)
    (groups first drawn nrCmd index : Nat) (choices : Choices)
    (found : (choicesFrom rand first groups drawn nrCmd)[index]? =
      some choices) (nonzero : first + index ≠ 0) :
    choices.write = true := by
  induction groups generalizing first drawn nrCmd index with
  | zero => simp [choicesFrom] at found
  | succ groups ih =>
      rw [choicesFrom] at found
      split at found
      · rcases index with _ | index
        · obtain rfl := Option.some.inj found
          have begun : first ≠ 0 := by omega
          simp [choicesAt, begun]
        · rw [List.getElem?_cons_succ] at found
          exact ih _ _ _ _ found (by omega)
      · simp at found

theorem choicesFrom_used (rand : Nat → Nat) (drawn groups : Nat)
    (none : choicesFrom rand 0 groups drawn 0 = []) : groups = 0 := by
  rcases groups with _ | groups
  · rfl
  · rw [choicesFrom, if_pos (by decide)] at none
    exact absurd none (by simp)

theorem Recorded.done [Zero Block] {index : Nat}
    {grp : CmdGroup Block format} (recorded : Recorded index grp)
    (choices : Choices) (later : index ≠ 0 → choices.write = true)
    (part : Nat) (media : Media Block) :
    Recorded index (choices.done part media grp) := by
  constructor
  · intro flag
    simp only [Choices.done, Choices.record] at flag ⊢
    cases chosen : choices.copy with
    | none => exact recorded.parts (by simpa [chosen] using flag)
    | some toFirst => cases toFirst <;> simp
  · intro nonzero _
    simp [Choices.done, Choices.record, later nonzero]

theorem recorded_doneAll [Zero Block] (part : Nat)
    (groups : List (CmdGroup Block format)) (rounds : List Choices)
    (first : Nat) (media : Media Block)
    (recorded : ∀ index grp, groups[index]? = some grp →
      Recorded (first + index) grp)
    (later : ∀ index choices, rounds[index]? = some choices →
      first + index ≠ 0 → choices.write = true) :
    ∀ index grp, (doneAll part media rounds groups)[index]? = some grp →
      Recorded (first + index) grp := by
  induction groups generalizing rounds first media with
  | nil =>
      intro index grp found
      rcases rounds with _ | ⟨choices, rounds⟩ <;>
        simp [doneAll] at found
  | cons grp groups ih =>
      rcases rounds with _ | ⟨choices, rounds⟩
      · exact recorded
      · intro index other found
        rcases index with _ | index
        · obtain rfl := Option.some.inj found
          exact (recorded 0 grp rfl).done choices (later 0 choices rfl) _ _
        · have shifted := ih rounds (first + 1)
            (choices.mediaAfter part grp media)
            (fun index other found => by
              have moved := recorded (index + 1) other found
              rwa [Nat.add_comm index, ← Nat.add_assoc] at moved)
            (fun index chosen found nonzero =>
              later (index + 1) chosen found (by omega))
            index other found
          rwa [Nat.add_assoc, Nat.add_comm 1] at shifted

/-- What a bench of earlier rounds satisfies. -/
def Consistent (bench : Bench Block format) : Prop :=
  ∀ index grp, bench.set.grp[index]? = some grp → Recorded index grp

/-- The bench once a correct device executed what a round submits. -/
def Bench.next [Zero Block] (rand : Nat → Nat) (calls : RoundCalls)
    (bench : Bench Block format) : Bench Block format :=
  match roundRwcvcSubmit rand calls bench.drawn bench.set with
  | .error _ => bench
  | .ok submitted => bench.executed submitted

/-- A round replays soundly and passes: the table tracks the device at every
point of the round, and the round returns 0. -/
def RoundSound [DecidableEq Block] [Zero Block] (rand : Nat → Nat)
    (calls : RoundCalls) (bench : Bench Block format) : Prop :=
  ∃ submitted,
    roundRwcvcSubmit rand calls bench.drawn bench.set = .ok submitted ∧
      SoundFrom (Bench.next rand calls bench).set.grp submitted.cmds
        (fun _ => none) bench.media ∧
      roundRwcvc rand calls bench = .ok (0, Bench.next rand calls bench)

/-- A property of the bench before every round of a run. -/
def EachRound [Zero Block] (rand : Nat → Nat)
    (property : RoundCalls → Bench Block format → Prop) :
    List RoundCalls → Bench Block format → Prop
  | [], _ => True
  | calls :: rounds, bench =>
      property calls bench ∧
        EachRound rand property rounds (Bench.next rand calls bench)

theorem roundPart_lt (rand : Nat → Nat) (bench : Bench Block format) :
    roundPart rand bench < 2 := by
  simp only [roundPart, partDrawn]
  split <;> omega

theorem submit_completes [Zero Block] (rand : Nat → Nat)
    {calls : RoundCalls} (completes : Completes calls)
    (bench : Bench Block format) :
    ∃ drawn nrCmd,
      roundRwcvcSubmit rand calls bench.drawn bench.set =
        .ok ⟨recordAll (roundPart rand bench) (roundChoices rand bench)
            bench.set.grp,
          cmdsAll (roundPart rand bench) 0 (roundChoices rand bench)
            bench.set.grp, drawn, nrCmd⟩ := by
  obtain ⟨drawn, nrCmd, submitted⟩ := submitGroups_ok rand completes
    (roundPart_lt rand bench) bench.set.grp 0 (bench.drawn + 1) 0
  have identified := completes.idNs
  have rung := completes.doorbell
  refine ⟨drawn, nrCmd, ?_⟩
  rw [roundPart] at submitted
  rw [roundRwcvcSubmit, if_neg (by omega), submitted]
  simp only [roundPart, roundChoices]
  rw [if_neg (by omega)]

theorem next_groups [Zero Block] (rand : Nat → Nat) {calls : RoundCalls}
    (completes : Completes calls) (bench : Bench Block format) :
    (Bench.next rand calls bench).set.grp =
      doneAll (roundPart rand bench) bench.media (roundChoices rand bench)
        bench.set.grp := by
  obtain ⟨drawn, nrCmd, submitted⟩ := submit_completes rand completes bench
  obtain ⟨media, executed⟩ := execute_cmdsAll (roundPart rand bench)
    (roundChoices rand bench) bench.set.grp [] bench.media
  simp only [List.length_nil, List.nil_append] at executed
  simp only [Bench.next, submitted, Bench.executed, executed]

theorem Consistent.next [Zero Block] (rand : Nat → Nat)
    {calls : RoundCalls} (completes : Completes calls)
    {bench : Bench Block format} (consistent : Consistent bench) :
    Consistent (Bench.next rand calls bench) := by
  intro index grp found
  rw [next_groups rand completes] at found
  have recorded := recorded_doneAll (roundPart rand bench) bench.set.grp
    (roundChoices rand bench) 0 bench.media
    (by simpa [Consistent] using consistent)
    (fun index choices found => choicesFrom_later rand _ 0 _ _ index choices
      found)
    index grp found
  simpa using recorded

theorem consistent_cmdSetAlloc (media : Media Block) (drawn : Nat)
    (buffers : List (Buf Block format × Buf Block format)) :
    Consistent ⟨media, cmdSetAlloc buffers, drawn⟩ := by
  intro index grp found
  simp only [cmdSetAlloc, List.getElem?_map, Option.map_eq_some_iff] at found
  obtain ⟨pair, _, rfl⟩ := found
  constructor <;> simp [cmdGroupAlloc]

theorem roundSound_iff [DecidableEq Block] [Zero Block] (rand : Nat → Nat)
    {calls : RoundCalls} (completes : Completes calls)
    {bench : Bench Block format} (consistent : Consistent bench)
    (fresh : NothingLeft (roundChoices rand bench) bench.set.grp) :
    RoundSound rand calls bench ↔
      CopiesUntracked (roundPart rand bench) 0 (roundChoices rand bench)
        bench.set.grp := by
  obtain ⟨drawn, nrCmd, submitted⟩ := submit_completes rand completes bench
  have exact_iff := soundFrom_iff ⟨_, roundPart_lt rand bench⟩ bench.set.grp
    (roundChoices rand bench) 0 (fun _ => none) bench.media
    (fun _ _ impossible => absurd impossible (by simp)) (fun _ => rfl)
    (by simpa [Consistent] using consistent)
    (fun index choices found => choicesFrom_later rand _ 0 _ _ index choices
      found)
    (fun _ none => List.eq_nil_of_length_eq_zero
      (choicesFrom_used rand _ _ none))
    fresh
  rw [← exact_iff]
  constructor
  · rintro ⟨other, same, sound, _⟩
    rw [submitted] at same
    obtain rfl := Except.ok.inj same
    rwa [next_groups rand completes] at sound
  · intro sound
    refine ⟨_, submitted, ?_, ?_⟩
    · rwa [next_groups rand completes]
    · have found := completes.cqFound
      have created := completes.createPair
      have reaped := completes.reap
      have groups := next_groups rand completes bench
      simp only [Bench.next, submitted] at groups
      simp only [roundRwcvc, found, Bool.not_true, Bool.false_eq_true,
        if_false, submitted, Bench.next]
      rw [if_neg (by omega), if_neg (by omega), roundRwcvcVerify, groups,
        verifyGroups_sound _ _ _ _ sound]

theorem nothingLeft_of_all {rounds : List Choices}
    {groups : List (CmdGroup Block format)}
    (long : groups.length ≤ rounds.length)
    (all : ∀ choices ∈ rounds, choices.write = true ∧ choices.read = true) :
    NothingLeft rounds groups := by
  intro index grp found
  obtain ⟨inside, _⟩ := List.getElem?_eq_some_iff.mp found
  have used : index < rounds.length := Nat.lt_of_lt_of_le inside long
  have chosen : rounds[index]? = some (rounds[index]) :=
    List.getElem?_eq_getElem used
  obtain ⟨write, read⟩ := all _ (List.getElem_mem used)
  exact ⟨fun _ => ⟨_, chosen, write⟩, fun _ => ⟨_, chosen, read⟩⟩

theorem copiesUntracked_of_all {rounds : List Choices} (first : Nat)
    (groups : List (CmdGroup Block format))
    (all : ∀ choices ∈ rounds, choices.copy = some false) :
    CopiesUntracked 0 first rounds groups := by
  intro index choices grp source picked _ found
  have chosen := all choices (List.mem_of_getElem? picked)
  rw [Choices.copySource, chosen] at found
  exact ⟨by simpa using found.symm, Or.inl rfl⟩

theorem nothingLeft_cmdSetAlloc (rounds : List Choices)
    (buffers : List (Buf Block format × Buf Block format)) :
    NothingLeft rounds (cmdSetAlloc buffers).grp := by
  intro index grp found
  simp only [cmdSetAlloc, List.getElem?_map, Option.map_eq_some_iff] at found
  obtain ⟨pair, _, rfl⟩ := found
  simp [cmdGroupAlloc]

/--
Over any number of rounds with one set, the oracle is sound as long as every
write and read that is still recorded is submitted again and no replayed copy
meets a buffer for range 1; under the first condition the second is exact.
-/
theorem rwcvc_sound_iff [DecidableEq Block] [Zero Block] (rand : Nat → Nat)
    (buffers : List (Buf Block format × Buf Block format))
    (media : Media Block) (drawn : Nat) (rounds : List RoundCalls)
    (completes : ∀ calls ∈ rounds, Completes calls)
    (fresh : EachRound rand (fun _ bench =>
      NothingLeft (roundChoices rand bench) bench.set.grp) rounds
      ⟨media, cmdSetAlloc buffers, drawn⟩) :
    EachRound rand (RoundSound rand) rounds
        ⟨media, cmdSetAlloc buffers, drawn⟩ ↔
      EachRound rand (fun _ bench =>
        CopiesUntracked (roundPart rand bench) 0 (roundChoices rand bench)
          bench.set.grp) rounds
        ⟨media, cmdSetAlloc buffers, drawn⟩ := by
  have consistent := consistent_cmdSetAlloc media drawn buffers
  generalize (⟨media, cmdSetAlloc buffers, drawn⟩ : Bench Block format) =
    bench at fresh consistent
  induction rounds generalizing bench with
  | nil => rfl
  | cons calls rounds ih =>
      obtain ⟨now, later⟩ := fresh
      have first := completes calls (by simp)
      exact and_congr (roundSound_iff rand first consistent now)
        (ih (fun other member => completes other (by simp [member])) _ later
          (consistent.next rand first))

/-- Blocks of 4096 bytes. -/
def largeBlocks : LbaFormat := ⟨4096, by decide, by decide⟩

/-- A round in which no library call fails. -/
def smoothCalls : RoundCalls := ⟨true, 0, 0, fun _ => 0, 0, 0⟩

theorem completes_smoothCalls : Completes smoothCalls :=
  ⟨rfl, le_refl _, le_refl _, fun _ => le_refl _, le_refl _, le_refl _⟩

/-- Two groups submit all five commands on range 0 in every round, and all
copies go to range 1. -/
def copiesUp (drawn : Nat) : Nat :=
  if drawn % 11 = 6 ∨ drawn % 11 = 10 then 0 else 1

/-- Two groups with buffers of their own. -/
def twoGroups : Bench Nat largeBlocks :=
  ⟨fun _ => 7, cmdSetAlloc [(fun _ => 0, fun _ => 1), (fun _ => 0, fun _ => 2)],
    0⟩

theorem rwcvc_sound_two_rounds :
    EachRound copiesUp (RoundSound copiesUp) [smoothCalls, smoothCalls]
      twoGroups := by
  have first : roundChoices copiesUp twoGroups =
      [⟨true, true, true, true, some false⟩,
        ⟨true, true, true, true, some false⟩] := by decide
  have second :
      roundChoices copiesUp (Bench.next copiesUp smoothCalls twoGroups) =
        [⟨true, true, true, true, some false⟩,
          ⟨true, true, true, true, some false⟩] := by decide
  have part : roundPart copiesUp twoGroups = 0 := by decide
  have again :
      roundPart copiesUp (Bench.next copiesUp smoothCalls twoGroups) = 0 := by
    decide
  refine (rwcvc_sound_iff copiesUp _ _ _ _ ?_ ?_).mpr ?_
  · intro calls member
    have same : calls = smoothCalls := by simpa using member
    exact same ▸ completes_smoothCalls
  · refine ⟨?_, ?_, trivial⟩
    · change NothingLeft (roundChoices copiesUp twoGroups) twoGroups.set.grp
      rw [first]
      exact nothingLeft_of_all (by decide) (by decide)
    · change NothingLeft
        (roundChoices copiesUp (Bench.next copiesUp smoothCalls twoGroups))
        (Bench.next copiesUp smoothCalls twoGroups).set.grp
      rw [second]
      exact nothingLeft_of_all (by decide) (by decide)
  · refine ⟨?_, ?_, trivial⟩
    · change CopiesUntracked (roundPart copiesUp twoGroups) 0
        (roundChoices copiesUp twoGroups) twoGroups.set.grp
      rw [first, part]
      exact copiesUntracked_of_all 0 _ (by decide)
    · change CopiesUntracked
        (roundPart copiesUp (Bench.next copiesUp smoothCalls twoGroups)) 0
        (roundChoices copiesUp (Bench.next copiesUp smoothCalls twoGroups))
        (Bench.next copiesUp smoothCalls twoGroups).set.grp
      rw [second, again]
      exact copiesUntracked_of_all 0 _ (by decide)

/-- The set of `subcase_rwcvc` before its first round. -/
def firstBench : Bench Nat largeBlocks :=
  ⟨fun _ => 7,
    cmdSetAlloc (List.replicate defCmdNum (fun _ => 0, fun _ => 1)), 0⟩

/-- Random numbers that are all odd make the first group copy to range 0: the
replay reads a third entry of the table. -/
theorem copy_leaves_the_table :
    Completes smoothCalls ∧
      ¬RoundSound (fun _ => 1) smoothCalls firstBench := by
  refine ⟨completes_smoothCalls, fun sound => ?_⟩
  have untracked := (roundSound_iff (fun _ => 1) completes_smoothCalls
    (consistent_cmdSetAlloc _ _ _) (nothingLeft_cmdSetAlloc _ _)).mp sound
  have groups : firstBench.set.grp.length = 511 + 1 := by
    simp only [firstBench, cmdSetAlloc, List.length_map,
      List.length_replicate, defCmdNum]
  have picked : (roundChoices (fun _ => 1) firstBench)[0]? =
      some ⟨true, true, true, true, some true⟩ := by
    rw [roundChoices, groups, choicesFrom, if_pos (by decide)]
    rfl
  have member : firstBench.set.grp[0]? =
      some (cmdGroupAlloc (fun _ => 0) (fun _ => 1)) := by
    simp only [firstBench, cmdSetAlloc, List.getElem?_map]
    rw [List.getElem?_replicate, if_pos (by decide)]
    rfl
  have zero := (untracked 0 _ _ 1 picked member rfl).1
  exact absurd zero (by decide)

end Dnvme.App.RwOracle
