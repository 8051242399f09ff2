import Dnvme.Driver.CommandId
import Dnvme.Driver.ReapInvariant

/-!
# The two reap paths agree

`dnvme_reap_cqe` copies, moves the head and scans what is left;
`dnvme_reap_cqe_legacy` scans first and subtracts.  Both handle the same
entries in devices that differ in the tail of the queue only, and a scan from
the moved head finds the rest of the first scan, so in the end both have done
the same.
-/

namespace Dnvme.Driver.ReapAgreement

open Dnvme.Driver
open Dnvme.Driver.CqScan
open Dnvme.Driver.CqInvariant
open Dnvme.Driver.PagesHeld
open Dnvme.Driver.IrqBookkeeping
open Dnvme.Driver.ReapInvariant

/-! ## Devices with other completion queues -/

/-- The device with these completion queues. -/
def withCqs (ndev : NvmeDevice) (cqs : XArray NvmeCq) : NvmeDevice :=
  { ndev with cqs := cqs }

section WithCqs

variable (ndev : NvmeDevice) (cqs : XArray NvmeCq)

theorem withCqs_releasePrps (prps : Option Nat) :
    (withCqs ndev cqs).releasePrps prps =
      withCqs (ndev.releasePrps prps) cqs := by
  cases prps with
  | none => rfl
  | some id => rfl

theorem withCqs_releaseCmds (cmds : List NvmeCmd) :
    (withCqs ndev cqs).releaseCmds cmds =
      withCqs (ndev.releaseCmds cmds) cqs := by
  induction cmds generalizing ndev with
  | nil => rfl
  | cons cmd cmds ih =>
      rw [NvmeDevice.releaseCmds_cons, NvmeDevice.releaseCmds_cons,
        withCqs_releasePrps, ih]

theorem withCqs_deleteCmd (sqId : Nat) (cmd : NvmeCmd) :
    (withCqs ndev cqs).deleteCmd sqId cmd =
      withCqs (ndev.deleteCmd sqId cmd) cqs := by
  have same : (withCqs ndev cqs).findSq sqId = ndev.findSq sqId := rfl
  unfold NvmeDevice.deleteCmd
  rw [same]
  cases ndev.findSq sqId with
  | none => rfl
  | some sq => rfl

theorem withCqs_dnvmeReleaseSq (sq : NvmeSq) :
    dnvmeReleaseSq (withCqs ndev cqs) sq =
      withCqs (dnvmeReleaseSq ndev sq) cqs := by
  have emptied := withCqs_releaseCmds
    { ndev with sqs := ndev.sqs.erase sq.sqId } cqs sq.cmdList
  unfold dnvmeReleaseSq dnvmeDeleteCmdList
  dsimp only
  split
  · exact emptied
  · refine (congrArg (fun d => NvmeDevice.releasePrps d sq.prps)
      emptied).trans ?_
    exact withCqs_releasePrps _ _ _

theorem withCqs_dnvmeDeleteSq (sqId : Nat) :
    dnvmeDeleteSq (withCqs ndev cqs) sqId =
      withCqs (dnvmeDeleteSq ndev sqId) cqs := by
  have same : (withCqs ndev cqs).findSq sqId = ndev.findSq sqId := rfl
  unfold dnvmeDeleteSq
  rw [same]
  cases ndev.findSq sqId with
  | none => rfl
  | some sq => exact withCqs_dnvmeReleaseSq ndev cqs sq

end WithCqs

/-! ## Devices that differ in a tail -/

/-- A queue without the tail, if it is the one to be reaped. -/
def forgetTail (cqid id : Nat) (cq : NvmeCq) : NvmeCq :=
  if id = cqid then { cq with tailPtr := 0 } else cq

/-- The same queues but for the tail of one of them. -/
def TailsApart (cqid : Nat) (cqs others : XArray NvmeCq) : Prop :=
  ∀ id, (others.lookup id).map (forgetTail cqid id) =
    (cqs.lookup id).map (forgetTail cqid id)

/-- The same devices but for the tail of a queue. -/
def Alike (cqid : Nat) (ndev other : NvmeDevice) : Prop :=
  ∃ cqs, other = withCqs ndev cqs ∧ TailsApart cqid ndev.cqs cqs

/-- What two queues that differ in the tail have in common. -/
theorem TailsApart.some {cqid id : Nat} {cqs others : XArray NvmeCq}
    {cq : NvmeCq} (apart : TailsApart cqid cqs others)
    (found : cqs.lookup id = some cq) :
    ∃ tail, others.lookup id = some { cq with tailPtr := tail } := by
  have same := apart id
  rw [found, Option.map_some] at same
  rcases Option.map_eq_some_iff.mp same with ⟨other, there, equal⟩
  refine ⟨other.tailPtr, ?_⟩
  rw [there]
  unfold forgetTail at equal
  split at equal
  · have fields := congrArg
      (fun queue : NvmeCq => { queue with tailPtr := other.tailPtr }) equal
    exact congrArg Option.some fields
  · rw [equal]

theorem TailsApart.none {cqid id : Nat} {cqs others : XArray NvmeCq}
    (apart : TailsApart cqid cqs others) (missing : cqs.lookup id = none) :
    others.lookup id = none := by
  have same := apart id
  rwa [missing, Option.map_none, Option.map_eq_none_iff] at same

theorem TailsApart.erase {cqid : Nat} {cqs others : XArray NvmeCq}
    (apart : TailsApart cqid cqs others) (key : Nat) :
    TailsApart cqid (cqs.erase key) (others.erase key) := by
  intro id
  by_cases equal : id = key
  · rw [equal, AList.lookup_erase, AList.lookup_erase]
  · rw [AList.lookup_erase_ne equal, AList.lookup_erase_ne equal]
    exact apart id

theorem TailsApart.insert {cqid : Nat} {cqs others : XArray NvmeCq}
    (apart : TailsApart cqid cqs others) {key : Nat} {cq other : NvmeCq}
    (same : forgetTail cqid key other = forgetTail cqid key cq) :
    TailsApart cqid (cqs.insert key cq) (others.insert key other) := by
  intro id
  by_cases equal : id = key
  · rw [equal, AList.lookup_insert, AList.lookup_insert, Option.map_some,
      Option.map_some, same]
  · rw [AList.lookup_insert_ne equal, AList.lookup_insert_ne equal]
    exact apart id

theorem Alike.symm {cqid : Nat} {ndev other : NvmeDevice}
    (alike : Alike cqid ndev other) : Alike cqid other ndev := by
  obtain ⟨cqs, rfl, apart⟩ := alike
  exact ⟨ndev.cqs, rfl, fun id => (apart id).symm⟩

section Handling

variable {cqid : Nat} {ndev other : NvmeDevice}

theorem Alike.setSq (alike : Alike cqid ndev other) (id : Nat) (sq : NvmeSq) :
    Alike cqid (ndev.setSq id sq) (other.setSq id sq) := by
  obtain ⟨cqs, rfl, apart⟩ := alike
  exact ⟨cqs, rfl, apart⟩

theorem Alike.findSq (alike : Alike cqid ndev other) (id : Nat) :
    other.findSq id = ndev.findSq id := by
  obtain ⟨cqs, rfl, _⟩ := alike
  rfl

theorem Alike.irqSet (alike : Alike cqid ndev other) :
    other.irqSet = ndev.irqSet := by
  obtain ⟨cqs, rfl, _⟩ := alike
  rfl

theorem Alike.releasePrps (alike : Alike cqid ndev other)
    (prps : Option Nat) :
    Alike cqid (ndev.releasePrps prps) (other.releasePrps prps) := by
  obtain ⟨cqs, rfl, apart⟩ := alike
  refine ⟨cqs, withCqs_releasePrps ndev cqs prps, ?_⟩
  rw [NvmeDevice.releasePrps_cqs]
  exact apart

theorem Alike.deleteCmd (alike : Alike cqid ndev other) (sqId : Nat)
    (cmd : NvmeCmd) :
    Alike cqid (ndev.deleteCmd sqId cmd) (other.deleteCmd sqId cmd) := by
  obtain ⟨cqs, rfl, apart⟩ := alike
  refine ⟨cqs, withCqs_deleteCmd ndev cqs sqId cmd, ?_⟩
  rw [NvmeDevice.deleteCmd_cqs]
  exact apart

theorem Alike.dnvmeDeleteSq (alike : Alike cqid ndev other) (sqId : Nat) :
    Alike cqid (dnvmeDeleteSq ndev sqId) (dnvmeDeleteSq other sqId) := by
  obtain ⟨cqs, rfl, apart⟩ := alike
  refine ⟨cqs, withCqs_dnvmeDeleteSq ndev cqs sqId, ?_⟩
  rw [dnvmeDeleteSq_cqs]
  exact apart

/-- Deleting a queue does not read its tail. -/
theorem Alike.dnvmeDeleteCq (alike : Alike cqid ndev other) (id : Nat) :
    Alike cqid (dnvmeDeleteCq ndev id) (dnvmeDeleteCq other id) := by
  obtain ⟨cqs, rfl, apart⟩ := alike
  have looked : (withCqs ndev cqs).findCq id = cqs.lookup id := rfl
  unfold Driver.dnvmeDeleteCq
  rw [looked]
  cases found : ndev.findCq id with
  | none =>
      rw [apart.none found]
      exact ⟨cqs, rfl, apart⟩
  | some cq =>
      obtain ⟨tail, there⟩ := apart.some found
      rw [there]
      unfold dnvmeReleaseCq
      dsimp only
      split
      · exact ⟨cqs.erase cq.qId, rfl, apart.erase _⟩
      · exact Alike.releasePrps ⟨cqs.erase cq.qId, rfl, apart.erase _⟩ _

/-- Two results with the same value and devices that are alike. -/
def AlikeResults (cqid : Nat) (first second : Int × NvmeDevice) : Prop :=
  second.1 = first.1 ∧ Alike cqid first.2 second.2

theorem Alike.handleQueueCmdCompletion (alike : Alike cqid ndev other)
    (sqId : Nat) (cmd : NvmeCmd) (type : NvmeQueueType) (frees : Bool) :
    AlikeResults cqid (handleQueueCmdCompletion ndev sqId cmd type frees)
      (handleQueueCmdCompletion other sqId cmd type frees) := by
  unfold Driver.handleQueueCmdCompletion
  split
  · exact ⟨rfl, alike.deleteCmd sqId cmd⟩
  · split
    · exact ⟨rfl, alike.deleteCmd sqId cmd⟩
    · cases type with
      | cq => exact ⟨rfl, (alike.dnvmeDeleteCq _).deleteCmd sqId cmd⟩
      | sq => exact ⟨rfl, (alike.dnvmeDeleteSq _).deleteCmd sqId cmd⟩

theorem Alike.handleGenCmdCompletion (alike : Alike cqid ndev other)
    (sqId : Nat) (cmd : NvmeCmd) :
    AlikeResults cqid (handleGenCmdCompletion ndev sqId cmd)
      (handleGenCmdCompletion other sqId cmd) :=
  ⟨rfl, (alike.releasePrps cmd.prps).deleteCmd sqId cmd⟩

theorem Alike.handleAdminCmdCompletion (alike : Alike cqid ndev other)
    (sqId : Nat) (cmd : NvmeCmd) (status : Nat) :
    AlikeResults cqid (handleAdminCmdCompletion ndev sqId cmd status)
      (handleAdminCmdCompletion other sqId cmd status) := by
  unfold Driver.handleAdminCmdCompletion
  cases adminOpcode cmd.opcode with
  | deleteSq => exact alike.handleQueueCmdCompletion _ _ _ _
  | createSq => exact alike.handleQueueCmdCompletion _ _ _ _
  | deleteCq => exact alike.handleQueueCmdCompletion _ _ _ _
  | createCq => exact alike.handleQueueCmdCompletion _ _ _ _
  | other => exact alike.handleGenCmdCompletion _ _

/-- Handling a completion does not read a tail. -/
theorem Alike.handleCmdCompletion (alike : Alike cqid ndev other)
    (entry : NvmeCompletion) :
    AlikeResults cqid (handleCmdCompletion ndev entry)
      (handleCmdCompletion other entry) := by
  unfold Driver.handleCmdCompletion
  rw [alike.findSq]
  cases ndev.findSq entry.sqId with
  | none => exact ⟨rfl, alike⟩
  | some sq =>
      have headed := alike.setSq entry.sqId
        { sq with headPtr := entry.sqHead }
      dsimp only
      cases dnvmeFindCmd sq entry.commandId with
      | none => exact ⟨rfl, headed⟩
      | some cmd =>
          dsimp only
          split
          · exact headed.handleAdminCmdCompletion _ _ _
          · exact headed.handleGenCmdCompletion _ _

/-- A slot is read alike. -/
theorem Alike.cqSlot (alike : Alike cqid ndev other) (cq : NvmeCq)
    (tail slot : Nat) :
    other.cqSlot { cq with tailPtr := tail } slot = ndev.cqSlot cq slot := by
  obtain ⟨cqs, rfl, _⟩ := alike
  rfl

/-- Copies with the same outcome and devices that are alike. -/
def AlikeCopies (cqid : Nat) : Outcome CopyResult → Outcome CopyResult → Prop
  | .error oops, second => second = .error oops
  | .ok first, second => ∃ other, Alike cqid first.ndev other ∧
      second = .ok { first with ndev := other }

/-- The copy loop does not read a tail. -/
theorem Alike.copyCqData (copyOk : Nat → Bool) (count : Nat) :
    ∀ {slot : Nat} {ndev other : NvmeDevice} {copied : List NvmeCompletion},
      Alike cqid ndev other →
      AlikeCopies cqid (copyCqData cqid copyOk count slot ndev copied)
        (copyCqData cqid copyOk count slot other copied) := by
  induction count with
  | zero =>
      intro slot ndev other copied alike
      exact ⟨other, alike, rfl⟩
  | succ count ih =>
      intro slot ndev other copied alike
      obtain ⟨cqs, equal, apart⟩ := id alike
      rw [Driver.copyCqData, Driver.copyCqData]
      have lookup : other.findCq cqid = cqs.lookup cqid := by
        rw [equal]
        rfl
      cases found : ndev.findCq cqid with
      | none =>
          rw [lookup, apart.none found]
          rfl
      | some cq =>
          obtain ⟨tail, there⟩ := apart.some found
          rw [lookup, there]
          dsimp only
          rw [alike.cqSlot]
          cases ndev.cqSlot cq slot with
          | none => rfl
          | some entry =>
              obtain ⟨value, after⟩ := alike.handleCmdCompletion entry
              dsimp only
              rw [value]
              obtain ⟨later, handled, still⟩ := id after
              have again : (Driver.handleCmdCompletion other entry).2.findCq
                  cqid = later.lookup cqid := by
                rw [handled]
                rfl
              cases left :
                  (Driver.handleCmdCompletion ndev entry).2.findCq cqid with
              | none =>
                  rw [again, still.none left]
                  rfl
              | some kept =>
                  obtain ⟨moved, here⟩ := still.some left
                  rw [again, here]
                  dsimp only
                  split
                  · exact ⟨_, after, rfl⟩
                  · split
                    · exact ⟨_, after, rfl⟩
                    · exact ih after

/-- A `BUG_ON` on the way is hit on both sides. -/
theorem Alike.copyEntries (alike : Alike cqid ndev other)
    (copyOk : Nat → Bool) (count head : Nat) :
    AlikeCopies cqid (copyEntries cqid copyOk count head ndev)
      (copyEntries cqid copyOk count head other) := by
  have copies : AlikeCopies cqid
      (Driver.copyCqData cqid copyOk count head ndev [])
      (Driver.copyCqData cqid copyOk count head other []) :=
    alike.copyCqData copyOk count
  unfold Driver.copyEntries
  cases copied : Driver.copyCqData cqid copyOk count head ndev [] with
  | error oops =>
      rw [copied] at copies
      rw [copies]
      rfl
  | ok copy =>
      rw [copied] at copies
      obtain ⟨later, after, equal⟩ := copies
      have bugs : later.bug = copy.ndev.bug := by
        obtain ⟨cqs, rfl, _⟩ := after
        rfl
      rw [equal]
      dsimp only
      rw [bugs]
      split
      · rfl
      · exact ⟨later, after, rfl⟩

end Handling

/-! ## Devices in the same state -/

/-- The same devices, seen through the lookups of their queues. -/
def SameState (ndev other : NvmeDevice) : Prop :=
  ∃ cqs, other = withCqs ndev cqs ∧
    ∀ id, cqs.lookup id = ndev.cqs.lookup id

section Same

variable {ndev other : NvmeDevice}

theorem SameState.findCq (same : SameState ndev other) (id : Nat) :
    other.findCq id = ndev.findCq id := by
  obtain ⟨cqs, rfl, lookups⟩ := same
  exact lookups id

theorem SameState.setCq (same : SameState ndev other) (id : Nat)
    (cq : NvmeCq) : SameState (ndev.setCq id cq) (other.setCq id cq) := by
  obtain ⟨cqs, rfl, lookups⟩ := same
  refine ⟨cqs.insert id cq, rfl, fun key => ?_⟩
  change (cqs.insert id cq).lookup key = (ndev.cqs.insert id cq).lookup key
  by_cases equal : key = id
  · rw [equal, AList.lookup_insert, AList.lookup_insert]
  · rw [AList.lookup_insert_ne equal, AList.lookup_insert_ne equal]
    exact lookups key

theorem SameState.irqSet (same : SameState ndev other) :
    other.irqSet = ndev.irqSet := by
  obtain ⟨cqs, rfl, _⟩ := same
  rfl

theorem SameState.withIrqSet (same : SameState ndev other)
    (irqSet : NvmeIrqSet) :
    SameState { ndev with irqSet := irqSet }
      { other with irqSet := irqSet } := by
  obtain ⟨cqs, rfl, lookups⟩ := same
  exact ⟨cqs, rfl, lookups⟩

theorem SameState.unmask (same : SameState ndev other) (irqNo : Nat) :
    SameState (ndev.unmask irqNo) (other.unmask irqNo) := by
  unfold NvmeDevice.unmask
  rw [same.irqSet]
  exact same.withIrqSet _

/-- The same outcome, with devices in the same state. -/
def SameOutcome {α : Type} (first second : Outcome (α × NvmeDevice)) :
    Prop :=
  match first with
  | .error oops => second = .error oops
  | .ok (value, ndev) => ∃ other, SameState ndev other ∧
      second = .ok (value, other)

theorem SameState.scan (same : SameState ndev other) (cqid : Nat)
    (cq : NvmeCq) : SameOutcome (ndev.scan cqid cq) (other.scan cqid cq) := by
  have remain : dnvmeGetCqeRemain other cq = dnvmeGetCqeRemain ndev cq := by
    obtain ⟨cqs, rfl, _⟩ := same
    rfl
  unfold NvmeDevice.scan
  rw [remain]
  cases dnvmeGetCqeRemain ndev cq with
  | error oops => rfl
  | ok found => exact ⟨_, same.setCq cqid found.2, rfl⟩

theorem SameState.scanIcqs (icqs : List Nat) :
    ∀ {ndev other : NvmeDevice}, SameState ndev other →
      SameOutcome (scanIcqs ndev icqs) (scanIcqs other icqs) := by
  induction icqs with
  | nil =>
      intro ndev other same
      exact ⟨other, same, rfl⟩
  | cons cqid rest ih =>
      intro ndev other same
      rw [Driver.scanIcqs, Driver.scanIcqs, same.findCq]
      cases ndev.findCq cqid with
      | none => exact ⟨other, same, rfl⟩
      | some cq =>
          dsimp only
          have scans := same.scan cqid cq
          cases result : ndev.scan cqid cq with
          | error oops =>
              rw [result] at scans
              rw [scans]
              rfl
          | ok found =>
              rw [result] at scans
              obtain ⟨after, still, equal⟩ := scans
              rw [equal]
              dsimp only
              split
              · exact ⟨after, still, rfl⟩
              · exact ih still

/-- The flag is reset alike. -/
theorem SameState.dnvmeResetIsrFlag (same : SameState ndev other)
    (irqNo : Nat) :
    match dnvmeResetIsrFlag ndev irqNo with
    | .error oops => dnvmeResetIsrFlag other irqNo = .error oops
    | .ok (ret, cleared, reset) => ∃ after, SameState reset after ∧
        dnvmeResetIsrFlag other irqNo = .ok (ret, cleared, after) := by
  unfold Driver.dnvmeResetIsrFlag
  rw [same.irqSet]
  cases ndev.irqSet.findIrqNodeById irqNo with
  | none => exact ⟨other, same, rfl⟩
  | some irq =>
      dsimp only
      have scans := SameState.scanIcqs irq.icqList same
      cases result : Driver.scanIcqs ndev irq.icqList with
      | error oops =>
          rw [result] at scans
          rw [scans]
      | ok found =>
          obtain ⟨value, scanned⟩ := found
          rw [result] at scans
          obtain ⟨after, still, equal⟩ := scans
          rw [equal]
          cases value with
          | error ret => exact ⟨after, still, rfl⟩
          | ok empty =>
              cases empty with
              | false => exact ⟨after, still, rfl⟩
              | true =>
                  dsimp only
                  rw [still.irqSet]
                  exact ⟨_, still.withIrqSet _, rfl⟩

end Same

/-! ## Both paths -/

section Paths

variable {ndev : NvmeDevice} {cqid count total : Nat} {cq : NvmeCq}

theorem alike_scanned (found : ndev.findCq cqid = some cq) (tail : Nat) :
    Alike cqid ndev (ndev.setCq cqid { cq with tailPtr := tail }) := by
  refine ⟨ndev.cqs.insert cqid { cq with tailPtr := tail }, rfl,
    fun id => ?_⟩
  by_cases equal : id = cqid
  · rw [equal, AList.lookup_insert, show ndev.cqs.lookup cqid = some cq from
      found, Option.map_some, Option.map_some, forgetTail, forgetTail,
      if_pos rfl, if_pos rfl]
  · rw [AList.lookup_insert_ne equal]

theorem updateCqHead_tail (cq : NvmeCq) (count tail : Nat) :
    updateCqHead { cq with tailPtr := tail } count =
      { updateCqHead cq count with tailPtr := tail } := by
  unfold updateCqHead
  dsimp only
  split
  · rfl
  · rfl

/-- The scan of the moved queue finds the rest of the first scan. -/
theorem rescan {moved : NvmeDevice} (sane : Sane cq)
    (small : cq.elements < 2 ^ 16) (less : count < cq.elements)
    (within : count ≤ total) (readable : Readable ndev cq total)
    (run : RunLength cq total)
    (span : moved.cqSpan (updateCqHead cq count) = ndev.cqSpan cq) :
    dnvmeGetCqeRemain moved (updateCqHead cq count) =
      .ok (total - count,
        { updateCqHead cq count with tailPtr := slotFrom cq total }) := by
  have fits : cq.elements ≤ 2 ^ 16 := small.le
  have kept := updateCqHead_kept cq count
  have last := (slotFrom_updateCqHead sane fits less (total - count)).1
  rw [Nat.add_sub_cancel' within] at last
  refine (dnvmeGetCqeRemain_iff (sane.updateCqHead fits less) ?_).mpr
    ⟨by rw [last], ?_, run.updateCqHead sane fits less within⟩
  · rw [kept.elements]
    exact small
  · intro k reached
    have here := readable (count + k) (by omega)
    rw [(slotFrom_updateCqHead sane fits less k).1,
      CqScan.updateCqHead_entries]
    unfold NvmeDevice.cqSlot at here ⊢
    rw [span, kept.cqes, CqScan.updateCqHead_entries]
    exact here

/-- After the scan the tails are the same. -/
theorem sameState_scanned {other : NvmeDevice} (alike : Alike cqid ndev other)
    (cq changed : NvmeCq) :
    SameState (other.setCq cqid changed)
      ((ndev.setCq cqid cq).setCq cqid changed) := by
  obtain ⟨cqs, rfl, apart⟩ := alike
  refine ⟨(ndev.cqs.insert cqid cq).insert cqid changed, rfl, fun id => ?_⟩
  change _ = (cqs.insert cqid changed).lookup id
  by_cases equal : id = cqid
  · rw [equal, AList.lookup_insert, AList.lookup_insert]
  · rw [AList.lookup_insert_ne equal, AList.lookup_insert_ne equal,
      AList.lookup_insert_ne equal]
    have same := apart id
    have whole : forgetTail cqid id = fun cq => cq := by
      funext cq
      exact if_neg equal
    rw [whole, Option.map_id', Option.map_id'] at same
    exact same.symm

end Paths

/-- All copies to and from the user succeed. -/
def copiesSucceed : ReapEnv := ⟨true, fun _ => true, true⟩

/-- The outcome of the legacy path, with its report, and that of the other
path: the same oops, or the same entries, count and state. -/
def ReapsAgree (most : Nat) (report : Option (Nat × Nat))
    (legacy reap : Outcome ReapResult) : Prop :=
  match legacy with
  | .error oops => reap = .error oops
  | .ok first => ∃ second reaped remained, reap = .ok second ∧
      report = some (reaped, remained) ∧ first.ret = 0 ∧
      second.ret = reaped ∧ second.copied = first.copied ∧
      first.copied.length ≤ most ∧ second.cleared = first.cleared ∧
      second.unmasked = first.unmasked ∧ SameState first.ndev second.ndev

/-- The ends of both paths, in devices in the same state. -/
theorem ends_agree {legacy reap : NvmeDevice} {most reaped remained : Nat}
    {type : NvmeIrqType} {enabled irqNo : Nat}
    {copied : List NvmeCompletion} (same : SameState legacy reap)
    (length : copied.length ≤ most)
    (resets : type ≠ .none → enabled = 1 → ∀ ret cleared next,
      dnvmeResetIsrFlag legacy irqNo = .ok (ret, cleared, next) → ret = 0) :
    ReapsAgree most (some (reaped, remained))
      (if type ≠ .none ∧ enabled = 1 ∧ remained = 0 then
        match dnvmeResetIsrFlag legacy irqNo with
        | .error oops => .error oops
        | .ok (ret, cleared, reset) =>
            if ret < 0 then .ok ⟨ret, copied, none, none, reset⟩
            else
              .ok ⟨0, copied, if cleared then some irqNo else none,
                some irqNo, reset.unmask irqNo⟩
      else .ok ⟨0, copied, none, none, legacy⟩)
      (if type ≠ .none ∧ enabled = 1 ∧ remained = 0 then
        match dnvmeResetIsrFlag reap irqNo with
        | .error oops => .error oops
        | .ok (_, cleared, reset) =>
            .ok ⟨reaped, copied, if cleared then some irqNo else none,
              some irqNo, reset.unmask irqNo⟩
      else .ok ⟨reaped, copied, none, none, reap⟩) := by
  split
  · rename_i idle
    have alike := same.dnvmeResetIsrFlag irqNo
    cases reset : dnvmeResetIsrFlag legacy irqNo with
    | error oops =>
        rw [reset] at alike
        rw [alike]
        rfl
    | ok result =>
        obtain ⟨ret, cleared, after⟩ := result
        rw [reset] at alike
        obtain ⟨final, still, equal⟩ := alike
        have zero := resets idle.1 idle.2.1 ret cleared after reset
        subst zero
        rw [equal]
        exact ⟨_, reaped, remained, rfl, rfl, rfl, rfl, rfl, length, rfl,
          rfl, still.unmask irqNo⟩
  · exact ⟨_, reaped, remained, rfl, rfl, rfl, rfl, rfl, length, rfl, rfl,
      same⟩

/-- The interrupt of a queue has its node, and all the queues it lists are
there. -/
def IrqPresent (ndev : NvmeDevice) (cq : NvmeCq) : Prop :=
  ∃ irq, ndev.irqSet.findIrqNodeById cq.irqNo = some irq ∧
    ∀ id ∈ irq.icqList, (ndev.findCq id).isSome

theorem IrqPresent.canReset {ndev : NvmeDevice} {cq : NvmeCq}
    (books : Bookkeeping ndev) (present : IrqPresent ndev cq) :
    CanReset ndev cq.irqNo := by
  obtain ⟨irq, found, listed⟩ := present
  have member := List.mem_of_find?_eq_some found
  have id : irq.irqId = cq.irqNo := by simpa using List.find?_some found
  refine ⟨List.mem_map.mpr ⟨irq, member, id⟩, fun zero => ?_⟩
  have first := books.admin irq member (id.trans zero)
  exact listed _ (List.mem_of_mem_head? first)

section Copied

variable {ndev other : NvmeDevice} {cqid total count reaped : Nat}
  {cq : NvmeCq} {copyOk : Nat → Bool} {copy : CopyResult}

/-- Both devices after the copy and the move of the head: the scan that
follows on one side makes them the same. -/
theorem sameState_after_copy (inReap : InReap ndev ndev)
    (found : ndev.findCq cqid = some cq) (sane : Sane cq)
    (fits : cq.elements < 2 ^ 16) (readable : Readable ndev cq total)
    (run : RunLength cq total) (less : reaped < cq.elements)
    (within : reaped ≤ total)
    (copied : copyCqData cqid copyOk count cq.headPtr ndev [] = .ok copy)
    (legacy : copyCqData cqid copyOk count cq.headPtr
      (ndev.setCq cqid { cq with tailPtr := slotFrom cq total }) [] =
        .ok { copy with ndev := other })
    (alike : Alike cqid copy.ndev other) :
    ∃ reap, copy.ndev.updateCqHead cqid reaped =
        copy.ndev.setCq cqid (updateCqHead cq reaped) ∧
      (copy.ndev.setCq cqid (updateCqHead cq reaped)).scan cqid
        (updateCqHead cq reaped) = .ok (total - reaped, reap) ∧
      SameState (other.updateCqHead cqid reaped) reap := by
  have here := copyCqData_findCq count found copied
  have there := copyCqData_findCq count
    (NvmeDevice.findCq_setCq ndev cqid _) legacy
  have kept := updateCqHead_kept cq reaped
  have span : (copy.ndev.setCq cqid (updateCqHead cq reaped)).cqSpan
      (updateCqHead cq reaped) = ndev.cqSpan cq := by
    have held := ((inReap_closed ndev).copyCqData count inReap copied).held
    have same := cqSpan_of_heap held here (copyCqData_heap count copied)
    unfold NvmeDevice.cqSpan at same ⊢
    rw [kept.contig, kept.buf, kept.size, kept.prps]
    exact same
  have again := rescan sane fits less within readable run span
  have head : other.updateCqHead cqid reaped = other.setCq cqid
      { updateCqHead cq reaped with tailPtr := slotFrom cq total } := by
    rw [NvmeDevice.updateCqHead, show other.findCq cqid = _ from there,
      ← updateCqHead_tail]
  refine ⟨(copy.ndev.setCq cqid (updateCqHead cq reaped)).setCq cqid
    { updateCqHead cq reaped with tailPtr := slotFrom cq total }, ?_, ?_, ?_⟩
  · rw [NvmeDevice.updateCqHead, here]
  · rw [NvmeDevice.scan, again]
  · rw [head]
    exact sameState_scanned alike _ _

end Copied

/-- The two paths reap alike. -/
theorem reap_paths_agree {ndev : NvmeDevice} {cqid total count : Nat}
    {cq scanned : NvmeCq} (reachable : Reachable (fun _ _ _ => True) ndev)
    (found : ndev.findCq cqid = some cq) (small : cq.elements ≤ 65535)
    (unreaped : dnvmeGetCqeRemain ndev cq = .ok (total, scanned))
    (notFull : total < cq.elements) (asked : 1 ≤ count)
    (within : count ≤ total) {buf size : Nat} (pointer : buf ≠ 0)
    (room : count * 2 ^ cq.cqes ≤ size)
    (present : ndev.irqSet.irqType ≠ .none → cq.irqEnabled = 1 →
      IrqPresent ndev cq) :
    ReapsAgree count (legacyReport copiesSucceed ndev ⟨cqid, count, size⟩)
      (dnvmeReapCqeLegacy copiesSucceed ndev ⟨cqid, count, size⟩)
      (dnvmeReapCqe (fun _ => true) ndev cqid count buf size) := by
  have sane := (Reachable.wellFormed reachable cqid cq found).sane
  have fits : cq.elements < 2 ^ 16 := by omega
  have start := Reachable.inReap reachable
  obtain ⟨rfl, readable, run⟩ :=
    (dnvmeGetCqeRemain_iff sane fits).mp unreaped
  have scan : ndev.scan cqid cq = .ok (total, ndev.setCq cqid
      { cq with tailPtr := slotFrom cq total }) := by
    rw [NvmeDevice.scan, unreaped]
  have wanted : min (NvmeReap.room ⟨cqid, count, size⟩ cq.cqes) total =
      count := by
    have entries : count ≤ size / 2 ^ cq.cqes :=
      (Nat.le_div_iff_mul_le (Nat.two_pow_pos _)).mpr room
    rw [NvmeReap.room, if_pos (by omega : count ≠ 0),
      Nat.min_eq_left entries, Nat.min_eq_left within]
  have enough : ¬ size < u32 (count * 2 ^ cq.cqes) :=
    not_lt.mpr ((Nat.mod_le _ _).trans room)
  have positive : count ≠ 0 := by omega
  have copies := (alike_scanned found (slotFrom cq total)).copyEntries
    (fun _ => true) count cq.headPtr
  unfold legacyReport dnvmeReapCqeLegacy dnvmeReapCqe copiesSucceed
  simp only [Bool.not_true, Bool.false_eq_true, if_false, found, scan,
    wanted, ge_iff_le, not_le.mpr notFull, positive, pointer, enough]
  cases entries : copyEntries cqid (fun _ => true) count cq.headPtr ndev with
  | error oops =>
      rw [entries] at copies
      rw [copies]
      rfl
  | ok copy =>
      rw [entries] at copies
      obtain ⟨other, alike, equal⟩ := copies
      have copied := copyCqData_of_copyEntries entries
      have legacy := copyCqData_of_copyEntries equal
      obtain ⟨least, progress, length⟩ := copyCqData_counts count copied
      have some_ := progress (by omega)
      rw [List.length_nil, Nat.zero_add] at length
      obtain ⟨reap, head, again, same⟩ :=
        @sameState_after_copy _ _ _ _ _ (count - copy.left) _ _ _ start found
          sane fits readable run (by omega) (by omega) copied legacy alike
      have books := (inReap_closed ndev).head cqid (count - copy.left)
        ((inReap_closed ndev).copyCqData count
          ((inReap_closed ndev).scan start found scan) legacy)
      rw [equal]
      dsimp only
      rw [if_neg (by omega : count - copy.left ≠ 0),
        if_neg (by omega : count - copy.left ≠ 0), head,
        NvmeDevice.findCq_setCq]
      dsimp only
      rw [again]
      dsimp only
      rw [show total - count + copy.left = total - (count - copy.left) by
        omega, updateCqHead_irqEnabled, updateCqHead_irqNo]
      refine ends_agree same (by omega) fun type enabled ret cleared next
        reset => ?_
      have can := ((present type enabled).canReset
        start.order.books).steady books.steady
      exact dnvmeResetIsrFlag_zero books.order.books can reset

/-- Two completion queues share an interrupt. -/
def sharedDevice : NvmeDevice :=
  (dnvmePrepareCq ⟨true, some 8192, true⟩ true
    (dnvmeCreateAcq ⟨true, some 4096, true⟩ pinDevice 4).2 sharedPrep).2

theorem sharedDevice_reachable (rule : SubmitRule) :
    Reachable rule sharedDevice :=
  ((pinDevice_reachable rule).next
    (.createAcq ⟨true, some 4096, true⟩ 4) (fun _ _ => nofun) rfl).next
      (.prepareCq ⟨true, some 8192, true⟩ true sharedPrep)
      (fun _ _ => nofun) rfl

/-- A new entry that names a submission queue that does not exist. -/
def strayEntry : NvmeCompletion := ⟨0, 0, 7, 0, 1⟩

/-- The second queue after the device wrote the entry. -/
def postedQueue : NvmeCq :=
  { sharedPrep.queue nvmeCqes 8192 with
    entries := Function.update (fun _ => .zero) 0 strayEntry }

/-- The completion of the first request on the admin queue. -/
def answerEntry : NvmeCompletion := ⟨0, 1, 0, 0, 1⟩

/-- The admin completion queue holds the answer to a request and then an entry
that makes the copy stop. -/
theorem reap_paths_agree_stray :
    ∃ ndev cq, Reachable (fun _ _ _ => True) ndev ∧
      ndev.findCq 0 = some cq ∧ cq.entries 0 = answerEntry ∧
      cq.entries 1 = strayEntry ∧
      ReapsAgree 2 (legacyReport copiesSucceed ndev ⟨0, 2, 32⟩)
        (dnvmeReapCqeLegacy copiesSucceed ndev ⟨0, 2, 32⟩)
        (dnvmeReapCqe (fun _ => true) ndev 0 2 4096 32) := by
  have admin := (sharedDevice_reachable fun _ _ _ => True).next
    (.createAsq ⟨true, some 12288, true⟩ 3) (fun _ _ => nofun) rfl
  have waits := admin.next
    (.submit64bCmd CommandId.eventEnv (CommandId.eventCmd false))
    (fun _ _ _ => trivial) rfl
  have answered := waits.next (.post 0 0 answerEntry) (fun _ _ => nofun) rfl
  have strays := answered.next (.post 0 1 strayEntry) (fun _ _ => nofun) rfl
  refine ⟨_, _, strays, rfl, rfl, rfl, ?_⟩
  refine reap_paths_agree strays rfl (by decide) rfl (by decide) (by decide)
    (by decide) (by decide) (by decide) fun _ _ => ?_
  exact ⟨⟨0, 0, false, 0, [0, 1]⟩, rfl, by decide⟩

end Dnvme.Driver.ReapAgreement
