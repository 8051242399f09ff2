import Dnvme.Lib.Results
import Dnvme.Driver.Frame

/-!
# What a submission does

`dnvme_submit_64b_cmd` either refuses a request, and then at most the next
identifier of the queue has changed, or it accepts it.  An accepted submission
is described by what it does to every queue object, one function for
submission queues and one for completion queues, so that later modules never
look into the code paths that lead there.
-/

namespace Dnvme.Driver

open Dnvme.Lib.Results

/-! ## Setting up a data pointer -/

/-- Taking back what was put in front. -/
theorem foldl_erase_append (pages rest : List Nat) :
    pages.foldl List.erase (pages ++ rest) = rest := by
  induction pages with
  | nil => rfl
  | cons page pages ih => simpa using ih

/-- What setting up a data pointer keeps; the list pages it takes from the
pool are the ones that `dnvme_free_prp_list` gives back. -/
structure SetupKeeps (poolPages : List Nat) (ccmd : NvmeCommonCommand)
    (prps : NvmePrps) (result : SetupResult) : Prop where
  ccmd : ∃ dptr, result.ccmd = { ccmd with dptr := dptr }
  buf : result.prps.buf = prps.buf
  numMapPgs : result.prps.numMapPgs = prps.numMapPgs
  sg : result.prps.sg = prps.sg
  failed : result.ret < 0 → result.poolPages = poolPages
  listed : 0 ≤ result.ret → prps.prpList = none →
    dnvmeFreePrpList result.prps result.poolPages = poolPages

theorem SetupKeeps.same (ccmd : NvmeCommonCommand) (prps : NvmePrps)
    (ret : Int) (dptr : NvmeDataPtr) (poolPages : List Nat) :
    SetupKeeps poolPages ccmd prps
      ⟨ret, { ccmd with dptr := dptr }, prps, poolPages⟩ :=
  ⟨⟨dptr, rfl⟩, rfl, rfl, rfl, fun _ => rfl, fun _ unlisted => by
    rw [dnvmeFreePrpList, unlisted]⟩

/-- A change of the data pointer before the set up does not count. -/
theorem SetupKeeps.of_dptr {poolPages : List Nat} {ccmd : NvmeCommonCommand}
    {prps : NvmePrps} {dptr : NvmeDataPtr} {result : SetupResult}
    (keeps : SetupKeeps poolPages { ccmd with dptr := dptr } prps result) :
    SetupKeeps poolPages ccmd prps result := by
  rcases keeps.ccmd with ⟨last, equal⟩
  exact ⟨⟨last, equal⟩, keeps.buf, keeps.numMapPgs, keeps.sg, keeps.failed,
    keeps.listed⟩

/-- A list on freshly allocated pages is freed completely. -/
theorem SetupKeeps.of_pages {env : ListEnv} {poolPages prpDma : List Nat}
    {ccmd filled : NvmeCommonCommand} {prps : NvmePrps} {nrPages : Nat}
    (allocated : allocListPages env nrPages = some prpDma)
    (pages : ListPages) (nrEntry : Nat) (ret : Int)
    (pointed : ∃ dptr, filled = { ccmd with dptr := dptr }) :
    SetupKeeps poolPages ccmd prps
      ⟨ret, filled,
        { prps with
          prpList := some pages
          nrPages := nrPages
          pgAddr := prpDma
          nrEntry := nrEntry },
        if ret < 0 then poolPages else prpDma ++ poolPages⟩ := by
  refine ⟨pointed, rfl, rfl, rfl, fun fails => if_pos fails, ?_⟩
  intro succeeds _
  dsimp only at succeeds
  have length := (allocListPages_some allocated).1
  simp only [dnvmeFreePrpList, if_neg (not_lt.mpr succeeds)]
  rw [List.take_of_length_le (Nat.le_of_eq length), foldl_erase_append]

theorem buildPrpList_keeps {env : ListEnv} {poolPages : List Nat}
    {flag : PrpListFlag} {ccmd : NvmeCommonCommand} {prps : NvmePrps}
    {bufLen dmaLen : Int} {pgOft : Fin pageSize} {dmaAddr : Nat}
    {sg : List ScatterEntry} {result : SetupResult}
    (built : buildPrpList env poolPages flag ccmd prps bufLen pgOft dmaAddr
      dmaLen sg = .ok result) :
    SetupKeeps poolPages ccmd prps result := by
  unfold buildPrpList at built
  dsimp only at built
  split at built
  · cases built
    exact SetupKeeps.same ccmd prps _ ccmd.dptr _
  · rename_i prpDma allocated
    split at built
    · cases built
    · cases built
      refine SetupKeeps.of_pages allocated _ _ _ ?_
      cases flag with
      | prp1List => exact ⟨_, rfl⟩
      | prp2List => exact ⟨_, rfl⟩

theorem dnvmeSetupPrps_keeps {env : ListEnv} {poolPages : List Nat}
    {cmd : Nvme64bCmd} {ccmd : NvmeCommonCommand} {prps : NvmePrps}
    {result : SetupResult}
    (done : dnvmeSetupPrps env poolPages cmd ccmd prps = .ok result) :
    SetupKeeps poolPages ccmd prps result := by
  unfold dnvmeSetupPrps at done
  split at done
  · cases done
  · cases done
  · extract_lets dmaAddr dmaLen pgOft bufLen pointed left dmaLeft next
      at done
    -- which scatter entry comes next does not matter here
    clear_value next
    split at done
    · split at done
      · cases done
        exact SetupKeeps.same ccmd prps _ ccmd.dptr _
      · exact buildPrpList_keeps done
    · split at done
      · cases done
        exact SetupKeeps.same ccmd prps _ ccmd.dptr _
      · split at done
        · cases done
          exact SetupKeeps.same ccmd prps _ _ _
        · split at done
          · cases done
          · split at done
            · split at done
              · cases done
                exact SetupKeeps.same ccmd prps _ _ _
              · cases done
                exact SetupKeeps.same ccmd prps _ _ _
            · split at done
              · cases done
                exact SetupKeeps.same ccmd prps _ _ _
              · exact (buildPrpList_keeps done).of_dptr

theorem layoutSgl_keeps (env : ListEnv) (poolPages : List Nat)
    (ccmd : NvmeCommonCommand) (prps : NvmePrps)
    (descList : List SglDescEntry) :
    SetupKeeps poolPages ccmd prps
      (layoutSgl env poolPages ccmd prps descList) := by
  unfold layoutSgl
  dsimp only
  split
  · exact ⟨⟨ccmd.dptr, rfl⟩, rfl, rfl, rfl, fun _ => rfl,
      fun succeeds => absurd succeeds (show ¬0 ≤ -Errno.ENOMEM by decide)⟩
  · rename_i prpDma allocated
    exact SetupKeeps.of_pages allocated _ _ 0 ⟨_, rfl⟩

theorem dnvmeCmdSetupSgl_keeps {env : SglEnv} {poolPages : List Nat}
    {cmd : Nvme64bCmd} {ccmd : NvmeCommonCommand} {prps : NvmePrps}
    {result : SetupResult}
    (done : dnvmeCmdSetupSgl env poolPages cmd ccmd prps = .ok result) :
    SetupKeeps poolPages ccmd prps result := by
  unfold dnvmeCmdSetupSgl at done
  split at done
  · obtain ⟨ret, _, rfl⟩ := setupSglUnmapped_fails done
    exact SetupKeeps.same ccmd prps _ ccmd.dptr _
  · obtain ⟨ret, _, rfl⟩ := setupSglUnmapped_fails done
    exact SetupKeeps.same ccmd prps _ ccmd.dptr _
  · dsimp only at done
    split at done
    · cases done
      exact SetupKeeps.same ccmd prps _ _ _
    · split at done
      · split at done
        · cases done
          exact SetupKeeps.same ccmd prps _ ccmd.dptr _
        · cases done
          exact layoutSgl_keeps _ _ _ _ _
      · split at done
        · cases done
          exact SetupKeeps.same ccmd prps _ ccmd.dptr _
        · split at done
          · cases done
            exact SetupKeeps.same ccmd prps _ ccmd.dptr _
          · split at done
            · cases done
              exact SetupKeeps.same ccmd prps _ ccmd.dptr _
            · cases done
              exact layoutSgl_keeps _ _ _ _ _

/-- Setting up writes the data pointer and the list, nothing else. -/
theorem setupPrps_keeps {env : SubmitEnv} {poolPages : List Nat}
    {cmd : Nvme64bCmd} {ccmd : NvmeCommonCommand} {prps : NvmePrps}
    {result : SetupResult}
    (done : setupPrps env poolPages cmd ccmd prps = .ok result) :
    SetupKeeps poolPages ccmd prps result := by
  unfold setupPrps at done
  split at done
  · cases inner : dnvmeCmdSetupSgl env.sgl poolPages cmd ccmd prps with
    | error oops => rw [inner] at done; cases done
    | ok filled =>
        rw [inner] at done
        cases done
        have keeps := dnvmeCmdSetupSgl_keeps inner
        exact ⟨keeps.ccmd, keeps.buf, keeps.numMapPgs, keeps.sg, keeps.failed,
          keeps.listed⟩
  · cases inner : dnvmeSetupPrps env.list poolPages cmd ccmd prps with
    | error oops => rw [inner] at done; cases done
    | ok filled =>
        rw [inner] at done
        cases done
        have keeps := dnvmeSetupPrps_keeps inner
        exact ⟨keeps.ccmd, keeps.buf, keeps.numMapPgs, keeps.sg, keeps.failed,
          keeps.listed⟩

/-! ## Changing one queue object -/

/-- Change the submission queue `id`, if there is one. -/
def NvmeDevice.modifySq (ndev : NvmeDevice) (id : Nat)
    (change : NvmeSq → NvmeSq) : NvmeDevice :=
  match ndev.findSq id with
  | none => ndev
  | some sq => ndev.setSq id (change sq)

/-- Change the completion queue `id`, if there is one. -/
def NvmeDevice.modifyCq (ndev : NvmeDevice) (id : Nat)
    (change : NvmeCq → NvmeCq) : NvmeDevice :=
  match ndev.findCq id with
  | none => ndev
  | some cq => ndev.setCq id (change cq)

namespace NvmeDevice

variable (ndev : NvmeDevice)

theorem findSq_modifySq (key : Nat) (change : NvmeSq → NvmeSq) (id : Nat) :
    (ndev.modifySq key change).findSq id =
      (ndev.findSq id).map fun sq => if id = key then change sq else sq := by
  unfold modifySq
  by_cases equal : id = key
  · subst id
    cases here : ndev.findSq key with
    | none => exact here
    | some sq =>
        rw [findSq_setSq]
        simp
  · simp only [equal, if_false, Option.map_id']
    cases ndev.findSq key with
    | none => rfl
    | some sq => exact findSq_setSq_ne _ _ equal

theorem findCq_modifyCq (key : Nat) (change : NvmeCq → NvmeCq) (id : Nat) :
    (ndev.modifyCq key change).findCq id =
      (ndev.findCq id).map fun cq => if id = key then change cq else cq := by
  unfold modifyCq
  by_cases equal : id = key
  · subst id
    cases here : ndev.findCq key with
    | none => exact here
    | some cq =>
        rw [findCq_setCq]
        simp
  · simp only [equal, if_false, Option.map_id']
    cases ndev.findCq key with
    | none => rfl
    | some cq => exact findCq_setCq_ne _ _ equal

/-- Changing a submission queue leaves everything else alone. -/
theorem modifySq_keeps {α : Type} (part : NvmeDevice → α)
    (keeps : ∀ ndev id sq, part (NvmeDevice.setSq ndev id sq) = part ndev)
    (key : Nat) (change : NvmeSq → NvmeSq) :
    part (ndev.modifySq key change) = part ndev := by
  unfold modifySq
  cases ndev.findSq key with
  | none => rfl
  | some sq => exact keeps _ _ _

/-- Changing a completion queue leaves everything else alone. -/
theorem modifyCq_keeps {α : Type} (part : NvmeDevice → α)
    (keeps : ∀ ndev id cq, part (NvmeDevice.setCq ndev id cq) = part ndev)
    (key : Nat) (change : NvmeCq → NvmeCq) :
    part (ndev.modifyCq key change) = part ndev := by
  unfold modifyCq
  cases ndev.findCq key with
  | none => rfl
  | some cq => exact keeps _ _ _

variable (key : Nat)

@[simp]
theorem modifySq_cqs (change : NvmeSq → NvmeSq) :
    (ndev.modifySq key change).cqs = ndev.cqs :=
  ndev.modifySq_keeps NvmeDevice.cqs (fun _ _ _ => rfl) key change

@[simp]
theorem modifySq_prpsHeap (change : NvmeSq → NvmeSq) :
    (ndev.modifySq key change).prpsHeap = ndev.prpsHeap :=
  ndev.modifySq_keeps NvmeDevice.prpsHeap (fun _ _ _ => rfl) key change

@[simp]
theorem modifySq_released (change : NvmeSq → NvmeSq) :
    (ndev.modifySq key change).released = ndev.released :=
  ndev.modifySq_keeps NvmeDevice.released (fun _ _ _ => rfl) key change

@[simp]
theorem modifySq_nextObject (change : NvmeSq → NvmeSq) :
    (ndev.modifySq key change).nextObject = ndev.nextObject :=
  ndev.modifySq_keeps NvmeDevice.nextObject (fun _ _ _ => rfl) key change

@[simp]
theorem modifySq_irqSet (change : NvmeSq → NvmeSq) :
    (ndev.modifySq key change).irqSet = ndev.irqSet :=
  ndev.modifySq_keeps NvmeDevice.irqSet (fun _ _ _ => rfl) key change

@[simp]
theorem modifySq_qDepth (change : NvmeSq → NvmeSq) :
    (ndev.modifySq key change).qDepth = ndev.qDepth :=
  ndev.modifySq_keeps NvmeDevice.qDepth (fun _ _ _ => rfl) key change

@[simp]
theorem modifySq_bug (change : NvmeSq → NvmeSq) :
    (ndev.modifySq key change).bug = ndev.bug :=
  ndev.modifySq_keeps NvmeDevice.bug (fun _ _ _ => rfl) key change

@[simp]
theorem modifyCq_sqs (change : NvmeCq → NvmeCq) :
    (ndev.modifyCq key change).sqs = ndev.sqs :=
  ndev.modifyCq_keeps NvmeDevice.sqs (fun _ _ _ => rfl) key change

@[simp]
theorem modifyCq_prpsHeap (change : NvmeCq → NvmeCq) :
    (ndev.modifyCq key change).prpsHeap = ndev.prpsHeap :=
  ndev.modifyCq_keeps NvmeDevice.prpsHeap (fun _ _ _ => rfl) key change

@[simp]
theorem modifyCq_released (change : NvmeCq → NvmeCq) :
    (ndev.modifyCq key change).released = ndev.released :=
  ndev.modifyCq_keeps NvmeDevice.released (fun _ _ _ => rfl) key change

@[simp]
theorem modifyCq_nextObject (change : NvmeCq → NvmeCq) :
    (ndev.modifyCq key change).nextObject = ndev.nextObject :=
  ndev.modifyCq_keeps NvmeDevice.nextObject (fun _ _ _ => rfl) key change

@[simp]
theorem modifyCq_irqSet (change : NvmeCq → NvmeCq) :
    (ndev.modifyCq key change).irqSet = ndev.irqSet :=
  ndev.modifyCq_keeps NvmeDevice.irqSet (fun _ _ _ => rfl) key change

@[simp]
theorem modifyCq_qDepth (change : NvmeCq → NvmeCq) :
    (ndev.modifyCq key change).qDepth = ndev.qDepth :=
  ndev.modifyCq_keeps NvmeDevice.qDepth (fun _ _ _ => rfl) key change

@[simp]
theorem modifyCq_bug (change : NvmeCq → NvmeCq) :
    (ndev.modifyCq key change).bug = ndev.bug :=
  ndev.modifyCq_keeps NvmeDevice.bug (fun _ _ _ => rfl) key change

end NvmeDevice

/-! ## The description of an accepted submission -/

/-- `wait_sq->prps = prps` on the object. -/
def NvmeSq.attach (sq : NvmeSq) (env : SubmitEnv) (prps : Nat) : NvmeSq :=
  { sq with
    prps := some prps
    entries := if sq.contig then sq.entries else env.userSq }

/-- `wait_cq->prps = prps` on the object. -/
def NvmeCq.attach (cq : NvmeCq) (env : SubmitEnv) (prps : Nat) : NvmeCq :=
  { cq with
    prps := some prps
    entries := if cq.contig then cq.entries else env.userCq }

/-- The command creates the submission queue `id`. -/
def CreatesSq (cmd : Nvme64bCmd) (ccmd : NvmeCommonCommand) (id : Nat) :
    Prop :=
  cmd.sqid = nvmeAqId ∧ adminOpcode ccmd.opcode = .createSq ∧ ccmd.qid = id

/-- The command creates the completion queue `id`. -/
def CreatesCq (cmd : Nvme64bCmd) (ccmd : NvmeCommonCommand) (id : Nat) :
    Prop :=
  cmd.sqid = nvmeAqId ∧ adminOpcode ccmd.opcode = .createCq ∧ ccmd.qid = id

instance (cmd : Nvme64bCmd) (ccmd : NvmeCommonCommand) (id : Nat) :
    Decidable (CreatesSq cmd ccmd id) :=
  inferInstanceAs (Decidable (_ ∧ _ ∧ _))

instance (cmd : Nvme64bCmd) (ccmd : NvmeCommonCommand) (id : Nat) :
    Decidable (CreatesCq cmd ccmd id) :=
  inferInstanceAs (Decidable (_ ∧ _ ∧ _))

/-- The node of an accepted submission; the pages come before the node. -/
def submittedNode (object : Nat) (sq : NvmeSq) (cmd : Nvme64bCmd)
    (ccmd : NvmeCommonCommand) (paged : Bool) : NvmeCmd where
  node := if paged then object + 1 else object
  cid := sq.nextCid
  sqid := cmd.sqid
  targetQid := targetQid cmd ccmd
  idx := sq.tailPtrVirt
  opcode := ccmd.opcode
  prps :=
    if paged ∧ prpsOwner cmd ccmd = .command then some object else none

/-- The target of a create command after the submission. -/
def createdSq (env : SubmitEnv) (cmd : Nvme64bCmd)
    (ccmd : NvmeCommonCommand) (object : Nat) (paged : Bool) (id : Nat)
    (sq : NvmeSq) : NvmeSq :=
  if CreatesSq cmd ccmd id then
    { (if paged ∧ id ≠ 0 then sq.attach env object else sq) with
      created := true }
  else
    sq

/-- The target of a create command after the submission. -/
def createdCq (env : SubmitEnv) (cmd : Nvme64bCmd)
    (ccmd : NvmeCommonCommand) (object : Nat) (paged : Bool) (id : Nat)
    (cq : NvmeCq) : NvmeCq :=
  if CreatesCq cmd ccmd id then
    { (if paged ∧ id ≠ 0 then cq.attach env object else cq) with
      created := true }
  else
    cq

/-- A queue that is not created stays as it is. -/
theorem createdSq_of_not {env : SubmitEnv} {cmd : Nvme64bCmd}
    {ccmd : NvmeCommonCommand} {object : Nat} {paged : Bool} {id : Nat}
    {sq : NvmeSq} (not : ¬ CreatesSq cmd ccmd id) :
    createdSq env cmd ccmd object paged id sq = sq :=
  if_neg not

theorem createdSq_created {env : SubmitEnv} {cmd : Nvme64bCmd}
    {ccmd : NvmeCommonCommand} {object : Nat} {paged : Bool} {id : Nat}
    {sq : NvmeSq} (creates : CreatesSq cmd ccmd id) :
    (createdSq env cmd ccmd object paged id sq).created = true := by
  rw [createdSq, if_pos creates]

theorem createdCq_of_not {env : SubmitEnv} {cmd : Nvme64bCmd}
    {ccmd : NvmeCommonCommand} {object : Nat} {paged : Bool} {id : Nat}
    {cq : NvmeCq} (not : ¬ CreatesCq cmd ccmd id) :
    createdCq env cmd ccmd object paged id cq = cq :=
  if_neg not

theorem createdCq_created {env : SubmitEnv} {cmd : Nvme64bCmd}
    {ccmd : NvmeCommonCommand} {object : Nat} {paged : Bool} {id : Nat}
    {cq : NvmeCq} (creates : CreatesCq cmd ccmd id) :
    (createdCq env cmd ccmd object paged id cq).created = true := by
  rw [createdCq, if_pos creates]

/-- The queue that takes the command, after the submission. -/
def enqueued (filled : NvmeCommonCommand) (node : NvmeCmd) (sq : NvmeSq) :
    NvmeSq :=
  { sq with
    nextCid := u16 (sq.nextCid + 1)
    cmdList := sq.cmdList ++ [node]
    entries := Function.update sq.entries sq.tailPtrVirt filled
    tailPtrVirt := u16 ((sq.tailPtrVirt + 1) % sq.elements) }

/-- The queue that takes the command, before the entry is written. -/
def listed (node : NvmeCmd) (sq : NvmeSq) : NvmeSq :=
  { sq with
    nextCid := u16 (sq.nextCid + 1)
    cmdList := sq.cmdList ++ [node] }

/-- `ccmd` with the address of a contiguous queue. -/
def pointAtQueue (ndev : NvmeDevice) (cmd : Nvme64bCmd)
    (ccmd : NvmeCommonCommand) : NvmeCommonCommand :=
  if cmd.sqid = nvmeAqId then
    match adminOpcode ccmd.opcode with
    | .createSq =>
        match ndev.findSq ccmd.qid with
        | none => ccmd
        | some sq =>
            if sq.contig then { ccmd with dptr := ⟨sq.dma, 0⟩ } else ccmd
    | .createCq =>
        match ndev.findCq ccmd.qid with
        | none => ccmd
        | some cq =>
            if cq.contig then { ccmd with dptr := ⟨cq.dma, 0⟩ } else ccmd
    | _ => ccmd
  else
    ccmd

/-- The target of a create command was prepared and not created before. -/
structure TargetReady (ndev : NvmeDevice) (cmd : Nvme64bCmd)
    (ccmd : NvmeCommonCommand) : Prop where
  sq : ∀ id, CreatesSq cmd ccmd id → ∃ sq, ndev.findSq id = some sq ∧
    sq.created = false ∧ (sq.contig = true ∨ cmd.dataBufPtr ≠ 0)
  cq : ∀ id, CreatesCq cmd ccmd id → ∃ cq, ndev.findCq id = some cq ∧
    cq.created = false ∧ (cq.contig = true ∨ cmd.dataBufPtr ≠ 0)

/-- The pages that were mapped for a command, and the data pointer that leads
to them. -/
def Pages (env : SubmitEnv) (ndev : NvmeDevice) (cmd : Nvme64bCmd)
    (ccmd : NvmeCommonCommand) (prps : Option NvmePrps)
    (dptr : NvmeDataPtr) : Prop :=
  match prps with
  | none => needPrp cmd ccmd = false ∧ dptr = ccmd.dptr
  | some prps =>
      needPrp cmd ccmd = true ∧
        ∃ mapped ret poolPages,
          dnvmeMapUserPage env.map ndev.pinned (.zero (prpsPool cmd ccmd))
            cmd.dataBufPtr cmd.dataBufSize cmd.dataDir
            (createsQueue cmd ccmd) = .ok mapped ∧
          0 ≤ mapped.ret ∧ 0 ≤ ret ∧
          setupPrps env ndev.poolPages cmd ccmd mapped.prps =
            .ok ⟨ret, { ccmd with dptr := dptr }, prps, poolPages⟩

/-- The heap with the pages of a submission. -/
def heapWith (ndev : NvmeDevice) : Option NvmePrps → XArray NvmePrps
  | none => ndev.prpsHeap
  | some prps => ndev.prpsHeap.insert ndev.nextObject prps

/--
A submission that was accepted: `ccmd` is the command the user passed,
`filled` the one that was written into the queue, `prps` the pages that were
mapped for it.
-/
structure Submitted (env : SubmitEnv) (cmd : Nvme64bCmd)
    (ndev next : NvmeDevice) (sq : NvmeSq)
    (ccmd filled : NvmeCommonCommand) (prps : Option NvmePrps) : Prop where
  found : ndev.findSq cmd.sqid = some sq
  notFull : dnvmeSqIsFull sq = false
  read : env.ccmd = some ccmd
  target : TargetReady ndev cmd ccmd
  filled_eq : ∃ metadata dptr,
    Pages env ndev cmd
      { ccmd with commandId := sq.nextCid, metadata := metadata } prps dptr ∧
    filled = pointAtQueue ndev cmd
      { ccmd with
        commandId := sq.nextCid
        metadata := metadata
        dptr := dptr }
  memory : sq.contig = true ∨ sq.prps ≠ none
  findSq : ∀ id, next.findSq id = (ndev.findSq id).map fun q =>
    if id = cmd.sqid then
      enqueued filled
        (submittedNode ndev.nextObject sq cmd ccmd prps.isSome)
        (createdSq env cmd ccmd ndev.nextObject prps.isSome id q)
    else
      createdSq env cmd ccmd ndev.nextObject prps.isSome id q
  findCq : ∀ id, next.findCq id = (ndev.findCq id).map
    (createdCq env cmd ccmd ndev.nextObject prps.isSome id)
  heap : next.prpsHeap = heapWith ndev prps
  released : next.released = ndev.released
  nextObject : next.nextObject =
    (submittedNode ndev.nextObject sq cmd ccmd prps.isSome).node + 1
  irqSet : next.irqSet = ndev.irqSet
  qDepth : next.qDepth = ndev.qDepth
  bug : next.bug = ndev.bug

/-- Pages are mapped for a data buffer, and not for a delete command. -/
theorem Submitted.paged {ndev next : NvmeDevice} {env : SubmitEnv}
    {cmd : Nvme64bCmd} {sq : NvmeSq} {ccmd filled : NvmeCommonCommand}
    {prps : Option NvmePrps}
    (accepted : Submitted env cmd ndev next sq ccmd filled prps)
    (paged : prps.isSome = true) :
    cmd.dataBufPtr ≠ 0 ∧ (cmd.sqid = nvmeAqId →
      adminOpcode ccmd.opcode ≠ .deleteSq ∧
        adminOpcode ccmd.opcode ≠ .deleteCq) := by
  rcases accepted.filled_eq with ⟨metadata, dptr, pages, _⟩
  cases prps with
  | none => cases paged
  | some prps =>
      have needed := pages.1
      unfold needPrp at needed
      by_cases admin : cmd.sqid = nvmeAqId
      · rw [if_pos admin] at needed
        dsimp only at needed
        cases opcode : adminOpcode ccmd.opcode <;> rw [opcode] at needed <;>
          simp_all
      · rw [if_neg admin] at needed
        exact ⟨by simpa using needed, fun also => absurd also admin⟩

/-- Only the data pointer changes. -/
theorem pointAtQueue_eq (ndev : NvmeDevice) (cmd : Nvme64bCmd)
    (ccmd : NvmeCommonCommand) :
    ∃ dptr, pointAtQueue ndev cmd ccmd = { ccmd with dptr := dptr } := by
  unfold pointAtQueue
  split
  · split
    · split
      · exact ⟨_, rfl⟩
      · split <;> exact ⟨_, rfl⟩
    · split
      · exact ⟨_, rfl⟩
      · split <;> exact ⟨_, rfl⟩
    · exact ⟨_, rfl⟩
  · exact ⟨_, rfl⟩

/-- The command in the slot is the one of the user with the identifier, the
metadata pointer and the data pointer filled in. -/
theorem Submitted.filled_fields {ndev next : NvmeDevice} {env : SubmitEnv}
    {cmd : Nvme64bCmd} {sq : NvmeSq} {ccmd filled : NvmeCommonCommand}
    {prps : Option NvmePrps}
    (accepted : Submitted env cmd ndev next sq ccmd filled prps) :
    ∃ metadata dptr, filled =
      { ccmd with
        commandId := sq.nextCid
        metadata := metadata
        dptr := dptr } := by
  rcases accepted.filled_eq with ⟨metadata, _, _, filledEq⟩
  rcases pointAtQueue_eq ndev cmd
    { ccmd with commandId := sq.nextCid, metadata := metadata, dptr := _ }
    with ⟨dptr, pointed⟩
  exact ⟨metadata, dptr, filledEq.trans pointed⟩

theorem Submitted.commandId {ndev next : NvmeDevice} {env : SubmitEnv}
    {cmd : Nvme64bCmd} {sq : NvmeSq} {ccmd filled : NvmeCommonCommand}
    {prps : Option NvmePrps}
    (accepted : Submitted env cmd ndev next sq ccmd filled prps) :
    filled.commandId = sq.nextCid := by
  rcases accepted.filled_fields with ⟨_, _, rfl⟩
  rfl

/-! ## From the code to the description -/

/-- The device after `dnvme_add_cmd_node` went through. -/
def nodeAdded (env : SubmitEnv) (ndev : NvmeDevice) (sq : NvmeSq)
    (cmd : Nvme64bCmd) (ccmd : NvmeCommonCommand) :
    Option NvmePrps → NvmeDevice
  | none =>
      ndev.addNode cmd.sqid (newNode ndev.nextObject sq cmd ccmd none)
  | some prps =>
      (ndev.givePrps env (prpsOwner cmd ccmd) prps).addNode cmd.sqid
        (newNode (ndev.givePrps env (prpsOwner cmd ccmd) prps).nextObject sq
          cmd ccmd (if prpsOwner cmd ccmd = .command then
            some ndev.nextObject else none))

theorem dnvmeAddCmdNode_cases {env : SubmitEnv} {ndev next : NvmeDevice}
    {cmd : Nvme64bCmd} {ccmd : NvmeCommonCommand} {prps : Option NvmePrps}
    {ret : Int}
    (done : dnvmeAddCmdNode env ndev cmd ccmd prps = .ok (ret, next)) :
    (ret < 0 ∧ next = ndev) ∨
      (ret = 0 ∧ targetMissing ndev cmd ccmd = false ∧
        ∃ sq, ndev.findSq cmd.sqid = some sq ∧
          next = nodeAdded env ndev sq cmd ccmd prps) := by
  unfold dnvmeAddCmdNode at done
  split at done
  · cases done
    exact Or.inl ⟨by decide, rfl⟩
  · rename_i sq found
    split at done
    · cases done
      exact Or.inl ⟨by decide, rfl⟩
    · split at done
      · cases done
      · rename_i present
        have here : targetMissing ndev cmd ccmd = false := by
          simpa using present
        cases prps with
        | none =>
            cases done
            exact Or.inr ⟨rfl, here, sq, found, rfl⟩
        | some prps =>
            cases done
            exact Or.inr ⟨rfl, here, sq, found, rfl⟩

/-- `dnvme_prepare_64b_cmd` fails and changes no object, or it adds the
node. -/
theorem dnvmePrepare64bCmd_cases {env : SubmitEnv} {ndev next : NvmeDevice}
    {cmd : Nvme64bCmd} {ccmd filled : NvmeCommonCommand} {ret : Int}
    (done : dnvmePrepare64bCmd env ndev cmd ccmd =
      .ok (ret, filled, next)) :
    (ret < 0 ∧ ∃ pinned poolPages,
      next = { ndev with pinned := pinned, poolPages := poolPages }) ∨
    (ret = 0 ∧ ∃ prps dptr pinned poolPages,
      Pages env ndev cmd ccmd prps dptr ∧
      filled = { ccmd with dptr := dptr } ∧
      dnvmeAddCmdNode env
        { ndev with pinned := pinned, poolPages := poolPages } cmd filled
        prps = .ok (0, next)) := by
  unfold dnvmePrepare64bCmd at done
  split at done
  · rename_i unneeded
    rcases ok_of_bind done with ⟨⟨code, added⟩, adds, result⟩
    cases result
    rcases dnvmeAddCmdNode_cases adds with ⟨fails, same⟩ | ⟨succeeds, _⟩
    · exact Or.inl ⟨fails, ndev.pinned, ndev.poolPages, same⟩
    · subst succeeds
      exact Or.inr ⟨rfl, none, ccmd.dptr, ndev.pinned, ndev.poolPages,
        ⟨by simpa using unneeded, rfl⟩, rfl, adds⟩
  · rename_i needed
    split at done
    · cases done
      exact Or.inl ⟨by decide, ndev.pinned, ndev.poolPages, rfl⟩
    · rcases ok_of_bind done with ⟨mapped, maps, done⟩
      extract_lets pinned at done
      subst pinned
      split at done
      · cases done
        exact Or.inl ⟨by assumption, mapped.pinned, ndev.poolPages, rfl⟩
      · rename_i mapOk
        rcases ok_of_bind done with ⟨result, setUp, done⟩
        split at done
        · cases done
          exact Or.inl ⟨by assumption, _, _, rfl⟩
        · rename_i setOk
          rcases ok_of_bind done with ⟨⟨code, added⟩, adds, done⟩
          rcases dnvmeAddCmdNode_cases adds with ⟨fails, same⟩ | ⟨zero, _⟩
          · dsimp only at done
            rw [if_pos fails] at done
            cases done
            exact Or.inl ⟨fails, _, _, by rw [same]⟩
          · subst zero
            cases done
            rcases (setupPrps_keeps setUp).ccmd with ⟨dptr, filledEq⟩
            refine Or.inr ⟨rfl, some result.prps, dptr, mapped.pinned,
              result.poolPages, ⟨by simpa using needed, mapped, result.ret,
                result.poolPages, maps, not_lt.mp mapOk, not_lt.mp setOk, ?_⟩,
              filledEq, adds⟩
            rw [setUp, ← filledEq]

/-- The device after the target of a create command was marked. -/
def targetMarked (cmd : Nvme64bCmd) (ccmd : NvmeCommonCommand)
    (ndev : NvmeDevice) : NvmeDevice :=
  if cmd.sqid = nvmeAqId then
    match adminOpcode ccmd.opcode with
    | .createSq => ndev.markSqCreated ccmd.qid
    | .createCq => ndev.markCqCreated ccmd.qid
    | _ => ndev
  else
    ndev

/-- How a dispatched command ends. -/
def Dispatched (env : SubmitEnv) (ndev next : NvmeDevice)
    (cmd : Nvme64bCmd) (ccmd filled : NvmeCommonCommand) (ret : Int) :
    Prop :=
  (ret < 0 ∧ ∃ pinned poolPages,
    next = { ndev with pinned := pinned, poolPages := poolPages }) ∨
  (ret = 0 ∧ TargetReady ndev cmd ccmd ∧
    ∃ prps dptr pinned poolPages added,
      Pages env ndev cmd ccmd prps dptr ∧
      filled = pointAtQueue ndev cmd { ccmd with dptr := dptr } ∧
      dnvmeAddCmdNode env
        { ndev with pinned := pinned, poolPages := poolPages } cmd
        { ccmd with dptr := dptr } prps = .ok (0, added) ∧
      next = targetMarked cmd ccmd added)

theorem Dispatched.refused {env : SubmitEnv} {ndev : NvmeDevice}
    {cmd : Nvme64bCmd} {ccmd filled : NvmeCommonCommand} {ret : Int}
    (fails : ret < 0) : Dispatched env ndev ndev cmd ccmd filled ret :=
  Or.inl ⟨fails, ndev.pinned, ndev.poolPages, rfl⟩

/-- A command that creates no queue is only prepared. -/
theorem Dispatched.of_prepare {env : SubmitEnv} {ndev next : NvmeDevice}
    {cmd : Nvme64bCmd} {ccmd filled : NvmeCommonCommand} {ret : Int}
    (plain : createsQueue cmd ccmd = false)
    (done : dnvmePrepare64bCmd env ndev cmd ccmd =
      .ok (ret, filled, next)) :
    Dispatched env ndev next cmd ccmd filled ret := by
  have notSq : ∀ id, ¬ CreatesSq cmd ccmd id := by
    rintro id ⟨admin, create, _⟩
    simp [createsQueue, admin, create] at plain
  have notCq : ∀ id, ¬ CreatesCq cmd ccmd id := by
    rintro id ⟨admin, create, _⟩
    simp [createsQueue, admin, create] at plain
  have marked : ∀ added, targetMarked cmd ccmd added = added := by
    intro added
    unfold targetMarked
    split
    · split
      · exact absurd ⟨by assumption, by assumption, rfl⟩ (notSq ccmd.qid)
      · exact absurd ⟨by assumption, by assumption, rfl⟩ (notCq ccmd.qid)
      · rfl
    · rfl
  have pointed : ∀ dptr, pointAtQueue ndev cmd { ccmd with dptr := dptr } =
      { ccmd with dptr := dptr } := by
    intro dptr
    unfold pointAtQueue
    split
    · split
      · exact absurd ⟨by assumption, by assumption, rfl⟩ (notSq ccmd.qid)
      · exact absurd ⟨by assumption, by assumption, rfl⟩ (notCq ccmd.qid)
      · rfl
    · rfl
  rcases dnvmePrepare64bCmd_cases done with
    refused | ⟨zero, prps, dptr, pinned, poolPages, pages, filledEq, adds⟩
  · exact Or.inl refused
  · refine Or.inr ⟨zero, ⟨fun id creates => absurd creates (notSq id),
      fun id creates => absurd creates (notCq id)⟩, prps, dptr, pinned,
      poolPages, next, pages, ?_, ?_, (marked next).symm⟩
    · rw [pointed, filledEq]
    · rw [← filledEq]
      exact adds

theorem Dispatched.of_createIosq {env : SubmitEnv} {ndev next : NvmeDevice}
    {cmd : Nvme64bCmd} {ccmd filled : NvmeCommonCommand} {ret : Int}
    (admin : cmd.sqid = nvmeAqId)
    (create : adminOpcode ccmd.opcode = .createSq)
    (done : dnvmeCreateIosq env ndev cmd ccmd = .ok (ret, filled, next)) :
    Dispatched env ndev next cmd ccmd filled ret := by
  unfold dnvmeCreateIosq at done
  split at done
  · cases done
    exact Dispatched.refused (by decide)
  · rename_i sq found
    split at done
    · cases done
      exact Dispatched.refused (by decide)
    · split at done
      · cases done
        exact Dispatched.refused (by decide)
      · rename_i buffer
        split at done
        · cases done
          exact Dispatched.refused (by decide)
        · rename_i notCreated
          rcases ok_of_bind done with ⟨⟨code, pre, prepared⟩, prep, done⟩
          dsimp only at done
          rcases dnvmePrepare64bCmd_cases prep with ⟨fails, refused⟩ |
            ⟨zero, prps, dptr, pinned, poolPages, pages, preEq, adds⟩
          · rw [if_pos fails] at done
            cases done
            exact Or.inl ⟨fails, refused⟩
          · subst zero
            cases done
            have ready : TargetReady ndev cmd ccmd := by
              refine ⟨?_, ?_⟩
              · rintro id ⟨_, _, rfl⟩
                refine ⟨sq, found, by simpa using notCreated, ?_⟩
                cases contig : sq.contig with
                | true => exact Or.inl rfl
                | false =>
                    refine Or.inr fun null => buffer ?_
                    simp [contig, null]
              · rintro id ⟨_, other, _⟩
                rw [create] at other
                cases other
            refine Or.inr ⟨rfl, ready, prps, dptr, pinned, poolPages,
              prepared, pages, ?_, ?_, ?_⟩
            · rw [pointAtQueue, if_pos admin, create]
              dsimp only
              rw [show NvmeCommonCommand.qid { ccmd with dptr := dptr } =
                ccmd.qid from rfl, found, preEq]
            · rw [← preEq]
              exact adds
            · rw [targetMarked, if_pos admin, create]

theorem Dispatched.of_createIocq {env : SubmitEnv} {ndev next : NvmeDevice}
    {cmd : Nvme64bCmd} {ccmd filled : NvmeCommonCommand} {ret : Int}
    (admin : cmd.sqid = nvmeAqId)
    (create : adminOpcode ccmd.opcode = .createCq)
    (done : dnvmeCreateIocq env ndev cmd ccmd = .ok (ret, filled, next)) :
    Dispatched env ndev next cmd ccmd filled ret := by
  unfold dnvmeCreateIocq at done
  split at done
  · cases done
    exact Dispatched.refused (by decide)
  · rename_i cq found
    split at done
    · cases done
      exact Dispatched.refused (by decide)
    · split at done
      · cases done
        exact Dispatched.refused (by decide)
      · rename_i buffer
        split at done
        · cases done
          exact Dispatched.refused (by decide)
        · rename_i notCreated
          split at done
          · cases done
            exact Dispatched.refused (by decide)
          · rcases ok_of_bind done with ⟨⟨code, pre, prepared⟩, prep, done⟩
            dsimp only at done
            rcases dnvmePrepare64bCmd_cases prep with ⟨fails, refused⟩ |
              ⟨zero, prps, dptr, pinned, poolPages, pages, preEq, adds⟩
            · rw [if_pos fails] at done
              cases done
              exact Or.inl ⟨fails, refused⟩
            · subst zero
              cases done
              have ready : TargetReady ndev cmd ccmd := by
                refine ⟨?_, ?_⟩
                · rintro id ⟨_, other, _⟩
                  rw [create] at other
                  cases other
                · rintro id ⟨_, _, rfl⟩
                  refine ⟨cq, found, by simpa using notCreated, ?_⟩
                  cases contig : cq.contig with
                  | true => exact Or.inl rfl
                  | false =>
                      refine Or.inr fun null => buffer ?_
                      simp [contig, null]
              refine Or.inr ⟨rfl, ready, prps, dptr, pinned, poolPages,
                prepared, pages, ?_, ?_, ?_⟩
              · rw [pointAtQueue, if_pos admin, create]
                dsimp only
                rw [show NvmeCommonCommand.qid { ccmd with dptr := dptr } =
                  ccmd.qid from rfl, found, preEq]
              · rw [← preEq]
                exact adds
              · rw [targetMarked, if_pos admin, create]

/-- Every path through the switch over the opcode. -/
theorem dispatchCmd_cases {env : SubmitEnv} {ndev next : NvmeDevice}
    {cmd : Nvme64bCmd} {ccmd filled : NvmeCommonCommand} {ret : Int}
    (done : dispatchCmd env ndev cmd ccmd = .ok (ret, filled, next)) :
    Dispatched env ndev next cmd ccmd filled ret := by
  unfold dispatchCmd at done
  split at done
  · rename_i admin
    split at done
    · exact Dispatched.of_createIosq admin (by assumption) done
    · exact Dispatched.of_createIocq admin (by assumption) done
    all_goals
      rename_i opcode
      exact Dispatched.of_prepare (by simp [createsQueue, opcode]) done
  · rename_i inputOutput
    exact Dispatched.of_prepare (by simp [createsQueue, inputOutput]) done

/-! ## The objects after an accepted submission -/

theorem prpsOwner_eq_submissionQueue_iff {cmd : Nvme64bCmd}
    {ccmd : NvmeCommonCommand} {id : Nat} :
    prpsOwner cmd ccmd = .submissionQueue id ↔
      CreatesSq cmd ccmd id ∧ id ≠ 0 := by
  unfold prpsOwner targetQid CreatesSq
  by_cases admin : cmd.sqid = nvmeAqId
  · cases opcode : adminOpcode ccmd.opcode <;>
      by_cases zero : ccmd.qid = 0 <;> simp [admin, zero] <;> grind
  · simp [admin]

theorem prpsOwner_eq_completionQueue_iff {cmd : Nvme64bCmd}
    {ccmd : NvmeCommonCommand} {id : Nat} :
    prpsOwner cmd ccmd = .completionQueue id ↔
      CreatesCq cmd ccmd id ∧ id ≠ 0 := by
  unfold prpsOwner targetQid CreatesCq
  by_cases admin : cmd.sqid = nvmeAqId
  · cases opcode : adminOpcode ccmd.opcode <;>
      by_cases zero : ccmd.qid = 0 <;> simp [admin, zero] <;> grind
  · simp [admin]

/-- The device with the pages of a submission, before the node is added. -/
def pagesGiven (env : SubmitEnv) (ndev : NvmeDevice) (cmd : Nvme64bCmd)
    (ccmd : NvmeCommonCommand) : Option NvmePrps → NvmeDevice
  | none => ndev
  | some prps => ndev.givePrps env (prpsOwner cmd ccmd) prps

section Given

variable (env : SubmitEnv) (ndev : NvmeDevice) (cmd : Nvme64bCmd)
  (ccmd : NvmeCommonCommand) (prps : Option NvmePrps)

theorem pagesGiven_findSq (id : Nat) :
    (pagesGiven env ndev cmd ccmd prps).findSq id =
      (ndev.findSq id).map fun q =>
        if prps.isSome ∧ CreatesSq cmd ccmd id ∧ id ≠ 0 then
          q.attach env ndev.nextObject
        else q := by
  simp only [← prpsOwner_eq_submissionQueue_iff]
  cases prps with
  | none => simp [pagesGiven]
  | some prps =>
      unfold pagesGiven NvmeDevice.givePrps
      cases prpsOwner cmd ccmd with
      | command =>
          simp
          rfl
      | completionQueue target =>
          simp
          exact congrArg (fun sqs => AList.lookup id sqs)
            (NvmeDevice.modifyCq_sqs _ target
              fun cq => cq.attach env ndev.nextObject)
      | submissionQueue target =>
          refine (NvmeDevice.findSq_modifySq _ target
            (fun sq => sq.attach env ndev.nextObject) id).trans ?_
          simp only [Option.isSome_some, true_and,
            PrpsOwner.submissionQueue.injEq, eq_comm]
          rfl

theorem pagesGiven_findCq (id : Nat) :
    (pagesGiven env ndev cmd ccmd prps).findCq id =
      (ndev.findCq id).map fun q =>
        if prps.isSome ∧ CreatesCq cmd ccmd id ∧ id ≠ 0 then
          q.attach env ndev.nextObject
        else q := by
  simp only [← prpsOwner_eq_completionQueue_iff]
  cases prps with
  | none => simp [pagesGiven]
  | some prps =>
      unfold pagesGiven NvmeDevice.givePrps
      cases prpsOwner cmd ccmd with
      | command =>
          simp
          rfl
      | submissionQueue target =>
          simp
          exact congrArg (fun cqs => AList.lookup id cqs)
            (NvmeDevice.modifySq_cqs _ target
              fun sq => sq.attach env ndev.nextObject)
      | completionQueue target =>
          refine (NvmeDevice.findCq_modifyCq _ target
            (fun cq => cq.attach env ndev.nextObject) id).trans ?_
          simp only [Option.isSome_some, true_and,
            PrpsOwner.completionQueue.injEq, eq_comm]
          rfl

/-- What giving pages does to the rest of the device. -/
theorem pagesGiven_rest :
    (pagesGiven env ndev cmd ccmd prps).prpsHeap = heapWith ndev prps ∧
      (pagesGiven env ndev cmd ccmd prps).released = ndev.released ∧
      (pagesGiven env ndev cmd ccmd prps).nextObject =
        (if prps.isSome then ndev.nextObject + 1 else ndev.nextObject) ∧
      (pagesGiven env ndev cmd ccmd prps).irqSet = ndev.irqSet ∧
      (pagesGiven env ndev cmd ccmd prps).qDepth = ndev.qDepth ∧
      (pagesGiven env ndev cmd ccmd prps).bug = ndev.bug := by
  cases prps with
  | none => exact ⟨rfl, rfl, rfl, rfl, rfl, rfl⟩
  | some prps =>
      unfold pagesGiven NvmeDevice.givePrps
      cases prpsOwner cmd ccmd with
      | command => exact ⟨rfl, rfl, rfl, rfl, rfl, rfl⟩
      | submissionQueue target =>
          exact ⟨NvmeDevice.modifySq_prpsHeap _ _ _,
            NvmeDevice.modifySq_released _ _ _,
            NvmeDevice.modifySq_nextObject _ _ _,
            NvmeDevice.modifySq_irqSet _ _ _,
            NvmeDevice.modifySq_qDepth _ _ _,
            NvmeDevice.modifySq_bug _ _ _⟩
      | completionQueue target =>
          exact ⟨NvmeDevice.modifyCq_prpsHeap _ _ _,
            NvmeDevice.modifyCq_released _ _ _,
            NvmeDevice.modifyCq_nextObject _ _ _,
            NvmeDevice.modifyCq_irqSet _ _ _,
            NvmeDevice.modifyCq_qDepth _ _ _,
            NvmeDevice.modifyCq_bug _ _ _⟩

end Given

/-- The node that `dnvme_add_cmd_node` added. -/
def addedNode (ndev : NvmeDevice) (sq : NvmeSq) (cmd : Nvme64bCmd)
    (ccmd : NvmeCommonCommand) (paged : Bool) : NvmeCmd :=
  newNode (if paged then ndev.nextObject + 1 else ndev.nextObject) sq cmd
    ccmd (if paged ∧ prpsOwner cmd ccmd = .command then
      some ndev.nextObject else none)

theorem nodeAdded_eq (env : SubmitEnv) (ndev : NvmeDevice) (sq : NvmeSq)
    (cmd : Nvme64bCmd) (ccmd : NvmeCommonCommand)
    (prps : Option NvmePrps) :
    nodeAdded env ndev sq cmd ccmd prps =
      (pagesGiven env ndev cmd ccmd prps).addNode cmd.sqid
        (addedNode ndev sq cmd ccmd prps.isSome) := by
  have counts := (pagesGiven_rest env ndev cmd ccmd prps).2.2.1
  unfold nodeAdded addedNode
  cases prps with
  | none => simp [pagesGiven]
  | some prps =>
      unfold pagesGiven at counts ⊢
      simp only [counts, Option.isSome_some, if_true, true_and]

/-- `list_add_tail` changes one queue and takes one identity. -/
theorem addNode_eq {ndev : NvmeDevice} {sqid : Nat} {sq : NvmeSq}
    (node : NvmeCmd) (found : ndev.findSq sqid = some sq) :
    ndev.addNode sqid node =
      { ndev.modifySq sqid fun sq =>
          { sq with cmdList := sq.cmdList ++ [node] } with
        nextObject := ndev.nextObject + 1 } := by
  rw [NvmeDevice.addNode, NvmeDevice.modifySq, found]

theorem targetMarked_findSq (cmd : Nvme64bCmd) (ccmd : NvmeCommonCommand)
    (ndev : NvmeDevice) (id : Nat) :
    (targetMarked cmd ccmd ndev).findSq id = (ndev.findSq id).map fun sq =>
      if CreatesSq cmd ccmd id then { sq with created := true } else sq := by
  unfold targetMarked
  split
  · rename_i admin
    split
    · rename_i create
      have same : CreatesSq cmd ccmd id ↔ id = ccmd.qid :=
        ⟨fun creates => creates.2.2.symm,
          fun equal => ⟨admin, create, equal.symm⟩⟩
      simp only [same]
      exact NvmeDevice.findSq_modifySq ndev ccmd.qid
        (fun sq => { sq with created := true }) id
    · rename_i create
      have no : ¬ CreatesSq cmd ccmd id := by
        rintro ⟨_, creates, _⟩
        rw [create] at creates
        cases creates
      simp only [no, if_false, Option.map_id']
      exact congrArg (fun sqs => AList.lookup id sqs)
        (NvmeDevice.modifyCq_sqs ndev ccmd.qid
          fun cq => { cq with created := true })
    · have no : ¬ CreatesSq cmd ccmd id := by
        rintro ⟨_, creates, _⟩
        simp_all
      simp [no]
  · rename_i inputOutput
    have no : ¬ CreatesSq cmd ccmd id := fun creates =>
      inputOutput creates.1
    simp [no]

theorem targetMarked_findCq (cmd : Nvme64bCmd) (ccmd : NvmeCommonCommand)
    (ndev : NvmeDevice) (id : Nat) :
    (targetMarked cmd ccmd ndev).findCq id = (ndev.findCq id).map fun cq =>
      if CreatesCq cmd ccmd id then { cq with created := true } else cq := by
  unfold targetMarked
  split
  · rename_i admin
    split
    · rename_i create
      have no : ¬ CreatesCq cmd ccmd id := by
        rintro ⟨_, creates, _⟩
        rw [create] at creates
        cases creates
      simp only [no, if_false, Option.map_id']
      exact congrArg (fun cqs => AList.lookup id cqs)
        (NvmeDevice.modifySq_cqs ndev ccmd.qid
          fun sq => { sq with created := true })
    · rename_i create
      have same : CreatesCq cmd ccmd id ↔ id = ccmd.qid :=
        ⟨fun creates => creates.2.2.symm,
          fun equal => ⟨admin, create, equal.symm⟩⟩
      simp only [same]
      exact NvmeDevice.findCq_modifyCq ndev ccmd.qid
        (fun cq => { cq with created := true }) id
    · have no : ¬ CreatesCq cmd ccmd id := by
        rintro ⟨_, creates, _⟩
        simp_all
      simp [no]
  · rename_i inputOutput
    have no : ¬ CreatesCq cmd ccmd id := fun creates =>
      inputOutput creates.1
    simp [no]

/-- Marking the target leaves the rest of the device alone. -/
theorem targetMarked_rest (cmd : Nvme64bCmd) (ccmd : NvmeCommonCommand)
    (ndev : NvmeDevice) :
    (targetMarked cmd ccmd ndev).prpsHeap = ndev.prpsHeap ∧
      (targetMarked cmd ccmd ndev).released = ndev.released ∧
      (targetMarked cmd ccmd ndev).nextObject = ndev.nextObject ∧
      (targetMarked cmd ccmd ndev).irqSet = ndev.irqSet ∧
      (targetMarked cmd ccmd ndev).qDepth = ndev.qDepth ∧
      (targetMarked cmd ccmd ndev).bug = ndev.bug := by
  unfold targetMarked
  split
  · split
    · exact ⟨NvmeDevice.modifySq_prpsHeap _ _ _,
        NvmeDevice.modifySq_released _ _ _,
        NvmeDevice.modifySq_nextObject _ _ _,
        NvmeDevice.modifySq_irqSet _ _ _,
        NvmeDevice.modifySq_qDepth _ _ _,
        NvmeDevice.modifySq_bug _ _ _⟩
    · exact ⟨NvmeDevice.modifyCq_prpsHeap _ _ _,
        NvmeDevice.modifyCq_released _ _ _,
        NvmeDevice.modifyCq_nextObject _ _ _,
        NvmeDevice.modifyCq_irqSet _ _ _,
        NvmeDevice.modifyCq_qDepth _ _ _,
        NvmeDevice.modifyCq_bug _ _ _⟩
    · exact ⟨rfl, rfl, rfl, rfl, rfl, rfl⟩
  · exact ⟨rfl, rfl, rfl, rfl, rfl, rfl⟩

/-- Writing the entry changes one queue, whose memory exists. -/
theorem writeEntry_cases {ndev next : NvmeDevice} {sqid : Nat}
    {ccmd : NvmeCommonCommand}
    (done : ndev.writeEntry sqid ccmd = .ok next) :
    ∃ sq, ndev.findSq sqid = some sq ∧
      slotInside (ndev.sqSpan sq) sq.sqes sq.tailPtrVirt = true ∧
      next = ndev.modifySq sqid fun sq =>
        { sq with
          entries := Function.update sq.entries sq.tailPtrVirt ccmd
          tailPtrVirt := u16 ((sq.tailPtrVirt + 1) % sq.elements) } := by
  unfold NvmeDevice.writeEntry at done
  split at done
  · cases done
  · rename_i sq found
    split at done
    · rename_i inside
      cases done
      refine ⟨sq, found, inside, ?_⟩
      rw [NvmeDevice.modifySq, found]
    · cases done

/-- The queue of a submission with its next identifier. -/
theorem setNextCid_eq {ndev : NvmeDevice} {sqid : Nat} {sq : NvmeSq}
    (found : ndev.findSq sqid = some sq) (cid : Nat) :
    ndev.setNextCid sqid cid = ndev.setSq sqid { sq with nextCid := cid } := by
  rw [NvmeDevice.setNextCid, found]

/-- A queue without memory takes no command. -/
theorem slotInside_sqSpan {ndev : NvmeDevice} {sq : NvmeSq}
    {shift slot : Nat}
    (inside : slotInside (ndev.sqSpan sq) shift slot = true) :
    sq.contig = true ∨ sq.prps ≠ none := by
  by_cases contig : sq.contig = true
  · exact Or.inl contig
  · refine Or.inr fun missing => ?_
    have span : ndev.sqSpan sq = none := by
      rw [NvmeDevice.sqSpan, if_neg contig, missing]
      rfl
    rw [span] at inside
    cases inside

/-- The device after the next identifier of a queue was taken. -/
structure Numbered (ndev ready : NvmeDevice) (sqid cid : Nat) : Prop where
  findSq : ∀ id, ready.findSq id = (ndev.findSq id).map fun q =>
    if id = sqid then { q with nextCid := cid } else q
  findCq : ∀ id, ready.findCq id = ndev.findCq id
  prpsHeap : ready.prpsHeap = ndev.prpsHeap
  released : ready.released = ndev.released
  nextObject : ready.nextObject = ndev.nextObject
  irqSet : ready.irqSet = ndev.irqSet
  qDepth : ready.qDepth = ndev.qDepth
  bug : ready.bug = ndev.bug

theorem setNextCid_numbered (ndev : NvmeDevice) (sqid cid : Nat) :
    Numbered ndev (ndev.setNextCid sqid cid) sqid cid where
  findSq := ndev.findSq_modifySq sqid fun q => { q with nextCid := cid }
  findCq id := congrArg (fun cqs => AList.lookup id cqs)
    (ndev.modifySq_cqs sqid fun q => { q with nextCid := cid })
  prpsHeap := ndev.modifySq_prpsHeap sqid fun q => { q with nextCid := cid }
  released := ndev.modifySq_released sqid fun q => { q with nextCid := cid }
  nextObject :=
    ndev.modifySq_nextObject sqid fun q => { q with nextCid := cid }
  irqSet := ndev.modifySq_irqSet sqid fun q => { q with nextCid := cid }
  qDepth := ndev.modifySq_qDepth sqid fun q => { q with nextCid := cid }
  bug := ndev.modifySq_bug sqid fun q => { q with nextCid := cid }

/-- The pages in use do not matter. -/
theorem Numbered.repaged {ndev ready : NvmeDevice} {sqid cid : Nat}
    (numbered : Numbered ndev ready sqid cid)
    (pinned poolPages : List Nat) :
    Numbered ndev { ready with pinned := pinned, poolPages := poolPages }
      sqid cid :=
  ⟨numbered.findSq, numbered.findCq, numbered.prpsHeap, numbered.released,
    numbered.nextObject, numbered.irqSet, numbered.qDepth, numbered.bug⟩

/-- The command that is added and the command of the user agree on what the
driver looks at. -/
structure SameKind (command ccmd : NvmeCommonCommand) : Prop where
  opcode : command.opcode = ccmd.opcode
  qid : command.qid = ccmd.qid

theorem SameKind.targetQid {command ccmd : NvmeCommonCommand}
    (same : SameKind command ccmd) (cmd : Nvme64bCmd) :
    targetQid cmd command = targetQid cmd ccmd := by
  unfold Driver.targetQid
  rw [same.opcode, same.qid]

theorem SameKind.prpsOwner {command ccmd : NvmeCommonCommand}
    (same : SameKind command ccmd) (cmd : Nvme64bCmd) :
    prpsOwner cmd command = prpsOwner cmd ccmd := by
  unfold Driver.prpsOwner
  rw [same.opcode, same.targetQid]

theorem SameKind.createsSq {command ccmd : NvmeCommonCommand}
    (same : SameKind command ccmd) (cmd : Nvme64bCmd) (id : Nat) :
    CreatesSq cmd command id ↔ CreatesSq cmd ccmd id := by
  unfold CreatesSq
  rw [same.opcode, same.qid]

theorem SameKind.createsCq {command ccmd : NvmeCommonCommand}
    (same : SameKind command ccmd) (cmd : Nvme64bCmd) (id : Nat) :
    CreatesCq cmd command id ↔ CreatesCq cmd ccmd id := by
  unfold CreatesCq
  rw [same.opcode, same.qid]

section Assembled

variable {env : SubmitEnv} {cmd : Nvme64bCmd}
  {ndev ready added next : NvmeDevice} {sq : NvmeSq}
  {ccmd filled command : NvmeCommonCommand} {prps : Option NvmePrps}

/-- The node is the one the description names. -/
theorem addedNode_eq (numbered : Numbered ndev ready cmd.sqid
      (u16 (sq.nextCid + 1)))
    (same : SameKind command ccmd) (cid : command.commandId = sq.nextCid)
    (paged : Bool) :
    addedNode ready { sq with nextCid := u16 (sq.nextCid + 1) } cmd command
        paged =
      submittedNode ndev.nextObject sq cmd ccmd paged := by
  unfold addedNode submittedNode newNode
  rw [same.targetQid, same.prpsOwner, same.opcode, cid, numbered.nextObject]

/-- The device with node and pages. -/
theorem added_eq (found : ndev.findSq cmd.sqid = some sq)
    (numbered : Numbered ndev ready cmd.sqid (u16 (sq.nextCid + 1)))
    (same : SameKind command ccmd) (cid : command.commandId = sq.nextCid)
    (adds : dnvmeAddCmdNode env ready cmd command prps = .ok (0, added)) :
    added =
      { (pagesGiven env ready cmd command prps).modifySq cmd.sqid fun q =>
          { q with
            cmdList := q.cmdList ++
              [submittedNode ndev.nextObject sq cmd ccmd prps.isSome] } with
        nextObject :=
          (submittedNode ndev.nextObject sq cmd ccmd prps.isSome).node +
            1 } := by
  rcases dnvmeAddCmdNode_cases adds with ⟨fails, _⟩ |
    ⟨_, _, queue, foundReady, addedEq⟩
  · exact absurd fails (by decide)
  have queueEq : queue = { sq with nextCid := u16 (sq.nextCid + 1) } := by
    rw [numbered.findSq, found] at foundReady
    simpa using foundReady.symm
  have given := pagesGiven_findSq env ready cmd command prps cmd.sqid
  rw [foundReady] at given
  rw [addedEq, nodeAdded_eq, addNode_eq _ given, queueEq,
    addedNode_eq numbered same cid,
    (pagesGiven_rest env ready cmd command prps).2.2.1,
    numbered.nextObject]
  rfl

/-- Every submission queue before the entry is written. -/
theorem marked_findSq (found : ndev.findSq cmd.sqid = some sq)
    (numbered : Numbered ndev ready cmd.sqid (u16 (sq.nextCid + 1)))
    (same : SameKind command ccmd) (cid : command.commandId = sq.nextCid)
    (adds : dnvmeAddCmdNode env ready cmd command prps = .ok (0, added))
    (id : Nat) :
    (targetMarked cmd ccmd added).findSq id = (ndev.findSq id).map fun q =>
      if id = cmd.sqid then
        listed (submittedNode ndev.nextObject sq cmd ccmd prps.isSome)
          (createdSq env cmd ccmd ndev.nextObject prps.isSome id q)
      else
        createdSq env cmd ccmd ndev.nextObject prps.isSome id q := by
  have addedSq : added.findSq id =
      ((pagesGiven env ready cmd command prps).findSq id).map fun q =>
        if id = cmd.sqid then
          { q with
            cmdList := q.cmdList ++
              [submittedNode ndev.nextObject sq cmd ccmd prps.isSome] }
        else q := by
    rw [added_eq found numbered same cid adds]
    exact NvmeDevice.findSq_modifySq _ _ _ _
  rw [targetMarked_findSq, addedSq, pagesGiven_findSq, numbered.findSq,
    numbered.nextObject]
  cases here : ndev.findSq id with
  | none => rfl
  | some q =>
      simp only [Option.map_some, same.createsSq, createdSq]
      by_cases self : id = cmd.sqid
      · subst id
        cases Option.some.inj (here.symm.trans found)
        by_cases creates : CreatesSq cmd ccmd cmd.sqid
        · -- a create command never gives pages to its own queue
          have admin : ¬ cmd.sqid ≠ 0 := not_not.mpr creates.1
          simp only [creates, admin, and_false, if_true, if_false, listed]
        · simp [creates, listed]
      · by_cases creates : CreatesSq cmd ccmd id
        · simp only [self, creates, true_and, if_true, if_false]
        · simp only [self, creates, false_and, and_false, if_false]

/-- The pages before the entry is written. -/
theorem marked_heap (found : ndev.findSq cmd.sqid = some sq)
    (numbered : Numbered ndev ready cmd.sqid (u16 (sq.nextCid + 1)))
    (same : SameKind command ccmd) (cid : command.commandId = sq.nextCid)
    (adds : dnvmeAddCmdNode env ready cmd command prps = .ok (0, added)) :
    (targetMarked cmd ccmd added).prpsHeap = heapWith ndev prps := by
  have heapSame : heapWith ready prps = heapWith ndev prps := by
    unfold heapWith
    rw [numbered.prpsHeap, numbered.nextObject]
  rw [(targetMarked_rest cmd ccmd added).1,
    added_eq found numbered same cid adds, ← heapSame,
    ← (pagesGiven_rest env ready cmd command prps).1]
  exact NvmeDevice.modifySq_prpsHeap _ _ _

/-- The queue of a command never gets the pages of that command. -/
theorem createdSq_own (env : SubmitEnv) (cmd : Nvme64bCmd)
    (ccmd : NvmeCommonCommand) (object : Nat) (paged : Bool) (sq : NvmeSq) :
    ∃ created, createdSq env cmd ccmd object paged cmd.sqid sq =
      { sq with created := created } := by
  unfold createdSq
  by_cases creates : CreatesSq cmd ccmd cmd.sqid
  · have admin : ¬ cmd.sqid ≠ 0 := not_not.mpr creates.1
    simp only [creates, admin, and_false, if_true, if_false]
    exact ⟨true, rfl⟩
  · simp only [creates, if_false]
    exact ⟨sq.created, rfl⟩

/-- Every submission queue after the entry was written. -/
theorem written_findSq (found : ndev.findSq cmd.sqid = some sq)
    (numbered : Numbered ndev ready cmd.sqid (u16 (sq.nextCid + 1)))
    (same : SameKind command ccmd) (cid : command.commandId = sq.nextCid)
    (adds : dnvmeAddCmdNode env ready cmd command prps = .ok (0, added))
    (writes : (targetMarked cmd ccmd added).writeEntry cmd.sqid filled =
      .ok next) (id : Nat) :
    next.findSq id = (ndev.findSq id).map fun q =>
      if id = cmd.sqid then
        enqueued filled
          (submittedNode ndev.nextObject sq cmd ccmd prps.isSome)
          (createdSq env cmd ccmd ndev.nextObject prps.isSome id q)
      else
        createdSq env cmd ccmd ndev.nextObject prps.isSome id q := by
  rcases writeEntry_cases writes with ⟨_, _, _, nextEq⟩
  rw [nextEq, NvmeDevice.findSq_modifySq,
    marked_findSq found numbered same cid adds, Option.map_map]
  congr 1
  funext q
  by_cases self : id = cmd.sqid
  · simp only [Function.comp_apply, self, if_true]
    rfl
  · simp only [Function.comp_apply, self, if_false]

/-- Every completion queue after the entry was written. -/
theorem written_findCq (found : ndev.findSq cmd.sqid = some sq)
    (numbered : Numbered ndev ready cmd.sqid (u16 (sq.nextCid + 1)))
    (same : SameKind command ccmd) (cid : command.commandId = sq.nextCid)
    (adds : dnvmeAddCmdNode env ready cmd command prps = .ok (0, added))
    (writes : (targetMarked cmd ccmd added).writeEntry cmd.sqid filled =
      .ok next) (id : Nat) :
    next.findCq id = (ndev.findCq id).map
      (createdCq env cmd ccmd ndev.nextObject prps.isSome id) := by
  rcases writeEntry_cases writes with ⟨_, _, _, nextEq⟩
  have nextCq : next.findCq id = (targetMarked cmd ccmd added).findCq id := by
    rw [nextEq]
    exact congrArg (fun cqs => AList.lookup id cqs)
      (NvmeDevice.modifySq_cqs _ _ _)
  have addedCq : added.findCq id =
      (pagesGiven env ready cmd command prps).findCq id := by
    rw [added_eq found numbered same cid adds]
    exact congrArg (fun cqs => AList.lookup id cqs)
      (NvmeDevice.modifySq_cqs _ _ _)
  rw [nextCq, targetMarked_findCq, addedCq, pagesGiven_findCq,
    numbered.findCq, numbered.nextObject]
  cases ndev.findCq id with
  | none => rfl
  | some q =>
      simp only [Option.map_some, same.createsCq]
      unfold createdCq
      by_cases creates : CreatesCq cmd ccmd id
      · simp [creates]
      · simp [creates]

/-- The rest of the device after the entry was written. -/
theorem written_rest (found : ndev.findSq cmd.sqid = some sq)
    (numbered : Numbered ndev ready cmd.sqid (u16 (sq.nextCid + 1)))
    (same : SameKind command ccmd) (cid : command.commandId = sq.nextCid)
    (adds : dnvmeAddCmdNode env ready cmd command prps = .ok (0, added))
    (writes : (targetMarked cmd ccmd added).writeEntry cmd.sqid filled =
      .ok next) :
    next.prpsHeap = heapWith ndev prps ∧ next.released = ndev.released ∧
      next.nextObject =
        (submittedNode ndev.nextObject sq cmd ccmd prps.isSome).node + 1 ∧
      next.irqSet = ndev.irqSet ∧ next.qDepth = ndev.qDepth ∧
      next.bug = ndev.bug := by
  rcases writeEntry_cases writes with ⟨_, _, _, nextEq⟩
  rcases targetMarked_rest cmd ccmd added with
    ⟨_, released, object, irq, depth, bug⟩
  rcases pagesGiven_rest env ready cmd command prps with
    ⟨_, givenReleased, _, givenIrq, givenDepth, givenBug⟩
  have addedEq := added_eq found numbered same cid adds
  refine ⟨?_, ?_, ?_, ?_, ?_, ?_⟩
  · rw [nextEq, NvmeDevice.modifySq_prpsHeap]
    exact marked_heap found numbered same cid adds
  · rw [nextEq, NvmeDevice.modifySq_released, released, addedEq,
      ← numbered.released, ← givenReleased]
    exact NvmeDevice.modifySq_released _ _ _
  · rw [nextEq, NvmeDevice.modifySq_nextObject, object, addedEq]
  · rw [nextEq, NvmeDevice.modifySq_irqSet, irq, addedEq, ← numbered.irqSet,
      ← givenIrq]
    exact NvmeDevice.modifySq_irqSet _ _ _
  · rw [nextEq, NvmeDevice.modifySq_qDepth, depth, addedEq,
      ← numbered.qDepth, ← givenDepth]
    exact NvmeDevice.modifySq_qDepth _ _ _
  · rw [nextEq, NvmeDevice.modifySq_bug, bug, addedEq, ← numbered.bug,
      ← givenBug]
    exact NvmeDevice.modifySq_bug _ _ _

/-- The queue that took the command has memory. -/
theorem written_memory (found : ndev.findSq cmd.sqid = some sq)
    (numbered : Numbered ndev ready cmd.sqid (u16 (sq.nextCid + 1)))
    (same : SameKind command ccmd) (cid : command.commandId = sq.nextCid)
    (adds : dnvmeAddCmdNode env ready cmd command prps = .ok (0, added))
    (writes : (targetMarked cmd ccmd added).writeEntry cmd.sqid filled =
      .ok next) :
    sq.contig = true ∨ sq.prps ≠ none := by
  rcases writeEntry_cases writes with ⟨queue, here, inside, _⟩
  have memory := slotInside_sqSpan inside
  rcases createdSq_own env cmd ccmd ndev.nextObject prps.isSome sq with
    ⟨created, own⟩
  rw [marked_findSq found numbered same cid adds, found, Option.map_some,
    if_pos rfl, own] at here
  cases here
  exact memory

end Assembled

/-! ## The two ends of a submission -/

/-- A refused submission changes at most the next identifier. -/
def SubmitRefused (cmd : Nvme64bCmd) (ndev next : NvmeDevice) : Prop :=
  ∃ pinned poolPages,
    next = { ndev with pinned := pinned, poolPages := poolPages } ∨
    ∃ sq cid, ndev.findSq cmd.sqid = some sq ∧
      (cid = sq.nextCid ∨ cid = u16 (sq.nextCid + 1)) ∧
      next = { ndev.setSq cmd.sqid { sq with nextCid := cid } with
        pinned := pinned
        poolPages := poolPages }

theorem SubmitRefused.same (cmd : Nvme64bCmd) (ndev : NvmeDevice) :
    SubmitRefused cmd ndev ndev :=
  ⟨ndev.pinned, ndev.poolPages, Or.inl rfl⟩

/-- `dnvme_fill_mptr` writes the metadata pointer only. -/
theorem dnvmeFillMptr_cases {ndev : NvmeDevice}
    {ccmd filled : NvmeCommonCommand} {metaId : Nat} {ret : Int}
    (done : dnvmeFillMptr ndev ccmd metaId = .ok (ret, filled)) :
    ∃ metadata, filled = { ccmd with metadata := metadata } := by
  unfold dnvmeFillMptr at done
  split at done
  · cases done
    exact ⟨ccmd.metadata, rfl⟩
  · split at done
    · cases done
      exact ⟨_, rfl⟩
    · split at done
      · cases done
      · cases done
        exact ⟨_, rfl⟩

/-- Only the metadata pointer changes. -/
theorem askedMptr_cases {ndev : NvmeDevice} {cmd : Nvme64bCmd}
    {ccmd filled : NvmeCommonCommand} {ret : Int}
    (done : askedMptr ndev cmd ccmd = .ok (ret, filled)) :
    ∃ metadata, filled = { ccmd with metadata := metadata } := by
  unfold askedMptr at done
  split at done
  · exact dnvmeFillMptr_cases done
  · cases done
    exact ⟨ccmd.metadata, rfl⟩

/-- A target is as ready after the identifier was taken as before. -/
theorem Numbered.targetReady {ndev ready : NvmeDevice} {cmd : Nvme64bCmd}
    {sqid cid : Nat} {command ccmd : NvmeCommonCommand}
    (numbered : Numbered ndev ready sqid cid)
    (same : SameKind command ccmd) (target : TargetReady ready cmd command) :
    TargetReady ndev cmd ccmd := by
  constructor
  · intro id creates
    rcases target.sq id ((same.createsSq cmd id).mpr creates) with
      ⟨sq, found, created, memory⟩
    rw [numbered.findSq] at found
    rcases Option.map_eq_some_iff.mp found with ⟨before, here, equal⟩
    refine ⟨before, here, ?_⟩
    subst equal
    by_cases self : id = sqid
    · rw [if_pos self] at created memory
      exact ⟨created, memory⟩
    · rw [if_neg self] at created memory
      exact ⟨created, memory⟩
  · intro id creates
    rcases target.cq id ((same.createsCq cmd id).mpr creates) with
      ⟨cq, found, rest⟩
    rw [numbered.findCq] at found
    exact ⟨cq, found, rest⟩

/-- The address of a contiguous queue does not depend on identifiers. -/
theorem Numbered.pointAtQueue {ndev ready : NvmeDevice} {sqid cid : Nat}
    (numbered : Numbered ndev ready sqid cid) (cmd : Nvme64bCmd)
    (ccmd : NvmeCommonCommand) :
    pointAtQueue ready cmd ccmd = pointAtQueue ndev cmd ccmd := by
  unfold Driver.pointAtQueue
  rw [numbered.findSq, numbered.findCq]
  cases ndev.findSq ccmd.qid with
  | none => rfl
  | some sq =>
      by_cases self : ccmd.qid = sqid
      · simp only [Option.map_some, self, if_true]
      · simp only [Option.map_some, self, if_false]

theorem submitNumbered_cases {env : SubmitEnv} {ndev next : NvmeDevice}
    {sq : NvmeSq} {cmd : Nvme64bCmd} {ccmd : NvmeCommonCommand} {ret : Int}
    (found : ndev.findSq cmd.sqid = some sq)
    (notFull : dnvmeSqIsFull sq = false) (read : env.ccmd = some ccmd)
    (done : submitNumbered env ndev sq cmd ccmd = .ok (ret, next)) :
    (ret < 0 ∧ SubmitRefused cmd ndev next) ∨
      (ret = 0 ∧ ∃ filled prps,
        Submitted env cmd ndev next sq ccmd filled prps) := by
  have bump : ndev.setNextCid cmd.sqid (u16 (sq.nextCid + 1)) =
      ndev.setSq cmd.sqid { sq with nextCid := u16 (sq.nextCid + 1) } :=
    setNextCid_eq found _
  unfold submitNumbered at done
  dsimp only at done
  split at done
  · cases done
    exact Or.inl ⟨by decide, ndev.pinned, ndev.poolPages,
      Or.inr ⟨sq, _, found, Or.inr rfl, bump⟩⟩
  · rcases ok_of_bind done with ⟨⟨code, command⟩, fills, done⟩
    dsimp only at done
    split at done
    · rename_i fails
      cases done
      exact Or.inl ⟨fails, ndev.pinned, ndev.poolPages,
        Or.inr ⟨sq, _, found, Or.inr rfl, bump⟩⟩
    · rcases ok_of_bind done with ⟨⟨code, filled, after⟩, sent, done⟩
      dsimp only at done
      rcases dispatchCmd_cases sent with
        ⟨fails, pinned, poolPages, afterEq⟩ |
        ⟨zero, target, prps, dptr, pinned, poolPages, added, pages,
          filledEq, adds, afterEq⟩
      · rw [if_pos fails] at done
        cases done
        refine Or.inl ⟨fails, pinned, poolPages,
          Or.inr ⟨sq, sq.nextCid, found, Or.inl rfl, ?_⟩⟩
        have again : after.findSq cmd.sqid =
            some { sq with nextCid := u16 (sq.nextCid + 1) } := by
          rw [afterEq, bump]
          exact NvmeDevice.findSq_setSq _ _ _
        rw [setNextCid_eq again, afterEq, bump]
        unfold NvmeDevice.setSq
        simp only [AList.insert_insert]
      · subst zero
        rw [if_neg (by decide)] at done
        rcases ok_of_bind done with ⟨written, writes, done⟩
        cases done
        rcases askedMptr_cases fills with ⟨metadata, rfl⟩
        have taken := setNextCid_numbered ndev cmd.sqid
          (u16 (sq.nextCid + 1))
        have numbered := taken.repaged pinned poolPages
        have same : SameKind
            { ccmd with
              commandId := sq.nextCid
              metadata := metadata
              dptr := dptr } ccmd := ⟨rfl, rfl⟩
        rw [afterEq] at writes
        have ready : TargetReady ndev cmd ccmd := by
          refine taken.targetReady ?_ target
          exact ⟨rfl, rfl⟩
        rcases written_rest found numbered same rfl adds writes with
          ⟨heap, released, nextObject, irqSet, qDepth, bug⟩
        refine Or.inr ⟨rfl, filled, prps, {
          found := found
          notFull := notFull
          read := read
          target := ready
          filled_eq := ⟨metadata, dptr, ?_, ?_⟩
          memory := written_memory found numbered same rfl adds writes
          findSq := written_findSq found numbered same rfl adds writes
          findCq := written_findCq found numbered same rfl adds writes
          heap := heap
          released := released
          nextObject := nextObject
          irqSet := irqSet
          qDepth := qDepth
          bug := bug }⟩
        · rw [bump] at pages
          exact pages
        · rw [filledEq, taken.pointAtQueue]

/-- `dnvme_submit_64b_cmd` refuses a request or accepts it. -/
theorem dnvmeSubmit64bCmd_cases {env : SubmitEnv} {ndev next : NvmeDevice}
    {cmd : Nvme64bCmd} {ret : Int}
    (done : dnvmeSubmit64bCmd env ndev cmd = .ok (ret, next)) :
    (ret < 0 ∧ SubmitRefused cmd ndev next) ∨
      (ret = 0 ∧ ∃ sq ccmd filled prps,
        Submitted env cmd ndev next sq ccmd filled prps) := by
  unfold dnvmeSubmit64bCmd at done
  split at done
  · cases done
    exact Or.inl ⟨by decide, SubmitRefused.same cmd ndev⟩
  · split at done
    · cases done
      exact Or.inl ⟨by decide, SubmitRefused.same cmd ndev⟩
    · split at done
      · cases done
        exact Or.inl ⟨by decide, SubmitRefused.same cmd ndev⟩
      · split at done
        · cases done
          exact Or.inl ⟨by decide, SubmitRefused.same cmd ndev⟩
        · rename_i sq found
          split at done
          · cases done
            exact Or.inl ⟨by decide, SubmitRefused.same cmd ndev⟩
          · rename_i room
            split at done
            · cases done
              exact Or.inl ⟨by decide, SubmitRefused.same cmd ndev⟩
            · split at done
              · cases done
                exact Or.inl ⟨by decide, SubmitRefused.same cmd ndev⟩
              · rename_i ccmd read
                rcases submitNumbered_cases found (by simpa using room) read
                  done with refused | ⟨zero, filled, prps, accepted⟩
                · exact Or.inl refused
                · exact Or.inr ⟨zero, sq, ccmd, filled, prps, accepted⟩

/-- A submission hits no `BUG_ON`. -/
theorem step_submit64bCmd {env : SubmitEnv} {ndev next : NvmeDevice}
    {cmd : Nvme64bCmd} {ret : Int} (running : ndev.bug = false)
    (done : dnvmeSubmit64bCmd env ndev cmd = .ok (ret, next)) :
    step ndev (.submit64bCmd env cmd) = .ok (ret, next) := by
  have same : next.bug = ndev.bug := by
    rcases dnvmeSubmit64bCmd_cases done with
      ⟨_, pinned, poolPages, rfl | ⟨_, _, _, _, rfl⟩⟩ |
      ⟨_, _, _, _, _, accepted⟩
    · rfl
    · rfl
    · exact accepted.bug
  rw [step, perform, done]
  dsimp only
  rw [same, running, if_neg Bool.false_ne_true]

/-! ## Commands without data -/

/-- No allocation and no user copy of a submission fails. -/
structure SubmitEnv.NothingFails (env : SubmitEnv) : Prop where
  copyCmd : env.copyCmd = true
  bufAlloc : env.bufAlloc = true
  copyBack : env.copyBack = true
  nodeAlloc : env.nodeAlloc = true

/-- A request without data and metadata. -/
structure Nvme64bCmd.NoData (cmd : Nvme64bCmd) : Prop where
  cmdBufPtr : cmd.cmdBufPtr ≠ 0
  dataBufPtr : cmd.dataBufPtr = 0
  dataBufSize : cmd.dataBufSize = 0
  mptr : cmd.bitMask.mptr = false

theorem Nvme64bCmd.NoData.needPrp {cmd : Nvme64bCmd} (noData : cmd.NoData)
    (ccmd : NvmeCommonCommand) : needPrp cmd ccmd = false := by
  unfold Driver.needPrp
  rw [noData.dataBufPtr]
  split
  · split <;> simp
  · simp

theorem dispatchCmd_of_not_createsQueue {cmd : Nvme64bCmd}
    {ccmd : NvmeCommonCommand} (plain : createsQueue cmd ccmd = false)
    (env : SubmitEnv) (ndev : NvmeDevice) :
    dispatchCmd env ndev cmd ccmd = dnvmePrepare64bCmd env ndev cmd ccmd := by
  unfold createsQueue at plain
  unfold dispatchCmd
  split
  · split <;> simp_all
  · rfl

theorem targetMissing_of_not_createsQueue {cmd : Nvme64bCmd}
    {ccmd : NvmeCommonCommand} (plain : createsQueue cmd ccmd = false)
    (ndev : NvmeDevice) : targetMissing ndev cmd ccmd = false := by
  unfold createsQueue at plain
  unfold targetMissing
  cases opcode : adminOpcode ccmd.opcode <;> simp_all

theorem dnvmeAddCmdNode_adds {env : SubmitEnv} {ndev : NvmeDevice}
    {cmd : Nvme64bCmd} {sq : NvmeSq} {ccmd : NvmeCommonCommand}
    (found : ndev.findSq cmd.sqid = some sq) (alloc : env.nodeAlloc = true)
    (plain : createsQueue cmd ccmd = false) :
    ∃ node, dnvmeAddCmdNode env ndev cmd ccmd none =
      .ok (0, ndev.addNode cmd.sqid node) := by
  refine ⟨newNode ndev.nextObject sq cmd ccmd none, ?_⟩
  unfold dnvmeAddCmdNode
  rw [found]
  dsimp only
  rw [if_neg (by simp [alloc]),
    if_neg (by simp [targetMissing_of_not_createsQueue plain])]

/-- A command without data that creates no queue is accepted when there is a
slot for it. -/
theorem dnvmeSubmit64bCmd_accepts {env : SubmitEnv} {ndev : NvmeDevice}
    {cmd : Nvme64bCmd} {sq : NvmeSq} {ccmd : NvmeCommonCommand}
    (fine : env.NothingFails) (noData : cmd.NoData)
    (found : ndev.findSq cmd.sqid = some sq)
    (notFull : dnvmeSqIsFull sq = false) (read : env.ccmd = some ccmd)
    (plain : createsQueue cmd ccmd = false)
    (inside : slotInside (ndev.sqSpan sq) sq.sqes sq.tailPtrVirt = true) :
    ∃ next, dnvmeSubmit64bCmd env ndev cmd = .ok (0, next) := by
  have bump := setNextCid_eq found (u16 (sq.nextCid + 1))
  have numbered : (ndev.setNextCid cmd.sqid (u16 (sq.nextCid + 1))).findSq
      cmd.sqid = some { sq with nextCid := u16 (sq.nextCid + 1) } := by
    rw [bump, NvmeDevice.findSq_setSq]
  have same : createsQueue cmd { ccmd with commandId := sq.nextCid } = false :=
    plain
  rcases dnvmeAddCmdNode_adds numbered fine.nodeAlloc same with ⟨node, added⟩
  have linked := addNode_eq node numbered
  have writes : ∃ next,
      ((ndev.setNextCid cmd.sqid (u16 (sq.nextCid + 1))).addNode cmd.sqid
        node).writeEntry cmd.sqid { ccmd with commandId := sq.nextCid } =
      .ok next := by
    have here : ((ndev.setNextCid cmd.sqid (u16 (sq.nextCid + 1))).addNode
        cmd.sqid node).findSq cmd.sqid = some
          { sq with
            nextCid := u16 (sq.nextCid + 1)
            cmdList := sq.cmdList ++ [node] } := by
      unfold NvmeDevice.addNode
      rw [numbered]
      exact NvmeDevice.findSq_setSq _ _ _
    have heap : ((ndev.setNextCid cmd.sqid (u16 (sq.nextCid + 1))).addNode
        cmd.sqid node).prpsHeap = ndev.prpsHeap := by
      rw [linked, bump]
      exact NvmeDevice.modifySq_prpsHeap _ _ _
    unfold NvmeDevice.writeEntry
    rw [here]
    dsimp only
    rw [if_pos]
    · exact ⟨_, rfl⟩
    · have span : NvmeDevice.sqSpan
          ((ndev.setNextCid cmd.sqid (u16 (sq.nextCid + 1))).addNode
            cmd.sqid node)
          { sq with
            nextCid := u16 (sq.nextCid + 1)
            cmdList := sq.cmdList ++ [node] } = ndev.sqSpan sq := by
        unfold NvmeDevice.sqSpan NvmeDevice.prpsSpan
        rw [heap]
      rw [span]
      exact inside
  rcases writes with ⟨next, writes⟩
  refine ⟨next, ?_⟩
  unfold dnvmeSubmit64bCmd
  rw [if_neg (by simp [fine.copyCmd]), if_neg noData.cmdBufPtr,
    if_neg (by simp [noData.dataBufPtr, noData.dataBufSize]), found]
  dsimp only
  rw [if_neg (by simp [notFull]), if_neg (by simp [fine.bufAlloc]), read]
  dsimp only
  unfold submitNumbered
  rw [if_neg (by simp [fine.copyBack])]
  unfold askedMptr
  rw [if_neg (by simp [noData.mptr])]
  change (dispatchCmd env _ cmd { ccmd with commandId := sq.nextCid } >>= _)
    = _
  rw [dispatchCmd_of_not_createsQueue same]
  unfold dnvmePrepare64bCmd
  rw [if_pos (by rw [noData.needPrp]; rfl), added]
  change (NvmeDevice.writeEntry _ cmd.sqid
    { ccmd with commandId := sq.nextCid } >>= _) = _
  rw [writes]
  rfl

end Dnvme.Driver
