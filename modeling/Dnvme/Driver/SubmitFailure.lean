import Dnvme.Driver.CommandId

/-!
# A failed submission

`dnvme_submit_64b_cmd` has two exits for errors.  The one behind the switch
over the opcode takes the identifier back; the one in front of it, after a
failed copy to the user or an unknown metadata buffer, does not.  Everything
else a submission takes on its way (pinned pages, list pages, the command
node) is given back on every error path.
-/

namespace Dnvme.Driver.SubmitFailure

open Dnvme.Lib.Results
open Dnvme.Driver

/-! ## Pages -/

/-- `dma_map_sg` stores bus addresses and lengths and leaves the pages of the
scatter list alone. -/
def KeepsPages (env : MapEnv) : Prop :=
  ∀ sgl, (env.dmaMap sgl).map ScatterEntry.page =
    sgl.map ScatterEntry.page

theorem putPages_append (pages pinned : List Nat) :
    putPages pages (pages ++ pinned) = pinned :=
  foldl_erase_append pages pinned

theorem pagesToSgl_pages (frame : Nat → Nat)
    (count index offset length : Nat) :
    (pagesToSgl frame count index offset length).map ScatterEntry.page =
      (List.range count).map fun page => frame (index + page) := by
  induction count generalizing index offset length with
  | zero => rfl
  | succ count ih =>
      rw [pagesToSgl, List.map_cons, ih, List.range_succ_eq_map,
        List.map_cons, List.map_map]
      congr 1
      refine List.map_congr_left fun page _ => ?_
      simp only [Function.comp_apply]
      congr 1
      omega

/-- A mapping that fails gives back the pages it pinned; what a mapping leaves
pinned is what `dnvme_unmap_user_page` gives back. -/
theorem dnvmeMapUserPage_pinned {env : MapEnv} (keeps : KeepsPages env)
    {pinned : List Nat} {prps : NvmePrps} (unmapped : prps.sg = none)
    {addr size dir : Nat} {access : Bool} {result : MapResult}
    (done : dnvmeMapUserPage env pinned prps addr size dir access =
      .ok result) :
    (result.ret < 0 → result.pinned = pinned) ∧
      dnvmeUnmapUserPage result.prps result.pinned = pinned := by
  rcases dnvmeMapUserPage_cases done with ⟨zero, _, object, held⟩ |
    ⟨object, ⟨pages, given⟩, _⟩
  · refine ⟨fun fails => absurd fails (by omega), ?_⟩
    have pages := keeps
      (pagesToSgl env.frame (userPages addr size) 0 (offsetInPage addr) size)
    rw [pagesToSgl_pages] at pages
    rw [object, held]
    simp only [dnvmeUnmapUserPage, MapEnv.mapped, List.map_take, pages,
      Nat.zero_add]
    rw [List.take_of_length_le (by simp)]
    exact putPages_append _ _
  · rw [object, given, putPages_append]
    exact ⟨fun _ => rfl, by rw [dnvmeUnmapUserPage, unmapped]⟩

/-! ## Preparing a command -/

theorem dnvmePrepare64bCmd_fails {env : SubmitEnv}
    (keeps : KeepsPages env.map) {ndev next : NvmeDevice} {cmd : Nvme64bCmd}
    {ccmd filled : NvmeCommonCommand} {ret : Int}
    (done : dnvmePrepare64bCmd env ndev cmd ccmd = .ok (ret, filled, next))
    (fails : ret < 0) : next = ndev := by
  unfold dnvmePrepare64bCmd at done
  split at done
  · rcases ok_of_bind done with ⟨⟨code, added⟩, adds, result⟩
    cases result
    rcases dnvmeAddCmdNode_cases adds with ⟨_, same⟩ | ⟨succeeds, _⟩
    · exact same
    · omega
  · split at done
    · cases done
      rfl
    · rcases ok_of_bind done with ⟨mapped, maps, done⟩
      extract_lets pinned at done
      subst pinned
      obtain ⟨unpinned, unmaps⟩ := dnvmeMapUserPage_pinned keeps rfl maps
      split at done
      · rename_i mapFails
        cases done
        rw [unpinned mapFails]
      · rcases ok_of_bind done with ⟨result, setUp, done⟩
        have set := setupPrps_keeps setUp
        have released : dnvmeUnmapUserPage result.prps mapped.pinned =
            ndev.pinned := by
          rw [dnvmeUnmapUserPage, set.sg, set.numMapPgs]
          exact unmaps
        split at done
        · rename_i setFails
          cases done
          rw [set.failed setFails, released]
        · rename_i setOk
          rcases ok_of_bind done with ⟨⟨code, added⟩, adds, done⟩
          rcases dnvmeAddCmdNode_cases adds with ⟨addFails, same⟩ | ⟨zero, _⟩
          · dsimp only at done
            rw [if_pos addFails] at done
            cases done
            have blank : mapped.prps.prpList = none := by
              rcases dnvmeMapUserPage_cases maps with ⟨_, _, whole, _⟩ |
                ⟨whole, _⟩
              · rw [whole]
                rfl
              · rw [whole]
                rfl
            rw [same]
            dsimp only
            rw [set.listed (not_lt.mp setOk) blank, released]
          · subst zero
            cases done
            omega

theorem dnvmeCreateIosq_fails {env : SubmitEnv}
    (keeps : KeepsPages env.map) {ndev next : NvmeDevice} {cmd : Nvme64bCmd}
    {ccmd filled : NvmeCommonCommand} {ret : Int}
    (done : dnvmeCreateIosq env ndev cmd ccmd = .ok (ret, filled, next))
    (fails : ret < 0) : next = ndev := by
  unfold dnvmeCreateIosq at done
  split at done
  · cases done
    rfl
  split at done
  · cases done
    rfl
  split at done
  · cases done
    rfl
  split at done
  · cases done
    rfl
  rcases ok_of_bind done with ⟨⟨code, pointed, prepared⟩, prepares, done⟩
  dsimp only at done
  split at done
  · rename_i negative
    cases done
    exact dnvmePrepare64bCmd_fails keeps prepares negative
  · cases done
    omega

theorem dnvmeCreateIocq_fails {env : SubmitEnv}
    (keeps : KeepsPages env.map) {ndev next : NvmeDevice} {cmd : Nvme64bCmd}
    {ccmd filled : NvmeCommonCommand} {ret : Int}
    (done : dnvmeCreateIocq env ndev cmd ccmd = .ok (ret, filled, next))
    (fails : ret < 0) : next = ndev := by
  unfold dnvmeCreateIocq at done
  split at done
  · cases done
    rfl
  split at done
  · cases done
    rfl
  split at done
  · cases done
    rfl
  split at done
  · cases done
    rfl
  split at done
  · cases done
    rfl
  rcases ok_of_bind done with ⟨⟨code, pointed, prepared⟩, prepares, done⟩
  dsimp only at done
  split at done
  · rename_i negative
    cases done
    exact dnvmePrepare64bCmd_fails keeps prepares negative
  · cases done
    omega

theorem dispatchCmd_fails {env : SubmitEnv} (keeps : KeepsPages env.map)
    {ndev next : NvmeDevice} {cmd : Nvme64bCmd}
    {ccmd filled : NvmeCommonCommand} {ret : Int}
    (done : dispatchCmd env ndev cmd ccmd = .ok (ret, filled, next))
    (fails : ret < 0) : next = ndev := by
  unfold dispatchCmd at done
  split at done
  · split at done
    · exact dnvmeCreateIosq_fails keeps done fails
    · exact dnvmeCreateIocq_fails keeps done fails
    all_goals exact dnvmePrepare64bCmd_fails keeps done fails
  · exact dnvmePrepare64bCmd_fails keeps done fails

/-! ## The two error exits -/

/-- The queues, the pinned pages and the list pages are as before. -/
structure Unchanged (ndev next : NvmeDevice) : Prop where
  sqs : ∀ id, next.findSq id = ndev.findSq id
  cqs : ∀ id, next.findCq id = ndev.findCq id
  pinned : next.pinned = ndev.pinned
  poolPages : next.poolPages = ndev.poolPages

theorem Unchanged.refl (ndev : NvmeDevice) : Unchanged ndev ndev :=
  ⟨fun _ => rfl, fun _ => rfl, rfl, rfl⟩

/-- The request passes all checks in front of `sq->next_cid++`. -/
structure TakesIdentifier (env : SubmitEnv) (ndev : NvmeDevice)
    (cmd : Nvme64bCmd) : Prop where
  copyCmd : env.copyCmd = true
  cmdBufPtr : cmd.cmdBufPtr ≠ 0
  sizes : (cmd.dataBufSize = 0 ↔ cmd.dataBufPtr = 0)
  queue : ∃ sq, ndev.findSq cmd.sqid = some sq ∧ dnvmeSqIsFull sq = false
  bufAlloc : env.bufAlloc = true
  ccmd : env.ccmd ≠ none

/-- The request takes an identifier that cannot be copied to the user, or
then asks for a metadata buffer that does not exist. -/
def LosesIdentifier (env : SubmitEnv) (ndev : NvmeDevice)
    (cmd : Nvme64bCmd) : Prop :=
  TakesIdentifier env ndev cmd ∧
    (env.copyBack = false ∨
      cmd.bitMask.mptr = true ∧ ndev.metas.lookup cmd.metaId = none)

theorem u16_succ_ne (value : Nat) : u16 (value + 1) ≠ value := by
  unfold u16
  omega

/-- An identifier that is not taken back is a change. -/
theorem not_unchanged_of_setNextCid {ndev : NvmeDevice} {sqid : Nat}
    {sq : NvmeSq} (found : ndev.findSq sqid = some sq) :
    ¬Unchanged ndev (ndev.setNextCid sqid (u16 (sq.nextCid + 1))) := by
  intro unchanged
  have same := unchanged.sqs sqid
  rw [setNextCid_eq found, NvmeDevice.findSq_setSq, found,
    Option.some.injEq] at same
  exact u16_succ_ne sq.nextCid (congrArg NvmeSq.nextCid same)

/-- An identifier that is taken back is none. -/
theorem unchanged_setNextCid_back {ndev : NvmeDevice} {sqid : Nat}
    {sq : NvmeSq} (found : ndev.findSq sqid = some sq) (cid : Nat) :
    Unchanged ndev
      ((ndev.setNextCid sqid cid).setNextCid sqid sq.nextCid) := by
  rw [setNextCid_eq found,
    setNextCid_eq (NvmeDevice.findSq_setSq _ _ _)]
  refine ⟨fun id => ?_, fun id => rfl, rfl, rfl⟩
  by_cases self : id = sqid
  · subst self
    rw [NvmeDevice.findSq_setSq, found]
  · rw [NvmeDevice.findSq_setSq_ne _ _ self,
      NvmeDevice.findSq_setSq_ne _ _ self]

theorem askedMptr_fails_iff {ndev : NvmeDevice} {cmd : Nvme64bCmd}
    {ccmd filled : NvmeCommonCommand} {ret : Int}
    (done : askedMptr ndev cmd ccmd = .ok (ret, filled)) :
    ret < 0 ↔
      cmd.bitMask.mptr = true ∧ ndev.metas.lookup cmd.metaId = none := by
  unfold askedMptr dnvmeFillMptr at done
  split at done
  · rename_i asked
    split at done
    · rename_i missing
      cases done
      simp [asked, missing]
    · rename_i node present
      split at done
      · cases done
        simp [present]
      · split at done
        · cases done
        · cases done
          simp [present]
  · rename_i unasked
    cases done
    simp [unasked]

theorem submitNumbered_unchanged_iff {env : SubmitEnv}
    (keeps : KeepsPages env.map) {ndev next : NvmeDevice} {sq : NvmeSq}
    {cmd : Nvme64bCmd} {ccmd : NvmeCommonCommand} {ret : Int}
    (found : ndev.findSq cmd.sqid = some sq)
    (done : submitNumbered env ndev sq cmd ccmd = .ok (ret, next))
    (fails : ret < 0) :
    Unchanged ndev next ↔
      ¬(env.copyBack = false ∨
        cmd.bitMask.mptr = true ∧ ndev.metas.lookup cmd.metaId = none) := by
  have metas : (ndev.setNextCid cmd.sqid (u16 (sq.nextCid + 1))).metas =
      ndev.metas := by
    rw [setNextCid_eq found]
    rfl
  unfold submitNumbered at done
  dsimp only at done
  split at done
  · rename_i lost
    cases done
    refine iff_of_false (not_unchanged_of_setNextCid found) ?_
    rw [not_not]
    exact Or.inl (by simpa using lost)
  · rename_i copied
    rcases ok_of_bind done with ⟨⟨code, command⟩, fills, done⟩
    dsimp only at done
    have asked := askedMptr_fails_iff fills
    rw [metas] at asked
    split at done
    · rename_i negative
      cases done
      refine iff_of_false (not_unchanged_of_setNextCid found) ?_
      rw [not_not]
      exact Or.inr (asked.mp negative)
    · rename_i nonnegative
      rcases ok_of_bind done with ⟨⟨code, filled, after⟩, sent, done⟩
      dsimp only at done
      split at done
      · rename_i refused
        cases done
        rw [dispatchCmd_fails keeps sent refused]
        refine iff_of_true (unchanged_setNextCid_back found _) ?_
        rintro (lost | missing)
        · exact copied (by simp [lost])
        · exact nonnegative (asked.mpr missing)
      · rcases ok_of_bind done with ⟨written, _, done⟩
        cases done
        omega

/--
A submission that fails leaves the queues and the pages as they were exactly
when it does not lose an identifier.
-/
theorem failed_submit_unchanged_iff {env : SubmitEnv}
    (keeps : KeepsPages env.map) {ndev next : NvmeDevice} {cmd : Nvme64bCmd}
    {ret : Int} (done : dnvmeSubmit64bCmd env ndev cmd = .ok (ret, next))
    (fails : ret < 0) :
    Unchanged ndev next ↔ ¬LosesIdentifier env ndev cmd := by
  unfold dnvmeSubmit64bCmd at done
  split at done
  · rename_i uncopied
    cases done
    refine iff_of_true (.refl ndev) fun loses => ?_
    simp [loses.1.copyCmd] at uncopied
  rename_i copied
  split at done
  · rename_i null
    cases done
    exact iff_of_true (.refl ndev) fun loses => loses.1.cmdBufPtr null
  rename_i notNull
  split at done
  · rename_i inconsistent
    cases done
    refine iff_of_true (.refl ndev) fun loses => ?_
    have sizes := loses.1.sizes
    simp only [ne_eq, Bool.or_eq_true, Bool.and_eq_true, decide_eq_true_eq,
      decide_not, Bool.not_eq_true', decide_eq_false_iff_not]
      at inconsistent
    tauto
  rename_i consistent
  split at done
  · rename_i missing
    cases done
    refine iff_of_true (.refl ndev) fun loses => ?_
    obtain ⟨sq, found, _⟩ := loses.1.queue
    rw [missing] at found
    cases found
  rename_i sq found
  split at done
  · rename_i full
    cases done
    refine iff_of_true (.refl ndev) fun loses => ?_
    obtain ⟨other, same, room⟩ := loses.1.queue
    rw [found, Option.some.injEq] at same
    subst same
    rw [room] at full
    cases full
  rename_i room
  split at done
  · rename_i unallocated
    cases done
    refine iff_of_true (.refl ndev) fun loses => ?_
    simp [loses.1.bufAlloc] at unallocated
  rename_i allocated
  split at done
  · rename_i unread
    cases done
    exact iff_of_true (.refl ndev) fun loses => loses.1.ccmd unread
  rename_i ccmd read
  have takes : TakesIdentifier env ndev cmd := {
    copyCmd := by simpa using copied
    cmdBufPtr := notNull
    sizes := by
      simp only [ne_eq, Bool.or_eq_true, Bool.and_eq_true,
        decide_eq_true_eq, decide_not, Bool.not_eq_true',
        decide_eq_false_iff_not] at consistent
      tauto
    queue := ⟨sq, found, by simpa using room⟩
    bufAlloc := by simpa using allocated
    ccmd := by simp [read] }
  rw [submitNumbered_unchanged_iff keeps found done fails]
  exact not_congr ⟨fun lost => ⟨takes, lost⟩, fun loses => loses.2⟩

/-! ## Both exits at work -/

theorem keepsPages_mapEachPage (env : MapEnv) (bus : Nat → Nat)
    (mapping : env.dmaMap = PrpReading.mapEachPage bus) : KeepsPages env := by
  intro sgl
  rw [mapping, PrpReading.mapEachPage]
  apply List.ext_getElem?
  intro index
  cases found : sgl[index]? <;> simp [found]

/-- A request whose node cannot be allocated. -/
def noNodeEnv : SubmitEnv := { CommandId.eventEnv with nodeAlloc := false }

theorem failed_submit_without_node :
    ∃ next, dnvmeSubmit64bCmd noNodeEnv (CommandId.waitingDevice 1)
        (CommandId.eventCmd false) = .ok (-Errno.ENOMEM, next) ∧
      Unchanged (CommandId.waitingDevice 1) next := by
  obtain ⟨next, done⟩ : ∃ next, dnvmeSubmit64bCmd noNodeEnv
      (CommandId.waitingDevice 1) (CommandId.eventCmd false) =
        .ok (-Errno.ENOMEM, next) := ⟨_, rfl⟩
  have keeps : KeepsPages noNodeEnv.map :=
    keepsPages_mapEachPage _ _ rfl
  refine ⟨next, done, (failed_submit_unchanged_iff keeps done
    (by decide)).mpr ?_⟩
  rintro ⟨_, lost | ⟨asked, _⟩⟩
  · exact absurd lost (by decide)
  · exact absurd asked (by decide)

/-- A request with an unknown metadata buffer keeps its identifier. -/
theorem failed_submit_loses_cid :
    Reachable (fun _ _ _ => True) (CommandId.waitingDevice 1) ∧
      ∃ next, dnvmeSubmit64bCmd CommandId.eventEnv
          (CommandId.waitingDevice 1) (CommandId.eventCmd true) =
          .ok (-Errno.EINVAL, next) ∧
        ¬Unchanged (CommandId.waitingDevice 1) next := by
  refine ⟨CommandId.waitingDevice_one _ trivial, _,
    CommandId.waitingDevice_refuses 1, fun unchanged => ?_⟩
  have same : some (CommandId.waitingQueue (u16 (1 + 1))) =
      some (CommandId.waitingQueue 1) := unchanged.sqs 0
  rw [Option.some.injEq] at same
  exact absurd (congrArg NvmeSq.nextCid same) (by decide)

end Dnvme.Driver.SubmitFailure
