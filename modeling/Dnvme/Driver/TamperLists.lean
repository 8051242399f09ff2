import Dnvme.Driver.TamperExact

/-!
# Fetching and modifying the lists of a command

`dnvme_tamper_cmd` copies the list pages of a command to the user and back.
This module takes the copy loops turn by turn, shows that they do what the
requests of `Tamper` say, and measures each turn against the transfer buffer
and the list pages.  The buffer is always too small, by the header of a list
when fetching and by the whole list when modifying.
-/

namespace Dnvme.Driver.TamperLists

open Dnvme.Driver
open Dnvme.Lib.ChainedPages

/-! ## The loops -/

/-- One turn of a copy loop: entry `cnt` of the buffer and a slot of a list
page. -/
structure CopyTurn where
  cnt : Nat
  page : Nat
  slot : Nat
  deriving DecidableEq, Repr

/-- The inner loop of at most `turns` turns: what it does, and the counter
unless it returned. -/
def copyPage (page nrEntry : Nat) :
    (turns slot cnt : Nat) → List CopyTurn × Option Nat
  | 0, _, cnt => ([], some cnt)
  | turns + 1, slot, cnt =>
      if nrEntry ≤ cnt + 1 then
        ([⟨cnt, page, slot⟩], none)
      else
        let rest := copyPage page nrEntry turns (slot + 1) (cnt + 1)
        (⟨cnt, page, slot⟩ :: rest.1, rest.2)

/-- The outer loop over `pages` pages from `page` on. -/
def copyPages (perPage nrEntry : Nat) :
    (pages page cnt : Nat) → List CopyTurn
  | 0, _, _ => []
  | pages + 1, page, cnt =>
      match copyPage page nrEntry perPage 0 cnt with
      | (turns, none) => turns
      | (turns, some cnt) =>
          turns ++ copyPages perPage nrEntry pages (page + 1) cnt

/-- The loops of `dnvme_tamper_cmd_fetch_prp_list` and
`dnvme_tamper_cmd_modify_prp_list`. -/
def prpListTurns (prps : NvmePrps) : List CopyTurn :=
  copyPages nvmePrpsPerPage prps.nrEntry prps.nrPages 0 0

/-- The loops of `dnvme_tamper_cmd_fetch_sgl_seg`. -/
def sglSegTurns (prps : NvmePrps) : List CopyTurn :=
  copyPages nvmeSgesPerPage prps.nrEntry prps.nrPages 0 0

/-- The loops of `dnvme_tamper_cmd_modify_sgl_seg`: the inner one tests `i`,
which is zero, and ends with the last entry only. -/
def modifySglSegTurns (prps : NvmePrps) : List CopyTurn :=
  if 0 < prps.nrPages then
    (copyPage 0 prps.nrEntry (prps.nrEntry + 1) 0 0).1
  else
    []

section Loops

variable {page nrEntry perPage : Nat}

theorem copyPage_eq (turns : Nat) :
    ∀ slot cnt, cnt < nrEntry →
      copyPage page nrEntry turns slot cnt =
        ((List.range (min turns (nrEntry - cnt))).map fun k =>
            ⟨cnt + k, page, slot + k⟩,
          if nrEntry ≤ cnt + turns then none else some (cnt + turns)) := by
  induction turns with
  | zero =>
      intro slot cnt below
      rw [copyPage, Nat.zero_min, if_neg (by omega)]
      rfl
  | succ turns ih =>
      intro slot cnt below
      rw [copyPage]
      split
      · rename_i last
        rw [show min (turns + 1) (nrEntry - cnt) = 1 by omega,
          if_pos (by omega)]
        rfl
      · rename_i more
        rw [ih (slot + 1) (cnt + 1) (by omega),
          show min (turns + 1) (nrEntry - cnt) =
            min turns (nrEntry - (cnt + 1)) + 1 by omega,
          List.range_succ_eq_map, List.map_cons, List.map_map]
        dsimp only
        congr 1
        · congr 1
          refine List.map_congr_left fun k _ => ?_
          rw [Function.comp_apply, CopyTurn.mk.injEq]
          omega
        · rw [show cnt + 1 + turns = cnt + (turns + 1) by omega]

/-- Turn `k` of a copy over whole pages. -/
def turnAt (perPage k : Nat) : CopyTurn :=
  ⟨k, k / perPage, k % perPage⟩

theorem copyPages_eq (positive : 0 < perPage) (pages : Nat) :
    ∀ page, page * perPage < nrEntry →
      copyPages perPage nrEntry pages page (page * perPage) =
        (List.range (min (pages * perPage)
          (nrEntry - page * perPage))).map fun k =>
            turnAt perPage (page * perPage + k) := by
  have turns (page k : Nat) (below : k < perPage) :
      (⟨page * perPage + k, page, 0 + k⟩ : CopyTurn) =
        turnAt perPage (page * perPage + k) := by
    rw [turnAt, Nat.mul_comm, Nat.mul_add_div positive, Nat.mul_add_mod,
      Nat.div_eq_of_lt below, Nat.mod_eq_of_lt below, Nat.zero_add,
      Nat.add_zero]
  induction pages with
  | zero =>
      intro page below
      rw [copyPages, Nat.zero_mul, Nat.zero_min]
      rfl
  | succ pages ih =>
      intro page below
      have next : page * perPage + perPage = (page + 1) * perPage :=
        (Nat.succ_mul page perPage).symm
      have more : (pages + 1) * perPage = pages * perPage + perPage :=
        Nat.succ_mul pages perPage
      rw [copyPages, copyPage_eq perPage 0 _ below]
      by_cases last : nrEntry ≤ page * perPage + perPage
      · simp only [if_pos last]
        rw [show min perPage (nrEntry - page * perPage) =
            nrEntry - page * perPage by omega,
          show min ((pages + 1) * perPage) (nrEntry - page * perPage) =
            nrEntry - page * perPage by omega]
        refine List.map_congr_left fun k member => turns page k ?_
        have := List.mem_range.mp member
        omega
      · simp only [if_neg last]
        rw [next, ih (page + 1) (by omega),
          show min perPage (nrEntry - page * perPage) = perPage by omega,
          show min ((pages + 1) * perPage) (nrEntry - page * perPage) =
            perPage + min (pages * perPage)
              (nrEntry - (page + 1) * perPage) by omega,
          List.range_add, List.map_append, List.map_map]
        congr 1
        · exact List.map_congr_left fun k member =>
            turns page k (List.mem_range.mp member)
        · refine List.map_congr_left fun k _ => ?_
          rw [Function.comp_apply, ← next, Nat.add_assoc]

/-- The loops copy entry after entry, from slot to slot. -/
theorem copyPages_zero (positive : 0 < perPage) (some_ : 0 < nrEntry)
    (pages : Nat) :
    copyPages perPage nrEntry pages 0 0 =
      (List.range (min (pages * perPage) nrEntry)).map (turnAt perPage) := by
  have all := @copyPages_eq nrEntry _ positive pages 0
    (by rw [Nat.zero_mul]; exact some_)
  simpa using all

end Loops

/-! ## What the loops store -/

section Stores

theorem foldl_update {α : Type} (value : Nat → α) (first count : Nat)
    (words : Nat → α) :
    (List.range count).foldl
        (fun words k => Function.update words (first + k) (value k)) words =
      fun word =>
        if first ≤ word ∧ word < first + count then value (word - first)
        else words word := by
  induction count with
  | zero =>
      funext word
      rw [if_neg (by omega)]
      rfl
  | succ count ih =>
      rw [List.range_succ, List.foldl_append, ih]
      funext word
      rw [List.foldl_cons, List.foldl_nil]
      by_cases same : word = first + count
      · rw [same, Function.update_self, if_pos (by omega)]
        congr 1
        omega
      · rw [Function.update_of_ne same]
        by_cases inside : first ≤ word ∧ word < first + count
        · rw [if_pos inside, if_pos (by omega)]
        · rw [if_neg inside, if_neg (by omega)]

/-- The store of a turn of `dnvme_tamper_cmd_fetch_prp_list`. -/
def fetchPrp (entry : Nat → Nat → Nat) (words : Nat → Nat)
    (turn : CopyTurn) : Nat → Nat :=
  Function.update words (1 + turn.cnt) (entry turn.page turn.slot)

/-- The stores of a turn of `dnvme_tamper_cmd_fetch_sgl_seg`. -/
def fetchSge (desc : Nat → Nat → NvmeSglDesc) (words : Nat → Nat)
    (turn : CopyTurn) : Nat → Nat :=
  let pointer := NvmeDataPtr.ofSgl (desc turn.page turn.slot)
  Function.update
    (Function.update words (1 + 2 * turn.cnt) pointer.prp1)
    (2 + 2 * turn.cnt) pointer.prp2

/-- The store of a turn of `dnvme_tamper_cmd_modify_prp_list`. -/
def modifyPrp (data : Nat → Nat) (entry : Nat → Nat → Nat)
    (turn : CopyTurn) : Nat → Nat → Nat :=
  writeSlot entry turn.page turn.slot (data (1 + turn.cnt))

/-- The store of a turn of `dnvme_tamper_cmd_modify_sgl_seg`. -/
def modifySge (data : Nat → Nat) (desc : Nat → Nat → NvmeSglDesc)
    (turn : CopyTurn) : Nat → Nat → NvmeSglDesc :=
  writeSlot desc turn.page turn.slot
    (NvmeDataPtr.sgl ⟨data (1 + 2 * turn.cnt), data (2 + 2 * turn.cnt)⟩)

variable {prps : NvmePrps} {data : Nat → Nat}

theorem prpListTurns_eq (some_ : 0 < prps.nrEntry) :
    prpListTurns prps = (List.range (min (prps.nrPages * nvmePrpsPerPage)
      prps.nrEntry)).map (turnAt nvmePrpsPerPage) :=
  copyPages_zero (by decide) some_ _

theorem sglSegTurns_eq (some_ : 0 < prps.nrEntry) :
    sglSegTurns prps = (List.range (min (prps.nrPages * nvmeSgesPerPage)
      prps.nrEntry)).map (turnAt nvmeSgesPerPage) :=
  copyPages_zero (by decide) some_ _

theorem modifySglSegTurns_eq (some_ : 0 < prps.nrEntry)
    (pages : 0 < prps.nrPages) :
    modifySglSegTurns prps =
      (List.range prps.nrEntry).map fun k => ⟨k, 0, k⟩ := by
  rw [modifySglSegTurns, if_pos pages, copyPage_eq _ _ _ some_,
    show min (prps.nrEntry + 1) (prps.nrEntry - 0) = prps.nrEntry by omega]
  simp

/-- Fetching a PRP list is its loop. -/
theorem fetchPrpList_eq_loop {entry : Nat → Nat → Nat}
    (pages : prps.prpList = some (.prp entry)) (some_ : 0 < prps.nrEntry) :
    dnvmeTamperCmdFetchPrpList prps data =
      (prpListTurns prps).foldl (fetchPrp entry)
        (Function.update data 0 prps.nrEntry) := by
  rw [prpListTurns_eq some_, List.foldl_map, dnvmeTamperCmdFetchPrpList,
    pages]
  refine Eq.trans ?_ (foldl_update (fun k => entry (k / nvmePrpsPerPage)
    (k % nvmePrpsPerPage)) 1 _ _).symm
  funext word
  dsimp only
  by_cases header : word = 0
  · rw [if_pos header, if_neg (by omega), header, Function.update_self]
  · rw [if_neg header, Function.update_of_ne header]
    by_cases inside : word ≤ prps.nrEntry ∧
        word ≤ prps.nrPages * nvmePrpsPerPage
    · rw [if_pos inside, if_pos (by omega)]
    · rw [if_neg inside, if_neg (by omega)]

theorem foldl_fetchSge (desc : Nat → Nat → NvmeSglDesc) (perPage count : Nat)
    (words : Nat → Nat) :
    ((List.range count).map (turnAt perPage)).foldl (fetchSge desc) words =
      fun word =>
        if 1 ≤ word ∧ (word - 1) / 2 < count then
          let pointer := NvmeDataPtr.ofSgl
            (desc ((word - 1) / 2 / perPage) ((word - 1) / 2 % perPage))
          if (word - 1) % 2 = 0 then pointer.prp1 else pointer.prp2
        else words word := by
  induction count with
  | zero =>
      funext word
      rw [if_neg (by omega)]
      rfl
  | succ count ih =>
      rw [List.range_succ, List.map_append, List.foldl_append, ih]
      funext word
      rw [List.map_singleton, List.foldl_cons, List.foldl_nil, fetchSge]
      dsimp only [turnAt]
      by_cases second : word = 2 + 2 * count
      · rw [second, Function.update_self, if_pos (by omega),
          show (2 + 2 * count - 1) / 2 = count by omega, if_neg (by omega)]
      · rw [Function.update_of_ne second]
        by_cases first : word = 1 + 2 * count
        · rw [first, Function.update_self, if_pos (by omega),
            show (1 + 2 * count - 1) / 2 = count by omega,
            if_pos (by omega)]
        · rw [Function.update_of_ne first]
          by_cases inside : 1 ≤ word ∧ (word - 1) / 2 < count
          · rw [if_pos inside, if_pos
              (show 1 ≤ word ∧ (word - 1) / 2 < count + 1 by omega)]
          · rw [if_neg inside, if_neg (by omega)]

/-- Fetching SGL segments is its loop. -/
theorem fetchSglSeg_eq_loop {desc : Nat → Nat → NvmeSglDesc}
    (pages : prps.prpList = some (.sgl desc)) (some_ : 0 < prps.nrEntry) :
    dnvmeTamperCmdFetchSglSeg prps data =
      (sglSegTurns prps).foldl (fetchSge desc)
        (Function.update data 0 prps.nrEntry) := by
  rw [sglSegTurns_eq some_, foldl_fetchSge, dnvmeTamperCmdFetchSglSeg, pages]
  funext word
  dsimp only
  by_cases header : word = 0
  · rw [if_pos header, if_neg (by omega), header, Function.update_self]
  · rw [if_neg header, Function.update_of_ne header]
    by_cases inside : (word - 1) / 2 < prps.nrEntry ∧
        (word - 1) / 2 < prps.nrPages * nvmeSgesPerPage
    · rw [if_pos inside, if_pos (show 1 ≤ word ∧ (word - 1) / 2 <
        min (prps.nrPages * nvmeSgesPerPage) prps.nrEntry by omega)]
    · rw [if_neg inside, if_neg (by omega)]

/-- Stores to consecutive slots. -/
theorem foldl_writeSlot {α : Type} {perPage : Nat} (positive : 0 < perPage)
    (value : Nat → α) (count : Nat) (slots : Nat → Nat → α) :
    (List.range count).foldl (fun slots k =>
        writeSlot slots (k / perPage) (k % perPage) (value k)) slots =
      fun page slot =>
        if slot < perPage ∧ page * perPage + slot < count then
          value (page * perPage + slot)
        else slots page slot := by
  induction count with
  | zero =>
      funext page slot
      rw [if_neg (by omega)]
      rfl
  | succ count ih =>
      rw [List.range_succ, List.foldl_append, ih]
      funext page slot
      rw [List.foldl_cons, List.foldl_nil]
      by_cases here : page = count / perPage ∧ slot = count % perPage
      · obtain ⟨rfl, rfl⟩ := here
        have whole : count / perPage * perPage + count % perPage = count := by
          rw [Nat.mul_comm]
          exact Nat.div_add_mod count perPage
        rw [writeSlot_same, whole,
          if_pos ⟨Nat.mod_lt count positive, by omega⟩]
      · have other : ¬ (slot < perPage ∧ page * perPage + slot = count) := by
          rintro ⟨small, rfl⟩
          refine here ⟨?_, ?_⟩
          · rw [Nat.mul_comm, Nat.mul_add_div positive,
              Nat.div_eq_of_lt small, Nat.add_zero]
          · rw [Nat.mul_comm, Nat.mul_add_mod, Nat.mod_eq_of_lt small]
        rw [writeSlot_other _ _ _ _ _ _ (not_and_or.mp here)]
        by_cases inside : slot < perPage ∧ page * perPage + slot < count
        · rw [if_pos inside, if_pos (by omega)]
        · rw [if_neg inside, if_neg (by omega)]

/-- Modifying a PRP list is its loop. -/
theorem modifyPrpList_eq_loop {entry : Nat → Nat → Nat}
    (pages : prps.prpList = some (.prp entry)) (some_ : 0 < prps.nrEntry) :
    dnvmeTamperCmdModifyPrpList prps data =
      { prps with
        prpList := some (.prp
          ((prpListTurns prps).foldl (modifyPrp data) entry)) } := by
  have stores := foldl_writeSlot (show 0 < nvmePrpsPerPage by decide)
    (fun k => data (1 + k)) (min (prps.nrPages * nvmePrpsPerPage)
      prps.nrEntry) entry
  rw [prpListTurns_eq some_, List.foldl_map, dnvmeTamperCmdModifyPrpList,
    pages]
  refine Eq.trans ?_ (congrArg (fun entry =>
    { prps with prpList := some (.prp entry) }) stores).symm
  dsimp only
  congr 3
  funext page slot
  congr 1
  apply propext
  constructor
  · rintro ⟨inside, small, before⟩
    have next := Nat.mul_le_mul_right nvmePrpsPerPage inside
    rw [Nat.succ_mul] at next
    exact ⟨small, by omega⟩
  · rintro ⟨small, before⟩
    refine ⟨?_, small, by omega⟩
    by_contra beyond
    have next := Nat.mul_le_mul_right nvmePrpsPerPage (not_lt.mp beyond)
    omega

/-- Modifying SGL segments is its loop, which stays on the first page. -/
theorem modifySglSeg_eq_loop {desc : Nat → Nat → NvmeSglDesc}
    (pages : prps.prpList = some (.sgl desc)) (some_ : 0 < prps.nrEntry)
    (allocated : 0 < prps.nrPages) :
    dnvmeTamperCmdModifySglSeg prps data =
      { prps with
        prpList := some (.sgl
          ((modifySglSegTurns prps).foldl (modifySge data) desc)) } := by
  have stores := foldl_writeSlot some_
    (fun k => NvmeDataPtr.sgl ⟨data (1 + 2 * k), data (2 + 2 * k)⟩)
    prps.nrEntry desc
  have turns : (List.range prps.nrEntry).foldl (fun desc k =>
      modifySge data desc ⟨k, 0, k⟩) desc =
        (List.range prps.nrEntry).foldl (fun desc k =>
          writeSlot desc (k / prps.nrEntry) (k % prps.nrEntry)
            (NvmeDataPtr.sgl ⟨data (1 + 2 * k), data (2 + 2 * k)⟩)) desc := by
    refine List.foldl_ext _ _ _ fun desc k member => ?_
    have below := List.mem_range.mp member
    rw [Nat.div_eq_of_lt below, Nat.mod_eq_of_lt below]
    rfl
  rw [modifySglSegTurns_eq some_ allocated, List.foldl_map, turns, stores,
    dnvmeTamperCmdModifySglSeg, pages]
  dsimp only
  congr 3
  funext page slot
  by_cases first : page = 0
  · rw [first, Nat.zero_mul, Nat.zero_add]
    congr 1
    apply propext
    omega
  · have beyond := Nat.le_mul_of_pos_left prps.nrEntry
      (Nat.pos_of_ne_zero first)
    rw [if_neg (by omega), if_neg (by omega)]

end Stores

/-! ## Requests -/

/-- The list of a command: pages with entries, of the kind it says. -/
structure HasList (prps : NvmePrps) : Prop where
  pages : 0 < prps.nrPages
  entries : 0 < prps.nrEntry
  kind : (∃ entry, prps.prpList = some (.prp entry) ∧ prps.isSgl = false) ∨
    (∃ desc, prps.prpList = some (.sgl desc) ∧ prps.isSgl = true)

/-- The words of the list pages in order. -/
def listWord (prps : NvmePrps) (k : Nat) : Nat :=
  match prps.prpList with
  | some (.prp entry) => entry (k / nvmePrpsPerPage) (k % nvmePrpsPerPage)
  | some (.sgl desc) =>
      let pointer := NvmeDataPtr.ofSgl
        (desc (k / 2 / nvmeSgesPerPage) (k / 2 % nvmeSgesPerPage))
      if k % 2 = 0 then pointer.prp1 else pointer.prp2
  | none => 0

/-- The number of words in use; `nr_entry` counts the links of a PRP list but
not those between SGL segments. -/
def populatedWords (prps : NvmePrps) : Nat :=
  if prps.isSgl then 2 * (prps.nrEntry + (prps.nrPages - 1))
  else prps.nrEntry

/-- No external call of the request fails. -/
structure TamperEnvWorks (env : TamperEnv) : Prop where
  copyIn : env.copyIn = true
  copyOut : env.copyOut = true
  alloc : env.alloc = true
  copyAll : env.copyAll = true

/-- A request about a command, with the sizes that `INQUIRY` computes. -/
structure Addresses (ndev : NvmeDevice) (sqid : Nat) (cmd : NvmeCmd)
    (tamper : NvmeCmdTamper) : Prop where
  sqid : tamper.sqid = sqid
  cid : tamper.cid = cmd.cid
  prpListSize : tamper.prpListSize = dnvmeTamperCmdGetPrpListSize ndev cmd
  sglSegSize : tamper.sglSegSize = dnvmeTamperCmdGetSglSegSize ndev cmd

/-- The request that fetches the list of a command. -/
def fetchOf (prps : NvmePrps) (tamper : NvmeCmdTamper) : NvmeCmdTamper :=
  { tamper with
    option := nvmeTamperOptFetch
    fetPrpList := !prps.isSgl
    fetPrpPage := false
    fetSglSeg := prps.isSgl }

/-- The request that modifies it; the flags of `FETCH` are not valid here. -/
def modifyOf (prps : NvmePrps) (tamper : NvmeCmdTamper) : NvmeCmdTamper :=
  { tamper with
    option := nvmeTamperOptModify
    fetPrpList := false
    fetPrpPage := false
    fetSglSeg := false
    mdfPrpList := !prps.isSgl
    mdfPrpPage := false
    mdfSglSeg := prps.isSgl }

/-- Fetching returns every populated slot in order. -/
def FetchesAll (ndev : NvmeDevice) (sqid : Nat) (cmd : NvmeCmd)
    (prps : NvmePrps) : Prop :=
  ∀ env tamper data, TamperEnvWorks env → Addresses ndev sqid cmd tamper →
    ∃ user, dnvmeTamperCmd env ndev ⟨fetchOf prps tamper, data⟩ =
        .ok (0, user, ndev) ∧
      ∀ k < populatedWords prps, user.data (1 + k) = listWord prps k

/-- Modifying with what was fetched changes neither the list nor the entry of
the queue. -/
def Restores (ndev : NvmeDevice) (sqid : Nat) (cmd : NvmeCmd)
    (prps : NvmePrps) : Prop :=
  ∀ fetch modify tamper data user, TamperEnvWorks fetch →
    TamperEnvWorks modify → Addresses ndev sqid cmd tamper →
    dnvmeTamperCmd fetch ndev ⟨fetchOf prps tamper, data⟩ =
      .ok (0, user, ndev) →
    ∃ answer same, dnvmeTamperCmd modify ndev
        ⟨modifyOf prps user.tamper, user.data⟩ = .ok (0, answer, same) ∧
      (same.cmdPrps cmd).map listWord = some (listWord prps) ∧
      (same.findSq sqid).map (fun sq => sq.entries cmd.idx) =
        (ndev.findSq sqid).map fun sq => sq.entries cmd.idx

/-- Fetching after a modification returns the data of the modification. -/
def FetchesModified (ndev : NvmeDevice) (sqid : Nat) (cmd : NvmeCmd)
    (prps : NvmePrps) : Prop :=
  ∀ modify fetch tamper data other answer changed, TamperEnvWorks modify →
    TamperEnvWorks fetch → Addresses ndev sqid cmd tamper →
    dnvmeTamperCmd modify ndev ⟨modifyOf prps tamper, data⟩ =
      .ok (0, answer, changed) →
    ∃ user final, dnvmeTamperCmd fetch changed
        ⟨fetchOf prps tamper, other⟩ = .ok (0, user, final) ∧
      ∀ k < populatedWords prps, user.data (1 + k) = data (1 + k)

/-! ## Bounds -/

/-- The bytes that `dnvme_tamper_cmd_fetch` allocates. -/
def fetchSize (tamper : NvmeCmdTamper) : Nat :=
  u32 (u32 (sizeofTamper +
      if tamper.fetPrpList then tamper.prpListSize else 0) +
    if tamper.fetSglSeg then tamper.sglSegSize else 0)

/-- The bytes that `dnvme_tamper_cmd_modify` allocates. -/
def modifySize (tamper : NvmeCmdTamper) : Nat :=
  u32 (sizeofTamper +
    if tamper.fetPrpList then tamper.prpListSize else 0)

/-- A turn stays in the buffer, where the list comes behind the request and a
header of 8 bytes, and in the list pages. -/
def CopyTurn.Inside (allocated entrySize perPage nrPages : Nat)
    (turn : CopyTurn) : Prop :=
  sizeofTamper + 8 + entrySize * (turn.cnt + 1) ≤ allocated ∧
    turn.page < nrPages ∧ turn.slot < perPage

/-- The loops of a fetch request stay inside. -/
structure FetchInside (prps : NvmePrps) (tamper : NvmeCmdTamper) : Prop where
  prpList : tamper.fetPrpList = true → tamper.prpListSize ≠ 0 →
    ∀ turn ∈ prpListTurns prps, turn.Inside (fetchSize tamper)
      nvmePrpEntrySize nvmePrpsPerPage prps.nrPages
  sglSeg : tamper.fetSglSeg = true → tamper.sglSegSize ≠ 0 →
    ∀ turn ∈ sglSegTurns prps, turn.Inside (fetchSize tamper)
      nvmeSglDescSize nvmeSgesPerPage prps.nrPages

/-- The loops of a modify request stay inside. -/
structure ModifyInside (prps : NvmePrps) (tamper : NvmeCmdTamper) :
    Prop where
  prpList : tamper.mdfPrpList = true → tamper.prpListSize ≠ 0 →
    ∀ turn ∈ prpListTurns prps, turn.Inside (modifySize tamper)
      nvmePrpEntrySize nvmePrpsPerPage prps.nrPages
  sglSeg : tamper.mdfSglSeg = true → tamper.sglSegSize ≠ 0 →
    ∀ turn ∈ modifySglSegTurns prps, turn.Inside (modifySize tamper)
      nvmeSglDescSize nvmeSgesPerPage prps.nrPages

/-- Every access lies inside, whichever flags of the option are set. -/
def StaysInside (ndev : NvmeDevice) (sqid : Nat) (cmd : NvmeCmd)
    (prps : NvmePrps) : Prop :=
  ∀ tamper, Addresses ndev sqid cmd tamper →
    (¬ (tamper.fetPrpList = true ∧ tamper.fetSglSeg = true) →
      FetchInside prps tamper) ∧
    (tamper.fetPrpList = false ∧ tamper.fetSglSeg = false →
      ModifyInside prps tamper)

/-- Fetching and modifying the list of a command are inverse and stay in
bounds. -/
structure ListExchanged (ndev : NvmeDevice) (sqid : Nat) (cmd : NvmeCmd)
    (prps : NvmePrps) : Prop where
  fetchesAll : FetchesAll ndev sqid cmd prps
  restores : Restores ndev sqid cmd prps
  fetchesModified : FetchesModified ndev sqid cmd prps
  staysInside : StaysInside ndev sqid cmd prps

/-! ## The list never makes it -/

section Exchange

variable {ndev : NvmeDevice} {sqid : Nat} {sq : NvmeSq} {cmd : NvmeCmd}
  {prps : NvmePrps} {tamper : NvmeCmdTamper}

/-- The bytes of a list as the driver counts them. -/
def listSize (prps : NvmePrps) : Nat :=
  if prps.isSgl then u32 (nvmeSglDescSize * prps.nrEntry)
  else u32 (nvmePrpEntrySize * prps.nrEntry)

theorem sizes_eq (list : ndev.cmdPrps cmd = some prps)
    (asks : Addresses ndev sqid cmd tamper) :
    tamper.prpListSize = (if prps.isSgl then 0 else listSize prps) ∧
      tamper.sglSegSize = if prps.isSgl then listSize prps else 0 := by
  rw [asks.prpListSize, asks.sglSegSize, listSize,
    dnvmeTamperCmdGetSglSegSize, dnvmeTamperCmdGetPrpListSize, list]
  dsimp only
  cases prps.isSgl with
  | false => exact ⟨rfl, rfl⟩
  | true => exact ⟨rfl, rfl⟩

/-- The words that a fetch stores in its buffer. -/
def fetchedWords (prps : NvmePrps) : Nat → Nat :=
  if listSize prps = 0 then fun _ => 0
  else if prps.isSgl then dnvmeTamperCmdFetchSglSeg prps fun _ => 0
  else dnvmeTamperCmdFetchPrpList prps fun _ => 0

/-- What a fetch returns: the words that were allocated, no more. -/
theorem fetch_result {env : TamperEnv} (data : Nat → Nat)
    (queue : ndev.findSq sqid = some sq)
    (command : dnvmeFindCmd sq cmd.cid = some cmd)
    (list : ndev.cmdPrps cmd = some prps) (works : TamperEnvWorks env)
    (asks : Addresses ndev sqid cmd tamper) :
    dnvmeTamperCmd env ndev ⟨fetchOf prps tamper, data⟩ =
      if slotInside (ndev.sqSpan sq) sq.sqes cmd.idx then
        .ok (0, ⟨{ fetchOf prps tamper with cmd := sq.entries cmd.idx },
          fun word =>
            if word < listSize prps / 8 then fetchedWords prps word
            else data word⟩, ndev)
      else .error .queueMemory := by
  obtain ⟨prpSize, sglSize⟩ := sizes_eq list asks
  simp only [dnvmeTamperCmd, works.copyIn, fetchOf, nvmeTamperOptInquiry,
    nvmeTamperOptFetch, dnvmeTamperCmdFetch, asks.sqid, queue, asks.cid,
    command, ← asks.prpListSize, ← asks.sglSegSize, works.alloc,
    works.copyOut, dnvmeTamperCmdFetchCmd, list, Option.getD_some,
    fetchedWords]
  cases kind : prps.isSgl with
  | false =>
      simp only [kind, Bool.false_eq_true, if_false] at prpSize sglSize
      by_cases inside : slotInside (ndev.sqSpan sq) sq.sqes cmd.idx
      · simp [inside, bind, Except.bind, pure, Except.pure, prpSize]
        rfl
      · simp [inside, bind, Except.bind]
  | true =>
      simp only [kind, if_true] at prpSize sglSize
      by_cases inside : slotInside (ndev.sqSpan sq) sq.sqes cmd.idx
      · simp [inside, bind, Except.bind, pure, Except.pure, sglSize]
        rfl
      · simp [inside, bind, Except.bind]

/-- The request that the user of a list sends first. -/
def addressing (ndev : NvmeDevice) (sqid : Nat) (cmd : NvmeCmd) :
    NvmeCmdTamper :=
  { NvmeCmdTamper.zero with
    sqid := sqid
    cid := cmd.cid
    prpListSize := dnvmeTamperCmdGetPrpListSize ndev cmd
    sglSegSize := dnvmeTamperCmdGetSglSegSize ndev cmd }

theorem addressing_asks (ndev : NvmeDevice) (sqid : Nat) (cmd : NvmeCmd) :
    Addresses ndev sqid cmd (addressing ndev sqid cmd) :=
  ⟨rfl, rfl, rfl, rfl⟩

/-- The header takes the place of the last word of the list. -/
theorem last_word_behind (has : HasList prps) :
    ∃ k < populatedWords prps, listSize prps / 8 ≤ 1 + k := by
  have entries := has.entries
  unfold populatedWords listSize
  cases prps.isSgl with
  | false =>
      have size := Nat.mod_le (nvmePrpEntrySize * prps.nrEntry) (2 ^ 32)
      refine ⟨prps.nrEntry - 1, ?_, ?_⟩
      · simp only [Bool.false_eq_true, if_false]
        omega
      · simp only [Bool.false_eq_true, if_false, u32, nvmePrpEntrySize]
          at size ⊢
        omega
  | true =>
      have size := Nat.mod_le (nvmeSglDescSize * prps.nrEntry) (2 ^ 32)
      refine ⟨2 * prps.nrEntry - 1, ?_, ?_⟩
      · simp only [if_true]
        omega
      · simp only [if_true, u32, nvmeSglDescSize] at size ⊢
        omega

theorem not_fetchesAll (queue : ndev.findSq sqid = some sq)
    (command : dnvmeFindCmd sq cmd.cid = some cmd)
    (list : ndev.cmdPrps cmd = some prps) (has : HasList prps) :
    ¬ FetchesAll ndev sqid cmd prps := by
  intro fetches
  obtain ⟨k, populated, behind⟩ := last_word_behind has
  -- user memory that differs from the list there
  obtain ⟨user, done, words⟩ := fetches ⟨true, true, true, true, fun _ => 0⟩
    (addressing ndev sqid cmd) (fun _ => listWord prps k + 1)
    ⟨rfl, rfl, rfl, rfl⟩ (addressing_asks ndev sqid cmd)
  rw [fetch_result _ queue command list ⟨rfl, rfl, rfl, rfl⟩
    (addressing_asks ndev sqid cmd)] at done
  split at done
  · cases done
    have word := words k populated
    dsimp only at word
    rw [if_neg (not_lt.mpr behind)] at word
    omega
  · cases done

/-- A modification reads nothing that the user passed. -/
theorem modify_ignores_data (env : TamperEnv) (ndev : NvmeDevice)
    {tamper : NvmeCmdTamper} (unset : tamper.fetPrpList = false)
    (first second : UserTamper) :
    (dnvmeTamperCmdModify env ndev tamper first).map
        (fun result => (result.1, result.2.2)) =
      (dnvmeTamperCmdModify env ndev tamper second).map
        fun result => (result.1, result.2.2) := by
  simp only [dnvmeTamperCmdModify, unset, Bool.false_eq_true, if_false,
    Nat.zero_div, Nat.not_lt_zero, Bool.false_and]
  split
  · rfl
  · split
    · rfl
    · split
      · rfl
      · split
        · rfl
        · generalize dnvmeTamperCmdModifyCmd _ _ _ _ = written
          cases written with
          | error oops => rfl
          | ok device => rfl

theorem modifyOf_eq {env : TamperEnv} (works : TamperEnvWorks env)
    (ndev : NvmeDevice) (prps : NvmePrps) (tamper : NvmeCmdTamper)
    (data : Nat → Nat) :
    dnvmeTamperCmd env ndev ⟨modifyOf prps tamper, data⟩ =
      dnvmeTamperCmdModify env ndev (modifyOf prps tamper)
        ⟨modifyOf prps tamper, data⟩ := by
  rw [dnvmeTamperCmd, works.copyIn]
  rfl

/-- So the next fetch does not return it. -/
theorem not_fetchesModified {modify : TamperEnv} {answer : UserTamper}
    {changed : NvmeDevice} (has : HasList prps)
    (works : TamperEnvWorks modify) (asks : Addresses ndev sqid cmd tamper)
    (done : dnvmeTamperCmd modify ndev ⟨modifyOf prps tamper, fun _ => 0⟩ =
      .ok (0, answer, changed)) :
    ¬ FetchesModified ndev sqid cmd prps := by
  intro fetches
  have populated : 0 < populatedWords prps := by
    have entries := has.entries
    unfold populatedWords
    split
    · omega
    · omega
  have same := @modify_ignores_data modify ndev (modifyOf prps tamper) rfl
    ⟨modifyOf prps tamper, fun _ => 0⟩ ⟨modifyOf prps tamper, fun _ => 1⟩
  rw [← modifyOf_eq works, ← modifyOf_eq works, done] at same
  cases other : dnvmeTamperCmd modify ndev
      ⟨modifyOf prps tamper, fun _ => 1⟩ with
  | error oops =>
      rw [other] at same
      cases same
  | ok result =>
      obtain ⟨ret, answer', changed'⟩ := result
      rw [other] at same
      cases same
      have fetch : TamperEnvWorks ⟨true, true, true, true, fun _ => 0⟩ :=
        ⟨rfl, rfl, rfl, rfl⟩
      obtain ⟨user, final, fetched, zeros⟩ := fetches _ _ _ _ (fun _ => 0)
        _ _ works fetch asks done
      obtain ⟨user', final', fetched', ones⟩ := fetches _ _ _ _ (fun _ => 0)
        _ _ works fetch asks other
      cases fetched.symm.trans fetched'
      exact absurd ((zeros 0 populated).symm.trans (ones 0 populated))
        (by decide)

/-- The first read of a modification is already behind the buffer. -/
theorem not_staysInside (list : ndev.cmdPrps cmd = some prps)
    (has : HasList prps) (counted : listSize prps ≠ 0) :
    ¬ StaysInside ndev sqid cmd prps := by
  intro stays
  have entries := has.entries
  have pages := has.pages
  have asks := addressing_asks ndev sqid cmd
  have inside := (stays (modifyOf prps (addressing ndev sqid cmd))
    ⟨asks.sqid, asks.cid, asks.prpListSize, asks.sglSegSize⟩).2 ⟨rfl, rfl⟩
  have allocated : modifySize (modifyOf prps (addressing ndev sqid cmd)) =
      sizeofTamper := rfl
  obtain ⟨prpSize, sglSize⟩ := sizes_eq list asks
  cases kind : prps.isSgl with
  | false =>
      rw [kind, if_neg Bool.false_ne_true] at prpSize
      have first := inside.prpList (by rw [modifyOf, kind]; rfl)
        (by rw [modifyOf, prpSize]; exact counted)
        (turnAt nvmePrpsPerPage 0) (by
          rw [prpListTurns_eq entries]
          refine List.mem_map_of_mem (List.mem_range.mpr ?_)
          have slots := Nat.le_mul_of_pos_left nvmePrpsPerPage pages
          have some_ : 0 < nvmePrpsPerPage := by decide
          omega)
      rw [CopyTurn.Inside, allocated] at first
      exact absurd first.1 (by decide)
  | true =>
      rw [kind, if_pos rfl] at sglSize
      have first := inside.sglSeg (by rw [modifyOf, kind])
        (by rw [modifyOf, sglSize]; exact counted) ⟨0, 0, 0⟩ (by
          rw [modifySglSegTurns_eq entries pages]
          exact List.mem_map.mpr ⟨0, List.mem_range.mpr entries, rfl⟩)
      rw [CopyTurn.Inside, allocated] at first
      exact absurd first.1 (by decide)

/-- The list of a command is never exchanged with the user as it should
be. -/
theorem list_never_exchanged (queue : ndev.findSq sqid = some sq)
    (command : dnvmeFindCmd sq cmd.cid = some cmd)
    (list : ndev.cmdPrps cmd = some prps) (has : HasList prps) :
    ¬ ListExchanged ndev sqid cmd prps :=
  fun exchanged =>
    not_fetchesAll queue command list has exchanged.fetchesAll

end Exchange

/-! ## A command with a list of two entries -/

/-- A command that reads a log page. -/
def logCommand : NvmeCommonCommand :=
  { NvmeCommonCommand.zero with opcode := 2 }

/-- Its request, for a buffer of three pages. -/
def logRequest : Nvme64bCmd :=
  ⟨0, 0, 8, ⟨true, false, false, true, false⟩, 4096, 12288, 2, 0, 0⟩

/-- Nothing fails. -/
def logEnv : SubmitEnv :=
  .smooth (PrpReading.evenPages 3) PrpReading.oddPages logCommand

/-- The buffer when it is mapped. -/
def logMapped : NvmePrps :=
  { NvmePrps.zero (prpsPool logRequest logCommand) with
    sg := some [⟨0, 0, 4096, 8192, 4096⟩, ⟨1, 0, 4096, 16384, 4096⟩,
      ⟨2, 0, 4096, 24576, 4096⟩]
    numMapPgs := 3
    dataBufSize := 12288
    dataBufAddr := 4096
    dataDir := 2 }

/-- The list loop when it is done. -/
def logDone : PrpCursor :=
  ⟨0, 1, 0, pageOffset 0, 24576, 0, [],
    writeSlot (writeSlot (fun _ _ => 0) 0 0 16384) 0 1 24576, 2⟩

/-- The list, for the second and the third page. -/
def listedPrps : NvmePrps :=
  { logMapped with
    prpList := some (.prp logDone.entries)
    pgAddr := [4096]
    nrPages := 1
    nrEntry := 2 }

theorem logRequest_mapped :
    dnvmeMapUserPage logEnv.map [] (.zero (prpsPool logRequest logCommand))
      4096 12288 2 false = .ok ⟨0, logMapped, [0, 1, 2]⟩ :=
  rfl

theorem logList_filled :
    fillPrpList [4096] ⟨0, 0, 8192, pageOffset 16384, 16384, 4096,
      [⟨2, 0, 4096, 24576, 4096⟩], fun _ _ => 0, 0⟩ = .ok (0, logDone) := by
  -- a turn for each entry
  rw [fillPrpList, if_pos (by decide), if_neg (by decide)]
  dsimp only
  rw [if_neg (by decide), if_neg (by decide), if_neg (by decide)]
  rw [fillPrpList, if_pos (by decide), if_neg (by decide)]
  dsimp only
  rw [if_pos (by decide)]
  rfl

theorem logList_built (pool : List Nat) (ccmd : NvmeCommonCommand) :
    buildPrpList logEnv.list pool .prp2List ccmd logMapped 8192
        (pageOffset 16384) 16384 4096 [⟨2, 0, 4096, 24576, 4096⟩] =
      .ok ⟨0, { ccmd with dptr := ⟨ccmd.dptr.prp1, 4096⟩ }, listedPrps,
        4096 :: pool⟩ := by
  have pages : allocListPages logEnv.list 1 = some [4096] := rfl
  have count : divRoundUp (u32 (nvmePrpEntrySize * divRoundUp
      (((pageOffset 16384).val + (8192 : Int)) % 2 ^ 32).toNat pageSize))
      (pageSize - nvmePrpEntrySize) = 1 := by decide
  unfold buildPrpList
  simp only [count, pages, List.getD_cons_zero, logList_filled]
  rfl

theorem logRequest_setup (pool : List Nat) :
    setupPrps logEnv pool logRequest logCommand logMapped =
      .ok ⟨0, { logCommand with dptr := ⟨8192, 4096⟩ }, listedPrps,
        4096 :: pool⟩ := by
  have built : dnvmeSetupPrps logEnv.list pool logRequest logCommand
      logMapped = buildPrpList logEnv.list pool .prp2List
        { logCommand with dptr := ⟨8192, 0⟩ } logMapped 8192
        (pageOffset 16384) 16384 4096 [⟨2, 0, 4096, 24576, 4096⟩] := by
    unfold dnvmeSetupPrps
    dsimp only [logMapped]
    rw [if_neg (by decide), if_neg (by decide), if_neg (by decide),
      if_neg (by decide)]
    rfl
  unfold setupPrps
  rw [if_neg (by decide), built, logList_built]
  rfl

/-- A device with its admin submission queue. -/
def adminDevice : NvmeDevice :=
  (NvmeDevice.fresh 64 false false false).setSq 0 CommandId.adminQueue

/-- The outstanding command. -/
def listedNode : NvmeCmd := ⟨1, 0, 0, 0, 0, 2, some 0⟩

/-- Its queue. -/
def listedQueue : NvmeSq :=
  { CommandId.adminQueue with
    cmdList := [listedNode]
    nextCid := 1
    tailPtrVirt := 1
    entries := Function.update CommandId.adminQueue.entries 0
      { logCommand with dptr := ⟨8192, 4096⟩ } }

/-- Its device. -/
def listedDevice : NvmeDevice :=
  { adminDevice.setSq 0 listedQueue with
    prpsHeap := adminDevice.prpsHeap.insert 0 listedPrps
    poolPages := [4096]
    pinned := [0, 1, 2]
    nextObject := 2 }

/-- The device when the command is added and not yet written. -/
def addedDevice : NvmeDevice :=
  listedDevice.setSq 0
    { CommandId.adminQueue with
      nextCid := 1
      cmdList := [listedNode] }

theorem logRequest_prepared :
    dnvmePrepare64bCmd logEnv (adminDevice.setNextCid 0 1) logRequest
      logCommand =
        .ok (0, { logCommand with dptr := ⟨8192, 4096⟩ }, addedDevice) := by
  have mapped : dnvmeMapUserPage logEnv.map (adminDevice.setNextCid 0 1).pinned
      (.zero (prpsPool logRequest logCommand)) logRequest.dataBufPtr
      logRequest.dataBufSize logRequest.dataDir
      (createsQueue logRequest logCommand) =
        .ok ⟨0, logMapped, [0, 1, 2]⟩ :=
    logRequest_mapped
  unfold dnvmePrepare64bCmd
  rw [if_neg (by decide), if_neg (by decide), mapped]
  simp only [bind, Except.bind]
  rw [if_neg (by decide), logRequest_setup]
  dsimp only
  rw [if_neg (by decide)]
  rfl

theorem listedDevice_reachable :
    Reachable (fun _ _ _ => True) listedDevice := by
  have first : Step (fun _ _ _ => True)
      (NvmeDevice.fresh 64 false false false) adminDevice :=
    ⟨.createAsq ⟨true, some 4096, true⟩ 3, 0, fun _ _ _ => trivial, rfl⟩
  have submitted : dnvmeSubmit64bCmd logEnv adminDevice logRequest =
      .ok (0, listedDevice) := by
    change (dnvmePrepare64bCmd logEnv (adminDevice.setNextCid 0 1) logRequest
      logCommand >>= _) = _
    rw [logRequest_prepared]
    rfl
  have second : Step (fun _ _ _ => True) adminDevice listedDevice :=
    ⟨.submit64bCmd logEnv logRequest, 0, fun _ _ _ => trivial,
      step_submit64bCmd rfl submitted⟩
  exact ⟨64, false, false, false, by decide,
    (Relation.ReflTransGen.single first).tail second⟩

theorem list_never_exchanged_listed :
    Reachable (fun _ _ _ => True) listedDevice ∧
      ¬ ListExchanged listedDevice 0 listedNode listedPrps :=
  ⟨listedDevice_reachable, @list_never_exchanged _ _ listedQueue _ _ rfl rfl
    rfl ⟨by decide, by decide, Or.inl ⟨_, rfl, rfl⟩⟩⟩

/-- The first entry is fetched, the second is not. -/
theorem fetch_misses_last_entry :
    Reachable (fun _ _ _ => True) listedDevice ∧
      listWord listedPrps 1 = 24576 ∧
      (∃ user, dnvmeTamperCmd TamperExact.smoothTamper listedDevice
          ⟨fetchOf listedPrps (addressing listedDevice 0 listedNode),
            fun _ => 7⟩ = .ok (0, user, listedDevice) ∧
        user.data 1 = 16384 ∧ user.data 2 = 7) ∧
      ¬ ListExchanged listedDevice 0 listedNode listedPrps :=
  ⟨listedDevice_reachable, rfl, ⟨_, rfl, rfl, rfl⟩, fun exchanged =>
    @not_fetchesAll _ _ listedQueue _ _ rfl rfl rfl
      ⟨by decide, by decide, Or.inl ⟨_, rfl, rfl⟩⟩ exchanged.fetchesAll⟩

end Dnvme.Driver.TamperLists
