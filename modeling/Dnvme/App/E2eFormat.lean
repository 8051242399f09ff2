import Dnvme.Lib.Results
import Dnvme.App.E2eTags

/-!
# The format of a namespace

This module embeds the part of `test_e2e_protect.c` that keeps the parameters
of the protection information: `prepare_namespace`, `init_test_data` and
`select_ext_lba_format`, with the library functions below them.  What the
controller answers is a parameter of each step.

The parameters should be those of the extended LBA format entry that the
namespace is formatted with.  They are read from the next namespace at first,
and later copied from the requested configuration, whose fields need not have
taken part in the choice.
-/

namespace Dnvme.App.E2eFormat

open Dnvme.Lib.Results
open Dnvme.App.E2eProtect
open Dnvme.App.E2eTags

/-! ## Identify data -/

/-- `struct nvme_lbaf`. -/
structure NvmeLbaf where
  ms : Nat
  ds : Nat
  deriving DecidableEq, Repr

/-- The fields of `struct nvme_id_ns` that are read here. -/
structure NvmeIdNs where
  nsze : Nat
  flbas : BitVec 8
  mc : BitVec 8
  dpc : BitVec 8
  dps : BitVec 8
  lbaf : Nat → NvmeLbaf

/-- `struct nvme_id_ns_nvm`: the storage tag mask and the format entries. -/
structure NvmeIdNsNvm where
  lbstm : BitVec 64
  elbaf : Nat → BitVec 32

/-- `ARRAY_SIZE(id_ns_nvm->elbaf)`. -/
def elbafSize : Nat := 64

/-- `NVME_NS_FLBAS_LBA`. -/
def flbasLba (flbas : BitVec 8) : Nat :=
  (((flbas &&& 0x60#8) >>> 1) ||| (flbas &&& 0xf#8)).toNat

/-- `NVME_ELBAF_STS`. -/
def elbafSts (elbaf : BitVec 32) : Nat :=
  ((elbaf >>> 0) &&& 0x7f#32).toNat

/-- `NVME_ELBAF_PIF`. -/
def elbafPif (elbaf : BitVec 32) : Nat :=
  ((elbaf >>> 7) &&& 0x3#32).toNat

/-- `struct nvme_ns_instance`. -/
structure NvmeNsInstance where
  nsid : Nat
  fmtIdx : Nat
  blkSize : Nat
  metaSize : Nat
  idNs : Option NvmeIdNs
  idNsNvm : Option NvmeIdNsNvm

/-- `struct nvme_ns_group`; `ns` has `nr_ns` elements. -/
structure NvmeNsGroup where
  actList : List Nat
  ns : List NvmeNsInstance

/-- What stops the test. -/
inductive Crash where
  | outOfBounds
  | nullPointer
  deriving DecidableEq, Repr

/-- A value or a crash. -/
abbrev Run := Except Crash

/-- `nsid - 1` as the unsigned number it is. -/
def nsIndex (nsid : Nat) : Nat := toU32 (nsid + (2 ^ 32 - 1))

/-- `ns_grp->ns[index]`. -/
def NvmeNsGroup.at (grp : NvmeNsGroup) (index : Nat) : Run NvmeNsInstance :=
  match grp.ns[index]? with
  | none => .error .outOfBounds
  | some ns => .ok ns

/-- A pointer that is read. -/
def deref {α : Type} : Option α → Run α
  | none => .error .nullPointer
  | some value => .ok value

/-- `ENODEV`, `EFAULT`, `EPERM` and `EOPNOTSUPP`. -/
def eNodev : Int := 19

@[inherit_doc eNodev]
def eFault : Int := 14

@[inherit_doc eNodev]
def ePerm : Int := 1

@[inherit_doc eNodev]
def eOpnotsupp : Int := 95

/-- What `check_id_ns_sanity` and `check_id_ns_nvm_sanity` have in common;
`present` says which data has to be there. -/
def checkSanity (present : NvmeNsInstance → Bool) (grp : NvmeNsGroup)
    (nsid : Nat) : Run Int :=
  if grp.ns.length < nsid then .ok (-eInval)
  else do
    let ns ← grp.at (nsIndex nsid)
    if ns.nsid ≠ nsid then return -eNodev
    else if !present ns then return -eFault
    else return 0

/-- `check_id_ns_sanity`. -/
def checkIdNsSanity : NvmeNsGroup → Nat → Run Int :=
  checkSanity fun ns => ns.idNs.isSome

/-- `check_id_ns_nvm_sanity`. -/
def checkIdNsNvmSanity : NvmeNsGroup → Nat → Run Int :=
  checkSanity fun ns => ns.idNsNvm.isSome

/-- The functions that return a byte of the identify data or an error, taken
as the byte that their callers make of it. -/
def idNsByte (byte : NvmeIdNs → BitVec 8) (grp : NvmeNsGroup) (nsid : Nat) :
    Run (BitVec 8) := do
  let ret ← checkIdNsSanity grp nsid
  if ret < 0 then return BitVec.ofInt 8 ret
  else
    let ns ← grp.at (nsIndex nsid)
    let idNs ← deref ns.idNs
    return byte idNs

/-- `nvme_id_ns_mc`. -/
def nvmeIdNsMc : NvmeNsGroup → Nat → Run (BitVec 8) := idNsByte NvmeIdNs.mc

/-- `nvme_id_ns_dpc`. -/
def nvmeIdNsDpc : NvmeNsGroup → Nat → Run (BitVec 8) := idNsByte NvmeIdNs.dpc

/-- `nvme_id_ns_dps`. -/
def nvmeIdNsDps : NvmeNsGroup → Nat → Run (BitVec 8) := idNsByte NvmeIdNs.dps

/-- `nvme_id_ns_nsze`: the return value, and the size unless it failed. -/
def nvmeIdNsNsze (grp : NvmeNsGroup) (nsid nsze : Nat) : Run (Int × Nat) := do
  let ret ← checkIdNsSanity grp nsid
  if ret < 0 then return (ret, nsze)
  else
    let ns ← grp.at (nsIndex nsid)
    let idNs ← deref ns.idNs
    return (0, idNs.nsze)

/-- `nvme_id_ns_ms`. -/
def nvmeIdNsMs (grp : NvmeNsGroup) (nsid : Nat) : Run Int := do
  let ret ← checkIdNsSanity grp nsid
  if ret < 0 then return ret
  else
    let ns ← grp.at (nsIndex nsid)
    return ns.metaSize

/-- `nvme_id_ns_lbads`. -/
def nvmeIdNsLbads (grp : NvmeNsGroup) (nsid lbads : Nat) :
    Run (Int × Nat) := do
  let ret ← checkIdNsSanity grp nsid
  if ret < 0 then return (ret, lbads)
  else
    let ns ← grp.at (nsIndex nsid)
    return (0, ns.blkSize)

/-- `nvme_id_ns_nvm_lbstm`. -/
def nvmeIdNsNvmLbstm (grp : NvmeNsGroup) (nsid : Nat) (lbstm : BitVec 64) :
    Run (Int × BitVec 64) := do
  let ret ← checkIdNsNvmSanity grp nsid
  if ret < 0 then return (ret, lbstm)
  else
    let ns ← grp.at (nsIndex nsid)
    let nvm ← deref ns.idNsNvm
    return (0, nvm.lbstm)

/-! ## The test data -/

/-- The part of `struct test_data` that a test configures before it selects a
format. -/
structure FormatConfig where
  isUseMetaPtr : Bool
  isMatchPif : Bool
  isMatchSts : Bool
  /-- A field of three bits. -/
  isMatchMs : Nat
  cfgPif : Nat
  cfgSts : Nat
  cfgMs : Nat
  cfgPit : Nat
  deriving DecidableEq, Repr

/-- `struct test_data` without what only the read and write requests use. -/
structure TestData where
  nsid : Nat
  nsze : Nat
  tags : TagData
  appTag : BitVec 16
  appTagMask : BitVec 16
  isSupMetaExtlba : Bool
  isSupMetaPtr : Bool
  isSupPiType1 : Bool
  isSupPiType2 : Bool
  isSupPiType3 : Bool
  isSupLastBytes : Bool
  isSupFirstBytes : Bool
  config : FormatConfig
  deriving DecidableEq, Repr

/-- `static struct test_data g_test = {0}`. -/
def TestData.zero : TestData where
  nsid := 0
  nsze := 0
  tags := ⟨0, 0, 0#64, 0#64, 0#64, false, 0, 0, 0, 0⟩
  appTag := 0#16
  appTagMask := 0#16
  isSupMetaExtlba := false
  isSupMetaPtr := false
  isSupPiType1 := false
  isSupPiType2 := false
  isSupPiType3 := false
  isSupLastBytes := false
  isSupFirstBytes := false
  config := ⟨false, false, false, 0, 0, 0, 0, 0⟩

/-- Note what the protection capabilities allow. -/
def TestData.withDpc (data : TestData) (dpc : BitVec 8) : TestData :=
  { data with
    isSupPiType1 := data.isSupPiType1 || dpc.getLsbD 0
    isSupPiType2 := data.isSupPiType2 || dpc.getLsbD 1
    isSupPiType3 := data.isSupPiType3 || dpc.getLsbD 2
    isSupFirstBytes := data.isSupFirstBytes || dpc.getLsbD 3
    isSupLastBytes := data.isSupLastBytes || dpc.getLsbD 4 }

/-- Note the protection settings. -/
def TestData.withDps (data : TestData) (dps : BitVec 8) : TestData :=
  { data with
    tags :=
      { data.tags with
        curPit := (dps &&& 0x7#8).toNat
        isPiFirst := data.tags.isPiFirst || dps.getLsbD 3 } }

/-- Note the metadata capabilities. -/
def TestData.withMc (data : TestData) (mc : BitVec 8) : TestData :=
  { data with
    isSupMetaExtlba := data.isSupMetaExtlba || mc.getLsbD 0
    isSupMetaPtr := data.isSupMetaPtr || mc.getLsbD 1 }

/-- `cur_pif` and `cur_sts`. -/
def TestData.withFormat (data : TestData) (pif sts : Nat) : TestData :=
  { data with tags := { data.tags with curPif := pif, curSts := sts } }

/-- `cur_rts`. -/
def TestData.withRts (data : TestData) (rts : Int) : TestData :=
  { data with tags := { data.tags with curRts := rts.toNat } }

/-- `prepare_namespace`; `ns` is the element behind that of the
namespace. -/
def prepareNamespace (grp : NvmeNsGroup) (data : TestData) :
    Run (Int × TestData) := do
  let dpc ← nvmeIdNsDpc grp data.nsid
  let data := data.withDpc dpc
  if !data.isSupPiType1 && !data.isSupPiType2 && !data.isSupPiType3 then
    return (-eOpnotsupp, data)
  else if !data.isSupFirstBytes && !data.isSupLastBytes then
    return (-eOpnotsupp, data)
  else
    let ns ← grp.at data.nsid
    let nvm ← deref ns.idNsNvm
    let elbaf := nvm.elbaf ns.fmtIdx
    let data := data.withFormat (elbafPif elbaf) (elbafSts elbaf)
    let ret := getReferenceTagSize data.tags.curPif data.tags.curSts
    if ret < 0 then
      return (ret, data)
    else
      let data := data.withRts ret
      let dps ← nvmeIdNsDps grp data.nsid
      let data := data.withDps dps
      let mc ← nvmeIdNsMc grp data.nsid
      let data := data.withMc mc
      if !data.isSupMetaExtlba && !data.isSupMetaPtr then
        return (-eOpnotsupp, data)
      else
        let (ret, lbstm) ←
          nvmeIdNsNvmLbstm grp data.nsid data.tags.storageTagMask
        let data :=
          { data with tags := { data.tags with storageTagMask := lbstm } }
        if ret < 0 then return (ret, data) else return (0, data)

/-- What a start takes from outside: the outcome of `prepare_ctroller` and the
tags of `prepare_random_tag`. -/
structure StartEnv where
  controller : Int
  appTag : BitVec 16
  appTagMask : BitVec 16
  storageTag : BitVec 64
  refTag : BitVec 64

/-- `prepare_random_tag`. -/
def prepareRandomTag (env : StartEnv) (data : TestData) : TestData :=
  { data with
    appTag := env.appTag
    appTagMask := env.appTagMask
    tags :=
      { data.tags with
        storageTag := env.storageTag
        refTag := env.refTag } }

/-- The conversion of an `int` to `uint16_t`. -/
def toU16 (value : Int) : Nat := (value % 2 ^ 16).toNat

/-- `init_test_data`. -/
def initTestData (env : StartEnv) (grp : NvmeNsGroup) (data : TestData) :
    Run (Int × TestData) :=
  match grp.actList with
  | [] => .error .outOfBounds
  | nsid :: _ => do
      let data := { data with nsid := nsid }
      let ns ← grp.at (nsIndex nsid)
      if ns.idNsNvm.isNone then
        return (-eOpnotsupp, data)
      else if env.controller < 0 then
        return (env.controller, data)
      else
        let (ret, data) ← prepareNamespace grp data
        if ret < 0 then
          return (ret, data)
        else
          let data := prepareRandomTag env data
          let (ret, lbads) ← nvmeIdNsLbads grp data.nsid data.tags.lbads
          let data := { data with tags := { data.tags with lbads := lbads } }
          if ret < 0 then
            return (ret, data)
          else
            let (_, nsze) ← nvmeIdNsNsze grp data.nsid data.nsze
            let ms ← nvmeIdNsMs grp data.nsid
            return (0,
              { data with
                nsze := nsze
                tags := { data.tags with metaSize := toU16 ms } })

/-! ## Selecting a format -/

/-- The comparison of the metadata size; an unknown one has no answer. -/
def msMatches (config : FormatConfig) (ms : Nat) : Option Bool :=
  match config.isMatchMs with
  | 1 => some (config.cfgMs = ms)
  | 2 => some (ms < config.cfgMs)
  | 3 => some (config.cfgMs < ms)
  | _ => none

/-- How the search for a format ends. -/
inductive Search where
  | invalid
  | at (i : Nat)
  deriving DecidableEq, Repr

/-- The loop of `select_ext_lba_format` over `count` entries from `i` on;
`matched` is kept from turn to turn. -/
def searchElbaf (config : FormatConfig) (idNs : Option NvmeIdNs)
    (nvm : NvmeIdNsNvm) : (count i : Nat) → (matched : Bool) → Run Search
  | 0, i, _ => .ok (.at i)
  | count + 1, i, matched =>
      let elbaf := nvm.elbaf i
      if config.isMatchPif && config.cfgPif ≠ elbafPif elbaf then
        searchElbaf config idNs nvm count (i + 1) matched
      else if config.isMatchSts && config.cfgSts ≠ elbafSts elbaf then
        searchElbaf config idNs nvm count (i + 1) matched
      else if config.isMatchMs ≠ 0 then
        match idNs with
        | none => .error .nullPointer
        | some id =>
            match msMatches config (id.lbaf i).ms with
            | none => .ok .invalid
            | some fits =>
                if matched || fits then .ok (.at i)
                else searchElbaf config idNs nvm count (i + 1) false
      else
        .ok (.at i)

/-- `get_format_pi_type_by_dps`. -/
def getFormatPiTypeByDps (pit : Nat) : BitVec 32 :=
  match pit with
  | 1 => 1#32 <<< 5
  | 2 => 2#32 <<< 5
  | 3 => 3#32 <<< 5
  | _ => 0#32

/-- Dword 10 of the format command for entry `i`, without the metadata
setting. -/
def formatDw10 (i pit : Nat) (first : Bool) : BitVec 32 :=
  let i := BitVec.ofNat 32 i
  let dw10 := (i &&& 0xf#32) ||| ((i &&& 0x30#32) <<< 8)
  let dw10 := dw10 &&& ~~~(7#32 <<< 9)
  let dw10 := dw10 ||| (1#32 <<< 9)
  let dw10 := dw10 ||| getFormatPiTypeByDps pit
  if first then dw10 ||| (1#32 <<< 8) else dw10

/-- `NVME_FMT_MSET_EXT`. -/
def fmtMsetExt : BitVec 32 := 1#32 <<< 4

/-- What the controller answers around a format command: the outcome of the
command, and the identify data after it.  The errors are negative. -/
structure Controller where
  format : BitVec 32 → Except Nat Unit
  identifyNs : BitVec 32 → Except Nat NvmeIdNs
  identifyCsNs : BitVec 32 → Except Nat NvmeIdNsNvm

/-- An error code. -/
def errorCode (n : Nat) : Int := -(n + 1 : Nat)

/-- `nvme_update_ns_instance`, after the format command `dw10`; the data of
zoned namespaces is left out. -/
def nvmeUpdateNsInstance (controller : Controller) (dw10 : BitVec 32)
    (ns : NvmeNsInstance) : Int × NvmeNsInstance :=
  match controller.identifyNs dw10 with
  | .error n => (errorCode n, ns)
  | .ok idNs =>
      let fmtIdx := flbasLba idNs.flbas
      let updated :=
        { ns with
          idNs := some idNs
          fmtIdx := fmtIdx
          blkSize := toU32 (2 ^ (idNs.lbaf fmtIdx).ds)
          metaSize := (idNs.lbaf fmtIdx).ms }
      match ns.idNsNvm with
      | none => (0, updated)
      | some _ =>
          match controller.identifyCsNs dw10 with
          | .error n => (errorCode n, updated)
          | .ok nvm => (0, { updated with idNsNvm := some nvm })

/-- The test data and the namespaces. -/
structure TestState where
  data : TestData
  grp : NvmeNsGroup

/-- `select_ext_lba_format` from the answer to the format command on. -/
def afterFormat (controller : Controller) (dw10 : BitVec 32)
    (state : TestState) (ns : NvmeNsInstance) : Run (Int × TestState) := do
  let data :=
    state.data.withFormat state.data.config.cfgPif state.data.config.cfgSts
  let ret := getReferenceTagSize data.tags.curPif data.tags.curSts
  if ret < 0 then
    return (ret, { state with data := data })
  else
    let data := data.withRts ret
    let (ret, ns) := nvmeUpdateNsInstance controller dw10 ns
    let grp :=
      { state.grp with ns := state.grp.ns.set (nsIndex data.nsid) ns }
    if ret < 0 then
      return (ret, ⟨data, grp⟩)
    else
      let dps ← nvmeIdNsDps grp data.nsid
      let data := data.withDps dps
      let (_, nsze) ← nvmeIdNsNsze grp data.nsid data.nsze
      let (_, lbads) ← nvmeIdNsLbads grp data.nsid data.tags.lbads
      let ms ← nvmeIdNsMs grp data.nsid
      let (ret, lbstm) ←
        nvmeIdNsNvmLbstm grp data.nsid data.tags.storageTagMask
      let data :=
        { data with
          nsze := nsze
          tags :=
            { data.tags with
              lbads := lbads
              metaSize := toU16 ms
              storageTagMask := lbstm } }
      if ret < 0 then return (ret, ⟨data, grp⟩) else return (0, ⟨data, grp⟩)

/-- `select_ext_lba_format`. -/
def selectExtLbaFormat (controller : Controller) (state : TestState) :
    Run (Int × TestState) := do
  let data := state.data
  let ns ← state.grp.at (nsIndex data.nsid)
  let nvm ← deref ns.idNsNvm
  let search ← searchElbaf data.config ns.idNs nvm elbafSize 0 false
  match search with
  | .invalid => return (-eInval, state)
  | .at i =>
      if elbafSize ≤ i then
        return (-eOpnotsupp, state)
      else
        let dw10 := formatDw10 i data.config.cfgPit data.isSupFirstBytes
        if !(data.isSupMetaExtlba && !data.config.isUseMetaPtr) then
          return (-ePerm, state)
        else
          let dw10 := dw10 ||| fmtMsetExt
          match controller.format dw10 with
          | .error n => return (errorCode n, state)
          | .ok _ => afterFormat controller dw10 state ns

/-! ## The search -/

/-- An entry meets the request. -/
def Accepts (config : FormatConfig) (idNs : Option NvmeIdNs)
    (nvm : NvmeIdNsNvm) (i : Nat) : Prop :=
  (config.isMatchPif = true → config.cfgPif = elbafPif (nvm.elbaf i)) ∧
    (config.isMatchSts = true → config.cfgSts = elbafSts (nvm.elbaf i)) ∧
    (config.isMatchMs ≠ 0 → ∃ id, idNs = some id ∧
      msMatches config (id.lbaf i).ms = some true)

section Searching

variable {config : FormatConfig} {idNs : Option NvmeIdNs} {nvm : NvmeIdNsNvm}

/-- The search ends at the first entry that meets the request. -/
theorem searchElbaf_first (count : Nat) :
    ∀ {i found : Nat},
      searchElbaf config idNs nvm count i false = .ok (.at found) →
      found < i + count → i ≤ found ∧ Accepts config idNs nvm found ∧
        ∀ k, i ≤ k → k < found → ¬ Accepts config idNs nvm k := by
  induction count with
  | zero =>
      intro i found search below
      cases search
      omega
  | succ count ih =>
      intro i found search below
      -- an entry that is passed over does not meet the request
      have passed (rejected : ¬ Accepts config idNs nvm i)
          (rest : searchElbaf config idNs nvm count (i + 1) false =
            .ok (.at found)) :
          i ≤ found ∧ Accepts config idNs nvm found ∧
            ∀ k, i ≤ k → k < found → ¬ Accepts config idNs nvm k := by
        obtain ⟨after, accepts, first⟩ := ih rest (by omega)
        refine ⟨by omega, accepts, fun k from_ before => ?_⟩
        rcases Nat.eq_or_lt_of_le from_ with rfl | later
        · exact rejected
        · exact first k later before
      have stopped (accepts : Accepts config idNs nvm i)
          (here : i = found) :
          i ≤ found ∧ Accepts config idNs nvm found ∧
            ∀ k, i ≤ k → k < found → ¬ Accepts config idNs nvm k := by
        subst here
        exact ⟨le_refl _, accepts, fun k from_ before => by omega⟩
      unfold searchElbaf at search
      dsimp only at search
      split at search
      · rename_i other
        refine passed (fun accepts => ?_) search
        simp only [Bool.and_eq_true, decide_eq_true_eq] at other
        exact other.2 (accepts.1 other.1)
      rename_i pif
      split at search
      · rename_i other
        refine passed (fun accepts => ?_) search
        simp only [Bool.and_eq_true, decide_eq_true_eq] at other
        exact other.2 (accepts.2.1 other.1)
      rename_i sts
      have samePif (asked : config.isMatchPif = true) :
          config.cfgPif = elbafPif (nvm.elbaf i) := by
        simpa [asked] using pif
      have sameSts (asked : config.isMatchSts = true) :
          config.cfgSts = elbafSts (nvm.elbaf i) := by
        simpa [asked] using sts
      split at search
      · rename_i asked
        cases idNs with
        | none => cases search
        | some id =>
            dsimp only at search
            split at search
            · cases search
            · rename_i fits comparison
              rw [Bool.false_or] at search
              split at search
              · rename_i yes
                cases search
                exact stopped ⟨samePif, sameSts, fun _ =>
                  ⟨id, rfl, comparison.trans (congrArg some yes)⟩⟩ rfl
              · rename_i no
                refine passed (fun accepts => ?_) search
                obtain ⟨_, same, yes⟩ := accepts.2.2 asked
                cases same
                rw [comparison] at yes
                exact no (Option.some.inj yes)
      · rename_i unasked
        cases search
        exact stopped ⟨samePif, sameSts, fun asked =>
          absurd asked unasked⟩ rfl

end Searching

/-! ## The controller -/

/-- The entry that a format command asks for. -/
def dw10Lbaf (dw10 : BitVec 32) : Nat :=
  ((dw10 &&& 0xf#32) ||| ((dw10 >>> 8) &&& 0x30#32)).toNat

theorem dw10Lbaf_formatDw10 {i : Nat} (inside : i < elbafSize) (pit : Nat)
    (first : Bool) : dw10Lbaf (formatDw10 i pit first ||| fmtMsetExt) = i := by
  have all : ∀ (i : Fin 64) (kind : Fin 4) (first : Bool),
      dw10Lbaf (formatDw10 i kind first ||| fmtMsetExt) = i := by
    decide +kernel
  have kinds : ∃ kind : Fin 4,
      getFormatPiTypeByDps pit = getFormatPiTypeByDps kind := by
    by_cases small : pit < 4
    · exact ⟨⟨pit, small⟩, rfl⟩
    · refine ⟨0, ?_⟩
      unfold getFormatPiTypeByDps
      split
      · omega
      · omega
      · omega
      · rfl
  obtain ⟨kind, same⟩ := kinds
  have here := all ⟨i, inside⟩ kind first
  unfold formatDw10 at here ⊢
  rw [same]
  exact here

/-- The controller formats a namespace with the entry that is asked for, and
a format does not change the entries. -/
structure Honors (controller : Controller) (nvm : NvmeIdNsNvm) : Prop where
  selected : ∀ dw10 idNs, controller.identifyNs dw10 = .ok idNs →
    flbasLba idNs.flbas = dw10Lbaf dw10
  entries : ∀ dw10 next, controller.identifyCsNs dw10 = .ok next →
    next.elbaf = nvm.elbaf

/-! ## The parameters in use -/

/-- The parameters are those of a format entry. -/
structure Uses (tags : TagData) (entry : BitVec 32) : Prop where
  pif : tags.curPif = elbafPif entry
  sts : tags.curSts = elbafSts entry
  rts : (tags.curRts : Int) =
    getReferenceTagSize (elbafPif entry) (elbafSts entry)

/-- The parameters are those of the entry that the namespace is formatted
with. -/
def Current (state : TestState) : Prop :=
  ∃ ns idNs nvm, state.grp.ns[nsIndex state.data.nsid]? = some ns ∧
    ns.idNs = some idNs ∧ ns.idNsNvm = some nvm ∧
    Uses state.data.tags (nvm.elbaf (flbasLba idNs.flbas))

/-- A namespace with format entries has its other data too, and knows the
entry in use. -/
def WellFormed (grp : NvmeNsGroup) : Prop :=
  ∀ (index : Nat) (ns : NvmeNsInstance) (nvm : NvmeIdNsNvm),
    grp.ns[index]? = some ns → ns.idNsNvm = some nvm →
    ∃ idNs : NvmeIdNs, ns.idNs = some idNs ∧ ns.fmtIdx = flbasLba idNs.flbas

/-- The format and the storage tag size of the namespace at an index. -/
def formatOf (grp : NvmeNsGroup) (index : Nat) : Option (Nat × Nat) :=
  (grp.ns[index]?).bind fun ns => ns.idNsNvm.map fun nvm =>
    (elbafPif (nvm.elbaf ns.fmtIdx), elbafSts (nvm.elbaf ns.fmtIdx))

section Inversion

theorem at_ok {grp : NvmeNsGroup} {index : Nat} {ns : NvmeNsInstance}
    (done : grp.at index = .ok ns) : grp.ns[index]? = some ns := by
  unfold NvmeNsGroup.at at done
  split at done
  · cases done
  · rename_i found
    cases done
    exact found

theorem deref_ok {α : Type} {pointer : Option α} {value : α}
    (done : deref pointer = .ok value) : pointer = some value := by
  cases pointer with
  | none => cases done
  | some other =>
      cases done
      rfl

/-- The parameters that `prepare_namespace` reads come from the element at
`nsid`. -/
theorem prepareNamespace_ok {grp : NvmeNsGroup} {data after : TestData}
    {ret : Int} (done : prepareNamespace grp data = .ok (ret, after))
    (success : 0 ≤ ret) :
    ∃ ns nvm, grp.ns[data.nsid]? = some ns ∧ ns.idNsNvm = some nvm ∧
      after.nsid = data.nsid ∧ Uses after.tags (nvm.elbaf ns.fmtIdx) := by
  have unsupported : ¬ (0 : Int) ≤ -eOpnotsupp := by decide
  unfold prepareNamespace at done
  rcases ok_of_bind done with ⟨dpc, _, done⟩
  dsimp only at done
  split at done
  · cases done
    exact absurd success unsupported
  split at done
  · cases done
    exact absurd success unsupported
  rcases ok_of_bind done with ⟨ns, found, done⟩
  rcases ok_of_bind done with ⟨nvm, present, done⟩
  split at done
  · rename_i negative
    cases done
    exact absurd success (not_le.mpr negative)
  rename_i size
  rcases ok_of_bind done with ⟨dps, _, done⟩
  rcases ok_of_bind done with ⟨mc, _, done⟩
  split at done
  · cases done
    exact absurd success unsupported
  rcases ok_of_bind done with ⟨⟨code, lbstm⟩, _, done⟩
  split at done
  · rename_i negative
    cases done
    exact absurd success (not_le.mpr negative)
  cases done
  refine ⟨ns, nvm, at_ok found, deref_ok present, rfl, rfl, rfl, ?_⟩
  exact Int.toNat_of_nonneg (not_lt.mp size)

/-- So do those of `init_test_data`. -/
theorem initTestData_ok {env : StartEnv} {grp : NvmeNsGroup}
    {data after : TestData} {ret : Int}
    (done : initTestData env grp data = .ok (ret, after))
    (success : 0 ≤ ret) :
    ∃ nsid rest own ns nvm, grp.actList = nsid :: rest ∧
      grp.ns[nsIndex nsid]? = some own ∧ own.idNsNvm.isSome ∧
      grp.ns[nsid]? = some ns ∧ ns.idNsNvm = some nvm ∧
      after.nsid = nsid ∧ Uses after.tags (nvm.elbaf ns.fmtIdx) := by
  unfold initTestData at done
  split at done
  · cases done
  rename_i nsid rest active
  rcases ok_of_bind done with ⟨own, found, done⟩
  split at done
  · cases done
    exact absurd success (by decide)
  rename_i present
  split at done
  · rename_i negative
    cases done
    exact absurd success (not_le.mpr negative)
  rcases ok_of_bind done with ⟨⟨code, prepared⟩, prepares, done⟩
  dsimp only at done
  split at done
  · rename_i negative
    cases done
    exact absurd success (not_le.mpr negative)
  rename_i nonnegative
  rcases ok_of_bind done with ⟨⟨_, lbads⟩, _, done⟩
  split at done
  · rename_i negative
    cases done
    exact absurd success (not_le.mpr negative)
  rcases ok_of_bind done with ⟨⟨_, nsze⟩, _, done⟩
  rcases ok_of_bind done with ⟨ms, _, done⟩
  cases done
  obtain ⟨ns, nvm, next, entries, same, uses⟩ :=
    prepareNamespace_ok prepares (not_lt.mp nonnegative)
  refine ⟨nsid, rest, own, ns, nvm, active, at_ok found, ?_, next, entries,
    same, uses.pif, uses.sts, uses.rts⟩
  exact Option.isSome_iff_ne_none.mpr (by simpa using present)

end Inversion

/-! ## What a selection leaves -/

section Selecting

variable {controller : Controller} {dw10 : BitVec 32}

theorem errorCode_neg (n : Nat) : ¬ (0 : Int) ≤ errorCode n := by
  unfold errorCode
  omega

/-- An update that succeeds has read both kinds of data. -/
theorem nvmeUpdateNsInstance_ok {ns updated : NvmeNsInstance} {ret : Int}
    {nvm : NvmeIdNsNvm} (present : ns.idNsNvm = some nvm)
    (done : nvmeUpdateNsInstance controller dw10 ns = (ret, updated))
    (success : 0 ≤ ret) :
    ∃ idNs next, controller.identifyNs dw10 = .ok idNs ∧
      controller.identifyCsNs dw10 = .ok next ∧
      updated.idNs = some idNs ∧ updated.idNsNvm = some next := by
  unfold nvmeUpdateNsInstance at done
  split at done
  · cases done
    exact absurd success (errorCode_neg _)
  rename_i idNs identified
  dsimp only at done
  rw [present] at done
  dsimp only at done
  split at done
  · cases done
    exact absurd success (errorCode_neg _)
  rename_i next entries
  cases done
  exact ⟨idNs, next, identified, entries, rfl, rfl⟩

/-- The parameters are the configured ones after a selection, and the data of
the namespace is new. -/
structure Formatted (controller : Controller) (dw10 : BitVec 32)
    (before after : TestState) (idNs : NvmeIdNs) (next : NvmeIdNsNvm) :
    Prop where
  identified : controller.identifyNs dw10 = .ok idNs
  entries : controller.identifyCsNs dw10 = .ok next
  nsid : after.data.nsid = before.data.nsid
  stored : ∃ ns, after.grp.ns[nsIndex before.data.nsid]? = some ns ∧
    ns.idNs = some idNs ∧ ns.idNsNvm = some next
  pif : after.data.tags.curPif = before.data.config.cfgPif
  sts : after.data.tags.curSts = before.data.config.cfgSts
  rts : (after.data.tags.curRts : Int) = getReferenceTagSize
    before.data.config.cfgPif before.data.config.cfgSts

theorem afterFormat_ok {state after : TestState} {ns : NvmeNsInstance}
    {nvm : NvmeIdNsNvm} {ret : Int}
    (found : state.grp.ns[nsIndex state.data.nsid]? = some ns)
    (present : ns.idNsNvm = some nvm)
    (done : afterFormat controller dw10 state ns = .ok (ret, after))
    (success : 0 ≤ ret) :
    ∃ idNs next, Formatted controller dw10 state after idNs next := by
  unfold afterFormat at done
  dsimp only at done
  split at done
  · rename_i negative
    cases done
    exact absurd success (not_le.mpr negative)
  rename_i size
  split at done
  · rename_i negative
    cases done
    exact absurd success (not_le.mpr negative)
  rename_i updates
  obtain ⟨idNs, next, identified, entries, first, second⟩ :=
    nvmeUpdateNsInstance_ok present rfl (not_lt.mp updates)
  rcases ok_of_bind done with ⟨dps, _, done⟩
  rcases ok_of_bind done with ⟨⟨_, nsze⟩, _, done⟩
  rcases ok_of_bind done with ⟨⟨_, lbads⟩, _, done⟩
  rcases ok_of_bind done with ⟨ms, _, done⟩
  rcases ok_of_bind done with ⟨⟨code, lbstm⟩, _, done⟩
  have inside : nsIndex state.data.nsid < state.grp.ns.length :=
    (List.getElem?_eq_some_iff.mp found).1
  split at done
  · rename_i negative
    cases done
    exact absurd success (not_le.mpr negative)
  cases done
  exact ⟨idNs, next, identified, entries, rfl,
    ⟨_, List.getElem?_set_self inside, first, second⟩, rfl, rfl,
    Int.toNat_of_nonneg (not_lt.mp size)⟩

/-- Entry `i` is the first that meets the request. -/
def Selects (state : TestState) (nvm : NvmeIdNsNvm) (i : Nat) : Prop :=
  ∃ ns, state.grp.ns[nsIndex state.data.nsid]? = some ns ∧
    ns.idNsNvm = some nvm ∧ i < elbafSize ∧
    Accepts state.data.config ns.idNs nvm i ∧
    ∀ k < i, ¬ Accepts state.data.config ns.idNs nvm k

theorem selectExtLbaFormat_ok {state after : TestState} {ret : Int}
    (done : selectExtLbaFormat controller state = .ok (ret, after))
    (success : 0 ≤ ret) :
    ∃ nvm i idNs next, Selects state nvm i ∧
      Formatted controller (formatDw10 i state.data.config.cfgPit
        state.data.isSupFirstBytes ||| fmtMsetExt) state after idNs next := by
  unfold selectExtLbaFormat at done
  dsimp only at done
  rcases ok_of_bind done with ⟨ns, found, done⟩
  rcases ok_of_bind done with ⟨nvm, present, done⟩
  rcases ok_of_bind done with ⟨search, searched, done⟩
  cases search with
  | invalid =>
      cases done
      exact absurd success (by decide)
  | «at» i =>
      dsimp only at done
      split at done
      · cases done
        exact absurd success (by decide)
      rename_i inside
      split at done
      · cases done
        exact absurd success (by decide)
      split at done
      · cases done
        exact absurd success (errorCode_neg _)
      obtain ⟨_, accepts, first⟩ :=
        searchElbaf_first elbafSize searched (by omega)
      obtain ⟨idNs, next, formatted⟩ :=
        afterFormat_ok (at_ok found) (deref_ok present) done success
      exact ⟨nvm, i, idNs, next,
        ⟨ns, at_ok found, deref_ok present, not_le.mp inside, accepts,
          fun k below => first k (Nat.zero_le k) below⟩, formatted⟩

end Selecting

/-! ## When the parameters are current -/

/-- The next namespace has the format of the first active one. -/
def SameAsNext (grp : NvmeNsGroup) : Prop :=
  ∀ nsid ∈ grp.actList.head?, formatOf grp nsid = formatOf grp (nsIndex nsid)

/-- What is configured takes part in the choice, or is what the chosen entry
has anyway. -/
def TakesPart (state : TestState) : Prop :=
  ∀ nvm i, Selects state nvm i →
    (state.data.config.isMatchPif = true ∨
      state.data.config.cfgPif = elbafPif (nvm.elbaf i)) ∧
    (state.data.config.isMatchSts = true ∨
      state.data.config.cfgSts = elbafSts (nvm.elbaf i))

/-- A start leaves the parameters current exactly if the next namespace has
the same format. -/
theorem initTestData_current_iff {env : StartEnv} {grp : NvmeNsGroup}
    {data after : TestData} {ret : Int} (wellFormed : WellFormed grp)
    (done : initTestData env grp data = .ok (ret, after))
    (success : 0 ≤ ret) : Current ⟨after, grp⟩ ↔ SameAsNext grp := by
  obtain ⟨nsid, rest, own, ns, nvm, active, found, present, next, entries,
    same, uses⟩ := initTestData_ok done success
  obtain ⟨ownNvm, ownEntries⟩ := Option.isSome_iff_exists.mp present
  obtain ⟨idNs, identified, index⟩ := wellFormed _ _ _ found ownEntries
  have formats : SameAsNext grp ↔
      elbafPif (nvm.elbaf ns.fmtIdx) = elbafPif (ownNvm.elbaf own.fmtIdx) ∧
      elbafSts (nvm.elbaf ns.fmtIdx) = elbafSts (ownNvm.elbaf own.fmtIdx) := by
    simp [SameAsNext, active, formatOf, found, next, entries, ownEntries]
  rw [formats]
  constructor
  · rintro ⟨own', idNs', nvm', found', identified', entries', uses'⟩
    dsimp only at found' uses'
    rw [same, found] at found'
    cases found'
    rw [identified] at identified'
    cases identified'
    rw [ownEntries] at entries'
    cases entries'
    rw [← index] at uses'
    exact ⟨uses.pif.symm.trans uses'.pif, uses.sts.symm.trans uses'.sts⟩
  · rintro ⟨pif, sts⟩
    refine ⟨own, idNs, ownNvm, ?_, identified, ownEntries, ?_⟩
    · dsimp only
      rw [same]
      exact found
    · rw [← index]
      refine ⟨uses.pif.trans pif, uses.sts.trans sts, ?_⟩
      rw [← pif, ← sts]
      exact uses.rts

/-- The controller formats the namespace of a state with the entry that is
asked for, and keeps its entries. -/
def HonorsState (controller : Controller) (state : TestState) : Prop :=
  ∀ ns nvm, state.grp.ns[nsIndex state.data.nsid]? = some ns →
    ns.idNsNvm = some nvm → Honors controller nvm

/-- A selection leaves the parameters current exactly if both of them take
part in the choice or are those of the chosen entry. -/
theorem selectExtLbaFormat_current_iff {controller : Controller}
    {state after : TestState} {ret : Int}
    (honors : HonorsState controller state)
    (done : selectExtLbaFormat controller state = .ok (ret, after))
    (success : 0 ≤ ret) : Current after ↔ TakesPart state := by
  obtain ⟨nvm, i, idNs, next, selects, formatted⟩ :=
    selectExtLbaFormat_ok done success
  obtain ⟨ns, found, present, inside, accepts, first⟩ := selects
  obtain ⟨updated, stored, identified, entries⟩ := formatted.stored
  have honored := honors ns nvm found present
  have entry : next.elbaf (flbasLba idNs.flbas) = nvm.elbaf i := by
    rw [honored.entries _ _ formatted.entries,
      honored.selected _ _ formatted.identified, dw10Lbaf_formatDw10 inside]
  have configured : TakesPart state ↔
      state.data.config.cfgPif = elbafPif (nvm.elbaf i) ∧
      state.data.config.cfgSts = elbafSts (nvm.elbaf i) := by
    constructor
    · intro takes
      obtain ⟨pif, sts⟩ :=
        takes nvm i ⟨ns, found, present, inside, accepts, first⟩
      exact ⟨pif.elim accepts.1 id, sts.elim accepts.2.1 id⟩
    · rintro ⟨pif, sts⟩ nvm' i' ⟨ns', found', present', _, accepts', first'⟩
      rw [found] at found'
      cases found'
      rw [present] at present'
      cases present'
      have same : i = i' := by
        rcases Nat.lt_trichotomy i i' with below | same | above
        · exact absurd accepts (first' i below)
        · exact same
        · exact absurd accepts' (first i' above)
      subst same
      exact ⟨.inr pif, .inr sts⟩
  rw [configured]
  constructor
  · rintro ⟨ns', idNs', nvm', found', identified', entries', uses⟩
    rw [formatted.nsid, stored] at found'
    cases found'
    rw [identified] at identified'
    cases identified'
    rw [entries] at entries'
    cases entries'
    rw [entry] at uses
    exact ⟨formatted.pif.symm.trans uses.pif,
      formatted.sts.symm.trans uses.sts⟩
  · rintro ⟨pif, sts⟩
    refine ⟨updated, idNs, next, ?_, identified, entries, ?_⟩
    · rw [formatted.nsid]
      exact stored
    · rw [entry]
      refine ⟨formatted.pif.trans pif, formatted.sts.trans sts, ?_⟩
      rw [← pif, ← sts]
      exact formatted.rts

/-! ## Runs -/

/-- The state after the test has configured a request. -/
def TestState.configured (state : TestState) (config : FormatConfig) :
    TestState :=
  { state with data := { state.data with config := config } }

/-- The states after a start and a number of selections that succeed; `start`
and `choice` say which of them may be taken. -/
inductive Reachable (start : NvmeNsGroup → Prop)
    (choice : TestState → Prop) : TestState → Prop
  | started (env : StartEnv) {grp : NvmeNsGroup} {data after : TestData}
      {ret : Int} (wellFormed : WellFormed grp) (rule : start grp)
      (done : initTestData env grp data = .ok (ret, after))
      (success : 0 ≤ ret) : Reachable start choice ⟨after, grp⟩
  | selected (controller : Controller) (config : FormatConfig)
      {before after : TestState} {ret : Int}
      (earlier : Reachable start choice before)
      (rule : choice (before.configured config))
      (honors : HonorsState controller (before.configured config))
      (done : selectExtLbaFormat controller (before.configured config) =
        .ok (ret, after))
      (success : 0 ≤ ret) : Reachable start choice after

/-- The parameters are those of the format in use after a start beside a
namespace of the same format and selections in which they take part. -/
theorem parameters_current {state : TestState}
    (reachable : Reachable SameAsNext TakesPart state) : Current state := by
  cases reachable with
  | started env wellFormed rule done success =>
      exact (initTestData_current_iff wellFormed done success).mpr rule
  | selected controller config earlier rule honors done success =>
      exact (selectExtLbaFormat_current_iff honors done success).mpr rule

/-! ## A namespace group -/

/-- The entry with index 1 has a storage tag of eight bits. -/
def twoEntries : NvmeIdNsNvm :=
  ⟨0#64, fun i => if i = 1 then 8#32 else 0#32⟩

/-- A namespace formatted with an entry; that with index 1 has eight bytes of
metadata. -/
def formattedWith (flbas : BitVec 8) : NvmeIdNs :=
  ⟨1000, flbas, 1#8, 0x19#8, 1#8, fun i => ⟨if i = 1 then 8 else 0, 9⟩⟩

/-- The namespaces 1 and 2 with their formats. -/
def twoNamespaces (first second : BitVec 8) : NvmeNsGroup where
  actList := [1, 2]
  ns :=
    [⟨1, flbasLba first, 512, 0, some (formattedWith first), some twoEntries⟩,
      ⟨2, flbasLba second, 512, 0, some (formattedWith second),
        some twoEntries⟩]

theorem twoNamespaces_wellFormed (first second : BitVec 8) :
    WellFormed (twoNamespaces first second) := by
  intro index ns nvm found _
  match index with
  | 0 =>
      cases found
      exact ⟨formattedWith first, rfl, rfl⟩
  | 1 =>
      cases found
      exact ⟨formattedWith second, rfl, rfl⟩
  | _ + 2 => cases found

/-- A controller that carries out the format with entry 1. -/
def formatsSecondEntry : Controller where
  format _ := .ok ()
  identifyNs dw10 :=
    if dw10Lbaf dw10 = 1 then .ok (formattedWith 1#8) else .error 4
  identifyCsNs _ := .ok twoEntries

theorem formatsSecondEntry_honors :
    Honors formatsSecondEntry twoEntries := by
  constructor
  · intro dw10 idNs answer
    dsimp only [formatsSecondEntry] at answer
    split at answer
    · rename_i asked
      cases answer
      rw [asked]
      rfl
    · cases answer
  · intro dw10 next answer
    cases answer
    rfl

/-- The test data after a start, with the storage tag of the next
namespace. -/
def startedWith (sts rts : Nat) : TestData :=
  { TestData.zero with
    nsid := 1
    nsze := 1000
    tags := ⟨512, 0, 0#64, 0#64, 0#64, false, 0, sts, rts, 1⟩
    isSupMetaExtlba := true
    isSupPiType1 := true
    isSupLastBytes := true
    isSupFirstBytes := true }

theorem initTestData_same_format :
    initTestData ⟨0, 0#16, 0#16, 0#64, 0#64⟩ (twoNamespaces 0#8 0#8)
      TestData.zero = .ok (0, startedWith 0 32) := rfl

theorem initTestData_other_format :
    initTestData ⟨0, 0#16, 0#16, 0#64, 0#64⟩ (twoNamespaces 0#8 1#8)
      TestData.zero = .ok (0, startedWith 8 24) := rfl

theorem twoNamespaces_sameAsNext : SameAsNext (twoNamespaces 0#8 0#8) := by
  intro nsid first
  cases first
  rfl

/-- A request for the 16b guard with eight bytes of metadata. -/
def requests (isMatchSts : Bool) (cfgSts : Nat) : TestState :=
  TestState.configured ⟨startedWith 0 32, twoNamespaces 0#8 0#8⟩
    ⟨false, true, isMatchSts, 1, 0, cfgSts, 8, 1⟩

theorem requests_honors (isMatchSts : Bool) (cfgSts : Nat) :
    HonorsState formatsSecondEntry (requests isMatchSts cfgSts) := by
  intro ns nvm found present
  change (twoNamespaces 0#8 0#8).ns[nsIndex 1]? = some ns at found
  rw [show nsIndex 1 = 0 by decide] at found
  cases found
  cases present
  exact formatsSecondEntry_honors

/-- A start beside a namespace of the same format, and a request whose storage
tag takes part. -/
theorem parameters_current_second_entry :
    ∃ state, Reachable SameAsNext TakesPart state ∧ Current state := by
  obtain ⟨after, done⟩ : ∃ after,
      selectExtLbaFormat formatsSecondEntry (requests true 8) =
        .ok (0, after) := ⟨_, rfl⟩
  have reachable : Reachable SameAsNext TakesPart after :=
    .selected formatsSecondEntry _
      (.started _ (twoNamespaces_wellFormed 0#8 0#8) twoNamespaces_sameAsNext
        initTestData_same_format (le_refl 0))
      (fun nvm i _ => ⟨.inl rfl, .inl rfl⟩) (requests_honors true 8) done
      (le_refl 0)
  exact ⟨after, reachable, parameters_current reachable⟩

/-- A start reads the format of namespace 2 for namespace 1, and after a start
beside the same format a request that leaves the storage tag open does not
keep that of the chosen entry. -/
theorem parameters_not_current :
    ¬ (∀ state, Reachable (fun _ => True) (fun _ => True) state →
        Current state) ∧
    ¬ (∀ state, Reachable SameAsNext (fun _ => True) state →
        Current state) := by
  constructor
  · intro always
    have current : Current ⟨startedWith 8 24, twoNamespaces 0#8 1#8⟩ :=
      always _ (.started _ (twoNamespaces_wellFormed 0#8 1#8) trivial
        initTestData_other_format (le_refl 0))
    obtain ⟨ns, idNs, nvm, found, identified, entries, uses⟩ := current
    cases found
    cases identified
    cases entries
    exact absurd uses.sts (by decide)
  · intro always
    obtain ⟨after, done⟩ : ∃ after,
        selectExtLbaFormat formatsSecondEntry (requests false 0) =
          .ok (0, after) := ⟨_, rfl⟩
    have current : Current after :=
      always _ (.selected formatsSecondEntry _
        (.started _ (twoNamespaces_wellFormed 0#8 0#8)
          twoNamespaces_sameAsNext initTestData_same_format (le_refl 0))
        trivial (requests_honors false 0) done (le_refl 0))
    have takes : TakesPart (requests false 0) :=
      (selectExtLbaFormat_current_iff (requests_honors false 0) done
        (le_refl 0)).mp current
    have selects : Selects (requests false 0) twoEntries 1 := by
      refine ⟨_, rfl, rfl, by decide, ⟨fun _ => rfl, ?_, ?_⟩, ?_⟩
      · intro asked
        cases asked
      · exact fun _ => ⟨_, rfl, rfl⟩
      · intro k below accepts
        obtain rfl : k = 0 := by omega
        obtain ⟨_, same, yes⟩ := accepts.2.2 (by decide)
        cases same
        exact absurd yes (by decide)
    rcases (takes twoEntries 1 selects).2 with asked | same
    · cases asked
    · exact absurd same (by decide)

end Dnvme.App.E2eFormat
