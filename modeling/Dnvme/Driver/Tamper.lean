import Dnvme.Driver.Submit

/-!
# Tampering with submitted commands

This module embeds `dnvme_tamper_cmd` and everything below it in `cmd.c`, and
`ut_modify_cmd_prp` of the unit tests, which calls it twice.  A request is the
user's `struct nvme_cmd_tamper` and the words behind it (`data`); the driver
works on a copy and copies bytes back.

A copy of a number of bytes is taken field by field: a field is copied when it
ends within that number.  The layout is the one of a 64-bit kernel.
-/

namespace Dnvme.Driver

/-! ## The request -/

/-- `struct nvme_cmd_tamper` without the data behind it. -/
structure NvmeCmdTamper where
  sqid : Nat
  cid : Nat
  option : Nat
  inqPrpList : Bool
  inqPrpPage : Bool
  inqSglSeg : Bool
  fetPrpList : Bool
  fetPrpPage : Bool
  fetSglSeg : Bool
  mdfPrpList : Bool
  mdfPrpPage : Bool
  mdfSglSeg : Bool
  prpListSize : Nat
  prpPageSize : Nat
  sglSegSize : Nat
  cmd : NvmeCommonCommand
  deriving DecidableEq, Repr

/-- `struct nvme_cmd_tamper tamper = {0}`. -/
def NvmeCmdTamper.zero : NvmeCmdTamper :=
  ⟨0, 0, 0, false, false, false, false, false, false, false, false, false,
    0, 0, 0, .zero⟩

/-- `NVME_TAMPER_OPT_INQUIRY`. -/
def nvmeTamperOptInquiry : Nat := 1

/-- `NVME_TAMPER_OPT_FETCH`. -/
def nvmeTamperOptFetch : Nat := 2

/-- `NVME_TAMPER_OPT_MODIFY`. -/
def nvmeTamperOptModify : Nat := 3

/-- `sizeof(struct nvme_cmd_tamper)`. -/
def sizeofTamper : Nat := 88

/-- `sizeof(struct nvme_cmd_tamper *)`. -/
def sizeofTamperPtr : Nat := 8

/-- The bytes of `tamper` up to `bytes`, and those of `old` behind them. -/
def NvmeCmdTamper.copyBytes (tamper : NvmeCmdTamper) (bytes : Nat)
    (old : NvmeCmdTamper) : NvmeCmdTamper where
  sqid := if 2 ≤ bytes then tamper.sqid else old.sqid
  cid := if 4 ≤ bytes then tamper.cid else old.cid
  option := if 5 ≤ bytes then tamper.option else old.option
  inqPrpList := if 6 ≤ bytes then tamper.inqPrpList else old.inqPrpList
  inqPrpPage := if 6 ≤ bytes then tamper.inqPrpPage else old.inqPrpPage
  inqSglSeg := if 6 ≤ bytes then tamper.inqSglSeg else old.inqSglSeg
  fetPrpList := if 6 ≤ bytes then tamper.fetPrpList else old.fetPrpList
  fetPrpPage := if 6 ≤ bytes then tamper.fetPrpPage else old.fetPrpPage
  fetSglSeg := if 6 ≤ bytes then tamper.fetSglSeg else old.fetSglSeg
  mdfPrpList := if 6 ≤ bytes then tamper.mdfPrpList else old.mdfPrpList
  mdfPrpPage := if 6 ≤ bytes then tamper.mdfPrpPage else old.mdfPrpPage
  mdfSglSeg := if 7 ≤ bytes then tamper.mdfSglSeg else old.mdfSglSeg
  prpListSize := if 12 ≤ bytes then tamper.prpListSize else old.prpListSize
  prpPageSize := if 16 ≤ bytes then tamper.prpPageSize else old.prpPageSize
  sglSegSize := if 20 ≤ bytes then tamper.sglSegSize else old.sglSegSize
  cmd := if sizeofTamper ≤ bytes then tamper.cmd else old.cmd

/-- The user's request and the 8-byte words behind it. -/
structure UserTamper where
  tamper : NvmeCmdTamper
  data : Nat → Nat

/-- The outcomes of the external calls of one request. -/
structure TamperEnv where
  /-- `copy_from_user` of the request. -/
  copyIn : Bool
  /-- `copy_to_user` of the answer. -/
  copyOut : Bool
  /-- `kzalloc` of the request with its data. -/
  alloc : Bool
  /-- `copy_from_user` of the request with its data. -/
  copyAll : Bool
  /-- The words behind the allocated data. -/
  beyond : Nat → Nat

/-! ## Sizes and entries -/

/-- The pages of a command. -/
def NvmeDevice.cmdPrps (ndev : NvmeDevice) (cmd : NvmeCmd) :
    Option NvmePrps :=
  cmd.prps.bind ndev.prpsHeap.lookup

/-- `dnvme_tamper_cmd_get_prp_list_size`. -/
def dnvmeTamperCmdGetPrpListSize (ndev : NvmeDevice) (cmd : NvmeCmd) : Nat :=
  match ndev.cmdPrps cmd with
  | some prps => if prps.isSgl then 0 else u32 (8 * prps.nrEntry)
  | none => 0

/-- `dnvme_tamper_cmd_get_prp_page_size`. -/
def dnvmeTamperCmdGetPrpPageSize : Nat := 0

/-- `dnvme_tamper_cmd_get_sgl_seg_size`. -/
def dnvmeTamperCmdGetSglSegSize (ndev : NvmeDevice) (cmd : NvmeCmd) : Nat :=
  match ndev.cmdPrps cmd with
  | some prps => if prps.isSgl then u32 (nvmeSglDescSize * prps.nrEntry) else 0
  | none => 0

/-- `dnvme_tamper_cmd_fetch_cmd`. -/
def dnvmeTamperCmdFetchCmd (ndev : NvmeDevice) (sq : NvmeSq) (cmd : NvmeCmd)
    (tamper : NvmeCmdTamper) : Outcome NvmeCmdTamper :=
  if slotInside (ndev.sqSpan sq) sq.sqes cmd.idx then
    .ok { tamper with cmd := sq.entries cmd.idx }
  else
    .error .queueMemory

/-- `dnvme_tamper_cmd_modify_cmd`. -/
def dnvmeTamperCmdModifyCmd (ndev : NvmeDevice) (sqid : Nat) (cmd : NvmeCmd)
    (tamper : NvmeCmdTamper) : Outcome NvmeDevice :=
  match ndev.findSq sqid with
  | none => .error .useAfterFree
  | some sq =>
      if slotInside (ndev.sqSpan sq) sq.sqes cmd.idx then
        .ok (ndev.setSq sqid
          { sq with
            entries := Function.update sq.entries cmd.idx tamper.cmd })
      else
        .error .queueMemory

/-! ## List pages -/

/-- The words of an answer with the PRP list of a command. -/
def dnvmeTamperCmdFetchPrpList (prps : NvmePrps) (data : Nat → Nat) :
    Nat → Nat :=
  match prps.prpList with
  | some (.prp entry) => fun word =>
      if word = 0 then prps.nrEntry
      else if word ≤ prps.nrEntry ∧
          word ≤ prps.nrPages * nvmePrpsPerPage then
        entry ((word - 1) / nvmePrpsPerPage) ((word - 1) % nvmePrpsPerPage)
      else data word
  | _ => data

/-- The words of an answer with the SGL segments of a command. -/
def dnvmeTamperCmdFetchSglSeg (prps : NvmePrps) (data : Nat → Nat) :
    Nat → Nat :=
  match prps.prpList with
  | some (.sgl desc) => fun word =>
      if word = 0 then prps.nrEntry
      else if (word - 1) / 2 < prps.nrEntry ∧
          (word - 1) / 2 < prps.nrPages * nvmeSgesPerPage then
        let pointer := NvmeDataPtr.ofSgl
          (desc ((word - 1) / 2 / nvmeSgesPerPage)
            ((word - 1) / 2 % nvmeSgesPerPage))
        if (word - 1) % 2 = 0 then pointer.prp1 else pointer.prp2
      else data word
  | _ => data

/-- `dnvme_tamper_cmd_modify_prp_list`. -/
def dnvmeTamperCmdModifyPrpList (prps : NvmePrps) (data : Nat → Nat) :
    NvmePrps :=
  match prps.prpList with
  | some (.prp entry) =>
      { prps with
        prpList := some (.prp fun page slot =>
          if page < prps.nrPages ∧ slot < nvmePrpsPerPage ∧
              page * nvmePrpsPerPage + slot < prps.nrEntry then
            data (1 + (page * nvmePrpsPerPage + slot))
          else entry page slot) }
  | _ => prps

/--
`dnvme_tamper_cmd_modify_sgl_seg`.  The inner loop tests `i` where `j` is
meant, so everything goes to the first page, and to the memory behind it.
-/
def dnvmeTamperCmdModifySglSeg (prps : NvmePrps) (data : Nat → Nat) :
    NvmePrps :=
  match prps.prpList with
  | some (.sgl desc) =>
      { prps with
        prpList := some (.sgl fun page slot =>
          if page = 0 ∧ 0 < prps.nrPages ∧ slot < prps.nrEntry then
            NvmeDataPtr.sgl ⟨data (1 + 2 * slot), data (2 + 2 * slot)⟩
          else desc page slot) }
  | _ => prps

/-- Change the pages of a command. -/
def NvmeDevice.changePrps (ndev : NvmeDevice) (cmd : NvmeCmd)
    (change : NvmePrps → NvmePrps) : NvmeDevice :=
  match cmd.prps with
  | none => ndev
  | some id =>
      match ndev.prpsHeap.lookup id with
      | none => ndev
      | some prps =>
          { ndev with prpsHeap := ndev.prpsHeap.insert id (change prps) }

/-! ## Requests -/

/-- What a request answers: the return value, the user's memory and the
device. -/
abbrev TamperResult := Outcome (Int × UserTamper × NvmeDevice)

/-- `dnvme_tamper_cmd_inquiry`.  The message about a missing queue reads the
identifier of a command that is `NULL`. -/
def dnvmeTamperCmdInquiry (env : TamperEnv) (ndev : NvmeDevice)
    (tamper : NvmeCmdTamper) (utamper : UserTamper) : TamperResult :=
  match ndev.findSq tamper.sqid with
  | none => .error .nullPointer
  | some sq =>
      match dnvmeFindCmd sq tamper.cid with
      | none => .ok (-Errno.ENOENT, utamper, ndev)
      | some cmd => do
          let tamper ← dnvmeTamperCmdFetchCmd ndev sq cmd tamper
          let answer :=
            { tamper with
              prpListSize :=
                if tamper.inqPrpList then
                  dnvmeTamperCmdGetPrpListSize ndev cmd
                else tamper.prpListSize
              prpPageSize :=
                if tamper.inqPrpPage then dnvmeTamperCmdGetPrpPageSize
                else tamper.prpPageSize
              sglSegSize :=
                if tamper.inqSglSeg then dnvmeTamperCmdGetSglSegSize ndev cmd
                else tamper.sglSegSize }
          if !env.copyOut then
            return (-Errno.EFAULT, utamper, ndev)
          else
            -- sizeof(tamper) is the size of a pointer
            return (0,
              { utamper with
                tamper := answer.copyBytes sizeofTamperPtr utamper.tamper },
              ndev)

/-- `dnvme_tamper_cmd_fetch`; the words of the list are written behind the
`nr_entry` word, one word further than they are allocated. -/
def dnvmeTamperCmdFetch (env : TamperEnv) (ndev : NvmeDevice)
    (tamper : NvmeCmdTamper) (utamper : UserTamper) : TamperResult :=
  match ndev.findSq tamper.sqid with
  | none => .error .nullPointer
  | some sq =>
      match dnvmeFindCmd sq tamper.cid with
      | none => .ok (-Errno.ENOENT, utamper, ndev)
      | some cmd =>
          if tamper.fetPrpList && tamper.fetSglSeg then
            .ok (-Errno.EINVAL, utamper, ndev)
          else if tamper.fetPrpList &&
              tamper.prpListSize ≠ dnvmeTamperCmdGetPrpListSize ndev cmd then
            .ok (-Errno.EINVAL, utamper, ndev)
          else if tamper.fetSglSeg &&
              tamper.sglSegSize ≠ dnvmeTamperCmdGetSglSegSize ndev cmd then
            .ok (-Errno.EINVAL, utamper, ndev)
          else if !env.alloc then .ok (-Errno.ENOMEM, utamper, ndev)
          else do
            let words :=
              (if tamper.fetPrpList then tamper.prpListSize else 0) / 8 +
                (if tamper.fetSglSeg then tamper.sglSegSize else 0) / 8
            let answer ← dnvmeTamperCmdFetchCmd ndev sq cmd tamper
            let prps := (ndev.cmdPrps cmd).getD (.zero .cmdPool)
            let lists :=
              if tamper.fetPrpList && tamper.prpListSize ≠ 0 then
                dnvmeTamperCmdFetchPrpList prps fun _ => 0
              else if tamper.fetSglSeg && tamper.sglSegSize ≠ 0 then
                dnvmeTamperCmdFetchSglSeg prps fun _ => 0
              else fun _ => 0
            if !env.copyOut then
              return (-Errno.EFAULT, utamper, ndev)
            else
              return (0,
                ⟨answer.copyBytes sizeofTamper utamper.tamper,
                  fun word =>
                    if word < words then lists word else utamper.data word⟩,
                ndev)

/-- `dnvme_tamper_cmd_modify`; the size of the data depends on the flag of the
fetch request. -/
def dnvmeTamperCmdModify (env : TamperEnv) (ndev : NvmeDevice)
    (tamper : NvmeCmdTamper) (utamper : UserTamper) : TamperResult :=
  match ndev.findSq tamper.sqid with
  | none => .error .nullPointer
  | some sq =>
      match dnvmeFindCmd sq tamper.cid with
      | none => .ok (-Errno.ENOENT, utamper, ndev)
      | some cmd =>
          if tamper.fetPrpList &&
              tamper.prpListSize ≠ dnvmeTamperCmdGetPrpListSize ndev cmd then
            .ok (-Errno.EINVAL, utamper, ndev)
          else if !env.alloc then .ok (-Errno.ENOMEM, utamper, ndev)
          else if !env.copyAll then .ok (-Errno.EFAULT, utamper, ndev)
          else do
            let words :=
              (if tamper.fetPrpList then tamper.prpListSize else 0) / 8
            let data := fun word =>
              if word < words then utamper.data word else env.beyond word
            let listed :=
              if tamper.mdfPrpList && tamper.prpListSize ≠ 0 then
                ndev.changePrps cmd (dnvmeTamperCmdModifyPrpList · data)
              else ndev
            let segmented :=
              if tamper.mdfSglSeg && tamper.sglSegSize ≠ 0 then
                listed.changePrps cmd (dnvmeTamperCmdModifySglSeg · data)
              else listed
            let written ←
              dnvmeTamperCmdModifyCmd segmented tamper.sqid cmd tamper
            return (0, utamper, written)

/-- `dnvme_tamper_cmd`. -/
def dnvmeTamperCmd (env : TamperEnv) (ndev : NvmeDevice)
    (utamper : UserTamper) : TamperResult :=
  if !env.copyIn then .ok (-Errno.EFAULT, utamper, ndev)
  else
    let tamper := utamper.tamper
    if tamper.option = nvmeTamperOptInquiry then
      dnvmeTamperCmdInquiry env ndev tamper utamper
    else if tamper.option = nvmeTamperOptFetch then
      dnvmeTamperCmdFetch env ndev tamper utamper
    else if tamper.option = nvmeTamperOptModify then
      dnvmeTamperCmdModify env ndev tamper utamper
    else .ok (-Errno.EINVAL, utamper, ndev)

/-- `ut_modify_cmd_prp`, with the outcomes of its two requests. -/
def utModifyCmdPrp (inquiry modify : TamperEnv) (ndev : NvmeDevice)
    (sqid cid prp1 prp2 : Nat) : Outcome (Int × NvmeDevice) := do
  let request :=
    { NvmeCmdTamper.zero with
      sqid := sqid
      cid := cid
      option := nvmeTamperOptInquiry }
  let (ret, answer, inquired) ←
    dnvmeTamperCmd inquiry ndev ⟨request, fun _ => 0⟩
  if ret < 0 then
    return (ret, inquired)
  else
    let changed :=
      { answer.tamper with
        cmd := { answer.tamper.cmd with dptr := ⟨prp1, prp2⟩ }
        option := nvmeTamperOptModify }
    let (ret, _, modified) ←
      dnvmeTamperCmd modify inquired { answer with tamper := changed }
    if ret < 0 then
      return (ret, modified)
    else
      return (0, modified)

end Dnvme.Driver
