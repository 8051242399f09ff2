import Dnvme.Lib.Holdings
import Dnvme.Nvme.NsIdDesc

/-!
# Namespace instances

`init_ns_instance` reads three data structures of a namespace from the device,
each into a page of its own, and lets go of what it has when a later one
cannot be read.

An instance holds the pages that its pointers point to.  Whatever the device
answers, the instance of a namespace that was initialised holds all that was
allocated, and one that was not holds nothing.
-/

namespace Dnvme.Nvme.Namespaces

open Dnvme.Driver
open Dnvme.Nvme
open Dnvme.Nvme.NsIdDesc
open Dnvme.Lib.Results
open Dnvme.Lib.Holdings (pointed pointed_none pointed_some)

/-! ## The device -/

/-- What is allocated for the namespaces, by the place in the source. -/
inductive Object where
  | group
  | list
  | idNs (nsid : Nat)
  | desc (nsid : Nat)
  | csNs (nsid : Nat)
  deriving DecidableEq, Repr

/-- The live objects. -/
abbrev Heap := Multiset Object

/-- `free`. -/
def free (object : Object) (heap : Heap) : Run Heap :=
  Lib.Holdings.free Stop.badFree object heap

/-- `if (pointer) free(pointer)`. -/
def freeSet (pointer : Option Object) (heap : Heap) : Run Heap :=
  Lib.Holdings.freeSet Stop.badFree pointer heap

/-- What the four steps of an identify command return. -/
structure Steps where
  submit : Int
  ring : Int
  reap : Int
  valid : Int

/-- `struct nvme_lbaf`. -/
structure Lbaf where
  ms : Nat
  ds : Nat

/-- `struct nvme_id_ns`, as far as an instance takes over from it. -/
structure IdNs where
  flbas : UInt8
  lbaf : List Lbaf
  formats : lbaf.length = 64

/-- What the functions find: the data of the controller, which allocations
succeed, and what the device answers. -/
structure World where
  nn : Option Nat
  vs : Nat
  memory : Object → Bool
  nsListSteps : Steps
  nsList : List Nat
  idNsSteps : Nat → Steps
  idNs : Nat → IdNs
  descSteps : Nat → Steps
  desc : Nat → List UInt8
  csNsSteps : Nat → UInt8 → Steps
  nsListLength : nsList.length = 1024
  descLength : ∀ nsid, (desc nsid).length = nvmeIdentifyDataSize

/-- An identify command: it is submitted, the doorbell rung, its completion
reaped and checked. -/
def nvmeIdentify (steps : Steps) : Int :=
  if steps.submit < 0 then -Errno.EPERM
  else if steps.ring < 0 then -Errno.EPERM
  else if steps.reap ≠ 1 then -Errno.ETIME
  else if steps.valid < 0 then -Errno.EPERM
  else 0

/-- `nvme_identify_ns_list_active`. -/
def nvmeIdentifyNsListActive (world : World) : Int :=
  nvmeIdentify world.nsListSteps

/-- `nvme_identify_ns_active`. -/
def nvmeIdentifyNsActive (world : World) (nsid : Nat) : Int :=
  nvmeIdentify (world.idNsSteps nsid)

/-- `nvme_identify_ns_desc_list`. -/
def nvmeIdentifyNsDescList (world : World) (nsid : Nat) : Int :=
  nvmeIdentify (world.descSteps nsid)

/-- `nvme_identify_cs_ns`. -/
def nvmeIdentifyCsNs (world : World) (nsid : Nat) (csi : UInt8) : Int :=
  nvmeIdentify (world.csNsSteps nsid csi)

theorem nvmeIdentify_cases (steps : Steps) :
    nvmeIdentify steps = 0 ∨ nvmeIdentify steps < 0 := by
  unfold nvmeIdentify
  split_ifs
  all_goals decide

/-! ## Instances -/

/-- `struct nvme_ns_instance`. -/
structure NsInstance where
  nsid : Nat
  fmtIdx : Nat
  blkSize : Nat
  metaSize : Nat
  idNs : Option Object
  descs : NsIdDescs Object
  idNsNvm : Option Object
  idNsZns : Option Object

/-- An instance as `zalloc` leaves it. -/
def clearInstance : NsInstance :=
  ⟨0, 0, 0, 0, none, ⟨emptyTable, none⟩, none, none⟩

/-- What the functions of an instance leave. -/
structure Init where
  ret : Int
  ns : NsInstance
  heap : Heap

/-- `NVME_NS_FLBAS_LBA`. -/
def nvmeNsFlbasLba (flbas : UInt8) : Nat :=
  (((flbas &&& 0x60) >>> 1) ||| (flbas &&& 0xf)).toNat

/-- `1 << ds`, in 32 bits. -/
def shiftOne (ds : Nat) : Run Nat :=
  if 32 ≤ ds then .error .shiftTooFar else .ok (2 ^ ds)

/-- `NVME_VS`. -/
def nvmeVs (major minor tertiary : Nat) : Nat :=
  major * 2 ^ 16 + minor * 2 ^ 8 + tertiary

/-- `NVME_NIDT_CSI`. -/
def nvmeNidtCsi : Nat := 4

/-- `NVME_CSI_NVM`. -/
def nvmeCsiNvm : UInt8 := 0

/-- `NVME_CSI_ZNS`. -/
def nvmeCsiZns : UInt8 := 2

/-- `init_id_ns`. -/
def initIdNs (world : World) (ns : NsInstance) (heap : Heap) : Run Init :=
  if !world.memory (.idNs ns.nsid) then return ⟨-Errno.ENOMEM, ns, heap⟩
  else
    let heap := Object.idNs ns.nsid ::ₘ heap
    let ret := nvmeIdentifyNsActive world ns.nsid
    if ret < 0 then do
      let heap ← free (.idNs ns.nsid) heap
      return ⟨ret, ns, heap⟩
    else do
      let idNs := world.idNs ns.nsid
      let fmtIdx := nvmeNsFlbasLba idNs.flbas
      let lbaf ← tableAt idNs.lbaf fmtIdx
      let blkSize ← shiftOne lbaf.ds
      if blkSize < 512 then .error .bugOn
      else
        return ⟨0, { ns with
          idNs := some (.idNs ns.nsid)
          fmtIdx := fmtIdx
          blkSize := blkSize
          metaSize := lbaf.ms }, heap⟩

/-- `deinit_id_ns`. -/
def deinitIdNs (ns : NsInstance) (heap : Heap) : Run (NsInstance × Heap) := do
  let heap ← freeSet ns.idNs heap
  return ({ ns with idNs := none }, heap)

/-- `init_ns_id_desc`. -/
def initNsIdDesc (world : World) (ns : NsInstance) (heap : Heap) : Run Init :=
  if !world.memory (.desc ns.nsid) then return ⟨-Errno.ENOMEM, ns, heap⟩
  else
    let heap := Object.desc ns.nsid ::ₘ heap
    let ret := nvmeIdentifyNsDescList world ns.nsid
    if ret < 0 then do
      let heap ← free (.desc ns.nsid) heap
      return ⟨ret, ns, heap⟩
    else do
      let (ret, descs) ← parseNsIdDesc ns.descs (.desc ns.nsid)
        (world.desc ns.nsid) nvmeIdentifyDataSize
      let ns := { ns with descs := descs }
      if ret < 0 then do
        let heap ← free (.desc ns.nsid) heap
        return ⟨ret, ns, heap⟩
      else return ⟨0, ns, heap⟩

/-- `deinit_ns_id_desc`. -/
def deinitNsIdDesc (ns : NsInstance) (heap : Heap) :
    Run (NsInstance × Heap) := do
  let heap ← freeSet ns.descs.nsIdDescRaw heap
  let table :=
    if ns.descs.nsIdDescRaw.isSome then emptyTable else ns.descs.nsIdDesc
  return ({ ns with descs := ⟨table, none⟩ }, heap)

/-- `init_id_cs_ns` with the descriptor of the command set; its identifier
stands behind the four bytes of its header. -/
def initIdCsNsOf (world : World) (ns : NsInstance) (heap : Heap)
    (offset : Nat) : Run Init := do
  let csi ← tableAt (world.desc ns.nsid) (offset + 4)
  if !world.memory (.csNs ns.nsid) then return ⟨-Errno.ENOMEM, ns, heap⟩
  else
    let data := Object.csNs ns.nsid
    let heap := data ::ₘ heap
    let ret := nvmeIdentifyCsNs world ns.nsid csi
    if ret < 0 then do
      let heap ← free data heap
      return ⟨ret, ns, heap⟩
    else if csi = nvmeCsiNvm then
      return ⟨0, { ns with idNsNvm := some data }, heap⟩
    else if csi = nvmeCsiZns then
      return ⟨0, { ns with idNsZns := some data }, heap⟩
    else do
      let heap ← free data heap
      return ⟨ret, ns, heap⟩

/-- `init_id_cs_ns`. -/
def initIdCsNs (world : World) (ns : NsInstance) (heap : Heap) : Run Init :=
  if world.vs < nvmeVs 2 0 0 then return ⟨0, ns, heap⟩
  else do
    let entry ← tableAt ns.descs.nsIdDesc nvmeNidtCsi
    entry.elim (.ok ⟨0, ns, heap⟩) (initIdCsNsOf world ns heap)

/-- `deinit_id_cs_ns`. -/
def deinitIdCsNs (ns : NsInstance) (heap : Heap) :
    Run (NsInstance × Heap) := do
  let heap ← freeSet ns.idNsNvm heap
  let heap ← freeSet ns.idNsZns heap
  return ({ ns with idNsNvm := none, idNsZns := none }, heap)

/-- `init_ns_instance`. -/
def initNsInstance (world : World) (ns : NsInstance) (heap : Heap) :
    Run Init := do
  let id ← initIdNs world ns heap
  if id.ret < 0 then return id
  else do
    let desc ← initNsIdDesc world id.ns id.heap
    if desc.ret < 0 then do
      let (ns, heap) ← deinitIdNs desc.ns desc.heap
      return ⟨desc.ret, ns, heap⟩
    else do
      let cs ← initIdCsNs world desc.ns desc.heap
      if cs.ret < 0 then do
        let (ns, heap) ← deinitNsIdDesc cs.ns cs.heap
        let (ns, heap) ← deinitIdNs ns heap
        return ⟨cs.ret, ns, heap⟩
      else return ⟨0, cs.ns, cs.heap⟩

/-- `deinit_ns_instance`. -/
def deinitNsInstance (ns : NsInstance) (heap : Heap) :
    Run (NsInstance × Heap) := do
  let (ns, heap) ← deinitIdCsNs ns heap
  let (ns, heap) ← deinitNsIdDesc ns heap
  deinitIdNs ns heap

/-- What an instance holds. -/
def held (ns : NsInstance) : Heap :=
  pointed ns.idNsNvm + (pointed ns.idNsZns +
    (pointed ns.descs.nsIdDescRaw + pointed ns.idNs))

/-! ## What is initialised -/

/-- The data of a namespace can be read. -/
structure IdRead (world : World) (nsid : Nat) : Prop where
  memory : world.memory (.idNs nsid) = true
  answers : nvmeIdentifyNsActive world nsid = 0

/-- The format of a namespace. -/
def formatOf (world : World) (nsid : Nat) : Option Lbaf :=
  (world.idNs nsid).lbaf[nvmeNsFlbasLba (world.idNs nsid).flbas]?

/-- The blocks of a namespace have at least 512 bytes, and their size is a
number of 32 bits. -/
def SizeOk (world : World) (nsid : Nat) : Prop :=
  ∃ lbaf, formatOf world nsid = some lbaf ∧ 9 ≤ lbaf.ds ∧ lbaf.ds < 32

/-- The identifiers of a namespace can be read. -/
structure DescRead (world : World) (nsid : Nat) : Prop where
  memory : world.memory (.desc nsid) = true
  answers : nvmeIdentifyNsDescList world nsid = 0
  lists : ∃ descs, Lists (world.desc nsid) descs

/-- The command set whose data is read too. -/
def CommandSet (world : World) (nsid : Nat) (csi : UInt8) : Prop :=
  nvmeVs 2 0 0 ≤ world.vs ∧ ∃ descs, Lists (world.desc nsid) descs ∧
    ∃ desc ∈ descs, desc.nidt = 4 ∧ desc.nid = [csi]

/-- The data of the command set can be read. -/
def CsRead (world : World) (nsid : Nat) : Prop :=
  ∀ csi, CommandSet world nsid csi →
    world.memory (.csNs nsid) = true ∧ nvmeIdentifyCsNs world nsid csi = 0

/-- All data of a namespace can be read. -/
structure Initialises (world : World) (nsid : Nat) : Prop where
  id : IdRead world nsid
  desc : DescRead world nsid
  cs : CsRead world nsid

/-- A pointer to the data of a command set, which is set exactly when it is
that of the namespace. -/
def PointsToCs (world : World) (nsid : Nat) (csi : UInt8)
    (pointer : Option Object) : Prop :=
  (CommandSet world nsid csi ∧ pointer = some (.csNs nsid)) ∨
    (¬CommandSet world nsid csi ∧ pointer = none)

/-- The instance of a namespace that is initialised. -/
structure Initialised (world : World) (nsid : Nat) (ns : NsInstance) :
    Prop where
  number : ns.nsid = nsid
  idNs : ns.idNs = some (.idNs nsid)
  fmtIdx : ns.fmtIdx = nvmeNsFlbasLba (world.idNs nsid).flbas
  sizes : ∃ lbaf, formatOf world nsid = some lbaf ∧
    ns.blkSize = 2 ^ lbaf.ds ∧ ns.metaSize = lbaf.ms
  raw : ns.descs.nsIdDescRaw = some (.desc nsid)
  table : ∃ descs, Lists (world.desc nsid) descs ∧
    PointsTo ns.descs.nsIdDesc descs
  nvm : PointsToCs world nsid nvmeCsiNvm ns.idNsNvm
  zns : PointsToCs world nsid nvmeCsiZns ns.idNsZns

/-! ## The data of a namespace -/

section Steps

variable {world : World} {ns : NsInstance} {heap rest : Heap}

theorem free_cons (object : Object) (rest : Heap) :
    free object (object ::ₘ rest) = .ok rest :=
  Lib.Holdings.free_cons _ object rest

theorem freeSet_pointed (pointer : Option Object) (rest : Heap) :
    freeSet pointer (pointed pointer + rest) = .ok rest :=
  Lib.Holdings.freeSet_pointed _ pointer rest

/-- The index of a format lies inside of its table. -/
theorem nvmeNsFlbasLba_lt (flbas : UInt8) : nvmeNsFlbasLba flbas < 64 := by
  have low : (flbas &&& 0xf).toNat < 2 ^ 6 := by
    rw [UInt8.toNat_and]
    exact Nat.and_lt_two_pow _ (by decide)
  have high : ((flbas &&& 0x60) >>> 1).toNat < 2 ^ 6 := by
    rw [UInt8.toNat_shiftRight, UInt8.toNat_and, Nat.shiftRight_eq_div_pow]
    have part : flbas.toNat &&& (0x60 : UInt8).toNat < 2 ^ 7 :=
      Nat.and_lt_two_pow _ (by decide)
    exact Nat.div_lt_of_lt_mul part
  unfold nvmeNsFlbasLba
  rw [UInt8.toNat_or]
  exact Nat.or_lt_two_pow high low

theorem exists_format (world : World) (nsid : Nat) :
    ∃ lbaf, formatOf world nsid = some lbaf := by
  have inside := nvmeNsFlbasLba_lt (world.idNs nsid).flbas
  rw [← (world.idNs nsid).formats] at inside
  exact ⟨_, List.getElem?_eq_getElem inside⟩

theorem initIdNs_fails (unread : ¬IdRead world ns.nsid) :
    ∃ ret < 0, initIdNs world ns heap = .ok ⟨ret, ns, heap⟩ := by
  unfold initIdNs
  by_cases memory : world.memory (.idNs ns.nsid) = true
  · rcases nvmeIdentify_cases (world.idNsSteps ns.nsid) with zero | fails
    · exact absurd ⟨memory, zero⟩ unread
    · refine ⟨nvmeIdentifyNsActive world ns.nsid, fails, ?_⟩
      rw [memory]
      refine (if_neg Bool.false_ne_true).trans ((if_pos fails).trans ?_)
      rw [free_cons]
      rfl
  · refine ⟨-Errno.ENOMEM, by decide, ?_⟩
    rw [Bool.not_eq_true] at memory
    rw [memory]
    rfl

/-- The instance with the data of its namespace. -/
def withIdNs (world : World) (ns : NsInstance) (lbaf : Lbaf) : NsInstance :=
  { ns with
    idNs := some (.idNs ns.nsid)
    fmtIdx := nvmeNsFlbasLba (world.idNs ns.nsid).flbas
    blkSize := 2 ^ lbaf.ds
    metaSize := lbaf.ms }

/-- With the data the size of the blocks decides. -/
theorem initIdNs_read (read : IdRead world ns.nsid) {lbaf : Lbaf}
    (format : formatOf world ns.nsid = some lbaf) :
    initIdNs world ns heap =
      if 32 ≤ lbaf.ds then .error .shiftTooFar
      else if lbaf.ds < 9 then .error .bugOn
      else .ok ⟨0, withIdNs world ns lbaf, .idNs ns.nsid ::ₘ heap⟩ := by
  have table : tableAt (world.idNs ns.nsid).lbaf
      (nvmeNsFlbasLba (world.idNs ns.nsid).flbas) = .ok lbaf :=
    tableAt_of_some format
  have small : 2 ^ lbaf.ds < 512 ↔ lbaf.ds < 9 :=
    @Nat.pow_lt_pow_iff_right 2 _ 9 (by decide)
  unfold initIdNs
  rw [read.memory]
  refine (if_neg Bool.false_ne_true).trans ?_
  rw [read.answers]
  refine (if_neg (lt_irrefl 0)).trans ?_
  dsimp only
  rw [table]
  change (shiftOne lbaf.ds >>= fun blkSize =>
    if blkSize < 512 then _ else _) = _
  unfold shiftOne
  by_cases far : 32 ≤ lbaf.ds
  · rw [if_pos far, if_pos far]
    rfl
  · rw [if_neg far, if_neg far]
    exact if_congr small rfl rfl

theorem initIdNs_stops (read : IdRead world ns.nsid)
    (size : ¬SizeOk world ns.nsid) :
    ∃ stop, initIdNs world ns heap = .error stop := by
  obtain ⟨lbaf, format⟩ := exists_format world ns.nsid
  rw [initIdNs_read read format]
  by_cases far : 32 ≤ lbaf.ds
  · exact ⟨_, if_pos far⟩
  · rw [if_neg far]
    by_cases small : lbaf.ds < 9
    · exact ⟨_, if_pos small⟩
    · exact absurd ⟨lbaf, format, by omega, by omega⟩ size

theorem initIdNs_reads (read : IdRead world ns.nsid)
    (size : SizeOk world ns.nsid) :
    ∃ lbaf, formatOf world ns.nsid = some lbaf ∧
      initIdNs world ns heap =
        .ok ⟨0, withIdNs world ns lbaf, .idNs ns.nsid ::ₘ heap⟩ := by
  obtain ⟨lbaf, format, large, near⟩ := size
  refine ⟨lbaf, format, ?_⟩
  rw [initIdNs_read read format, if_neg (by omega), if_neg (by omega)]

/-! ## The identifiers -/

theorem initNsIdDesc_fails (unread : ¬DescRead world ns.nsid)
    (empty : ns.descs.nsIdDesc = emptyTable) :
    ∃ ret < 0, ∃ table, initNsIdDesc world ns heap =
      .ok ⟨ret, { ns with descs := ⟨table, ns.descs.nsIdDescRaw⟩ }, heap⟩ := by
  unfold initNsIdDesc
  by_cases memory : world.memory (.desc ns.nsid) = true
  · rw [memory]
    rcases nvmeIdentify_cases (world.descSteps ns.nsid) with zero | fails
    · obtain ⟨ret, table, parsed, parses⟩ := parseNsIdDesc_parses
        (Object.desc ns.nsid) empty (world.descLength ns.nsid)
      rcases parses with ⟨_, descs, rest, lists, different, _⟩ |
        ⟨fails, _, _⟩
      · exact absurd ⟨memory, zero, descs, different, rest, lists⟩ unread
      · subst fails
        refine ⟨-Errno.EINVAL, by decide, table, ?_⟩
        refine (if_neg Bool.false_ne_true).trans ?_
        rw [show nvmeIdentifyNsDescList world ns.nsid = 0 from zero]
        refine (if_neg (lt_irrefl 0)).trans ?_
        rw [parsed]
        change (free (.desc ns.nsid) (.desc ns.nsid ::ₘ heap) >>= _) = _
        rw [free_cons]
        rfl
    · refine ⟨nvmeIdentifyNsDescList world ns.nsid, fails,
        ns.descs.nsIdDesc, ?_⟩
      refine (if_neg Bool.false_ne_true).trans ((if_pos fails).trans ?_)
      rw [free_cons]
      rfl
  · refine ⟨-Errno.ENOMEM, by decide, ns.descs.nsIdDesc, ?_⟩
    rw [Bool.not_eq_true] at memory
    rw [memory]
    rfl

theorem initNsIdDesc_reads (read : DescRead world ns.nsid)
    (empty : ns.descs.nsIdDesc = emptyTable) :
    ∃ descs table, Lists (world.desc ns.nsid) descs ∧ PointsTo table descs ∧
      initNsIdDesc world ns heap =
        .ok ⟨0, { ns with descs := ⟨table, some (.desc ns.nsid)⟩ },
          .desc ns.nsid ::ₘ heap⟩ := by
  obtain ⟨ret, table, parsed, parses⟩ := parseNsIdDesc_parses
    (Object.desc ns.nsid) empty (world.descLength ns.nsid)
  rcases parses with ⟨rfl, descs, rest, lists, different, points⟩ |
    ⟨_, _, never⟩
  · refine ⟨descs, table, ⟨different, rest, lists⟩, points, ?_⟩
    unfold initNsIdDesc
    rw [read.memory]
    refine (if_neg Bool.false_ne_true).trans ?_
    rw [read.answers]
    refine (if_neg (lt_irrefl 0)).trans ?_
    rw [parsed]
    rfl
  · obtain ⟨descs, different, rest, lists⟩ := read.lists
    exact absurd different (never descs rest lists)

end Steps

/-! ## The command set -/

section CommandSets

variable {world : World} {ns : NsInstance} {heap : Heap} {nsid : Nat}
  {descs : List Descriptor} {csi other : UInt8}

/-- A namespace has one command set. -/
theorem CommandSet.unique (one : CommandSet world nsid csi)
    (two : CommandSet world nsid other) : csi = other := by
  obtain ⟨_, descs, lists, desc, member, type, nid⟩ := one
  obtain ⟨_, descs', lists', desc', member', type', nid'⟩ := two
  cases lists.unique lists'
  have same : desc = desc' := List.inj_on_of_nodup_map lists.1 member member'
    (type.trans type'.symm)
  rw [same, nid'] at nid
  exact (List.cons.inj nid).1.symm

/-- The identifier of a command set is one byte. -/
theorem exists_csi {desc : Descriptor} (type : desc.nidt = 4) :
    ∃ csi, desc.nid = [csi] := by
  have known := desc.known
  rw [type] at known
  exact List.length_eq_one_iff.mp (Option.some.inj known).symm

theorem initIdCsNs_skips (lists : Lists (world.desc ns.nsid) descs)
    (points : PointsTo ns.descs.nsIdDesc descs)
    (none_ : ∀ csi, ¬CommandSet world ns.nsid csi) :
    initIdCsNs world ns heap = .ok ⟨0, ns, heap⟩ := by
  unfold initIdCsNs
  by_cases old : world.vs < nvmeVs 2 0 0
  · exact if_pos old
  · have inside : nvmeNidtCsi < ns.descs.nsIdDesc.length := by
      rw [points.length]
      decide
    have entry := List.getElem?_eq_getElem inside
    cases pointer : ns.descs.nsIdDesc[nvmeNidtCsi] with
    | none =>
        rw [pointer] at entry
        rw [if_neg old, tableAt_of_some entry]
        rfl
    | some offset =>
        rw [pointer] at entry
        obtain ⟨desc, member, type⟩ := points.mem entry
        have type : desc.nidt = 4 := UInt8.toNat_inj.mp type
        obtain ⟨csi, nid⟩ := exists_csi type
        exact absurd ⟨Nat.le_of_not_lt old, descs, lists, desc, member, type,
          nid⟩ (none_ csi)

/-- The descriptor of the command set is found, and its identifier read. -/
theorem initIdCsNs_of (lists : Lists (world.desc ns.nsid) descs)
    (points : PointsTo ns.descs.nsIdDesc descs)
    (set_ : CommandSet world ns.nsid csi) :
    ∃ offset, initIdCsNs world ns heap = initIdCsNsOf world ns heap offset ∧
      tableAt (world.desc ns.nsid) (offset + 4) = .ok csi := by
  obtain ⟨recent, others, lists', desc, member, type, nid⟩ := set_
  cases lists.unique lists'
  obtain ⟨before, after, parts⟩ := List.append_of_mem member
  have entry := (points.entry 4 (stream before).length).mpr
    ⟨before, desc, after, parts, congrArg UInt8.toNat type, rfl⟩
  refine ⟨(stream before).length, ?_, tableAt_of_some ?_⟩
  · unfold initIdCsNs
    rw [if_neg (Nat.not_lt.mpr recent)]
    change (tableAt ns.descs.nsIdDesc 4 >>= _) = _
    rw [tableAt_of_some entry]
    rfl
  · obtain ⟨_, rest, bytes⟩ := lists
    have split : stream descs = stream before ++ stream (desc :: after) := by
      rw [parts]
      exact List.flatMap_append
    rw [bytes, split, stream_cons, List.append_assoc, List.append_assoc,
      List.getElem?_append_right (Nat.le_add_right _ _),
      Nat.add_sub_cancel_left]
    unfold Descriptor.bytes
    rw [nid]
    rfl

theorem initIdCsNs_fails (lists : Lists (world.desc ns.nsid) descs)
    (points : PointsTo ns.descs.nsIdDesc descs)
    (unread : ¬CsRead world ns.nsid) :
    ∃ ret < 0, initIdCsNs world ns heap = .ok ⟨ret, ns, heap⟩ := by
  obtain ⟨csi, unread⟩ := not_forall.mp unread
  obtain ⟨set_, fails⟩ := Classical.not_imp.mp unread
  obtain ⟨offset, finds, reads⟩ := @initIdCsNs_of world ns heap descs csi
    lists points set_
  rw [finds]
  unfold initIdCsNsOf
  rw [reads]
  dsimp only [bind, Except.bind]
  by_cases memory : world.memory (.csNs ns.nsid) = true
  · rcases nvmeIdentify_cases (world.csNsSteps ns.nsid csi) with zero | below
    · exact absurd ⟨memory, zero⟩ fails
    · refine ⟨nvmeIdentifyCsNs world ns.nsid csi, below, ?_⟩
      rw [memory]
      refine (if_neg Bool.false_ne_true).trans ?_
      refine (if_pos below).trans ?_
      rw [free_cons]
      rfl
  · refine ⟨-Errno.ENOMEM, by decide, ?_⟩
    rw [Bool.not_eq_true] at memory
    rw [memory]
    rfl

/-- What is read for a command set is kept for the two that are known. -/
theorem initIdCsNsOf_read {offset : Nat}
    (reads : tableAt (world.desc ns.nsid) (offset + 4) = .ok csi)
    (memory : world.memory (.csNs ns.nsid) = true)
    (answers : nvmeIdentifyCsNs world ns.nsid csi = 0) :
    initIdCsNsOf world ns heap offset =
      if csi = nvmeCsiNvm then
        .ok ⟨0, { ns with idNsNvm := some (.csNs ns.nsid) },
          .csNs ns.nsid ::ₘ heap⟩
      else if csi = nvmeCsiZns then
        .ok ⟨0, { ns with idNsZns := some (.csNs ns.nsid) },
          .csNs ns.nsid ::ₘ heap⟩
      else .ok ⟨0, ns, heap⟩ := by
  unfold initIdCsNsOf
  rw [reads]
  dsimp only [bind, Except.bind]
  rw [memory, answers, free_cons]
  rfl

theorem initIdCsNs_reads (lists : Lists (world.desc ns.nsid) descs)
    (points : PointsTo ns.descs.nsIdDesc descs)
    (nvmClear : ns.idNsNvm = none) (znsClear : ns.idNsZns = none)
    (read : CsRead world ns.nsid) :
    ∃ nvm zns, initIdCsNs world ns heap =
        .ok ⟨0, { ns with idNsNvm := nvm, idNsZns := zns },
          pointed nvm + (pointed zns + heap)⟩ ∧
      PointsToCs world ns.nsid nvmeCsiNvm nvm ∧
      PointsToCs world ns.nsid nvmeCsiZns zns := by
  have same : { ns with idNsNvm := none, idNsZns := none } = ns := by
    cases ns
    cases nvmClear
    cases znsClear
    rfl
  by_cases some_ : ∃ csi, CommandSet world ns.nsid csi
  · obtain ⟨csi, set_⟩ := some_
    obtain ⟨memory, answers⟩ := read csi set_
    obtain ⟨offset, finds, reads⟩ := @initIdCsNs_of world ns heap descs csi
      lists points set_
    have other {known : UInt8} (differs : csi ≠ known) :
        PointsToCs world ns.nsid known none :=
      .inr ⟨fun also => differs (set_.unique also), rfl⟩
    rw [finds, initIdCsNsOf_read reads memory answers]
    by_cases isNvm : csi = nvmeCsiNvm
    · refine ⟨some (.csNs ns.nsid), none, ?_, .inl ⟨isNvm ▸ set_, rfl⟩,
        other (isNvm ▸ by decide)⟩
      rw [if_pos isNvm, znsClear, pointed_none, pointed_some, zero_add,
        Multiset.singleton_add]
    · rw [if_neg isNvm]
      by_cases isZns : csi = nvmeCsiZns
      · refine ⟨none, some (.csNs ns.nsid), ?_, other isNvm,
          .inl ⟨isZns ▸ set_, rfl⟩⟩
        rw [if_pos isZns, nvmClear, pointed_none, pointed_some, zero_add,
          Multiset.singleton_add]
      · refine ⟨none, none, ?_, other isNvm, other isZns⟩
        rw [if_neg isZns, same, pointed_none, zero_add, zero_add]
  · have none_ := not_exists.mp some_
    refine ⟨none, none, ?_, .inr ⟨none_ _, rfl⟩, .inr ⟨none_ _, rfl⟩⟩
    rw [same, initIdCsNs_skips lists points none_, pointed_none, zero_add,
      zero_add]

end CommandSets

/-! ## The instance -/

section Instances

variable {world : World} {ns : NsInstance} {rest : Heap} {nsid : Nat}

theorem deinitIdNs_frees (ns : NsInstance) (rest : Heap) :
    deinitIdNs ns (pointed ns.idNs + rest) =
      .ok ({ ns with idNs := none }, rest) := by
  unfold deinitIdNs
  rw [freeSet_pointed]
  rfl

theorem deinitNsIdDesc_frees (ns : NsInstance) (rest : Heap) :
    ∃ table, deinitNsIdDesc ns (pointed ns.descs.nsIdDescRaw + rest) =
      .ok ({ ns with descs := ⟨table, none⟩ }, rest) := by
  unfold deinitNsIdDesc
  rw [freeSet_pointed]
  exact ⟨_, rfl⟩

theorem deinitIdCsNs_frees (ns : NsInstance) (rest : Heap) :
    deinitIdCsNs ns (pointed ns.idNsNvm + (pointed ns.idNsZns + rest)) =
      .ok ({ ns with idNsNvm := none, idNsZns := none }, rest) := by
  unfold deinitIdCsNs
  rw [freeSet_pointed]
  dsimp only [bind, Except.bind]
  rw [freeSet_pointed]
  rfl

/-- An instance lets go of all it holds. -/
theorem deinitNsInstance_frees (ns : NsInstance) (rest : Heap) :
    ∃ after, deinitNsInstance ns (held ns + rest) = .ok (after, rest) ∧
      held after = 0 := by
  have parts : held ns + rest = pointed ns.idNsNvm + (pointed ns.idNsZns +
      (pointed ns.descs.nsIdDescRaw + (pointed ns.idNs + rest))) := by
    unfold held
    simp only [add_assoc]
  obtain ⟨table, clears⟩ := deinitNsIdDesc_frees
    { ns with idNsNvm := none, idNsZns := none } (pointed ns.idNs + rest)
  refine ⟨⟨ns.nsid, ns.fmtIdx, ns.blkSize, ns.metaSize, none, ⟨table, none⟩,
    none, none⟩, ?_, rfl⟩
  unfold deinitNsInstance
  rw [parts, deinitIdCsNs_frees]
  change (deinitNsIdDesc { ns with idNsNvm := none, idNsZns := none }
    (pointed ns.descs.nsIdDescRaw + (pointed ns.idNs + rest)) >>= _) = _
  rw [clears]
  exact deinitIdNs_frees { ns with
    descs := ⟨table, none⟩, idNsNvm := none, idNsZns := none } rest

/-- The instance of a namespace before anything is read. -/
def blankInstance (nsid : Nat) : NsInstance :=
  { clearInstance with nsid := nsid }

/-- Blocks of another size stop the program. -/
theorem initNsInstance_stops (read : IdRead world nsid)
    (size : ¬SizeOk world nsid) :
    ∃ stop, initNsInstance world (blankInstance nsid) rest = .error stop := by
  obtain ⟨stop, stops⟩ := @initIdNs_stops world (blankInstance nsid) rest read
    size
  refine ⟨stop, ?_⟩
  unfold initNsInstance
  rw [stops]
  rfl

/-- An instance is initialised with all that it holds, or not and holds
nothing. -/
inductive Ends (world : World) (nsid : Nat) : Int → NsInstance → Prop where
  | ready {after : NsInstance} (all : Initialises world nsid)
      (initialised : Initialised world nsid after) : Ends world nsid 0 after
  | failed {ret : Int} {after : NsInstance} (some_ : ¬Initialises world nsid)
      (negative : ret < 0) (clear : held after = 0) :
      Ends world nsid ret after

/-- What `init_ns_instance` does behind the data of the namespace. -/
theorem initNsInstance_read {id : Init} {heap : Heap}
    (reads : initIdNs world (blankInstance nsid) heap = .ok id)
    (zero : id.ret = 0) {desc : Init}
    (next : initNsIdDesc world id.ns id.heap = .ok desc) :
    initNsInstance world (blankInstance nsid) heap =
      if desc.ret < 0 then do
        let (ns, heap) ← deinitIdNs desc.ns desc.heap
        return ⟨desc.ret, ns, heap⟩
      else do
        let cs ← initIdCsNs world desc.ns desc.heap
        if cs.ret < 0 then do
          let (ns, heap) ← deinitNsIdDesc cs.ns cs.heap
          let (ns, heap) ← deinitIdNs ns heap
          return ⟨cs.ret, ns, heap⟩
        else return ⟨0, cs.ns, cs.heap⟩ := by
  unfold initNsInstance
  rw [reads]
  dsimp only [bind, Except.bind]
  rw [zero, if_neg (lt_irrefl 0), next]

/-- The instance with the data of its namespace and its identifiers. -/
def withDescs (world : World) (nsid : Nat) (lbaf : Lbaf) (table : DescTable)
    (raw : Option Object) : NsInstance :=
  { withIdNs world (blankInstance nsid) lbaf with descs := ⟨table, raw⟩ }

theorem deinitIdNs_withDescs (world : World) (nsid : Nat) (lbaf : Lbaf)
    (table : DescTable) (rest : Heap) :
    ∃ after, deinitIdNs (withDescs world nsid lbaf table none)
        (.idNs nsid ::ₘ rest) = .ok (after, rest) ∧ held after = 0 := by
  refine ⟨{ withDescs world nsid lbaf table none with idNs := none }, ?_,
    rfl⟩
  rw [← deinitIdNs_frees, ← Multiset.singleton_add]
  rfl

/-- The identifiers cannot be read: the data is let go. -/
theorem initNsInstance_desc_fails (id : IdRead world nsid)
    (size : SizeOk world nsid) (desc : ¬DescRead world nsid) :
    ∃ ret < 0, ∃ after, initNsInstance world (blankInstance nsid) rest =
      .ok ⟨ret, after, rest⟩ ∧ held after = 0 := by
  obtain ⟨lbaf, _, reads⟩ := @initIdNs_reads world (blankInstance nsid) rest
    id size
  obtain ⟨ret, negative, table, fails⟩ := @initNsIdDesc_fails world
    (withIdNs world (blankInstance nsid) lbaf) (.idNs nsid ::ₘ rest) desc rfl
  obtain ⟨after, frees, holds⟩ := deinitIdNs_withDescs world nsid lbaf table
    rest
  refine ⟨ret, negative, after, ?_, holds⟩
  rw [initNsInstance_read reads rfl fails]
  refine (if_pos negative).trans ?_
  change (deinitIdNs (withDescs world nsid lbaf table none)
    (.idNs nsid ::ₘ rest) >>= _) = _
  rw [frees]
  rfl

section Described

variable {lbaf : Lbaf} {table : DescTable} {descs : List Descriptor}

/-- The command set cannot be read: data and identifiers are let go. -/
theorem initNsInstance_cs_fails
    (reads : initIdNs world (blankInstance nsid) rest =
      .ok ⟨0, withIdNs world (blankInstance nsid) lbaf, .idNs nsid ::ₘ rest⟩)
    (next : initNsIdDesc world (withIdNs world (blankInstance nsid) lbaf)
        (.idNs nsid ::ₘ rest) =
      .ok ⟨0, withDescs world nsid lbaf table (some (.desc nsid)),
        .desc nsid ::ₘ .idNs nsid ::ₘ rest⟩)
    (lists : Lists (world.desc nsid) descs) (points : PointsTo table descs)
    (unread : ¬CsRead world nsid) :
    ∃ ret < 0, ∃ after, initNsInstance world (blankInstance nsid) rest =
      .ok ⟨ret, after, rest⟩ ∧ held after = 0 := by
  obtain ⟨ret, negative, fails⟩ := @initIdCsNs_fails world
    (withDescs world nsid lbaf table (some (.desc nsid)))
    (.desc nsid ::ₘ .idNs nsid ::ₘ rest) descs lists points unread
  obtain ⟨left, clears⟩ := deinitNsIdDesc_frees
    (withDescs world nsid lbaf table (some (.desc nsid)))
    (.idNs nsid ::ₘ rest)
  change deinitNsIdDesc _ ({.desc nsid} + _) =
    .ok (withDescs world nsid lbaf left none, _) at clears
  rw [Multiset.singleton_add] at clears
  obtain ⟨after, frees, holds⟩ := deinitIdNs_withDescs world nsid lbaf left
    rest
  refine ⟨ret, negative, after, ?_, holds⟩
  rw [initNsInstance_read reads rfl next]
  refine (if_neg (lt_irrefl 0)).trans ?_
  dsimp only [bind, Except.bind]
  rw [fails]
  refine (if_pos negative).trans ?_
  dsimp only
  rw [clears]
  dsimp only
  rw [frees]
  rfl

theorem initNsInstance_cs_reads
    (reads : initIdNs world (blankInstance nsid) rest =
      .ok ⟨0, withIdNs world (blankInstance nsid) lbaf, .idNs nsid ::ₘ rest⟩)
    (next : initNsIdDesc world (withIdNs world (blankInstance nsid) lbaf)
        (.idNs nsid ::ₘ rest) =
      .ok ⟨0, withDescs world nsid lbaf table (some (.desc nsid)),
        .desc nsid ::ₘ .idNs nsid ::ₘ rest⟩)
    (format : formatOf world nsid = some lbaf)
    (lists : Lists (world.desc nsid) descs) (points : PointsTo table descs)
    (read : CsRead world nsid) :
    ∃ after, initNsInstance world (blankInstance nsid) rest =
        .ok ⟨0, after, held after + rest⟩ ∧ Initialised world nsid after := by
  obtain ⟨nvm, zns, last, nvmPoints, znsPoints⟩ := @initIdCsNs_reads world
    (withDescs world nsid lbaf table (some (.desc nsid)))
    (.desc nsid ::ₘ .idNs nsid ::ₘ rest) descs lists points rfl rfl read
  refine ⟨{ withDescs world nsid lbaf table (some (.desc nsid)) with
    idNsNvm := nvm, idNsZns := zns }, ?_, ⟨rfl, rfl, rfl,
      ⟨lbaf, format, rfl, rfl⟩, rfl, ⟨descs, lists, points⟩, nvmPoints,
      znsPoints⟩⟩
  have holds : held { withDescs world nsid lbaf table (some (.desc nsid)) with
      idNsNvm := nvm, idNsZns := zns } + rest =
      pointed nvm + (pointed zns + (.desc nsid ::ₘ .idNs nsid ::ₘ rest)) := by
    change pointed nvm + (pointed zns + ({.desc nsid} + {.idNs nsid})) + rest =
      _
    simp only [add_assoc, Multiset.singleton_add, Multiset.cons_add]
  rw [holds, initNsInstance_read reads rfl next]
  refine (if_neg (lt_irrefl 0)).trans ?_
  dsimp only [bind, Except.bind]
  rw [last]
  exact if_neg (lt_irrefl 0)

end Described

/-- Every initialisation ends in one of the two ways, unless it is stopped. -/
theorem initNsInstance_ends
    (size : IdRead world nsid → SizeOk world nsid) (rest : Heap) :
    ∃ ret after, initNsInstance world (blankInstance nsid) rest =
        .ok ⟨ret, after, held after + rest⟩ ∧
      Ends world nsid ret after := by
  have clear {ret : Int} {after : NsInstance} (some_ : ¬Initialises world nsid)
      (negative : ret < 0) (holds : held after = 0)
      (done : initNsInstance world (blankInstance nsid) rest =
        .ok ⟨ret, after, rest⟩) :
      ∃ ret after, initNsInstance world (blankInstance nsid) rest =
          .ok ⟨ret, after, held after + rest⟩ ∧
        Ends world nsid ret after := by
    refine ⟨ret, after, ?_, .failed some_ negative holds⟩
    rw [holds, zero_add]
    exact done
  by_cases id : IdRead world nsid
  · by_cases desc : DescRead world nsid
    · obtain ⟨lbaf, format, reads⟩ := @initIdNs_reads world
        (blankInstance nsid) rest id (size id)
      obtain ⟨descs, table, lists, points, next⟩ := @initNsIdDesc_reads
        world (withIdNs world (blankInstance nsid) lbaf)
        (.idNs nsid ::ₘ rest) desc rfl
      by_cases cs : CsRead world nsid
      · obtain ⟨after, done, initialised⟩ := initNsInstance_cs_reads reads
          next format lists points cs
        exact ⟨0, after, done, .ready ⟨id, desc, cs⟩ initialised⟩
      · obtain ⟨ret, negative, after, done, holds⟩ := initNsInstance_cs_fails
          reads next lists points cs
        exact clear (fun all => cs all.cs) negative holds done
    · obtain ⟨ret, negative, after, done, holds⟩ :=
        @initNsInstance_desc_fails world rest nsid id (size id) desc
      exact clear (fun all => desc all.desc) negative holds done
  · obtain ⟨ret, negative, fails⟩ := @initIdNs_fails world
      (blankInstance nsid) rest id
    refine clear (fun all => id all.id) negative
      (show held (blankInstance nsid) = 0 from rfl) ?_
    unfold initNsInstance
    rw [fails]
    exact if_pos negative

end Instances

end Dnvme.Nvme.Namespaces
