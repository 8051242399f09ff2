import Dnvme.Nvme.IoqInfo
import Dnvme.Nvme.NsGroup

/-!
# The handle of a device

`nvme_init` opens a device, brings its controller up twice and builds what the
library keeps of it; `nvme_deinit` takes all of it down.  The objects that are
taken on the way are kept apart from the pointers to them, so that a free of
what is not held stops the program.
-/

namespace Dnvme.Nvme.DeviceHandle

open Dnvme.Driver
open Dnvme.Nvme
open Dnvme.Nvme.IoqInfo (IoqTables Numbers nvmeAllocIosqInfo nvmeAllocIocqInfo)
open Dnvme.Nvme.Namespaces (World Heap NsGroup NsInstance Steps
  deinitNsInstance initNsGroup nvmeIdentify)
open Dnvme.Lib.Holdings (pointed)

/-! ## What is held -/

/-- What the library takes for a handle, apart from its namespaces. -/
inductive Resource where
  | ndev
  | fd
  | socket
  | ctrl
  | idCtrl
  | pdev
  | prop
  | idCtrlCsc
  | idCtrlNvm
  | idCtrlZns
  | iosqs
  | iocqs
  deriving DecidableEq, Repr

/-- The resources that are held. -/
abbrev Held := Multiset Resource

/-- `free`, or `close` of a descriptor. -/
def free (resource : Resource) (held : Held) : Run Held :=
  Lib.Holdings.free Stop.badFree resource held

/-- `free` of a pointer that may be `NULL`. -/
def freeSet (pointer : Option Resource) (held : Held) : Run Held :=
  Lib.Holdings.freeSet Stop.badFree pointer held

theorem free_cons (resource : Resource) (rest : Held) :
    free resource (resource ::ₘ rest) = .ok rest :=
  Lib.Holdings.free_cons _ resource rest

theorem freeSet_pointed (pointer : Option Resource) (rest : Held) :
    freeSet pointer (pointed pointer + rest) = .ok rest :=
  Lib.Holdings.freeSet_pointed _ pointer rest

theorem freeSet_cons (resource : Resource) (rest : Held) :
    freeSet (some resource) (resource ::ₘ rest) = .ok rest :=
  free_cons resource rest

/-- An access through a pointer; `NULL` points outside of everything. -/
def deref {α : Type} (pointer : Option α) : Run α :=
  pointer.elim (.error .outOfBounds) .ok

/-! ## Data -/

/-- `struct nvme_ctrl_instance`. -/
structure NvmeCtrlInstance where
  nrSq : Nat
  nrCq : Nat
  idCtrl : Option Resource
  prop : Option Resource
  idCtrlNvm : Option Resource
  idCtrlZns : Option Resource
  idCtrlCsc : Option Resource

/-- `struct pci_dev_instance`, as far as the initialisation reads it. -/
structure PciDevInstance where
  msixCapVectors : Nat

/-- `struct nvme_dev_info`; the pointers to the tables are kept beside the
tables. -/
structure NvmeDevInfo where
  fd : Option Resource
  sockFd : Option Resource
  tables : IoqTables
  iosqs : Option Resource
  iocqs : Option Resource
  ioSqes : Nat
  ioCqes : Nat
  pdev : Option PciDevInstance
  nsGrp : Option NsGroup
  ctrl : Option NvmeCtrlInstance
  irqType : NvmeIrqType
  nrIrq : Nat

/-- A controller as `zalloc` leaves it. -/
def zeroCtrl : NvmeCtrlInstance :=
  ⟨0, 0, none, none, none, none, none⟩

/-- A handle as `zalloc` leaves it. -/
def zeroDevInfo : NvmeDevInfo :=
  ⟨none, none, ⟨[], []⟩, none, none, 0, 0, none, none, none, .msiSingle, 0⟩

/-- What the calls return that bring the controller up. -/
structure BringUp where
  disable : Int
  createAqPair : Int
  setIrq : Int
  enable : Int

/-- What the functions find: which allocations succeed, what the calls to the
driver return, and what they read from the device. -/
structure Env where
  memory : Resource → Bool
  openDev : Int
  first : BringUp
  second : BringUp
  getDevInfo : Int
  gnlConnect : Int
  numQueues : Steps
  numQueuesResult : Nat
  identifyCtrl : Int
  pciBdf : Int
  pciReads : List Int
  linkStatus : Int
  msixMc : Nat
  readCap : Int
  readVs : Int
  readCc : Int
  readCcAgain : Int
  cap : Nat
  cc : Nat
  cscList : Int
  iocsProfile : Steps
  iocsResult : Nat
  vector : List Nat
  vectorLength : vector.length = 512
  identifyCs : UInt8 → Int
  sqNumbers : Numbers
  cqNumbers : Numbers
  namespaces : World

variable (env : Env)

/-! ## The controller -/

/-- `request_io_queue_num`: the steps of a command, of which the result has
the numbers of queues. -/
def requestIoQueueNum (ctrl : NvmeCtrlInstance) : Int × NvmeCtrlInstance :=
  let ret := nvmeIdentify env.numQueues
  if ret < 0 then (ret, ctrl)
  else
    (0, { ctrl with
      nrSq := u16 ((env.numQueuesResult &&& 0xffff) + 1)
      nrCq := u16 ((env.numQueuesResult >>> 16) + 1) })

/-- `init_identify_ctrl_data`. -/
def initIdentifyCtrlData (ctrl : NvmeCtrlInstance) (held : Held) :
    Run (Int × NvmeCtrlInstance × Held) :=
  if !env.memory .idCtrl then return (-Errno.ENOMEM, ctrl, held)
  else if env.identifyCtrl < 0 then do
    let held ← free .idCtrl (.idCtrl ::ₘ held)
    return (-Errno.EPERM, ctrl, held)
  else return (0, { ctrl with idCtrl := some .idCtrl }, .idCtrl ::ₘ held)

/-- `deinit_identify_ctrl_data`. -/
def deinitIdentifyCtrlData (ctrl : NvmeCtrlInstance) (held : Held) :
    Run (NvmeCtrlInstance × Held) := do
  let held ← freeSet ctrl.idCtrl held
  return ({ ctrl with idCtrl := none }, held)

/-- `init_ctrl_property`. -/
def initCtrlProperty (ctrl : NvmeCtrlInstance) (held : Held) :
    Run (Int × NvmeCtrlInstance × Held) :=
  if !env.memory .prop then return (-Errno.ENOMEM, ctrl, held)
  else if env.readCap < 0 ∨ env.readVs < 0 ∨ env.readCc < 0 then do
    let held ← free .prop (.prop ::ₘ held)
    return (-Errno.EPERM, ctrl, held)
  else return (0, { ctrl with prop := some .prop }, .prop ::ₘ held)

/-- `deinit_ctrl_property`. -/
def deinitCtrlProperty (ctrl : NvmeCtrlInstance) (held : Held) :
    Run (NvmeCtrlInstance × Held) := do
  let held ← freeSet ctrl.prop held
  return ({ ctrl with prop := none }, held)

/-- `NVME_CAP_CSS`. -/
def nvmeCapCss (cap : Nat) : Nat :=
  (cap >>> 37) &&& 0xff

/-- `NVME_CC_TO_CSS`. -/
def nvmeCcToCss (cc : Nat) : Nat :=
  (cc >>> 4) &&& 0x7

/-- `NVME_CAP_CSS_CSI`. -/
def nvmeCapCssCsi : Nat := 2 ^ 6

/-- `NVME_CC_CSS_CSI`. -/
def nvmeCcCssCsi : Nat := 6

/-- `nvme_get_feat_iocs_profile`. -/
def nvmeGetFeatIocsProfile : Int :=
  let ret := nvmeIdentify env.iocsProfile
  if ret < 0 then ret else ((env.iocsResult &&& 0x1ff : Nat) : Int)

/-- `deinit_id_cs_ctrl`. -/
def deinitIdCsCtrl (ctrl : NvmeCtrlInstance) (held : Held) :
    Run (NvmeCtrlInstance × Held) := do
  let held ← freeSet ctrl.idCtrlZns held
  let held ← freeSet ctrl.idCtrlNvm held
  let held ← freeSet ctrl.idCtrlCsc held
  return ({ ctrl with
    idCtrlNvm := none
    idCtrlZns := none
    idCtrlCsc := none }, held)

/-- `out` of `init_id_cs_ctrl`, which does the same. -/
def outIdCsCtrl (ret : Int) (ctrl : NvmeCtrlInstance) (held : Held) :
    Run (Int × NvmeCtrlInstance × Held) := do
  let (ctrl, held) ← deinitIdCsCtrl ctrl held
  return (ret, ctrl, held)

/-- The data of a command set of the vector; the pointer to it is `before`
when the vector does not have it. -/
def readCsCtrl (vector : Nat) (csi : UInt8) (resource : Resource)
    (before : Option Resource) (held : Held) : Int × Option Resource × Held :=
  if !vector.testBit csi.toNat then (0, before, held)
  else if !env.memory resource then (-Errno.ENOMEM, none, held)
  else (env.identifyCs csi, some resource, resource ::ₘ held)

/-- The command sets of `init_id_cs_ctrl`. -/
def readCsCtrls (vector : Nat) (ctrl : NvmeCtrlInstance) (held : Held) :
    Run (Int × NvmeCtrlInstance × Held) :=
  let (ret, nvm, held) := readCsCtrl env vector Namespaces.nvmeCsiNvm
    .idCtrlNvm ctrl.idCtrlNvm held
  let ctrl := { ctrl with idCtrlNvm := nvm }
  if ret < 0 then outIdCsCtrl ret ctrl held
  else
    let (ret, zns, held) := readCsCtrl env vector Namespaces.nvmeCsiZns
      .idCtrlZns ctrl.idCtrlZns held
    let ctrl := { ctrl with idCtrlZns := zns }
    if ret < 0 then outIdCsCtrl ret ctrl held
    else return (0, ctrl, held)

/-- `init_id_cs_ctrl`. -/
def initIdCsCtrl (ctrl : NvmeCtrlInstance) (held : Held) :
    Run (Int × NvmeCtrlInstance × Held) :=
  if env.namespaces.vs < Namespaces.nvmeVs 2 0 0 then return (0, ctrl, held)
  else if env.readCcAgain < 0 then return (-Errno.EPERM, ctrl, held)
  else if nvmeCapCss env.cap &&& nvmeCapCssCsi ≠ 0 ∧
      nvmeCcToCss env.cc = nvmeCcCssCsi then
    if !env.memory .idCtrlCsc then
      return (-Errno.ENOMEM, { ctrl with idCtrlCsc := none }, held)
    else
      let held := Resource.idCtrlCsc ::ₘ held
      let ctrl := { ctrl with idCtrlCsc := some .idCtrlCsc }
      if env.cscList < 0 then outIdCsCtrl env.cscList ctrl held
      else
        let ret := nvmeGetFeatIocsProfile env
        if ret < 0 then outIdCsCtrl (-Errno.EPERM) ctrl held
        else do
          let vector ← tableAt env.vector ret.toNat
          readCsCtrls env vector ctrl held
  else return (0, ctrl, held)

/-- `stage1_free_ctrl`. -/
def stage1FreeCtrl (ndev : NvmeDevInfo) (held : Held) :
    Run (Int × NvmeDevInfo × Held) := do
  let held ← free .ctrl held
  return (-Errno.EPERM, ndev, held)

/-- `init_ctrl_instance` for `NVME_INIT_STAGE1`. -/
def initCtrlInstance1 (ndev : NvmeDevInfo) (held : Held) :
    Run (Int × NvmeDevInfo × Held) :=
  if ndev.ctrl.isSome then return (-Errno.EFAULT, ndev, held)
  else if !env.memory .ctrl then return (-Errno.ENOMEM, ndev, held)
  else
    let held := Resource.ctrl ::ₘ held
    let (ret, ctrl) := requestIoQueueNum env zeroCtrl
    if ret < 0 then stage1FreeCtrl ndev held
    else do
      let (ret, ctrl, held) ← initIdentifyCtrlData env ctrl held
      if ret < 0 then stage1FreeCtrl ndev held
      else return (0, { ndev with ctrl := some ctrl }, held)

/-- `stage2_exit_ctrl_prop`. -/
def stage2ExitCtrlProp (ndev : NvmeDevInfo) (ctrl : NvmeCtrlInstance)
    (held : Held) : Run (Int × NvmeDevInfo × Held) := do
  let (ctrl, held) ← deinitCtrlProperty ctrl held
  return (-Errno.EPERM, { ndev with ctrl := some ctrl }, held)

/-- `init_ctrl_instance` for `NVME_INIT_STAGE2`. -/
def initCtrlInstance2 (ndev : NvmeDevInfo) (held : Held) :
    Run (Int × NvmeDevInfo × Held) :=
  ndev.ctrl.elim (.ok (-Errno.EFAULT, ndev, held)) fun ctrl => do
    let (ret, ctrl, held) ← initCtrlProperty env ctrl held
    if ret < 0 then
      return (-Errno.EPERM, { ndev with ctrl := some ctrl }, held)
    else do
      let (ret, ctrl, held) ← initIdCsCtrl env ctrl held
      if ret < 0 then stage2ExitCtrlProp ndev ctrl held
      else return (0, { ndev with ctrl := some ctrl }, held)

/-- `deinit_ctrl_instance` for `NVME_INIT_STAGE1`. -/
def deinitCtrlInstance1 (ndev : NvmeDevInfo) (held : Held) :
    Run (NvmeDevInfo × Held) :=
  ndev.ctrl.elim (.ok (ndev, held)) fun ctrl => do
    let (_, held) ← deinitIdentifyCtrlData ctrl held
    let held ← free .ctrl held
    return ({ ndev with ctrl := none }, held)

/-- `deinit_ctrl_instance` for `NVME_INIT_STAGE2`. -/
def deinitCtrlInstance2 (ndev : NvmeDevInfo) (held : Held) :
    Run (NvmeDevInfo × Held) :=
  ndev.ctrl.elim (.ok (ndev, held)) fun ctrl => do
    let (ctrl, held) ← deinitIdCsCtrl ctrl held
    let (ctrl, held) ← deinitCtrlProperty ctrl held
    return ({ ndev with ctrl := some ctrl }, held)

/-! ## The PCI device, the queues and the namespaces -/

/-- `free_pdev`. -/
def freePdev (ret : Int) (ndev : NvmeDevInfo) (held : Held) :
    Run (Int × NvmeDevInfo × Held) := do
  let held ← free .pdev held
  return (ret, ndev, held)

/-- `init_pci_dev_instance`; the results of the reads that are not optional
are combined with `|`. -/
def initPciDevInstance (ndev : NvmeDevInfo) (held : Held) :
    Run (Int × NvmeDevInfo × Held) :=
  if !env.memory .pdev then return (-Errno.ENOMEM, ndev, held)
  else
    let held := Resource.pdev ::ₘ held
    if env.pciBdf < 0 then freePdev env.pciBdf ndev held
    else
      let ret := env.pciReads.foldl Int.lor 0
      if ret < 0 then freePdev ret ndev held
      else if env.linkStatus < 0 then freePdev env.linkStatus ndev held
      else
        let pdev : PciDevInstance := ⟨(env.msixMc &&& 0x7ff) + 1⟩
        return (0, { ndev with pdev := some pdev }, held)

/-- `deinit_pci_dev_instance`. -/
def deinitPciDevInstance (ndev : NvmeDevInfo) (held : Held) :
    Run (NvmeDevInfo × Held) :=
  ndev.pdev.elim (.ok (ndev, held)) fun _ => do
    let held ← free .pdev held
    return ({ ndev with pdev := none }, held)

/-- What the plans of the queues are made from. -/
def planned (ctrl : NvmeCtrlInstance) (ndev : NvmeDevInfo) :
    IoqInfo.NvmeDevInfo :=
  ⟨ctrl.nrSq, ctrl.nrCq, env.cap, ndev.irqType, ndev.nrIrq⟩

/-- `nvme_init_ioq_info`, with the memory of its tables. -/
def nvmeInitIoqInfo (ndev : NvmeDevInfo) (held : Held) :
    Run (Int × NvmeDevInfo × Held) := do
  let ctrl ← deref ndev.ctrl
  let (ret, tables) ← nvmeAllocIosqInfo (env.memory .iosqs) env.sqNumbers
    (planned env ctrl ndev) ndev.tables
  if ret < 0 then return (-Errno.EPERM, ndev, held)
  else do
    let held := Resource.iosqs ::ₘ held
    let ndev := { ndev with tables := tables, iosqs := some .iosqs }
    let (ret, tables) ← nvmeAllocIocqInfo (env.memory .iocqs) env.cqNumbers
      (planned env ctrl ndev) ndev.tables
    if ret < 0 then do
      let held ← freeSet ndev.iosqs held
      return (-Errno.EPERM, { ndev with
        tables := { ndev.tables with iosqs := [] }
        iosqs := none }, held)
    else
      return (0, { ndev with tables := tables, iocqs := some .iocqs },
        .iocqs ::ₘ held)

/-- `nvme_deinit_ioq_info`. -/
def nvmeDeinitIoqInfo (ndev : NvmeDevInfo) (held : Held) :
    Run (NvmeDevInfo × Held) := do
  let held ← freeSet ndev.iosqs held
  let held ← freeSet ndev.iocqs held
  return ({ ndev with tables := ⟨[], []⟩, iosqs := none, iocqs := none }, held)

/-- The loop of `deinit_ns_group` from instance `i` on. -/
def deinitNsLoop (table : List NsInstance) : Nat → Nat → Heap → Run Heap
  | 0, _, heap => return heap
  | left + 1, i, heap => do
      let ns ← tableAt table i
      let (_, heap) ← deinitNsInstance ns heap
      deinitNsLoop table left (i + 1) heap

/-- `deinit_ns_group`. -/
def deinitNsGroup (ndev : NvmeDevInfo) (heap : Heap) :
    Run (NvmeDevInfo × Heap) :=
  ndev.nsGrp.elim (.ok (ndev, heap)) fun group => do
    let heap ← deinitNsLoop group.ns group.nrNs 0 heap
    let heap ← Namespaces.freeSet group.actList heap
    let heap ← Namespaces.free .group heap
    return ({ ndev with nsGrp := none }, heap)

/-! ## The stages -/

/-- `out_gnl_disconnect`. -/
def outGnlDisconnect (ndev : NvmeDevInfo) (held : Held) :
    Run (Int × NvmeDevInfo × Held) := do
  let held ← freeSet ndev.sockFd held
  return (-Errno.EPERM, { ndev with sockFd := none }, held)

/-- `nvme_init_stage1`. -/
def nvmeInitStage1 (ndev : NvmeDevInfo) (held : Held) :
    Run (Int × NvmeDevInfo × Held) :=
  if env.first.disable < 0 ∨ env.getDevInfo < 0 ∨ env.gnlConnect < 0 then
    return (-Errno.EPERM, ndev, held)
  else
    let held := Resource.socket ::ₘ held
    let ndev := { ndev with sockFd := some .socket }
    if env.first.createAqPair < 0 ∨ env.first.setIrq < 0 then
      outGnlDisconnect ndev held
    else
      let ndev := { ndev with irqType := .pin, nrIrq := 1 }
      if env.first.enable < 0 then outGnlDisconnect ndev held
      else do
        let (ret, ndev, held) ← initCtrlInstance1 env ndev held
        if ret < 0 then outGnlDisconnect ndev held
        else return (0, ndev, held)

/-- `nvme_release_stage1`. -/
def nvmeReleaseStage1 (ndev : NvmeDevInfo) (held : Held) :
    Run (NvmeDevInfo × Held) := do
  let (ndev, held) ← deinitCtrlInstance1 ndev held
  let held ← freeSet ndev.sockFd held
  return ({ ndev with sockFd := none }, held)

/-- `exit_pci_dev_instance` of `nvme_init_stage2`. -/
def exitPciDevInstance (ndev : NvmeDevInfo) (held : Held) (heap : Heap) :
    Run (Int × NvmeDevInfo × Held × Heap) := do
  let (ndev, held) ← deinitPciDevInstance ndev held
  return (-Errno.EPERM, ndev, held, heap)

/-- `exit_ctrl_instance`. -/
def exitCtrlInstance (ndev : NvmeDevInfo) (held : Held) (heap : Heap) :
    Run (Int × NvmeDevInfo × Held × Heap) := do
  let (ndev, held) ← deinitCtrlInstance2 ndev held
  exitPciDevInstance ndev held heap

/-- `exit_ioq`. -/
def exitIoq (ndev : NvmeDevInfo) (held : Held) (heap : Heap) :
    Run (Int × NvmeDevInfo × Held × Heap) := do
  let (ndev, held) ← nvmeDeinitIoqInfo ndev held
  exitCtrlInstance ndev held heap

/-- The number of interrupts that the second stage asks for. -/
def stage2NrIrq (ctrl : NvmeCtrlInstance) (pdev : PciDevInstance) : Nat :=
  if ctrl.nrCq + 1 > pdev.msixCapVectors then pdev.msixCapVectors
  else ctrl.nrCq + 1

/-- `nvme_init_stage2` from `nvme_set_irq` on. -/
def stage2Rest (ndev : NvmeDevInfo) (held : Held) :
    Run (Int × NvmeDevInfo × Held × Heap) :=
  if env.second.setIrq < 0 ∨ env.second.enable < 0 then
    exitPciDevInstance ndev held 0
  else do
    let (ret, ndev, held) ← initCtrlInstance2 env ndev held
    if ret < 0 then exitPciDevInstance ndev held 0
    else do
      let (ret, ndev, held) ← nvmeInitIoqInfo env ndev held
      if ret < 0 then exitCtrlInstance ndev held 0
      else do
        let outcome ← initNsGroup env.namespaces ndev.nsGrp
        let ndev := { ndev with nsGrp := outcome.nsGrp }
        if outcome.ret < 0 then exitIoq ndev held outcome.heap
        else return (0, ndev, held, outcome.heap)

/-- `nvme_init_stage2`. -/
def nvmeInitStage2 (ndev : NvmeDevInfo) (held : Held) :
    Run (Int × NvmeDevInfo × Held × Heap) :=
  if env.second.disable < 0 ∨ env.second.createAqPair < 0 then
    return (-Errno.EPERM, ndev, held, 0)
  else do
    let (ret, ndev, held) ← initPciDevInstance env ndev held
    if ret < 0 then return (-Errno.EPERM, ndev, held, 0)
    else do
      let ctrl ← deref ndev.ctrl
      let pdev ← deref ndev.pdev
      stage2Rest env { ndev with
        irqType := .msix
        nrIrq := stage2NrIrq ctrl pdev } held

/-- `nvme_release_stage2`. -/
def nvmeReleaseStage2 (ndev : NvmeDevInfo) (held : Held) (heap : Heap) :
    Run (NvmeDevInfo × Held × Heap) := do
  let (ndev, heap) ← deinitNsGroup ndev heap
  let (ndev, held) ← nvmeDeinitIoqInfo ndev held
  let (ndev, held) ← deinitCtrlInstance2 ndev held
  let (ndev, held) ← deinitPciDevInstance ndev held
  return (ndev, held, heap)

/-! ## The handle -/

/-- `out` of `nvme_init`. -/
def outNdev (held : Held) (heap : Heap) :
    Run (Option NvmeDevInfo × Held × Heap) := do
  let held ← free .ndev held
  return (none, held, heap)

/-- `nvme_init`. -/
def nvmeInit : Run (Option NvmeDevInfo × Held × Heap) :=
  if !env.memory .ndev then return (none, 0, 0)
  else if env.openDev < 0 then outNdev (.ndev ::ₘ 0) 0
  else do
    let (ret, ndev, held) ← nvmeInitStage1 env
      { zeroDevInfo with fd := some .fd } (.fd ::ₘ .ndev ::ₘ 0)
    if ret < 0 then outNdev held 0
    else do
      let (ret, ndev, held, heap) ← nvmeInitStage2 env ndev held
      if ret < 0 then outNdev held heap
      else return (some { ndev with ioSqes := 6, ioCqes := 4 }, held, heap)

/-- `nvme_deinit`; what is left when it returns. -/
def nvmeDeinit (ndev : NvmeDevInfo) (held : Held) (heap : Heap) :
    Run (Held × Heap) := do
  let (ndev, held, heap) ← nvmeReleaseStage2 ndev held heap
  let (ndev, held) ← nvmeReleaseStage1 ndev held
  let held ← freeSet ndev.fd held
  let held ← free .ndev held
  return (held, heap)

end Dnvme.Nvme.DeviceHandle
