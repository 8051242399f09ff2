import Dnvme.Driver.Ioctl
import Dnvme.Lib.Holdings

/-!
# Probe and removal of devices

The life of the kernel module and of its devices (`core.c`, `cmb.c`, `pmr.c`).
A probe takes resources of the kernel one after another, and unwinds where one
of them is refused.  Everything that is taken has to be given back by the
removal of the device.

A resource is given back once.  The code that gives back a resource it does not
have is stopped.  What requests have taken is in the state of the driver part of
a device; what is left of it when the memory of the device is freed is lost.
-/

namespace Dnvme.Driver.Probe

open Dnvme.Lib.Holdings

/-! ## Resources -/

/-- The structures of `struct nvme_capability`, in the order of the code. -/
inductive CapabilityKind where
  | msi
  | msix
  | pm
  | express
  | ltr
  | l1ss
  deriving DecidableEq, Repr

def capabilityKinds : List CapabilityKind :=
  [.msi, .msix, .pm, .express, .ltr, .l1ss]

/-- What the module takes from the kernel; functions of the bus are numbered. -/
inductive Resource where
  /-- The generic netlink family. -/
  | gnlFamily
  | chrdevRegion
  | nvmeClass
  | procDir
  /-- The memory of a `struct nvme_device`. -/
  | context (pdev : Nat)
  | pool (pdev : Nat) (pool : DmaPool)
  /-- A number of `nvme_instance_ida`. -/
  | minor (number : Nat)
  | name (pdev : Nat)
  | cdev (pdev : Nat)
  | region (pdev idx : Nat)
  /-- The mapping of a BAR. -/
  | mapping (pdev idx : Nat)
  | enabled (pdev : Nat)
  | capability (pdev : Nat) (kind : CapabilityKind)
  | cmb (pdev : Nat)
  | pmr (pdev : Nat)
  | procEntry (pdev : Nat)
  /-- A submission queue with its memory. -/
  | submissionQueue (pdev id : Nat)
  /-- A completion queue with its memory. -/
  | completionQueue (pdev id : Nat)
  /-- A metadata node with its memory. -/
  | metaNode (pdev id : Nat)
  /-- A `struct nvme_prps` with its pages. -/
  | prps (pdev object : Nat)
  | irqNode (pdev irqId : Nat)
  | workNode (pdev irqId : Nat)
  /-- The work queue of the interrupts. -/
  | workQueue (pdev : Nat)
  /-- A handler of `request_irq`. -/
  | handler (pdev intVec : Nat)
  /-- The vectors of MSI or MSI-X. -/
  | vectors (pdev : Nat)
  deriving DecidableEq, Repr

/-- The resources that the module has. -/
abbrev Held := Multiset Resource

/-- Give a resource back. -/
def give (resource : Resource) (held : Held) : Outcome Held :=
  free Oops.useAfterFree resource held

/-! ## Devices -/

/-- `NVME_MINORS`. -/
def nvmeMinors : Nat := 2 ^ 20

/-- `PCI_BAR_MAX_NUM`. -/
def pciBarMaxNum : Nat := 6

/-- `struct nvme_cmb`, but for the flags that nothing reads. -/
structure NvmeCmb where
  bar : Nat
  size : Nat
  offset : Nat
  sqs : Bool
  cqs : Bool
  deriving DecidableEq, Repr

/-- `struct nvme_pmr`, but for its addresses and the timeout. -/
structure NvmePmr where
  bir : Nat
  cmss : Bool
  deriving DecidableEq, Repr

/-- `struct nvme_device`; `driver` is the part that the requests of a user work
on. -/
structure NvmeContext where
  pdev : Nat
  instance_ : Nat
  bar : Nat → Bool
  cap : CapabilityKind → Bool
  cmb : Option NvmeCmb
  pmr : Option NvmePmr
  proc : Bool
  regCap : Nat
  dbStride : Nat
  opened : Bool
  driver : NvmeDevice

/-- The device that `kzalloc` and the initialisation leave. -/
def NvmeContext.new (pdev instance_ : Nat) : NvmeContext where
  pdev := pdev
  instance_ := instance_
  bar _ := false
  cap _ := false
  cmb := none
  pmr := none
  proc := false
  regCap := 0
  dbStride := 0
  opened := false
  driver := NvmeDevice.fresh 0 false false false

/-- The outcomes of the external calls of a probe, and what the registers of
the device read as. -/
structure ProbeEnv where
  setDmaMask : Int
  contextAlloc : Bool
  poolCreate : DmaPool → Bool
  idaGet : Bool
  setName : Bool
  cdevAdd : Bool
  /-- `pci_select_bars`. -/
  bars : Nat → Bool
  requestRegion : Nat → Int
  ioremap : Nat → Bool
  enableDevice : Int
  /-- The register CAP. -/
  cap : Nat
  /-- Whether a capability is found and its memory granted. -/
  capability : CapabilityKind → Bool
  cmbAlloc : Bool
  cmbsz : Nat
  cmbloc : Nat
  /-- `pci_resource_len`. -/
  barLen : Nat → Nat
  p2pdmaAdd : Int
  pmrAlloc : Bool
  pmrcap : Nat
  /-- `pci_bus_address`. -/
  busAddress : Nat → Nat
  /-- The bit CBAI of PMRSTS. -/
  baseInvalid : Bool
  /-- The return value of `dnvme_enable_pmr`. -/
  enablePmr : Int
  /-- `proc_create_data`. -/
  procCreate : Bool

/-! ## Allocation of the device -/

/-- `ida_simple_get`: the smallest number that is not in use. -/
def idaSimpleGet (granted : Bool) (held : Held) : Option Nat :=
  if granted then
    ((List.range (held.card + 1)).find? fun number =>
      decide (.minor number ∉ held)).filter (· < nvmeMinors)
  else none

/-- `dnvme_create_pool`. -/
def dnvmeCreatePool (env : ProbeEnv) (pdev : Nat) (held : Held) :
    Outcome (Int × Held) :=
  if !env.poolCreate .cmdPool then .ok (-Errno.ENOMEM, held)
  else
    let held := .pool pdev .cmdPool ::ₘ held
    if !env.poolCreate .queuePool then do
      return (-Errno.ENOMEM, ← give (.pool pdev .cmdPool) held)
    else
      let held := .pool pdev .queuePool ::ₘ held
      if !env.poolCreate .metaPool then do
        let held ← give (.pool pdev .queuePool) held
        return (-Errno.ENOMEM, ← give (.pool pdev .cmdPool) held)
      else .ok (0, .pool pdev .metaPool ::ₘ held)

/-- `dnvme_destroy_pool`. -/
def dnvmeDestroyPool (pdev : Nat) (held : Held) : Outcome Held := do
  let held ← give (.pool pdev .metaPool) held
  let held ← give (.pool pdev .queuePool) held
  give (.pool pdev .cmdPool) held

/-- `dnvme_alloc_device`. -/
def dnvmeAllocDevice (env : ProbeEnv) (pdev : Nat) (held : Held) :
    Outcome (Option NvmeContext × Held) :=
  if !env.contextAlloc then .ok (none, held)
  else do
    let (ret, held) ← dnvmeCreatePool env pdev (.context pdev ::ₘ held)
    if ret < 0 then return (none, ← give (.context pdev) held)
    else
      match idaSimpleGet env.idaGet held with
      | none =>
          let held ← dnvmeDestroyPool pdev held
          return (none, ← give (.context pdev) held)
      | some number =>
          let held := .minor number ::ₘ held
          if !env.setName then
            let held ← give (.minor number) held
            let held ← dnvmeDestroyPool pdev held
            return (none, ← give (.context pdev) held)
          else
            let held := .name pdev ::ₘ held
            if !env.cdevAdd then
              let held ← give (.name pdev) held
              let held ← give (.minor number) held
              let held ← dnvmeDestroyPool pdev held
              return (none, ← give (.context pdev) held)
            else
              return (some (.new pdev number), .cdev pdev ::ₘ held)

/-- `dnvme_release_device`. -/
def dnvmeReleaseDevice (ndev : NvmeContext) (held : Held) : Outcome Held := do
  let held ← give (.cdev ndev.pdev) held
  let held ← give (.name ndev.pdev) held
  let held ← give (.minor ndev.instance_) held
  let held ← dnvmeDestroyPool ndev.pdev held
  give (.context ndev.pdev) held

/-! ## BARs -/

/-- `dnvme_map_bar`. -/
def dnvmeMapBar (env : ProbeEnv) (ndev : NvmeContext) (idx : Nat)
    (held : Held) : Outcome (Int × NvmeContext × Held) :=
  if ndev.bar idx then .ok (0, ndev, held)
  else if env.requestRegion idx < 0 then
    .ok (env.requestRegion idx, ndev, held)
  else
    let held := .region ndev.pdev idx ::ₘ held
    if !env.ioremap idx then do
      return (-Errno.ENOMEM, ndev, ← give (.region ndev.pdev idx) held)
    else
      .ok (0, { ndev with bar := Function.update ndev.bar idx true },
        .mapping ndev.pdev idx ::ₘ held)

/-- `dnvme_unmap_bar`. -/
def dnvmeUnmapBar (ndev : NvmeContext) (idx : Nat) (held : Held) :
    Outcome (NvmeContext × Held) :=
  if !ndev.bar idx then .ok (ndev, held)
  else do
    let held ← give (.mapping ndev.pdev idx) held
    let ndev := { ndev with bar := Function.update ndev.bar idx false }
    return (ndev, ← give (.region ndev.pdev idx) held)

/-- The loop of `dnvme_map_resource` with the index where it ends. -/
def mapBars (env : ProbeEnv) :
    (count idx : Nat) → NvmeContext → Held →
      Outcome (Int × Nat × NvmeContext × Held)
  | 0, idx, ndev, held => .ok (0, idx, ndev, held)
  | count + 1, idx, ndev, held =>
      if env.bars idx then do
        let (ret, ndev, held) ← dnvmeMapBar env ndev idx held
        if ret < 0 then return (ret, idx, ndev, held)
        else mapBars env count (idx + 1) ndev held
      else mapBars env count (idx + 1) ndev held

/-- The loop of `dnvme_map_resource` that unwinds. -/
def unwindBars : Nat → NvmeContext → Held → Outcome (NvmeContext × Held)
  | 0, ndev, held => .ok (ndev, held)
  | idx + 1, ndev, held => do
      let (ndev, held) ← dnvmeUnmapBar ndev idx held
      unwindBars idx ndev held

/-- `dnvme_map_resource`. -/
def dnvmeMapResource (env : ProbeEnv) (ndev : NvmeContext) (held : Held) :
    Outcome (Int × NvmeContext × Held) :=
  if !env.bars 0 then .ok (-Errno.ENODEV, ndev, held)
  else do
    let (ret, idx, ndev, held) ← mapBars env pciBarMaxNum 0 ndev held
    if ret < 0 then
      let (ndev, held) ← unwindBars idx ndev held
      return (ret, ndev, held)
    else return (0, ndev, held)

/-- `dnvme_unmap_resource`. -/
def dnvmeUnmapResource (ndev : NvmeContext) (held : Held) :
    Outcome (NvmeContext × Held) :=
  (List.range pciBarMaxNum).foldlM
    (fun (ndev, held) idx => dnvmeUnmapBar ndev idx held) (ndev, held)

/-! ## The function of the bus -/

/-- `NVME_CAP_MQES` plus one. -/
def capQueueDepth (cap : Nat) : Nat :=
  cap % 2 ^ 16 + 1

/-- `dnvme_pci_enable`. -/
def dnvmePciEnable (env : ProbeEnv) (ndev : NvmeContext) (held : Held) :
    Int × NvmeContext × Held :=
  if env.enableDevice < 0 then (env.enableDevice, ndev, held)
  else
    (0, { ndev with
      regCap := env.cap
      dbStride := 2 ^ (env.cap / 2 ^ 32 % 2 ^ 4)
      driver := { ndev.driver with
        qDepth := capQueueDepth env.cap
        capCqr := env.cap.testBit 16 } },
      .enabled ndev.pdev ::ₘ held)

/-- `dnvme_pci_disable`. -/
def dnvmePciDisable (ndev : NvmeContext) (held : Held) : Outcome Held :=
  if .enabled ndev.pdev ∈ held then give (.enabled ndev.pdev) held
  else .ok held

/-- One assignment of `dnvme_init_capability`. -/
def getCap (env : ProbeEnv) (kind : CapabilityKind) (ndev : NvmeContext)
    (held : Held) : NvmeContext × Held :=
  if env.capability kind then
    ({ ndev with cap := Function.update ndev.cap kind true },
      .capability ndev.pdev kind ::ₘ held)
  else (ndev, held)

/-- `dnvme_init_capability`. -/
def dnvmeInitCapability (env : ProbeEnv) (ndev : NvmeContext) (held : Held) :
    NvmeContext × Held :=
  capabilityKinds.foldl (fun (ndev, held) kind => getCap env kind ndev held)
    (ndev, held)

/-- One branch of `dnvme_deinit_capability`. -/
def freeCap (kind : CapabilityKind) (ndev : NvmeContext) (held : Held) :
    Outcome (NvmeContext × Held) :=
  if ndev.cap kind then do
    let held ← give (.capability ndev.pdev kind) held
    return ({ ndev with cap := Function.update ndev.cap kind false }, held)
  else return (ndev, held)

/-- `dnvme_deinit_capability`. -/
def dnvmeDeinitCapability (ndev : NvmeContext) (held : Held) :
    Outcome (NvmeContext × Held) :=
  capabilityKinds.foldlM (fun (ndev, held) kind => freeCap kind ndev held)
    (ndev, held)

/-! ## Memory of the controller -/

/-- `dnvme_cmb_size_unit`; the shift is the one of a 64-bit machine. -/
def dnvmeCmbSizeUnit (cmbsz : Nat) : Nat :=
  2 ^ ((12 + 4 * (cmbsz / 2 ^ 8 % 2 ^ 4)) % 64)

/-- `dnvme_cmb_setup` with `dnvme_cmb_parse_capability`. -/
def dnvmeCmbSetup (env : ProbeEnv) : Except Int NvmeCmb :=
  let cmbsz := env.cmbsz
  if cmbsz = 0 then .error (-Errno.EOPNOTSUPP)
  else
    let unit := dnvmeCmbSizeUnit cmbsz
    let bar := env.cmbloc % 2 ^ 3
    let size := unit * (cmbsz / 2 ^ 12 % 2 ^ 20) % 2 ^ 64
    let offset := unit * (env.cmbloc / 2 ^ 12 % 2 ^ 20) % 2 ^ 64
    let barSize := env.barLen bar
    if barSize < offset then .error (-Errno.EPERM)
    else if env.p2pdmaAdd < 0 then .error env.p2pdmaAdd
    else
      .ok {
        bar := bar
        size := if barSize - offset < size then barSize - offset else size
        offset := offset
        sqs := cmbsz.testBit 0
        cqs := cmbsz.testBit 1 }

/-- `dnvme_map_cmb`. -/
def dnvmeMapCmb (env : ProbeEnv) (ndev : NvmeContext) (held : Held) :
    Outcome (Int × NvmeContext × Held) :=
  if ndev.cmb.isSome then .ok (0, ndev, held)
  else if !ndev.regCap.testBit 57 then .ok (-Errno.EOPNOTSUPP, ndev, held)
  else if !env.cmbAlloc then .ok (-Errno.ENOMEM, ndev, held)
  else
    let held := .cmb ndev.pdev ::ₘ held
    match dnvmeCmbSetup env with
    | .error ret => do return (ret, ndev, ← give (.cmb ndev.pdev) held)
    | .ok cmb =>
        .ok (0, { ndev with
          cmb := some cmb
          driver := { ndev.driver with cmbSqs := cmb.sqs, cmbCqs := cmb.cqs } },
          held)

/-- `dnvme_unmap_cmb`. -/
def dnvmeUnmapCmb (ndev : NvmeContext) (held : Held) :
    Outcome (NvmeContext × Held) :=
  match ndev.cmb with
  | none => .ok (ndev, held)
  | some _ => do
      let held ← give (.cmb ndev.pdev) held
      return ({ ndev with cmb := none }, held)

/-- `dnvme_pmr_parse_capability`, `dnvme_pmr_enable_cba` and
`dnvme_enable_pmr`. -/
def pmrSetup (env : ProbeEnv) (ndev : NvmeContext) : Except Int NvmePmr :=
  let bir := env.pmrcap / 2 ^ 5 % 2 ^ 3
  let cmss := env.pmrcap.testBit 24
  if bir < 2 ∨ 5 < bir then .error (-Errno.EPERM)
  else if !ndev.bar bir then .error (-Errno.EPERM)
  -- the bits of the address below a page, but for CMSE, are reserved
  else if cmss ∧ (env.busAddress bir % 2 ^ 32 ||| 2) &&& 0xffd ≠ 0 then
    .error (-Errno.EPERM)
  else if cmss ∧ env.baseInvalid then .error (-Errno.EPERM)
  else if env.enablePmr < 0 then .error env.enablePmr
  else .ok ⟨bir, cmss⟩

/-- `dnvme_map_pmr`. -/
def dnvmeMapPmr (env : ProbeEnv) (ndev : NvmeContext) (held : Held) :
    Outcome (Int × NvmeContext × Held) :=
  if ndev.pmr.isSome then .ok (0, ndev, held)
  else if !ndev.regCap.testBit 56 then .ok (-Errno.EOPNOTSUPP, ndev, held)
  else if !env.pmrAlloc then .ok (-Errno.ENOMEM, ndev, held)
  else
    let held := .pmr ndev.pdev ::ₘ held
    match pmrSetup env ndev with
    | .error ret => do return (ret, ndev, ← give (.pmr ndev.pdev) held)
    | .ok pmr => .ok (0, { ndev with pmr := some pmr }, held)

/-- `dnvme_unmap_pmr`. -/
def dnvmeUnmapPmr (ndev : NvmeContext) (held : Held) :
    Outcome (NvmeContext × Held) :=
  match ndev.pmr with
  | none => .ok (ndev, held)
  | some _ => do
      let held ← give (.pmr ndev.pdev) held
      return ({ ndev with pmr := none }, held)

/-! ## Entries of `/proc` -/

/-- `dnvme_create_proc_entry`, whose result is not looked at. -/
def dnvmeCreateProcEntry (env : ProbeEnv) (parent : Bool) (ndev : NvmeContext)
    (held : Held) : NvmeContext × Held :=
  if parent && env.procCreate then
    ({ ndev with proc := true }, .procEntry ndev.pdev ::ₘ held)
  else (ndev, held)

/-- `dnvme_destroy_proc_entry`. -/
def dnvmeDestroyProcEntry (ndev : NvmeContext) (held : Held) :
    Outcome (NvmeContext × Held) :=
  if ndev.proc then do
    let held ← give (.procEntry ndev.pdev) held
    return ({ ndev with proc := false }, held)
  else .ok (ndev, held)

/-! ## The module -/

/-- The vectors of an interrupt mode; the pin has none. -/
def hasVectors : NvmeIrqType → Bool
  | .msiSingle | .msiMulti | .msix => true
  | .pin | .none | .unknown _ => false

/-- What the requests to a driver have taken and not given back. -/
def driverHeld (pdev : Nat) (driver : NvmeDevice) : Held :=
  (driver.sqs.keys.map (Resource.submissionQueue pdev) : List Resource) +
    (driver.cqs.keys.map (Resource.completionQueue pdev) : List Resource) +
    (driver.metas.keys.map (Resource.metaNode pdev) : List Resource) +
    (driver.prpsHeap.keys.map (Resource.prps pdev) : List Resource) +
    (driver.irqSet.irqList.map fun irq => Resource.irqNode pdev irq.irqId :
      List Resource) +
    (driver.irqSet.workList.map fun work =>
      Resource.workNode pdev work.irqId : List Resource) +
    (if driver.irqSet.wq then {.workQueue pdev} else 0) +
    (driver.irqSet.handlers.map (Resource.handler pdev) : List Resource) +
    (if hasVectors driver.irqSet.mode then {.vectors pdev} else 0)

/-- The variables of the module, its resources, and what devices that were
removed have lost. -/
structure Module where
  nvmeProcDir : Bool
  nvmeDevList : List NvmeContext
  held : Held
  lost : Held

/-- The label `out_unmap_res` of `dnvme_probe` and the ones after it. -/
def outUnmapRes (ndev : NvmeContext) (held : Held) : Outcome Held := do
  let (ndev, held) ← dnvmeUnmapResource ndev held
  dnvmeReleaseDevice ndev held

/-- The label `out_deinit_cap` of `dnvme_probe` and the ones after it. -/
def outDeinitCap (ndev : NvmeContext) (held : Held) : Outcome Held := do
  let (ndev, held) ← dnvmeDeinitCapability ndev held
  let held ← dnvmePciDisable ndev held
  outUnmapRes ndev held

/-- The label `out_unmap_cmb` of `dnvme_probe` and the ones after it. -/
def outUnmapCmb (ndev : NvmeContext) (held : Held) : Outcome Held := do
  let (ndev, held) ← dnvmeUnmapCmb ndev held
  outDeinitCap ndev held

/-- `dnvme_probe` from the call of `dnvme_map_pmr`. -/
def probePmr (env : ProbeEnv) (parent : Bool) (ndev : NvmeContext)
    (held : Held) : Outcome (Int × Option NvmeContext × Held) := do
  let (ret, ndev, held) ← dnvmeMapPmr env ndev held
  if ret < 0 ∧ ret ≠ -Errno.EOPNOTSUPP then
    return (ret, none, ← outUnmapCmb ndev held)
  else
    let (ndev, held) := dnvmeCreateProcEntry env parent ndev held
    return (0, some ndev, held)

/-- `dnvme_probe` from the call of `dnvme_init_capability`. -/
def probeEnabled (env : ProbeEnv) (parent : Bool) (ndev : NvmeContext)
    (held : Held) : Outcome (Int × Option NvmeContext × Held) := do
  let (ndev, held) := dnvmeInitCapability env ndev held
  let (ret, ndev, held) ← dnvmeMapCmb env ndev held
  if ret < 0 ∧ ret ≠ -Errno.EOPNOTSUPP then
    return (ret, none, ← outDeinitCap ndev held)
  else probePmr env parent ndev held

/-- `dnvme_probe` without the list of devices. -/
def probeDevice (env : ProbeEnv) (parent : Bool) (pdev : Nat) (held : Held) :
    Outcome (Int × Option NvmeContext × Held) :=
  if env.setDmaMask < 0 then .ok (env.setDmaMask, none, held)
  else do
    let (ndev, held) ← dnvmeAllocDevice env pdev held
    match ndev with
    | none => return (-Errno.ENOMEM, none, held)
    | some ndev =>
        let (ret, ndev, held) ← dnvmeMapResource env ndev held
        if ret < 0 then
          return (ret, none, ← dnvmeReleaseDevice ndev held)
        else
          let (ret, ndev, held) := dnvmePciEnable env ndev held
          if ret < 0 then return (ret, none, ← outUnmapRes ndev held)
          else probeEnabled env parent ndev held

/-- `dnvme_probe`. -/
def dnvmeProbe (env : ProbeEnv) (pdev : Nat) (m : Module) :
    Outcome (Int × Module) := do
  let (ret, ndev, held) ← probeDevice env m.nvmeProcDir pdev m.held
  return (ret, { m with
    nvmeDevList := m.nvmeDevList ++ ndev.toList
    held := held })

/-- `dnvme_remove` without the list of devices, with what the driver has left
when the memory of the device is freed. -/
def removeDevice (ndev : NvmeContext) (held : Held) :
    Outcome (Held × Held) := do
  let (ndev, held) ← dnvmeDestroyProcEntry ndev held
  let driver ← dnvmeCleanupDevice ndev.driver false
  let ndev := { ndev with driver := driver }
  let (ndev, held) ← dnvmeUnmapPmr ndev held
  let (ndev, held) ← dnvmeUnmapCmb ndev held
  let (ndev, held) ← dnvmeDeinitCapability ndev held
  let held ← give (.enabled ndev.pdev) held
  let (ndev, held) ← dnvmeUnmapResource ndev held
  return (← dnvmeReleaseDevice ndev held, driverHeld ndev.pdev driver)

/-- `dnvme_remove`. -/
def dnvmeRemove (pdev : Nat) (m : Module) : Outcome Module :=
  match m.nvmeDevList.find? (fun ndev => ndev.pdev = pdev) with
  | none => .ok m
  | some ndev => do
      let (held, left) ← removeDevice ndev m.held
      return { m with
        nvmeDevList := m.nvmeDevList.eraseP fun ndev => ndev.pdev = pdev
        held := held
        lost := m.lost + left }

/-- `find_device`. -/
def findDevice (m : Module) (minor : Nat) : Option NvmeContext :=
  m.nvmeDevList.find? fun ndev => ndev.instance_ = minor

/-- Change the device that `find_device` finds. -/
def Module.update (m : Module) (minor : Nat)
    (change : NvmeContext → NvmeContext) : Module :=
  { m with
    nvmeDevList := updateFirst (fun ndev => ndev.instance_ = minor) change
      m.nvmeDevList }

/-- `dnvme_open`. -/
def dnvmeOpen (minor : Nat) (m : Module) : Int × Module :=
  match findDevice m minor with
  | none => (-Errno.ENODEV, m)
  | some ndev =>
      if ndev.opened then (-Errno.EPERM, m)
      else (0, m.update minor fun ndev => { ndev with opened := true })

/-- A request to the driver of a device, or an event of the device. -/
def dnvmeIoctl (minor : Nat) (op : Op) (m : Module) : Outcome (Int × Module) :=
  match findDevice m minor with
  | none => .ok (-Errno.ENODEV, m)
  | some ndev => do
      let (ret, driver) ← step ndev.driver op
      return (ret, m.update minor fun ndev => { ndev with driver := driver })

/-- `dnvme_release`. -/
def dnvmeRelease (minor : Nat) (m : Module) : Outcome (Int × Module) :=
  match findDevice m minor with
  | none => .ok (-Errno.ENODEV, m)
  | some ndev => do
      let driver ← dnvmeCleanupDevice ndev.driver false
      return (0, m.update minor fun ndev =>
        { ndev with opened := false, driver := driver })

/-! ## Loading and unloading -/

/-- `proc_remove`, which a `NULL` pointer passes. -/
def procRemove (nvmeProcDir : Bool) (held : Held) : Outcome Held :=
  if nvmeProcDir then give .procDir held else .ok held

/-- `dnvme_exit`; `pci_unregister_driver` removes the devices that are there.
What remains is what was there before the load, and what is lost. -/
def dnvmeExit (m : Module) : Outcome Held := do
  let m ← (m.nvmeDevList.map NvmeContext.pdev).foldlM
    (fun m pdev => dnvmeRemove pdev m) m
  let held ← procRemove m.nvmeProcDir m.held
  let held ← give .nvmeClass held
  let held ← give .chrdevRegion held
  return (← give .gnlFamily held) + m.lost

end Dnvme.Driver.Probe
