import Dnvme.Driver.Types

/-!
# Interrupt bookkeeping

This module embeds `irq.c` except for `dnvme_reset_isr_flag`, which scans
completion queues and follows with the reap paths.  The irq and work lists are
lists in list order; a lookup finds the first node that matches, and an update
changes that node only.
-/

namespace Dnvme.Driver

/-! ## Masks -/

/-- `set_int_mask` and `clear_int_mask` with one bit set. -/
def NvmeIrqSet.writeIntMask (set : NvmeIrqSet) (irqNo : Nat)
    (value : Bool) : NvmeIrqSet :=
  { set with intMasked := Function.update set.intMasked (irqNo % 32) value }

/-- `set_int_mask` and `clear_int_mask` with `UINT_MAX`. -/
def NvmeIrqSet.writeIntMasks (set : NvmeIrqSet) (value : Bool) :
    NvmeIrqSet :=
  { set with intMasked := fun _ => value }

/-- `set_msix_single_mask` and `clear_msix_single_mask`. -/
def NvmeIrqSet.writeMsixMask (set : NvmeIrqSet) (entry : Nat)
    (value : Bool) : NvmeIrqSet :=
  { set with msixMasked := Function.update set.msixMasked entry value }

/-- The body that `dnvme_mask_interrupt` and `dnvme_unmask_interrupt`
share. -/
def NvmeIrqSet.writeMask (set : NvmeIrqSet) (irqNo : Nat) (value : Bool) :
    NvmeIrqSet :=
  match set.irqType with
  | .pin | .msiSingle | .msiMulti => set.writeIntMask irqNo value
  | .msix => set.writeMsixMask irqNo value
  | .none | .unknown _ => set

/-- `dnvme_mask_interrupt`. -/
def dnvmeMaskInterrupt (set : NvmeIrqSet) (irqNo : Nat) : NvmeIrqSet :=
  set.writeMask irqNo true

/-- `dnvme_unmask_interrupt`. -/
def dnvmeUnmaskInterrupt (set : NvmeIrqSet) (irqNo : Nat) : NvmeIrqSet :=
  set.writeMask irqNo false

/-! ## Nodes -/

/-- `find_irq_node_by_id`. -/
def NvmeIrqSet.findIrqNodeById (set : NvmeIrqSet) (irqId : Nat) :
    Option NvmeIrq :=
  set.irqList.find? fun irq => irq.irqId = irqId

/-- `find_irq_node_by_vec`. -/
def NvmeIrqSet.findIrqNodeByVec (set : NvmeIrqSet) (intVec : Nat) :
    Option NvmeIrq :=
  set.irqList.find? fun irq => irq.intVec = intVec

/-- `find_work_node_by_vec`. -/
def NvmeIrqSet.findWorkNodeByVec (set : NvmeIrqSet) (intVec : Nat) :
    Option NvmeWork :=
  set.workList.find? fun work => work.intVec = intVec

/-- `find_work_node_by_id`. -/
def NvmeIrqSet.findWorkNodeById (set : NvmeIrqSet) (irqId : Nat) :
    Option NvmeWork :=
  set.workList.find? fun work => work.irqId = irqId

/-- Change the first node that satisfies `found`. -/
def updateFirst {α : Type} (found : α → Bool) (change : α → α) :
    List α → List α
  | [] => []
  | node :: rest =>
      if found node then change node :: rest
      else node :: updateFirst found change rest

/-- Change the irq node of an id. -/
def NvmeIrqSet.updateIrq (set : NvmeIrqSet) (irqId : Nat)
    (change : NvmeIrq → NvmeIrq) : NvmeIrqSet :=
  { set with
    irqList :=
      updateFirst (fun irq => irq.irqId = irqId) change set.irqList }

/-- Change the work node of an id. -/
def NvmeIrqSet.updateWork (set : NvmeIrqSet) (irqId : Nat)
    (change : NvmeWork → NvmeWork) : NvmeIrqSet :=
  { set with
    workList :=
      updateFirst (fun work => work.irqId = irqId) change set.workList }

/-- `dnvme_create_icq_node` with `create_icq_node`. -/
def dnvmeCreateIcqNode (alloc : Bool) (set : NvmeIrqSet)
    (cqId irqNo : Nat) : Int × NvmeIrqSet :=
  match set.findIrqNodeById irqNo with
  | none => (-Errno.EINVAL, set)
  | some irq =>
      if cqId ∈ irq.icqList then
        (0, set)
      else if alloc then
        (0, set.updateIrq irqNo fun irq =>
          { irq with icqList := irq.icqList ++ [cqId] })
      else
        (-Errno.ENOMEM, set)

/-- `dnvme_delete_icq_node`. -/
def dnvmeDeleteIcqNode (set : NvmeIrqSet) (cqId irqNo : Nat) :
    NvmeIrqSet :=
  set.updateIrq irqNo fun irq =>
    { irq with icqList := irq.icqList.erase cqId }

/-- `create_irq_node`. -/
def createIrqNode (alloc : Bool) (set : NvmeIrqSet) (intVec irqId : Nat) :
    Int × NvmeIrqSet :=
  match set.findIrqNodeById irqId with
  | some irq =>
      if irq.intVec = intVec then (0, set) else (-Errno.EINVAL, set)
  | none =>
      match set.findIrqNodeByVec intVec with
      | some _ => (-Errno.EINVAL, set)
      | none =>
          if alloc then
            (0, { set with irqList := set.irqList ++
              [⟨irqId, intVec, false, 0, []⟩] })
          else
            (-Errno.ENOMEM, set)

/-- `delete_irq_node` of the node of an id; a missing node is ignored. -/
def deleteIrqNode (set : NvmeIrqSet) (irqId : Nat) : NvmeIrqSet :=
  { set with irqList := set.irqList.eraseP fun irq => irq.irqId = irqId }

/-- `create_work_node`. -/
def createWorkNode (alloc : Bool) (set : NvmeIrqSet) (intVec irqId : Nat) :
    Int × NvmeIrqSet :=
  match set.findWorkNodeById irqId with
  | some work =>
      if work.intVec = intVec then (0, set) else (-Errno.EINVAL, set)
  | none =>
      match set.findWorkNodeByVec intVec with
      | some _ => (-Errno.EINVAL, set)
      | none =>
          if alloc then
            (0, { set with workList := set.workList ++
              [⟨irqId, intVec, false⟩] })
          else
            (-Errno.ENOMEM, set)

/-- `delete_work_node` of the node of an id; a missing node is ignored. -/
def deleteWorkNode (set : NvmeIrqSet) (irqId : Nat) : NvmeIrqSet :=
  { set with workList := set.workList.eraseP fun work => work.irqId = irqId }

/-! ## The bottom half -/

/-- `inc_isr_count`. -/
def incIsrCount (set : NvmeIrqSet) (irqId : Nat) : NvmeIrqSet :=
  set.updateIrq irqId fun irq =>
    { irq with isrFired := true, isrCount := irq.isrCount + 1 }

/-- `update_irq_flag`, run for a work node that waits in the work queue. -/
def updateIrqFlag (set : NvmeIrqSet) (irqId : Nat) : NvmeIrqSet :=
  match set.findWorkNodeById irqId with
  | none => set
  | some work =>
      if work.queued then
        incIsrCount
          (set.updateWork irqId fun work => { work with queued := false })
          irqId
      else
        set

/-- `dnvme_interrupt`. -/
def dnvmeInterrupt (set : NvmeIrqSet) (intVec : Nat) : NvmeIrqSet :=
  match set.findWorkNodeByVec intVec with
  | none => set
  | some work =>
      (dnvmeMaskInterrupt set work.irqId).updateWork work.irqId
        fun work => { work with queued := true }

/-- `create_irq_work_queue`. -/
def createIrqWorkQueue (alloc : Bool) (set : NvmeIrqSet) :
    Int × NvmeIrqSet :=
  if set.wq then (0, set)
  else if alloc then (0, { set with wq := true })
  else (-Errno.ENOMEM, set)

/-- `destroy_irq_work_queue`: the waiting work runs first. -/
def destroyIrqWorkQueue (set : NvmeIrqSet) : NvmeIrqSet :=
  if set.wq then
    { (set.workList.map NvmeWork.irqId).foldl updateIrqFlag set with
      wq := false }
  else
    set

/-! ## Setting up a scheme -/

/-- The outcomes of the external calls of `dnvme_set_interrupt`. -/
structure IrqEnv where
  /-- The vectors the kernel hands out. -/
  vector : Nat → Nat
  /-- What `pci_enable_msi`, `pci_alloc_irq_vectors` or
  `pci_enable_msix_range` returns. -/
  granted : Int
  /-- `request_irq` of each vector: its error code. -/
  request : Nat → Int
  /-- `kzalloc` of each irq node. -/
  irqAlloc : Nat → Bool
  /-- `kzalloc` of each work node. -/
  workAlloc : Nat → Bool
  /-- `kmalloc` of the icq node. -/
  icqAlloc : Bool
  /-- `create_workqueue`. -/
  wqAlloc : Bool
  /-- `kcalloc` of the MSI-X entries. -/
  entriesAlloc : Bool
  /-- `pba_bits_is_set`. -/
  pbaSet : Bool
  /-- Whether the function has an MSI capability. -/
  msiCap : Bool
  /-- `pci_msi_read_mc`: the number of vectors or an error code. -/
  msiVectors : Except Int Nat
  /-- The MSI-X capability: table size, table BIR and offset, PBA BIR and
  offset. -/
  msixCap : Option (Nat × (Nat × Nat) × (Nat × Nat))

/-- `create_irq_work_pair`. -/
def createIrqWorkPair (env : IrqEnv) (set : NvmeIrqSet)
    (intVec irqId : Nat) : Int × NvmeIrqSet :=
  let (ret, withIrq) := createIrqNode (env.irqAlloc irqId) set intVec irqId
  if ret < 0 then (ret, withIrq)
  else
    let (ret, withWork) :=
      createWorkNode (env.workAlloc irqId) withIrq intVec irqId
    if ret < 0 then (ret, deleteIrqNode withWork irqId)
    else if irqId = 0 then
      let (ret, withIcq) := dnvmeCreateIcqNode env.icqAlloc withWork 0 irqId
      if ret < 0 then
        (ret, deleteIrqNode (deleteWorkNode withIcq irqId) irqId)
      else
        (0, withIcq)
    else
      (0, withWork)

/-- `destroy_irq_work_pair`. -/
def destroyIrqWorkPair (set : NvmeIrqSet) (irqId : Nat) : NvmeIrqSet :=
  deleteIrqNode (deleteWorkNode set irqId) irqId

/-- The loop of `request_irq` calls: the handlers registered so far stay
registered when a call fails. -/
def requestIrqs (env : IrqEnv) : (count index : Nat) → NvmeIrqSet →
    Int × NvmeIrqSet
  | 0, _, set => (0, set)
  | count + 1, index, set =>
      if env.request index < 0 then (env.request index, set)
      else requestIrqs env count (index + 1)
        { set with handlers := env.vector index :: set.handlers }

/-- The loop of `create_irq_work_pair` calls, with the clean-up of the pairs
that were made when a call fails. -/
def createPairs (env : IrqEnv) : (count index : Nat) → NvmeIrqSet →
    Int × NvmeIrqSet
  | 0, _, set => (0, set)
  | count + 1, index, set =>
      let (ret, next) := createIrqWorkPair env set (env.vector index) index
      if ret < 0 then
        (ret, (List.range index).reverse.foldl destroyIrqWorkPair next)
      else
        createPairs env count (index + 1) next

/-- `free_irq` for the first `count` vectors. -/
def freeIrqs (env : IrqEnv) (count : Nat) (set : NvmeIrqSet) :
    NvmeIrqSet :=
  { set with handlers :=
      ((List.range count).map env.vector).foldl List.erase set.handlers }

/-- The number of `request_irq` calls that succeed before one fails. -/
def requested (env : IrqEnv) (count : Nat) : Nat :=
  ((List.range count).takeWhile fun index => 0 ≤ env.request index).length

/-- `set_int_pin`. -/
def setIntPin (env : IrqEnv) (set : NvmeIrqSet) : Int × NvmeIrqSet :=
  let (ret, registered) := requestIrqs env 1 0 set
  if ret < 0 then (ret, registered)
  else
    let (ret, paired) := createPairs env 1 0 registered
    if ret < 0 then (ret, freeIrqs env 1 paired)
    else (0, { paired.writeIntMasks false with mode := .pin })

/-- `set_int_msi_single`. -/
def setIntMsiSingle (env : IrqEnv) (set : NvmeIrqSet) : Int × NvmeIrqSet :=
  let cleared := set.writeIntMasks false
  if env.granted ≠ 0 then (env.granted, cleared.writeIntMasks true)
  else
    let (ret, registered) :=
      requestIrqs env 1 0 { cleared with mode := .msiSingle }
    if ret < 0 then
      (ret, { registered.writeIntMasks true with mode := .none })
    else
      let (ret, paired) := createPairs env 1 0 registered
      if ret < 0 then
        (ret, { (freeIrqs env 1 paired).writeIntMasks true with
          mode := .none })
      else
        (0, paired)

/-- `set_int_msi_multi`: the error path leaves the vectors allocated. -/
def setIntMsiMulti (env : IrqEnv) (numIrqs : Nat) (set : NvmeIrqSet) :
    Int × NvmeIrqSet :=
  let cleared := set.writeIntMasks false
  if env.granted ≠ numIrqs then (env.granted, cleared.writeIntMasks true)
  else
    let (ret, registered) :=
      requestIrqs env numIrqs 0 { cleared with mode := .msiMulti }
    if ret < 0 then
      (ret, (freeIrqs env (requested env numIrqs) registered).writeIntMasks
        true)
    else
      let (ret, paired) := createPairs env numIrqs 0 registered
      if ret < 0 then
        (ret, (freeIrqs env numIrqs paired).writeIntMasks true)
      else
        (0, paired)

/-- `set_int_msix`. -/
def setIntMsix (env : IrqEnv) (numIrqs : Nat) (set : NvmeIrqSet) :
    Int × NvmeIrqSet :=
  if !env.entriesAlloc then (-Errno.ENOMEM, set)
  else if env.granted ≠ numIrqs then (-Errno.EPERM, set)
  else
    let (ret, registered) :=
      requestIrqs env numIrqs 0 { set with mode := .msix }
    if ret < 0 then
      (ret, { freeIrqs env (requested env numIrqs) registered with
        mode := .none })
    else
      let (ret, paired) := createPairs env numIrqs 0 registered
      if ret < 0 then
        (ret, { freeIrqs env numIrqs paired with mode := .none })
      else if env.pbaSet then
        let removed :=
          (List.range numIrqs).reverse.foldl destroyIrqWorkPair paired
        (-Errno.EINVAL, { freeIrqs env numIrqs removed with mode := .none })
      else
        (0, (List.range numIrqs).foldl
          (fun set entry => set.writeMsixMask entry true) paired)

/-- `struct nvme_interrupt`. -/
structure NvmeInterrupt where
  irqType : NvmeIrqType
  numIrqs : Nat
  deriving DecidableEq, Repr

/-- `init_msix_ptr`. -/
def initMsixPtr (set : NvmeIrqSet)
    (cap : Nat × (Nat × Nat) × (Nat × Nat)) : Int × NvmeIrqSet :=
  let (irqs, (tbir, tableOffset), (pbir, pbaOffset)) := cap
  if set.msix.irqs ≠ 0 then (0, set)
  else
    let counted := { set with msix := { set.msix with irqs := irqs } }
    if tbir ≠ 0 then (-Errno.EINVAL, counted)
    else
      let table :=
        { counted with msix :=
            { counted.msix with tb := some tableOffset } }
      if pbir ≠ 0 then (-Errno.EINVAL, table)
      else
        (0, { table with msix := { table.msix with pba := some pbaOffset } })

/-- `check_interrupt`. -/
def checkInterrupt (env : IrqEnv) (ccEnable : Bool) (set : NvmeIrqSet)
    (irq : NvmeInterrupt) : Int × NvmeIrqSet :=
  if ccEnable then (-Errno.EINVAL, set)
  else
    match irq.irqType with
    | .msiSingle =>
        if irq.numIrqs ≠ 1 then (-Errno.EINVAL, set)
        else if !env.msiCap then (-Errno.EINVAL, set)
        else (0, set)
    | .msiMulti =>
        if irq.numIrqs > 32 ∨ irq.numIrqs = 0 then (-Errno.EINVAL, set)
        else if !env.msiCap then (-Errno.EINVAL, set)
        else
          match env.msiVectors with
          | .error ret => (ret, set)
          | .ok count =>
              if irq.numIrqs > count then (-Errno.EINVAL, set)
              else (0, set)
    | .msix =>
        if irq.numIrqs > 2048 ∨ irq.numIrqs = 0 then (-Errno.EINVAL, set)
        else
          match env.msixCap with
          | none => (-Errno.EINVAL, set)
          | some cap =>
              let (ret, pointed) := initMsixPtr set cap
              if ret < 0 then (ret, pointed)
              else if irq.numIrqs > pointed.msix.irqs then
                (-Errno.EINVAL, pointed)
              else
                (0, pointed)
    | .pin | .none => (0, set)
    | .unknown _ => (-Errno.EINVAL, set)

/-- `dnvme_clean_interrupt`. -/
def dnvmeCleanInterrupt (set : NvmeIrqSet) : NvmeIrqSet :=
  let freed :=
    { set with
      handlers := (set.irqList.map NvmeIrq.intVec).foldl List.erase
        set.handlers
      mode :=
        match set.irqType with
        | .none | .unknown _ => set.mode
        | _ => .none }
  { destroyIrqWorkQueue freed with
    irqList := []
    workList := []
    irqType := .none
    nrIrq := 0 }

/-- `dnvme_set_interrupt` after the request was copied in. -/
def dnvmeSetInterrupt (env : IrqEnv) (ccEnable : Bool) (set : NvmeIrqSet)
    (irq : NvmeInterrupt) : Int × NvmeIrqSet :=
  let (ret, checked) := checkInterrupt env ccEnable set irq
  if ret < 0 then (ret, checked)
  else
    let cleaned :=
      if checked.irqType ≠ .none then dnvmeCleanInterrupt checked
      else checked
    let (ret, ready) := createIrqWorkQueue env.wqAlloc cleaned
    if ret < 0 then (ret, ready)
    else
      let (ret, done) :=
        match irq.irqType with
        | .msiSingle => setIntMsiSingle env ready
        | .msiMulti => setIntMsiMulti env irq.numIrqs ready
        | .msix => setIntMsix env irq.numIrqs ready
        | .pin => setIntPin env ready
        | .none => (0, ready)
        | .unknown _ => (-Errno.EBADRQC, ready)
      if ret < 0 then (ret, destroyIrqWorkQueue done)
      else
        (0, { done with irqType := irq.irqType, nrIrq := irq.numIrqs })

end Dnvme.Driver
