import Dnvme.Nvme.DeviceHandle

/-!
# The life of a handle

Every function that initialises a part of a handle takes all of the part or
nothing, so that each stage of `nvme_init` does.  The function itself does
not: its failing path frees the handle and nothing else.
-/

namespace Dnvme.Nvme.DeviceHandle

open Dnvme.Driver
open Dnvme.Nvme
open Dnvme.Nvme.IoqInfo (IoqTables Numbers nvmeAllocIosqInfo nvmeAllocIocqInfo)
open Dnvme.Nvme.Namespaces (World Heap NsGroup NsInstance Orderly nvmeIdentify)
open Dnvme.Lib.Holdings (pointed total)

variable (env : Env)

/-! ## The statement -/

/-- The device is opened. -/
def Opened : Prop :=
  env.memory .ndev = true ∧ 0 ≤ env.openDev

/-- The calls of the first stage succeed. -/
structure Stage1Passes : Prop where
  disable : 0 ≤ env.first.disable
  getDevInfo : 0 ≤ env.getDevInfo
  gnlConnect : 0 ≤ env.gnlConnect
  createAqPair : 0 ≤ env.first.createAqPair
  setIrq : 0 ≤ env.first.setIrq
  enable : 0 ≤ env.first.enable
  ctrl : env.memory .ctrl = true
  numQueues : nvmeIdentify env.numQueues = 0
  idCtrl : env.memory .idCtrl = true
  identifyCtrl : 0 ≤ env.identifyCtrl

/-- What the first stage takes. -/
def stage1Held : Held :=
  .idCtrl ::ₘ .ctrl ::ₘ .socket ::ₘ 0

/-- How `nvme_init` ends: what it returns and what is held then. -/
inductive Ends : Option NvmeDevInfo → Held → Heap → Prop where
  | unopened (fails : ¬Opened env) : Ends none 0 0
  | stage1 (opened : Opened env) (fails : ¬Stage1Passes env) :
      Ends none (.fd ::ₘ 0) 0
  | stage2 (opened : Opened env) (passes : Stage1Passes env) :
      Ends none (stage1Held + (.fd ::ₘ 0)) 0
  | ready {ndev : NvmeDevInfo} {held : Held} {heap : Heap}
      (opened : Opened env) (passes : Stage1Passes env)
      (whole : stage1Held + (.fd ::ₘ .ndev ::ₘ 0) ≤ held)
      (releases : nvmeDeinit ndev held heap = .ok (0, 0)) :
      Ends (some ndev) held heap

/-- The counters of 16 bits pass the numbers of queues that the controller
grants. -/
def CountersPass : Prop :=
  (requestIoQueueNum env zeroCtrl).2.nrSq < 65535 ∧
    (requestIoQueueNum env zeroCtrl).2.nrCq < 65535

/-! ## The first stage -/

theorem eperm_negative : -Errno.EPERM < 0 := by
  decide

theorem enomem_negative : -Errno.ENOMEM < 0 := by
  decide

section First

variable {env} {ndev : NvmeDevInfo} {held : Held}

theorem initIdentifyCtrlData_cases (ctrl : NvmeCtrlInstance) (held : Held) :
    (¬(env.memory .idCtrl = true ∧ 0 ≤ env.identifyCtrl) ∧ ∃ ret < 0,
        initIdentifyCtrlData env ctrl held = .ok (ret, ctrl, held)) ∨
      ((env.memory .idCtrl = true ∧ 0 ≤ env.identifyCtrl) ∧
        initIdentifyCtrlData env ctrl held = .ok (0,
          { ctrl with idCtrl := some .idCtrl }, .idCtrl ::ₘ held)) := by
  unfold initIdentifyCtrlData
  cases memory : env.memory .idCtrl with
  | false =>
      exact .inl ⟨fun granted => Bool.false_ne_true granted.1, _,
        enomem_negative, rfl⟩
  | true =>
      by_cases fails : env.identifyCtrl < 0
      · refine .inl ⟨fun granted => absurd fails (not_lt.mpr granted.2), _,
          eperm_negative, ?_⟩
        refine (if_pos fails).trans ?_
        rw [free_cons]
        rfl
      · exact .inr ⟨⟨rfl, not_lt.mp fails⟩, if_neg fails⟩

/-- The controller after the first stage. -/
def stage1Ctrl (env : Env) : NvmeCtrlInstance :=
  { (requestIoQueueNum env zeroCtrl).2 with idCtrl := some .idCtrl }

theorem requestIoQueueNum_ret (ctrl : NvmeCtrlInstance) :
    (requestIoQueueNum env ctrl).1 = nvmeIdentify env.numQueues := by
  unfold requestIoQueueNum
  rcases Namespaces.nvmeIdentify_cases env.numQueues with zero | fails
  · rw [zero]
    rfl
  · dsimp only
    rw [if_pos fails]

/-- What the first stage needs for the controller. -/
def CtrlPasses (env : Env) : Prop :=
  env.memory .ctrl = true ∧ nvmeIdentify env.numQueues = 0 ∧
    env.memory .idCtrl = true ∧ 0 ≤ env.identifyCtrl

theorem initCtrlInstance1_cases (fresh : ndev.ctrl = none) (held : Held) :
    (¬CtrlPasses env ∧ ∃ ret < 0,
        initCtrlInstance1 env ndev held = .ok (ret, ndev, held)) ∨
      (CtrlPasses env ∧ initCtrlInstance1 env ndev held = .ok (0,
        { ndev with ctrl := some (stage1Ctrl env) },
        .idCtrl ::ₘ .ctrl ::ₘ held)) := by
  unfold initCtrlInstance1
  rw [fresh]
  cases memory : env.memory .ctrl with
  | false =>
      exact .inl ⟨fun passes => Bool.false_ne_true (memory.symm.trans passes.1),
        _, enomem_negative, rfl⟩
  | true =>
      have asked := @requestIoQueueNum_ret env zeroCtrl
      rcases Namespaces.nvmeIdentify_cases env.numQueues with zero | refused
      · have onward : ¬(requestIoQueueNum env zeroCtrl).1 < 0 := by
          rw [asked, zero]
          decide
        dsimp only [Option.isSome, Bool.not_true]
        simp only [Bool.false_eq_true, if_false, if_neg onward]
        rcases @initIdentifyCtrlData_cases env
          (requestIoQueueNum env zeroCtrl).2 (.ctrl ::ₘ held) with
          ⟨lacks, ret, negative, ends⟩ | ⟨granted, ends⟩
        · refine .inl ⟨fun passes => lacks passes.2.2, _, eperm_negative, ?_⟩
          rw [ends]
          refine (if_pos negative).trans ?_
          unfold stage1FreeCtrl
          rw [free_cons]
          rfl
        · refine .inr ⟨⟨memory, zero, granted⟩, ?_⟩
          rw [ends]
          rfl
      · have stops : (requestIoQueueNum env zeroCtrl).1 < 0 := by
          rw [asked]
          exact refused
        refine .inl ⟨fun passes => absurd passes.2.1 (ne_of_lt refused), _,
          eperm_negative, ?_⟩
        dsimp only [Option.isSome, Bool.not_true]
        simp only [Bool.false_eq_true, if_false, if_pos stops]
        unfold stage1FreeCtrl
        rw [free_cons]
        rfl

/-- The handle after the first stage. -/
def stage1Ndev (env : Env) : NvmeDevInfo :=
  { zeroDevInfo with
    fd := some .fd
    sockFd := some .socket
    irqType := .pin
    nrIrq := 1
    ctrl := some (stage1Ctrl env) }

theorem outGnlDisconnect_frees (socket : ndev.sockFd = some .socket)
    (held : Held) : outGnlDisconnect ndev (.socket ::ₘ held) =
      .ok (-Errno.EPERM, { ndev with sockFd := none }, held) := by
  unfold outGnlDisconnect
  rw [socket, freeSet_cons]
  rfl

/-- The first stage takes its part, or nothing. -/
theorem nvmeInitStage1_cases (held : Held) :
    (¬Stage1Passes env ∧ ∃ ret < 0, ∃ ndev,
        nvmeInitStage1 env { zeroDevInfo with fd := some .fd } held =
          .ok (ret, ndev, held)) ∨
      (Stage1Passes env ∧
        nvmeInitStage1 env { zeroDevInfo with fd := some .fd } held =
          .ok (0, stage1Ndev env, stage1Held + held)) := by
  unfold nvmeInitStage1
  by_cases start : env.first.disable < 0 ∨ env.getDevInfo < 0 ∨
      env.gnlConnect < 0
  · refine .inl ⟨fun passes => ?_, _, eperm_negative, _, if_pos start⟩
    have disable := passes.disable
    have info := passes.getDevInfo
    have connect := passes.gnlConnect
    omega
  rw [if_neg start]
  by_cases queues : env.first.createAqPair < 0 ∨ env.first.setIrq < 0
  · refine .inl ⟨fun passes => ?_, _, eperm_negative, _, (if_pos queues).trans
      (outGnlDisconnect_frees rfl held)⟩
    have create := passes.createAqPair
    have irq := passes.setIrq
    omega
  dsimp only
  rw [if_neg queues]
  by_cases enable : env.first.enable < 0
  · exact .inl ⟨fun passes => absurd enable (not_lt.mpr passes.enable), _,
      eperm_negative, _,
      (if_pos enable).trans (outGnlDisconnect_frees rfl held)⟩
  rw [if_neg enable]
  rcases @initCtrlInstance1_cases env { zeroDevInfo with
      fd := some .fd, sockFd := some .socket, irqType := .pin, nrIrq := 1 }
    rfl (.socket ::ₘ held) with ⟨lacks, ret, negative, ends⟩ | ⟨passes, ends⟩
  · refine .inl ⟨fun passes => lacks ⟨passes.ctrl, passes.numQueues,
      passes.idCtrl, passes.identifyCtrl⟩, _, eperm_negative,
      { zeroDevInfo with fd := some .fd, irqType := .pin, nrIrq := 1 }, ?_⟩
    rw [ends]
    exact (if_pos negative).trans (outGnlDisconnect_frees rfl held)
  · simp only [not_or, not_lt] at start queues enable
    refine .inr ⟨⟨start.1, start.2.1, start.2.2, queues.1, queues.2, enable,
      passes.1, passes.2.1, passes.2.2.1, passes.2.2.2⟩, ?_⟩
    rw [ends]
    unfold stage1Held
    rw [Multiset.cons_add, Multiset.cons_add, Multiset.cons_add, zero_add]
    rfl

end First

/-! ## The second stage -/

section Second

variable {env} {nrSq nrCq : Nat} {idCtrl prop : Option Resource}

/-- What the pointers to the data of the command sets hold. -/
def csHeld (ctrl : NvmeCtrlInstance) : Held :=
  pointed ctrl.idCtrlZns + (pointed ctrl.idCtrlNvm + pointed ctrl.idCtrlCsc)

/-- A controller without data of the command sets. -/
def withoutCs (ctrl : NvmeCtrlInstance) : NvmeCtrlInstance :=
  { ctrl with idCtrlNvm := none, idCtrlZns := none, idCtrlCsc := none }

theorem deinitIdCsCtrl_frees (ctrl : NvmeCtrlInstance) (rest : Held) :
    deinitIdCsCtrl ctrl (csHeld ctrl + rest) = .ok (withoutCs ctrl, rest) := by
  unfold deinitIdCsCtrl csHeld
  rw [add_assoc, add_assoc, freeSet_pointed]
  dsimp only [bind, Except.bind]
  rw [freeSet_pointed]
  dsimp only
  rw [freeSet_pointed]
  rfl

theorem outIdCsCtrl_frees (ret : Int) (ctrl : NvmeCtrlInstance)
    (rest : Held) : outIdCsCtrl ret ctrl (csHeld ctrl + rest) =
      .ok (ret, withoutCs ctrl, rest) := by
  unfold outIdCsCtrl
  rw [deinitIdCsCtrl_frees]
  rfl

/-- A command set is read into the memory that its pointer is set to. -/
theorem readCsCtrl_holds (vector : Nat) (csi : UInt8) (resource : Resource)
    (held : Held) : ∃ ret pointer,
      readCsCtrl env vector csi resource none held =
        (ret, pointer, pointed pointer + held) := by
  unfold readCsCtrl
  split_ifs
  · exact ⟨0, none, congrArg (fun held => (0, none, held)) (zero_add held).symm⟩
  · exact ⟨_, none, congrArg (fun held => (_, none, held)) (zero_add held).symm⟩
  · exact ⟨_, some resource, rfl⟩

/-- How the data of the command sets is read: it is let go of, or held by its
pointers. -/
inductive CsEnds (ctrl : NvmeCtrlInstance) (rest : Held) :
    Int × NvmeCtrlInstance × Held → Prop where
  | failed {ret : Int} (negative : ret < 0) :
      CsEnds ctrl rest (ret, withoutCs ctrl, rest)
  | ready (after : NvmeCtrlInstance) (same : withoutCs after = withoutCs ctrl) :
      CsEnds ctrl rest (0, after, csHeld after + rest)

theorem readCsCtrls_ends (vector : Nat) {ctrl : NvmeCtrlInstance}
    (nvm : ctrl.idCtrlNvm = none) (zns : ctrl.idCtrlZns = none) (rest : Held) :
    ∃ result, readCsCtrls env vector ctrl (csHeld ctrl + rest) = .ok result ∧
      CsEnds ctrl rest result := by
  unfold readCsCtrls
  rw [nvm, zns]
  obtain ⟨nvmRet, nvmData, nvmReads⟩ := @readCsCtrl_holds env vector
    Namespaces.nvmeCsiNvm .idCtrlNvm (csHeld ctrl + rest)
  rw [nvmReads]
  dsimp only
  have nvmHeld : pointed nvmData + (csHeld ctrl + rest) =
      csHeld { ctrl with idCtrlNvm := nvmData } + rest := by
    unfold csHeld
    rw [nvm, zns]
    simp only [Lib.Holdings.pointed_none, zero_add, add_assoc]
  rw [nvmHeld]
  by_cases nvmFails : nvmRet < 0
  · rw [if_pos nvmFails]
    rw [zns] at *
    exact ⟨_, outIdCsCtrl_frees _ _ _, .failed nvmFails⟩
  rw [if_neg nvmFails]
  obtain ⟨znsRet, znsData, znsReads⟩ := @readCsCtrl_holds env vector
    Namespaces.nvmeCsiZns .idCtrlZns
    (csHeld { ctrl with idCtrlNvm := nvmData } + rest)
  rw [znsReads]
  dsimp only
  have znsHeld : pointed znsData +
      (csHeld { ctrl with idCtrlNvm := nvmData } + rest) =
      csHeld { ctrl with idCtrlNvm := nvmData, idCtrlZns := znsData } +
        rest := by
    unfold csHeld
    rw [zns]
    simp only [Lib.Holdings.pointed_none, zero_add, add_assoc]
  rw [znsHeld]
  by_cases znsFails : znsRet < 0
  · rw [if_pos znsFails]
    exact ⟨_, outIdCsCtrl_frees _ _ _, .failed znsFails⟩
  · rw [if_neg znsFails]
    exact ⟨_, rfl, .ready _ rfl⟩

/-- The controller of the first stage, with its property. -/
def plainCtrl (nrSq nrCq : Nat) (idCtrl prop : Option Resource) :
    NvmeCtrlInstance :=
  ⟨nrSq, nrCq, idCtrl, prop, none, none, none⟩

theorem iocsProfile_index (granted : ¬nvmeGetFeatIocsProfile env < 0) :
    ∃ vector, tableAt env.vector (nvmeGetFeatIocsProfile env).toNat =
      .ok vector := by
  have index : (nvmeGetFeatIocsProfile env).toNat < env.vector.length := by
    rw [env.vectorLength]
    unfold nvmeGetFeatIocsProfile at granted ⊢
    dsimp only at granted ⊢
    by_cases refused : nvmeIdentify env.iocsProfile < 0
    · rw [if_pos refused] at granted
      exact absurd refused granted
    · rw [if_neg refused, Int.toNat_natCast]
      exact Nat.and_lt_two_pow _ (show 0x1ff < 2 ^ 9 by decide)
  exact ⟨_, NsIdDesc.tableAt_of_some (List.getElem?_eq_getElem index)⟩

theorem initIdCsCtrl_ends (nrSq nrCq : Nat) (idCtrl prop : Option Resource)
    (rest : Held) : ∃ result, initIdCsCtrl env
      (plainCtrl nrSq nrCq idCtrl prop) rest = .ok result ∧
        CsEnds (plainCtrl nrSq nrCq idCtrl prop) rest result := by
  have nothing : rest = csHeld (plainCtrl nrSq nrCq idCtrl prop) + rest := by
    unfold csHeld plainCtrl
    simp only [Lib.Holdings.pointed_none, zero_add]
  have unchanged : CsEnds (plainCtrl nrSq nrCq idCtrl prop) rest
      (0, plainCtrl nrSq nrCq idCtrl prop, rest) := by
    have ready := @CsEnds.ready (plainCtrl nrSq nrCq idCtrl prop) rest
      (plainCtrl nrSq nrCq idCtrl prop) rfl
    rwa [← nothing] at ready
  unfold initIdCsCtrl
  split_ifs with old refused csi memory list
  · exact ⟨_, rfl, unchanged⟩
  · exact ⟨_, rfl, .failed eperm_negative⟩
  · exact ⟨_, rfl, .failed enomem_negative⟩
  · exact ⟨_, outIdCsCtrl_frees _ _ _, .failed list⟩
  · dsimp only
    by_cases profile : nvmeGetFeatIocsProfile env < 0
    · rw [if_pos profile]
      exact ⟨_, outIdCsCtrl_frees _ _ _,
        .failed eperm_negative⟩
    · rw [if_neg profile]
      obtain ⟨vector, there⟩ := iocsProfile_index profile
      rw [there]
      obtain ⟨result, ends, how⟩ := @readCsCtrls_ends env vector
        { plainCtrl nrSq nrCq idCtrl prop with idCtrlCsc := some .idCtrlCsc }
        rfl rfl rest
      refine ⟨result, ?_, ?_⟩
      · exact ends
      · cases how with
        | failed negative => exact .failed negative
        | ready after same => exact .ready after same
  · exact ⟨_, rfl, unchanged⟩

theorem initCtrlProperty_cases (ctrl : NvmeCtrlInstance) (held : Held) :
    (∃ ret < 0, initCtrlProperty env ctrl held = .ok (ret, ctrl, held)) ∨
      initCtrlProperty env ctrl held =
        .ok (0, { ctrl with prop := some .prop }, .prop ::ₘ held) := by
  unfold initCtrlProperty
  split_ifs with memory reads
  · exact .inl ⟨_, enomem_negative, rfl⟩
  · refine .inl ⟨_, eperm_negative, ?_⟩
    rw [free_cons]
    rfl
  · exact .inr rfl

/-- The data of the controller is read completely, or none of it is held. -/
theorem initCtrlInstance2_cases {ndev : NvmeDevInfo}
    (ctrl : ndev.ctrl = some (plainCtrl nrSq nrCq idCtrl none))
    (held : Held) :
    (∃ ret < 0, ∃ failed, failed.pdev = ndev.pdev ∧
        initCtrlInstance2 env ndev held = .ok (ret, failed, held)) ∨
      ∃ after, withoutCs after = plainCtrl nrSq nrCq idCtrl (some .prop) ∧
        initCtrlInstance2 env ndev held = .ok (0,
          { ndev with ctrl := some after },
          csHeld after + (.prop ::ₘ held)) := by
  unfold initCtrlInstance2
  rw [ctrl]
  dsimp only [Option.elim]
  rcases @initCtrlProperty_cases env (plainCtrl nrSq nrCq idCtrl none) held
    with ⟨ret, negative, ends⟩ | ends
  · rw [ends]
    exact .inl ⟨_, eperm_negative, { ndev with ctrl := some (plainCtrl nrSq
      nrCq idCtrl none) }, rfl, if_pos negative⟩
  rw [ends]
  obtain ⟨result, reads, how⟩ := @initIdCsCtrl_ends env nrSq nrCq idCtrl
    (some .prop) (.prop ::ₘ held)
  dsimp only [bind, Except.bind]
  rw [if_neg (Int.lt_irrefl 0)]
  change initIdCsCtrl env { plainCtrl nrSq nrCq idCtrl none with
    prop := some .prop } (.prop ::ₘ held) = _ at reads
  rw [reads]
  cases how with
  | failed negative =>
      refine .inl ⟨-Errno.EPERM, eperm_negative, { ndev with
        ctrl := some (plainCtrl nrSq nrCq idCtrl none) }, rfl,
        (if_pos negative).trans ?_⟩
      unfold stage2ExitCtrlProp deinitCtrlProperty
      rw [show (withoutCs (plainCtrl nrSq nrCq idCtrl (some .prop))).prop =
        some .prop from rfl, freeSet_cons]
      rfl
  | ready after same => exact .inr ⟨after, same, rfl⟩

theorem deinitCtrlInstance2_frees {ndev : NvmeDevInfo}
    {ctrl : NvmeCtrlInstance} (here : ndev.ctrl = some ctrl)
    (property : ctrl.prop = some .prop) (rest : Held) :
    deinitCtrlInstance2 ndev (csHeld ctrl + (.prop ::ₘ rest)) =
      .ok ({ ndev with ctrl := some { withoutCs ctrl with prop := none } },
        rest) := by
  unfold deinitCtrlInstance2
  rw [here]
  dsimp only [Option.elim]
  rw [deinitIdCsCtrl_frees]
  dsimp only [bind, Except.bind]
  unfold deinitCtrlProperty
  rw [show (withoutCs ctrl).prop = some .prop from property, freeSet_cons]
  rfl

theorem initPciDevInstance_cases (ndev : NvmeDevInfo) (held : Held) :
    (∃ ret < 0, initPciDevInstance env ndev held = .ok (ret, ndev, held)) ∨
      ∃ pdev, initPciDevInstance env ndev held =
        .ok (0, { ndev with pdev := some pdev }, .pdev ::ₘ held) := by
  have frees (ret : Int) :
      freePdev ret ndev (.pdev ::ₘ held) = .ok (ret, ndev, held) := by
    unfold freePdev
    rw [free_cons]
    rfl
  unfold initPciDevInstance
  dsimp only
  split_ifs with memory bdf reads link
  · exact .inl ⟨_, enomem_negative, rfl⟩
  · exact .inl ⟨_, bdf, frees _⟩
  · exact .inl ⟨_, reads, frees _⟩
  · exact .inl ⟨_, link, frees _⟩
  · exact .inr ⟨_, rfl⟩

theorem deinitPciDevInstance_frees {ndev : NvmeDevInfo} {pdev : PciDevInstance}
    (here : ndev.pdev = some pdev) (rest : Held) :
    deinitPciDevInstance ndev (.pdev ::ₘ rest) =
      .ok ({ ndev with pdev := none }, rest) := by
  unfold deinitPciDevInstance
  rw [here]
  dsimp only [Option.elim]
  rw [free_cons]
  rfl

theorem nvmeAllocIosqInfo_cases {dev : IoqInfo.NvmeDevInfo}
    (passes : dev.nrSq < 65535) (memory : Bool) (numbers : Numbers)
    (tables : IoqTables) : (∃ ret < 0,
        nvmeAllocIosqInfo memory numbers dev tables = .ok (ret, tables)) ∨
      ∃ next, nvmeAllocIosqInfo memory numbers dev tables = .ok (0, next) := by
  unfold nvmeAllocIosqInfo
  cases memory with
  | false => exact .inl ⟨_, enomem_negative, rfl⟩
  | true =>
      obtain ⟨sqs, done, _⟩ := IoqInfo.entryLoop_ok passes
        List.length_replicate (IoqInfo.allocSq_ok dev numbers)
      rw [done]
      exact .inr ⟨_, rfl⟩

theorem nvmeAllocIocqInfo_cases {dev : IoqInfo.NvmeDevInfo}
    (passes : dev.nrCq < 65535) (memory : Bool) (numbers : Numbers)
    (tables : IoqTables) : (∃ ret < 0,
        nvmeAllocIocqInfo memory numbers dev tables = .ok (ret, tables)) ∨
      ∃ next, nvmeAllocIocqInfo memory numbers dev tables = .ok (0, next) := by
  unfold nvmeAllocIocqInfo
  cases memory with
  | false => exact .inl ⟨_, enomem_negative, rfl⟩
  | true =>
      obtain ⟨cqs, done, _⟩ := IoqInfo.entryLoop_ok passes
        List.length_replicate (IoqInfo.allocCq_ok dev numbers)
      rw [done]
      exact .inr ⟨_, rfl⟩

/-- Both tables are filled, or none of them is held. -/
theorem nvmeInitIoqInfo_cases {ndev : NvmeDevInfo} {ctrl : NvmeCtrlInstance}
    (here : ndev.ctrl = some ctrl) (sqPasses : ctrl.nrSq < 65535)
    (cqPasses : ctrl.nrCq < 65535) (held : Held) :
    (∃ ret < 0, ∃ failed, failed.pdev = ndev.pdev ∧ failed.ctrl = ndev.ctrl ∧
        nvmeInitIoqInfo env ndev held = .ok (ret, failed, held)) ∨
      ∃ tables, nvmeInitIoqInfo env ndev held = .ok (0, { ndev with
          tables := tables, iosqs := some .iosqs, iocqs := some .iocqs },
        .iocqs ::ₘ .iosqs ::ₘ held) := by
  unfold nvmeInitIoqInfo
  rw [here]
  dsimp only [deref, Option.elim, bind, Except.bind]
  rcases @nvmeAllocIosqInfo_cases (planned env ctrl ndev) sqPasses
    (env.memory .iosqs) env.sqNumbers ndev.tables with
    ⟨ret, negative, ends⟩ | ⟨sqs, ends⟩
  · rw [ends]
    exact .inl ⟨_, eperm_negative, _, rfl, here, if_pos negative⟩
  rw [ends]
  dsimp only
  rw [if_neg (Int.lt_irrefl 0)]
  rcases @nvmeAllocIocqInfo_cases (planned env ctrl { ndev with
      tables := sqs, iosqs := some .iosqs, ctrl := some ctrl }) cqPasses
    (env.memory .iocqs) env.cqNumbers sqs with
    ⟨ret, negative, ends⟩ | ⟨cqs, ends⟩
  · rw [ends]
    dsimp only
    rw [if_pos negative, freeSet_cons]
    exact .inl ⟨_, eperm_negative, { ndev with
      tables := { sqs with iosqs := [] }
      iosqs := none
      ctrl := some ctrl }, rfl, rfl, rfl⟩
  · rw [ends]
    exact .inr ⟨cqs, rfl⟩

theorem nvmeDeinitIoqInfo_frees {ndev : NvmeDevInfo}
    (sqs : ndev.iosqs = some .iosqs) (cqs : ndev.iocqs = some .iocqs)
    (rest : Held) : nvmeDeinitIoqInfo ndev (.iocqs ::ₘ .iosqs ::ₘ rest) =
      .ok ({ ndev with tables := ⟨[], []⟩, iosqs := none, iocqs := none },
        rest) := by
  unfold nvmeDeinitIoqInfo
  rw [sqs, cqs, Multiset.cons_swap, freeSet_cons]
  dsimp only [bind, Except.bind]
  rw [freeSet_cons]
  rfl

/-- The instances from one on are freed. -/
theorem deinitNsLoop_frees (table : List NsInstance) (base : Heap) :
    ∀ (left i : Nat), i + left = table.length →
      deinitNsLoop table left i
        (base + total Namespaces.held (table.drop i)) = .ok base := by
  intro left
  induction left with
  | zero =>
      intro i all
      rw [List.drop_of_length_le (by omega)]
      exact congrArg Except.ok (add_zero base)
  | succ left ih =>
      intro i all
      have here := List.getElem?_eq_getElem (show i < table.length by omega)
      have parts : total Namespaces.held (table.drop i) =
          Namespaces.held table[i] +
            total Namespaces.held (table.drop (i + 1)) := by
        rw [List.drop_eq_getElem_cons (by omega)]
        exact List.sum_cons
      obtain ⟨after, frees, _⟩ := Namespaces.deinitNsInstance_frees table[i]
        (base + total Namespaces.held (table.drop (i + 1)))
      unfold deinitNsLoop
      rw [NsIdDesc.tableAt_of_some here, parts, add_left_comm]
      dsimp only [bind, Except.bind]
      rw [frees]
      exact ih (i + 1) (by omega)

theorem deinitNsGroup_frees {ndev : NvmeDevInfo} {group : NsGroup}
    {world : World} {nn : Nat} {outcome : Namespaces.Outcome}
    (here : ndev.nsGrp = some group)
    (complete : Namespaces.Complete world nn outcome group) :
    deinitNsGroup ndev outcome.heap = .ok ({ ndev with nsGrp := none }, 0) := by
  have loop := deinitNsLoop_frees group.ns (.list ::ₘ .group ::ₘ 0)
    group.nrNs 0 (by rw [complete.nrNs.1, complete.nrNs.2, Nat.zero_add])
  rw [List.drop_zero, Multiset.cons_add, Multiset.cons_add, zero_add] at loop
  unfold deinitNsGroup
  rw [here]
  dsimp only [Option.elim]
  rw [complete.heap, loop, complete.actList]
  dsimp only [bind, Except.bind]
  rw [show Namespaces.freeSet (some .list) (.list ::ₘ .group ::ₘ 0) =
    .ok (.group ::ₘ 0) from Namespaces.free_cons .list (.group ::ₘ 0)]
  dsimp only
  rw [Namespaces.free_cons]
  rfl

/-! ## The way back -/

theorem exitPciDevInstance_frees {ndev : NvmeDevInfo}
    (device : ∃ pdev, ndev.pdev = some pdev) (rest : Held) (heap : Heap) :
    exitPciDevInstance ndev (.pdev ::ₘ rest) heap =
      .ok (-Errno.EPERM, { ndev with pdev := none }, rest, heap) := by
  obtain ⟨pdev, here⟩ := device
  unfold exitPciDevInstance
  rw [deinitPciDevInstance_frees here]
  rfl

/-- What the second stage holds of a controller and its PCI device. -/
def ctrlHeld (ctrl : NvmeCtrlInstance) (rest : Held) : Held :=
  csHeld ctrl + (.prop ::ₘ .pdev ::ₘ rest)

/-- The controller and the PCI device are as the second stage leaves them. -/
structure Filled (ndev : NvmeDevInfo) (ctrl : NvmeCtrlInstance) : Prop where
  device : ∃ pdev, ndev.pdev = some pdev
  controller : ndev.ctrl = some ctrl
  property : ctrl.prop = some .prop

theorem exitCtrlInstance_frees {ndev : NvmeDevInfo} {ctrl : NvmeCtrlInstance}
    (filled : Filled ndev ctrl) (rest : Held) (heap : Heap) :
    ∃ failed, exitCtrlInstance ndev (ctrlHeld ctrl rest) heap =
      .ok (-Errno.EPERM, failed, rest, heap) := by
  unfold exitCtrlInstance ctrlHeld
  rw [deinitCtrlInstance2_frees filled.controller filled.property]
  dsimp only [bind, Except.bind]
  refine ⟨_, exitPciDevInstance_frees ?_ rest heap⟩
  exact filled.device

theorem exitIoq_frees {ndev : NvmeDevInfo} {ctrl : NvmeCtrlInstance}
    (filled : Filled ndev ctrl) (sqs : ndev.iosqs = some .iosqs)
    (cqs : ndev.iocqs = some .iocqs) (rest : Held) (heap : Heap) :
    ∃ failed, exitIoq ndev (.iocqs ::ₘ .iosqs ::ₘ ctrlHeld ctrl rest) heap =
      .ok (-Errno.EPERM, failed, rest, heap) := by
  unfold exitIoq
  rw [nvmeDeinitIoqInfo_frees sqs cqs]
  dsimp only [bind, Except.bind]
  refine exitCtrlInstance_frees ?_ rest heap
  exact ⟨filled.device, filled.controller, filled.property⟩

/-- A handle with all that the second stage takes over `rest`. -/
structure Ready (before : NvmeDevInfo) (rest : Held) (ndev : NvmeDevInfo)
    (held : Held) (heap : Heap) : Prop where
  filled : ∃ ctrl after, Filled ndev after ∧ before.ctrl = some ctrl ∧
    { withoutCs after with prop := none } = ctrl ∧
    held = .iocqs ::ₘ .iosqs ::ₘ ctrlHeld after rest
  iosqs : ndev.iosqs = some .iosqs
  iocqs : ndev.iocqs = some .iocqs
  fd : ndev.fd = before.fd
  sockFd : ndev.sockFd = before.sockFd
  nsGrp : ∃ group world nn outcome, ndev.nsGrp = some group ∧
    Namespaces.Complete world nn outcome group ∧ heap = outcome.heap

/-- The release of the second stage gives back what it has taken, and leaves
the handle of the first one. -/
theorem Ready.releases {before ndev : NvmeDevInfo} {rest held : Held}
    {heap : Heap} (ready : Ready before rest ndev held heap) :
    ∃ after, nvmeReleaseStage2 ndev held heap = .ok (after, rest, 0) ∧
      after.fd = before.fd ∧ after.sockFd = before.sockFd ∧
      after.ctrl = before.ctrl := by
  obtain ⟨group, world, nn, outcome, grouped, complete, rfl⟩ := ready.nsGrp
  obtain ⟨ctrl, filledCtrl, filled, was, back, rfl⟩ := ready.filled
  obtain ⟨pdev, there⟩ := filled.device
  have queues := @nvmeDeinitIoqInfo_frees { ndev with nsGrp := none }
    ready.iosqs ready.iocqs (ctrlHeld filledCtrl rest)
  have controller := @deinitCtrlInstance2_frees { ndev with
      nsGrp := none
      tables := ⟨[], []⟩
      iosqs := none
      iocqs := none } filledCtrl filled.controller filled.property
    (.pdev ::ₘ rest)
  have device := @deinitPciDevInstance_frees { ndev with
      nsGrp := none
      tables := ⟨[], []⟩
      iosqs := none
      iocqs := none
      ctrl := some ctrl } pdev there rest
  rw [back] at controller
  unfold nvmeReleaseStage2
  rw [deinitNsGroup_frees grouped complete]
  dsimp only [bind, Except.bind]
  rw [queues]
  dsimp only
  unfold ctrlHeld
  rw [controller]
  dsimp only
  rw [device]
  exact ⟨_, rfl, ready.fd, ready.sockFd, was.symm⟩

/-! ## Its runs -/

/-- The rest of the second stage leaves a handle that can be released, or
gives back the PCI device with all that it has taken. -/
theorem stage2Rest_cases {ndev : NvmeDevInfo} {pdev : PciDevInstance}
    (orderly : Orderly env.namespaces) (there : ndev.pdev = some pdev)
    (here : ndev.ctrl = some (plainCtrl nrSq nrCq idCtrl none))
    (sqPasses : nrSq < 65535) (cqPasses : nrCq < 65535)
    (noGroup : ndev.nsGrp = none) (rest : Held) :
    (∃ ret < 0, ∃ failed, stage2Rest env ndev (.pdev ::ₘ rest) =
        .ok (ret, failed, rest, 0)) ∨
      ∃ after held heap, stage2Rest env ndev (.pdev ::ₘ rest) =
        .ok (0, after, held, heap) ∧ Ready ndev rest after held heap := by
  unfold stage2Rest
  by_cases starts : env.second.setIrq < 0 ∨ env.second.enable < 0
  · exact .inl ⟨_, eperm_negative, _, (if_pos starts).trans
      (exitPciDevInstance_frees ⟨pdev, there⟩ rest 0)⟩
  rw [if_neg starts]
  rcases @initCtrlInstance2_cases env nrSq nrCq idCtrl ndev here
      (.pdev ::ₘ rest) with
    ⟨ret, negative, failed, same, ends⟩ | ⟨ctrl, back, ends⟩
  · rw [ends]
    exact .inl ⟨_, eperm_negative, _, (if_pos negative).trans
      (exitPciDevInstance_frees ⟨pdev, same.trans there⟩ rest 0)⟩
  rw [ends]
  dsimp only [bind, Except.bind]
  rw [if_neg (Int.lt_irrefl 0)]
  have numbers : ctrl.nrSq = nrSq ∧ ctrl.nrCq = nrCq ∧
      ctrl.prop = some .prop := by
    have nrSqs := congrArg NvmeCtrlInstance.nrSq back
    have nrCqs := congrArg NvmeCtrlInstance.nrCq back
    have props := congrArg NvmeCtrlInstance.prop back
    exact ⟨nrSqs, nrCqs, props⟩
  rcases @nvmeInitIoqInfo_cases env { ndev with ctrl := some ctrl } ctrl rfl
      (numbers.1 ▸ sqPasses) (numbers.2.1 ▸ cqPasses) (ctrlHeld ctrl rest) with
    ⟨ret, negative, failed, samePci, sameCtrl, ends⟩ | ⟨tables, ends⟩
  · obtain ⟨last, frees⟩ := exitCtrlInstance_frees
      ⟨⟨pdev, samePci.trans there⟩, sameCtrl, numbers.2.2⟩ rest 0
    unfold ctrlHeld at ends frees
    rw [ends]
    exact .inl ⟨_, eperm_negative, _, (if_pos negative).trans frees⟩
  unfold ctrlHeld at ends
  rw [ends]
  dsimp only
  rw [if_neg (Int.lt_irrefl 0), noGroup]
  obtain ⟨outcome, runs, built | ⟨negative, _, empty⟩⟩ :=
    Namespaces.allOrNothing_of_orderly orderly none
  · obtain ⟨zero, nn, group, _, complete⟩ := built
    rw [runs]
    dsimp only
    rw [zero, if_neg (Int.lt_irrefl 0)]
    refine .inr ⟨_, _, _, rfl, ?_, rfl, rfl, rfl, rfl, ?_⟩
    · refine ⟨_, ctrl, ⟨⟨pdev, there⟩, rfl, numbers.2.2⟩, here, ?_, rfl⟩
      rw [back]
      rfl
    · exact ⟨group, _, _, outcome, complete.set_, complete, rfl⟩
  · rw [runs]
    dsimp only
    rw [if_pos negative, empty]
    obtain ⟨last, frees⟩ := @exitIoq_frees { ndev with
        tables := tables
        iosqs := some .iosqs
        iocqs := some .iocqs
        ctrl := some ctrl
        nsGrp := outcome.nsGrp } ctrl
      ⟨⟨pdev, there⟩, rfl, numbers.2.2⟩ rfl rfl rest 0
    exact .inl ⟨_, eperm_negative, last, frees⟩

/-- The second stage leaves a handle that can be released, or nothing. -/
theorem nvmeInitStage2_cases {ndev : NvmeDevInfo}
    (orderly : Orderly env.namespaces)
    (here : ndev.ctrl = some (plainCtrl nrSq nrCq idCtrl none))
    (sqPasses : nrSq < 65535) (cqPasses : nrCq < 65535)
    (noGroup : ndev.nsGrp = none) (rest : Held) :
    (∃ ret < 0, ∃ failed, nvmeInitStage2 env ndev rest =
        .ok (ret, failed, rest, 0)) ∨
      ∃ after held heap, nvmeInitStage2 env ndev rest =
        .ok (0, after, held, heap) ∧ Ready ndev rest after held heap := by
  unfold nvmeInitStage2
  by_cases starts : env.second.disable < 0 ∨ env.second.createAqPair < 0
  · exact .inl ⟨_, eperm_negative, _, if_pos starts⟩
  rw [if_neg starts]
  rcases @initPciDevInstance_cases env ndev rest with
    ⟨ret, negative, ends⟩ | ⟨pdev, ends⟩
  · rw [ends]
    exact .inl ⟨_, eperm_negative, _, if_pos negative⟩
  rw [ends]
  dsimp only [bind, Except.bind]
  rw [if_neg (Int.lt_irrefl 0), here]
  dsimp only [deref, Option.elim]
  rcases @stage2Rest_cases env nrSq nrCq idCtrl { ndev with
      pdev := some pdev
      ctrl := some (plainCtrl nrSq nrCq idCtrl none)
      irqType := .msix
      nrIrq := stage2NrIrq (plainCtrl nrSq nrCq idCtrl none) pdev } pdev
    orderly rfl rfl sqPasses cqPasses noGroup rest with
    failed | ⟨after, held, heap, done, ready⟩
  · exact .inl failed
  · refine .inr ⟨after, held, heap, done, ?_⟩
    obtain ⟨filled, iosqs, iocqs, fd, sockFd, nsGrp⟩ := ready
    obtain ⟨ctrl, filledCtrl, facts, was, back, parts⟩ := filled
    exact ⟨⟨ctrl, filledCtrl, facts, here.trans was, back, parts⟩, iosqs,
      iocqs, fd, sockFd, nsGrp⟩

end Second

/-! ## The whole life -/

section Life

variable {env}

theorem stage1Ctrl_plain : ∃ nrSq nrCq,
    stage1Ctrl env = plainCtrl nrSq nrCq (some .idCtrl) none ∧
      nrSq = (requestIoQueueNum env zeroCtrl).2.nrSq ∧
      nrCq = (requestIoQueueNum env zeroCtrl).2.nrCq := by
  refine ⟨_, _, ?_, rfl, rfl⟩
  unfold stage1Ctrl requestIoQueueNum
  dsimp only
  split_ifs
  all_goals rfl

/-- The release of the first stage gives back what it has taken. -/
theorem nvmeReleaseStage1_frees {ndev : NvmeDevInfo} {ctrl : NvmeCtrlInstance}
    (here : ndev.ctrl = some ctrl) (idCtrl : ctrl.idCtrl = some .idCtrl)
    (socket : ndev.sockFd = some .socket) (rest : Held) :
    nvmeReleaseStage1 ndev (stage1Held + rest) =
      .ok ({ ndev with ctrl := none, sockFd := none }, rest) := by
  unfold nvmeReleaseStage1 deinitCtrlInstance1 deinitIdentifyCtrlData stage1Held
  rw [here, Multiset.cons_add, Multiset.cons_add, Multiset.cons_add, zero_add]
  dsimp only [Option.elim]
  rw [idCtrl, freeSet_cons]
  dsimp only [bind, Except.bind, pure, Except.pure]
  rw [free_cons]
  dsimp only
  rw [socket, freeSet_cons]

theorem outNdev_frees (rest : Held) (heap : Heap) :
    outNdev (rest + (.ndev ::ₘ 0)) heap = .ok (none, rest, heap) := by
  unfold outNdev free
  rw [Multiset.cons_zero, Lib.Holdings.free_of_eq _ rfl]
  rfl

theorem whole_le (ctrl : NvmeCtrlInstance) (rest : Held) :
    rest ≤ .iocqs ::ₘ .iosqs ::ₘ ctrlHeld ctrl rest := by
  have device : rest ≤ .prop ::ₘ .pdev ::ₘ rest :=
    (Multiset.le_cons_self _ _).trans (Multiset.le_cons_self _ _)
  have controller : rest ≤ ctrlHeld ctrl rest :=
    device.trans (Multiset.le_add_left _ _)
  exact controller.trans
    ((Multiset.le_cons_self _ _).trans (Multiset.le_cons_self _ _))

/-- A handle is taken down with nothing left. -/
theorem nvmeDeinit_balances {after : NvmeDevInfo} {held : Held} {heap : Heap}
    (ready : Ready (stage1Ndev env) (stage1Held + (.fd ::ₘ .ndev ::ₘ 0)) after
      held heap) :
    nvmeDeinit { after with ioSqes := 6, ioCqes := 4 } held heap =
      .ok (0, 0) := by
  obtain ⟨filled, iosqs, iocqs, fd, sockFd, nsGrp⟩ := ready
  have entries : Ready (stage1Ndev env) (stage1Held + (.fd ::ₘ .ndev ::ₘ 0))
      { after with ioSqes := 6, ioCqes := 4 } held heap := by
    obtain ⟨ctrl, filledCtrl, facts, rest⟩ := filled
    exact ⟨⟨ctrl, filledCtrl, ⟨facts.device, facts.controller, facts.property⟩,
      rest⟩, iosqs, iocqs, fd, sockFd, nsGrp⟩
  obtain ⟨released, frees, fd, sockFd, ctrl⟩ := entries.releases
  unfold nvmeDeinit
  rw [frees]
  dsimp only [bind, Except.bind]
  rw [nvmeReleaseStage1_frees ctrl rfl sockFd]
  dsimp only
  rw [fd, show (stage1Ndev env).fd = some .fd from rfl, freeSet_cons]
  dsimp only
  rw [free_cons]
  rfl

/-- `nvme_init` returns a handle that can be taken down with nothing left, or
`NULL`.  In the second case the descriptor is still open, and what the first
stage has taken is still held when the second one has failed. -/
theorem nvmeInit_ends (passes : CountersPass env)
    (orderly : Orderly env.namespaces) :
    ∃ ndev held heap, nvmeInit env = .ok (ndev, held, heap) ∧
      Ends env ndev held heap := by
  unfold nvmeInit
  cases memory : env.memory .ndev with
  | false =>
      exact ⟨none, 0, 0, rfl, .unopened fun opened =>
        Bool.false_ne_true (memory.symm.trans opened.1)⟩
  | true =>
      by_cases closed : env.openDev < 0
      · refine ⟨none, 0, 0, (if_pos closed).trans ?_, .unopened fun opened =>
          absurd closed (not_lt.mpr opened.2)⟩
        have frees := outNdev_frees 0 0
        rwa [zero_add] at frees
      have opened : Opened env := ⟨memory, not_lt.mp closed⟩
      simp only [Bool.not_true, Bool.false_eq_true, if_false, if_neg closed]
      rcases @nvmeInitStage1_cases env (.fd ::ₘ .ndev ::ₘ 0) with
        ⟨stops, ret, negative, failed, ends⟩ | ⟨first, ends⟩
      · refine ⟨none, .fd ::ₘ 0, 0, ?_, .stage1 opened stops⟩
        rw [ends]
        refine (if_pos negative).trans ?_
        have frees := outNdev_frees (.fd ::ₘ 0) 0
        rwa [Multiset.cons_add, zero_add] at frees
      rw [ends]
      obtain ⟨nrSq, nrCq, plain, sqs, cqs⟩ := @stage1Ctrl_plain env
      have here : (stage1Ndev env).ctrl =
          some (plainCtrl nrSq nrCq (some .idCtrl) none) :=
        congrArg some plain
      dsimp only [bind, Except.bind]
      rw [if_neg (Int.lt_irrefl 0)]
      rcases nvmeInitStage2_cases orderly here (sqs ▸ passes.1)
          (cqs ▸ passes.2) rfl (stage1Held + (.fd ::ₘ .ndev ::ₘ 0)) with
        ⟨ret, negative, failed, ends⟩ | ⟨after, held, heap, ends, ready⟩
      · refine ⟨none, stage1Held + (.fd ::ₘ 0), 0, ?_, .stage2 opened first⟩
        rw [ends]
        dsimp only
        rw [if_pos negative]
        have frees := outNdev_frees (stage1Held + (.fd ::ₘ 0)) 0
        rwa [add_assoc, Multiset.cons_add, zero_add] at frees
      · refine ⟨some { after with ioSqes := 6, ioCqes := 4 }, held, heap, ?_,
          .ready opened first ?_ (nvmeDeinit_balances ready)⟩
        · rw [ends]
          rfl
        · obtain ⟨_, _, _, _, _, parts⟩ := ready.filled
          rw [parts]
          exact whole_le _ _

/-- A controller with one namespace that answers all commands. -/
def oneNamespace : World :=
  { Namespaces.unsortedWorld with
    nsList := 1 :: List.replicate 1023 0
    nsListLength := by rw [List.length_cons, List.length_replicate] }

/-- A device on which every call succeeds, with one pair of queues. -/
def oneNamespaceEnv : Env where
  memory := fun _ => true
  openDev := 3
  first := ⟨0, 0, 0, 0⟩
  second := ⟨0, 0, 0, 0⟩
  getDevInfo := 0
  gnlConnect := 4
  numQueues := ⟨0, 0, 1, 0⟩
  numQueuesResult := 0
  identifyCtrl := 0
  pciBdf := 0
  pciReads := [0, 0, 0, 0, 0, 0]
  linkStatus := 0
  msixMc := 1
  readCap := 0
  readVs := 0
  readCc := 0
  readCcAgain := 0
  cap := 1023
  cc := 0
  cscList := 0
  iocsProfile := ⟨0, 0, 1, 0⟩
  iocsResult := 0
  vector := List.replicate 512 0
  vectorLength := List.length_replicate
  identifyCs := fun _ => 0
  sqNumbers := fun _ _ => 0
  cqNumbers := fun _ _ => 0
  namespaces := oneNamespace

theorem oneNamespace_orderly : Orderly oneNamespace := by
  rintro nn ⟨⟩ _
  refine ⟨rfl, fun _ => ?_⟩
  have listed : Namespaces.entries oneNamespace (min 4 1024) = [1] := rfl
  unfold Namespaces.leading
  rw [listed]
  refine ⟨by decide, .cons ?_ ?_ fun _ _ => .nil⟩
  · exact fun nsid never => absurd never List.not_mem_nil
  · exact fun _ _ => ⟨⟨0, 9⟩, rfl, by decide, by decide⟩

/-- The handle of the device with one namespace. -/
theorem nvmeInit_ends_one_namespace :
    ∃ ndev held heap, nvmeInit oneNamespaceEnv = .ok (ndev, held, heap) ∧
      Ends oneNamespaceEnv ndev held heap :=
  nvmeInit_ends ⟨by decide, by decide⟩ oneNamespace_orderly

end Life

end Dnvme.Nvme.DeviceHandle
