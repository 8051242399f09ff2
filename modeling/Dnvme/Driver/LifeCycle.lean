import Dnvme.Driver.CleanUp

/-!
# The life of the module and its devices

A probe that fails leaves the module as it was.  A device that was probed has
certain resources, which are those that its removal gives back.  What requests
have taken is given back by the clean up, which does not return for a
completion queue in the controller memory buffer, and which can leave sets of
pages, handlers and vectors.  In runs of requests of which nothing stays behind
the module has nothing left when it is unloaded.
-/

namespace Dnvme.Driver.Probe

open Dnvme.Lib.Holdings Dnvme.Lib.Results
open Dnvme.Driver.IrqSetup Dnvme.Driver.CleanUp
open Dnvme.Driver.PrpsOwnership

/-! ## The resources of a device -/

/-- The resources of the pools. -/
def poolsHeld (pdev : Nat) : Held :=
  {.pool pdev .cmdPool} + {.pool pdev .queuePool} + {.pool pdev .metaPool}

/-- The resources of `dnvme_alloc_device`. -/
def registeredHeld (pdev number : Nat) : Held :=
  {.context pdev} + poolsHeld pdev + {.minor number} + {.name pdev} +
    {.cdev pdev}

def barObjects (pdev idx : Nat) : Held :=
  {.region pdev idx} + {.mapping pdev idx}

/-- The resources of the BARs. -/
def barsHeld (pdev : Nat) (bar : Nat → Bool) : Held :=
  flagged (Finset.range pciBarMaxNum) (barObjects pdev) bar

def capObjects (pdev : Nat) (kind : CapabilityKind) : Held :=
  {.capability pdev kind}

/-- The resources of the capabilities. -/
def capsHeld (pdev : Nat) (cap : CapabilityKind → Bool) : Held :=
  flagged capabilityKinds.toFinset (capObjects pdev) cap

/-- One resource if there is a reason for it. -/
def heldIf (reason : Bool) (resource : Resource) : Held :=
  if reason then {resource} else 0

/-- The resources of a device that was probed. -/
def NvmeContext.resources (ndev : NvmeContext) : Held :=
  registeredHeld ndev.pdev ndev.instance_ + barsHeld ndev.pdev ndev.bar +
    {.enabled ndev.pdev} + capsHeld ndev.pdev ndev.cap +
    heldIf ndev.cmb.isSome (.cmb ndev.pdev) +
    heldIf ndev.pmr.isSome (.pmr ndev.pdev) +
    heldIf ndev.proc (.procEntry ndev.pdev)

/-- Give a resource back wherever it is in a sum. -/
theorem give_of_eq {resource : Resource} {held rest : Held}
    (parts : held = rest + {resource}) : give resource held = .ok rest :=
  free_of_eq _ parts

theorem give_last (resource : Resource) (rest : Held) :
    give resource (rest + {resource}) = .ok rest :=
  give_of_eq rfl

theorem cons_eq (resource : Resource) (rest : Held) :
    resource ::ₘ rest = rest + {resource} := by
  rw [add_comm, Multiset.singleton_add]

/-! ## Allocation -/

theorem dnvmeDestroyPool_ok (pdev : Nat) (rest : Held) :
    dnvmeDestroyPool pdev (rest + poolsHeld pdev) = .ok rest := by
  unfold dnvmeDestroyPool poolsHeld
  rw [← add_assoc, ← add_assoc, give_last]
  change give _ _ >>= _ = _
  rw [give_last]
  exact give_last _ _

theorem dnvmeCreatePool_ok (env : ProbeEnv) (pdev : Nat) (held : Held) :
    dnvmeCreatePool env pdev held = .ok (-Errno.ENOMEM, held) ∨
      dnvmeCreatePool env pdev held = .ok (0, held + poolsHeld pdev) := by
  unfold dnvmeCreatePool
  simp only [cons_eq]
  split
  · exact .inl rfl
  split
  · rw [give_last]
    exact .inl rfl
  split
  · rw [give_last]
    change (give _ _ >>= _) = _ ∨ _
    rw [give_last]
    exact .inl rfl
  · refine .inr ?_
    unfold poolsHeld
    rw [← add_assoc, ← add_assoc]

theorem idaSimpleGet_some {granted : Bool} {held : Held} {number : Nat}
    (found : idaSimpleGet granted held = some number) :
    .minor number ∉ held ∧ number < nvmeMinors := by
  unfold idaSimpleGet at found
  split at found
  · obtain ⟨free_, small⟩ := Option.filter_eq_some_iff.mp found
    have absent := List.find?_some free_
    exact ⟨of_decide_eq_true absent, of_decide_eq_true small⟩
  · cases found

/-- What `dnvme_alloc_device` has taken when it gives a device. -/
theorem dnvmeAllocDevice_ok (env : ProbeEnv) (pdev : Nat) (held : Held) :
    dnvmeAllocDevice env pdev held = .ok (none, held) ∨
      ∃ number, .minor number ∉ held ∧ number < nvmeMinors ∧
        dnvmeAllocDevice env pdev held =
          .ok (some (.new pdev number),
            held + registeredHeld pdev number) := by
  unfold dnvmeAllocDevice
  split
  · exact .inl rfl
  simp only [cons_eq]
  rcases dnvmeCreatePool_ok env pdev (held + {.context pdev}) with
    failed | created
  · rw [failed]
    refine .inl ?_
    change (do return (none, ← give (.context pdev) _)) = _
    rw [give_last]
    rfl
  · rw [created]
    simp only [bind, Except.bind]
    rw [if_neg (by decide)]
    have undo : (do
        let held ← dnvmeDestroyPool pdev
          (held + {.context pdev} + poolsHeld pdev)
        return (none, ← give (.context pdev) held) :
          Outcome (Option NvmeContext × Held)) = .ok (none, held) := by
      rw [dnvmeDestroyPool_ok]
      change (do return (none, ← give (.context pdev) _)) = _
      rw [give_last]
      rfl
    cases ida : idaSimpleGet env.idaGet
      (held + {.context pdev} + poolsHeld pdev) with
    | none => exact .inl undo
    | some number =>
        obtain ⟨absent, small⟩ := idaSimpleGet_some ida
        dsimp only
        split
        · rw [give_last]
          exact .inl undo
        split
        · rw [give_last]
          change (give _ _ >>= _) = _ ∨ _
          rw [give_last]
          exact .inl undo
        · refine .inr ⟨number, fun inside => absent ?_, small, ?_⟩
          · rw [add_assoc, Multiset.mem_add]
            exact .inl inside
          · unfold registeredHeld
            simp only [add_assoc]
            rfl

theorem dnvmeReleaseDevice_ok (ndev : NvmeContext) (rest : Held) :
    dnvmeReleaseDevice ndev
      (rest + registeredHeld ndev.pdev ndev.instance_) = .ok rest := by
  unfold dnvmeReleaseDevice registeredHeld
  simp only [← add_assoc]
  rw [give_last]
  change (give _ _ >>= _) = _
  rw [give_last]
  change (give _ _ >>= _) = _
  rw [give_last]
  change (dnvmeDestroyPool _ _ >>= _) = _
  rw [dnvmeDestroyPool_ok]
  exact give_last _ _

theorem update_false {ι : Type} [DecidableEq ι] {flag : ι → Bool} {i j : ι}
    (others : j ≠ i → flag j = false) :
    Function.update flag i false j = false := by
  by_cases same : j = i
  · rw [same]
    exact Function.update_self _ _ _
  · rw [Function.update_of_ne same]
    exact others same

/-! ## BARs -/

/-- A BAR that is not mapped yet. -/
theorem dnvmeMapBar_ok (env : ProbeEnv) {ndev : NvmeContext} {idx : Nat}
    (inside : idx < pciBarMaxNum) (unmapped : ndev.bar idx = false)
    (rest : Held) :
    (∃ ret < 0, dnvmeMapBar env ndev idx (rest + barsHeld ndev.pdev ndev.bar) =
      .ok (ret, ndev, rest + barsHeld ndev.pdev ndev.bar)) ∨
    dnvmeMapBar env ndev idx (rest + barsHeld ndev.pdev ndev.bar) =
      .ok (0, { ndev with bar := Function.update ndev.bar idx true },
        rest + barsHeld ndev.pdev (Function.update ndev.bar idx true)) := by
  unfold dnvmeMapBar
  rw [unmapped, if_neg Bool.false_ne_true]
  simp only [cons_eq]
  split
  · rename_i refused
    exact .inl ⟨_, refused, rfl⟩
  split
  · rw [give_last]
    exact .inl ⟨-Errno.ENOMEM, by decide, rfl⟩
  · refine .inr ?_
    unfold barsHeld
    rw [flagged_raise (Finset.mem_range.mpr inside) unmapped]
    unfold barObjects
    simp only [add_assoc]

theorem dnvmeUnmapBar_ok {ndev : NvmeContext} {idx : Nat}
    (inside : idx < pciBarMaxNum) (rest : Held) :
    dnvmeUnmapBar ndev idx (rest + barsHeld ndev.pdev ndev.bar) =
      .ok ({ ndev with bar := Function.update ndev.bar idx false },
        rest + barsHeld ndev.pdev (Function.update ndev.bar idx false)) := by
  unfold dnvmeUnmapBar
  cases mapped : ndev.bar idx with
  | false =>
      rw [Bool.not_false, if_pos rfl, ← mapped, Function.update_eq_self]
  | true =>
      rw [if_neg (by decide)]
      unfold barsHeld
      rw [flagged_lower (Finset.mem_range.mpr inside) mapped]
      unfold barObjects
      rw [← add_assoc, ← add_assoc, give_last]
      change (do return ({ ndev with bar := _ }, ← give _ _)) = _
      rw [give_last]
      rfl

/-- The loop of `dnvme_map_resource`: the BARs from the index on are not mapped
where it ends. -/
theorem mapBars_ok (env : ProbeEnv) (rest : Held) (count : Nat) :
    ∀ {idx : Nat} {ndev : NvmeContext}, idx + count = pciBarMaxNum →
      (∀ later, idx ≤ later → ndev.bar later = false) →
      ∃ ret stop bar,
        mapBars env count idx ndev (rest + barsHeld ndev.pdev ndev.bar) =
          .ok (ret, stop, { ndev with bar := bar },
            rest + barsHeld ndev.pdev bar) ∧
        stop ≤ pciBarMaxNum ∧ (∀ later, stop ≤ later → bar later = false) := by
  induction count with
  | zero =>
      intro idx ndev last fresh
      exact ⟨0, idx, ndev.bar, rfl, by omega, fresh⟩
  | succ count ih =>
      intro idx ndev last fresh
      rw [mapBars]
      have later (bar : Nat → Bool)
          (same : ∀ other, other ≠ idx → bar other = ndev.bar other) :
          ∀ later, idx + 1 ≤ later → bar later = false := fun later after => by
        rw [same later (by omega)]
        exact fresh later (by omega)
      split
      · rcases dnvmeMapBar_ok env (by omega) (fresh idx (Nat.le_refl idx))
          rest with ⟨ret, failed, done⟩ | done
        · rw [done]
          simp only [bind, Except.bind]
          rw [if_pos failed]
          exact ⟨ret, idx, ndev.bar, rfl, by omega, fresh⟩
        · rw [done]
          simp only [bind, Except.bind]
          rw [if_neg (by decide)]
          exact @ih (idx + 1)
            { ndev with bar := Function.update ndev.bar idx true } (by omega)
            (later _ fun other different =>
              Function.update_of_ne different _ _)
      · exact ih (by omega) (later _ fun _ _ => rfl)

theorem unwindBars_ok (rest : Held) (count : Nat) :
    ∀ {ndev : NvmeContext}, count ≤ pciBarMaxNum →
      (∀ later, count ≤ later → ndev.bar later = false) →
      ∃ bar, unwindBars count ndev (rest + barsHeld ndev.pdev ndev.bar) =
        .ok ({ ndev with bar := bar }, rest) := by
  induction count with
  | zero =>
      intro ndev _ fresh
      refine ⟨ndev.bar, ?_⟩
      rw [unwindBars, barsHeld, flagged_none fun idx _ =>
        fresh idx (Nat.zero_le idx), add_zero]
  | succ idx ih =>
      intro ndev inside fresh
      rw [unwindBars, dnvmeUnmapBar_ok (by omega)]
      refine @ih { ndev with bar := Function.update ndev.bar idx false }
        (by omega) fun later after => ?_
      exact update_false fun other => fresh later (by omega)

/-- A mapping of the BARs that fails leaves none mapped. -/
theorem dnvmeMapResource_ok (env : ProbeEnv) {ndev : NvmeContext}
    (fresh : ∀ idx, ndev.bar idx = false) (rest : Held) :
    (∃ ret < 0, ∃ bar, dnvmeMapResource env ndev rest =
      .ok (ret, { ndev with bar := bar }, rest)) ∨
    ∃ bar, dnvmeMapResource env ndev rest =
      .ok (0, { ndev with bar := bar }, rest + barsHeld ndev.pdev bar) := by
  unfold dnvmeMapResource
  split
  · exact .inl ⟨-Errno.ENODEV, by decide, ndev.bar, rfl⟩
  have none_ : rest = rest + barsHeld ndev.pdev ndev.bar := by
    rw [barsHeld, flagged_none fun idx _ => fresh idx, add_zero]
  obtain ⟨ret, stop, bar, done, inside, above⟩ :=
    @mapBars_ok env rest pciBarMaxNum 0 ndev (Nat.zero_add _)
      fun later _ => fresh later
  rw [← none_] at done
  rw [done]
  simp only [bind, Except.bind]
  split
  · rename_i failed
    obtain ⟨bar', undone⟩ := @unwindBars_ok rest stop { ndev with bar := bar }
      inside above
    dsimp only at undone
    rw [undone]
    exact .inl ⟨ret, failed, bar', rfl⟩
  · exact .inr ⟨bar, rfl⟩

/-- A loop that gives back what stands for a flag, over some of the places. -/
theorem unmapBars_ok (rest : Held) (places : List Nat) :
    ∀ {ndev : NvmeContext}, (∀ idx ∈ places, idx < pciBarMaxNum) →
      ∃ bar, places.foldlM
          (fun (ndev, held) idx => dnvmeUnmapBar ndev idx held)
          (ndev, rest + barsHeld ndev.pdev ndev.bar) =
        .ok ({ ndev with bar := bar }, rest + barsHeld ndev.pdev bar) ∧
        (∀ idx ∈ places, bar idx = false) ∧
        ∀ idx, ndev.bar idx = false → bar idx = false := by
  induction places with
  | nil =>
      exact fun _ => ⟨_, rfl, fun _ no => (by cases no), fun _ down => down⟩
  | cons idx places ih =>
      intro ndev inside
      obtain ⟨bar, done, down, kept⟩ := @ih
        { ndev with bar := Function.update ndev.bar idx false }
        fun other member => inside other (List.mem_cons_of_mem _ member)
      refine ⟨bar, ?_, ?_, fun other before => kept other ?_⟩
      · rw [List.foldlM_cons]
        dsimp only
        rw [dnvmeUnmapBar_ok (inside idx List.mem_cons_self)]
        exact done
      · rintro other member
        rcases List.mem_cons.mp member with rfl | later
        · exact kept other (update_false fun no => absurd rfl no)
        · exact down other later
      · exact update_false fun _ => before

theorem dnvmeUnmapResource_ok (ndev : NvmeContext) (rest : Held) :
    ∃ bar, dnvmeUnmapResource ndev (rest + barsHeld ndev.pdev ndev.bar) =
      .ok ({ ndev with bar := bar }, rest) := by
  obtain ⟨bar, done, down, _⟩ := @unmapBars_ok rest (List.range pciBarMaxNum)
    ndev fun _ => List.mem_range.mp
  refine ⟨bar, ?_⟩
  unfold dnvmeUnmapResource
  rw [done, barsHeld, flagged_none fun idx inside => down idx
    (List.mem_range.mpr (Finset.mem_range.mp inside)), add_zero]

/-! ## The function of the bus -/

theorem mem_capabilityKinds (kind : CapabilityKind) :
    kind ∈ capabilityKinds := by
  cases kind <;> decide

theorem getCap_ok (env : ProbeEnv) {kind : CapabilityKind}
    {ndev : NvmeContext} (absent : ndev.cap kind = false) (rest : Held) :
    ∃ cap, getCap env kind ndev (rest + capsHeld ndev.pdev ndev.cap) =
        ({ ndev with cap := cap }, rest + capsHeld ndev.pdev cap) ∧
      ∀ other, other ≠ kind → cap other = ndev.cap other := by
  unfold getCap
  split
  · refine ⟨Function.update ndev.cap kind true, ?_, fun other different =>
      Function.update_of_ne different _ _⟩
    rw [cons_eq, add_assoc]
    unfold capsHeld
    rw [flagged_raise (List.mem_toFinset.mpr (mem_capabilityKinds kind))
      absent]
    rfl
  · exact ⟨ndev.cap, rfl, fun _ _ => rfl⟩

theorem getCaps_ok (env : ProbeEnv) (rest : Held)
    (kinds : List CapabilityKind) :
    ∀ {ndev : NvmeContext}, kinds.Nodup →
      (∀ kind ∈ kinds, ndev.cap kind = false) →
      ∃ cap, kinds.foldl (fun (ndev, held) kind => getCap env kind ndev held)
          (ndev, rest + capsHeld ndev.pdev ndev.cap) =
        ({ ndev with cap := cap }, rest + capsHeld ndev.pdev cap) := by
  induction kinds with
  | nil => exact fun _ _ => ⟨_, rfl⟩
  | cons kind kinds ih =>
      intro ndev distinct down
      obtain ⟨later, distinct⟩ := List.nodup_cons.mp distinct
      obtain ⟨cap, first, others⟩ :=
        getCap_ok env (down kind List.mem_cons_self) rest
      rw [List.foldl_cons]
      dsimp only
      rw [first]
      refine @ih { ndev with cap := cap } distinct fun other member => ?_
      dsimp only
      rw [others other fun same => later (by rw [← same]; exact member)]
      exact down other (List.mem_cons_of_mem _ member)

theorem dnvmeInitCapability_ok (env : ProbeEnv) {ndev : NvmeContext}
    (fresh : ∀ kind, ndev.cap kind = false) (rest : Held) :
    ∃ cap, dnvmeInitCapability env ndev rest =
      ({ ndev with cap := cap }, rest + capsHeld ndev.pdev cap) := by
  obtain ⟨cap, done⟩ := @getCaps_ok env rest capabilityKinds ndev (by decide)
    fun kind _ => fresh kind
  rw [capsHeld, flagged_none fun kind _ => fresh kind, add_zero] at done
  exact ⟨cap, done⟩

theorem freeCap_ok (kind : CapabilityKind) (ndev : NvmeContext)
    (rest : Held) :
    freeCap kind ndev (rest + capsHeld ndev.pdev ndev.cap) =
      .ok ({ ndev with cap := Function.update ndev.cap kind false },
        rest + capsHeld ndev.pdev (Function.update ndev.cap kind false)) := by
  unfold freeCap
  cases present : ndev.cap kind with
  | false =>
      rw [if_neg Bool.false_ne_true, ← present, Function.update_eq_self]
      rfl
  | true =>
      unfold capsHeld
      rw [if_pos rfl, flagged_lower
        (List.mem_toFinset.mpr (mem_capabilityKinds kind)) present, ← add_assoc]
      change (give _ (_ + {_}) >>= _) = _
      rw [give_last]
      rfl

theorem freeCaps_ok (rest : Held) (kinds : List CapabilityKind) :
    ∀ {ndev : NvmeContext}, ∃ cap,
      kinds.foldlM (fun (ndev, held) kind => freeCap kind ndev held)
          (ndev, rest + capsHeld ndev.pdev ndev.cap) =
        .ok ({ ndev with cap := cap }, rest + capsHeld ndev.pdev cap) ∧
      (∀ kind ∈ kinds, cap kind = false) ∧
      ∀ kind, ndev.cap kind = false → cap kind = false := by
  induction kinds with
  | nil => exact ⟨_, rfl, fun _ no => (by cases no), fun _ down => down⟩
  | cons kind kinds ih =>
      intro ndev
      obtain ⟨cap, done, down, kept⟩ := @ih
        { ndev with cap := Function.update ndev.cap kind false }
      refine ⟨cap, ?_, ?_, fun other before =>
        kept other (update_false fun _ => before)⟩
      · rw [List.foldlM_cons]
        dsimp only
        rw [freeCap_ok]
        exact done
      · rintro other member
        rcases List.mem_cons.mp member with rfl | later
        · exact kept other (update_false fun no => absurd rfl no)
        · exact down other later

theorem dnvmeDeinitCapability_ok (ndev : NvmeContext) (rest : Held) :
    ∃ cap, dnvmeDeinitCapability ndev (rest + capsHeld ndev.pdev ndev.cap) =
      .ok ({ ndev with cap := cap }, rest) := by
  obtain ⟨cap, done, down, _⟩ := @freeCaps_ok rest capabilityKinds ndev
  refine ⟨cap, ?_⟩
  unfold dnvmeDeinitCapability
  rw [done, capsHeld, flagged_none fun kind _ => down kind
    (mem_capabilityKinds kind), add_zero]

theorem dnvmePciDisable_ok (ndev : NvmeContext) (rest : Held) :
    dnvmePciDisable ndev (rest + {.enabled ndev.pdev}) = .ok rest := by
  unfold dnvmePciDisable
  rw [if_pos (Multiset.mem_add.mpr (.inr (Multiset.mem_singleton_self _)))]
  exact give_last _ _

/-! ## Memory of the controller and `/proc` -/

theorem heldIf_true (resource : Resource) :
    heldIf true resource = {resource} :=
  rfl

theorem heldIf_false (resource : Resource) : heldIf false resource = 0 :=
  rfl

theorem dnvmeCmbSetup_error {env : ProbeEnv} {ret : Int}
    (failed : dnvmeCmbSetup env = .error ret) : ret < 0 := by
  unfold dnvmeCmbSetup at failed
  dsimp only at failed
  split at failed
  · cases failed
    decide
  split at failed
  · cases failed
    decide
  split at failed
  · cases failed
    assumption
  · cases failed

/-- The CMB is inside its BAR. -/
theorem dnvmeCmbSetup_inside {env : ProbeEnv} {cmb : NvmeCmb}
    (setup : dnvmeCmbSetup env = .ok cmb) :
    cmb.offset + cmb.size ≤ env.barLen cmb.bar := by
  unfold dnvmeCmbSetup at setup
  dsimp only at setup
  split at setup
  · cases setup
  split at setup
  · cases setup
  rename_i begins
  split at setup
  · cases setup
  · cases setup
    dsimp only at begins ⊢
    split <;> omega

/-- A device has the CMB only with its resource. -/
theorem dnvmeMapCmb_ok (env : ProbeEnv) {ndev : NvmeContext}
    (fresh : ndev.cmb = none) (rest : Held) :
    (∃ ret < 0, dnvmeMapCmb env ndev rest = .ok (ret, ndev, rest)) ∨
    ∃ cmb, dnvmeCmbSetup env = .ok cmb ∧
      dnvmeMapCmb env ndev rest =
        .ok (0, { ndev with
          cmb := some cmb
          driver := { ndev.driver with cmbSqs := cmb.sqs, cmbCqs := cmb.cqs } },
          rest + {.cmb ndev.pdev}) := by
  unfold dnvmeMapCmb
  rw [fresh, if_neg (by decide)]
  simp only [cons_eq]
  split
  · exact .inl ⟨-Errno.EOPNOTSUPP, by decide, rfl⟩
  split
  · exact .inl ⟨-Errno.ENOMEM, by decide, rfl⟩
  · cases setup : dnvmeCmbSetup env with
    | error ret =>
        refine .inl ⟨ret, dnvmeCmbSetup_error setup, ?_⟩
        dsimp only
        rw [give_last]
        rfl
    | ok cmb => exact .inr ⟨cmb, rfl, rfl⟩

theorem dnvmeUnmapCmb_ok (ndev : NvmeContext) (rest : Held) :
    dnvmeUnmapCmb ndev (rest + heldIf ndev.cmb.isSome (.cmb ndev.pdev)) =
      .ok ({ ndev with cmb := none }, rest) := by
  unfold dnvmeUnmapCmb
  cases present : ndev.cmb with
  | none =>
      change Except.ok (ndev, rest + 0) = _
      rw [add_zero, ← present]
  | some cmb =>
      change (give _ (rest + {_}) >>= _) = _
      rw [give_last]
      rfl

theorem pmrSetup_error {env : ProbeEnv} {ndev : NvmeContext} {ret : Int}
    (failed : pmrSetup env ndev = .error ret) : ret < 0 := by
  unfold pmrSetup at failed
  dsimp only at failed
  split at failed
  · cases failed
    decide
  split at failed
  · cases failed
    decide
  split at failed
  · cases failed
    decide
  split at failed
  · cases failed
    decide
  split at failed
  · cases failed
    assumption
  · cases failed

theorem dnvmeMapPmr_ok (env : ProbeEnv) {ndev : NvmeContext}
    (fresh : ndev.pmr = none) (rest : Held) :
    (∃ ret < 0, dnvmeMapPmr env ndev rest = .ok (ret, ndev, rest)) ∨
    ∃ pmr, pmrSetup env ndev = .ok pmr ∧ dnvmeMapPmr env ndev rest =
      .ok (0, { ndev with pmr := some pmr }, rest + {.pmr ndev.pdev}) := by
  unfold dnvmeMapPmr
  rw [fresh, if_neg (by decide)]
  simp only [cons_eq]
  split
  · exact .inl ⟨-Errno.EOPNOTSUPP, by decide, rfl⟩
  split
  · exact .inl ⟨-Errno.ENOMEM, by decide, rfl⟩
  · cases setup : pmrSetup env ndev with
    | error ret =>
        refine .inl ⟨ret, pmrSetup_error setup, ?_⟩
        dsimp only
        rw [give_last]
        rfl
    | ok pmr => exact .inr ⟨pmr, rfl, rfl⟩

theorem dnvmeUnmapPmr_ok (ndev : NvmeContext) (rest : Held) :
    dnvmeUnmapPmr ndev (rest + heldIf ndev.pmr.isSome (.pmr ndev.pdev)) =
      .ok ({ ndev with pmr := none }, rest) := by
  unfold dnvmeUnmapPmr
  cases present : ndev.pmr with
  | none =>
      change Except.ok (ndev, rest + 0) = _
      rw [add_zero, ← present]
  | some pmr =>
      change (give _ (rest + {_}) >>= _) = _
      rw [give_last]
      rfl

theorem dnvmeCreateProcEntry_ok (env : ProbeEnv) (parent : Bool)
    {ndev : NvmeContext} (fresh : ndev.proc = false) (rest : Held) :
    ∃ proc, dnvmeCreateProcEntry env parent ndev rest =
      ({ ndev with proc := proc },
        rest + heldIf proc (.procEntry ndev.pdev)) := by
  unfold dnvmeCreateProcEntry
  split
  · refine ⟨true, ?_⟩
    rw [cons_eq, heldIf_true]
  · refine ⟨false, ?_⟩
    rw [heldIf_false, add_zero, ← fresh]

theorem dnvmeDestroyProcEntry_ok (ndev : NvmeContext) (rest : Held) :
    dnvmeDestroyProcEntry ndev
        (rest + heldIf ndev.proc (.procEntry ndev.pdev)) =
      .ok ({ ndev with proc := false }, rest) := by
  unfold dnvmeDestroyProcEntry
  cases present : ndev.proc with
  | false =>
      rw [if_neg Bool.false_ne_true, heldIf_false, add_zero, ← present]
  | true =>
      rw [if_pos rfl, heldIf_true, give_last]
      rfl

/-! ## A probe -/

theorem outUnmapRes_ok (ndev : NvmeContext) (rest : Held) :
    outUnmapRes ndev (rest + registeredHeld ndev.pdev ndev.instance_ +
      barsHeld ndev.pdev ndev.bar) = .ok rest := by
  obtain ⟨bar, unmapped⟩ := dnvmeUnmapResource_ok ndev
    (rest + registeredHeld ndev.pdev ndev.instance_)
  unfold outUnmapRes
  rw [unmapped]
  exact dnvmeReleaseDevice_ok { ndev with bar := bar } rest

theorem outDeinitCap_ok (ndev : NvmeContext) (rest : Held) :
    outDeinitCap ndev (rest + registeredHeld ndev.pdev ndev.instance_ +
      barsHeld ndev.pdev ndev.bar + {.enabled ndev.pdev} +
      capsHeld ndev.pdev ndev.cap) = .ok rest := by
  obtain ⟨cap, freed⟩ := dnvmeDeinitCapability_ok ndev
    (rest + registeredHeld ndev.pdev ndev.instance_ +
      barsHeld ndev.pdev ndev.bar + {.enabled ndev.pdev})
  unfold outDeinitCap
  rw [freed]
  change (dnvmePciDisable { ndev with cap := cap } _ >>= _) = _
  rw [dnvmePciDisable_ok { ndev with cap := cap }]
  exact outUnmapRes_ok { ndev with cap := cap } rest

/-- What is known of a device when its probe is over. -/
structure Probed (env : ProbeEnv) (pdev : Nat) (ndev : NvmeContext) : Prop where
  pdev_eq : ndev.pdev = pdev
  closed : ndev.opened = false
  regCap : ndev.regCap = env.cap
  dbStride : ndev.dbStride = 2 ^ (env.cap / 2 ^ 32 % 2 ^ 4)
  /-- The registers decide what the driver part allows. -/
  driver : ndev.driver = NvmeDevice.fresh (capQueueDepth env.cap)
    (env.cap.testBit 16) (ndev.cmb.elim false NvmeCmb.sqs)
    (ndev.cmb.elim false NvmeCmb.cqs)
  /-- The CMB is inside its BAR. -/
  cmb : ∀ cmb, ndev.cmb = some cmb → cmb.offset + cmb.size ≤ env.barLen cmb.bar
  /-- The PMR is in a BAR that is mapped. -/
  pmr : ∀ pmr, ndev.pmr = some pmr → ndev.bar pmr.bir = true

theorem pmrSetup_bar {env : ProbeEnv} {ndev : NvmeContext} {pmr : NvmePmr}
    (setup : pmrSetup env ndev = .ok pmr) : ndev.bar pmr.bir = true := by
  unfold pmrSetup at setup
  dsimp only at setup
  split at setup
  · cases setup
  split at setup
  · cases setup
  rename_i mapped
  split at setup
  · cases setup
  split at setup
  · cases setup
  split at setup
  · cases setup
  · cases setup
    simpa using mapped

/-- The resources of a probe that ends well. -/
theorem resources_eq (ndev : NvmeContext) (rest : Held) :
    rest + ndev.resources =
      rest + registeredHeld ndev.pdev ndev.instance_ +
        barsHeld ndev.pdev ndev.bar + {.enabled ndev.pdev} +
        capsHeld ndev.pdev ndev.cap +
        heldIf ndev.cmb.isSome (.cmb ndev.pdev) +
        heldIf ndev.pmr.isSome (.pmr ndev.pdev) +
        heldIf ndev.proc (.procEntry ndev.pdev) := by
  unfold NvmeContext.resources
  simp only [add_assoc]

theorem outUnmapCmb_ok (ndev : NvmeContext) (rest : Held) :
    outUnmapCmb ndev (rest + registeredHeld ndev.pdev ndev.instance_ +
      barsHeld ndev.pdev ndev.bar + {.enabled ndev.pdev} +
      capsHeld ndev.pdev ndev.cap +
      heldIf ndev.cmb.isSome (.cmb ndev.pdev)) = .ok rest := by
  unfold outUnmapCmb
  rw [dnvmeUnmapCmb_ok]
  exact outDeinitCap_ok { ndev with cmb := none } rest

/-- From the call of `dnvme_map_pmr` on. -/
theorem probePmr_ok (env : ProbeEnv) (parent : Bool) {pdev : Nat}
    {ndev : NvmeContext} (probed : Probed env pdev ndev)
    (noPmr : ndev.pmr = none) (noProc : ndev.proc = false) (rest : Held) :
    (∃ ret < 0, probePmr env parent ndev
        (rest + registeredHeld ndev.pdev ndev.instance_ +
          barsHeld ndev.pdev ndev.bar + {.enabled ndev.pdev} +
          capsHeld ndev.pdev ndev.cap +
          heldIf ndev.cmb.isSome (.cmb ndev.pdev)) = .ok (ret, none, rest)) ∨
    ∃ last, Probed env pdev last ∧ last.instance_ = ndev.instance_ ∧
      probePmr env parent ndev
        (rest + registeredHeld ndev.pdev ndev.instance_ +
          barsHeld ndev.pdev ndev.bar + {.enabled ndev.pdev} +
          capsHeld ndev.pdev ndev.cap +
          heldIf ndev.cmb.isSome (.cmb ndev.pdev)) =
        .ok (0, some last, rest + last.resources) := by
  unfold probePmr
  rcases dnvmeMapPmr_ok env noPmr (rest +
      registeredHeld ndev.pdev ndev.instance_ + barsHeld ndev.pdev ndev.bar +
      {.enabled ndev.pdev} + capsHeld ndev.pdev ndev.cap +
      heldIf ndev.cmb.isSome (.cmb ndev.pdev)) with
    ⟨ret, failed, done⟩ | ⟨pmr, setup, done⟩
  · rw [done]
    simp only [bind, Except.bind]
    split
    · rw [outUnmapCmb_ok]
      exact .inl ⟨ret, failed, rfl⟩
    · obtain ⟨proc, entered⟩ := dnvmeCreateProcEntry_ok env parent noProc
        (rest + registeredHeld ndev.pdev ndev.instance_ +
          barsHeld ndev.pdev ndev.bar + {.enabled ndev.pdev} +
          capsHeld ndev.pdev ndev.cap +
          heldIf ndev.cmb.isSome (.cmb ndev.pdev))
      rw [entered]
      refine .inr ⟨{ ndev with proc := proc }, ⟨probed.pdev_eq, probed.closed,
        probed.regCap, probed.dbStride, probed.driver, probed.cmb,
        probed.pmr⟩, rfl, ?_⟩
      rw [resources_eq]
      dsimp only
      rw [noPmr, Option.isSome_none, heldIf_false, add_zero]
      rfl
  · rw [done]
    simp only [bind, Except.bind]
    rw [if_neg (by decide)]
    obtain ⟨proc, entered⟩ := @dnvmeCreateProcEntry_ok env parent
      { ndev with pmr := some pmr } noProc
      (rest + registeredHeld ndev.pdev ndev.instance_ +
        barsHeld ndev.pdev ndev.bar + {.enabled ndev.pdev} +
        capsHeld ndev.pdev ndev.cap +
        heldIf ndev.cmb.isSome (.cmb ndev.pdev) + {.pmr ndev.pdev})
    rw [entered]
    refine .inr ⟨{ ndev with pmr := some pmr, proc := proc },
      ⟨probed.pdev_eq, probed.closed, probed.regCap, probed.dbStride,
        probed.driver, probed.cmb, ?_⟩, rfl, ?_⟩
    · rintro _ ⟨⟩
      exact pmrSetup_bar setup
    · rw [resources_eq]
      rfl

/-- From the call of `dnvme_init_capability` on. -/
theorem probeEnabled_ok (env : ProbeEnv) (parent : Bool) {pdev : Nat}
    {ndev : NvmeContext} (probed : Probed env pdev ndev)
    (noCap : ∀ kind, ndev.cap kind = false) (noCmb : ndev.cmb = none)
    (noPmr : ndev.pmr = none) (noProc : ndev.proc = false) (rest : Held) :
    (∃ ret < 0, probeEnabled env parent ndev
        (rest + registeredHeld ndev.pdev ndev.instance_ +
          barsHeld ndev.pdev ndev.bar + {.enabled ndev.pdev}) =
      .ok (ret, none, rest)) ∨
    ∃ last, Probed env pdev last ∧ last.instance_ = ndev.instance_ ∧
      probeEnabled env parent ndev
        (rest + registeredHeld ndev.pdev ndev.instance_ +
          barsHeld ndev.pdev ndev.bar + {.enabled ndev.pdev}) =
        .ok (0, some last, rest + last.resources) := by
  obtain ⟨cap, granted⟩ := dnvmeInitCapability_ok env noCap
    (rest + registeredHeld ndev.pdev ndev.instance_ +
      barsHeld ndev.pdev ndev.bar + {.enabled ndev.pdev})
  unfold probeEnabled
  rw [granted]
  dsimp only
  have capable : Probed env pdev { ndev with cap := cap } :=
    ⟨probed.pdev_eq, probed.closed, probed.regCap, probed.dbStride,
      probed.driver, probed.cmb, probed.pmr⟩
  rcases @dnvmeMapCmb_ok env { ndev with cap := cap } noCmb
      (rest + registeredHeld ndev.pdev ndev.instance_ +
        barsHeld ndev.pdev ndev.bar + {.enabled ndev.pdev} +
        capsHeld ndev.pdev cap) with
    ⟨ret, failed, done⟩ | ⟨cmb, setup, done⟩
  · rw [done]
    simp only [bind, Except.bind]
    split
    · have undone := outDeinitCap_ok { ndev with cap := cap } rest
      dsimp only at undone
      rw [undone]
      exact .inl ⟨ret, failed, rfl⟩
    · have nothing : heldIf ndev.cmb.isSome (.cmb ndev.pdev) = 0 := by
        rw [noCmb]
        rfl
      have onward := probePmr_ok env parent capable noPmr noProc rest
      dsimp only at onward
      rwa [nothing, add_zero] at onward
  · rw [done]
    simp only [bind, Except.bind]
    rw [if_neg (by decide)]
    refine @probePmr_ok env parent pdev
      { ndev with
        cap := cap
        cmb := some cmb
        driver := { ndev.driver with cmbSqs := cmb.sqs, cmbCqs := cmb.cqs } }
      ⟨probed.pdev_eq, probed.closed, probed.regCap, probed.dbStride, ?_, ?_,
        probed.pmr⟩ noPmr noProc rest
    · dsimp only
      rw [probed.driver]
      rfl
    · rintro _ ⟨⟩
      exact dnvmeCmbSetup_inside setup

/-- A probe that fails gives everything back.  One that ends well has the
resources of the new device, with a number that was free. -/
theorem probeDevice_ok (env : ProbeEnv) (parent : Bool) (pdev : Nat)
    (held : Held) :
    (∃ ret < 0, probeDevice env parent pdev held = .ok (ret, none, held)) ∨
    ∃ ndev, Probed env pdev ndev ∧ .minor ndev.instance_ ∉ held ∧
      ndev.instance_ < nvmeMinors ∧
      probeDevice env parent pdev held =
        .ok (0, some ndev, held + ndev.resources) := by
  unfold probeDevice
  split
  · rename_i refused
    exact .inl ⟨_, refused, rfl⟩
  rcases dnvmeAllocDevice_ok env pdev held with
    failed | ⟨number, free_, small, allocated⟩
  · rw [failed]
    exact .inl ⟨-Errno.ENOMEM, by decide, rfl⟩
  rw [allocated]
  simp only [bind, Except.bind]
  rcases dnvmeMapResource_ok env
      (show ∀ idx, (NvmeContext.new pdev number).bar idx = false from
        fun _ => rfl) (held + registeredHeld pdev number) with
    ⟨ret, failed, bar, done⟩ | ⟨bar, done⟩
  · rw [done]
    dsimp only
    rw [if_pos failed]
    have released := dnvmeReleaseDevice_ok
      { NvmeContext.new pdev number with bar := bar } held
    dsimp only [NvmeContext.new] at released ⊢
    rw [released]
    exact .inl ⟨ret, failed, rfl⟩
  rw [done]
  dsimp only
  rw [if_neg (by decide)]
  unfold dnvmePciEnable
  split
  · rename_i refused
    have undone := outUnmapRes_ok
      { NvmeContext.new pdev number with bar := bar } held
    dsimp only [NvmeContext.new] at undone ⊢
    rw [undone]
    exact .inl ⟨_, refused, rfl⟩
  dsimp only
  rw [if_neg (by decide), cons_eq]
  rcases @probeEnabled_ok env parent pdev
      { NvmeContext.new pdev number with
        bar := bar
        regCap := env.cap
        dbStride := 2 ^ (env.cap / 2 ^ 32 % 2 ^ 4)
        driver := { (NvmeContext.new pdev number).driver with
          qDepth := capQueueDepth env.cap
          capCqr := env.cap.testBit 16 } }
      ⟨rfl, rfl, rfl, rfl, rfl, fun _ no => (by cases no),
        fun _ no => (by cases no)⟩
      (fun _ => rfl) rfl rfl rfl held with
    ⟨ret, failed, undone⟩ | ⟨ndev, probed, same, ended⟩
  · exact .inl ⟨ret, failed, undone⟩
  · exact .inr ⟨ndev, probed, same ▸ free_, same ▸ small, ended⟩

/-! ## A removal -/

/-- The removal of a device gives back what its probe has taken. -/
theorem removeDevice_ok {ndev : NvmeContext} {cleaned : NvmeDevice}
    (cleans : dnvmeCleanupDevice ndev.driver false = .ok cleaned)
    (rest : Held) :
    removeDevice ndev (rest + ndev.resources) =
      .ok (rest, driverHeld ndev.pdev cleaned) := by
  unfold removeDevice
  rw [resources_eq, dnvmeDestroyProcEntry_ok]
  simp only [bind, Except.bind]
  rw [cleans]
  dsimp only
  have noPmr := dnvmeUnmapPmr_ok
    { ndev with proc := false, driver := cleaned }
    (rest + registeredHeld ndev.pdev ndev.instance_ +
      barsHeld ndev.pdev ndev.bar + {.enabled ndev.pdev} +
      capsHeld ndev.pdev ndev.cap +
      heldIf ndev.cmb.isSome (.cmb ndev.pdev))
  dsimp only at noPmr
  rw [noPmr]
  have noCmb := dnvmeUnmapCmb_ok
    { ndev with proc := false, driver := cleaned, pmr := none }
    (rest + registeredHeld ndev.pdev ndev.instance_ +
      barsHeld ndev.pdev ndev.bar + {.enabled ndev.pdev} +
      capsHeld ndev.pdev ndev.cap)
  dsimp only at noCmb ⊢
  rw [noCmb]
  obtain ⟨cap, noCap⟩ := dnvmeDeinitCapability_ok
    { ndev with proc := false, driver := cleaned, pmr := none, cmb := none }
    (rest + registeredHeld ndev.pdev ndev.instance_ +
      barsHeld ndev.pdev ndev.bar + {.enabled ndev.pdev})
  dsimp only at noCap ⊢
  rw [noCap]
  dsimp only
  rw [give_last]
  obtain ⟨bar, noBars⟩ := dnvmeUnmapResource_ok
    { ndev with
      proc := false, driver := cleaned, pmr := none, cmb := none, cap := cap }
    (rest + registeredHeld ndev.pdev ndev.instance_)
  dsimp only at noBars ⊢
  rw [noBars]
  have released := dnvmeReleaseDevice_ok
    { ndev with
      proc := false, driver := cleaned, pmr := none, cmb := none, cap := cap,
      bar := bar } rest
  dsimp only at released ⊢
  rw [released]
  rfl

/-- A removal that returns has cleaned up. -/
theorem cleans_of_removeDevice {ndev : NvmeContext} {held : Held}
    {result : Held × Held} (done : removeDevice ndev held = .ok result) :
    ∃ cleaned, dnvmeCleanupDevice ndev.driver false = .ok cleaned := by
  unfold removeDevice at done
  obtain ⟨⟨first, left⟩, destroyed, done⟩ := ok_of_bind done
  obtain ⟨cleaned, cleans, _⟩ := ok_of_bind done
  have same : first.driver = ndev.driver := by
    unfold dnvmeDestroyProcEntry at destroyed
    split at destroyed
    · obtain ⟨_, _, ended⟩ := ok_of_bind destroyed
      cases ended
      rfl
    · cases destroyed
      rfl
  exact ⟨cleaned, same ▸ cleans⟩

/-! ## The module -/

/-- The resources of the module itself. -/
def moduleHeld (procDir : Bool) : Held :=
  {.gnlFamily} + {.chrdevRegion} + {.nvmeClass} + heldIf procDir .procDir

/-- What is asked of the submissions of a run that is `sparing`. -/
def sparingRule (sparing : Prop) : SubmitRule := fun ndev env cmd =>
  sparing → CreatesDiscontig ndev env cmd

/-- What holds of the module: its resources are its own ones and those of its
devices, over what was there when it was loaded, and only little is lost. -/
structure Sound (sparing : Prop) (base : Held) (m : Module) : Prop where
  held : m.held = base + moduleHeld m.nvmeProcDir +
    total NvmeContext.resources m.nvmeDevList
  /-- A function of the bus has one device. -/
  pdevs : (m.nvmeDevList.map NvmeContext.pdev).Nodup
  /-- A minor number is used once. -/
  minors : (m.nvmeDevList.map NvmeContext.instance_).Nodup
  small : ∀ ndev ∈ m.nvmeDevList, ndev.instance_ < nvmeMinors
  driver : ∀ ndev ∈ m.nvmeDevList, Reachable (sparingRule sparing) ndev.driver
  listed : sparing → ∀ ndev ∈ m.nvmeDevList, Listed ndev.driver.irqSet
  behind : ∀ resource ∈ m.lost, StaysBehind resource
  spared : sparing → m.lost = 0

/-- What happens to the module. -/
inductive Event where
  | probe (env : ProbeEnv) (pdev : Nat)
  | remove (pdev : Nat)
  | open_ (minor : Nat)
  | ioctl (minor : Nat) (op : Op)
  | release (minor : Nat)

/-- One event. -/
def Module.step (m : Module) : Event → Outcome (Int × Module)
  | .probe env pdev => dnvmeProbe env pdev m
  | .remove pdev => (dnvmeRemove pdev m).map fun next => (0, next)
  | .open_ minor => .ok (dnvmeOpen minor m)
  | .ioctl minor op => dnvmeIoctl minor op m
  | .release minor => dnvmeRelease minor m

/-- The bus probes a function that has no device.  Of the requests of a run
that is `sparing` nothing stays behind. -/
def Event.Meets (sparing : Prop) (m : Module) : Event → Prop
  | .probe _ pdev => ∀ ndev ∈ m.nvmeDevList, ndev.pdev ≠ pdev
  | .ioctl minor op => sparing → ∀ ndev, findDevice m minor = some ndev →
      Spares ndev.driver op
  | .remove _ | .open_ _ | .release _ => True

/-- The events that do not stop the kernel. -/
def ModuleStep (sparing : Prop) (m next : Module) : Prop :=
  ∃ event ret, event.Meets sparing m ∧ m.step event = .ok (ret, next)

theorem minor_mem_resources (ndev : NvmeContext) :
    .minor ndev.instance_ ∈ ndev.resources := by
  unfold NvmeContext.resources registeredHeld
  simp only [Multiset.mem_add, Multiset.mem_singleton]
  tauto

/-- A node of the changed list is an old one or the one that was changed. -/
theorem mem_updateFirst_found {α : Type} {found : α → Bool} {change : α → α}
    {nodes : List α} {node : α}
    (member : node ∈ updateFirst found change nodes) :
    node ∈ nodes ∨ ∃ old, nodes.find? found = some old ∧ node = change old := by
  induction nodes with
  | nil => cases member
  | cons first nodes ih =>
      rw [updateFirst] at member
      split at member
      · rename_i here
        rcases List.mem_cons.mp member with rfl | later
        · exact .inr ⟨first, List.find?_cons_of_pos here, rfl⟩
        · exact .inl (List.mem_cons_of_mem _ later)
      · rename_i different
        rcases List.mem_cons.mp member with rfl | later
        · exact .inl List.mem_cons_self
        · rcases ih later with before | ⟨old, there, same⟩
          · exact .inl (List.mem_cons_of_mem _ before)
          · refine .inr ⟨old, ?_, same⟩
            rwa [List.find?_cons_of_neg different]

variable {sparing : Prop} {base left : Held} {m next : Module}

theorem capQueueDepth_le (cap : Nat) : capQueueDepth cap ≤ 2 ^ 16 := by
  unfold capQueueDepth
  omega

theorem listed_fresh (qDepth : Nat) (capCqr cmbSqs cmbCqs : Bool) :
    Listed (NvmeDevice.fresh qDepth capCqr cmbSqs cmbCqs).irqSet :=
  Ready.listed ⟨rfl, (IrqBookkeeping.pairs_zero_iff _).mpr ⟨rfl, rfl⟩, rfl,
    rfl⟩

theorem reachable_of_sparing (spares : sparing) {driver : NvmeDevice}
    (reachable : Reachable (sparingRule sparing) driver) :
    Reachable CreatesDiscontig driver := by
  have same : sparingRule sparing = CreatesDiscontig :=
    funext fun _ => funext fun _ => funext fun _ =>
      propext (forall_prop_of_true spares)
  rwa [same] at reachable

theorem Sound.probe (sound : Sound sparing base m) {env : ProbeEnv}
    {pdev : Nat} (unbound : ∀ ndev ∈ m.nvmeDevList, ndev.pdev ≠ pdev) :
    ∃ ret next, dnvmeProbe env pdev m = .ok (ret, next) ∧
      Sound sparing base next := by
  unfold dnvmeProbe
  rcases probeDevice_ok env m.nvmeProcDir pdev m.held with
    ⟨ret, _, failed⟩ | ⟨ndev, probed, free_, small, ended⟩
  · rw [failed]
    refine ⟨ret, _, rfl, ?_⟩
    rwa [Option.toList_none, List.append_nil]
  · rw [ended]
    refine ⟨0, _, rfl, ?_⟩
    rw [Option.toList_some]
    constructor
    · rw [total_append, ← add_assoc, ← sound.held]
      unfold total
      rw [List.map_singleton, List.sum_singleton]
    · rw [List.map_append, List.map_singleton, probed.pdev_eq,
        List.nodup_append_comm, List.singleton_append, List.nodup_cons]
      refine ⟨fun member => ?_, sound.pdevs⟩
      obtain ⟨other, there, same⟩ := List.mem_map.mp member
      exact unbound other there same
    · rw [List.map_append, List.map_singleton, List.nodup_append_comm,
        List.singleton_append, List.nodup_cons]
      refine ⟨fun member => free_ ?_, sound.minors⟩
      obtain ⟨other, there, same⟩ := List.mem_map.mp member
      rw [sound.held, Multiset.mem_add, ← same]
      exact .inr (mem_total_of_mem there (minor_mem_resources other))
    · intro other member
      rcases List.mem_append.mp member with before | new
      · exact sound.small other before
      · rwa [List.mem_singleton.mp new]
    · intro other member
      rcases List.mem_append.mp member with before | new
      · exact sound.driver other before
      · rw [List.mem_singleton.mp new, probed.driver]
        exact Reachable.fresh (capQueueDepth_le env.cap) _ _ _
    · intro spares other member
      rcases List.mem_append.mp member with before | new
      · exact sound.listed spares other before
      · rw [List.mem_singleton.mp new, probed.driver]
        exact listed_fresh _ _ _ _
    · exact sound.behind
    · exact sound.spared

/-- The removal of a device that is there. -/
theorem Sound.removed (sound : Sound sparing base m) {pdev : Nat}
    {ndev : NvmeContext} {cleaned : NvmeDevice}
    (found : m.nvmeDevList.find? (fun ndev => ndev.pdev = pdev) = some ndev)
    (cleans : dnvmeCleanupDevice ndev.driver false = .ok cleaned) :
    dnvmeRemove pdev m = .ok { m with
      nvmeDevList := m.nvmeDevList.eraseP fun ndev => ndev.pdev = pdev
      held := base + moduleHeld m.nvmeProcDir +
        total NvmeContext.resources
          (m.nvmeDevList.eraseP fun ndev => ndev.pdev = pdev)
      lost := m.lost + driverHeld ndev.pdev cleaned } := by
  have gone := removeDevice_ok cleans (base + moduleHeld m.nvmeProcDir +
    total NvmeContext.resources
      (m.nvmeDevList.eraseP fun ndev => ndev.pdev = pdev))
  rw [add_assoc, ← total_eraseP _ found, ← sound.held] at gone
  unfold dnvmeRemove
  rw [found]
  dsimp only
  rw [gone]
  rfl

/-- A removal that returns. -/
theorem Sound.remove (sound : Sound sparing base m) {pdev : Nat}
    (done : dnvmeRemove pdev m = .ok next) :
    Sound sparing base next ∧ next.nvmeDevList =
      m.nvmeDevList.eraseP fun ndev => ndev.pdev = pdev := by
  have fewer : (m.nvmeDevList.eraseP fun ndev => ndev.pdev = pdev).Sublist
      m.nvmeDevList := List.eraseP_sublist
  cases found : m.nvmeDevList.find? fun ndev => ndev.pdev = pdev with
  | none =>
      unfold dnvmeRemove at done
      rw [found] at done
      cases done
      refine ⟨sound, (List.eraseP_of_forall_not ?_).symm⟩
      exact List.find?_eq_none.mp found
  | some ndev =>
      have member := List.mem_of_find?_eq_some found
      have reachable := sound.driver ndev member
      obtain ⟨cleaned, cleans⟩ : ∃ cleaned,
          dnvmeCleanupDevice ndev.driver false = .ok cleaned := by
        unfold dnvmeRemove at done
        rw [found] at done
        obtain ⟨_, gone, _⟩ := ok_of_bind done
        exact cleans_of_removeDevice gone
      cases (sound.removed found cleans).symm.trans done
      refine ⟨?_, rfl⟩
      constructor
      · rfl
      · exact sound.pdevs.sublist (fewer.map _)
      · exact sound.minors.sublist (fewer.map _)
      · exact fun other there => sound.small other (fewer.subset there)
      · exact fun other there => sound.driver other (fewer.subset there)
      · exact fun spares other there =>
          sound.listed spares other (fewer.subset there)
      · intro resource lost
        rcases Multiset.mem_add.mp lost with before | new
        · exact sound.behind resource before
        · exact staysBehind_of_cleaned reachable.keyed reachable.running
            cleans ndev.pdev resource new
      · intro spares
        change m.lost + driverHeld ndev.pdev cleaned = 0
        rw [sound.spared spares, zero_add]
        exact driverHeld_eq_zero (reachable_of_sparing spares reachable)
          (sound.listed spares ndev member) cleans ndev.pdev

/-- A change of a device that leaves its resources alone. -/
theorem Sound.update (sound : Sound sparing base m) {minor : Nat}
    {change : NvmeContext → NvmeContext}
    (same : ∀ ndev, (change ndev).resources = ndev.resources ∧
      (change ndev).pdev = ndev.pdev ∧
      (change ndev).instance_ = ndev.instance_)
    (driver : ∀ ndev, findDevice m minor = some ndev →
      Reachable (sparingRule sparing) (change ndev).driver ∧
        (sparing → Listed (change ndev).driver.irqSet)) :
    Sound sparing base (m.update minor change) := by
  have changed : ∀ ndev ∈ (m.update minor change).nvmeDevList,
      ndev ∈ m.nvmeDevList ∨ ∃ old, findDevice m minor = some old ∧
        ndev = change old :=
    fun ndev member => mem_updateFirst_found member
  constructor
  · unfold total Module.update
    dsimp only
    rw [IrqBookkeeping.map_updateFirst _ _ _ fun ndev => (same ndev).1]
    exact sound.held
  · unfold Module.update
    rw [IrqBookkeeping.map_updateFirst _ _ _ fun ndev => (same ndev).2.1]
    exact sound.pdevs
  · unfold Module.update
    rw [IrqBookkeeping.map_updateFirst _ _ _ fun ndev => (same ndev).2.2]
    exact sound.minors
  · intro ndev member
    rcases changed ndev member with before | ⟨old, found, rfl⟩
    · exact sound.small ndev before
    · rw [(same old).2.2]
      exact sound.small old (List.mem_of_find?_eq_some found)
  · intro ndev member
    rcases changed ndev member with before | ⟨old, found, rfl⟩
    · exact sound.driver ndev before
    · exact (driver old found).1
  · intro spares ndev member
    rcases changed ndev member with before | ⟨old, found, rfl⟩
    · exact sound.listed spares ndev before
    · exact (driver old found).2 spares
  · exact sound.behind
  · exact sound.spared

theorem findDevice_mem {minor : Nat} {ndev : NvmeContext}
    (found : findDevice m minor = some ndev) : ndev ∈ m.nvmeDevList :=
  List.mem_of_find?_eq_some found

theorem Sound.open_ (sound : Sound sparing base m) (minor : Nat) :
    Sound sparing base (dnvmeOpen minor m).2 := by
  unfold dnvmeOpen
  split
  · exact sound
  rename_i ndev found
  split
  · exact sound
  · refine sound.update (fun _ => ⟨rfl, rfl, rfl⟩) fun other found => ?_
    have member := findDevice_mem found
    exact ⟨sound.driver other member,
      fun spares => sound.listed spares other member⟩

theorem Sound.ioctl (sound : Sound sparing base m) {minor : Nat} {op : Op}
    (meets : sparing → ∀ ndev, findDevice m minor = some ndev →
      Spares ndev.driver op)
    {ret : Int} (done : dnvmeIoctl minor op m = .ok (ret, next)) :
    Sound sparing base next := by
  unfold dnvmeIoctl at done
  cases found : findDevice m minor with
  | none =>
      rw [found] at done
      cases done
      exact sound
  | some ndev =>
      rw [found] at done
      obtain ⟨⟨value, driver⟩, works, ended⟩ := ok_of_bind done
      cases ended
      refine sound.update (fun _ => ⟨rfl, rfl, rfl⟩) fun other again => ?_
      cases found.symm.trans again
      have member := findDevice_mem found
      refine ⟨(sound.driver ndev member).next op ?_ works, fun spares =>
        listed_step (sound.listed spares ndev member) (meets spares ndev found)
          works⟩
      rintro env cmd rfl spares
      exact meets spares ndev found

theorem Sound.release (sound : Sound sparing base m) {minor : Nat} {ret : Int}
    (done : dnvmeRelease minor m = .ok (ret, next)) :
    Sound sparing base next := by
  unfold dnvmeRelease at done
  cases found : findDevice m minor with
  | none =>
      rw [found] at done
      cases done
      exact sound
  | some ndev =>
      rw [found] at done
      obtain ⟨cleaned, cleans, ended⟩ := ok_of_bind done
      cases ended
      refine sound.update (fun _ => ⟨rfl, rfl, rfl⟩) fun other again => ?_
      cases found.symm.trans again
      have member := findDevice_mem found
      have reachable := sound.driver ndev member
      have done : Driver.step ndev.driver .release = .ok (0, cleaned) := by
        unfold Driver.step Driver.perform
        rw [cleans]
        simp [dnvmeCleanupDevice_running reachable.running cleans]
      refine ⟨reachable.next .release (fun _ _ no => (by cases no)) done,
        fun spares => ?_⟩
      change Listed cleaned.irqSet
      rw [IrqBookkeeping.dnvmeCleanupDevice_irqSet cleans]
      exact (sound.listed spares ndev member).dnvmeCleanInterrupt.1.listed

/-! ## Runs of the module -/

theorem Sound.step (sound : Sound sparing base m) {event : Event} {ret : Int}
    (meets : event.Meets sparing m) (done : m.step event = .ok (ret, next)) :
    Sound sparing base next := by
  cases event with
  | probe env pdev =>
      obtain ⟨value, after, ends, kept⟩ := @Sound.probe sparing base m sound
        env pdev meets
      cases ends.symm.trans done
      exact kept
  | remove pdev =>
      change (dnvmeRemove pdev m).map _ = _ at done
      cases gone : dnvmeRemove pdev m with
      | error oops =>
          rw [gone] at done
          cases done
      | ok after =>
          rw [gone] at done
          cases done
          exact (sound.remove gone).1
  | open_ minor =>
      have opened : dnvmeOpen minor m = (ret, next) := Except.ok.inj done
      have kept := sound.open_ minor
      rwa [opened] at kept
  | ioctl minor op => exact sound.ioctl meets done
  | release minor => exact sound.release done

theorem Sound.run (sound : Sound sparing base m)
    (steps : Relation.ReflTransGen (ModuleStep sparing) m next) :
    Sound sparing base next := by
  induction steps with
  | refl => exact sound
  | tail _ last ih =>
      obtain ⟨event, ret, meets, done⟩ := last
      exact ih.step meets done

/-- A probe takes all that a device needs or nothing at all. -/
theorem dnvmeProbe_all_or_nothing (env : ProbeEnv) (pdev : Nat) (m : Module) :
    (∃ ret < 0, dnvmeProbe env pdev m = .ok (ret, m)) ∨
    ∃ ndev, Probed env pdev ndev ∧ .minor ndev.instance_ ∉ m.held ∧
      ndev.instance_ < nvmeMinors ∧
      dnvmeProbe env pdev m = .ok (0, { m with
        nvmeDevList := m.nvmeDevList ++ [ndev]
        held := m.held + ndev.resources }) := by
  unfold dnvmeProbe
  rcases probeDevice_ok env m.nvmeProcDir pdev m.held with
    ⟨ret, failed, undone⟩ | ⟨ndev, probed, free_, small, ended⟩
  · rw [undone]
    refine .inl ⟨ret, failed, ?_⟩
    simp only [bind, Except.bind, Option.toList_none, List.append_nil]
    rfl
  · rw [ended]
    exact .inr ⟨ndev, probed, free_, small, rfl⟩

/-- What a loaded module keeps to.  A device can be removed, and the module be
unloaded, unless a completion queue is in a controller memory buffer; then all
is given back but for some objects of requests, and in a `sparing` run all. -/
structure LifeCycle (sparing : Prop) (base : Held) (m : Module) : Prop where
  sound : Sound sparing base m
  removes : ∀ pdev, (∃ next, dnvmeRemove pdev m = .ok next) ↔
    ∀ ndev ∈ m.nvmeDevList, ndev.pdev = pdev → NoCmbCq ndev.driver
  removed : ∀ pdev next, dnvmeRemove pdev m = .ok next →
    Sound sparing base next ∧ ∀ ndev ∈ next.nvmeDevList, ndev.pdev ≠ pdev
  unloads : (∃ left, dnvmeExit m = .ok left) ↔
    ∀ ndev ∈ m.nvmeDevList, NoCmbCq ndev.driver
  unloaded : ∀ left, dnvmeExit m = .ok left → ∃ lost, left = base + lost ∧
    (∀ resource ∈ lost, StaysBehind resource) ∧ (sparing → lost = 0)

/-- A contiguous metadata buffer. -/
def metaEnv : MetaEnv :=
  ⟨true, true, some 8192, true, PrpReading.evenPages 1, PrpReading.oddPages,
    true⟩

/-- A request to set up the pin, one for a completion queue on it, and one for
a metadata buffer. -/
def requests : List Op :=
  [.setInterrupt IrqBookkeeping.grantingEnv ⟨.pin, 1⟩,
    .prepareCq ⟨true, some 4096, true⟩ true IrqBookkeeping.sharedPrep,
    .createMetaNode metaEnv ⟨true, 7, 0, 64⟩]

end Dnvme.Driver.Probe
