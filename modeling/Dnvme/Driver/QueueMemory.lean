import Dnvme.Driver.QueuePages
import Dnvme.Driver.CqInvariant

/-!
# Queue memory in every run

A discontiguous queue exists from its preparation on, and gets memory from the
create command only; nothing compares the buffer of that command with the
number of elements.  When every create command brings a buffer that fits, each
queue that is contiguous or created has its memory in every run.
-/

namespace Dnvme.Driver.QueueMemory

open Dnvme.Driver
open Dnvme.Driver.CqInvariant
open Dnvme.Driver.PagesHeld
open Dnvme.Driver.QueuePages
open Dnvme.Lib.Ownership

/-! ## The memory of a queue -/

/-- A set of pages holds the queue; `frameAt id` is the page frame behind a
page of bus addresses while the set `id` is mapped. -/
def PagesHold (frameAt : Nat → Nat → Nat) (ndev : NvmeDevice)
    (prps : Option Nat) (elements shift : Nat) : Prop :=
  ∃ id object, prps = some id ∧ ndev.prpsHeap.lookup id = some object ∧
    HoldsQueue (frameAt id) object elements shift

/-- The memory of a submission queue is there, spans all its entries and, for
a discontiguous queue, is what the device reaches through the PRP list. -/
def SqInMemory (frameAt : Nat → Nat → Nat) (ndev : NvmeDevice)
    (sq : NvmeSq) : Prop :=
  if sq.contig then sq.buf = true ∧ sq.elements * 2 ^ sq.sqes ≤ sq.size
  else PagesHold frameAt ndev sq.prps sq.elements sq.sqes

/-- The same of a completion queue. -/
def CqInMemory (frameAt : Nat → Nat → Nat) (ndev : NvmeDevice)
    (cq : NvmeCq) : Prop :=
  if cq.contig then cq.buf = true ∧ cq.elements * 2 ^ cq.cqes ≤ cq.size
  else PagesHold frameAt ndev cq.prps cq.elements cq.cqes

section Spans

variable {frameAt : Nat → Nat → Nat} {ndev : NvmeDevice}

theorem PagesHold.span {prps : Option Nat} {elements shift : Nat}
    (holds : PagesHold frameAt ndev prps elements shift) :
    ∃ bytes, ndev.prpsSpan prps = some bytes ∧
      elements * 2 ^ shift ≤ bytes := by
  rcases holds with ⟨id, object, rfl, here, memory⟩
  refine ⟨object.numMapPgs * pageSize, ?_, memory.spans⟩
  simp only [NvmeDevice.prpsSpan, here, memory.mapped, if_true]

theorem SqInMemory.span {sq : NvmeSq} (memory : SqInMemory frameAt ndev sq) :
    ∃ bytes, ndev.sqSpan sq = some bytes ∧
      sq.elements * 2 ^ sq.sqes ≤ bytes := by
  unfold SqInMemory at memory
  unfold NvmeDevice.sqSpan
  split at memory
  · rename_i contig
    rw [if_pos contig, if_pos memory.1]
    exact ⟨sq.size, rfl, memory.2⟩
  · rename_i contig
    rw [if_neg contig]
    exact memory.span

theorem CqInMemory.span {cq : NvmeCq} (memory : CqInMemory frameAt ndev cq) :
    ∃ bytes, ndev.cqSpan cq = some bytes ∧
      cq.elements * 2 ^ cq.cqes ≤ bytes := by
  unfold CqInMemory at memory
  unfold NvmeDevice.cqSpan
  split at memory
  · rename_i contig
    rw [if_pos contig, if_pos memory.1]
    exact ⟨cq.size, rfl, memory.2⟩
  · rename_i contig
    rw [if_neg contig]
    exact memory.span

/-- Every entry of the queue lies in the span. -/
theorem slotInside_of_span {span : Option Nat} {bytes elements shift slot : Nat}
    (spans : span = some bytes) (long : elements * 2 ^ shift ≤ bytes)
    (below : slot < elements) : slotInside span shift slot = true := by
  have upTo : (slot + 1) * 2 ^ shift ≤ elements * 2 ^ shift :=
    Nat.mul_le_mul_right _ below
  rw [spans]
  simp only [slotInside, decide_eq_true_eq]
  exact upTo.trans long

theorem CqInMemory.cqSlot {cq : NvmeCq} {slot : Nat}
    (memory : CqInMemory frameAt ndev cq) (below : slot < cq.elements) :
    ndev.cqSlot cq slot = some (cq.entries slot) := by
  rcases memory.span with ⟨bytes, spans, long⟩
  rw [NvmeDevice.cqSlot, slotInside_of_span spans long below, if_pos rfl]

end Spans

/-! ## Create commands -/

/-- What the kernel does for the pages of a submission. -/
def DmaServed (frameAt : Nat → Nat → Nat) : SubmitRule :=
  fun ndev env cmd => ∃ bus, DmaWorks (frameAt ndev.nextObject) env
    cmd.dataBufPtr cmd.dataBufSize bus

/-- A command that creates a discontiguous queue brings a buffer that fits,
and it does not create the queue with the identifier of the admin queues. -/
def BringsMemory : SubmitRule :=
  fun ndev env cmd => ∀ ccmd, env.ccmd = some ccmd →
    (∀ id sq, CreatesSq cmd ccmd id → ndev.findSq id = some sq →
      sq.contig = false → id ≠ nvmeAqId ∧
        FitsQueue cmd sq.elements sq.sqes) ∧
    (∀ id cq, CreatesCq cmd ccmd id → ndev.findCq id = some cq →
      cq.contig = false → id ≠ nvmeAqId ∧
        FitsQueue cmd cq.elements cq.cqes)

/-- The condition on submissions. -/
def MemoryRule (frameAt : Nat → Nat → Nat) : SubmitRule :=
  fun ndev env cmd => DmaServed frameAt ndev env cmd ∧
    BringsMemory ndev env cmd

/-! ## The invariant -/

/-- A submission queue as the driver keeps it. -/
structure SqShaped (sq : NvmeSq) : Prop where
  tail : sq.tailPtrVirt < sq.elements
  sqes : sq.sqes = nvmeSqes
  buf : sq.buf = sq.contig
  size : sq.size = sq.elements * 2 ^ sq.sqes

/-- A completion queue as the driver keeps it. -/
structure CqShaped (cq : NvmeCq) : Prop where
  some_ : 0 < cq.elements
  cqes : cq.cqes = nvmeCqes
  buf : cq.buf = cq.contig
  size : cq.size = cq.elements * 2 ^ cq.cqes

/-- Every queue that has been created has its memory. -/
structure Stored (frameAt : Nat → Nat → Nat) (ndev : NvmeDevice) : Prop where
  depth : ndev.qDepth ≤ 2 ^ 16
  held : Held ndev
  sqShape : ∀ id sq, ndev.findSq id = some sq → SqShaped sq
  cqShape : ∀ id cq, ndev.findCq id = some cq → CqShaped cq
  sqPages : ∀ id sq, ndev.findSq id = some sq → sq.contig = false →
    sq.created = true →
      PagesHold frameAt ndev sq.prps sq.elements sq.sqes
  cqPages : ∀ id cq, ndev.findCq id = some cq → cq.contig = false →
    cq.created = true →
      PagesHold frameAt ndev cq.prps cq.elements cq.cqes

section Memory

variable {frameAt : Nat → Nat → Nat} {ndev : NvmeDevice}

theorem Stored.sqInMemory (stored : Stored frameAt ndev) {id : Nat}
    {sq : NvmeSq} (found : ndev.findSq id = some sq)
    (ready : sq.contig = true ∨ sq.created = true) :
    SqInMemory frameAt ndev sq := by
  have shape := stored.sqShape id sq found
  unfold SqInMemory
  split
  · rename_i contig
    exact ⟨shape.buf.trans contig, shape.size.ge⟩
  · rename_i contig
    rw [Bool.not_eq_true] at contig
    refine stored.sqPages id sq found contig ?_
    rcases ready with whole | created
    · rw [contig] at whole
      cases whole
    · exact created

theorem Stored.cqInMemory (stored : Stored frameAt ndev) {id : Nat}
    {cq : NvmeCq} (found : ndev.findCq id = some cq)
    (ready : cq.contig = true ∨ cq.created = true) :
    CqInMemory frameAt ndev cq := by
  have shape := stored.cqShape id cq found
  unfold CqInMemory
  split
  · rename_i contig
    exact ⟨shape.buf.trans contig, shape.size.ge⟩
  · rename_i contig
    rw [Bool.not_eq_true] at contig
    refine stored.cqPages id cq found contig ?_
    rcases ready with whole | created
    · rw [contig] at whole
      cases whole
    · exact created

end Memory

/-! ## Effects keep the invariant -/

section Effects

variable {frameAt : Nat → Nat → Nat} {rule : SubmitRule}
  {ndev next : NvmeDevice}

theorem dnvmeReleaseSq_heap (ndev : NvmeDevice) (sq : NvmeSq) :
    HeapShrinks ndev.prpsHeap (dnvmeReleaseSq ndev sq).prpsHeap := by
  unfold dnvmeReleaseSq dnvmeDeleteCmdList
  dsimp only
  split
  · exact releaseCmds_heap _ _
  · refine HeapShrinks.trans ?_ (releasePrps_heap _ _)
    exact releaseCmds_heap _ _

theorem dnvmeReleaseCq_heap (ndev : NvmeDevice) (cq : NvmeCq) :
    HeapShrinks ndev.prpsHeap (dnvmeReleaseCq ndev cq).prpsHeap := by
  unfold dnvmeReleaseCq
  dsimp only
  split
  · exact .refl _
  · exact releasePrps_heap _ _

/-- An effect leaves the sets of pages alone that it does not release. -/
theorem Effect.lookup_old (effect : Effect rule ndev next) {id : Nat}
    {object : NvmePrps} (old : id < ndev.nextObject)
    (found : next.prpsHeap.lookup id = some object) :
    ndev.prpsHeap.lookup id = some object := by
  cases effect with
  | quiet same => rwa [same.prpsHeap] at found
  | sqData key here kept => exact found
  | cqData key here kept => exact found
  | newSq prep dma absent elements => exact found
  | newCq prep dma absent elements => exact found
  | dropSq here => exact dnvmeReleaseSq_heap ndev _ id object found
  | dropCq here => exact dnvmeReleaseCq_heap ndev _ id object found
  | clearList key here => exact releaseCmds_heap _ ndev id object found
  | complete key here member general =>
      rw [NvmeDevice.deleteCmd_prpsHeap] at found
      exact releasePrps_heap ndev _ id object found
  | forget here member special =>
      rwa [NvmeDevice.deleteCmd_prpsHeap] at found
  | @submit _ env cmd sq ccmd filled prps accepted meets =>
      rw [accepted.heap] at found
      cases prps with
      | none => exact found
      | some new =>
          rwa [heapWith, AList.lookup_insert_ne (ne_of_lt old)] at found

/-- Pages that are still held are the same. -/
theorem PagesHold.effect {prps : Option Nat} {elements shift : Nat}
    (holds : PagesHold frameAt ndev prps elements shift) (held : Held ndev)
    (effect : Effect rule ndev next) (owner : Owner)
    (owns : ∀ id, prps = some id → Owns next owner id) :
    PagesHold frameAt next prps elements shift := by
  rcases holds with ⟨id, object, rfl, here, memory⟩
  have live : Live next id := (Held.effect effect held).sound.live
    (owns id rfl)
  rcases Option.isSome_iff_exists.mp live with ⟨later, there⟩
  have old : id < ndev.nextObject := held.liveBelow id
    (Option.isSome_iff_exists.mpr ⟨object, here⟩)
  have same := Effect.lookup_old effect old there
  rw [here] at same
  cases same
  exact ⟨id, object, rfl, there, memory⟩

theorem elements_small (depth : ndev.qDepth ≤ 2 ^ 16) {elements : Nat}
    (accepted : ElementsOk ndev elements) : elements ≤ 2 ^ 16 :=
  accepted.2.trans (max_le depth (by decide))

theorem SqShaped.new {prep : NvmePrepSq} {dma : Nat}
    (positive : prep.elements ≠ 0) (small : prep.elements ≤ 2 ^ 16) :
    SqShaped (prep.queue nvmeSqes dma) := by
  refine ⟨Nat.pos_of_ne_zero positive, rfl, rfl, ?_⟩
  have fits : prep.elements * 2 ^ nvmeSqes < 2 ^ 32 := by
    unfold nvmeSqes
    omega
  exact Nat.mod_eq_of_lt fits

theorem CqShaped.new {prep : NvmePrepCq} {dma : Nat}
    (positive : prep.elements ≠ 0) (small : prep.elements ≤ 2 ^ 16) :
    CqShaped (prep.queue nvmeCqes dma) := by
  refine ⟨Nat.pos_of_ne_zero positive, rfl, rfl, ?_⟩
  have fits : prep.elements * 2 ^ nvmeCqes < 2 ^ 32 := by
    unfold nvmeCqes
    omega
  exact Nat.mod_eq_of_lt fits

theorem SqShaped.later {sq later : NvmeSq} (shaped : SqShaped sq)
    (same : SqLater sq later) : SqShaped later where
  tail := same.tail shaped.tail
  sqes := same.sqes.trans shaped.sqes
  buf := by rw [same.buf, same.contig, shaped.buf]
  size := by rw [same.size, same.elements, same.sqes, shaped.size]

theorem CqShaped.later {cq later : NvmeCq} (shaped : CqShaped cq)
    (same : CqLater cq later) : CqShaped later where
  some_ := by rw [same.elements]; exact shaped.some_
  cqes := same.cqes.trans shaped.cqes
  buf := by rw [same.buf, same.contig, shaped.buf]
  size := by rw [same.size, same.elements, same.cqes, shaped.size]

/-- A queue keeps its shape, and a new one has it. -/
theorem Stored.sqShape_effect (stored : Stored frameAt ndev)
    (effect : Effect rule ndev next) (id : Nat) (later : NvmeSq)
    (found : next.findSq id = some later) : SqShaped later := by
  rcases effect.sq_before found with ⟨sq, before, same⟩ |
    ⟨prep, dma, _, rfl, elements⟩
  · exact (stored.sqShape id sq before).later same
  · exact SqShaped.new elements.1 (elements_small stored.depth elements)

theorem Stored.cqShape_effect (stored : Stored frameAt ndev)
    (effect : Effect rule ndev next) (id : Nat) (later : NvmeCq)
    (found : next.findCq id = some later) : CqShaped later := by
  rcases effect.cq_before found with ⟨cq, before, same⟩ |
    ⟨prep, dma, _, rfl, elements⟩
  · exact (stored.cqShape id cq before).later same
  · exact CqShaped.new elements.1 (elements_small stored.depth elements)

/-- A queue that was created before still has its pages. -/
theorem Stored.sqPages_kept (stored : Stored frameAt ndev)
    (effect : Effect rule ndev next) {id : Nat} {sq later : NvmeSq}
    (before : ndev.findSq id = some sq) (after : next.findSq id = some later)
    (prps : later.prps = sq.prps) (contig : later.contig = sq.contig)
    (discontig : later.contig = false) (created : sq.created = true) :
    PagesHold frameAt next later.prps later.elements later.sqes := by
  have pages := stored.sqPages id sq before (contig ▸ discontig) created
  rw [← prps] at pages
  have owns (object : Nat) (holds : later.prps = some object) :
      Owns next (.submissionQueue id) object := by
    change sqPrps next id = some object
    rw [sqPrps_eq after, holds]
  rcases effect.sq_before after with ⟨other, same, kept⟩ |
    ⟨prep, dma, rfl, rfl, _⟩
  · rw [before] at same
    cases same
    rw [kept.elements, kept.sqes]
    exact pages.effect stored.held effect _ owns
  · -- a queue that is made anew holds nothing
    rcases pages with ⟨_, _, nothing, _⟩
    cases nothing

theorem Stored.cqPages_kept (stored : Stored frameAt ndev)
    (effect : Effect rule ndev next) {id : Nat} {cq later : NvmeCq}
    (before : ndev.findCq id = some cq) (after : next.findCq id = some later)
    (prps : later.prps = cq.prps) (contig : later.contig = cq.contig)
    (discontig : later.contig = false) (created : cq.created = true) :
    PagesHold frameAt next later.prps later.elements later.cqes := by
  have pages := stored.cqPages id cq before (contig ▸ discontig) created
  rw [← prps] at pages
  have owns (object : Nat) (holds : later.prps = some object) :
      Owns next (.completionQueue id) object := by
    change cqPrps next id = some object
    rw [cqPrps_eq after, holds]
  rcases effect.cq_before after with ⟨other, same, kept⟩ |
    ⟨prep, dma, rfl, rfl, _⟩
  · rw [before] at same
    cases same
    rw [kept.elements, kept.cqes]
    exact pages.effect stored.held effect _ owns
  · -- a queue that is made anew holds nothing
    rcases pages with ⟨_, _, nothing, _⟩
    cases nothing

end Effects

/-! ## Submissions bring memory -/

section Submissions

variable {frameAt : Nat → Nat → Nat} {ndev next : NvmeDevice}
  {env : SubmitEnv} {cmd : Nvme64bCmd} {sq : NvmeSq}
  {ccmd filled : NvmeCommonCommand} {prps : Option NvmePrps}

/-- The pages of an accepted create command hold its queue. -/
theorem Submitted.holds {elements shift : Nat}
    (accepted : Submitted env cmd ndev next sq ccmd filled prps)
    (served : DmaServed frameAt ndev env cmd)
    (creates : createsQueue cmd ccmd = true) (buffer : cmd.dataBufPtr ≠ 0)
    (fits : FitsQueue cmd elements shift) (some_ : 0 < elements) :
    ∃ object, prps = some object ∧
      next.prpsHeap.lookup ndev.nextObject = some object ∧
      HoldsQueue (frameAt ndev.nextObject) object elements shift := by
  rcases accepted.filled_eq with ⟨metadata, dptr, pages, _⟩
  rcases served with ⟨bus, works⟩
  have heap := accepted.heap
  cases prps with
  | none =>
      have needed := pages.1
      unfold createsQueue at creates
      unfold needPrp at needed
      simp only [Bool.and_eq_true, decide_eq_true_eq, Bool.or_eq_true]
        at creates
      rw [if_pos creates.1] at needed
      rcases creates.2 with opcode | opcode
      · simp only [opcode] at needed
        simp [buffer] at needed
      · simp only [opcode] at needed
        simp [buffer] at needed
  | some object =>
      refine ⟨object, rfl, ?_, create_holds works fits some_ ?_ pages⟩
      · rw [heap, heapWith, AList.lookup_insert]
      · exact creates

theorem createsQueue_of_sq {id : Nat} (creates : CreatesSq cmd ccmd id) :
    createsQueue cmd ccmd = true := by
  simp [createsQueue, creates.1, creates.2.1]

theorem createsQueue_of_cq {id : Nat} (creates : CreatesCq cmd ccmd id) :
    createsQueue cmd ccmd = true := by
  simp [createsQueue, creates.1, creates.2.1]

theorem Stored.sqPages_submitted (stored : Stored frameAt ndev)
    (accepted : Submitted env cmd ndev next sq ccmd filled prps)
    (meets : MemoryRule frameAt ndev env cmd) (id : Nat) (later : NvmeSq)
    (found : next.findSq id = some later) (discontig : later.contig = false)
    (created : later.created = true) :
    PagesHold frameAt next later.prps later.elements later.sqes := by
  have after := found
  rw [accepted.findSq] at after
  rcases Option.map_eq_some_iff.mp after with ⟨before, here, equal⟩
  have same : later.prps = (createdSq env cmd ccmd ndev.nextObject
        prps.isSome id before).prps ∧
      later.created = (createdSq env cmd ccmd ndev.nextObject
        prps.isSome id before).created ∧ SqLater before later := by
    rw [← equal]
    split
    · exact ⟨rfl, rfl, (createdSq_later _ _ _ _ _ _ _).trans
        (enqueued_later _ _ _)⟩
    · exact ⟨rfl, rfl, createdSq_later _ _ _ _ _ _ _⟩
  rcases same with ⟨prpsEq, createdEq, kept⟩
  rw [kept.contig] at discontig
  by_cases creates : CreatesSq cmd ccmd id
  · rcases meets.2 ccmd accepted.read with ⟨rule, _⟩
    rcases rule id before creates here discontig with ⟨target, fits⟩
    rcases accepted.target.sq id creates with ⟨other, also, _, buffer⟩
    rw [here] at also
    cases also
    rw [discontig] at buffer
    have shape := stored.sqShape id before here
    rcases Submitted.holds accepted meets.1 (createsQueue_of_sq creates)
      (buffer.resolve_left Bool.false_ne_true) fits
      (Nat.zero_lt_of_lt shape.tail) with ⟨object, rfl, there, memory⟩
    refine ⟨ndev.nextObject, object, ?_, there, ?_⟩
    · rw [prpsEq, createdSq, if_pos creates, if_pos ⟨rfl, target⟩]
      rfl
    · rw [kept.elements, kept.sqes]
      exact memory
  · rw [createdSq_of_not creates] at prpsEq createdEq
    refine stored.sqPages_kept (Effect.submit accepted meets) here found
      prpsEq kept.contig (kept.contig.trans discontig) ?_
    rw [← createdEq]
    exact created

theorem Stored.cqPages_submitted (stored : Stored frameAt ndev)
    (accepted : Submitted env cmd ndev next sq ccmd filled prps)
    (meets : MemoryRule frameAt ndev env cmd) (id : Nat) (later : NvmeCq)
    (found : next.findCq id = some later) (discontig : later.contig = false)
    (created : later.created = true) :
    PagesHold frameAt next later.prps later.elements later.cqes := by
  have after := found
  rw [accepted.findCq] at after
  rcases Option.map_eq_some_iff.mp after with ⟨before, here, rfl⟩
  have kept := createdCq_later env cmd ccmd ndev.nextObject prps.isSome id
    before
  rw [kept.contig] at discontig
  by_cases creates : CreatesCq cmd ccmd id
  · rcases meets.2 ccmd accepted.read with ⟨_, rule⟩
    rcases rule id before creates here discontig with ⟨target, fits⟩
    rcases accepted.target.cq id creates with ⟨other, also, _, buffer⟩
    rw [here] at also
    cases also
    rw [discontig] at buffer
    have shape := stored.cqShape id before here
    rcases Submitted.holds accepted meets.1 (createsQueue_of_cq creates)
      (buffer.resolve_left Bool.false_ne_true) fits shape.some_ with
      ⟨object, rfl, there, memory⟩
    refine ⟨ndev.nextObject, object, ?_, there, ?_⟩
    · rw [createdCq, if_pos creates, if_pos ⟨rfl, target⟩]
      rfl
    · rw [kept.elements, kept.cqes]
      exact memory
  · have same := @createdCq_of_not env cmd ccmd ndev.nextObject prps.isSome
      id before creates
    refine stored.cqPages_kept (Effect.submit accepted meets) here found
      (congrArg NvmeCq.prps same) kept.contig
      (kept.contig.trans discontig) ?_
    rw [same] at created
    exact created

/-- Every effect of a submission that meets the rule keeps the invariant. -/
theorem Stored.effect (effect : Effect (MemoryRule frameAt) ndev next)
    (stored : Stored frameAt ndev) : Stored frameAt next := by
  refine ⟨(Effect.qDepth effect).le.trans stored.depth,
    Held.effect effect stored.held, stored.sqShape_effect effect,
    stored.cqShape_effect effect, ?_, ?_⟩
  · intro id later found discontig created
    rcases stored.held.effect_cases effect with ⟨gone, dropped, retires, _⟩ |
      ⟨_, _, _, _, _, _, accepted, meets⟩
    · rcases retires.pointers.sq id later found with ⟨_, new⟩ |
        ⟨before, here, prps, marked, contig⟩
      · rw [created] at new
        cases new
      · exact stored.sqPages_kept effect here found prps contig discontig
          (marked ▸ created)
    · exact stored.sqPages_submitted accepted meets id later found discontig
        created
  · intro id later found discontig created
    rcases stored.held.effect_cases effect with ⟨gone, dropped, retires, _⟩ |
      ⟨_, _, _, _, _, _, accepted, meets⟩
    · rcases retires.pointers.cq id later found with ⟨_, new⟩ |
        ⟨before, here, prps, marked, contig⟩
      · rw [created] at new
        cases new
      · exact stored.cqPages_kept effect here found prps contig discontig
          (marked ▸ created)
    · exact stored.cqPages_submitted accepted meets id later found discontig
        created

theorem Stored.fresh {qDepth : Nat} (small : qDepth ≤ 2 ^ 16)
    (capCqr cmbSqs cmbCqs : Bool) :
    Stored frameAt (NvmeDevice.fresh qDepth capCqr cmbSqs cmbCqs) where
  depth := small
  held := Held.fresh _ _ _ _
  sqShape _ _ found := by cases found
  cqShape _ _ found := by cases found
  sqPages _ _ found := by cases found
  cqPages _ _ found := by cases found

theorem Reachable.stored (reachable : Reachable (MemoryRule frameAt) ndev) :
    Stored frameAt ndev :=
  reachable.invariant (fun _ _ _ _ small => Stored.fresh small _ _ _)
    Stored.effect

end Submissions

/-! ## New pages -/

section NewPages

variable {frameAt : Nat → Nat → Nat} {ndev : NvmeDevice} {sq : NvmeSq}

/-- New pages leave the memory of the queues alone. -/
theorem PagesHold.heapWith {next : NvmeDevice} {prps : Option Nat}
    {elements shift : Nat} {new : Option NvmePrps} (held : Held ndev)
    (heap : next.prpsHeap = heapWith ndev new)
    (holds : PagesHold frameAt ndev prps elements shift) :
    PagesHold frameAt next prps elements shift := by
  rcases holds with ⟨id, object, rfl, here, memory⟩
  have old : id < ndev.nextObject := held.liveBelow id
    (Option.isSome_iff_exists.mpr ⟨object, here⟩)
  refine ⟨id, object, rfl, ?_, memory⟩
  rw [heap]
  cases new with
  | none => exact here
  | some pages =>
      rw [Driver.heapWith, AList.lookup_insert_ne (ne_of_lt old)]
      exact here

theorem SqInMemory.heapWith {next : NvmeDevice} {new : Option NvmePrps}
    (held : Held ndev) (heap : next.prpsHeap = heapWith ndev new)
    (memory : SqInMemory frameAt ndev sq) :
    SqInMemory frameAt next sq := by
  unfold SqInMemory at memory ⊢
  split
  · rename_i contig
    rw [if_pos contig] at memory
    exact memory
  · rename_i contig
    rw [if_neg contig] at memory
    exact memory.heapWith held heap

end NewPages

end Dnvme.Driver.QueueMemory
