import Dnvme.Driver.CqScan
import Dnvme.Driver.Frame

/-!
# Delivery of completion queue entries

A device that posts entries and a host that scans and reaps them share one
completion queue.  The only things they know of each other are the phase bits
in the slots and the head doorbell.  This module shows that they agree: a scan
counts exactly what was posted and not reaped, and the user receives the posted
entries in order, each once.

Both sides are described by the number of entries they have passed since the
queue was allocated; slots and phases follow by `place`.
-/

namespace Dnvme.Driver.CqDelivery

open Dnvme.Driver
open Dnvme.Lib.PhasedRing

/-! ## The system -/

/--
The driver, the device side of one completion queue, and what happened so far:
the entries posted, the entries the user received, and how many more entries
the host has seen.
-/
structure CqSystem where
  ndev : NvmeDevice
  tail : Nat
  phase : Nat
  posted : List NvmeCompletion
  delivered : List NvmeCompletion
  seen : Nat

/-- An entry with its phase bit set to `phase`. -/
def withPhase (entry : NvmeCompletion) (phase : Nat) : NvmeCompletion :=
  { entry with status := entry.status / 2 * 2 + phase }

/-- The steps of both parties, in any order. -/
inductive CqStep (cqid : Nat) : CqSystem → CqSystem → Prop where
  /-- The device posts at its tail while the ring is not full. -/
  | post {s : CqSystem} {cq : NvmeCq} (entry : NvmeCompletion)
      (found : s.ndev.findCq cqid = some cq)
      (room : (s.tail + 1) % cq.elements ≠ cq.db) :
      CqStep cqid s
        { s with
          ndev := s.ndev.postEntry cqid s.tail (withPhase entry s.phase)
          tail := (advance cq.elements (s.tail, s.phase)).1
          phase := (advance cq.elements (s.tail, s.phase)).2
          posted := s.posted ++ [withPhase entry s.phase] }
  /-- The host scans the queue. -/
  | scan {s : CqSystem} {cq : NvmeCq} {remain : Nat} {next : NvmeDevice}
      (found : s.ndev.findCq cqid = some cq)
      (scanned : s.ndev.scan cqid cq = .ok (remain, next)) :
      CqStep cqid s { s with ndev := next, seen := remain }
  /-- The host reaps some of the entries it has seen. -/
  | reap {s : CqSystem} {cq : NvmeCq} {copy : CopyResult} (count : Nat)
      (found : s.ndev.findCq cqid = some cq)
      (some_ : 1 ≤ count) (seen : count ≤ s.seen)
      (copied : copyCqData cqid (fun _ => true) count cq.headPtr s.ndev [] =
        .ok copy) :
      CqStep cqid s
        { s with
          ndev := copy.ndev.updateCqHead cqid (count - copy.left)
          delivered := s.delivered ++ copy.copied
          seen := s.seen - (count - copy.left) }
  /-- Whatever else the driver does leaves the queue alone. -/
  | other {s : CqSystem} (next : NvmeDevice)
      (same : next.findCq cqid = s.ndev.findCq cqid) :
      CqStep cqid s { s with ndev := next }

/-- The system right after the queue was allocated. -/
def CqSystem.start (ndev : NvmeDevice) : CqSystem :=
  ⟨ndev, 0, 1, [], [], 0⟩

/-! ## The invariant -/

/-- A contiguous ring of `size` entries of 16 bytes. -/
structure Ring (size : Nat) (cq : NvmeCq) : Prop where
  contig : cq.contig = true
  buf : cq.buf = true
  elements : cq.elements = size
  cqes : cq.cqes = 4
  size_eq : cq.size = size * 2 ^ 4

/-- The ring as both parties see it. -/
structure InStep (cqid size : Nat) (s : CqSystem) (cq : NvmeCq) : Prop where
  found : s.ndev.findCq cqid = some cq
  ring : Ring size cq
  host : (cq.headPtr, cq.pbitNewEntry) = place size s.delivered.length
  db : cq.db = s.delivered.length % size
  device : (s.tail, s.phase) = place size s.posted.length
  delivered_eq : s.delivered = s.posted.take s.delivered.length
  ahead : s.delivered.length ≤ s.posted.length
  room : s.posted.length < s.delivered.length + size
  fresh : ∀ k entry, s.posted[k]? = some entry →
    entry.phase = lapPhase size k
  held : ∀ k entry, s.posted[k]? = some entry → s.posted.length ≤ k + size →
    cq.entries (k % size) = entry
  blank : ∀ k, s.posted.length ≤ k → k < size →
    cq.entries k = NvmeCompletion.zero
  seen : s.delivered.length + s.seen ≤ s.posted.length

variable {cqid size : Nat} {s : CqSystem} {cq : NvmeCq}

/-- Every slot can be read. -/
theorem Ring.cqSlot_eq {ndev : NvmeDevice} (ring : Ring size cq)
    {slot : Nat} (below : slot < size) :
    ndev.cqSlot cq slot = some (cq.entries slot) := by
  have inside : (slot + 1) * 2 ^ 4 ≤ size * 2 ^ 4 :=
    Nat.mul_le_mul_right _ below
  have spans : ndev.cqSpan cq = some (size * 2 ^ 4) := by
    rw [NvmeDevice.cqSpan, if_pos ring.contig, if_pos ring.buf,
      ring.size_eq]
  rw [NvmeDevice.cqSlot, spans, ring.cqes]
  exact if_pos (decide_eq_true inside)

/-- The slots before the tail hold fresh entries. -/
theorem InStep.phase_before (inStep : InStep cqid size s cq) {index : Nat}
    (reached : s.delivered.length ≤ index) (below : index < s.posted.length) :
    (cq.entries (index % size)).phase = lapPhase size index := by
  have room := inStep.room
  have found := List.getElem?_eq_getElem below
  rw [inStep.held index _ found (by omega)]
  exact inStep.fresh index _ found

/-- The slot at the tail is stale or was never written. -/
theorem InStep.phase_at_tail (inStep : InStep cqid size s cq)
    (positive : 0 < size) :
    (cq.entries (s.posted.length % size)).phase ≠
      lapPhase size s.posted.length := by
  by_cases lapped : size ≤ s.posted.length
  · -- the entry of the lap before
    have below : s.posted.length - size < s.posted.length := by omega
    have found := List.getElem?_eq_getElem below
    have sum : s.posted.length - size + size = s.posted.length := by omega
    have slot := @slot_add_size size (s.posted.length - size)
    have phase := lapPhase_add_size positive (s.posted.length - size)
    rw [sum] at slot phase
    rw [slot, inStep.held _ _ found (by omega), inStep.fresh _ _ found]
    exact phase.symm
  · have below : s.posted.length < size := by omega
    rw [Nat.mod_eq_of_lt below, inStep.blank _ (le_refl _) below, lapPhase,
      Nat.div_eq_of_lt below]
    decide

/-! ## The scan -/

/-- A scan counts the entries that were posted and not reaped. -/
theorem InStep.scan_eq (inStep : InStep cqid size s cq)
    (positive : 0 < size) (small : size < 2 ^ 16) :
    s.ndev.scan cqid cq =
      .ok (s.posted.length - s.delivered.length,
        s.ndev.setCq cqid
          { cq with tailPtr := s.posted.length % size }) := by
  have ahead := inStep.ahead
  have room := inStep.room
  have host := inStep.host
  rw [place, Prod.mk.injEq] at host
  have walk := @CqScan.scanCqe_walk size s.posted.length
    (s.ndev.cqSlot cq) positive
    (s.posted.length - s.delivered.length) scanFuel s.delivered.length 0
    (by omega) (by unfold scanFuel; omega)
    (fun k reached below => ⟨lt_of_le_of_lt (Nat.mod_lt k positive) small, _,
      inStep.ring.cqSlot_eq (Nat.mod_lt k positive),
      inStep.phase_before reached below⟩)
    ⟨_, inStep.ring.cqSlot_eq (Nat.mod_lt _ positive),
      inStep.phase_at_tail positive⟩
  rw [NvmeDevice.scan, dnvmeGetCqeRemain, inStep.ring.elements, host.1, host.2,
    walk, Nat.zero_add]

/-! ## The copy -/

theorem Ring.nextSlot_eq (ring : Ring size cq) (positive : 0 < size)
    (index : Nat) :
    cq.nextSlot (index % size) = (index + 1) % size := by
  have below : index % size < size := Nat.mod_lt _ positive
  rw [NvmeCq.nextSlot, ring.cqes, ring.size_eq]
  by_cases last : index % size + 1 = size
  · rw [last, if_pos (le_refl _), (succ_at_end positive last).1]
  · have inside : index % size + 1 < size := by omega
    rw [(succ_inside inside).1, if_neg]
    intro reaches
    exact absurd (Nat.le_of_mul_le_mul_right reaches (by decide)) (by omega)

/-- Handling the entries in order succeeds and keeps the queue: each names a
command that is outstanding, and none of them makes the driver refuse to free
queue 0. -/
inductive Accepted (cqid : Nat) :
    NvmeDevice → List NvmeCompletion → NvmeDevice → Prop where
  | nil (ndev : NvmeDevice) : Accepted cqid ndev [] ndev
  | cons {ndev final : NvmeDevice} {entry : NvmeCompletion}
      {rest : List NvmeCompletion}
      (handled : (handleCmdCompletion ndev entry).1 = 0)
      (kept : ((handleCmdCompletion ndev entry).2.findCq cqid).isSome)
      (others : Accepted cqid (handleCmdCompletion ndev entry).2 rest final) :
      Accepted cqid ndev (entry :: rest) final

/-- The entries lie in the ring from `index` on. -/
def Lies (size : Nat) (cq : NvmeCq) (index : Nat)
    (entries : List NvmeCompletion) : Prop :=
  ∀ k entry, entries[k]? = some entry →
    cq.entries ((index + k) % size) = entry

theorem Lies.head {index : Nat} {entry : NvmeCompletion}
    {rest : List NvmeCompletion} (lies : Lies size cq index (entry :: rest)) :
    cq.entries (index % size) = entry :=
  lies 0 entry rfl

theorem Lies.tail {index : Nat} {entry : NvmeCompletion}
    {rest : List NvmeCompletion} (lies : Lies size cq index (entry :: rest)) :
    Lies size cq (index + 1) rest := by
  intro k other found
  rw [show index + 1 + k = index + (k + 1) by omega]
  exact lies (k + 1) other found

/-- One turn of the loop of `copy_cq_data`. -/
theorem Ring.copyCqData_cons (ring : Ring size cq) (positive : 0 < size)
    {index : Nat} {ndev : NvmeDevice} {copied : List NvmeCompletion}
    {entry : NvmeCompletion} {rest : List NvmeCompletion}
    (found : ndev.findCq cqid = some cq)
    (lies : Lies size cq index (entry :: rest)) :
    copyCqData cqid (fun _ => true) (rest.length + 1) (index % size) ndev
        copied =
      match (handleCmdCompletion ndev entry).2.findCq cqid with
      | none => .error .useAfterFree
      | some _ =>
          if (handleCmdCompletion ndev entry).1 ≠ 0 then
            .ok ⟨(handleCmdCompletion ndev entry).1, rest.length,
              copied ++ [entry], (handleCmdCompletion ndev entry).2⟩
          else
            copyCqData cqid (fun _ => true) rest.length ((index + 1) % size)
              (handleCmdCompletion ndev entry).2 (copied ++ [entry]) := by
  rw [copyCqData, found]
  dsimp only
  rw [ring.cqSlot_eq (Nat.mod_lt _ positive), lies.head,
    ring.nextSlot_eq positive]
  rfl

/-- The copy hands out the entries of the ring in order and keeps the queue. -/
theorem Ring.copyCqData_spec (ring : Ring size cq) (positive : 0 < size)
    (entries : List NvmeCompletion) :
    ∀ (index : Nat) (ndev : NvmeDevice) (copied : List NvmeCompletion)
      (copy : CopyResult),
      ndev.findCq cqid = some cq → Lies size cq index entries →
      copyCqData cqid (fun _ => true) entries.length (index % size) ndev
        copied = .ok copy →
      copy.left ≤ entries.length ∧
        copy.copied =
          copied ++ entries.take (entries.length - copy.left) ∧
        copy.ndev.findCq cqid = some cq := by
  induction entries with
  | nil =>
      intro index ndev copied copy found _ result
      cases result
      exact ⟨le_refl _, by simp, found⟩
  | cons entry rest ih =>
      intro index ndev copied copy found lies result
      rw [List.length_cons, ring.copyCqData_cons positive found lies]
        at result
      split at result
      · cases result
      · rename_i kept survives
        have same := findCq_handleCmdCompletion found survives
        split at result
        · cases result
          exact ⟨Nat.le_succ _, by simp, same⟩
        · rcases ih _ _ _ _ same lies.tail result with ⟨left, taken, final⟩
          have count : (entry :: rest).length - copy.left =
              rest.length - copy.left + 1 := by
            rw [List.length_cons]
            omega
          refine ⟨Nat.le_succ_of_le left, ?_, final⟩
          rw [taken, count, List.take_succ_cons, List.append_assoc,
            List.singleton_append]

/-- When every entry is accepted, all of them are copied. -/
theorem Ring.copyCqData_accepted (ring : Ring size cq) (positive : 0 < size)
    {ndev final : NvmeDevice} {entries : List NvmeCompletion}
    (accepted : Accepted cqid ndev entries final) :
    ∀ (index : Nat) (copied : List NvmeCompletion),
      ndev.findCq cqid = some cq → Lies size cq index entries →
      copyCqData cqid (fun _ => true) entries.length (index % size) ndev
        copied = .ok ⟨0, 0, copied ++ entries, final⟩ := by
  induction accepted with
  | nil ndev =>
      intro index copied _ _
      rw [List.append_nil]
      rfl
  | cons handled kept others ih =>
      intro index copied found lies
      rcases Option.isSome_iff_exists.mp kept with ⟨after, survives⟩
      have same := findCq_handleCmdCompletion found survives
      rw [List.length_cons, ring.copyCqData_cons positive found lies,
        survives]
      dsimp only
      rw [if_neg (not_not.mpr handled), ih _ _ same lies.tail,
        List.append_assoc, List.singleton_append]

/-! ## The head -/

theorem Ring.updateCqHead (ring : Ring size cq) (count : Nat) :
    Ring size (updateCqHead cq count) := by
  unfold Driver.updateCqHead
  dsimp only
  split
  · exact ⟨ring.contig, ring.buf, ring.elements, ring.cqes, ring.size_eq⟩
  · exact ⟨ring.contig, ring.buf, ring.elements, ring.cqes, ring.size_eq⟩

/-- A jump over several entries is as many single steps. -/
theorem Ring.updateCqHead_place (ring : Ring size cq) (small : size < 2 ^ 16)
    {index count : Nat}
    (host : (cq.headPtr, cq.pbitNewEntry) = place size index)
    (less : count < size) :
    ((Driver.updateCqHead cq count).headPtr,
        (Driver.updateCqHead cq count).pbitNewEntry) =
        place size (index + count) ∧
      (Driver.updateCqHead cq count).db = (index + count) % size := by
  have positive : 0 < size := by omega
  have jump := @place_add size index count less
  have phase := lapPhase_lt size index
  have slot : index % size < size := Nat.mod_lt _ positive
  rw [place, Prod.mk.injEq] at host
  have head : u32 (cq.headPtr + count) = index % size + count := by
    rw [host.1, u32, Nat.mod_eq_of_lt (by omega)]
  have position : (index + count) % size = (place size (index + count)).1 :=
    rfl
  rw [position]
  unfold Driver.updateCqHead
  dsimp only
  rw [head, ring.elements]
  split
  · rename_i wraps
    have word : u16 ((index % size + count) % size) =
        (index % size + count) % size :=
      Nat.mod_eq_of_lt ((Nat.mod_lt _ positive).trans small)
    have flip : (if cq.pbitNewEntry = 0 then 1 else 0) =
        lapPhase size index ^^^ 1 := by
      rw [host.2]
      interval_cases lapPhase size index <;> rfl
    rw [if_pos wraps] at jump
    rw [jump]
    exact ⟨Prod.ext word flip, word⟩
  · rename_i stays
    have word : u16 (index % size + count) = index % size + count :=
      Nat.mod_eq_of_lt (by omega)
    rw [if_neg stays] at jump
    rw [jump]
    exact ⟨Prod.ext word host.2, word⟩

/-! ## Every step keeps the parties in step -/

/-- The queue as it was allocated. -/
theorem InStep.start {env : AllocQueueEnv} {ndev allocated : NvmeDevice}
    {prep : NvmePrepCq} (contig : prep.contig = true)
    (positive : 1 ≤ prep.elements) (small : prep.elements ≤ 65535)
    (alloc : dnvmeAllocCq env ndev prep nvmeCqes = some allocated) :
    ∃ cq, InStep prep.cqId prep.elements (CqSystem.start allocated) cq := by
  unfold dnvmeAllocCq at alloc
  split at alloc
  · cases alloc
  · split at alloc
    · cases alloc
    · rename_i dma _
      split at alloc
      · cases alloc
      · cases alloc
        have bytes : u32 (prep.elements * 2 ^ nvmeCqes) =
            prep.elements * 2 ^ 4 :=
          Nat.mod_eq_of_lt (by unfold nvmeCqes; omega)
        exact ⟨prep.queue nvmeCqes dma, {
          found := NvmeDevice.findCq_setCq _ _ _
          ring := ⟨contig, contig, rfl, rfl, bytes⟩
          host := (advance_iterate positive 0)
          db := (Nat.zero_mod _).symm
          device := (advance_iterate positive 0)
          delivered_eq := rfl
          ahead := le_refl _
          room := by
            rw [CqSystem.start, List.length_nil, Nat.zero_add]
            exact positive
          fresh := by simp [CqSystem.start]
          held := by simp [CqSystem.start]
          blank := fun _ _ _ => rfl
          seen := le_refl _ }⟩

/-- The device writes where nothing is left to read. -/
theorem InStep.post (inStep : InStep cqid size s cq) (positive : 0 < size)
    (entry : NvmeCompletion)
    (room : (s.tail + 1) % cq.elements ≠ cq.db) :
    InStep cqid size
      { s with
        ndev := s.ndev.postEntry cqid s.tail (withPhase entry s.phase)
        tail := (advance cq.elements (s.tail, s.phase)).1
        phase := (advance cq.elements (s.tail, s.phase)).2
        posted := s.posted ++ [withPhase entry s.phase] }
      { cq with
        entries := Function.update cq.entries s.tail
          (withPhase entry s.phase) } := by
  have device := inStep.device
  have before := inStep.room
  have ahead := inStep.ahead
  rw [place, Prod.mk.injEq] at device
  have next : advance cq.elements (s.tail, s.phase) =
      place size (s.posted.length + 1) := by
    rw [inStep.ring.elements, inStep.device, advance_place positive]
  have notFull : s.posted.length + 1 < s.delivered.length + size := by
    rw [inStep.ring.elements, inStep.db, device.1, Nat.mod_add_mod] at room
    by_contra full
    have equal : s.posted.length + 1 = s.delivered.length + size := by omega
    exact room (by rw [equal, Nat.add_mod_right])
  have phase : (withPhase entry s.phase).phase = s.phase := by
    have bit := lapPhase_lt size s.posted.length
    unfold NvmeCompletion.phase withPhase
    rw [← device.2] at bit
    dsimp only
    omega
  exact {
    found := by
      rw [NvmeDevice.postEntry, inStep.found]
      exact NvmeDevice.findCq_setCq _ _ _
    ring := ⟨inStep.ring.contig, inStep.ring.buf, inStep.ring.elements,
      inStep.ring.cqes, inStep.ring.size_eq⟩
    host := inStep.host
    db := inStep.db
    device := by
      rw [List.length_append, List.length_singleton, ← next]
    delivered_eq := by
      rw [List.take_append_of_le_length ahead]
      exact inStep.delivered_eq
    ahead := by
      rw [List.length_append, List.length_singleton]
      exact Nat.le_succ_of_le ahead
    room := by
      rw [List.length_append, List.length_singleton]
      exact notFull
    fresh := by
      intro k other found
      rcases Nat.lt_trichotomy k s.posted.length with below | equal | above
      · rw [List.getElem?_append_left below] at found
        exact inStep.fresh k other found
      · subst k
        rw [List.getElem?_concat_length] at found
        cases found
        rw [phase, device.2]
      · rw [List.getElem?_eq_none (by simp; omega)] at found
        cases found
    held := by
      intro k other found near
      rw [List.length_append, List.length_singleton] at near
      rcases Nat.lt_trichotomy k s.posted.length with below | equal | above
      · rw [List.getElem?_append_left below] at found
        -- the slot of another entry that is still in the ring
        have apart : k % size ≠ s.tail := by
          intro same
          rw [device.1] at same
          exact absurd (slot_injective (le_of_lt below) (by omega) same)
            (by omega)
        dsimp only
        rw [Function.update_of_ne apart]
        exact inStep.held k other found (by omega)
      · subst k
        rw [List.getElem?_concat_length] at found
        cases found
        dsimp only
        rw [← device.1, Function.update_self]
      · rw [List.getElem?_eq_none (by simp; omega)] at found
        cases found
    blank := by
      intro k reached below
      rw [List.length_append, List.length_singleton] at reached
      have apart : k ≠ s.tail := by
        rw [device.1, Nat.mod_eq_of_lt (by omega)]
        omega
      dsimp only
      rw [Function.update_of_ne apart]
      exact inStep.blank k (by omega) below
    seen := by
      have seen := inStep.seen
      rw [List.length_append, List.length_singleton]
      dsimp only
      omega }

/-- A scan only moves the tail the host remembers. -/
theorem InStep.scan (inStep : InStep cqid size s cq) (positive : 0 < size)
    (small : size < 2 ^ 16) {remain : Nat} {next : NvmeDevice}
    (scanned : s.ndev.scan cqid cq = .ok (remain, next)) :
    InStep cqid size { s with ndev := next, seen := remain }
      { cq with tailPtr := s.posted.length % size } := by
  rw [inStep.scan_eq positive small] at scanned
  cases scanned
  have ahead := inStep.ahead
  exact {
    found := NvmeDevice.findCq_setCq _ _ _
    ring := ⟨inStep.ring.contig, inStep.ring.buf, inStep.ring.elements,
      inStep.ring.cqes, inStep.ring.size_eq⟩
    host := inStep.host
    db := inStep.db
    device := inStep.device
    delivered_eq := inStep.delivered_eq
    ahead := ahead
    room := inStep.room
    fresh := inStep.fresh
    held := inStep.held
    blank := inStep.blank
    seen := by
      dsimp only
      omega }

/-- The next entries to reap. -/
def CqSystem.pending (s : CqSystem) (count : Nat) : List NvmeCompletion :=
  (s.posted.drop s.delivered.length).take count

theorem CqSystem.pending_length {count : Nat}
    (enough : s.delivered.length + count ≤ s.posted.length) :
    (s.pending count).length = count := by
  rw [CqSystem.pending, List.length_take, List.length_drop]
  omega

/-- The pending entries lie in the ring from the head on. -/
theorem InStep.pending_lies (inStep : InStep cqid size s cq) (count : Nat) :
    Lies size cq s.delivered.length (s.pending count) := by
  intro k entry found
  have room := inStep.room
  rw [CqSystem.pending, List.getElem?_take] at found
  split at found
  · rw [List.getElem?_drop] at found
    exact inStep.held _ entry found (by omega)
  · cases found

/-- A reap moves the head over what it delivered. -/
theorem InStep.reap (inStep : InStep cqid size s cq) (positive : 0 < size)
    (small : size < 2 ^ 16) {count : Nat} (seen : count ≤ s.seen)
    {copy : CopyResult}
    (copied : copyCqData cqid (fun _ => true) count cq.headPtr s.ndev [] =
      .ok copy) :
    InStep cqid size
      { s with
        ndev := copy.ndev.updateCqHead cqid (count - copy.left)
        delivered := s.delivered ++ copy.copied
        seen := s.seen - (count - copy.left) }
      (updateCqHead cq (count - copy.left)) := by
  have known := inStep.seen
  have room := inStep.room
  have enough : s.delivered.length + count ≤ s.posted.length := by omega
  have host := inStep.host
  have length := CqSystem.pending_length enough
  have head : cq.headPtr = s.delivered.length % size :=
    congrArg Prod.fst host
  have loop := inStep.ring.copyCqData_spec positive (s.pending count)
    s.delivered.length s.ndev [] copy inStep.found
    (inStep.pending_lies count)
  rw [length, ← head] at loop
  rcases loop copied with ⟨left, taken, kept⟩
  have some_ : count - copy.left < size := by omega
  have grown : s.delivered ++ copy.copied =
      s.posted.take (s.delivered.length + (count - copy.left)) := by
    rw [taken, List.nil_append, CqSystem.pending, List.take_take,
      min_eq_left (Nat.sub_le _ _)]
    nth_rewrite 1 [inStep.delivered_eq]
    exact List.take_add.symm
  have total : (s.delivered ++ copy.copied).length =
      s.delivered.length + (count - copy.left) := by
    rw [grown, List.length_take]
    omega
  rcases inStep.ring.updateCqHead_place small host some_ with ⟨moved, db⟩
  exact {
    found := by
      rw [NvmeDevice.updateCqHead, kept]
      exact NvmeDevice.findCq_setCq _ _ _
    ring := inStep.ring.updateCqHead _
    host := by rw [total, moved]
    db := by rw [total, db]
    device := inStep.device
    delivered_eq := by rw [total, grown]
    ahead := by
      rw [total]
      dsimp only
      omega
    room := by
      rw [total]
      dsimp only
      omega
    fresh := inStep.fresh
    held := by
      rw [CqScan.updateCqHead_entries]
      exact inStep.held
    blank := by
      rw [CqScan.updateCqHead_entries]
      exact inStep.blank
    seen := by
      rw [total]
      dsimp only
      omega }

/-- One step of either party. -/
theorem InStep.step (positive : 0 < size) (small : size < 2 ^ 16)
    {next : CqSystem} (moves : CqStep cqid s next)
    (inStep : ∃ cq, InStep cqid size s cq) :
    ∃ cq, InStep cqid size next cq := by
  rcases inStep with ⟨known, inStep⟩
  have found := inStep.found
  cases moves with
  | post entry here room =>
      cases here.symm.trans found
      exact ⟨_, inStep.post positive entry room⟩
  | scan here scanned =>
      cases here.symm.trans found
      exact ⟨_, inStep.scan positive small scanned⟩
  | reap count here _ seen copied =>
      cases here.symm.trans found
      exact ⟨_, inStep.reap positive small seen copied⟩
  | other device same =>
      exact ⟨known, { inStep with found := same.trans found }⟩

/-- Every run keeps the parties in step. -/
theorem InStep.run (positive : 0 < size) (small : size < 2 ^ 16)
    {first last : CqSystem}
    (run : Relation.ReflTransGen (CqStep cqid) first last)
    (inStep : ∃ cq, InStep cqid size first cq) :
    ∃ cq, InStep cqid size last cq := by
  induction run with
  | refl => exact inStep
  | tail _ moves ih => exact InStep.step positive small moves ih

/--
Delivery over every run that starts at the allocation of a contiguous queue:
a scan counts what was posted and not reaped, the user received a prefix of
the posted entries, the head is where single steps lead, and a reap of seen
entries that are accepted delivers exactly the next ones.
-/
theorem cq_delivers_posted_entries {env : AllocQueueEnv}
    {ndev allocated : NvmeDevice} {prep : NvmePrepCq}
    (contig : prep.contig = true) (positive : 1 ≤ prep.elements)
    (small : prep.elements ≤ 65535)
    (alloc : dnvmeAllocCq env ndev prep nvmeCqes = some allocated)
    {s : CqSystem}
    (run : Relation.ReflTransGen (CqStep prep.cqId)
      (CqSystem.start allocated) s) :
    ∃ cq, s.ndev.findCq prep.cqId = some cq ∧
      (∃ next, s.ndev.scan prep.cqId cq =
        .ok (s.posted.length - s.delivered.length, next)) ∧
      s.delivered <+: s.posted ∧
      (cq.headPtr, cq.pbitNewEntry) =
        (advance prep.elements)^[s.delivered.length] (0, 1) ∧
      ∀ count ≤ s.seen, ∀ final,
        Accepted prep.cqId s.ndev (s.pending count) final →
        (s.pending count).length = count ∧
          copyCqData prep.cqId (fun _ => true) count cq.headPtr s.ndev [] =
            .ok ⟨0, 0, s.pending count, final⟩ := by
  have less : prep.elements < 2 ^ 16 := by omega
  rcases InStep.run positive less run
    (InStep.start contig positive small alloc) with ⟨cq, inStep⟩
  refine ⟨cq, inStep.found, ⟨_, inStep.scan_eq positive less⟩, ?_, ?_, ?_⟩
  · rw [inStep.delivered_eq]
    exact List.take_prefix _ _
  · rw [advance_iterate positive]
    exact inStep.host
  · intro count seen final accepted
    have known := inStep.seen
    have head : cq.headPtr = s.delivered.length % prep.elements :=
      congrArg Prod.fst inStep.host
    have length : (s.pending count).length = count :=
      CqSystem.pending_length (by omega)
    have loop := inStep.ring.copyCqData_accepted positive accepted
      s.delivered.length [] inStep.found (inStep.pending_lies count)
    rw [length, ← head, List.nil_append] at loop
    exact ⟨length, loop⟩

/-- A queue of two slots. -/
def twoSlots : NvmePrepCq := ⟨2, 1, true, 0, 0, false⟩

/-- A submission queue with two commands that wait for their completion. -/
def waitingSq : NvmeSq :=
  { NvmePrepSq.queue ⟨4, 1, 1, true, false⟩ nvmeSqes 8192 with
    cmdList := [⟨0, 0, 1, 1, 0, 2, none⟩, ⟨1, 1, 1, 1, 1, 2, none⟩] }

/-- A device with both queues. -/
def twoSlotDevice : NvmeDevice :=
  ((NvmeDevice.fresh 64 true false false).setSq 1 waitingSq).setCq 1
    (twoSlots.queue nvmeCqes 4096)

/-- The completion of one of the commands. -/
def completionOf (cid : Nat) : NvmeCompletion :=
  ⟨0, cid + 1, 1, cid, 0⟩

/-- Two entries are posted with a reap in between, and the tail wraps: a scan
counts the second one and the next reap delivers it. -/
theorem cq_delivers_posted_entries_two_slots :
    ∃ s cq next final, Relation.ReflTransGen (CqStep 1)
        (CqSystem.start twoSlotDevice) s ∧
      s.posted = [withPhase (completionOf 0) 1,
        withPhase (completionOf 1) 1] ∧
      (s.tail, s.phase) = (0, 0) ∧
      s.delivered = [withPhase (completionOf 0) 1] ∧
      s.ndev.findCq 1 = some cq ∧ s.ndev.scan 1 cq = .ok (1, next) ∧
      copyCqData 1 (fun _ => true) 1 cq.headPtr s.ndev [] =
        .ok ⟨0, 0, [withPhase (completionOf 1) 1], final⟩ := by
  have run := Relation.ReflTransGen.single
    (@CqStep.post 1 (CqSystem.start twoSlotDevice) _ (completionOf 0) rfl
      (by decide))
  have run := run.tail (CqStep.scan rfl rfl)
  have run := run.tail (CqStep.reap 1 rfl (by decide) (by decide) rfl)
  have run := run.tail (CqStep.post (completionOf 1) rfl (by decide))
  have run := run.tail (CqStep.scan rfl rfl)
  have alloc : dnvmeAllocCq ⟨true, some 4096, true⟩
      ((NvmeDevice.fresh 64 true false false).setSq 1 waitingSq) twoSlots
      nvmeCqes = some twoSlotDevice := rfl
  rcases cq_delivers_posted_entries rfl (by decide) (by decide) alloc run with
    ⟨cq, here, ⟨next, scanned⟩, _, _, reaps⟩
  obtain ⟨_, copied⟩ := reaps 1 (by decide) _ (.cons rfl rfl (.nil _))
  exact ⟨_, cq, next, _, run, rfl, rfl, rfl, here, scanned, copied⟩

end Dnvme.Driver.CqDelivery
