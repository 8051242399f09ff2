import Dnvme.Driver.Hmb

/-!
# The life of a host memory buffer

What `dnvme_alloc_hmb` builds, what its error paths give back and what
`dnvme_release_hmb` leaves.  Three things go wrong.  The number of buffers is
taken from the second copy of the request but checked in the first; a missing
descriptor page leaves the buffers allocated, because their number is recorded
with that page; and a release frees a pointer that was never set.  Apart from
that, the descriptors give the size of a buffer in bytes where the controller
expects pages.
-/

namespace Dnvme.Driver.HmbLifeCycle

open Dnvme.Driver
open Dnvme.Driver.Hmb

/-! ## Giving memory back -/

section Heap

variable {heap : KernelHeap}

theorem free_spec {pointer : Option Nat} {rest : List Nat}
    (held : heap.live.Perm (pointer.toList ++ rest)) :
    ∃ next, heap.free pointer = .ok next ∧ next.live.Perm rest := by
  cases pointer with
  | none => exact ⟨heap, rfl, held⟩
  | some pointer =>
      have member : pointer ∈ heap.live :=
        held.mem_iff.mpr (List.mem_cons_self ..)
      refine ⟨heap.without pointer, ?_, ?_⟩
      · rw [KernelHeap.free, if_pos member]
      · have erased := held.erase pointer
        rw [Option.toList_some, List.singleton_append,
          List.erase_cons_head] at erased
        exact erased

end Heap

/-- The buffers `i`, …, `i + count - 1`. -/
def pointers (hmb : NvmeHmb) (i count : Nat) : List Nat :=
  (List.range' i count).flatMap fun k => (hmb.buf k).virtAddr.toList

section Pointers

variable {hmb : NvmeHmb} {i count : Nat}

theorem pointers_cons (hmb : NvmeHmb) (i count : Nat) :
    pointers hmb i (count + 1) =
      (hmb.buf i).virtAddr.toList ++ pointers hmb (i + 1) count := by
  rw [pointers, List.range'_succ, List.flatMap_cons]
  rfl

theorem pointers_concat (hmb : NvmeHmb) (i count : Nat) :
    pointers hmb i (count + 1) =
      pointers hmb i count ++ (hmb.buf (i + count)).virtAddr.toList := by
  rw [pointers, List.range'_concat, Nat.one_mul, List.flatMap_append,
    List.flatMap_singleton]
  rfl

/-- A buffer elsewhere does not matter. -/
theorem pointers_setBuf {k : Nat} (outside : k < i ∨ i + count ≤ k)
    (buffer : NvmeHmbBuffer) :
    pointers (hmb.setBuf k buffer) i count = pointers hmb i count := by
  refine List.flatMap_congr fun j member => ?_
  have inside := List.mem_range'_1.mp member
  rw [NvmeHmb.setBuf]
  dsimp only
  rw [Function.update_of_ne (by omega)]

end Pointers

theorem unwindHmbBuffer_spec (i : Nat) :
    ∀ (hmb : NvmeHmb) (heap : KernelHeap) (base : List Nat),
      heap.live.Perm (pointers hmb 0 i ++ base) →
      ∃ cleared next, unwindHmbBuffer i hmb heap = .ok (cleared, next) ∧
        next.live.Perm base ∧ cleared.self = hmb.self := by
  induction i with
  | zero =>
      intro hmb heap base held
      exact ⟨hmb, heap, rfl, held, rfl⟩
  | succ i ih =>
      intro hmb heap base held
      rw [pointers_concat, Nat.zero_add] at held
      have first := held.trans
        (List.perm_append_comm.append_right base)
      rw [List.append_assoc] at first
      obtain ⟨freed, free, left⟩ := free_spec first
      rw [← @pointers_setBuf hmb 0 i i (Or.inr (by omega))
        { hmb.buf i with virtAddr := none }] at left
      obtain ⟨cleared, next, rest, given, same⟩ := ih _ _ base left
      refine ⟨cleared, next, ?_, given, same⟩
      rw [unwindHmbBuffer, free]
      exact rest

theorem releaseHmbBufferFrom_spec (count : Nat) :
    ∀ (i : Nat) (hmb : NvmeHmb) (heap : KernelHeap) (base : List Nat),
      i + count ≤ hmb.room →
      heap.live.Perm (pointers hmb i count ++ base) →
      ∃ cleared next,
        releaseHmbBufferFrom count i hmb heap = .ok (cleared, next) ∧
        next.live.Perm base ∧ cleared.self = hmb.self := by
  induction count with
  | zero =>
      intro i hmb heap base _ held
      exact ⟨hmb, heap, rfl, held, rfl⟩
  | succ count ih =>
      intro i hmb heap base room held
      rw [pointers_cons, List.append_assoc] at held
      obtain ⟨freed, free, left⟩ := free_spec held
      rw [← @pointers_setBuf hmb (i + 1) count i (Or.inl (by omega))
        { hmb.buf i with virtAddr := none }] at left
      obtain ⟨cleared, next, rest, given, same⟩ :=
        ih (i + 1) (hmb.clearBuf i) _ base
          (show i + 1 + count ≤ hmb.room by omega) left
      refine ⟨cleared, next, ?_, given, same⟩
      rw [releaseHmbBufferFrom, if_neg (by omega), free]
      exact rest

/-! ## Building -/

/-- The first `count` buffers are the ones that were asked for. -/
def Buffered (env : AllocEnv) (need : NvmeHmbAlloc) (hmb : NvmeHmb)
    (count : Nat) : Prop :=
  ∀ k < count, ∃ pointer phyAddr, env.buffer k = some phyAddr ∧
    hmb.buf k =
      ⟨some pointer, phyAddr, u32 (need.pageSize * need.bsize k)⟩

theorem Buffered.next {env : AllocEnv} {need : NvmeHmbAlloc} {hmb : NvmeHmb}
    {i phyAddr : Nat} (buffered : Buffered env need hmb i)
    (allocated : env.buffer i = some phyAddr) (pointer : Nat) :
    Buffered env need (hmb.setBuf i
      ⟨some pointer, phyAddr, u32 (need.pageSize * need.bsize i)⟩)
      (i + 1) := by
  intro k below
  rw [NvmeHmb.setBuf]
  dsimp only
  rcases Nat.lt_succ_iff_lt_or_eq.mp below with earlier | rfl
  · rw [Function.update_of_ne (by omega)]
    exact buffered k earlier
  · rw [Function.update_self]
    exact ⟨pointer, phyAddr, allocated, rfl⟩

/-- Buffers are all allocated, or none is left. -/
theorem allocHmbBufferFrom_spec {env : AllocEnv} {need : NvmeHmbAlloc}
    {sizes : Nat} (count : Nat) :
    ∀ (i : Nat) (hmb : NvmeHmb) (heap : KernelHeap) (base : List Nat),
      i + count ≤ hmb.room →
      (i + count ≤ sizes ∨ ∃ k, i ≤ k ∧ k < sizes ∧ k < i + count ∧
        env.buffer k = none) →
      Buffered env need hmb i →
      heap.live.Perm (pointers hmb 0 i ++ base) →
      ∃ ret built next, allocHmbBufferFrom env need sizes count i hmb heap =
          .ok (ret, built, next) ∧
        ((ret < 0 ∧ next.live.Perm base ∧ built.self = hmb.self ∧
            ∃ k < i + count, env.buffer k = none) ∨
          (ret = 0 ∧ built = { hmb with buf := built.buf } ∧
            Buffered env need built (i + count) ∧
            next.live.Perm (pointers built 0 (i + count) ++ base))) := by
  induction count with
  | zero =>
      intro i hmb heap base _ _ buffered held
      exact ⟨0, hmb, heap, rfl, Or.inr ⟨rfl, rfl, buffered, held⟩⟩
  | succ count ih =>
      intro i hmb heap base room enough buffered held
      have inside : i < sizes := by
        rcases enough with fits | ⟨k, after, below, _⟩
        · omega
        · omega
      rw [allocHmbBufferFrom, if_neg (by omega)]
      cases allocated : env.buffer i with
      | none =>
          obtain ⟨cleared, next, unwound, given, same⟩ :=
            unwindHmbBuffer_spec i hmb heap base held
          refine ⟨-Errno.ENOMEM, cleared, next, ?_,
            Or.inl ⟨by decide, given, same, i, by omega, allocated⟩⟩
          dsimp only
          rw [unwound]
          rfl
      | some phyAddr =>
          have more : i + 1 + count ≤ sizes ∨ ∃ k, i + 1 ≤ k ∧ k < sizes ∧
              k < i + 1 + count ∧ env.buffer k = none := by
            rcases enough with fits | ⟨k, after, below, last, missing⟩
            · exact Or.inl (by omega)
            · refine Or.inr ⟨k, ?_, below, by omega, missing⟩
              rcases Nat.eq_or_lt_of_le after with rfl | later
              · rw [allocated] at missing
                cases missing
              · exact later
          have listed : heap.alloc.live.Perm (pointers (hmb.setBuf i
              ⟨some heap.next, phyAddr, u32 (need.pageSize * need.bsize i)⟩)
              0 (i + 1) ++ base) := by
            rw [pointers_concat, pointers_setBuf (Or.inr (by omega)),
              Nat.zero_add, NvmeHmb.setBuf]
            dsimp only
            rw [Function.update_self, Option.toList_some, List.append_assoc]
            exact (held.cons heap.next).trans List.perm_middle.symm
          obtain ⟨ret, built, next, run, outcome⟩ := ih (i + 1) _ _ base
            (by change i + 1 + count ≤ hmb.room; omega) more
            (buffered.next allocated heap.next) listed
          rw [show i + 1 + count = i + (count + 1) by omega] at outcome
          refine ⟨ret, built, next, run, ?_⟩
          rcases outcome with ⟨fails, given, same, missing⟩ |
            ⟨zero, frame, filled, given⟩
          · exact Or.inl ⟨fails, given, same, missing⟩
          · exact Or.inr ⟨zero, frame, filled, given⟩

theorem fillHmbDescriptorFrom_spec (count : Nat) :
    ∀ (i : Nat) (hmb : NvmeHmb), i + count ≤ hmbDescsPerPage →
      i + count ≤ hmb.room →
      fillHmbDescriptorFrom count i hmb = .ok
        { hmb with
          descs := fun k =>
            if i ≤ k ∧ k < i + count then
              ⟨(hmb.buf k).phyAddr, u32 (hmb.buf k).size⟩
            else hmb.descs k } := by
  induction count with
  | zero =>
      intro i hmb _ _
      have same : (fun k => if i ≤ k ∧ k < i + 0 then
          ⟨(hmb.buf k).phyAddr, u32 (hmb.buf k).size⟩
        else hmb.descs k) = hmb.descs := by
        funext k
        rw [if_neg (by omega)]
      rw [fillHmbDescriptorFrom, same]
  | succ count ih =>
      intro i hmb page room
      rw [fillHmbDescriptorFrom, if_neg (by omega)]
      refine (ih (i + 1) _ (by omega)
        (by change i + 1 + count ≤ hmb.room; omega)).trans ?_
      congr 2
      funext k
      dsimp only
      by_cases here : k = i
      · rw [here, if_neg (by omega), if_pos (by omega),
          Function.update_self]
      · rw [Function.update_of_ne here]
        congr 1
        apply propext
        omega

/-- What a successful request leaves. -/
structure Built (env : AllocEnv) (need : NvmeHmbAlloc) (hmb : NvmeHmb) :
    Prop where
  descNum : hmb.descNum = need.nrDesc
  room : hmb.room = need.nrDesc
  descAddr : env.descPage = some hmb.descAddr
  buffered : Buffered env need hmb need.nrDesc
  descs : ∀ i < need.nrDesc,
    hmb.descs i = ⟨(hmb.buf i).phyAddr, u32 (hmb.buf i).size⟩

/-- Everything that belongs to a host memory buffer. -/
def parts (hmb : NvmeHmb) : List Nat :=
  hmb.self :: (hmb.desc.toList ++ pointers hmb 0 hmb.descNum)

/-- The number of buffers does not exceed the checked one before the
allocation of a buffer fails. -/
def Counted (env : AllocEnv) (need : NvmeHmbAlloc) (sizes : Nat) : Prop :=
  need.nrDesc ≤ sizes ∨
    ∃ k, k < sizes ∧ k < need.nrDesc ∧ env.buffer k = none

/-- The descriptor page is not what is missing while there are buffers. -/
def Paged (env : AllocEnv) (need : NvmeHmbAlloc) : Prop :=
  need.nrDesc = 0 ∨ (∃ k < need.nrDesc, env.buffer k = none) ∨
    env.descPage.isSome

section Building

variable {env : AllocEnv} {need : NvmeHmbAlloc} {sizes : Nat}
  {heap : KernelHeap}

theorem Buffered.none_missing {hmb : NvmeHmb} {count : Nat}
    (buffered : Buffered env need hmb count) :
    ¬ ∃ k < count, env.buffer k = none := by
  rintro ⟨k, below, missing⟩
  obtain ⟨_, _, allocated, _⟩ := buffered k below
  rw [missing] at allocated
  cases allocated

/-- Giving back the object behind its buffers. -/
theorem free_self {next : KernelHeap} {self : Nat} {others base : List Nat}
    (held : next.live.Perm (others ++ self :: base)) :
    ∃ freed, next.free (some self) = .ok freed ∧
      freed.live.Perm (others ++ base) :=
  free_spec (held.trans List.perm_middle)

/-- What is left to do once all buffers are there. -/
theorem buildHmb_described {hmb : NvmeHmb} {next : KernelHeap}
    {descAddr : Nat} (fits : need.nrDesc ≤ hmbDescsPerPage)
    (frame : hmb =
      { NvmeHmb.zero heap.next need.nrDesc with buf := hmb.buf })
    (buffered : Buffered env need hmb need.nrDesc)
    (page : env.descPage = some descAddr)
    (held : next.live.Perm (pointers hmb 0 need.nrDesc ++
      heap.next :: heap.live)) :
    ∃ filled, dnvmeFillHmbDescriptor
        (dnvmeAllocHmbDesc env need hmb next).2.1 = .ok filled ∧
      Built env need filled ∧ filled.self = heap.next ∧
      (dnvmeAllocHmbDesc env need hmb next).2.2.live.Perm
        (filled.desc.toList ++ (pointers filled 0 filled.descNum ++
          heap.next :: heap.live)) := by
  have room : hmb.room = need.nrDesc := by
    rw [frame]
    rfl
  have self : hmb.self = heap.next := by
    rw [frame]
    rfl
  rw [dnvmeAllocHmbDesc, page]
  refine ⟨_, fillHmbDescriptorFrom_spec need.nrDesc 0 _
    (by rw [Nat.zero_add]; exact fits)
    (by rw [Nat.zero_add]; exact room.ge), ?_, self, ?_⟩
  · exact
      { descNum := rfl
        room := room
        descAddr := page
        buffered := buffered
        descs := fun i below => by
          dsimp only
          rw [if_pos (by omega)] }
  · exact held.cons next.next

theorem buildHmb_spec (counted : Counted env need sizes)
    (small : sizes ≤ hmbDescsPerPage) :
    ∃ ret hmb next, buildHmb env need sizes heap = .ok (ret, hmb, next) ∧
      ((ret < 0 ∧ hmb = none ∧ ∃ leaked, (Paged env need → leaked = []) ∧
          next.live.Perm (leaked ++ heap.live)) ∨
        (ret = 0 ∧ ∃ built, hmb = some built ∧ Built env need built ∧
          next.live.Perm (parts built ++ heap.live))) := by
  obtain ⟨ret, hmb, next, run, outcome⟩ := @allocHmbBufferFrom_spec env need
    sizes need.nrDesc 0 (NvmeHmb.zero heap.next need.nrDesc) heap.alloc
    (heap.next :: heap.live) (by rw [Nat.zero_add]; exact le_refl _)
    (by
      rw [Nat.zero_add]
      rcases counted with fits | ⟨k, below, last, missing⟩
      · exact Or.inl fits
      · exact Or.inr ⟨k, Nat.zero_le k, below, last, missing⟩)
    (fun k below => absurd below (Nat.not_lt_zero k)) (List.Perm.refl _)
  rw [Nat.zero_add] at outcome
  unfold buildHmb dnvmeAllocHmbBuffer
  dsimp only
  rw [run]
  dsimp only [bind, Except.bind]
  rcases outcome with ⟨fails, given, self, _⟩ |
    ⟨zero, frame, buffered, given⟩
  · obtain ⟨freed, free, left⟩ := free_spec
      (show next.live.Perm ((some heap.next).toList ++ heap.live) from given)
    have same : hmb.self = heap.next := self
    refine ⟨ret, none, freed, ?_, Or.inl ⟨fails, rfl, [], fun _ => rfl, left⟩⟩
    rw [if_pos fails, same, free]
    rfl
  · have noneMissing := buffered.none_missing
    have fits : need.nrDesc ≤ hmbDescsPerPage := by
      rcases counted with fits | ⟨k, _, last, missing⟩
      · exact fits.trans small
      · exact absurd ⟨k, last, missing⟩ noneMissing
    have descNum : hmb.descNum = 0 := by
      rw [frame]
      rfl
    have same : hmb.self = heap.next := by
      rw [frame]
      rfl
    rw [if_neg (by omega)]
    cases page : env.descPage with
    | none =>
        obtain ⟨freed, free, left⟩ := free_self given
        refine ⟨-Errno.ENOMEM, none, freed, ?_,
          Or.inl ⟨by decide, rfl, _, fun paged => ?_, left⟩⟩
        · rw [dnvmeAllocHmbDesc, page]
          dsimp only
          rw [if_pos (by decide), dnvmeReleaseHmbBuffer, descNum,
            releaseHmbBufferFrom]
          dsimp only
          rw [same, free]
          rfl
        · rcases paged with none_ | missing | present
          · rw [none_]
            rfl
          · exact absurd missing noneMissing
          · rw [page] at present
            cases present
    | some descAddr =>
        obtain ⟨filled, fill, built, self, held⟩ :=
          buildHmb_described fits frame buffered page given
        have ret' : (dnvmeAllocHmbDesc env need hmb next).1 = 0 := by
          rw [dnvmeAllocHmbDesc, page]
        rw [ret', if_neg (by decide), fill]
        dsimp only
        cases env.copyOut with
        | false =>
            obtain ⟨first, free, left⟩ := free_spec held
            obtain ⟨cleared, second, release, rest, kept⟩ :=
              releaseHmbBufferFrom_spec filled.descNum 0 filled first _
                (by rw [Nat.zero_add, built.descNum, built.room]) left
            obtain ⟨third, last, all⟩ := free_spec
              (show second.live.Perm ((some heap.next).toList ++ heap.live)
                from rest)
            refine ⟨-Errno.EFAULT, none, third, ?_,
              Or.inl ⟨by decide, rfl, [], fun _ => rfl, all⟩⟩
            rw [if_pos (show (!false) = true from rfl), dnvmeReleaseHmbDesc,
              free]
            dsimp only
            rw [dnvmeReleaseHmbBuffer, release]
            dsimp only
            rw [kept, self, last]
            rfl
        | true =>
            refine ⟨0, some filled, _, rfl, Or.inr ⟨rfl, filled, rfl, built,
              held.trans ?_⟩⟩
            rw [parts, self, ← List.append_assoc]
            exact List.perm_middle

end Building

/-! ## Descriptors -/

/-- Every descriptor has the address of its buffer and its size in pages, and
the buffer has the size that was asked for. -/
structure Describes (need : NvmeHmbAlloc) (hmb : NvmeHmb) : Prop where
  number : hmb.descNum = need.nrDesc
  address : ∀ i < need.nrDesc, (hmb.descs i).addr = (hmb.buf i).phyAddr
  size : ∀ i < need.nrDesc,
    (hmb.descs i).size * need.pageSize = (hmb.buf i).size
  product : ∀ i < need.nrDesc,
    (hmb.buf i).size = need.pageSize * need.bsize i
  inside : ∀ i < need.nrDesc, ∀ address,
    (hmb.descs i).addr ≤ address →
    address < (hmb.descs i).addr + (hmb.descs i).size * need.pageSize →
    (hmb.buf i).phyAddr ≤ address ∧
      address < (hmb.buf i).phyAddr + (hmb.buf i).size

theorem Built.describes_iff {env : AllocEnv} {need : NvmeHmbAlloc}
    {hmb : NvmeHmb} (built : Built env need hmb)
    (positive : need.pageSize ≠ 0)
    (words : ∀ i < need.nrDesc, need.bsize i < 2 ^ 32) :
    Describes need hmb ↔
      ∀ i < need.nrDesc, need.pageSize = 1 ∨ need.bsize i = 0 := by
  have sizes (i : Nat) (below : i < need.nrDesc) :
      (hmb.buf i).size = u32 (need.pageSize * need.bsize i) ∧
        (hmb.descs i).size = u32 (need.pageSize * need.bsize i) := by
    obtain ⟨pointer, phyAddr, _, buffer⟩ := built.buffered i below
    rw [built.descs i below, buffer]
    exact ⟨rfl, Nat.mod_mod _ _⟩
  constructor
  · intro describes i below
    obtain ⟨buffer, desc⟩ := sizes i below
    have size := describes.size i below
    have product := describes.product i below
    rw [desc, ← buffer, product] at size
    by_cases zero : need.bsize i = 0
    · exact Or.inr zero
    · left
      have some_ : need.pageSize * need.bsize i ≠ 0 :=
        Nat.mul_ne_zero positive zero
      exact Nat.eq_of_mul_eq_mul_left (Nat.pos_of_ne_zero some_)
        (size.trans (Nat.mul_one _).symm)
  · intro trivial_
    have product (i : Nat) (below : i < need.nrDesc) :
        (hmb.buf i).size = need.pageSize * need.bsize i := by
      rw [(sizes i below).1]
      rcases trivial_ i below with one | zero
      · rw [one, Nat.one_mul]
        exact Nat.mod_eq_of_lt (words i below)
      · rw [zero, Nat.mul_zero]
        rfl
    have size (i : Nat) (below : i < need.nrDesc) :
        (hmb.descs i).size * need.pageSize = (hmb.buf i).size := by
      rw [(sizes i below).2, ← (sizes i below).1, product i below]
      rcases trivial_ i below with one | zero
      · rw [one, Nat.mul_one]
      · rw [zero, Nat.mul_zero, Nat.zero_mul]
    have address (i : Nat) (below : i < need.nrDesc) :
        (hmb.descs i).addr = (hmb.buf i).phyAddr := by
      rw [built.descs i below]
    refine ⟨built.descNum, address, size, product,
      fun i below place after before => ?_⟩
    rw [address i below] at after before
    rw [size i below] at before
    exact ⟨after, before⟩

/-! ## Requests -/

/-- The request does not change under the driver's hands in a way that
matters, and the descriptor page is there. -/
def CarefulEnv (env : AllocEnv) : Prop :=
  ∀ head need, env.head = some head → env.copy = some need →
    env.hmbAlloc = true → Counted env need head.nrDesc ∧ Paged env need

/-- A request that failed: nothing is left of it, if it was careful. -/
structure Failed (env : AllocEnv) (heap : KernelHeap) (result : HmbResult) :
    Prop where
  ret : result.ret < 0
  absent : result.device.hmb = none
  live : CarefulEnv env → result.device.heap.live.Perm heap.live

/-- A request that went through. -/
structure Answered (env : AllocEnv) (heap : KernelHeap) (need : NvmeHmbAlloc)
    (hmb : NvmeHmb) (result : HmbResult) : Prop where
  ret : result.ret = 0
  checked : ∃ head, env.head = some head ∧ head.pageSize ≠ 0
  copy : env.copy = some need
  present : result.device.hmb = some hmb
  descList : result.descList = some hmb.descAddr
  built : Built env need hmb
  live : result.device.heap.live.Perm (parts hmb ++ heap.live)

section Requests

variable {env : AllocEnv} {heap : KernelHeap}

theorem failed_unchanged (env : AllocEnv) (heap : KernelHeap) {ret : Int}
    (negative : ret < 0) : Failed env heap ⟨ret, none, none, heap⟩ :=
  ⟨negative, rfl, fun _ => List.Perm.refl _⟩

/-- A request without a host memory buffer fails or goes through. -/
theorem dnvmeAllocHmb_spec
    (counted : ∀ head need, env.head = some head → env.copy = some need →
      env.hmbAlloc = true → Counted env need head.nrDesc) :
    ∃ result, dnvmeAllocHmb env ⟨none, heap⟩ = .ok result ∧
      (Failed env heap result ∨
        ∃ need hmb, Answered env heap need hmb result) := by
  unfold dnvmeAllocHmb
  rw [if_neg (by simp)]
  cases first : env.head with
  | none =>
      exact ⟨_, rfl, Or.inl (failed_unchanged env heap (by decide))⟩
  | some head =>
      dsimp only
      split
      · exact ⟨_, rfl, Or.inl (failed_unchanged env heap (by decide))⟩
      rename_i positive
      split
      · exact ⟨_, rfl, Or.inl (failed_unchanged env heap (by decide))⟩
      rename_i small
      split
      · exact ⟨_, rfl, Or.inl (failed_unchanged env heap (by decide))⟩
      have copied : heap.alloc.live.Perm
          ((some heap.next).toList ++ heap.live) := List.Perm.refl _
      obtain ⟨freed, free, left⟩ := free_spec copied
      cases second : env.copy with
      | none =>
          refine ⟨⟨-Errno.EFAULT, none, none, freed⟩, ?_,
            Or.inl ⟨show -Errno.EFAULT < 0 by decide, rfl, fun _ => left⟩⟩
          dsimp only [bind, Except.bind]
          rw [free]
          rfl
      | some need =>
          dsimp only [bind, Except.bind]
          cases third : env.hmbAlloc with
          | false =>
              refine ⟨⟨-Errno.ENOMEM, none, none, freed⟩, ?_,
                Or.inl ⟨show -Errno.ENOMEM < 0 by decide, rfl,
                  fun _ => left⟩⟩
              rw [if_pos (show (!false) = true from rfl), free]
              rfl
          | true =>
              obtain ⟨ret, hmb, next, build, outcome⟩ :=
                @buildHmb_spec env need head.nrDesc heap.alloc
                  (counted head need first second third) (not_lt.mp small)
              rw [if_neg (by decide), build]
              dsimp only
              rcases outcome with ⟨negative, rfl, leaked, paged, live⟩ |
                ⟨rfl, built, rfl, whole, live⟩
              · obtain ⟨last, gone, rest⟩ := free_self live
                rw [gone]
                refine ⟨_, rfl, Or.inl ⟨negative, rfl, fun careful => ?_⟩⟩
                rw [paged (careful head need first second third).2] at rest
                exact rest
              · obtain ⟨last, gone, rest⟩ := free_self live
                rw [gone]
                exact ⟨_, rfl, Or.inr ⟨need, built,
                  { ret := rfl
                    checked := ⟨head, first, positive⟩
                    copy := second
                    present := rfl
                    descList := rfl
                    built := whole
                    live := rest }⟩⟩

end Requests

/-! ## The descriptors that the controller reads -/

/--
With a request that does not change, the descriptors describe the buffers
exactly when the page size is one byte or a buffer has no pages.
-/
theorem descriptors_describe_iff {env : AllocEnv} {ndev : HmbDevice}
    {need : NvmeHmbAlloc} {hmb : NvmeHmb} {result : HmbResult}
    (first : env.head = some need) (second : env.copy = some need)
    (words : ∀ i < need.nrDesc, need.bsize i < 2 ^ 32)
    (done : dnvmeAllocHmb env ndev = .ok result) (success : result.ret = 0)
    (present : result.device.hmb = some hmb) :
    Describes need hmb ↔
      ∀ i < need.nrDesc, need.pageSize = 1 ∨ need.bsize i = 0 := by
  rcases ndev with ⟨_ | old, heap⟩
  · obtain ⟨other, same, outcome⟩ := @dnvmeAllocHmb_spec env heap
      fun head copy one two _ => by
        cases first.symm.trans one
        cases second.symm.trans two
        exact Or.inl (le_refl _)
    cases done.symm.trans same
    rcases outcome with failed | ⟨copy, built, answered⟩
    · have negative := failed.ret
      omega
    · cases second.symm.trans answered.copy
      cases present.symm.trans answered.present
      obtain ⟨head, one, positive⟩ := answered.checked
      cases first.symm.trans one
      exact answered.built.describes_iff positive words
  · cases done
    have refused : -Errno.EPERM ≠ 0 := by decide
    exact absurd success refused

/-- A request with nothing failing. -/
def smoothRequest (need : NvmeHmbAlloc) : AllocEnv :=
  ⟨some need, true, some need, true,
    fun i => some ((i + 1) * 2 ^ 20), some (2 ^ 30), true⟩

/-- No host memory buffer yet. -/
def noHmb : HmbDevice := ⟨none, KernelHeap.empty⟩

/-- One buffer of 4096 units of one byte. -/
def byteUnits : NvmeHmbAlloc := ⟨1, 1, fun _ => 4096⟩

theorem descriptors_describe_bytes :
    ∃ result hmb, dnvmeAllocHmb (smoothRequest byteUnits) noHmb =
        .ok result ∧ result.device.hmb = some hmb ∧
      Describes byteUnits hmb := by
  obtain ⟨result, hmb, done, success, present⟩ : ∃ result hmb,
      dnvmeAllocHmb (smoothRequest byteUnits) noHmb = .ok result ∧
        result.ret = 0 ∧ result.device.hmb = some hmb :=
    ⟨_, _, rfl, rfl, rfl⟩
  have units : 4096 < 2 ^ 32 := by decide
  exact ⟨result, hmb, done, present,
    (descriptors_describe_iff rfl rfl (fun _ _ => units) done success
      present).mpr fun _ _ => Or.inl rfl⟩

/-- One buffer of one page of 4096 bytes. -/
def onePage : NvmeHmbAlloc := ⟨4096, 1, fun _ => 1⟩

/-- The descriptor of a buffer of one page says 4096 pages. -/
theorem descriptor_counts_bytes :
    ∃ result hmb, dnvmeAllocHmb (smoothRequest onePage) noHmb =
        .ok result ∧ result.ret = 0 ∧ result.device.hmb = some hmb ∧
      (hmb.buf 0).size = 4096 ∧ (hmb.descs 0).size = 4096 ∧
      ¬ Describes onePage hmb := by
  obtain ⟨result, hmb, done, success, present, buffer, desc⟩ :
      ∃ result hmb, dnvmeAllocHmb (smoothRequest onePage) noHmb =
          .ok result ∧ result.ret = 0 ∧ result.device.hmb = some hmb ∧
        (hmb.buf 0).size = 4096 ∧ (hmb.descs 0).size = 4096 :=
    ⟨_, _, rfl, rfl, rfl, rfl, rfl⟩
  refine ⟨result, hmb, done, success, present, buffer, desc,
    fun describes => ?_⟩
  have size := describes.size 0 (by decide)
  rw [buffer, desc] at size
  exact absurd size (by decide)

/-! ## Runs -/

/-- A request of the user, with the outcomes of its external calls. -/
inductive Call where
  | alloc (env : AllocEnv)
  /-- The value that happens to be in the local variable. -/
  | release (local_ : Option Nat)

/-- Carry out a request. -/
def Call.execute (ndev : HmbDevice) : Call → Checked HmbResult
  | .alloc env => dnvmeAllocHmb env ndev
  | .release local_ => dnvmeReleaseHmb local_ ndev

/-- A condition on a request and the device before it. -/
abbrev CallRule := HmbDevice → Call → Prop

/-- One request that meets the condition. -/
def Step (rule : CallRule) (ndev next : HmbDevice) : Prop :=
  ∃ call result, rule ndev call ∧ call.execute ndev = .ok result ∧
    next = result.device

/-- The devices that such requests lead to. -/
def Reachable (rule : CallRule) (ndev : HmbDevice) : Prop :=
  Relation.ReflTransGen (Step rule) noHmb ndev

/-- What a request should do: an allocation beside another is refused, one
that fails leaves nothing behind, and a release gives everything back. -/
def Kept (ndev : HmbDevice) (result : HmbResult) : Call → Prop
  | .alloc _ =>
      (ndev.hmb.isSome → result.ret < 0 ∧ result.device = ndev) ∧
        (ndev.hmb = none → result.ret < 0 → result.device.hmb = none ∧
          result.device.heap.live.Perm ndev.heap.live)
  | .release _ =>
      result.device.hmb = none ∧ result.device.heap.live = []

/-- In every run whose requests meet the condition, a request has no fault and
does what it should. -/
def LifeCycle (rule : CallRule) : Prop :=
  ∀ ndev, Reachable rule ndev → ∀ call, rule ndev call →
    ∃ result, call.execute ndev = .ok result ∧ Kept ndev result call

/-- The requests that come out right. -/
def Careful : CallRule
  | ndev, .alloc env => ndev.hmb = none → CarefulEnv env
  | ndev, .release local_ =>
      ∀ hmb, ndev.hmb = some hmb → local_ = some hmb.self

/-- What is allocated belongs to the host memory buffer. -/
structure Intact (ndev : HmbDevice) : Prop where
  nothing : ndev.hmb = none → ndev.heap.live = []
  whole : ∀ hmb, ndev.hmb = some hmb →
    ndev.heap.live.Perm (parts hmb) ∧ hmb.descNum ≤ hmb.room

section Runs

variable {ndev : HmbDevice}

theorem Intact.alloc (intact : Intact ndev) {env : AllocEnv}
    (careful : Careful ndev (.alloc env)) :
    ∃ result, dnvmeAllocHmb env ndev = .ok result ∧
      Kept ndev result (.alloc env) ∧ Intact result.device := by
  rcases ndev with ⟨_ | old, heap⟩
  · have careful := careful rfl
    obtain ⟨result, done, outcome⟩ := @dnvmeAllocHmb_spec env heap
      fun head need one two three => (careful head need one two three).1
    have nothing : heap.live = [] := intact.nothing rfl
    refine ⟨result, done, ?_, ?_⟩
    · refine ⟨fun present => absurd present (by simp), fun _ negative => ?_⟩
      rcases outcome with failed | ⟨need, hmb, answered⟩
      · exact ⟨failed.absent, failed.live careful⟩
      · have zero := answered.ret
        omega
    · rcases outcome with failed | ⟨need, hmb, answered⟩
      · refine ⟨fun _ => ?_, fun hmb present => ?_⟩
        · have live := failed.live careful
          rw [nothing] at live
          exact List.perm_nil.mp live
        · rw [failed.absent] at present
          cases present
      · refine ⟨fun absent => ?_, fun other present => ?_⟩
        · rw [answered.present] at absent
          cases absent
        · cases answered.present.symm.trans present
          have live := answered.live
          rw [nothing, List.append_nil] at live
          exact ⟨live, by rw [answered.built.descNum, answered.built.room]⟩
  · refine ⟨⟨-Errno.EPERM, none, some old, heap⟩, rfl, ?_, intact⟩
    exact ⟨fun _ => ⟨show -Errno.EPERM < 0 by decide, rfl⟩,
      fun absent => absurd absent (by simp)⟩

theorem Intact.release (intact : Intact ndev) {local_ : Option Nat}
    (careful : Careful ndev (.release local_)) :
    ∃ result, dnvmeReleaseHmb local_ ndev = .ok result ∧
      Kept ndev result (.release local_) ∧ Intact result.device := by
  rcases ndev with ⟨_ | hmb, heap⟩
  · have nothing : heap.live = [] := intact.nothing rfl
    exact ⟨⟨0, none, none, heap⟩, rfl, ⟨rfl, nothing⟩, intact⟩
  · obtain ⟨held, room⟩ := intact.whole hmb rfl
    have own := careful hmb rfl
    have reordered : heap.live.Perm (hmb.desc.toList ++
        (pointers hmb 0 hmb.descNum ++ [hmb.self])) := by
      refine held.trans ?_
      rw [parts, ← List.append_assoc]
      exact (List.perm_append_singleton _ _).symm
    obtain ⟨first, free, left⟩ := free_spec reordered
    obtain ⟨cleared, second, release, rest, _⟩ :=
      releaseHmbBufferFrom_spec hmb.descNum 0 hmb first _
        (by rw [Nat.zero_add]; exact room) left
    obtain ⟨third, last, all⟩ := free_spec
      (show second.live.Perm ((some hmb.self).toList ++ []) from rest)
    have empty : third.live = [] := List.perm_nil.mp all
    refine ⟨⟨0, none, none, third⟩, ?_, ⟨rfl, empty⟩,
      ⟨fun _ => empty, fun _ other => by cases other⟩⟩
    unfold dnvmeReleaseHmb dnvmeReleaseHmbDesc dnvmeReleaseHmbBuffer
    dsimp only [bind, Except.bind]
    rw [free]
    dsimp only
    rw [release]
    dsimp only
    rw [own, last]
    rfl

/-- One careful request. -/
theorem Intact.execute (intact : Intact ndev) {call : Call}
    (careful : Careful ndev call) :
    ∃ result, call.execute ndev = .ok result ∧ Kept ndev result call ∧
      Intact result.device := by
  cases call with
  | alloc env => exact intact.alloc careful
  | release local_ => exact intact.release careful

theorem reachable_intact (reachable : Reachable Careful ndev) :
    Intact ndev := by
  induction reachable with
  | refl => exact ⟨fun _ => rfl, fun _ present => by cases present⟩
  | tail _ step ih =>
      obtain ⟨call, result, careful, done, rfl⟩ := step
      obtain ⟨other, same, _, intact⟩ := ih.execute careful
      cases done.symm.trans same
      exact intact

/-- In every run of careful requests no access leaves its array, a failed
request leaves nothing behind and a release gives everything back. -/
theorem hmb_life_cycle {call : Call} (reachable : Reachable Careful ndev)
    (careful : Careful ndev call) :
    Intact ndev ∧ ∃ result, call.execute ndev = .ok result ∧
      Kept ndev result call := by
  have intact := reachable_intact reachable
  obtain ⟨result, done, kept, _⟩ := intact.execute careful
  exact ⟨intact, result, done, kept⟩

end Runs

/-- The device after a request for one page. -/
def onePageDevice : HmbDevice where
  hmb := some
    { NvmeHmb.zero 1 1 with
      desc := some 3
      descAddr := 2 ^ 30
      descSize := pageSize
      descNum := 1
      descs := Function.update (fun _ => ⟨0, 0⟩) 0 ⟨2 ^ 20, 4096⟩
      buf := Function.update (fun _ => ⟨none, 0, 0⟩) 0
        ⟨some 2, 2 ^ 20, 4096⟩ }
  heap := ⟨[3, 2, 1], 4, by decide, by decide⟩

theorem onePage_allocates (rule : CallRule)
    (meets : rule noHmb (.alloc (smoothRequest onePage))) :
    Reachable rule onePageDevice :=
  Relation.ReflTransGen.single
    ⟨.alloc (smoothRequest onePage), ⟨0, some (2 ^ 30), onePageDevice⟩,
      meets, rfl, rfl⟩

theorem hmb_life_cycle_one_page :
    ∃ result, dnvmeReleaseHmb (some 1) onePageDevice = .ok result ∧
      result.device.hmb = none ∧ result.device.heap.live = [] := by
  have meets : Careful noHmb (.alloc (smoothRequest onePage)) := by
    intro _ head need one two _
    cases one
    cases two
    exact ⟨Or.inl (le_refl _), Or.inr (Or.inr rfl)⟩
  have careful : Careful onePageDevice (.release (some 1)) := by
    intro hmb present
    cases present
    rfl
  exact (hmb_life_cycle (onePage_allocates Careful meets) careful).2

/-- A request that asks for one buffer only when it is read again. -/
def grownRequest : AllocEnv :=
  { smoothRequest onePage with head := some ⟨4096, 0, fun _ => 1⟩ }

/-- A request for which there is no descriptor page. -/
def pagelessRequest : AllocEnv :=
  { smoothRequest onePage with descPage := none }

/-- A release leaves the object allocated, a request that grows is read beyond
its end, and without a descriptor page a buffer stays allocated. -/
theorem hmb_leaks :
    (∃ result, dnvmeReleaseHmb none onePageDevice = .ok result ∧
      result.device.hmb = none ∧ result.device.heap.live = [1]) ∧
    dnvmeAllocHmb grownRequest noHmb = .error .outOfBounds ∧
    (∃ result, dnvmeAllocHmb pagelessRequest noHmb = .ok result ∧
      result.ret < 0 ∧ result.device.heap.live = [2]) ∧
    ¬ LifeCycle fun _ _ => True := by
  refine ⟨⟨_, rfl, rfl, rfl⟩, rfl, ⟨_, rfl, by decide, rfl⟩, fun all => ?_⟩
  obtain ⟨result, done, kept⟩ := all onePageDevice
    (onePage_allocates _ trivial) (.release none) trivial
  cases done
  exact absurd kept.2 (by decide)

end Dnvme.Driver.HmbLifeCycle
