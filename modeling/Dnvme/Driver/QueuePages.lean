import Dnvme.Driver.PrpMerging
import Dnvme.Driver.SubmitFailure

/-!
# The memory of a discontiguous queue

A create command hands the pages of a user buffer to its queue.  The kernel
reaches them through one mapping, page after page; the device reaches them
through the PRP list.  This module shows that the two agree on every slot of
the queue when the buffer starts at a page and is long enough, and the list
does not end in the last slot of a list page.

The number of elements comes from another request than the buffer, so nothing
in the driver relates the two.
-/

namespace Dnvme.Driver.QueuePages

open Dnvme.Lib.Results
open Dnvme.Driver
open Dnvme.Driver.PrpReading
open Dnvme.Driver.PrpMerging
open Dnvme.Driver.SubmitFailure

/-! ## The list of a buffer -/

section Lists

variable {buffer : Buffer}

/-- One scatter entry for each page. -/
def eachPage (buffer : Buffer) : List ScatterEntry :=
  (List.range buffer.count).map fun k =>
    ⟨0, 0, 0, buffer.address k, buffer.bytes k⟩

theorem eachPage_getElem {k : Nat} {entry : ScatterEntry}
    (found : (eachPage buffer)[k]? = some entry) :
    entry.dmaAddress = buffer.address k ∧
      entry.dmaLength = buffer.bytes k := by
  unfold eachPage at found
  rw [List.getElem?_map] at found
  obtain ⟨index, at_, rfl⟩ := Option.map_eq_some_iff.mp found
  obtain ⟨_, same⟩ := List.getElem?_eq_some_iff.mp at_
  rw [List.getElem_range] at same
  subst same
  exact ⟨rfl, rfl⟩

theorem eachPage_oneEach (buffer : Buffer) :
    OneEach buffer (eachPage buffer) where
  length_eq := by simp [eachPage]
  address _ _ found := (eachPage_getElem found).1
  length _ _ found := (eachPage_getElem found).2

/-- All pages but the last one are whole when the buffer starts at a page. -/
theorem bytes_inner (aligned : buffer.offset = 0) {k : Nat}
    (more : k + 1 < buffer.count) : buffer.bytes k = pageSize := by
  have range := buffer.count_range
  simp only [Buffer.bytes, Buffer.edge, aligned, pageSize]
  omega

/-- What the loop writes for a buffer that starts at a page is its list. -/
theorem writePages_listed (aligned : buffer.offset = 0)
    (prpDma : List Nat) :
    Listed prpDma buffer.address buffer.count
      (writePages prpDma buffer.address buffer.count 0 0 0
        (fun _ _ => 0) 0).1 := by
  have counts := buffer.count_range
  have positive := buffer.positive
  have covers := (eachPage_oneEach buffer).covers
  obtain ⟨first, rest, pages, split, run⟩ := covers.head counts.2.2
  have entry (k : Nat) (found : ScatterEntry) (here : rest[k]? = some found) :
      found.dmaAddress = buffer.address (0 + 1 + k) ∧
        found.dmaLength = buffer.bytes (0 + 1 + k) := by
    refine eachPage_getElem ?_
    rw [split, Nat.zero_add, Nat.add_comm, List.getElem?_cons_succ]
    exact here
  have head : first.dmaAddress = buffer.address 0 ∧
      first.dmaLength = buffer.bytes 0 := by
    refine eachPage_getElem ?_
    rw [split]
    rfl
  have long : rest.length + 0 + 1 = buffer.count := by
    rw [← (eachPage_oneEach buffer).length_eq, split]
    rfl
  have onePerPage : OnePerPage buffer.address buffer.count 0 rest :=
    ⟨long, fun k found here => (entry k found here).1,
      fun k found here more => by
        rw [(entry k found here).2]
        exact bytes_inner aligned more⟩
  have standing : Standing buffer 0 0 (startCursor buffer.size
      ⟨0, pageSize_pos⟩ first.dmaAddress first.dmaLength rest) := by
    refine ⟨counts.2.2, ?_, rfl, ?_, ⟨pages, ?_⟩, by simp [startCursor],
      Nat.zero_le _⟩
    · rw [Buffer.edge_zero, aligned]
    · change (buffer.size : Int) = _
      rw [aligned]
      simp
    · simpa only [startCursor] using run
  obtain ⟨done, ends, result⟩ := @fillPrpList_standing buffer 0 prpDma
    buffer.count 0 _ (Nat.zero_add _) standing
  have loop : ListLoop prpDma buffer.address buffer.count
      (startCursor buffer.size ⟨0, pageSize_pos⟩ first.dmaAddress
        first.dmaLength rest) 0 := by
    refine listLoop_start prpDma head.1 onePerPage (by omega) ?_ ?_ ?_
    · simp only [pageSize]
      omega
    · simp only [pageSize]
      omega
    · intro more
      rw [head.2, bytes_inner aligned (by omega)]
      simp
  obtain ⟨other, also, listed⟩ :=
    fillPrpList_spec buffer.count _ 0 rfl loop
  rw [ends] at also
  cases also
  have entries := congrArg Prod.fst result
  dsimp only at entries
  rw [startCursor] at entries
  rw [← entries]
  exact listed

end Lists

section Setup

variable {buffer : Buffer} {env : ListEnv} {poolPages : List Nat}
  {cmd : Nvme64bCmd} {ccmd : NvmeCommonCommand} {prps : NvmePrps}
  {sg : List ScatterEntry} {result : SetupResult}

/-- A create command with a buffer that starts at a page, whatever pages were
merged: the list holds all page addresses. -/
theorem create_list (aligned : buffer.offset = 0)
    (covers : Covers buffer 0 sg) (scatter : prps.sg = some sg)
    (size : prps.dataBufSize = buffer.size)
    (creates : createsQueue cmd ccmd = true)
    (fresh : FreshPages env buffer.address)
    (setup : dnvmeSetupPrps env poolPages cmd ccmd prps = .ok result)
    (success : 0 ≤ result.ret) :
    ∃ entries, ListMemory result.prps entries buffer.address buffer.count ∧
      ∀ k, buffer.address k ∉ result.prps.pgAddr := by
  have counts := buffer.count_range
  have small := buffer.small
  have invalid : ¬ (0 : Int) ≤ -Errno.EINVAL := by decide
  have memory : ¬ (0 : Int) ≤ -Errno.ENOMEM := by decide
  obtain ⟨started, runs, follows⟩ :=
    prologue_follows covers scatter size fun _ => aligned
  rw [dnvmeSetupPrps_eq, runs] at setup
  rw [plan] at follows
  simp only [creates, if_true] at follows
  cases mask : cmd.bitMask.prp1List with
  | false =>
      rw [mask] at follows
      cases follows
      cases setup
      exact absurd success invalid
  | true =>
      rw [mask] at follows
      obtain ⟨bufLen, pgOft, dmaAddr, dmaLen, rest, rfl, standing⟩ := follows
      have oft : pgOft.val = 0 := standing.pgOft
      have len : bufLen =
          (buffer.offset + buffer.size : Int) - (0 : Nat) * 4096 :=
        standing.bufLen
      have number :
          divRoundUp ((pgOft.val + bufLen) % 2 ^ 32).toNat pageSize =
            buffer.count := by
        rw [oft, len, aligned]
        simp only [divRoundUp, pageSize]
        omega
      dsimp only [startCursor] at setup
      rw [buildPrpList] at setup
      simp only [number] at setup
      split at setup
      · cases setup
        exact absurd success memory
      · rename_i prpDma allocated
        obtain ⟨done, ends, written⟩ := @fillPrpList_standing buffer 0 prpDma
          buffer.count 0 _ (Nat.zero_add _) standing
        rw [startCursor] at ends
        simp only [ends] at setup
        cases setup
        obtain ⟨lengthEq, distinct, separate⟩ :=
          allocListPages_fresh fresh allocated
        have entries := congrArg Prod.fst written
        dsimp only [startCursor] at entries
        refine ⟨done.entries, ⟨rfl, distinct, ?_, ?_⟩, separate⟩
        · intro p below
          rw [lengthEq]
          exact reserved_enough (by omega) p below
        · dsimp only
          rw [entries]
          exact writePages_listed aligned prpDma

/-- A list also holds every shorter one. -/
theorem ListMemory.shorter {entries : Nat → Nat → Nat} {item : Nat → Nat}
    {count fewer : Nat} (memory : ListMemory prps entries item count)
    (less : fewer ≤ count) : ListMemory prps entries item fewer where
  pages := memory.pages
  distinct := memory.distinct
  enough p below := memory.enough p (below.trans_le less)
  listed := ⟨fun m below => memory.listed.1 m (below.trans_le less),
    fun p below => memory.listed.2 p (below.trans_le less)⟩

end Setup

/-! ## Two views of the pages -/

/-- The page frame behind page `k` of the kernel mapping. -/
def kernelPage (prps : NvmePrps) (k : Nat) : Option Nat :=
  ((prps.sg.getD [])[k]?).map ScatterEntry.page

/-- The memory behind `prps->buf + offset`: a page frame and a place in it. -/
def kernelAt (prps : NvmePrps) (offset : Nat) : Option (Nat × Nat) :=
  (kernelPage prps (offset / pageSize)).map (·, offset % pageSize)

/-- The memory that the device finds `offset` bytes into a queue of `pages`
pages; `frameAt` is the page frame behind a page of bus addresses. -/
def deviceAt (frameAt : Nat → Nat) (prps : NvmePrps) (pages offset : Nat) :
    Option (Nat × Nat) :=
  match readPrpList (listPageAt prps) (prps.pgAddr.getD 0 0) pages with
  | none => none
  | some list =>
      (list[offset / pageSize]?).map fun address =>
        let byte := address + offset % pageSize
        (frameAt (byte / pageSize), byte % pageSize)

/-- The pages that a queue takes. -/
def queuePages (elements shift : Nat) : Nat :=
  divRoundUp (elements * 2 ^ shift) pageSize

/-- The pages hold a queue: the kernel reaches all of it, and every byte is
where the device looks for it. -/
structure HoldsQueue (frameAt : Nat → Nat) (prps : NvmePrps)
    (elements shift : Nat) : Prop where
  mapped : prps.buf = true
  spans : elements * 2 ^ shift ≤ prps.numMapPgs * pageSize
  same : ∀ offset < elements * 2 ^ shift, ∃ place,
    kernelAt prps offset = some place ∧
      deviceAt frameAt prps (queuePages elements shift) offset = some place

/-! ## What a create command needs -/

/-- What `dma_map_sg` and `dma_pool_alloc` do for the pages of a command:
each page gets a page of bus addresses, entries of consecutive pages may be
merged, and list pages are apart from each other and from the data. -/
structure DmaWorks (frameAt : Nat → Nat) (env : SubmitEnv)
    (addr size : Nat) (bus : Nat → Nat) : Prop where
  aligned : ∀ k, bus k % pageSize = 0
  frames : ∀ k < userPages addr size,
    frameAt (bus k / pageSize) = env.map.frame k
  pages : KeepsPages env.map
  covers : ∀ buffer : Buffer, buffer.offset = offsetInPage addr →
    buffer.size = size → buffer.address = bufferPage bus addr →
    Covers buffer 0 (env.map.dmaMap (pagesToSgl env.map.frame
      (userPages addr size) 0 (offsetInPage addr) size))
  fresh : FreshPages env.list (bufferPage bus addr)

/-- The condition on the buffer of a create command: it starts at a page, is
at least as long as the queue and shorter than 2 GiB, and the pages of the queue
do not end in the last slot of a list page.  Pages of the buffer behind those of
the queue are listed too, but never accessed. -/
structure FitsQueue (cmd : Nvme64bCmd) (elements shift : Nat) : Prop where
  aligned : offsetInPage cmd.dataBufPtr = 0
  long : elements * 2 ^ shift ≤ cmd.dataBufSize
  short : cmd.dataBufSize < 2 ^ 31
  ends : ¬ FillsLastSlot (queuePages elements shift)

section Create

variable {frameAt bus : Nat → Nat} {env : SubmitEnv} {ndev : NvmeDevice}
  {cmd : Nvme64bCmd} {ccmd : NvmeCommonCommand} {prps : NvmePrps}
  {dptr : NvmeDataPtr} {elements shift : Nat}

/-- What the pages of an accepted create command went through. -/
theorem created_pages (creates : createsQueue cmd ccmd = true)
    (pages : Pages env ndev cmd ccmd (some prps) dptr) :
    ∃ mapped result, 0 < cmd.dataBufSize ∧ 0 ≤ result.ret ∧
      mapped = env.map.mapped (.zero (prpsPool cmd ccmd)) cmd.dataBufPtr
        cmd.dataBufSize cmd.dataDir true ∧
      dnvmeSetupPrps env.list ndev.poolPages cmd ccmd mapped = .ok result ∧
      prps = { result.prps with isSgl := false } := by
  obtain ⟨_, mapped, ret, poolPages, maps, _, fine, setup⟩ := pages
  have admin : cmd.sqid = nvmeAqId := by
    unfold createsQueue at creates
    simp only [Bool.and_eq_true, decide_eq_true_eq] at creates
    exact creates.1
  have plain : dnvmeUseSgls ccmd cmd = false := by
    simp [dnvmeUseSgls, admin, nvmeAqId]
  unfold setupPrps at setup
  rw [plain] at setup
  simp only [Bool.false_eq_true, if_false] at setup
  obtain ⟨result, runs, rest⟩ := ok_of_bind setup
  have ends := Except.ok.inj rest
  have same := congrArg SetupResult.prps ends
  have returns := congrArg SetupResult.ret ends
  dsimp only at same returns
  rw [creates] at maps
  rcases dnvmeMapUserPage_cases maps with ⟨_, positive, object, _⟩ |
    ⟨object, _⟩
  · exact ⟨mapped.prps, result, positive, returns ▸ fine, object, runs,
      same.symm⟩
  · -- without a scatter table the set up follows a null pointer
    rw [object] at runs
    cases runs

/-- The kernel finds the bytes of a buffer in its page frames. -/
theorem kernelAt_mapped {map : MapEnv} {count start size offset : Nat}
    (keeps : KeepsPages map)
    (sg : prps.sg = some (map.dmaMap (pagesToSgl map.frame count 0 start
      size))) (page : offset / pageSize < count) :
    kernelAt prps offset =
      some (map.frame (offset / pageSize), offset % pageSize) := by
  have frames := congrArg (·[offset / pageSize]?)
    (keeps (pagesToSgl map.frame count 0 start size))
  rw [pagesToSgl_pages, List.getElem?_map, List.getElem?_map,
    List.getElem?_range page] at frames
  simp only [kernelAt, kernelPage, sg, Option.getD_some, frames,
    Option.map_some, Nat.zero_add]

/-- The device finds the bytes behind a list of aligned pages. -/
theorem deviceAt_listed {address : Nat → Nat} {pages offset : Nat}
    (list : readPrpList (listPageAt prps) (prps.pgAddr.getD 0 0) pages =
      some ((List.range pages).map address))
    (page : offset / pageSize < pages)
    (aligned : address (offset / pageSize) % pageSize = 0) :
    deviceAt frameAt prps pages offset =
      some (frameAt (address (offset / pageSize) / pageSize),
        offset % pageSize) := by
  have inPage : offset % pageSize < pageSize := Nat.mod_lt _ pageSize_pos
  have whole : (address (offset / pageSize) + offset % pageSize) / pageSize =
      address (offset / pageSize) / pageSize := by
    simp only [pageSize] at aligned inPage ⊢
    omega
  have part : (address (offset / pageSize) + offset % pageSize) % pageSize =
      offset % pageSize := by
    simp only [pageSize] at aligned inPage ⊢
    omega
  unfold deviceAt
  simp only [list, List.getElem?_map, List.getElem?_range page,
    Option.map_some, whole, part]

theorem offsetInPage_lt (addr : Nat) : offsetInPage addr < pageSize :=
  Nat.mod_lt _ pageSize_pos

theorem offsetInPage_bufferPage {bus : Nat → Nat} (addr : Nat)
    (aligned : ∀ k, bus k % pageSize = 0) :
    offsetInPage (bufferPage bus addr 0) = offsetInPage addr := by
  have base := aligned 0
  simp only [bufferPage, if_true, offsetInPage, pageSize] at base ⊢
  omega

/-- The buffer of a create command. -/
def createBuffer (bus : Nat → Nat) (addr size : Nat)
    (aligned : ∀ k, bus k % pageSize = 0) (positive : 0 < size)
    (small : size < 2 ^ 31) : Buffer where
  offset := offsetInPage addr
  size := size
  address := bufferPage bus addr
  inPage := offsetInPage_lt addr
  positive := positive
  small := small
  first := offsetInPage_bufferPage addr aligned

/-- The pages of an accepted create command hold the queue. -/
theorem create_holds
    (works : DmaWorks frameAt env cmd.dataBufPtr cmd.dataBufSize bus)
    (fits : FitsQueue cmd elements shift) (some_ : 0 < elements)
    (creates : createsQueue cmd ccmd = true)
    (pages : Pages env ndev cmd ccmd (some prps) dptr) :
    HoldsQueue frameAt prps elements shift := by
  obtain ⟨mapped, result, positive, fine, object, runs, rfl⟩ :=
    created_pages creates pages
  have keeps := dnvmeSetupPrps_keeps runs
  have start := fits.aligned
  have long := fits.long
  have short := fits.short
  have bytes : 0 < elements * 2 ^ shift := by positivity
  let buffer := createBuffer bus cmd.dataBufPtr cmd.dataBufSize works.aligned
    positive short
  have count : buffer.count = userPages cmd.dataBufPtr cmd.dataBufSize := by
    simp only [Buffer.count, buffer, createBuffer, userPages, start, u32]
    rw [Nat.mod_eq_of_lt (by omega)]
  have fewer : queuePages elements shift ≤ buffer.count := by
    simp only [Buffer.count, buffer, createBuffer, queuePages, start,
      divRoundUp, pageSize]
    omega
  have covered : cmd.dataBufSize ≤ buffer.count * pageSize := by
    simp only [Buffer.count, buffer, createBuffer, start, divRoundUp,
      pageSize]
    omega
  have sg : mapped.sg = some (env.map.dmaMap (pagesToSgl env.map.frame
      (userPages cmd.dataBufPtr cmd.dataBufSize) 0
      (offsetInPage cmd.dataBufPtr) cmd.dataBufSize)) := by
    rw [object]
    rfl
  obtain ⟨entries, memory, separate⟩ := @create_list buffer env.list
    ndev.poolPages cmd ccmd mapped _ result start
    (works.covers buffer rfl rfl rfl) sg (by rw [object]; rfl) creates
    works.fresh runs fine
  have list : readPrpList (listPageAt result.prps)
      (result.prps.pgAddr.getD 0 0) (queuePages elements shift) =
      some ((List.range (queuePages elements shift)).map buffer.address) := by
    refine ((ListMemory.shorter memory fewer).read_iff ?_ separate).mpr
      fits.ends
    simp only [queuePages, divRoundUp, pageSize]
    omega
  refine ⟨?_, ?_, ?_⟩
  · dsimp only
    rw [keeps.buf, object]
    rfl
  · dsimp only
    rw [keeps.numMapPgs, object]
    change _ ≤ userPages cmd.dataBufPtr cmd.dataBufSize * pageSize
    rw [← count]
    omega
  · intro offset inside
    have page : offset / pageSize < queuePages elements shift := by
      simp only [queuePages, divRoundUp, pageSize]
      omega
    have address : buffer.address (offset / pageSize) =
        bus (offset / pageSize) := by
      simp [buffer, createBuffer, bufferPage, start]
    have aligned : buffer.address (offset / pageSize) % pageSize = 0 := by
      rw [address]
      exact works.aligned _
    refine ⟨(env.map.frame (offset / pageSize), offset % pageSize), ?_, ?_⟩
    · exact kernelAt_mapped works.pages (keeps.sg.trans sg) (by omega)
    · rw [← works.frames (offset / pageSize) (by omega), ← address]
      exact deviceAt_listed list page aligned

end Create

end Dnvme.Driver.QueuePages
