import Dnvme.Nvme.NetlinkWalk

/-!
# Attributes that are put are parsed

A put computes in signed 32-bit numbers whether a padded attribute still fits
into the buffer.  The walk of the parser adds up the same padded lengths on its
own way.  So a message that was built by any puts is parsed completely, and
each type is found with the last payload that was put for it.
-/

namespace Dnvme.Nvme.Netlink

open Dnvme.Driver
open Dnvme.Nvme
open Dnvme.Lib.ByteMemory
open Dnvme.Lib.Results

/-! ## The statement -/

/-- A call of `nla_put`: the type fits into the mask of the types, and the
length of the payload is an `int`. -/
structure Put where
  type : Nat
  payload : List (BitVec 8)
  small : type ≤ 0x3fff
  fits : payload.length < 2 ^ 31

/-- The bytes of the attribute with its padding. -/
def Put.size (put : Put) : Nat :=
  nlaAlign (nlaHdrlen + put.payload.length)

/-- The bytes of a sequence of attributes. -/
def sizeAll (puts : List Put) : Nat :=
  (puts.map Put.size).sum

/-- A call on a message. -/
def Put.run (put : Put) (msg : NlMsg) : Int × NlMsg :=
  nlaPut msg put.type put.payload

/-- The message after some calls. -/
def afterPuts (msg : NlMsg) (puts : List Put) : NlMsg :=
  puts.foldl (fun msg put => (put.run msg).2) msg

/-- The calls that succeed. -/
def successful (msg : NlMsg) : List Put → List Put
  | [] => []
  | put :: rest =>
      if (put.run msg).1 = 0 then put :: successful (put.run msg).2 rest
      else successful (put.run msg).2 rest

/-- A call that fails exactly if the attribute does not fit, and then changes
nothing. -/
def PutExact (msg : NlMsg) (put : Put) : Prop :=
  if nlmsgLen msg.nmNlh + put.size > msg.nmSize then
    put.run msg = (-Errno.ENOMEM, msg)
  else (put.run msg).1 = 0

/-- The attribute at an offset is the one of a call. -/
structure Contains (nlh : Memory) (nla : Nat) (put : Put) : Prop where
  len : nlaLenOf nlh nla = nlaHdrlen + put.payload.length
  type : nlh.number (nla + 2) 2 = put.type
  payload : nlh.read (nla + nlaHdrlen) put.payload.length = put.payload

/-- The last call for a type, with the offset of its attribute. -/
def IsLast (puts : List Put) (type nla : Nat) (put : Put) : Prop :=
  ∃ before after, puts = before ++ put :: after ∧ put.type = type ∧
    (∀ other ∈ after, other.type ≠ type) ∧
      nla = nlmsgHdrlen + genlHdrlen + sizeAll before

/-- What a walk should find in the message of some successful calls. -/
structure ParsedAs (nlh : Memory) (maxtype : Nat) (puts : List Put)
    (walked : Walked) : Prop where
  rem : walked.rem = 0
  found : ∀ type ≤ maxtype, ∀ nla, walked.tb type = some nla ↔
    ∃ put, IsLast puts type nla put
  contents : ∀ type nla put, IsLast puts type nla put → Contains nlh nla put
  larger : ∀ type, maxtype < type → walked.tb type = none

/-- The messages that start as `genlmsg_put` leaves a fresh one. -/
def Fresh (size : Nat) (fields : NlmsgFields) (cmd version : Nat)
    (msg : NlMsg) : Prop :=
  (do genlmsgPut (← nlmsgAlloc size) fields cmd version) = .ok msg

/-- All puts are exact, and what they leave is parsed. -/
def RoundTrips (msg : NlMsg) (puts : List Put) (maxtype : Nat) : Prop :=
  (∀ past put rest, puts = past ++ put :: rest →
    PutExact (afterPuts msg past) put) ∧
  ∃ walked, genlmsgParse (afterPuts msg puts).nmNlh 0 maxtype =
      .ok (0, walked) ∧
    ParsedAs (afterPuts msg puts).nmNlh maxtype (successful msg puts) walked

/-! ## Sizes -/

section Sizes

variable {len : Nat}

theorem Put.size_mod (put : Put) : put.size % 4 = 0 :=
  (nlaAlign_bounds _).2.2

theorem Put.le_size (put : Put) :
    nlaHdrlen + put.payload.length ≤ put.size :=
  (nlaAlign_bounds _).1

theorem sizeAll_cons (put : Put) (rest : List Put) :
    sizeAll (put :: rest) = put.size + sizeAll rest :=
  List.sum_cons

theorem sizeAll_append (first second : List Put) :
    sizeAll (first ++ second) = sizeAll first + sizeAll second := by
  unfold sizeAll
  rw [List.map_append, List.sum_append]

theorem sizeAll_concat (puts : List Put) (put : Put) :
    sizeAll (puts ++ [put]) = sizeAll puts + put.size := by
  rw [sizeAll_append]
  rfl

theorem sizeAll_mod (puts : List Put) : sizeAll puts % 4 = 0 := by
  induction puts with
  | nil => rfl
  | cons put rest ih =>
      have one := put.size_mod
      rw [sizeAll_cons]
      omega

theorem s32_wraps {value : Int} (lower : 2 ^ 31 ≤ value)
    (upper : value < 2 ^ 31 + 2 ^ 32) : s32 value = value - 2 ^ 32 := by
  unfold s32
  rw [Int.bmod_def]
  split <;> omega

/-- The signed size is the padded length, or has come back at the other end
because that is no `int`. -/
theorem nlaTotalSize_cases (fits : len < 2 ^ 31) :
    nlaTotalSize len = nlaAlign (nlaHdrlen + len) ∧
        nlaAlign (nlaHdrlen + len) < 2 ^ 31 ∨
      -2 ^ 31 ≤ nlaTotalSize len ∧ nlaTotalSize len < -2 ^ 30 ∧
        2 ^ 30 < nlaAlign (nlaHdrlen + len) := by
  unfold nlaTotalSize nlaAttrSize nlaHdrlen nlaAlign
  by_cases first : len + 4 < 2 ^ 31
  · have inner : s32 ((4 + len : Nat) : Int) = (4 + len : Nat) :=
      s32_of_range (by omega) (by omega)
    rw [inner]
    by_cases second : len + 7 < 2 ^ 31
    · rw [s32_of_range (by omega) (by omega)]
      omega
    · rw [s32_wraps (by omega) (by omega)]
      omega
  · have inner : s32 ((4 + len : Nat) : Int) = (4 + len : Nat) - 2 ^ 32 :=
      s32_wraps (by omega) (by omega)
    rw [inner, s32_of_range (by omega) (by omega)]
    omega

/-- Whether an attribute is refused. -/
theorem refuses_iff {start size : Nat} (fits : len < 2 ^ 31)
    (used : start ≤ size) (small : size ≤ 65536) :
    s32 (start + nlaTotalSize len) % 2 ^ 64 > size ↔
      start + nlaAlign (nlaHdrlen + len) > size := by
  rcases nlaTotalSize_cases fits with ⟨exact_, below⟩ | ⟨low, high, large⟩
  · rw [exact_]
    by_cases wraps : start + nlaAlign (nlaHdrlen + len) < 2 ^ 31
    · rw [s32_of_range (by omega) (by omega)]
      omega
    · rw [s32_wraps (by omega) (by omega)]
      omega
  · rw [s32_of_range (by omega) (by omega)]
    omega

/-- The new length of the message. -/
theorem total_eq {start size : Nat} (fits : len < 2 ^ 31)
    (small : size ≤ 65536)
    (room : start + nlaAlign (nlaHdrlen + len) ≤ size) :
    s32 (start + nlaTotalSize len) =
      (start + nlaAlign (nlaHdrlen + len) : Nat) := by
  rcases nlaTotalSize_cases fits with ⟨exact_, _⟩ | ⟨_, _, large⟩
  · rw [exact_, s32_of_range (by omega) (by omega)]
    push_cast
    rfl
  · omega

end Sizes

/-! ## One put -/

section Filling

variable {nlh : Memory} {nla type len : Nat}

/-- The header is in front of the padding. -/
theorem nlaFill_cases (small : nlaHdrlen + len < 256 ^ 2) :
    ∃ spot bytes, nlaFill nlh nla type len =
      ((nlh.write (nla + 2) (numberBytes 2 type)).write nla
        (numberBytes 2 (nlaHdrlen + len))).write spot bytes ∧
      nla + nlaHdrlen ≤ spot := by
  unfold nlaFill
  dsimp only
  rw [number_write, Nat.mod_eq_of_lt small]
  split
  · exact ⟨_, _, rfl, by omega⟩
  · refine ⟨nla + nlaHdrlen, [], ?_, le_refl _⟩
    funext address
    exact (write_outside _ (by simp)).symm

theorem nlaFill_len (small : nlaHdrlen + len < 256 ^ 2) :
    (nlaFill nlh nla type len).number nla 2 = nlaHdrlen + len := by
  obtain ⟨spot, bytes, fills, behind⟩ := @nlaFill_cases nlh nla type len small
  unfold nlaHdrlen at behind
  rw [fills, number_write_outside _ (by omega), number_write]
  exact Nat.mod_eq_of_lt small

theorem nlaFill_type (small : nlaHdrlen + len < 256 ^ 2)
    (fits : type < 256 ^ 2) :
    (nlaFill nlh nla type len).number (nla + 2) 2 = type := by
  obtain ⟨spot, bytes, fills, behind⟩ := @nlaFill_cases nlh nla type len small
  unfold nlaHdrlen at behind
  rw [fills, number_write_outside _ (by omega), number_write_outside _
    (by rw [length_numberBytes]; omega), number_write]
  exact Nat.mod_eq_of_lt fits

theorem nlaFill_before (small : nlaHdrlen + len < 256 ^ 2) {address : Nat}
    (before : address < nla) :
    nlaFill nlh nla type len address = nlh address := by
  obtain ⟨spot, bytes, fills, behind⟩ := @nlaFill_cases nlh nla type len small
  unfold nlaHdrlen at behind
  rw [fills, write_outside _ (by omega), write_outside _ (by omega),
    write_outside _ (by omega)]

end Filling

/-- The attributes of some calls lie one behind the other. -/
def Lies (nlh : Memory) : Nat → List Put → Prop
  | _, [] => True
  | nla, put :: rest => Contains nlh nla put ∧ Lies nlh (nla + put.size) rest

/-- A message with the attributes of some calls. -/
structure Holds (msg : NlMsg) (puts : List Put) : Prop where
  len : nlmsgLen msg.nmNlh = nlmsgHdrlen + genlHdrlen + sizeAll puts
  room : nlmsgHdrlen + genlHdrlen + sizeAll puts ≤ msg.nmSize
  lies : Lies msg.nmNlh (nlmsgHdrlen + genlHdrlen) puts

section Frames

variable {nlh other : Memory} {nla : Nat} {put : Put} {puts : List Put}

theorem Contains.congr (contains : Contains nlh nla put)
    (agree : ∀ address, nla ≤ address → address < nla + put.size →
      other address = nlh address) : Contains other nla put := by
  have size := put.le_size
  unfold nlaHdrlen at size
  refine ⟨?_, ?_, ?_⟩
  · unfold nlaLenOf
    rw [number_congr nlh fun address after before =>
      agree address (by omega) (by omega)]
    exact contains.len
  · rw [number_congr nlh fun address after before =>
      agree address (by omega) (by omega)]
    exact contains.type
  · unfold nlaHdrlen
    rw [read_congr nlh fun address after before =>
      agree address (by omega) (by omega)]
    exact contains.payload

theorem Lies.congr {nla : Nat} (lies : Lies nlh nla puts)
    (agree : ∀ address, nla ≤ address → address < nla + sizeAll puts →
      other address = nlh address) : Lies other nla puts := by
  induction puts generalizing nla with
  | nil => trivial
  | cons put rest ih =>
      rw [sizeAll_cons] at agree
      exact ⟨lies.1.congr fun address after before =>
          agree address after (by omega),
        ih lies.2 fun address after before =>
          agree address (by omega) (by omega)⟩

theorem Lies.concat {nla : Nat} (lies : Lies nlh nla puts)
    (last : Contains nlh (nla + sizeAll puts) put) :
    Lies nlh nla (puts ++ [put]) := by
  induction puts generalizing nla with
  | nil => exact ⟨last, trivial⟩
  | cons first rest ih =>
      refine ⟨lies.1, ih lies.2 ?_⟩
      rwa [sizeAll_cons, ← Nat.add_assoc] at last

/-- The attribute behind some others. -/
theorem Lies.contains {nla : Nat} {before after : List Put}
    (lies : Lies nlh nla (before ++ put :: after)) :
    Contains nlh (nla + sizeAll before) put := by
  induction before generalizing nla with
  | nil => exact lies.1
  | cons first rest ih =>
      rw [sizeAll_cons, ← Nat.add_assoc]
      exact ih lies.2

end Frames

section Putting

variable {msg : NlMsg} {puts : List Put}

theorem Holds.start_aligned (holds : Holds msg puts) :
    nlaAlign (nlmsgLen msg.nmNlh) =
      nlmsgHdrlen + genlHdrlen + sizeAll puts := by
  have aligned := sizeAll_mod puts
  rw [holds.len]
  exact nlaAlign_of_aligned (by unfold nlmsgHdrlen genlHdrlen; omega)

/-- A put that does not fit is refused. -/
theorem Holds.refused (holds : Holds msg puts) (small : msg.nmSize ≤ 65536)
    {put : Put} (full : nlmsgLen msg.nmNlh + put.size > msg.nmSize) :
    put.run msg = (-Errno.ENOMEM, msg) := by
  rw [holds.len] at full
  have refuses := (refuses_iff put.fits holds.room small).mpr full
  have none_ : nlaReserve msg put.type put.payload.length = none := by
    unfold nlaReserve
    rw [holds.start_aligned]
    exact if_pos refuses
  unfold Put.run nlaPut
  rw [none_]
  rfl

/-- What a put stores behind the others. -/
def storedPut (nlh : Memory) (start : Nat) (put : Put) : Memory :=
  (setNlmsgLen (nlaFill nlh start put.type put.payload.length)
    (start + put.size)).write (start + nlaHdrlen) put.payload

/-- A put that fits stores its attribute. -/
theorem Holds.accepted (holds : Holds msg puts) (small : msg.nmSize ≤ 65536)
    {put : Put} (room : nlmsgLen msg.nmNlh + put.size ≤ msg.nmSize) :
    put.run msg = (0, { msg with
      nmNlh := storedPut msg.nmNlh
        (nlmsgHdrlen + genlHdrlen + sizeAll puts) put }) := by
  rw [holds.len] at room
  have accepts := (refuses_iff put.fits holds.room small).not.mpr
    (not_lt.mpr room)
  have reserved : nlaReserve msg put.type put.payload.length =
      some (nlmsgHdrlen + genlHdrlen + sizeAll puts, { msg with
        nmNlh := setNlmsgLen (nlaFill msg.nmNlh
            (nlmsgHdrlen + genlHdrlen + sizeAll puts) put.type
            put.payload.length)
          (nlmsgHdrlen + genlHdrlen + sizeAll puts + put.size) }) := by
    have total := total_eq put.fits small room
    unfold nlaReserve
    rw [holds.start_aligned]
    refine (if_neg accepts).trans ?_
    rw [total, Int.toNat_natCast]
    rfl
  unfold Put.run nlaPut
  rw [reserved]
  refine congrArg (Prod.mk 0) ?_
  unfold nlaStore storedPut
  split
  · rfl
  · rename_i none_
    have empty : put.payload = [] :=
      List.length_eq_zero_iff.mp (Nat.eq_zero_of_not_pos none_)
    refine congrArg (NlMsg.mk · msg.nmSize) ?_
    funext address
    exact (write_outside _ (by rw [empty]; simp)).symm

section Stored

variable {nlh : Memory} {start : Nat} {put : Put}

theorem storedPut_kept (short : nlaHdrlen + put.payload.length < 256 ^ 2)
    {address : Nat} (after : 4 ≤ address) (before : address < start) :
    storedPut nlh start put address = nlh address := by
  unfold storedPut
  rw [write_outside _ (by omega)]
  refine (write_outside _ ?_).trans (nlaFill_before short before)
  rw [length_numberBytes]
  omega

theorem storedPut_len (behind : 4 ≤ start)
    (fit : start + put.size < 256 ^ 4) :
    nlmsgLen (storedPut nlh start put) = start + put.size := by
  unfold nlmsgLen storedPut
  rw [number_write_outside _ (by omega)]
  exact (number_write _ 0 4 _).trans (Nat.mod_eq_of_lt fit)

theorem storedPut_contains (behind : 4 ≤ start)
    (short : nlaHdrlen + put.payload.length < 256 ^ 2) :
    Contains (storedPut nlh start put) start put := by
  have header {offset : Nat} (after : start ≤ offset)
      (before : offset + 2 ≤ start + 4) :
      (storedPut nlh start put).number offset 2 =
        (nlaFill nlh start put.type put.payload.length).number offset 2 := by
    unfold storedPut
    rw [number_write_outside _ (by unfold nlaHdrlen; omega)]
    exact number_write_outside _ (by rw [length_numberBytes]; omega)
  refine ⟨?_, ?_, ?_⟩
  · exact (header (le_refl start) (by omega)).trans (nlaFill_len short)
  · have small := put.small
    exact (header (by omega) (by omega)).trans
      (nlaFill_type short (by omega))
  · exact read_write_self _ _ _

end Stored

/-- A put that fits leaves a message with one attribute more. -/
theorem Holds.more (holds : Holds msg puts) (small : msg.nmSize ≤ 65536)
    {put : Put} (room : nlmsgLen msg.nmNlh + put.size ≤ msg.nmSize) :
    Holds (put.run msg).2 (puts ++ [put]) := by
  rw [holds.accepted small room]
  rw [holds.len] at room
  have size := put.le_size
  have behind : 4 ≤ nlmsgHdrlen + genlHdrlen + sizeAll puts :=
    le_trans (by decide) (Nat.le_add_right 20 _)
  have short : nlaHdrlen + put.payload.length < 256 ^ 2 := by omega
  refine ⟨?_, ?_, ?_⟩
  · rw [sizeAll_concat, ← Nat.add_assoc]
    exact storedPut_len behind (by omega)
  · rw [sizeAll_concat, ← Nat.add_assoc]
    exact room
  · refine Lies.concat (holds.lies.congr fun address after before => ?_)
      (storedPut_contains behind short)
    exact storedPut_kept short (le_trans (by decide) after) before

/-- A put that does what it should. -/
theorem Holds.putExact (holds : Holds msg puts) (small : msg.nmSize ≤ 65536)
    (put : Put) : PutExact msg put := by
  unfold PutExact
  split
  · rename_i full
    exact holds.refused small full
  · rename_i room
    rw [holds.accepted small (not_lt.mp room)]

/-- A call keeps the size of the buffer, and adds its attribute if it
succeeds. -/
theorem Holds.next (holds : Holds msg puts) (small : msg.nmSize ≤ 65536)
    (put : Put) :
    (put.run msg).2.nmSize = msg.nmSize ∧
      Holds (put.run msg).2
        (puts ++ if (put.run msg).1 = 0 then [put] else []) := by
  by_cases room : nlmsgLen msg.nmNlh + put.size ≤ msg.nmSize
  · have more := holds.more small room
    rw [holds.accepted small room] at more ⊢
    exact ⟨rfl, more⟩
  · rw [holds.refused small (not_le.mp room)]
    refine ⟨rfl, ?_⟩
    have failed : ¬ (-Errno.ENOMEM : Int) = 0 := by decide
    rw [if_neg failed, List.append_nil]
    exact holds

/-- The message after any calls holds the attributes of those that
succeed. -/
theorem Holds.run (holds : Holds msg puts) (small : msg.nmSize ≤ 65536)
    (calls : List Put) :
    (afterPuts msg calls).nmSize = msg.nmSize ∧
      Holds (afterPuts msg calls) (puts ++ successful msg calls) := by
  induction calls generalizing msg puts with
  | nil =>
      refine ⟨rfl, ?_⟩
      rw [successful, List.append_nil]
      exact holds
  | cons put rest ih =>
      obtain ⟨size, next⟩ := holds.next small put
      obtain ⟨sizes, all⟩ := ih next (size.le.trans small)
      have after : afterPuts msg (put :: rest) =
          afterPuts (put.run msg).2 rest := List.foldl_cons ..
      have calls : successful msg (put :: rest) =
          (if (put.run msg).1 = 0 then [put] else []) ++
            successful (put.run msg).2 rest := by
        conv_lhs => unfold successful
        split
        · rfl
        · rfl
      rw [after, calls, ← List.append_assoc]
      exact ⟨sizes.trans size, all⟩

end Putting

/-! ## A fresh message -/

section Fresh

variable {size : Nat} {fields : NlmsgFields} {cmd version : Nat} {msg : NlMsg}

theorem nlmsgReserve_header (n : NlMsg)
    (room : 4 + nlmsgLen n.nmNlh ≤ n.nmSize) :
    nlmsgReserve n genlHdrlen 4 = some (nlmsgLen n.nmNlh,
      { n with nmNlh := setNlmsgLen n.nmNlh (nlmsgLen n.nmNlh + 4) }) :=
  if_neg (not_lt.mpr room)

theorem nlmsgReserve_full (n : NlMsg) (full : n.nmSize < 4 + nlmsgLen n.nmNlh) :
    nlmsgReserve n genlHdrlen 4 = none :=
  if_pos full

theorem nlmsgLen_set {nlh : Memory} {len : Nat} (fits : len < 256 ^ 4) :
    nlmsgLen (setNlmsgLen nlh len) = len :=
  (number_write nlh 0 4 len).trans (Nat.mod_eq_of_lt fits)

theorem nlmsgLen_write {nlh : Memory} {offset : Nat} {bytes : List (BitVec 8)}
    (behind : 4 ≤ offset) : nlmsgLen (nlh.write offset bytes) = nlmsgLen nlh :=
  number_write_outside nlh (Or.inl behind)

/-- The header of a fresh message, as `nlmsg_put` leaves it. -/
def freshHeader (fields : NlmsgFields) : Memory :=
  ((((setNlmsgLen (fun _ => 0) (nlaAlign nlmsgHdrlen)).write 4
    (numberBytes 2 fields.type)).write 6 (numberBytes 2 fields.flags)).write
    8 (numberBytes 4 fields.seq)).write 12 (numberBytes 4 fields.port)

theorem nlmsgLen_freshHeader (fields : NlmsgFields) :
    nlmsgLen (freshHeader fields) = 16 := by
  unfold freshHeader
  rw [nlmsgLen_write (by omega), nlmsgLen_write (by omega),
    nlmsgLen_write (by omega), nlmsgLen_write (by omega)]
  exact nlmsgLen_set (by decide)

/-- The bytes of a fresh message. -/
def freshMemory (fields : NlmsgFields) (cmd version : Nat) : Memory :=
  ((setNlmsgLen (freshHeader fields) (16 + 4)).write 16
    (numberBytes 1 cmd)).write 17 (numberBytes 1 version)

/-- A buffer with room for both headers gives a fresh message. -/
theorem fresh_iff : Fresh size fields cmd version msg ↔
    20 ≤ size ∧ msg = ⟨freshMemory fields cmd version, size⟩ := by
  have put (zeroed : Memory) (header : zeroed =
      setNlmsgLen (fun _ => 0) (nlaAlign nlmsgHdrlen)) :
      nlmsgPut ⟨zeroed, size⟩ fields genlHdrlen =
        (nlmsgReserve ⟨freshHeader fields, size⟩ genlHdrlen 4).map
          fun reserved => (nlmsgHdrlen, reserved.2) := by
    subst header
    unfold nlmsgPut
    exact if_pos (show genlHdrlen > 0 by decide)
  have len := nlmsgLen_freshHeader fields
  unfold Fresh nlmsgAlloc
  by_cases none_ : size < nlaAlign nlmsgHdrlen
  · rw [if_pos none_]
    constructor
    · intro never
      cases never
    · rintro ⟨large, _⟩
      exact absurd none_ (not_lt.mpr (le_trans (by decide) large))
  · rw [if_neg none_]
    change genlmsgPut _ fields cmd version = .ok msg ↔ _
    unfold genlmsgPut
    rw [put _ rfl]
    by_cases full : size < 20
    · rw [nlmsgReserve_full _ (by dsimp only; omega)]
      constructor
      · intro never
        cases never
      · rintro ⟨large, _⟩
        omega
    · rw [nlmsgReserve_header _ (by dsimp only; omega), len]
      constructor
      · intro same
        cases same
        exact ⟨not_lt.mp full, rfl⟩
      · rintro ⟨_, rfl⟩
        rfl

/-- A fresh message has no attributes. -/
theorem Fresh.holds (fresh : Fresh size fields cmd version msg) :
    msg.nmSize = size ∧ Holds msg [] := by
  obtain ⟨large, rfl⟩ := fresh_iff.mp fresh
  refine ⟨rfl, ?_, large, trivial⟩
  unfold freshMemory
  rw [nlmsgLen_write (by decide), nlmsgLen_write (by decide)]
  exact nlmsgLen_set (by decide)

end Fresh

/-! ## The walk -/

section Walk

variable {nlh : Memory} {maxtype : Nat}

/-- The offsets of the attributes of some calls. -/
def offsets : Nat → List Put → List Nat
  | _, [] => []
  | nla, put :: rest => nla :: offsets (nla + put.size) rest

theorem Contains.nlaType {nla : Nat} {put : Put}
    (contains : Contains nlh nla put) : nlaType nlh nla = put.type := by
  have small := put.small
  unfold Netlink.nlaType
  rw [contains.type]
  omega

/-- The attributes of some calls are a chain that leaves nothing. -/
theorem Lies.chain {puts : List Put} {nla : Nat} (lies : Lies nlh nla puts) :
    Chain nlh nla (sizeAll puts) (offsets nla puts) (nla + sizeAll puts) 0 := by
  induction puts generalizing nla with
  | nil =>
      refine .stop fun accepted => ?_
      have long := accepted.1
      have short := accepted.2
      change (nlaLenOf nlh nla : Int) ≤ 0 at short
      omega
  | cons put rest ih =>
      have size := put.le_size
      have len : nlaAlign (nlaLenOf nlh nla) = put.size := by
        rw [lies.1.len]
        rfl
      have accepted : Accepted nlh nla (sizeAll (put :: rest)) := by
        unfold Accepted
        rw [lies.1.len, sizeAll_cons]
        unfold nlaHdrlen at size ⊢
        omega
      have later := ih lies.2
      refine .next accepted ?_
      rw [len, sizeAll_cons, Nat.cast_add, add_sub_cancel_left,
        ← Nat.add_assoc]
      exact later

theorem offsets_append (before after : List Put) :
    ∀ nla, offsets nla (before ++ after) =
      offsets nla before ++ offsets (nla + sizeAll before) after := by
  induction before with
  | nil => exact fun _ => rfl
  | cons put rest ih =>
      intro nla
      rw [sizeAll_cons, ← Nat.add_assoc]
      exact congrArg (nla :: ·) (ih (nla + put.size))

/-- An offset belongs to a call. -/
theorem offsets_split {puts : List Put} {before after : List Nat} :
    ∀ {start nla : Nat}, offsets start puts = before ++ nla :: after →
      ∃ past put rest, puts = past ++ put :: rest ∧
        nla = start + sizeAll past ∧ after = offsets (nla + put.size) rest := by
  induction before generalizing puts with
  | nil =>
      intro start nla parts
      cases puts with
      | nil => cases parts
      | cons put rest =>
          obtain ⟨rfl, rfl⟩ := List.cons.inj parts
          exact ⟨[], put, rest, rfl, rfl, rfl⟩
  | cons first before ih =>
      intro start nla parts
      cases puts with
      | nil => cases parts
      | cons put rest =>
          obtain ⟨past, this, more, rfl, rfl, later⟩ :=
            ih (List.cons.inj parts).2
          refine ⟨put :: past, this, more, rfl, ?_, later⟩
          rw [sizeAll_cons, Nat.add_assoc]

/-- The types at the offsets are the types of the calls. -/
theorem Lies.types {puts : List Put} :
    ∀ {nla : Nat}, Lies nlh nla puts →
      (offsets nla puts).map (nlaType nlh) = puts.map Put.type := by
  induction puts with
  | nil => exact fun _ => rfl
  | cons put rest ih =>
      intro nla lies
      exact congrArg₂ List.cons lies.1.nlaType (ih lies.2)

theorem Lies.drop {before after : List Put} :
    ∀ {nla : Nat}, Lies nlh nla (before ++ after) →
      Lies nlh (nla + sizeAll before) after := by
  induction before with
  | nil => exact fun lies => lies
  | cons put rest ih =>
      intro nla lies
      rw [sizeAll_cons, ← Nat.add_assoc]
      exact ih lies.2

/-- A type is missing at the offsets if it is missing among the calls. -/
theorem Lies.absent_iff {puts : List Put} {nla type : Nat}
    (lies : Lies nlh nla puts) :
    (∀ other ∈ offsets nla puts, Netlink.nlaType nlh other ≠ type) ↔
      ∀ other ∈ puts, other.type ≠ type := by
  have through : (∀ found ∈ (offsets nla puts).map (Netlink.nlaType nlh),
      found ≠ type) ↔
      ∀ other ∈ offsets nla puts, Netlink.nlaType nlh other ≠ type :=
    List.forall_mem_map
  rw [← through, lies.types]
  exact List.forall_mem_map

/-- The last attribute of a type is the one of the last call for it. -/
theorem Lies.isLastOf_iff {type nla : Nat} {puts : List Put}
    (lies : Lies nlh (nlmsgHdrlen + genlHdrlen) puts) :
    IsLastOf nlh type (offsets (nlmsgHdrlen + genlHdrlen) puts) nla ↔
      ∃ put, IsLast puts type nla put := by
  constructor
  · rintro ⟨before, after, parts, found, last⟩
    obtain ⟨past, put, rest, rfl, rfl, rfl⟩ := offsets_split parts
    have here := lies.drop
    refine ⟨put, past, rest, rfl, here.1.nlaType.symm.trans found, ?_, rfl⟩
    exact here.2.absent_iff.mp last
  · rintro ⟨put, past, rest, rfl, type, last, rfl⟩
    have here := lies.drop
    refine ⟨offsets (nlmsgHdrlen + genlHdrlen) past, _, offsets_append _ _ _,
      here.1.nlaType.trans type, here.2.absent_iff.mpr last⟩

end Walk

/-! ## The round trip -/

section RoundTrip

variable {msg : NlMsg} {puts : List Put}

/-- The message of some calls is parsed. -/
theorem Holds.parsed (holds : Holds msg puts) (small : msg.nmSize ≤ 65536)
    (maxtype : Nat) :
    ∃ walked, genlmsgParse msg.nmNlh 0 maxtype = .ok (0, walked) ∧
      ParsedAs msg.nmNlh maxtype puts walked := by
  have room := holds.room
  have headers : nlmsgHdrlen + genlHdrlen ≤ nlmsgLen msg.nmNlh := by
    rw [holds.len]
    exact Nat.le_add_right _ _
  have len : genlmsgLen msg.nmNlh = sizeAll puts := by
    unfold genlmsgLen
    rw [holds.len]
    unfold nlmsgHdrlen genlHdrlen
    rw [s32_of_range (by omega) (by omega)]
    omega
  have attrlen : genlmsgAttrlen msg.nmNlh 0 = sizeAll puts := by
    unfold genlmsgAttrlen
    rw [len, nlaAlign_of_aligned (Nat.zero_mod 4)]
    exact (s32_of_range (by omega) (by omega)).trans (sub_zero _)
  obtain ⟨attrs, last, remains, chain, done⟩ :=
    genlmsgParse_chain maxtype headers
  rw [attrlen] at chain
  obtain ⟨rfl, rfl, rfl⟩ := holds.lies.chain.unique chain
  refine ⟨_, done, rfl, ?_, ?_, fun type large => enterAll_of_large large _⟩
  · intro type known nla
    exact (enterAll_iff known _ nla).trans holds.lies.isLastOf_iff
  · rintro type nla put ⟨before, after, rfl, _, _, rfl⟩
    exact holds.lies.contains

/--
Attributes that are put into a fresh message are parsed: a put fails exactly
if its padded attribute does not fit, and the parser finds the last attribute
of each type that it knows, and nothing else.
-/
theorem netlink_round_trip {size : Nat} {fields : NlmsgFields}
    {cmd version : Nat} (fresh : Fresh size fields cmd version msg)
    (small : size ≤ 65536) (puts : List Put) (maxtype : Nat) :
    RoundTrips msg puts maxtype := by
  obtain ⟨rfl, holds⟩ := fresh.holds
  constructor
  · intro past put rest _
    obtain ⟨size, all⟩ := holds.run small past
    exact all.putExact (size.le.trans small) put
  · obtain ⟨size, all⟩ := holds.run small puts
    exact all.parsed (size.le.trans small) maxtype

end RoundTrip

/-- An attribute with two bytes. -/
def shortPut : Put := ⟨4, [7, 0], by decide, by decide⟩

/-- A message with room for one attribute takes the first of two. -/
theorem netlink_round_trip_of_two :
    RoundTrips ⟨freshMemory ⟨0, 0, 16, 1⟩ 1 1, 28⟩ [shortPut, shortPut] 9 :=
  netlink_round_trip (fresh_iff.mpr ⟨by decide, rfl⟩) (by decide)
    [shortPut, shortPut] 9

end Dnvme.Nvme.Netlink
