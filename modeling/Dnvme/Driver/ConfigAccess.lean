import Dnvme.Lib.ByteMemory
import Dnvme.Driver.Types

/-!
# Access to the configuration space

`dnvme_generic_read` and `dnvme_generic_write` move bytes between a user and a
region of the device, in units that the user chooses.  The check of the
alignment and the check of the range come first, and the loop below them
advances by the width of a unit.

The range check adds two 32-bit numbers of the user without looking for a
carry.  Apart from that the configuration space is accessed inside its limits,
and the result does not depend on the width.
-/

namespace Dnvme.Driver.ConfigAccess

open Dnvme.Driver
open Dnvme.Lib.ByteMemory

/-! ## Requests -/

/-- `PCI_CFG_SPACE_EXP_SIZE`. -/
def pciCfgSpaceExpSize : Nat := 4096

/-- `enum nvme_access_type`, and the values that have no name. -/
inductive NvmeAccessType where
  | byte
  | word
  | dword
  | qword
  | unknown (value : Nat)
  deriving DecidableEq, Repr

/-- `enum nvme_region`, and the values that have no name. -/
inductive NvmeRegion where
  | pciConfig
  | bar0Bar1
  | unknown (value : Nat)
  deriving DecidableEq, Repr

/-- `struct nvme_access` without the pointer to the buffer; both numbers have
32 bits. -/
structure NvmeAccess where
  region : NvmeRegion
  type : NvmeAccessType
  bytes : Nat
  offset : Nat
  bytesFit : bytes < 2 ^ 32
  offsetFit : offset < 2 ^ 32

/-- `dnvme_check_access_align`. -/
def dnvmeCheckAccessAlign (access : NvmeAccess) : Int :=
  match access.type with
  | .qword =>
      if access.bytes % 8 ≠ 0 ∨ access.offset % 4 ≠ 0 then -Errno.EINVAL
      else 0
  | .dword =>
      if access.bytes % 4 ≠ 0 ∨ access.offset % 4 ≠ 0 then -Errno.EINVAL
      else 0
  | .word =>
      if access.bytes % 2 ≠ 0 ∨ access.offset % 2 ≠ 0 then -Errno.EINVAL
      else 0
  | .byte | .unknown _ => 0

/-- `IS_ALIGNED`. -/
def isAligned (x a : Nat) : Bool :=
  x &&& (a - 1) = 0

/-- `nvme_select_access_type` of the library. -/
def nvmeSelectAccessType (oft len : Nat) : NvmeAccessType :=
  if isAligned oft 4 && isAligned len 4 then .dword
  else if isAligned oft 2 && isAligned len 2 then .word
  else .byte

/-! ## The loops -/

/-- An access of the device: where, at which place of the transfer buffer, and
how wide. -/
structure Touch where
  offset : Nat
  index : Nat
  width : Nat
  deriving DecidableEq, Repr

/-- What a loop works on: the region of the device, the transfer buffer and
the accesses so far. -/
structure Transfer where
  space : Memory
  buf : Memory
  touched : List Touch

/-- The units of the configuration space: the switch has no case for others. -/
def configWidth : NvmeAccessType → Option Nat
  | .dword => some 4
  | .word => some 2
  | .byte => some 1
  | .qword | .unknown _ => none

/-- The units of the BAR. -/
def barWidth : NvmeAccessType → Option Nat
  | .qword => some 8
  | .dword => some 4
  | .word => some 2
  | .byte => some 1
  | .unknown _ => none

/-- The errno of an access by its offset and width, as
`pcibios_err_to_errno` returns it. -/
abbrev PciStatus := Nat → Nat → Int

/-- The loop that the four functions share.  A turn moves one unit and
returns the errno of the access. -/
def accessLoop (turn : Touch → Transfer → Int × Transfer)
    (access : NvmeAccess) (width : Nat) :
    Nat → Nat → Transfer → Outcome (Int × Transfer)
  | 0, _, _ => .error .endlessLoop
  | fuel + 1, idx, transfer =>
      let (ret, moved) :=
        turn ⟨u32 (access.offset + idx), idx, width⟩ transfer
      if ret < 0 then .ok (ret, moved)
      else if u32 (idx + width) < access.bytes then
        accessLoop turn access width fuel (u32 (idx + width)) moved
      else .ok (0, moved)

/-- A unit is read; a failed access gives all ones. -/
def readTurn (status : PciStatus) (touch : Touch) (transfer : Transfer) :
    Int × Transfer :=
  let ret := status touch.offset touch.width
  (ret,
    { transfer with
      buf :=
        transfer.buf.write touch.index
          (if ret < 0 then List.replicate touch.width 0xff#8
          else transfer.space.read touch.offset touch.width)
      touched := transfer.touched ++ [touch] })

/-- A unit is written, unless the access fails. -/
def writeTurn (status : PciStatus) (touch : Touch) (transfer : Transfer) :
    Int × Transfer :=
  let ret := status touch.offset touch.width
  (ret,
    { transfer with
      space :=
        if ret < 0 then transfer.space
        else
          transfer.space.write touch.offset
            (transfer.buf.read touch.index touch.width)
      touched := transfer.touched ++ [touch] })

/-- What `dnvme_read_from_config` and `dnvme_write_to_config` share. -/
def configTransfer (turn : Touch → Transfer → Int × Transfer)
    (access : NvmeAccess) (transfer : Transfer) : Outcome (Int × Transfer) :=
  if u32 (access.offset + access.bytes) > pciCfgSpaceExpSize then
    .ok (-Errno.EINVAL, transfer)
  else
    match configWidth access.type with
    | none => .ok (-Errno.EINVAL, transfer)
    | some width => accessLoop turn access width (2 ^ 32) 0 transfer

/-- `dnvme_read_from_config`. -/
def dnvmeReadFromConfig (status : PciStatus) :
    NvmeAccess → Transfer → Outcome (Int × Transfer) :=
  configTransfer (readTurn status)

/-- `dnvme_write_to_config`. -/
def dnvmeWriteToConfig (status : PciStatus) :
    NvmeAccess → Transfer → Outcome (Int × Transfer) :=
  configTransfer (writeTurn status)

/-- What `dnvme_read_from_bar` and `dnvme_write_to_bar` share; no access of the
BAR fails. -/
def barTransfer (turn : PciStatus → Touch → Transfer → Int × Transfer)
    (access : NvmeAccess) (transfer : Transfer) : Outcome (Int × Transfer) :=
  match barWidth access.type with
  | none => .ok (-Errno.EINVAL, transfer)
  | some width =>
      accessLoop (turn fun _ _ => 0) access width (2 ^ 32) 0 transfer

/-- `dnvme_read_from_bar`. -/
def dnvmeReadFromBar : NvmeAccess → Transfer → Outcome (Int × Transfer) :=
  barTransfer readTurn

/-- `dnvme_write_to_bar`. -/
def dnvmeWriteToBar : NvmeAccess → Transfer → Outcome (Int × Transfer) :=
  barTransfer writeTurn

/-! ## The requests -/

/-- What a request takes from outside. -/
structure AccessEnv where
  /-- The request is copied in. -/
  copyIn : Bool
  /-- `kzalloc` of the transfer buffer. -/
  alloc : Bool
  /-- The data is copied from or to the user. -/
  copyData : Bool
  /-- The errno of each access of the configuration space. -/
  status : PciStatus

/-- The memories that a request works on: those of the device and the buffer
of the user.  `touched` holds the accesses of the configuration space. -/
structure AccessState where
  config : Memory
  bar : Memory
  user : Memory
  touched : List Touch

/-- `dnvme_generic_read`. -/
def dnvmeGenericRead (env : AccessEnv) (access : NvmeAccess)
    (state : AccessState) : Outcome (Int × AccessState) :=
  let copied (buf : Memory) : Memory :=
    state.user.write 0 (buf.read 0 access.bytes)
  if !env.copyIn then .ok (-Errno.EFAULT, state)
  else if access.bytes = 0 then .ok (0, state)
  else
    let ret := dnvmeCheckAccessAlign access
    if ret < 0 then .ok (ret, state)
    else if !env.alloc then .ok (-Errno.ENOMEM, state)
    else
      match access.region with
      | .pciConfig =>
          match dnvmeReadFromConfig env.status access
              ⟨state.config, fun _ => 0#8, []⟩ with
          | .error oops => .error oops
          | .ok (ret, moved) =>
              let after :=
                { state with touched := state.touched ++ moved.touched }
              if ret < 0 then .ok (ret, after)
              else if !env.copyData then .ok (-Errno.EFAULT, after)
              else .ok (ret, { after with user := copied moved.buf })
      | .bar0Bar1 =>
          match dnvmeReadFromBar access ⟨state.bar, fun _ => 0#8, []⟩ with
          | .error oops => .error oops
          | .ok (ret, moved) =>
              if ret < 0 then .ok (ret, state)
              else if !env.copyData then .ok (-Errno.EFAULT, state)
              else .ok (ret, { state with user := copied moved.buf })
      | .unknown _ => .ok (-Errno.EINVAL, state)

/-- `dnvme_generic_write`. -/
def dnvmeGenericWrite (env : AccessEnv) (access : NvmeAccess)
    (state : AccessState) : Outcome (Int × AccessState) :=
  let buf : Memory :=
    Memory.write (fun _ => 0#8) 0 (state.user.read 0 access.bytes)
  if !env.copyIn then .ok (-Errno.EFAULT, state)
  else if access.bytes = 0 then .ok (0, state)
  else
    let ret := dnvmeCheckAccessAlign access
    if ret < 0 then .ok (ret, state)
    else if !env.alloc then .ok (-Errno.ENOMEM, state)
    else if !env.copyData then .ok (-Errno.EFAULT, state)
    else
      match access.region with
      | .pciConfig =>
          match dnvmeWriteToConfig env.status access
              ⟨state.config, buf, []⟩ with
          | .error oops => .error oops
          | .ok (ret, moved) =>
              .ok (ret,
                { state with
                  config := moved.space
                  touched := state.touched ++ moved.touched })
      | .bar0Bar1 =>
          match dnvmeWriteToBar access ⟨state.bar, buf, []⟩ with
          | .error oops => .error oops
          | .ok (ret, moved) => .ok (ret, { state with bar := moved.space })
      | .unknown _ => .ok (-Errno.EINVAL, state)

/-! ## The rule of the loop -/

/-- What every turn keeps holds after the loop; a loop over whole units always
ends. -/
theorem accessLoop_rule (turn : Touch → Transfer → Int × Transfer)
    (Failed : Transfer → Prop) {access : NvmeAccess} {width : Nat}
    {Inv : Nat → Transfer → Prop} (positive : 0 < width)
    (whole : width ∣ access.bytes)
    (keeps : ∀ idx transfer, Inv idx transfer → idx + width ≤ access.bytes →
      ¬ (turn ⟨u32 (access.offset + idx), idx, width⟩ transfer).1 < 0 →
      Inv (idx + width)
        (turn ⟨u32 (access.offset + idx), idx, width⟩ transfer).2)
    (fails : ∀ idx transfer, Inv idx transfer → idx + width ≤ access.bytes →
      (turn ⟨u32 (access.offset + idx), idx, width⟩ transfer).1 < 0 →
      Failed (turn ⟨u32 (access.offset + idx), idx, width⟩ transfer).2)
    (fuel : Nat) :
    ∀ {idx : Nat} {transfer : Transfer}, Inv idx transfer → width ∣ idx →
      idx < access.bytes → access.bytes - idx ≤ fuel →
      ∃ ret moved,
        accessLoop turn access width fuel idx transfer = .ok (ret, moved) ∧
          ((ret < 0 ∧ Failed moved) ∨ (ret = 0 ∧ Inv access.bytes moved)) := by
  induction fuel with
  | zero =>
      intro idx transfer _ _ below enough
      omega
  | succ fuel ih =>
      intro idx transfer inv unit below enough
      have room : idx + width ≤ access.bytes := by
        have rest := Nat.le_of_dvd (Nat.sub_pos_of_lt below)
          (Nat.dvd_sub whole unit)
        omega
      have next : u32 (idx + width) = idx + width :=
        Nat.mod_eq_of_lt (lt_of_le_of_lt room access.bytesFit)
      rw [accessLoop, next]
      dsimp only
      split
      · rename_i negative
        exact ⟨_, _, rfl, Or.inl ⟨negative, fails idx _ inv room negative⟩⟩
      · rename_i fine
        have kept := keeps idx _ inv room fine
        split
        · rename_i more
          exact ih kept (Nat.dvd_add unit (Nat.dvd_refl width)) more (by omega)
        · rename_i last
          have done : idx + width = access.bytes := by omega
          exact ⟨0, _, rfl, Or.inr ⟨rfl, done ▸ kept⟩⟩

/-! ## The statement -/

/-- An access lies in the configuration space and in the transfer buffer. -/
def Touch.Inside (access : NvmeAccess) (touch : Touch) : Prop :=
  touch.offset + touch.width ≤ pciCfgSpaceExpSize ∧
    touch.index + touch.width ≤ access.bytes

/-- A read that is as it should be: the bytes from `offset` on, whatever the
type, and nothing else. -/
structure ReadExact (access : NvmeAccess) (before : AccessState)
    (result : Int × AccessState) : Prop where
  inside : ∀ touch ∈ result.2.touched, touch.Inside access
  moved : result.1 = 0 → result.2.user.read 0 access.bytes =
    before.config.read access.offset access.bytes
  config : result.2.config = before.config
  user : ∀ address, access.bytes ≤ address →
    result.2.user address = before.user address

/-- A write that is as it should be. -/
structure WriteExact (access : NvmeAccess) (before : AccessState)
    (result : Int × AccessState) : Prop where
  inside : ∀ touch ∈ result.2.touched, touch.Inside access
  moved : result.1 = 0 →
    result.2.config.read access.offset access.bytes =
      before.user.read 0 access.bytes
  config : ∀ address,
    ¬ (access.offset ≤ address ∧ address < access.offset + access.bytes) →
    result.2.config address = before.config address
  user : result.2.user = before.user

/-- The type that the library picks for the request. -/
def NvmeAccess.selected (access : NvmeAccess) : NvmeAccess :=
  { access with type := nvmeSelectAccessType access.offset access.bytes }

/-- A request is bounded and exact in every environment, and the library picks
a type that passes. -/
structure RegisterSound (access : NvmeAccess) : Prop where
  read : access.region = .pciConfig → ∀ env config bar user,
    ∃ result, dnvmeGenericRead env access ⟨config, bar, user, []⟩ =
      .ok result ∧ ReadExact access ⟨config, bar, user, []⟩ result
  write : access.region = .pciConfig → ∀ env config bar user,
    ∃ result, dnvmeGenericWrite env access ⟨config, bar, user, []⟩ =
      .ok result ∧ WriteExact access ⟨config, bar, user, []⟩ result
  selected : dnvmeCheckAccessAlign access.selected = 0

/-- An aligned request whose end has a carry that the range check does not
see. -/
structure Wraps (access : NvmeAccess) : Prop where
  region : access.region = .pciConfig
  aligned : dnvmeCheckAccessAlign access = 0
  unit : (configWidth access.type).isSome
  carry : 2 ^ 32 ≤ access.offset + access.bytes
  accepted : access.offset + access.bytes ≤ 2 ^ 32 + pciCfgSpaceExpSize

/-! ## Requests without a carry -/

section Aligned

variable {access : NvmeAccess}

theorem isAligned_and (bits x y : Nat) :
    (isAligned x (2 ^ bits) && isAligned y (2 ^ bits)) =
      decide (x % 2 ^ bits = 0 ∧ y % 2 ^ bits = 0) := by
  rw [isAligned, isAligned, Nat.and_two_pow_sub_one_eq_mod,
    Nat.and_two_pow_sub_one_eq_mod, Bool.decide_and]

/-- The type that the library picks passes the check of the driver. -/
theorem checkAccessAlign_selected (access : NvmeAccess) :
    dnvmeCheckAccessAlign access.selected = 0 := by
  have four : (isAligned access.offset 4 && isAligned access.bytes 4) = _ :=
    isAligned_and 2 access.offset access.bytes
  have two : (isAligned access.offset 2 && isAligned access.bytes 2) = _ :=
    isAligned_and 1 access.offset access.bytes
  unfold dnvmeCheckAccessAlign NvmeAccess.selected nvmeSelectAccessType
  rw [four, two]
  by_cases dwords : access.offset % 4 = 0 ∧ access.bytes % 4 = 0
  · simp [dwords.1, dwords.2]
  · by_cases words : access.offset % 2 = 0 ∧ access.bytes % 2 = 0
    · simp [dwords, words.1, words.2]
    · simp [dwords, words]

/-- An aligned request is made of whole units. -/
theorem whole_units {width : Nat} (aligned : dnvmeCheckAccessAlign access = 0)
    (unit : configWidth access.type = some width) :
    0 < width ∧ width ≤ 4 ∧ width ∣ access.bytes ∧ width ∣ access.offset := by
  have rejected : ¬ (-Errno.EINVAL : Int) = 0 := by decide
  unfold dnvmeCheckAccessAlign at aligned
  cases type : access.type with
  | byte =>
      rw [type] at unit
      cases unit
      exact ⟨by decide, by decide, one_dvd _, one_dvd _⟩
  | word =>
      rw [type] at unit aligned
      cases unit
      dsimp only at aligned
      split at aligned
      · exact absurd aligned rejected
      · rename_i both
        exact ⟨by decide, by decide, by omega, by omega⟩
  | dword =>
      rw [type] at unit aligned
      cases unit
      dsimp only at aligned
      split at aligned
      · exact absurd aligned rejected
      · rename_i both
        exact ⟨by decide, by decide, by omega, by omega⟩
  | qword =>
      rw [type] at unit
      cases unit
  | unknown value =>
      rw [type] at unit
      cases unit

/-- Without a carry the range check does what it says. -/
theorem fits_of_not_wraps {width : Nat} (plain : ¬ Wraps access)
    (region : access.region = .pciConfig)
    (aligned : dnvmeCheckAccessAlign access = 0)
    (unit : configWidth access.type = some width)
    (accepted : ¬ u32 (access.offset + access.bytes) > pciCfgSpaceExpSize) :
    access.offset + access.bytes ≤ pciCfgSpaceExpSize := by
  have offsetFit := access.offsetFit
  have bytesFit := access.bytesFit
  unfold u32 at accepted
  by_contra outside
  refine plain ⟨region, aligned, by rw [unit]; rfl, ?_, ?_⟩
  · omega
  · omega

/-- The rule for a request without a carry: every turn lies inside. -/
theorem configTransfer_rule (turn : Touch → Transfer → Int × Transfer)
    {Inv : Nat → Transfer → Prop} {Failed : Transfer → Prop}
    {transfer : Transfer} (plain : ¬ Wraps access)
    (region : access.region = .pciConfig)
    (aligned : dnvmeCheckAccessAlign access = 0) (some_ : access.bytes ≠ 0)
    (keeps : ∀ width idx before, Inv idx before →
      Touch.Inside access ⟨access.offset + idx, idx, width⟩ →
      ¬ (turn ⟨access.offset + idx, idx, width⟩ before).1 < 0 →
      Inv (idx + width) (turn ⟨access.offset + idx, idx, width⟩ before).2)
    (fails : ∀ width idx before, Inv idx before →
      Touch.Inside access ⟨access.offset + idx, idx, width⟩ →
      (turn ⟨access.offset + idx, idx, width⟩ before).1 < 0 →
      Failed (turn ⟨access.offset + idx, idx, width⟩ before).2)
    (start : Inv 0 transfer) (rejected : Failed transfer) :
    ∃ ret moved, configTransfer turn access transfer = .ok (ret, moved) ∧
      ((ret < 0 ∧ Failed moved) ∨ (ret = 0 ∧ Inv access.bytes moved)) := by
  have negative : (-Errno.EINVAL : Int) < 0 := by decide
  have bytesFit := access.bytesFit
  unfold configTransfer
  split
  · exact ⟨_, _, rfl, Or.inl ⟨negative, rejected⟩⟩
  rename_i accepted
  cases unit : configWidth access.type with
  | none => exact ⟨_, _, rfl, Or.inl ⟨negative, rejected⟩⟩
  | some width =>
      have fits := fits_of_not_wraps plain region aligned unit accepted
      have small : pciCfgSpaceExpSize < 2 ^ 32 := by decide
      obtain ⟨positive, _, whole, _⟩ := whole_units aligned unit
      have spot {idx : Nat} (room : idx + width ≤ access.bytes) :
          u32 (access.offset + idx) = access.offset + idx ∧
            Touch.Inside access ⟨access.offset + idx, idx, width⟩ :=
        ⟨Nat.mod_eq_of_lt (by omega),
          show access.offset + idx + width ≤ _ by omega, room⟩
      refine accessLoop_rule turn Failed positive whole ?_ ?_ _ start
        (dvd_zero width) (Nat.pos_of_ne_zero some_) (by omega)
      · intro idx before inv room fine
        rw [(spot room).1] at fine ⊢
        exact keeps width idx before inv (spot room).2 fine
      · intro idx before inv room failed
        rw [(spot room).1] at failed ⊢
        exact fails width idx before inv (spot room).2 failed

end Aligned

/-! ## Both directions -/

section Sound

variable {access : NvmeAccess} (status : PciStatus)

/-- The accesses so far lie inside. -/
def TouchedInside (access : NvmeAccess) (transfer : Transfer) : Prop :=
  ∀ touch ∈ transfer.touched, touch.Inside access

theorem TouchedInside.snoc {before after : Transfer} {touch : Touch}
    (earlier : TouchedInside access before) (inside : touch.Inside access)
    (grows : after.touched = before.touched ++ [touch]) :
    TouchedInside access after := by
  intro other member
  rw [grows, List.mem_append, List.mem_singleton] at member
  rcases member with old | rfl
  · exact earlier other old
  · exact inside

/-- The bytes below `idx` are in the transfer buffer. -/
structure ReadSoFar (access : NvmeAccess) (config : Memory) (idx : Nat)
    (transfer : Transfer) : Prop where
  space : transfer.space = config
  buf : transfer.buf.read 0 idx = config.read access.offset idx
  touched : TouchedInside access transfer

theorem ReadSoFar.next {config : Memory} {width idx : Nat}
    {before : Transfer} (soFar : ReadSoFar access config idx before)
    (inside : Touch.Inside access ⟨access.offset + idx, idx, width⟩)
    (fine : ¬ (readTurn status ⟨access.offset + idx, idx, width⟩ before).1 <
      0) :
    ReadSoFar access config (idx + width)
      (readTurn status ⟨access.offset + idx, idx, width⟩ before).2 := by
  refine ⟨soFar.space, ?_, soFar.touched.snoc inside rfl⟩
  have unit : (config.read (access.offset + idx) width).length = width :=
    length_read _ _ _
  unfold readTurn at fine ⊢
  dsimp only at fine ⊢
  rw [if_neg fine, soFar.space, read_add, read_add, Nat.zero_add,
    read_write_before _ _ _ (Nat.zero_add idx).le, soFar.buf]
  have written := read_write_self before.buf idx
    (config.read (access.offset + idx) width)
  rw [unit] at written
  rw [written]

/-- The bytes below `idx` are in the configuration space, and no others were
changed. -/
structure WrittenSoFar (access : NvmeAccess) (config buf : Memory)
    (idx : Nat) (transfer : Transfer) : Prop where
  kept : transfer.buf = buf
  space : transfer.space.read access.offset idx = buf.read 0 idx
  rest : ∀ address,
    ¬ (access.offset ≤ address ∧ address < access.offset + idx) →
    transfer.space address = config address
  touched : TouchedInside access transfer

theorem WrittenSoFar.next {config buf : Memory} {width idx : Nat}
    {before : Transfer} (soFar : WrittenSoFar access config buf idx before)
    (inside : Touch.Inside access ⟨access.offset + idx, idx, width⟩)
    (fine : ¬ (writeTurn status ⟨access.offset + idx, idx, width⟩ before).1 <
      0) :
    WrittenSoFar access config buf (idx + width)
      (writeTurn status ⟨access.offset + idx, idx, width⟩ before).2 := by
  have unit : (buf.read idx width).length = width := length_read _ _ _
  refine ⟨soFar.kept, ?_, ?_, soFar.touched.snoc inside rfl⟩
  · unfold writeTurn at fine ⊢
    dsimp only at fine ⊢
    rw [if_neg fine, soFar.kept, read_add, read_add, Nat.zero_add,
      read_write_before _ _ _ (le_refl _), soFar.space]
    have written := read_write_self before.space (access.offset + idx)
      (buf.read idx width)
    rw [unit] at written
    rw [written]
  · intro address outside
    unfold writeTurn at fine ⊢
    dsimp only at fine ⊢
    rw [if_neg fine, soFar.kept, write_outside _ (by rw [unit]; omega)]
    exact soFar.rest address (by omega)

theorem dnvmeReadFromConfig_sound (plain : ¬ Wraps access)
    (region : access.region = .pciConfig)
    (aligned : dnvmeCheckAccessAlign access = 0) (some_ : access.bytes ≠ 0)
    (config : Memory) :
    ∃ ret moved, dnvmeReadFromConfig status access
        ⟨config, fun _ => 0#8, []⟩ = .ok (ret, moved) ∧
      TouchedInside access moved ∧ (ret < 0 ∨
        ret = 0 ∧ moved.buf.read 0 access.bytes =
          config.read access.offset access.bytes) := by
  have fresh : TouchedInside access ⟨config, fun _ => 0#8, []⟩ :=
    fun _ none_ => absurd none_ List.not_mem_nil
  obtain ⟨ret, moved, done, ends⟩ := configTransfer_rule
    (readTurn status) plain region aligned some_
    (fun _ _ _ soFar inside fine => ReadSoFar.next status soFar inside fine)
    (fun _ _ _ soFar inside _ => soFar.touched.snoc inside rfl)
    (⟨rfl, rfl, fresh⟩ : ReadSoFar access config 0 _) fresh
  refine ⟨ret, moved, done, ?_⟩
  rcases ends with ⟨negative, inside⟩ | ⟨zero, soFar⟩
  · exact ⟨inside, Or.inl negative⟩
  · exact ⟨soFar.touched, Or.inr ⟨zero, soFar.buf⟩⟩

/-- What a write leaves alone, whether it fails or not. -/
structure WriteFramed (access : NvmeAccess) (config : Memory)
    (moved : Transfer) : Prop where
  rest : ∀ address,
    ¬ (access.offset ≤ address ∧ address < access.offset + access.bytes) →
    moved.space address = config address
  touched : TouchedInside access moved

theorem WrittenSoFar.framed {config buf : Memory} {idx : Nat}
    {moved : Transfer} (soFar : WrittenSoFar access config buf idx moved)
    (below : idx ≤ access.bytes) : WriteFramed access config moved :=
  ⟨fun address outside => soFar.rest address (by omega), soFar.touched⟩

theorem WrittenSoFar.failed {config buf : Memory} {width idx : Nat}
    {before : Transfer} (soFar : WrittenSoFar access config buf idx before)
    (inside : Touch.Inside access ⟨access.offset + idx, idx, width⟩)
    (failed : (writeTurn status ⟨access.offset + idx, idx, width⟩ before).1 <
      0) :
    WriteFramed access config
      (writeTurn status ⟨access.offset + idx, idx, width⟩ before).2 := by
  have framed := soFar.framed (le_trans (Nat.le_add_right _ _) inside.2)
  refine ⟨fun address outside => ?_, framed.touched.snoc inside rfl⟩
  unfold writeTurn at failed ⊢
  dsimp only at failed ⊢
  rw [if_pos failed]
  exact framed.rest address outside

theorem dnvmeWriteToConfig_sound (plain : ¬ Wraps access)
    (region : access.region = .pciConfig)
    (aligned : dnvmeCheckAccessAlign access = 0) (some_ : access.bytes ≠ 0)
    (config buf : Memory) :
    ∃ ret moved, dnvmeWriteToConfig status access ⟨config, buf, []⟩ =
        .ok (ret, moved) ∧ WriteFramed access config moved ∧
      (ret = 0 → moved.space.read access.offset access.bytes =
        buf.read 0 access.bytes) := by
  have fresh : TouchedInside access ⟨config, buf, []⟩ :=
    fun _ none_ => absurd none_ List.not_mem_nil
  have framed : WriteFramed access config ⟨config, buf, []⟩ :=
    ⟨fun _ _ => rfl, fresh⟩
  obtain ⟨ret, moved, done, ends⟩ := configTransfer_rule
    (writeTurn status) plain region aligned some_
    (fun _ _ _ soFar inside fine => WrittenSoFar.next status soFar inside fine)
    (fun _ _ _ soFar inside failed =>
      WrittenSoFar.failed status soFar inside failed)
    (⟨rfl, rfl, fun _ _ => rfl, fresh⟩ :
      WrittenSoFar access config buf 0 _) framed
  refine ⟨ret, moved, done, ?_⟩
  rcases ends with ⟨negative, framed⟩ | ⟨zero, soFar⟩
  · exact ⟨framed, fun zero => absurd zero (Int.ne_of_lt negative)⟩
  · exact ⟨soFar.framed (le_refl _), fun _ => soFar.space⟩

/-! ### The requests -/

variable {state : AccessState}

theorem ReadExact.refused {ret : Int} (fresh : state.touched = [])
    (nothing : ret ≠ 0 ∨ access.bytes = 0) :
    ReadExact access state (ret, state) := by
  refine ⟨fun touch member => ?_, fun zero => ?_, rfl, fun _ _ => rfl⟩
  · rw [fresh] at member
    exact absurd member List.not_mem_nil
  · rcases nothing with failed | empty
    · exact absurd zero failed
    · rw [empty]
      rfl

theorem WriteExact.refused {ret : Int} (fresh : state.touched = [])
    (nothing : ret ≠ 0 ∨ access.bytes = 0) :
    WriteExact access state (ret, state) := by
  refine ⟨fun touch member => ?_, fun zero => ?_, fun _ _ => rfl, rfl⟩
  · rw [fresh] at member
    exact absurd member List.not_mem_nil
  · rcases nothing with failed | empty
    · exact absurd zero failed
    · rw [empty]
      rfl

/-- The check of the alignment returns an error or nothing. -/
theorem checkAccessAlign_cases (access : NvmeAccess) :
    dnvmeCheckAccessAlign access = 0 ∨ dnvmeCheckAccessAlign access < 0 := by
  have negative : (-Errno.EINVAL : Int) < 0 := by decide
  unfold dnvmeCheckAccessAlign
  split
  · split
    · exact Or.inr negative
    · exact Or.inl rfl
  · split
    · exact Or.inr negative
    · exact Or.inl rfl
  · split
    · exact Or.inr negative
    · exact Or.inl rfl
  · exact Or.inl rfl
  · exact Or.inl rfl

theorem dnvmeGenericRead_sound (plain : ¬ Wraps access)
    (region : access.region = .pciConfig) (env : AccessEnv)
    (config bar user : Memory) :
    ∃ result, dnvmeGenericRead env access ⟨config, bar, user, []⟩ =
      .ok result ∧ ReadExact access ⟨config, bar, user, []⟩ result := by
  unfold dnvmeGenericRead
  dsimp only
  split
  · exact ⟨_, rfl, .refused rfl (Or.inl (by decide))⟩
  split
  · rename_i empty
    exact ⟨_, rfl, .refused rfl (Or.inr empty)⟩
  rename_i some_
  split
  · rename_i negative
    exact ⟨_, rfl, .refused rfl (Or.inl (Int.ne_of_lt negative))⟩
  rename_i passed
  have aligned := (checkAccessAlign_cases access).resolve_right passed
  split
  · exact ⟨_, rfl, .refused rfl (Or.inl (by decide))⟩
  obtain ⟨ret, moved, done, inside, ends⟩ := dnvmeReadFromConfig_sound
    env.status plain region aligned some_ config
  rw [region]
  dsimp only
  rw [done]
  dsimp only
  split
  · rename_i negative
    exact ⟨_, rfl, inside, fun zero => absurd zero (Int.ne_of_lt negative),
      rfl, fun _ _ => rfl⟩
  rename_i fine
  split
  · have faulted : (-Errno.EFAULT : Int) ≠ 0 := by decide
    exact ⟨_, rfl, inside, fun zero => absurd zero faulted, rfl,
      fun _ _ => rfl⟩
  have moves := (ends.resolve_left fine).2
  have length : (moved.buf.read 0 access.bytes).length = access.bytes :=
    length_read _ _ _
  refine ⟨_, rfl, inside, fun _ => ?_, rfl, fun address outside => ?_⟩
  · have written := read_write_self user 0 (moved.buf.read 0 access.bytes)
    rw [length] at written
    exact written.trans moves
  · exact @write_outside user 0 _ address (by rw [length]; omega)

theorem dnvmeGenericWrite_sound (plain : ¬ Wraps access)
    (region : access.region = .pciConfig) (env : AccessEnv)
    (config bar user : Memory) :
    ∃ result, dnvmeGenericWrite env access ⟨config, bar, user, []⟩ =
      .ok result ∧ WriteExact access ⟨config, bar, user, []⟩ result := by
  unfold dnvmeGenericWrite
  dsimp only
  split
  · exact ⟨_, rfl, .refused rfl (Or.inl (by decide))⟩
  split
  · rename_i empty
    exact ⟨_, rfl, .refused rfl (Or.inr empty)⟩
  rename_i some_
  split
  · rename_i negative
    exact ⟨_, rfl, .refused rfl (Or.inl (Int.ne_of_lt negative))⟩
  rename_i passed
  have aligned := (checkAccessAlign_cases access).resolve_right passed
  split
  · exact ⟨_, rfl, .refused rfl (Or.inl (by decide))⟩
  split
  · exact ⟨_, rfl, .refused rfl (Or.inl (by decide))⟩
  have copied := read_write_self (fun _ => 0#8) 0 (user.read 0 access.bytes)
  rw [length_read] at copied
  obtain ⟨ret, moved, done, framed, moves⟩ := dnvmeWriteToConfig_sound
    env.status plain region aligned some_ config
    (Memory.write (fun _ => 0#8) 0 (user.read 0 access.bytes))
  rw [region]
  dsimp only
  rw [done]
  exact ⟨_, rfl, framed.touched, fun zero => (moves zero).trans copied,
    framed.rest, rfl⟩

end Sound

/-! ## Requests with a carry -/

section Carry

variable {access : NvmeAccess}

/-- Everything works. -/
def smoothAccess : AccessEnv := ⟨true, true, true, fun _ _ => 0⟩

/-- All units below `idx` were accessed. -/
structure AllTouched (access : NvmeAccess) (width idx : Nat)
    (transfer : Transfer) : Prop where
  whole : width ∣ idx
  touched : ∀ index, width ∣ index → index < idx →
    ⟨u32 (access.offset + index), index, width⟩ ∈ transfer.touched

theorem AllTouched.next {width idx : Nat} {before : Transfer}
    (earlier : AllTouched access width idx before) :
    AllTouched access width (idx + width)
      (readTurn (fun _ _ => 0) ⟨u32 (access.offset + idx), idx, width⟩
        before).2 := by
  refine ⟨Nat.dvd_add earlier.whole (dvd_refl width), ?_⟩
  intro index unit below
  refine List.mem_append.mpr ?_
  by_cases old : index < idx
  · exact Or.inl (earlier.touched index unit old)
  · have same := Nat.eq_zero_of_dvd_of_lt (Nat.dvd_sub unit earlier.whole)
      (show index - idx < width by omega)
    obtain rfl : index = idx := by omega
    exact Or.inr (List.mem_singleton.mpr rfl)

/-- When no access fails, a read makes all of them. -/
theorem readLoop_touches {width : Nat} (positive : 0 < width)
    (whole : width ∣ access.bytes) (some_ : access.bytes ≠ 0)
    (transfer : Transfer) :
    ∃ moved, accessLoop (readTurn fun _ _ => 0) access width (2 ^ 32) 0
        transfer = .ok (0, moved) ∧
      AllTouched access width access.bytes moved := by
  have bytesFit := access.bytesFit
  have start : AllTouched access width 0 transfer :=
    ⟨dvd_zero width, fun _ _ below => absurd below (Nat.not_lt_zero _)⟩
  obtain ⟨ret, moved, done, ends⟩ := accessLoop_rule (readTurn fun _ _ => 0)
    (fun _ => False) positive whole
    (fun _ _ earlier _ _ => AllTouched.next earlier)
    (fun _ _ _ _ negative => absurd negative (Int.lt_irrefl 0))
    (2 ^ 32) start (dvd_zero width) (Nat.pos_of_ne_zero some_) (by omega)
  rcases ends with ⟨_, never⟩ | ⟨rfl, all⟩
  · exact never.elim
  · exact ⟨moved, done, all⟩

/-- Some unit of a request with a carry lies outside. -/
theorem Wraps.outside {width : Nat} (wraps : Wraps access) (small : width ≤ 4)
    (positive : 0 < width) :
    ∃ index, width ∣ index ∧ index < access.bytes ∧
      ¬ Touch.Inside access
        ⟨u32 (access.offset + index), index, width⟩ := by
  have carry := wraps.carry
  have offsetFit := access.offsetFit
  have limit : pciCfgSpaceExpSize = 4096 := rfl
  by_cases far : 4096 ≤ access.offset
  · refine ⟨0, dvd_zero width, by omega, fun inside => ?_⟩
    have bound : u32 (access.offset + 0) + width ≤ 4096 := inside.1
    unfold u32 at bound
    omega
  · refine ⟨width * 4096, dvd_mul_right width 4096, by omega,
      fun inside => ?_⟩
    have bound : u32 (access.offset + width * 4096) + width ≤ 4096 :=
      inside.1
    unfold u32 at bound
    omega

/-- A read with a carry that meets no failure leaves the configuration
space. -/
theorem Wraps.not_sound (wraps : Wraps access) : ¬ RegisterSound access := by
  intro sound
  obtain ⟨result, done, exact_⟩ := sound.read wraps.region smoothAccess
    (fun _ => 0#8) (fun _ => 0#8) (fun _ => 0#8)
  obtain ⟨width, unit⟩ := Option.isSome_iff_exists.mp wraps.unit
  obtain ⟨positive, small, whole, _⟩ := whole_units wraps.aligned unit
  have offsetFit := access.offsetFit
  have carry := wraps.carry
  have accepted := wraps.accepted
  have some_ : access.bytes ≠ 0 := by omega
  have passes : ¬ u32 (access.offset + access.bytes) > pciCfgSpaceExpSize := by
    have limit : pciCfgSpaceExpSize = 4096 := rfl
    unfold u32
    omega
  obtain ⟨moved, moves, all⟩ := readLoop_touches positive whole some_
    ⟨fun _ => 0#8, fun _ => 0#8, []⟩
  obtain ⟨index, multiple, below, outside⟩ := wraps.outside small positive
  refine outside (exact_.inside _ ?_)
  have read : dnvmeReadFromConfig smoothAccess.status access
      ⟨fun _ => 0#8, fun _ => 0#8, []⟩ = .ok (0, moved) := by
    unfold dnvmeReadFromConfig configTransfer
    rw [if_neg passes, unit]
    exact moves
  unfold dnvmeGenericRead at done
  rw [wraps.aligned, wraps.region, read] at done
  rw [if_neg (by decide), if_neg some_] at done
  cases done
  exact all.touched index multiple below

end Carry

/-- A request is bounded and exact unless the sum of its offset and length has
a carry that brings it back into the configuration space. -/
theorem register_access_sound_iff (access : NvmeAccess) :
    RegisterSound access ↔ ¬ Wraps access :=
  ⟨fun sound wraps => wraps.not_sound sound, fun plain =>
    ⟨dnvmeGenericRead_sound plain, dnvmeGenericWrite_sound plain,
      checkAccessAlign_selected access⟩⟩

/-- The last doubleword below 4 GiB. -/
def lastDword : NvmeAccess :=
  ⟨.pciConfig, .dword, 4, 0xfffffffc, by decide, by decide⟩

/-- The range check accepts the last doubleword below 4 GiB. -/
theorem register_access_wraps : ¬ ∀ access, RegisterSound access := by
  intro all
  have wraps : Wraps lastDword :=
    ⟨rfl, by decide, by decide, by decide, by decide⟩
  exact wraps.not_sound (all lastDword)

end Dnvme.Driver.ConfigAccess
