import Dnvme.App.E2eProtect

/-!
# Storage and reference tags

The storage tag and the reference tag share one space whose border moves with
the format.  This module says when `fill_cmd_tags` packs them as it should and
that the loops advance the reference tag by one for each block and leave the
storage tag alone.
-/

namespace Dnvme.App.E2eTags

open Dnvme.Crc.Calculate
open Dnvme.Lib.ByteMemory
open Dnvme.App.E2eProtect

/-! ## Bits -/

section Bits

variable {width : Nat}

/-- The mask of the lowest bits. -/
def lowMask (width rts : Nat) : BitVec width :=
  BitVec.ofNat width (2 ^ rts - 1)

theorem getLsbD_lowMask (rts index : Nat) :
    (lowMask width rts).getLsbD index =
      (decide (index < width) && decide (index < rts)) := by
  rw [lowMask, BitVec.getLsbD_ofNat, Nat.testBit_two_pow_sub_one]

theorem getLsbD_lower32Bits (n : BitVec 64) (index : Nat) :
    (lower32Bits n).getLsbD index =
      (decide (index < 32) && n.getLsbD index) := by
  have mask : (0xffffffff#64).getLsbD index = decide (index < 32) := by
    rw [BitVec.getLsbD_ofNat, show 0xffffffff = 2 ^ 32 - 1 from rfl,
      Nat.testBit_two_pow_sub_one]
    by_cases low : index < 32
    · simp [low, show index < 64 by omega]
    · simp [low]
  rw [lower32Bits, BitVec.getLsbD_setWidth, BitVec.getLsbD_and, mask]
  cases decide (index < 32)
  · simp
  · simp

theorem getLsbD_upper32Bits (n : BitVec 64) (index : Nat) :
    (upper32Bits n).getLsbD index =
      (decide (index < 32) && n.getLsbD (32 + index)) := by
  rw [upper32Bits, BitVec.getLsbD_setWidth, BitVec.getLsbD_ushiftRight,
    BitVec.getLsbD_ushiftRight]
  congr 2
  omega

/-- Masking with `0xffff` keeps the lowest 16 bits. -/
theorem getLsbD_and_low16 (word : BitVec width) {index : Nat}
    (below : index < 16) :
    (word &&& BitVec.ofNat width 0xffff).getLsbD index =
      word.getLsbD index := by
  rw [BitVec.getLsbD_and, BitVec.getLsbD_ofNat,
    show 0xffff = 2 ^ 16 - 1 from rfl, Nat.testBit_two_pow_sub_one,
    decide_eq_true below, Bool.and_true]
  by_cases inside : index < width
  · simp [inside]
  · simp [inside, BitVec.getLsbD_of_ge word index (not_lt.mp inside)]

/-- The mask of the source is the mask of the lowest bits. -/
theorem refTagMask_eq {rts : Nat} (fits : rts ≤ width) :
    refTagMask width rts = .ok (lowMask width rts) := by
  unfold refTagMask
  split
  · rename_i whole
    congr 1
    apply BitVec.eq_of_getLsbD_eq
    intro index below
    rw [getLsbD_lowMask, BitVec.getLsbD_allOnes, whole]
    simp
  · split
    · rename_i zero
      rw [zero, lowMask]
      rfl
    · rename_i part positive
      have inside : (0 : Int) ≤ (width : Int) - rts ∧
          (width : Int) - rts < width := by omega
      have count : ((width : Int) - rts).toNat = width - rts := by omega
      have left : shiftLeft (BitVec.allOnes width) ((width : Int) - rts) =
          .ok (BitVec.allOnes width <<< (width - rts)) := by
        rw [shiftLeft, if_pos inside, count]
      have right (high : BitVec width) :
          shiftRight high ((width : Int) - rts) =
            .ok (high >>> (width - rts)) := by
        rw [shiftRight, if_pos inside, count]
      rw [left]
      refine (right _).trans (congrArg Except.ok ?_)
      apply BitVec.eq_of_getLsbD_eq
      intro index below
      rw [getLsbD_lowMask, BitVec.getLsbD_ushiftRight,
        BitVec.getLsbD_shiftLeft, BitVec.getLsbD_allOnes]
      by_cases low : index < rts
      · simp [low, below, show width - rts + index < width by omega]
      · simp [low, show ¬ width - rts + index < width by omega]

/-- A storage tag above a reference tag of `rts` bits, in `size` bits. -/
def packed (size rts : Nat) (storage ref : BitVec 64) : Nat :=
  (storage.toNat * 2 ^ rts + ref.toNat % 2 ^ rts) % 2 ^ size

theorem testBit_packed (size rts : Nat) (storage ref : BitVec 64)
    (index : Nat) :
    (packed size rts storage ref).testBit index =
      (decide (index < size) &&
        if index < rts then ref.getLsbD index
        else storage.getLsbD (index - rts)) := by
  have small := Nat.mod_lt ref.toNat (Nat.two_pow_pos rts)
  rw [packed, Nat.testBit_mod_two_pow, Nat.mul_comm,
    Nat.testBit_two_pow_mul_add _ small, Nat.testBit_mod_two_pow]
  congr 1
  split
  · rename_i low
    rw [decide_eq_true low, Bool.true_and, BitVec.testBit_toNat]
  · exact BitVec.testBit_toNat _

/-- A word holds the packed tags if it has their bits. -/
theorem toNat_eq_packed {rts : Nat} {storage ref : BitVec 64}
    {word : BitVec width}
    (bits : ∀ index, index < width → word.getLsbD index =
      if index < rts then ref.getLsbD index
      else storage.getLsbD (index - rts)) :
    word.toNat = packed width rts storage ref := by
  apply Nat.eq_of_testBit_eq
  intro index
  rw [testBit_packed, BitVec.testBit_toNat]
  by_cases inside : index < width
  · rw [bits index inside, decide_eq_true inside, Bool.true_and]
  · rw [BitVec.getLsbD_of_ge _ _ (not_lt.mp inside),
      decide_eq_false inside, Bool.false_and]

end Bits

/-! ## Packing -/

/-- The space of the two tags in the dwords of a command. -/
def srSpace (pif : Nat) (wrap : NvmeRwcWrapper) : Nat :=
  if pif = pifGuard16 then wrap.dw14.toNat
  else if pif = pifGuard32 then
    (wrap.dw2.setWidth 16 ++ wrap.dw3 ++ wrap.dw14).toNat
  else (wrap.dw3.setWidth 16 ++ wrap.dw14).toNat

/-- The number of bits of that space. -/
def srSize (pif : Nat) : Nat :=
  if pif = pifGuard16 then 32 else if pif = pifGuard32 then 80 else 48

section Words

variable {width : Nat} (x : BitVec width)

theorem shiftLeft_eq {count : Nat} (below : count < width) :
    shiftLeft x count = .ok (x <<< count) := by
  rw [shiftLeft, if_pos (by omega), Int.toNat_natCast]

theorem shiftRight_eq {count : Nat} (below : count < width) :
    shiftRight x count = .ok (x >>> count) := by
  rw [shiftRight, if_pos (by omega), Int.toNat_natCast]

/-- The bit `index` of the packed tags. -/
def packedBit (rts : Nat) (storage ref : BitVec 64) (index : Nat) : Bool :=
  if index < rts then ref.getLsbD index else storage.getLsbD (index - rts)

variable {rts : Nat} {storage ref : BitVec 64}

/-- Three words hold the packed tags if each holds its part. -/
theorem three_words_packed {high middle low : BitVec 32}
    (lowest : ∀ index, index < 32 →
      low.getLsbD index = packedBit rts storage ref index)
    (next : ∀ index, index < 32 →
      middle.getLsbD index = packedBit rts storage ref (32 + index))
    (highest : ∀ index, index < 16 →
      high.getLsbD index = packedBit rts storage ref (64 + index)) :
    (high.setWidth 16 ++ middle ++ low).toNat =
      packed 80 rts storage ref := by
  refine toNat_eq_packed fun index below => ?_
  rw [BitVec.getLsbD_append, BitVec.getLsbD_append]
  split
  · rename_i here
    exact lowest index here
  · split
    · rename_i here
      rw [next _ here, show 32 + (index - 32) = index by omega]
      rfl
    · rw [BitVec.getLsbD_setWidth, highest _ (by omega),
        decide_eq_true (by omega), Bool.true_and,
        show 64 + (index - 32 - 32) = index by omega]
      rfl

/-- Two words hold the packed tags if each holds its part. -/
theorem two_words_packed {high low : BitVec 32}
    (lowest : ∀ index, index < 32 →
      low.getLsbD index = packedBit rts storage ref index)
    (highest : ∀ index, index < 16 →
      high.getLsbD index = packedBit rts storage ref (32 + index)) :
    (high.setWidth 16 ++ low).toNat = packed 48 rts storage ref := by
  refine toNat_eq_packed fun index below => ?_
  rw [BitVec.getLsbD_append]
  split
  · rename_i here
    exact lowest index here
  · rw [BitVec.getLsbD_setWidth, highest _ (by omega),
      decide_eq_true (by omega), Bool.true_and,
      show 32 + (index - 32) = index by omega]
    rfl

/-- A reference tag below the border of the lowest word. -/
theorem low_word_split (border : rts ≤ 32) {index : Nat} (below : index < 32) :
    ((lower32Bits ref &&& (lowMask 64 rts).setWidth 32) |||
        (lower32Bits storage <<< rts)).getLsbD index =
      packedBit rts storage ref index := by
  unfold packedBit
  rw [BitVec.getLsbD_or, BitVec.getLsbD_and, BitVec.getLsbD_shiftLeft,
    BitVec.getLsbD_setWidth, getLsbD_lowMask, getLsbD_lower32Bits,
    getLsbD_lower32Bits]
  by_cases low : index < rts
  · simp [low, below, show index < 64 by omega]
  · simp [low, below, show index - rts < 32 by omega]

/-- A reference tag that fills the lowest word. -/
theorem low_word_whole (border : 32 ≤ rts) {index : Nat} (below : index < 32) :
    (lower32Bits ref).getLsbD index = packedBit rts storage ref index := by
  rw [packedBit, if_pos (by omega), getLsbD_lower32Bits,
    decide_eq_true below, Bool.true_and]

/-- The second word when the border lies in it. -/
theorem middle_word_split (above : 32 ≤ rts) (border : rts ≤ 64)
    {index : Nat} (below : index < 32) :
    ((upper32Bits ref &&& upper32Bits (lowMask 64 rts)) |||
        (lower32Bits storage <<< (rts - 32))).getLsbD index =
      packedBit rts storage ref (32 + index) := by
  unfold packedBit
  rw [BitVec.getLsbD_or, BitVec.getLsbD_and, BitVec.getLsbD_shiftLeft,
    getLsbD_upper32Bits, getLsbD_upper32Bits, getLsbD_lowMask,
    getLsbD_lower32Bits]
  by_cases low : 32 + index < rts
  · simp [low, below, show 32 + index < 64 by omega,
      show index < rts - 32 by omega]
  · simp [low, below, show ¬ index < rts - 32 by omega,
      show index - (rts - 32) = 32 + index - rts by omega,
      show 32 + index - rts < 32 by omega]

/-- What is left of the storage tag above a word. -/
theorem rest_word {border : Nat} (inside : rts ≤ border) {index : Nat}
    (below : index < 32) :
    (lower32Bits (storage >>> (border - rts))).getLsbD index =
      packedBit rts storage ref (border + index) := by
  rw [packedBit, if_neg (by omega), getLsbD_lower32Bits,
    BitVec.getLsbD_ushiftRight, decide_eq_true below, Bool.true_and,
    show border - rts + index = border + index - rts by omega]

theorem rest_upper_word {border : Nat} (inside : rts ≤ border) {index : Nat}
    (below : index < 32) :
    (upper32Bits (storage >>> (border - rts))).getLsbD index =
      packedBit rts storage ref (border + 32 + index) := by
  rw [packedBit, if_neg (by omega), getLsbD_upper32Bits,
    BitVec.getLsbD_ushiftRight, decide_eq_true below, Bool.true_and,
    show border - rts + (32 + index) = border + 32 + index - rts by omega]

end Words

section Packing

variable {wrap : NvmeRwcWrapper} {data : TagData} {storage : BitVec 64}

theorem fillCmdTags32_packs (fits : data.curRts ≤ 64) :
    ∃ out, fillCmdTags32 wrap data storage = .ok out ∧
      (out.dw2.setWidth 16 ++ out.dw3 ++ out.dw14).toNat =
        packed 80 data.curRts storage data.refTag := by
  unfold fillCmdTags32
  rw [refTagMask_eq fits]
  generalize data.curRts = rts at *
  change ∃ out, (if rts = 32 then _ else _) = _ ∧ _
  by_cases middle : rts = 32
  · rw [if_pos middle]
    refine ⟨_, rfl, three_words_packed
      (fun index below => low_word_whole (by omega) below)
      (fun index below => ?_) fun index below => ?_⟩
    · have rest := @rest_word rts storage data.refTag 32 (by omega) index below
      rw [middle, Nat.sub_self, BitVec.ushiftRight_zero] at rest
      rw [middle]
      exact rest
    · have rest := @rest_upper_word rts storage data.refTag 32 (by omega)
        index (by omega)
      rw [middle, Nat.sub_self, BitVec.ushiftRight_zero] at rest
      rw [middle, getLsbD_and_low16 _ below]
      exact rest
  · rw [if_neg middle]
    by_cases whole : rts = 64
    · rw [if_pos whole]
      refine ⟨_, rfl, three_words_packed
        (fun index below => low_word_whole (by omega) below)
        (fun index below => ?_) fun index below => ?_⟩
      · rw [packedBit, if_pos (by omega), getLsbD_upper32Bits,
          decide_eq_true below, Bool.true_and]
      · have masked := getLsbD_and_low16 storage below
        rw [packedBit, if_neg (by omega), BitVec.getLsbD_setWidth,
          decide_eq_true (by omega), Bool.true_and, masked,
          show 64 + index - rts = index by omega]
    · rw [if_neg whole]
      by_cases small : rts < 32
      · rw [if_pos small, shiftLeft_eq _ small,
          show (32 : Int) - rts = (32 - rts : Nat) by omega,
          shiftRight_eq _ (by omega)]
        refine ⟨_, rfl, three_words_packed
          (fun index below => low_word_split (by omega) below)
          (fun index below => rest_word (by omega) below)
          fun index below => ?_⟩
        rw [getLsbD_and_low16 _ below]
        exact rest_upper_word (by omega) (by omega)
      · rw [if_neg small,
          show (rts : Int) - 32 = (rts - 32 : Nat) by omega,
          shiftLeft_eq _ (by omega),
          show (64 : Int) - rts = (64 - rts : Nat) by omega,
          shiftRight_eq _ (by omega)]
        refine ⟨_, rfl, three_words_packed
          (fun index below => low_word_whole (by omega) below)
          (fun index below => middle_word_split (by omega) fits below)
          fun index below => ?_⟩
        rw [getLsbD_and_low16 _ below]
        exact rest_word (by omega) (by omega)

theorem fillCmdTags64_packs (fits : data.curRts ≤ 48) :
    ∃ out, fillCmdTags64 wrap data storage = .ok out ∧
      (out.dw3.setWidth 16 ++ out.dw14).toNat =
        packed 48 data.curRts storage data.refTag := by
  unfold fillCmdTags64
  rw [refTagMask_eq (fits.trans (by decide))]
  generalize data.curRts = rts at *
  change ∃ out, (if rts = 32 then _ else _) = _ ∧ _
  by_cases middle : rts = 32
  · rw [if_pos middle]
    refine ⟨_, rfl, two_words_packed
      (fun index below => low_word_whole (by omega) below)
      fun index below => ?_⟩
    have rest := @rest_word rts storage data.refTag 32 (by omega) index
      (by omega)
    rw [middle, Nat.sub_self, BitVec.ushiftRight_zero] at rest
    rw [middle, getLsbD_and_low16 _ below]
    exact rest
  · rw [if_neg middle]
    by_cases small : rts < 32
    · rw [if_pos small, shiftLeft_eq _ small,
        show (32 : Int) - rts = (32 - rts : Nat) by omega,
        shiftRight_eq _ (by omega)]
      refine ⟨_, rfl, two_words_packed
        (fun index below => low_word_split (by omega) below)
        fun index below => ?_⟩
      rw [getLsbD_and_low16 _ below]
      exact rest_word (by omega) (by omega)
    · rw [if_neg small,
        show (rts : Int) - 32 = (rts - 32 : Nat) by omega,
        shiftLeft_eq _ (by omega)]
      refine ⟨_, rfl, two_words_packed
        (fun index below => low_word_whole (by omega) below)
        fun index below => ?_⟩
      rw [getLsbD_and_low16 _ below]
      exact middle_word_split (by omega) (by omega) (by omega)

end Packing

section PackingByFormat

variable {wrap : NvmeRwcWrapper} {data : TagData} {storage : BitVec 64}

theorem lowMask_setWidth (rts : Nat) :
    (lowMask 64 rts).setWidth 32 = lowMask 32 rts := by
  apply BitVec.eq_of_getLsbD_eq
  intro index below
  rw [BitVec.getLsbD_setWidth, getLsbD_lowMask, getLsbD_lowMask]
  simp [below, show index < 64 by omega]

/-- The 16b branch with a border inside the word. -/
theorem fillCmdTags16_packs (fits : data.curRts < 32)
    (small : data.curSts ≠ 32) :
    ∃ out, fillCmdTags16 wrap data storage = .ok out ∧
      out.dw14.toNat = packed 32 data.curRts storage data.refTag := by
  unfold fillCmdTags16
  rw [refTagMask_eq fits.le]
  change ∃ out, (if data.curSts = 32 then _ else _) = _ ∧ _
  rw [if_neg small, shiftLeft_eq _ fits]
  refine ⟨_, rfl, toNat_eq_packed fun index below => ?_⟩
  rw [← lowMask_setWidth]
  exact low_word_split fits.le below

/-- The 16b branch without a reference tag. -/
theorem fillCmdTags16_whole (none_ : data.curRts = 0)
    (whole : data.curSts = 32) :
    fillCmdTags16 wrap data storage =
      .ok { wrap with dw14 := lower32Bits data.refTag } := by
  unfold fillCmdTags16
  rw [refTagMask_eq (by omega)]
  exact if_pos whole

/-- The 16b branch without a storage tag. -/
theorem fillCmdTags16_faults (all : data.curRts = 32)
    (none_ : data.curSts = 0) :
    fillCmdTags16 wrap data storage = .error .shiftOutOfRange := by
  unfold fillCmdTags16
  rw [refTagMask_eq (by omega)]
  change (if data.curSts = 32 then _ else _) = _
  rw [if_neg (by omega), shiftLeft, if_neg (by omega)]
  rfl

theorem packed_of_rts_zero (storage ref : BitVec 64) :
    packed 32 0 storage ref = (lower32Bits storage).toNat := by
  symm
  refine toNat_eq_packed fun index below => ?_
  rw [if_neg (Nat.not_lt_zero _), getLsbD_lower32Bits, decide_eq_true below,
    Bool.true_and, Nat.sub_zero]

/-- No shift is out of range and the tags are packed: the storage tag under
its mask above the lowest bits of the reference tag. -/
def Packs (wrap : NvmeRwcWrapper) (data : TagData) (slba : BitVec 64) :
    Prop :=
  ∃ out, fillCmdTags wrap data slba = .ok (out, data.forSlba slba) ∧
    srSpace data.curPif out = packed (srSize data.curPif) data.curRts
      (data.storageTag &&& data.storageTagMask) (data.forSlba slba).refTag

theorem forSlba_format (data : TagData) (slba : BitVec 64) :
    (data.forSlba slba).curPif = data.curPif ∧
      (data.forSlba slba).curSts = data.curSts ∧
      (data.forSlba slba).curRts = data.curRts := by
  unfold TagData.forSlba
  split
  · exact ⟨rfl, rfl, rfl⟩
  · exact ⟨rfl, rfl, rfl⟩

/-- The sizes that `get_reference_tag_size` accepts. -/
theorem getReferenceTagSize_cases {pif sts rts : Nat}
    (size : getReferenceTagSize pif sts = rts) :
    (pif = pifGuard16 ∧ sts ≤ 32 ∧ rts = 32 - sts) ∨
      (pif = pifGuard32 ∧ 16 ≤ sts ∧ sts ≤ 64 ∧ rts = 80 - sts) ∨
      (pif = pifGuard64 ∧ sts ≤ 48 ∧ rts = 48 - sts) := by
  unfold getReferenceTagSize eInval at size
  split at size
  · rename_i first
    exact Or.inl ⟨first, by split at size <;> omega,
      by split at size <;> omega⟩
  · split at size
    · rename_i second
      refine Or.inr (Or.inl ⟨second, ?_⟩)
      split at size
      · omega
      · omega
    · split at size
      · rename_i third
        refine Or.inr (Or.inr ⟨third, ?_⟩)
        split at size
        · omega
        · omega
      · omega

/--
`fill_cmd_tags` packs the tags of the 32b and 64b guards always.  With the 16b
guard it does so when both tags have bits; without a storage tag it shifts by
the whole width, and without a reference tag it stores that one all the same.
-/
theorem fill_cmd_tags_packs_iff {slba : BitVec 64}
    (size : getReferenceTagSize data.curPif data.curSts = data.curRts) :
    Packs wrap data slba ↔
      data.curPif ≠ pifGuard16 ∨ (0 < data.curSts ∧ data.curSts < 32) ∨
        (data.curSts = 32 ∧
          lower32Bits (data.storageTag &&& data.storageTagMask) =
            lower32Bits (data.forSlba slba).refTag) := by
  obtain ⟨pif, sts, rts⟩ := forSlba_format data slba
  unfold Packs fillCmdTags
  dsimp only
  rw [pif]
  generalize (data.storageTag &&& data.storageTagMask) = storage
  generalize data.forSlba slba = final at *
  rcases getReferenceTagSize_cases size with
    ⟨first, most, same⟩ | ⟨second, _, _, same⟩ | ⟨third, _, same⟩
  · rw [first] at pif ⊢
    simp only [srSpace, srSize, if_true, ne_eq, not_true, false_or]
    by_cases none_ : data.curSts = 0
    · rw [fillCmdTags16_faults (by omega) (by omega)]
      refine iff_of_false ?_ (by omega)
      rintro ⟨out, done, _⟩
      cases done
    · by_cases whole : data.curSts = 32
      · have zero : data.curRts = 0 := by omega
        rw [fillCmdTags16_whole (by omega) (by omega), zero,
          packed_of_rts_zero]
        constructor
        · rintro ⟨out, done, equal⟩
          cases done
          exact Or.inr ⟨whole, (BitVec.eq_of_toNat_eq equal).symm⟩
        · rintro (inside | ⟨_, equal⟩)
          · omega
          · exact ⟨_, rfl, by rw [equal]⟩
      · obtain ⟨out, done, equal⟩ := @fillCmdTags16_packs wrap final storage
          (by omega) (by omega)
        rw [done, ← rts]
        exact iff_of_true ⟨out, rfl, equal⟩ (by omega)
  · obtain ⟨out, done, equal⟩ := @fillCmdTags32_packs wrap final storage
      (by omega)
    rw [second, done, ← rts]
    refine iff_of_true ⟨out, rfl, ?_⟩ (Or.inl (by decide))
    exact equal
  · obtain ⟨out, done, equal⟩ := @fillCmdTags64_packs wrap final storage
      (by omega)
    rw [third, done, ← rts]
    refine iff_of_true ⟨out, rfl, ?_⟩ (Or.inl (by decide))
    exact equal

end PackingByFormat

/-- A 16b guard with tags of 8 and 24 bits. -/
def splitTags : TagData :=
  ⟨512, 8, 0x12#64, 0xff#64, 0x345678#64, true, pifGuard16, 8, 24, 2⟩

/-- The wrapper of a command before its tags are filled. -/
def emptyWrapper : NvmeRwcWrapper := ⟨1, 0#16, 0#16, 0#32, 0#32, 0#32⟩

theorem fill_cmd_tags_packs_split : Packs emptyWrapper splitTags 0#64 :=
  (fill_cmd_tags_packs_iff (by decide)).mpr
    (Or.inr (Or.inl ⟨by decide, by decide⟩))

/-- A 16b guard whose whole space is the storage tag. -/
def wholeStorageTag : TagData :=
  ⟨512, 8, 0x12345678#64, 0xffffffff#64, 0x9abcdef0#64, true, pifGuard16,
    32, 0, 2⟩

/-- A 16b guard whose whole space is the reference tag. -/
def wholeRefTag : TagData :=
  ⟨512, 8, 0x12345678#64, 0xffffffff#64, 0x9abcdef0#64, true, pifGuard16,
    0, 32, 2⟩

/-- The reference tag is stored in place of the storage tag, and without a
storage tag the shift is out of range. -/
theorem tags_packed_wrongly :
    (fillCmdTags emptyWrapper wholeStorageTag 0#64 =
        .ok ({ emptyWrapper with dw14 := 0x9abcdef0#32 }, wholeStorageTag) ∧
      ¬ Packs emptyWrapper wholeStorageTag 0#64) ∧
    (fillCmdTags emptyWrapper wholeRefTag 0#64 = .error .shiftOutOfRange ∧
      ¬ Packs emptyWrapper wholeRefTag 0#64) := by
  refine ⟨⟨by decide, ?_⟩, by decide, ?_⟩
  · rintro ⟨out, done, equal⟩
    have same : out = { emptyWrapper with dw14 := 0x9abcdef0#32 } := by
      have value : fillCmdTags emptyWrapper wholeStorageTag 0#64 =
        .ok ({ emptyWrapper with dw14 := 0x9abcdef0#32 },
          wholeStorageTag) := by decide
      rw [value] at done
      cases done
      rfl
    rw [same] at equal
    exact absurd equal (by decide)
  · rintro ⟨out, done, _⟩
    have value : fillCmdTags emptyWrapper wholeRefTag 0#64 =
      .error .shiftOutOfRange := by decide
    rw [value] at done
    cases done

/-! ## Bytes -/

/-- The number that bytes denote, most significant byte first. -/
def bytesToNat (bytes : List (BitVec 8)) : Nat :=
  bytes.foldl (fun value byte => value * 2 ^ 8 + byte.toNat) 0

theorem bytesToNat_append (front back : List (BitVec 8)) :
    bytesToNat (front ++ back) =
      bytesToNat front * 2 ^ (8 * back.length) + bytesToNat back := by
  have shift (start : Nat) :
      back.foldl (fun value byte => value * 2 ^ 8 + byte.toNat) start =
        start * 2 ^ (8 * back.length) + bytesToNat back := by
    unfold bytesToNat
    generalize rest : back = bytes
    clear rest
    induction bytes generalizing start with
    | nil => simp
    | cons byte bytes ih =>
        rw [List.foldl_cons, List.foldl_cons, ih, ih (0 * 2 ^ 8 + _),
          List.length_cons, Nat.mul_succ, Nat.pow_add]
        ring
  rw [bytesToNat, List.foldl_append, shift]
  rfl

section BigEndian

variable {width : Nat} (word : BitVec width)

@[simp]
theorem length_bigEndian (bytes : Nat) :
    (bigEndian word bytes).length = bytes := by
  rw [bigEndian, List.length_map, List.length_range]

theorem bigEndian_succ (bytes : Nat) :
    bigEndian word (bytes + 1) =
      byteAt word (8 * bytes) :: bigEndian word bytes := by
  unfold bigEndian
  rw [List.range_succ_eq_map, List.map_cons, List.map_map]
  congr 1
  refine List.map_congr_left fun k member => ?_
  rw [Function.comp_apply]
  congr 2
  omega

/-- The bytes of a word denote its lowest part. -/
theorem bytesToNat_bigEndian (bytes : Nat) :
    bytesToNat (bigEndian word bytes) = word.toNat % 2 ^ (8 * bytes) := by
  induction bytes with
  | zero => simp [bigEndian, bytesToNat, Nat.mod_one]
  | succ bytes ih =>
      rw [bigEndian_succ, ← List.singleton_append, bytesToNat_append, ih,
        length_bigEndian]
      have byte : bytesToNat [byteAt word (8 * bytes)] =
          word.toNat / 2 ^ (8 * bytes) % 2 ^ 8 := by
        change 0 * 2 ^ 8 + (byteAt word (8 * bytes)).toNat = _
        rw [byteAt, BitVec.toNat_setWidth, BitVec.toNat_ushiftRight,
          Nat.shiftRight_eq_div_pow]
        omega
      rw [byte, Nat.mul_succ, Nat.pow_add, Nat.mod_mul]
      ring

end BigEndian

/-! ## Advancing the reference tag -/

section Advancing

variable {width : Nat}

/-- The counter of the loops counts modulo `2 ^ rts`. -/
theorem nextRefTag_toNat {rts count : Nat} (fits : rts ≤ width)
    {ref : BitVec width} (counts : ref.toNat = count % 2 ^ rts) :
    (nextRefTag (lowMask width rts) ref).toNat = (count + 1) % 2 ^ rts := by
  have positive := Nat.two_pow_pos rts
  have bound : 2 ^ rts ≤ 2 ^ width := Nat.pow_le_pow_right (by decide) fits
  have mask : (lowMask width rts).toNat = 2 ^ rts - 1 := by
    rw [lowMask, BitVec.toNat_ofNat, Nat.mod_eq_of_lt (by omega)]
  have below := Nat.mod_lt count positive
  have step : (count + 1) % 2 ^ rts = (count % 2 ^ rts + 1) % 2 ^ rts := by
    rw [Nat.mod_add_mod]
  rw [step, ← counts, nextRefTag]
  rw [← counts] at below
  by_cases none_ : lowMask width rts = BitVec.ofNat width 0
  · have one : 2 ^ rts - 1 = 0 := by
      rw [← mask, none_, BitVec.toNat_ofNat, Nat.zero_mod]
    rw [if_neg (not_not.mpr none_)]
    have unit : 2 ^ rts = 1 := by omega
    rw [unit, Nat.mod_one]
    omega
  · rw [if_pos none_]
    split
    · rename_i last
      rw [last, mask, Nat.sub_add_cancel positive, Nat.mod_self,
        BitVec.toNat_ofNat, Nat.zero_mod]
    · rename_i more
      have notLast : ref.toNat ≠ 2 ^ rts - 1 := by
        intro same
        rw [← mask] at same
        exact more (BitVec.eq_of_toNat_eq same)
      have width_pos : 1 < 2 ^ width := by omega
      have one : (1 : BitVec width).toNat = 1 := by
        change 1 % 2 ^ width = 1
        exact Nat.mod_eq_of_lt width_pos
      rw [BitVec.toNat_add, one, Nat.mod_eq_of_lt (by omega),
        Nat.mod_eq_of_lt (by omega)]

/-- Replacing the bits under a mask. -/
theorem getLsbD_merge (word mask ref : BitVec width) {index : Nat}
    (below : index < width) :
    ((word &&& ~~~mask) ||| (ref &&& mask)).getLsbD index =
      if mask.getLsbD index then ref.getLsbD index
      else word.getLsbD index := by
  rw [BitVec.getLsbD_or, BitVec.getLsbD_and, BitVec.getLsbD_and,
    BitVec.getLsbD_not, decide_eq_true below, Bool.true_and]
  cases mask.getLsbD index
  · simp
  · simp

/-- The lowest bits of a space are those of the counter, the others are those
of the start. -/
def Advanced (rts : Nat) (start : BitVec width) (ref : Nat)
    (space : BitVec width) : Prop :=
  ∀ index, index < width → space.getLsbD index =
    if index < rts then ref.testBit index else start.getLsbD index

theorem Advanced.start {rts count : Nat} {space : BitVec width}
    (holds : space.toNat % 2 ^ rts = count % 2 ^ rts) :
    Advanced rts space (count % 2 ^ rts) space := by
  intro index _
  split
  · rename_i low
    rw [← holds, Nat.testBit_mod_two_pow, decide_eq_true low, Bool.true_and,
      BitVec.testBit_toNat]
  · rfl

theorem Advanced.values {rts ref : Nat} {start space : BitVec width}
    (fits : rts ≤ width) (below : ref < 2 ^ rts)
    (advanced : Advanced rts start ref space) :
    space.toNat % 2 ^ rts = ref ∧
      space.toNat / 2 ^ rts = start.toNat / 2 ^ rts := by
  constructor
  · apply Nat.eq_of_testBit_eq
    intro index
    rw [Nat.testBit_mod_two_pow, BitVec.testBit_toNat]
    by_cases low : index < rts
    · rw [decide_eq_true low, Bool.true_and, advanced index (by omega),
        if_pos low]
    · have bound : 2 ^ rts ≤ 2 ^ index :=
        Nat.pow_le_pow_right (by decide) (by omega)
      rw [decide_eq_false low, Bool.false_and,
        Nat.testBit_lt_two_pow (by omega)]
  · apply Nat.eq_of_testBit_eq
    intro index
    rw [Nat.testBit_div_two_pow, Nat.testBit_div_two_pow,
      BitVec.testBit_toNat, BitVec.testBit_toNat]
    by_cases inside : rts + index < width
    · rw [Nat.add_comm] at inside
      rw [advanced _ inside, if_neg (by omega)]
    · rw [BitVec.getLsbD_of_ge _ _ (by omega),
        BitVec.getLsbD_of_ge _ _ (by omega)]

end Advancing

/-! ## The tags of the loops -/

/-- What holds of the tags before block `i`. -/
structure TagsAt {width wide : Nat} (rts refTag : Nat)
    (start : BitVec width) (i : Nat) (ref : BitVec wide)
    (space : BitVec width) : Prop where
  counts : ref.toNat = (refTag + i) % 2 ^ rts
  advanced : Advanced rts start ref.toNat space

section Loops

variable {rts refTag i : Nat}

theorem TagsAt.next16 {start : BitVec 32} {tags : Tags16} (fits : rts ≤ 32)
    (at_ : TagsAt rts refTag start i tags.ref tags.tag1) :
    TagsAt rts refTag start (i + 1)
      ((guardLoop16 (lowMask 32 rts)).next tags).ref
      ((guardLoop16 (lowMask 32 rts)).next tags).tag1 := by
  refine ⟨nextRefTag_toNat fits at_.counts, fun index below => ?_⟩
  have old := at_.advanced index below
  simp only [guardLoop16]
  rw [getLsbD_merge _ _ _ below, getLsbD_lowMask, decide_eq_true below,
    Bool.true_and]
  by_cases low : index < rts
  · rw [if_pos (decide_eq_true low), if_pos low, BitVec.testBit_toNat]
  · rw [if_neg low] at old
    simpa [low] using old

/-- The space of the 32b loop. -/
def space32 (tags : Tags32) : BitVec (16 + 32 + 32) :=
  tags.tag3.setWidth 16 ++ tags.tag2 ++ tags.tag1

/-- The space of the 64b loop. -/
def space64 (tags : Tags64) : BitVec (16 + 32) :=
  tags.tag2.setWidth 16 ++ tags.tag1

/-- The lowest word of the next tags. -/
theorem merge_lower {word : BitVec 32} {ref : BitVec 64} {index : Nat}
    (below : index < 32) :
    ((word &&& ~~~(lower32Bits (lowMask 64 rts))) |||
        (lower32Bits ref &&& lower32Bits (lowMask 64 rts))).getLsbD index =
      if index < rts then ref.toNat.testBit index
      else word.getLsbD index := by
  rw [getLsbD_merge _ _ _ below, getLsbD_lower32Bits, getLsbD_lower32Bits,
    getLsbD_lowMask, BitVec.testBit_toNat]
  simp [below, show index < 64 by omega]

/-- The second word of the next tags. -/
theorem merge_upper {word : BitVec 32} {ref : BitVec 64} {index : Nat}
    (below : index < 32) :
    ((word &&& ~~~(upper32Bits (lowMask 64 rts))) |||
        (upper32Bits ref &&& upper32Bits (lowMask 64 rts))).getLsbD index =
      if 32 + index < rts then ref.toNat.testBit (32 + index)
      else word.getLsbD index := by
  rw [getLsbD_merge _ _ _ below, getLsbD_upper32Bits, getLsbD_upper32Bits,
    getLsbD_lowMask, BitVec.testBit_toNat]
  simp [below, show 32 + index < 64 by omega]

theorem TagsAt.next32 {start : BitVec (16 + 32 + 32)} {tags : Tags32}
    (fits : rts ≤ 64)
    (at_ : TagsAt rts refTag start i tags.ref (space32 tags)) :
    TagsAt rts refTag start (i + 1)
      ((guardLoop32 (lowMask 64 rts)).next tags).ref
      (space32 ((guardLoop32 (lowMask 64 rts)).next tags)) := by
  refine ⟨nextRefTag_toNat fits at_.counts, fun index below => ?_⟩
  have old := at_.advanced index below
  unfold space32 at old ⊢
  rw [BitVec.getLsbD_append, BitVec.getLsbD_append] at old ⊢
  simp only [guardLoop32]
  by_cases low : index < 32
  · rw [if_pos low, merge_lower low]
    split
    · rfl
    · rename_i high
      rw [if_pos low, if_neg high] at old
      exact old
  · rw [if_neg low]
    by_cases middle : index - 32 < 32
    · rw [if_pos middle, merge_upper middle,
        show 32 + (index - 32) = index by omega]
      split
      · rfl
      · rename_i high
        rw [if_neg low, if_pos middle, if_neg high] at old
        exact old
    · rw [if_neg middle, if_neg (show ¬ index < rts by omega)]
      rw [if_neg low, if_neg middle, if_neg (show ¬ index < rts by omega)]
        at old
      exact old

theorem TagsAt.next64 {start : BitVec (16 + 32)} {tags : Tags64}
    (fits : rts ≤ 48)
    (at_ : TagsAt rts refTag start i tags.ref (space64 tags)) :
    TagsAt rts refTag start (i + 1)
      ((guardLoop64 (lowMask 64 rts)).next tags).ref
      (space64 ((guardLoop64 (lowMask 64 rts)).next tags)) := by
  refine ⟨nextRefTag_toNat (by omega) at_.counts, fun index below => ?_⟩
  have old := at_.advanced index below
  unfold space64 at old ⊢
  rw [BitVec.getLsbD_append] at old ⊢
  simp only [guardLoop64]
  by_cases low : index < 32
  · rw [if_pos low, merge_lower low]
    split
    · rfl
    · rename_i high
      rw [if_pos low, if_neg high] at old
      exact old
  · rw [if_neg low, BitVec.getLsbD_setWidth, merge_upper (by omega),
      show 32 + (index - 32) = index by omega,
      decide_eq_true (show index - 32 < 16 by omega), Bool.true_and]
    split
    · rfl
    · rename_i high
      rw [if_neg low, if_neg high, BitVec.getLsbD_setWidth,
        decide_eq_true (show index - 32 < 16 by omega),
        Bool.true_and] at old
      exact old

end Loops

/-! ## What is stored -/

section Storing

variable {Tags : Type} (loop : GuardLoop Tags) (wrap : NvmeRwcWrapper)
  (data : TagData) (metaOft : Nat) (start : LoopState Tags)

theorem after_succ (count : Nat) :
    loop.after wrap data metaOft start (count + 1) =
      loop.turn wrap data metaOft
        (loop.after wrap data metaOft start count) count := by
  rw [GuardLoop.after, List.range_succ, List.foldl_append]
  rfl

/-- The offset of the information of block `i`. -/
def piOffset (data : TagData) (metaOft i : Nat) : Nat :=
  toU32 (i * toU32 (data.lbads + data.metaSize)) + metaOft

/-- The information of two blocks lies apart in the buffer. -/
def Apart (data : TagData) (metaOft piSize i j : Nat) : Prop :=
  piOffset data metaOft i + piSize ≤ piOffset data metaOft j ∨
    piOffset data metaOft j + piSize ≤ piOffset data metaOft i

/-- The lengths of the guard and of the tags that a turn stores. -/
structure Lengths {Tags : Type} (loop : GuardLoop Tags)
    (guardSize tagSize : Nat) : Prop where
  guard_ : ∀ globals bytes count,
    (loop.crc globals bytes count).1.length = guardSize
  tags : ∀ tags, (loop.tagBytes tags).length = tagSize

variable {loop} {wrap} {data} {metaOft} {start} {guardSize tagSize : Nat}

/-- After the guard and the application tag of a block come its tags. -/
theorem after_tags (lengths : Lengths loop guardSize tagSize) (i : Nat) :
    (loop.after wrap data metaOft start (i + 1)).memory.read
        (piOffset data metaOft i + (guardSize + 2)) tagSize =
      loop.tagBytes (loop.after wrap data metaOft start i).tags := by
  rw [after_succ]
  unfold GuardLoop.turn piOffset
  dsimp only
  rw [read_write]
  · rw [List.drop_append_of_le_length, List.drop_of_length_le,
      List.nil_append, List.take_of_length_le]
    · rw [lengths.tags]
    · rw [List.length_append, lengths.guard_, length_bigEndian]
    · rw [List.length_append, lengths.guard_, length_bigEndian]
  · rw [List.length_append, List.length_append, lengths.guard_,
      length_bigEndian, lengths.tags]

/-- A turn leaves the bytes outside of its information alone. -/
theorem turn_outside (lengths : Lengths loop guardSize tagSize)
    (state : LoopState Tags) {i address : Nat}
    (outside : ¬ (piOffset data metaOft i ≤ address ∧
      address < piOffset data metaOft i + (guardSize + 2 + tagSize))) :
    (loop.turn wrap data metaOft state i).memory address =
      state.memory address := by
  unfold GuardLoop.turn
  refine write_outside _ ?_
  rw [List.length_append, List.length_append, lengths.guard_,
    length_bigEndian, lengths.tags]
  exact outside

/-- The tags of a block stay as they are when the later blocks are stored
apart from it.  The induction is on the number of later blocks. -/
theorem after_tags_kept (lengths : Lengths loop guardSize tagSize)
    {i : Nat} (later : Nat)
    (apart : ∀ j, i < j → j < i + 1 + later →
      Apart data metaOft (guardSize + 2 + tagSize) i j) :
    (loop.after wrap data metaOft start (i + 1 + later)).memory.read
        (piOffset data metaOft i + (guardSize + 2)) tagSize =
      loop.tagBytes (loop.after wrap data metaOft start i).tags := by
  induction later with
  | zero => exact after_tags lengths i
  | succ later ih =>
      rw [← ih fun j after before => apart j after (by omega), ← Nat.add_assoc,
        after_succ]
      refine read_congr _ fun address from_ below => turn_outside lengths _ ?_
      have last := apart (i + 1 + later) (by omega) (by omega)
      unfold Apart at last
      omega

end Storing

section Starts

variable {wrap : NvmeRwcWrapper} {data : TagData}

/-- The start of the 16b loop. -/
def start16 (wrap : NvmeRwcWrapper) (data : TagData) (mask : BitVec 32)
    (memory : Memory) (globals : CrcGlobals) : LoopState Tags16 :=
  ⟨memory, globals,
    ⟨(data.refTag &&& mask.setWidth 64).setWidth 32, wrap.dw14⟩⟩

/-- The start of the 32b loop. -/
def start32 (wrap : NvmeRwcWrapper) (data : TagData) (mask : BitVec 64)
    (memory : Memory) (globals : CrcGlobals) : LoopState Tags32 :=
  ⟨memory, globals, ⟨data.refTag &&& mask, wrap.dw14, wrap.dw3, wrap.dw2⟩⟩

/-- The start of the 64b loop. -/
def start64 (wrap : NvmeRwcWrapper) (data : TagData) (mask : BitVec 64)
    (memory : Memory) (globals : CrcGlobals) : LoopState Tags64 :=
  ⟨memory, globals, ⟨data.refTag &&& mask, wrap.dw14, wrap.dw3⟩⟩

theorem toNat_and_lowMask (ref : BitVec 64) {rts : Nat} (fits : rts ≤ 64) :
    (ref &&& lowMask 64 rts).toNat = ref.toNat % 2 ^ rts := by
  apply Nat.eq_of_testBit_eq
  intro index
  rw [BitVec.testBit_toNat, BitVec.getLsbD_and, getLsbD_lowMask,
    Nat.testBit_mod_two_pow, BitVec.testBit_toNat]
  by_cases low : index < rts
  · simp [low, show index < 64 by omega]
  · simp [low]

theorem start16_ref (ref : BitVec 64) {rts : Nat} (fits : rts ≤ 32) :
    ((ref &&& (lowMask 32 rts).setWidth 64).setWidth 32).toNat =
      ref.toNat % 2 ^ rts := by
  apply Nat.eq_of_testBit_eq
  intro index
  rw [BitVec.testBit_toNat, BitVec.getLsbD_setWidth, BitVec.getLsbD_and,
    BitVec.getLsbD_setWidth, getLsbD_lowMask, Nat.testBit_mod_two_pow,
    BitVec.testBit_toNat]
  by_cases low : index < rts
  · simp [low, show index < 32 by omega, show index < 64 by omega]
  · simp [low]

end Starts

theorem TagsAt.zero {width wide rts refTag : Nat} {space : BitVec width}
    {ref : BitVec wide} (counts : ref.toNat = refTag % 2 ^ rts)
    (holds : space.toNat % 2 ^ rts = refTag % 2 ^ rts) :
    TagsAt rts refTag space 0 ref space := by
  refine ⟨counts, ?_⟩
  rw [counts]
  exact .start holds

section Runs

variable {wrap : NvmeRwcWrapper} {data : TagData} {metaOft : Nat}
  {memory : Memory} {globals : CrcGlobals}

theorem tagsAt16 (fits : data.curRts ≤ 32)
    (start : wrap.dw14.toNat % 2 ^ data.curRts =
      data.refTag.toNat % 2 ^ data.curRts) (i : Nat) :
    let tags := ((guardLoop16 (lowMask 32 data.curRts)).after wrap data
      metaOft (start16 wrap data (lowMask 32 data.curRts) memory globals)
      i).tags
    TagsAt data.curRts data.refTag.toNat wrap.dw14 i tags.ref tags.tag1 := by
  induction i with
  | zero => exact .zero (start16_ref data.refTag fits) start
  | succ i ih =>
      rw [after_succ]
      exact ih.next16 fits

theorem tagsAt32 (fits : data.curRts ≤ 64)
    (start : (wrap.dw2.setWidth 16 ++ wrap.dw3 ++ wrap.dw14).toNat %
      2 ^ data.curRts = data.refTag.toNat % 2 ^ data.curRts) (i : Nat) :
    let tags := ((guardLoop32 (lowMask 64 data.curRts)).after wrap data
      metaOft (start32 wrap data (lowMask 64 data.curRts) memory globals)
      i).tags
    TagsAt data.curRts data.refTag.toNat
      (wrap.dw2.setWidth 16 ++ wrap.dw3 ++ wrap.dw14) i tags.ref
      (space32 tags) := by
  induction i with
  | zero => exact .zero (toNat_and_lowMask data.refTag fits) start
  | succ i ih =>
      rw [after_succ]
      exact ih.next32 fits

theorem tagsAt64 (fits : data.curRts ≤ 48)
    (start : (wrap.dw3.setWidth 16 ++ wrap.dw14).toNat %
      2 ^ data.curRts = data.refTag.toNat % 2 ^ data.curRts) (i : Nat) :
    let tags := ((guardLoop64 (lowMask 64 data.curRts)).after wrap data
      metaOft (start64 wrap data (lowMask 64 data.curRts) memory globals)
      i).tags
    TagsAt data.curRts data.refTag.toNat
      (wrap.dw3.setWidth 16 ++ wrap.dw14) i tags.ref (space64 tags) := by
  induction i with
  | zero => exact .zero (toNat_and_lowMask data.refTag (by omega)) start
  | succ i ih =>
      rw [after_succ]
      exact ih.next64 fits

/-- The bytes of the tags denote their space. -/
theorem bytesToNat_tagBytes32 (mask : BitVec 64) (tags : Tags32) :
    bytesToNat ((guardLoop32 mask).tagBytes tags) =
      (space32 tags).toNat := by
  simp only [guardLoop32, space32]
  rw [bytesToNat_append, bytesToNat_append, bytesToNat_bigEndian,
    bytesToNat_bigEndian, bytesToNat_bigEndian, length_bigEndian,
    BitVec.toNat_append, BitVec.toNat_append, BitVec.toNat_setWidth,
    length_bigEndian, ← Nat.shiftLeft_add_eq_or_of_lt tags.tag2.isLt,
    ← Nat.shiftLeft_add_eq_or_of_lt tags.tag1.isLt, Nat.shiftLeft_eq,
    Nat.shiftLeft_eq]
  have first := tags.tag1.isLt
  have second := tags.tag2.isLt
  rw [Nat.mod_eq_of_lt first, Nat.mod_eq_of_lt second]

theorem bytesToNat_tagBytes64 (mask : BitVec 64) (tags : Tags64) :
    bytesToNat ((guardLoop64 mask).tagBytes tags) =
      (space64 tags).toNat := by
  simp only [guardLoop64, space64]
  rw [bytesToNat_append, bytesToNat_bigEndian, bytesToNat_bigEndian,
    length_bigEndian, BitVec.toNat_append, BitVec.toNat_setWidth,
    ← Nat.shiftLeft_add_eq_or_of_lt tags.tag1.isLt, Nat.shiftLeft_eq]
  have first := tags.tag1.isLt
  rw [Nat.mod_eq_of_lt first]

end Runs

/-! ## The buffer -/

/-- The `fill_*_guard_protect_info` of the format. -/
def fillOfFormat (wrap : NvmeRwcWrapper) (data : TagData) (metaOft : Nat)
    (memory : Memory) (globals : CrcGlobals) : Checked (Memory × CrcGlobals) :=
  if data.curPif = pifGuard16 then
    fill16bGuardProtectInfo wrap data metaOft memory globals
  else if data.curPif = pifGuard32 then
    fill32bGuardProtectInfo wrap data metaOft memory globals
  else
    fill64bGuardProtectInfo wrap data metaOft memory globals

/-- The size of the guard of a format. -/
def guardSizeOf (pif : Nat) : Nat :=
  if pif = pifGuard16 then 2 else if pif = pifGuard32 then 4 else 8

/-- The size of the storage and reference space of a format, in bytes. -/
def srBytes (pif : Nat) : Nat :=
  srSize pif / 8

/-- The storage and reference space of block `i` in a buffer. -/
def storedSpace (data : TagData) (metaOft : Nat) (buffer : Memory)
    (i : Nat) : Nat :=
  bytesToNat (buffer.read
    (piOffset data metaOft i + (guardSizeOf data.curPif + 2))
    (srBytes data.curPif))

/-- A space has the reference tag of block `i` in its lowest bits and the
storage tag of the command above them. -/
structure HasTags (wrap : NvmeRwcWrapper) (data : TagData) (i space : Nat) :
    Prop where
  reference : space % 2 ^ data.curRts =
    (data.refTag.toNat + i) % 2 ^ data.curRts
  storage : space / 2 ^ data.curRts =
    srSpace data.curPif wrap / 2 ^ data.curRts

/-- The function stores the tags of block `i`: they are in the buffer that it
returns when this block is the last one, and also with more blocks unless one
of these is stored over it. -/
structure StoresTags (wrap : NvmeRwcWrapper) (data : TagData) (metaOft : Nat)
    (memory : Memory) (globals : CrcGlobals) (i : Nat) : Prop where
  last : ∃ buffer after,
    fillOfFormat { wrap with nlb := i + 1 } data metaOft memory globals =
        .ok (buffer, after) ∧
      HasTags wrap data i (storedSpace data metaOft buffer i)
  whole : ∃ buffer after,
    fillOfFormat wrap data metaOft memory globals = .ok (buffer, after) ∧
      ((∀ j, i < j → j < wrap.nlb → Apart data metaOft
          (guardSizeOf data.curPif + 2 + srBytes data.curPif) i j) →
        HasTags wrap data i (storedSpace data metaOft buffer i))

section Buffers

variable {wrap : NvmeRwcWrapper} {data : TagData} {metaOft : Nat}
  {memory : Memory} {globals : CrcGlobals}

/-- What the function of a format stores follows from the tags of its loop. -/
theorem storesTags_of_loop {Tags : Type} {loop : GuardLoop Tags}
    {start : LoopState Tags} {i : Nat}
    (fill : ∀ nlb, fillOfFormat { wrap with nlb := nlb } data metaOft memory
      globals = .ok ((loop.after wrap data metaOft start nlb).memory,
        (loop.after wrap data metaOft start nlb).globals))
    (lengths : Lengths loop (guardSizeOf data.curPif) (srBytes data.curPif))
    (inside : i < wrap.nlb)
    (tags : HasTags wrap data i (bytesToNat (loop.tagBytes
      (loop.after wrap data metaOft start i).tags))) :
    StoresTags wrap data metaOft memory globals i := by
  refine ⟨⟨_, _, fill (i + 1), ?_⟩, ⟨_, _, fill wrap.nlb, fun apart => ?_⟩⟩
  · unfold storedSpace
    rw [after_tags lengths]
    exact tags
  · obtain ⟨later, count⟩ := Nat.exists_eq_add_of_le
      (show i + 1 ≤ wrap.nlb from inside)
    unfold storedSpace
    rw [count, after_tags_kept lengths later
      fun j after before => apart j after (count ▸ before)]
    exact tags

section Formats

variable {i : Nat} (start : srSpace data.curPif wrap % 2 ^ data.curRts =
    data.refTag.toNat % 2 ^ data.curRts)
  (inside : i < wrap.nlb)

include start inside

/-- `fill_16b_guard_protect_info` stores the tags. -/
theorem storesTags16 (format : data.curPif = pifGuard16)
    (fits : data.curRts ≤ 32) :
    StoresTags wrap data metaOft memory globals i := by
  have below := Nat.mod_lt (data.refTag.toNat + i)
    (Nat.two_pow_pos data.curRts)
  have space : srSpace data.curPif wrap = wrap.dw14.toNat := by
    rw [format]
    rfl
  rw [space] at start
  have at_ := @tagsAt16 _ _ metaOft memory globals fits start i
  refine @storesTags_of_loop _ _ _ _ _ _ (guardLoop16 (lowMask 32
    data.curRts)) (start16 wrap data (lowMask 32 data.curRts) memory globals)
    i (fun nlb => ?_) ?_ inside ?_
  · unfold fillOfFormat fill16bGuardProtectInfo
    rw [if_pos format, refTagMask_eq fits]
    rfl
  · rw [format]
    exact ⟨fun _ _ _ => length_bigEndian _ _, fun _ => length_bigEndian _ _⟩
  · dsimp only at at_
    generalize GuardLoop.after _ _ _ _ _ i = state at at_ ⊢
    have value : bytesToNat ((guardLoop16 (lowMask 32 data.curRts)).tagBytes
        state.tags) = state.tags.tag1.toNat := by
      simp only [guardLoop16]
      rw [bytesToNat_bigEndian]
      exact Nat.mod_eq_of_lt state.tags.tag1.isLt
    obtain ⟨low, high⟩ := at_.advanced.values fits (at_.counts ▸ below)
    rw [value]
    exact ⟨low.trans at_.counts, by rw [high, space]⟩

/-- `fill_32b_guard_protect_info` stores the tags. -/
theorem storesTags32 (format : data.curPif = pifGuard32)
    (fits : data.curRts ≤ 64) :
    StoresTags wrap data metaOft memory globals i := by
  have below := Nat.mod_lt (data.refTag.toNat + i)
    (Nat.two_pow_pos data.curRts)
  have space : srSpace data.curPif wrap =
      (wrap.dw2.setWidth 16 ++ wrap.dw3 ++ wrap.dw14).toNat := by
    rw [format]
    rfl
  rw [space] at start
  have at_ := @tagsAt32 _ _ metaOft memory globals fits start i
  refine @storesTags_of_loop _ _ _ _ _ _ (guardLoop32 (lowMask 64
    data.curRts)) (start32 wrap data (lowMask 64 data.curRts) memory globals)
    i (fun nlb => ?_) ?_ inside ?_
  · unfold fillOfFormat fill32bGuardProtectInfo
    rw [if_neg (by rw [format]; decide), if_pos format, refTagMask_eq fits]
    rfl
  · rw [format]
    exact ⟨fun _ _ _ => length_bigEndian _ _, fun _ => show _ = 10 from rfl⟩
  · dsimp only at at_
    generalize GuardLoop.after _ _ _ _ _ i = state at at_ ⊢
    obtain ⟨low, high⟩ := at_.advanced.values (by omega)
      (at_.counts ▸ below)
    rw [bytesToNat_tagBytes32]
    exact ⟨low.trans at_.counts, by rw [high, space]⟩

/-- `fill_64b_guard_protect_info` stores the tags. -/
theorem storesTags64 (format : data.curPif = pifGuard64)
    (fits : data.curRts ≤ 48) :
    StoresTags wrap data metaOft memory globals i := by
  have below := Nat.mod_lt (data.refTag.toNat + i)
    (Nat.two_pow_pos data.curRts)
  have space : srSpace data.curPif wrap =
      (wrap.dw3.setWidth 16 ++ wrap.dw14).toNat := by
    rw [format]
    rfl
  rw [space] at start
  have at_ := @tagsAt64 _ _ metaOft memory globals (by omega) start i
  refine @storesTags_of_loop _ _ _ _ _ _ (guardLoop64 (lowMask 64
    data.curRts)) (start64 wrap data (lowMask 64 data.curRts) memory globals)
    i (fun nlb => ?_) ?_ inside ?_
  · unfold fillOfFormat fill64bGuardProtectInfo
    rw [if_neg (by rw [format]; decide), if_neg (by rw [format]; decide),
      refTagMask_eq (by omega)]
    rfl
  · rw [format]
    exact ⟨fun _ _ _ => length_bigEndian _ _, fun _ => show _ = 6 from rfl⟩
  · dsimp only at at_
    generalize GuardLoop.after _ _ _ _ _ i = state at at_ ⊢
    obtain ⟨low, high⟩ := at_.advanced.values (by omega)
      (at_.counts ▸ below)
    rw [bytesToNat_tagBytes64]
    exact ⟨low.trans at_.counts, by rw [high, space]⟩

end Formats

/--
The functions store for block `i` a space that has the reference tag of that
block in its lowest bits and the storage tag of the command above them.
-/
theorem ref_tag_advances {i : Nat}
    (size : getReferenceTagSize data.curPif data.curSts = data.curRts)
    (start : srSpace data.curPif wrap % 2 ^ data.curRts =
      data.refTag.toNat % 2 ^ data.curRts)
    (inside : i < wrap.nlb) :
    StoresTags wrap data metaOft memory globals i := by
  rcases getReferenceTagSize_cases size with
    ⟨first, _, same⟩ | ⟨second, _, _, same⟩ | ⟨third, _, same⟩
  · exact storesTags16 start inside first (by omega)
  · exact storesTags32 start inside second (by omega)
  · exact storesTags64 start inside third (by omega)

end Buffers

/-- The reference tag wraps between the first two blocks. -/
def wrappingTags : TagData :=
  { splitTags with refTag := 0xffffff#64 }

/-- Three blocks of a command with these tags; the second one has the
reference tag zero. -/
theorem ref_tag_advances_wrapping :
    StoresTags { emptyWrapper with nlb := 3, dw14 := 0x12ffffff#32 }
      wrappingTags 0 (fun _ => 0#8) .zero 1 :=
  ref_tag_advances (by decide) (by decide) (by decide)

end Dnvme.App.E2eTags
