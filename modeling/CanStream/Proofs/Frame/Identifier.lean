import CanStream.Proofs.Frame.Made

/-!
# Identifiers of frames

The word of an identifier gives the identifier back. A frame's word has room for twenty-nine bits in
either format, and the format can be changed apart from the number; a frame in the standard format
may therefore hold a number that no standard identifier has. The identifier it gives then is one
with the low eleven bits of the number. It is the frame's own only if the number fits the format.
-/

namespace CanStream

theorem toNat_and_standardMask (word : UInt32) :
    (word &&& standardMask).toNat = word.toNat % 0x800 := by
  rw [UInt32.toNat_and]
  exact Nat.and_two_pow_sub_one_eq_mod word.toNat 11

theorem toNat_and_extendedMask (word : UInt32) :
    (word &&& extendedMask).toNat = word.toNat % 0x20000000 := by
  rw [UInt32.toNat_and]
  exact Nat.and_two_pow_sub_one_eq_mod word.toNat 29

theorem and_standardMask_eq_iff {word : UInt32} :
    word &&& standardMask = word ↔ word ≤ standardMask := by
  have mask : standardMask.toNat = 0x7FF := rfl
  rw [← UInt32.toNat_inj, toNat_and_standardMask, UInt32.le_iff_toNat_le, mask]
  omega

/-- A word is told by its number and its three flags. -/
theorem word_ext {word word' : UInt32} (number : word &&& extendedMask = word' &&& extendedMask)
    (format : word &&& extendedFlag = word' &&& extendedFlag)
    (remote : word &&& remoteFlag = word' &&& remoteFlag)
    (error : word &&& errorFlag = word' &&& errorFlag) : word = word' := by
  have parts (w : UInt32) : w = (w &&& extendedMask) ||| (w &&& extendedFlag) |||
      (w &&& remoteFlag) ||| (w &&& errorFlag) := by
    have all : extendedMask ||| extendedFlag ||| remoteFlag ||| errorFlag = -1 := by decide
    calc w = (extendedMask ||| extendedFlag ||| remoteFlag ||| errorFlag) &&& w := by
          rw [all, UInt32.neg_one_and]
      _ = _ := by simp only [word_or_and, UInt32.and_comm w]
  rw [parts word, parts word', number, format, remote, error]

namespace CanId

theorem toNat_raw_standard (n : Fin 0x800) : (standard n).raw.toNat = n.val := by
  have small := n.isLt
  rw [raw, UInt32.toNat_ofNat']
  omega

theorem toNat_raw_extended (n : Fin 0x20000000) : (extended n).raw.toNat = n.val := by
  have small := n.isLt
  rw [raw, UInt32.toNat_ofNat']
  omega

theorem raw_lt (id : CanId) : id.raw.toNat < 2 ^ 29 := by
  cases id with
  | standard n =>
    rw [toNat_raw_standard]
    omega
  | extended n =>
    rw [toNat_raw_extended]
    exact n.isLt

theorem raw_le_standardMask {id : CanId} (short : id.isExtended = false) :
    id.raw ≤ standardMask := by
  cases id with
  | standard n =>
    rw [UInt32.le_iff_toNat_le, toNat_raw_standard]
    exact Nat.le_of_lt_succ n.isLt
  | extended n => cases short

/-- An identifier is told by its format and its number. -/
theorem ext {id id' : CanId} (format : id.isExtended = id'.isExtended) (number : id.raw = id'.raw) :
    id = id' := by
  have same := congrArg UInt32.toNat number
  cases id with
  | standard n =>
    cases id' with
    | standard m =>
      rw [toNat_raw_standard, toNat_raw_standard] at same
      exact congrArg standard (Fin.ext same)
    | extended m => cases format
  | extended n =>
    cases id' with
    | standard m => cases format
    | extended m =>
      rw [toNat_raw_extended, toNat_raw_extended] at same
      exact congrArg extended (Fin.ext same)

theorem raw_and_extendedFlag (id : CanId) : id.raw &&& extendedFlag = 0 := by
  rw [← UInt32.ofNat_toNat (x := id.raw)]
  exact ofNat_and_two_pow (i := 31) (Nat.lt_trans id.raw_lt (by decide)) rfl

theorem raw_and_extendedMask (id : CanId) : id.raw &&& extendedMask = id.raw := by
  apply UInt32.toNat_inj.mp
  rw [toNat_and_extendedMask]
  exact Nat.mod_eq_of_lt id.raw_lt

/-- The word of an identifier has its number and the flag of its format. -/
theorem word_eq (id : CanId) :
    id.word = id.raw ||| (if id.isExtended then extendedFlag else 0) := by
  cases id with
  | standard n => exact (UInt32.or_zero).symm
  | extended n => rfl

theorem word_and_extendedMask (id : CanId) : id.word &&& extendedMask = id.raw := by
  rw [word_eq, word_or_and, raw_and_extendedMask]
  split
  · exact UInt32.or_zero
  · exact UInt32.or_zero

theorem word_and_extendedFlag (id : CanId) :
    (id.word &&& extendedFlag != 0) = id.isExtended := by
  rw [word_eq, word_or_and, raw_and_extendedFlag, UInt32.zero_or]
  cases id.isExtended with
  | true => decide
  | false => decide

/-- Every word has an identifier in the format of its flag; in the standard format it is one with
the low eleven bits of the number. -/
theorem exists_ofWord? (word : UInt32) :
    ∃ id, ofWord? word = some id ∧ id.isExtended = (word &&& extendedFlag != 0) ∧
      id.raw = word &&& (if word &&& extendedFlag != 0 then extendedMask else standardMask) := by
  by_cases long : word &&& extendedFlag ≠ 0
  case pos =>
    have bound : (word &&& extendedMask).toNat < 0x20000000 := by
      rw [toNat_and_extendedMask]
      exact Nat.mod_lt _ (by decide)
    have flag : (word &&& extendedFlag != 0) = true := bne_iff_ne.mpr long
    refine ⟨.extended ⟨_, bound⟩, ?_, flag.symm, ?_⟩
    · rw [ofWord?, if_pos long, extended?, dif_pos bound]
    · rw [flag, if_pos rfl]
      exact UInt32.ofNat_toNat
  case neg =>
    have bound : (word &&& standardMask).toNat < 0x800 := by
      rw [toNat_and_standardMask]
      exact Nat.mod_lt _ (by decide)
    have flag : (word &&& extendedFlag != 0) = false := bne_eq_false_iff_eq.mpr (not_not.mp long)
    refine ⟨.standard ⟨_, bound⟩, ?_, flag.symm, ?_⟩
    · rw [ofWord?, if_neg long, standard?, dif_pos bound]
    · rw [flag, if_neg Bool.false_ne_true]
      exact UInt32.ofNat_toNat

/-- The word of an identifier gives it back. -/
theorem ofWord?_word (id : CanId) : ofWord? id.word = some id := by
  obtain ⟨found, read, format, number⟩ := exists_ofWord? id.word
  rw [word_and_extendedFlag] at format number
  suffices same : found = id by rw [read, same]
  apply ext format
  rw [number]
  split
  · exact id.word_and_extendedMask
  · rename_i short
    rw [word_eq, if_neg short, UInt32.or_zero]
    exact and_standardMask_eq_iff.mpr (raw_le_standardMask (Bool.eq_false_of_not_eq_true short))

end CanId

namespace Frame

variable {f : Frame}

/-- The number of the identifier is none too large for its format. -/
def Fits (f : Frame) : Prop := f.isExtended = true ∨ f.canId ≤ standardMask

instance (f : Frame) : Decidable f.Fits := inferInstanceAs (Decidable (_ ∨ _))

/-- A frame gives an identifier of its format, with the number cut to the format's bits. -/
theorem exists_id? (f : Frame) : ∃ id, f.id? = some id ∧ id.isExtended = f.isExtended ∧
    id.raw = f.canId &&& (if f.isExtended then extendedMask else standardMask) := by
  obtain ⟨id, read, format, number⟩ := CanId.exists_ofWord? f.word
  refine ⟨id, read, format, ?_⟩
  rw [number, canId, UInt32.and_assoc]
  change _ = f.word &&& (extendedMask &&& if f.word &&& extendedFlag != 0 then _ else _)
  split
  · rw [UInt32.and_self]
  · rfl

theorem canId_and_extendedMask (f : Frame) : f.canId &&& extendedMask = f.canId := by
  rw [canId, UInt32.and_assoc, UInt32.and_self]

/-- The number cut to the format's bits is the number itself just if it fits the format. -/
theorem canId_and_mask_eq_iff_fits :
    f.canId &&& (if f.isExtended then extendedMask else standardMask) = f.canId ↔ f.Fits := by
  cases long : f.isExtended with
  | true => exact iff_of_true f.canId_and_extendedMask (.inl long)
  | false =>
    rw [if_neg Bool.false_ne_true, and_standardMask_eq_iff, Fits, long]
    exact (or_iff_right Bool.false_ne_true).symm

/-- A frame's number that fits its format is that of an identifier. -/
theorem Fits.exists_id (fits : f.Fits) :
    ∃ id : CanId, f.id? = some id ∧ id.isExtended = f.isExtended ∧ id.raw = f.canId := by
  obtain ⟨id, read, format, number⟩ := f.exists_id?
  exact ⟨id, read, format, number.trans (canId_and_mask_eq_iff_fits.mpr fits)⟩

/-- The identifier that a frame gives is its own, and it gives none just if the number does not fit
the format. -/
structure GivesOwnId (f : Frame) : Prop where
  own : ∀ id, f.id? = some id → id.isExtended = f.isExtended ∧ id.raw = f.canId
  none_iff : f.id? = none ↔ ¬f.Fits

/-- The identifier that a frame gives has the frame's number, or its low eleven bits if it does not
fit the format. -/
theorem exists_id?_of_fits (f : Frame) :
    ∃ id, f.id? = some id ∧ id.isExtended = f.isExtended ∧
      id.raw = if f.Fits then f.canId else f.canId &&& standardMask := by
  obtain ⟨id, read, format, number⟩ := f.exists_id?
  refine ⟨id, read, format, ?_⟩
  split
  case isTrue fits => exact number.trans (canId_and_mask_eq_iff_fits.mpr fits)
  case isFalse unfit =>
    have short : ¬f.isExtended = true := fun long => unfit (.inl long)
    rw [number, if_neg short]

/-- The word of an identifier gives it back. A frame always gives an identifier of its format: its
own exactly if the number fits the format, and otherwise one with the low eleven bits of it. -/
theorem givesOwnId_iff_fits (id : CanId) (f : Frame) :
    CanId.ofWord? id.word = some id ∧ (f.GivesOwnId ↔ f.Fits) ∧
      ∃ given : CanId, f.id? = some given ∧ given.isExtended = f.isExtended ∧
        given.raw = if f.Fits then f.canId else f.canId &&& standardMask := by
  obtain ⟨given, read, format, number⟩ := f.exists_id?_of_fits
  refine ⟨id.ofWord?_word, ⟨fun own => ?_, fun fits => ⟨fun other read' => ?_, ?_⟩⟩, given, read,
    format, number⟩
  · by_contra unfit
    rw [own.none_iff.mpr unfit] at read
    cases read
  · obtain rfl := Option.some.inj (read.symm.trans read')
    exact ⟨format, number.trans (if_pos fits)⟩
  · exact iff_of_false (by rw [read]; nofun) (not_not.mpr fits)

/-- A data frame in the standard format with a number of twelve bits. -/
def oversized : Frame := (ofKind .data).setCanId 0x923

/-- It gives the identifier of another number. -/
theorem not_always_givesOwnId : ¬∀ f : Frame, Made f → f.GivesOwnId := by
  intro always
  have own := always oversized ((Made.withKind .data .empty).setCanId 0x923)
  have given : oversized.id? = some (.standard 0x123) := by decide
  have number := (own.own _ given).2
  exact absurd number (by decide)

end Frame

end CanStream
