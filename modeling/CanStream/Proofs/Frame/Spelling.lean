import CanStream.Proofs.Frame.Grammar

/-!
# Frames as text, there and back

A frame's own text spells it: the identifier is written in the width of its format, and the body as
the kind has it. What a text cannot tell is not there to be read again: the kind of an error frame,
a number too large for its format, flags without a name, and bytes behind the data. A frame that
keeps nothing of the sort back is read from its text, and no other frame is read from any.
-/

namespace CanStream

namespace Frame

variable {f : Frame}

/-- A frame holds nothing that a text cannot tell. -/
structure Spellable (f : Frame) : Prop where
  kind : f.kind = .data ∨ f.kind = .fd ∨ f.kind = .remote
  derivedKind : f.derivedKind = f.kind
  fits : f.Fits
  flags_fd : f.kind = .fd → f.fdFlags = ⟨f.flags.toUInt32⟩
  flags_classic : f.kind ≠ .fd → f.flags = 0
  blank : f.payload.BlankFrom f.length

theorem toNat_fdFlags (f : Frame) : f.fdFlags.bits.toNat = f.flags.toNat % 4 := by
  rw [fdFlags, toNat_truncate, UInt8.toNat_toUInt32]

/-- The flags with a name are the two lowest. -/
theorem fdFlags_eq_iff : f.fdFlags = ⟨f.flags.toUInt32⟩ ↔ f.flags.toNat < 4 := by
  rw [FlagSet.mk.injEq, ← UInt32.toNat_inj, toNat_fdFlags, UInt8.toNat_toUInt32]
  omega

theorem Holds.fits {c : Content} (holds : f.Holds c) : f.Fits := by
  cases long : f.isExtended with
  | true => exact .inl long
  | false =>
    rw [holds.isExtended] at long
    exact .inr (holds.canId ▸ CanId.raw_le_standardMask long)

theorem SpellsBody.spellable {id : CanId} {text : List Char} {c : Content}
    (h : SpellsBody id text c) (holds : f.Holds c) : f.Spellable := by
  have recognised : f.derivedKind = f.kind := holds.derivedKind.trans holds.kind.symm
  cases h with
  | remote letter =>
    exact ⟨.inr (.inr holds.kind), recognised, holds.fits,
      (nomatch holds.kind.symm.trans ·), fun _ => holds.flags, holds.blank⟩
  | @fd _ v =>
    refine ⟨.inr (.inl holds.kind), recognised, holds.fits, fun _ => ?_,
      fun classic => absurd holds.kind classic, holds.blank⟩
    rw [fdFlags_eq_iff, holds.flags, UInt8.toNat_ofNat']
    omega
  | data =>
    exact ⟨.inl holds.kind, recognised, holds.fits,
      (nomatch holds.kind.symm.trans ·), fun _ => holds.flags, holds.blank⟩

theorem spellable_of_parse {s : String} (read : parse s = .ok f) : f.Spellable := by
  obtain ⟨c, spelled | signed, holds⟩ := parse_eq_ok_iff.mp read
  · obtain ⟨text, -, ⟨-, content⟩⟩ := spelled
    exact content.spellable holds
  · obtain ⟨text, -, ⟨-, content⟩⟩ := signed
    exact content.spellable holds

theorem Spellable.kind_ne (h : f.Spellable) : f.kind ≠ .unknown ∧ f.kind ≠ .error := by
  rcases h.kind with kind | kind | kind
  · rw [kind]
    exact ⟨nofun, nofun⟩
  · rw [kind]
    exact ⟨nofun, nofun⟩
  · rw [kind]
    exact ⟨nofun, nofun⟩

/-- The identifier is written in the width of its format. -/
theorem Spellable.spellsId_idText (h : f.Spellable) {id : CanId}
    (format : id.isExtended = f.isExtended) (number : id.raw = f.canId) :
    SpellsId f.idText.length f.idText id := by
  have free : (f.kind == .error) = false := beq_eq_false_iff_ne.mpr h.kind_ne.2
  rw [idText, free, Bool.or_false, ← format, ← number]
  cases id with
  | standard n =>
    have width : (Hex.padded 3 n.val).length = 3 :=
      Hex.length_padded (by decide) (Nat.lt_trans n.isLt (by decide))
    rw [CanId.toNat_raw_standard, CanId.isExtended, if_neg Bool.false_ne_true, width]
    exact .standard (Nat.le_refl 3) (Hex.numeral_padded 3 n)
  | extended n =>
    have width : (Hex.padded 8 n.val).length = 8 :=
      Hex.length_padded (by decide) (Nat.lt_trans n.isLt (by decide))
    rw [CanId.toNat_raw_extended, CanId.isExtended, if_pos rfl, width]
    exact .extended (by decide) (Hex.numeral_padded 8 n)

theorem Spellable.length_le (h : f.Spellable) : f.length ≤ f.maxLength := by
  have fits := length_le_of_derivedKind (h.derivedKind ▸ h.kind_ne.1)
  rwa [h.derivedKind] at fits

/-- The body is written as the kind has it. -/
theorem Spellable.spellsBody_bodyText (h : f.Spellable) (id : CanId) :
    ∃ body, f.bodyText = '#' :: body ∧ SpellsBody id body ⟨f.kind, id, f.flags, f.data⟩ := by
  have fits := h.length_le
  have bytes : f.data.length = f.length :=
    length_data (Nat.le_trans fits f.kind.maxLength_le)
  have pairs := Hex.pairs_encode f.data
  rcases h.kind with kind | kind | kind
  · rw [h.flags_classic (by rw [kind]; decide), bodyText, kind]
    rw [maxLength, kind] at fits
    exact ⟨_, rfl, .data pairs (bytes.trans_le fits)⟩
  · have small := fdFlags_eq_iff.mp (h.flags_fd kind)
    have low : f.flags = UInt8.ofNat (f.flags.toNat % 4) := by
      rw [Nat.mod_eq_of_lt small, UInt8.ofNat_toNat]
    have nibble : (f.flags &&& 0x0F).toNat = f.flags.toNat := by
      have mask : (0x0F : UInt8).toNat = 2 ^ 4 - 1 := rfl
      rw [UInt8.toNat_and, mask, Nat.and_two_pow_sub_one_eq_mod]
      omega
    have hex : f.flags.toNat < 16 := Nat.lt_trans small (by decide)
    rw [maxLength, kind] at fits
    have spells : SpellsBody id ('#' :: f.flags.toNat.digitChar.toUpper :: Hex.encode true f.data)
        ⟨.fd, id, UInt8.ofNat (f.flags.toNat % 4), f.data⟩ :=
      .fd (Hex.isDigit_digitChar hex) pairs (bytes.trans_le fits)
    rw [← low] at spells
    rw [bodyText, kind]
    refine ⟨_, ?_, spells⟩
    simp only [nibble, Hex.ofNat_eq_singleton hex, List.singleton_append]
  · have empty : f.data = [] := by
      rw [maxLength, kind] at fits
      exact List.eq_nil_of_length_eq_zero (bytes.trans (Nat.le_zero.mp fits))
    rw [h.flags_classic (by rw [kind]; decide), bodyText, kind, empty]
    exact ⟨_, rfl, .remote (.inl rfl)⟩

/-- A frame is read from its own text just if it holds nothing that a text cannot tell. -/
theorem parse_text_iff_spellable (f : Frame) : parse f.text = .ok f ↔ f.Spellable := by
  constructor
  · exact spellable_of_parse
  · intro h
    obtain ⟨id, -, format, number⟩ := h.fits.exists_id
    obtain ⟨body, written, content⟩ := h.spellsBody_bodyText id
    have identifier := h.spellsId_idText format number
    rw [← Nat.zero_add f.idText.length] at identifier
    have spelled : Spelled f.text ⟨f.kind, id, f.flags, f.data⟩ := by
      refine ⟨f.idText ++ '#' :: body, ?_, .intro identifier content⟩
      rw [text, String.toList_ofList, written]
      exact Blank.around_self _
    exact parse_eq_ok_iff.mpr ⟨_, .inl spelled,
      rfl, h.derivedKind, format.symm, number.symm, rfl, rfl, h.blank⟩

end Frame

end CanStream
