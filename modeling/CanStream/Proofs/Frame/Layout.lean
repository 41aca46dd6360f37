import CanStream.Proofs.Frame.RoundTrip

/-!
# Frames in the kernel's layout, there and back

A block carries the whole payload capacity of its layout. What a frame holds between its data and
the largest length of its kind travels with it; beyond that it holds nothing, so the block gives
back the very frame it was written from.

A block can be read as the start of a byte stream, too. The stream has the payload only as far as
the header says, and that is all in which the two readings differ.
-/

namespace CanStream

namespace Frame

variable {f : Frame} {h : Header}

/-- What a canonical frame holds lies within the capacity of its layout. -/
theorem zeroFrom_maxLength_zeroFrom (canonical : f.Canonical) {n : Nat} (within : f.maxLength ≤ n) :
    (f.payload.zeroFrom n).zeroFrom f.maxLength = f.payload := by
  rw [(canonical.blank.mono within).zeroFrom_eq, canonical.blank.zeroFrom_eq]

/-- The block of a frame gives back the frame, with everything its payload buffer holds. -/
theorem ofKernel?_toKernel_append (canonical : f.Canonical) (agrees : f.derivedKind = f.kind)
    (known : f.kind ≠ .unknown) (tail : List UInt8) :
    ofKernel? (f.toKernel ++ tail) = some (f, f.transferUnit) := by
  obtain ⟨n, named, fits, bound⟩ := exists_capacity?_of_derivedKind (agrees ▸ known)
  have unit : n + headerSize = f.transferUnit := by
    have total := canonical.shaped.transferUnit known
    rw [named] at total
    exact Option.some.inj total
  have within : f.maxLength ≤ n := by
    have room := maxLength_add_headerSize_le known
    change f.maxLength + headerSize ≤ f.transferUnit at room
    omega
  have size : (f.payload.bytes.take n).length = n := by
    rw [List.length_take, f.payload.length_bytes, Nat.min_eq_left bound]
  have taken : (f.payload.bytes.take n ++ tail).take n = f.payload.bytes.take n := by
    rw [List.take_append_of_le_length (Nat.le_of_eq size.symm), List.take_take, Nat.min_self]
  have enough : ¬(f.payload.bytes.take n ++ tail).length < n := by
    rw [List.length_append, size]
    omega
  have positive : f.transferUnit ≠ 0 := by
    have eight : headerSize = 8 := rfl
    omega
  have read : f.header.frame (Payload.zero.overwrite (f.payload.bytes.take n)) =
      { f with payload := f.payload.zeroFrom n } := by
    rw [zero_overwrite_take f.payload bound, frame_header agrees (Nat.le_trans fits bound)]
  have usable : ¬((some n).isNone = true ∨ f.kind = .unknown) := by
    simp [known]
  rw [toKernel, if_neg positive, ← unit, Nat.add_sub_cancel, List.append_assoc, ofKernel?,
    Header.decode?_encode]
  simp only [capacity?_header bound fits named]
  simp only [header, named, Option.getD_some, if_neg enough, taken] at read ⊢
  rw [read, if_neg usable, maxLength]
  simp only
  rw [← maxLength, zeroFrom_maxLength_zeroFrom canonical within, Nat.add_comm]

/-- The payload of a block, cut to its capacity and then to the data. -/
theorem zero_overwrite_zeroFrom {body : List UInt8} {n m l : Nat} (bound : n ≤ 64) (fits : l ≤ m)
    (within : l ≤ n) (whole : n ≤ body.length) :
    ((Payload.zero.overwrite (body.take n)).zeroFrom m).zeroFrom l =
      Payload.zero.overwrite (body.take l) := by
  have size : (body.take l).length = l := by
    rw [List.length_take, Nat.min_eq_left (Nat.le_trans within whole)]
  have sizeAll : (body.take n).length = n := by
    rw [List.length_take, Nat.min_eq_left whole]
  have bytes := bytes_zero_overwrite (sizeAll.trans_le bound)
  rw [Payload.zeroFrom_zeroFrom fits (Nat.le_trans within bound)]
  apply Payload.ext_bytes
  rw [bytes_zero_overwrite (size.trans_le (Nat.le_trans within bound)), size]
  change (Payload.zero.overwrite (body.take n)).bytes.take l ++ _ = _
  rw [bytes, List.take_append_of_le_length (by omega), List.take_take, Nat.min_eq_left within]

/-- The frame of a block, without what lies beyond its data, is the one that the header makes of the
data alone. -/
theorem frame_block {body : List UInt8} {n : Nat}
    (named : capacity? h.sentinel0 h.sentinel1 = some n) (within : h.length.toNat ≤ n)
    (whole : n ≤ body.length)
    (known : (h.frame (Payload.zero.overwrite (body.take n))).kind ≠ .unknown) :
    { h.frame (Payload.zero.overwrite (body.take n)) with
      payload := ((Payload.zero.overwrite (body.take n)).zeroFrom
        (h.frame (Payload.zero.overwrite (body.take n))).maxLength).zeroFrom h.length.toNat } =
      h.frame (Payload.zero.overwrite (body.take h.length.toNat)) := by
  have bound : n ≤ 64 := by
    rcases capacity?_cases named with rfl | rfl
    · decide
    · decide
  have limit : h.length.toNat ≤ (h.frame (Payload.zero.overwrite (body.take n))).maxLength :=
    (shaped_of_derivedKind (kind_frame h _).symm known).1.length_le
  rw [zero_overwrite_zeroFrom bound limit within whole]
  rfl

theorem zeroFrom_asUnknownError (f : Frame) :
    { f.asUnknownError with
      payload := f.asUnknownError.payload.zeroFrom f.asUnknownError.length } =
        f.asUnknownError := by
  have blank : f.asUnknownError.payload.BlankFrom f.asUnknownError.length :=
    Payload.blankFrom_zeroFrom
  rw [blank.zeroFrom_eq]

/-- A block that is read as a frame is read as the same frame from a stream, except for what the
block holds beyond the data. -/
theorem decode_of_ofKernel? {bytes : List UInt8} {f : Frame} {n : Nat}
    (found : ofKernel? bytes = some (f, n)) :
    ∃ rest, decode .native bytes =
      .ok ({ f with payload := f.payload.zeroFrom f.length }, rest) := by
  unfold ofKernel? at found
  split at found
  · cases found
  · rename_i h body decoded
    simp only at found
    split at found
    · cases found
    · rename_i whole
      rw [decode, decoded]
      simp only
      cases capacity : h.capacity? with
      | none =>
        rw [capacity, if_pos (.inl rfl)] at found
        cases found
        refine ⟨body, ?_⟩
        rw [zeroFrom_asUnknownError]
      | some c =>
        obtain ⟨named, fits⟩ := Option.filter_eq_some_iff.mp capacity
        have fits : h.length.toNat ≤ c := of_decide_eq_true fits
        rw [named, Option.getD_some] at whole found
        have enough : ¬body.length < h.length.toNat := by omega
        refine ⟨body.drop h.length.toNat, ?_⟩
        simp only [if_neg enough]
        have kind (p q : Payload) : (h.frame p).kind = (h.frame q).kind :=
          derivedKind_congr rfl rfl rfl rfl
        rw [capacity, Option.isNone_some] at found
        by_cases unknown : (h.frame (Payload.zero.overwrite (body.take c))).kind = .unknown
        · rw [if_pos (.inr unknown)] at found
          cases found
          rw [if_pos ((kind _ _).trans unknown), zeroFrom_asUnknownError]
          rfl
        · rw [if_neg (by simp [unknown])] at found
          cases found
          rw [if_neg (fun same => unknown ((kind _ _).trans same)),
            ← frame_block named fits (Nat.le_of_not_lt whole) unknown]
          rfl

theorem data_zeroFrom_length (fits : f.length ≤ 64) :
    { f with payload := f.payload.zeroFrom f.length }.data = f.data :=
  Payload.take_zeroFrom (Nat.le_refl _) fits

/-- A frame of a known kind that is recognised as what it is comes back from its block whole,
whatever stands behind the block. A block that is read as a frame is read as the same frame from a
stream, but for the bytes beyond the data. -/
theorem kernel_layout :
    (∀ f : Frame, Made f → f.derivedKind = f.kind → f.kind ≠ .unknown → ∀ tail : List UInt8,
      ofKernel? (f.toKernel ++ tail) = some (f, f.transferUnit)) ∧
    ∀ (bytes : List UInt8) (f : Frame) (n : Nat), ofKernel? bytes = some (f, n) →
      ∃ rest, decode .native bytes = .ok ({ f with payload := f.payload.zeroFrom f.length }, rest) ∧
        { f with payload := f.payload.zeroFrom f.length }.data = f.data := by
  constructor
  · intro f made agrees known tail
    exact ofKernel?_toKernel_append made.canonical agrees known tail
  · intro bytes f n found
    have shaped := (consistent_ofKernel found).canonical.shaped
    obtain ⟨rest, read⟩ := decode_of_ofKernel? found
    exact ⟨rest, read, data_zeroFrom_length (Nat.le_trans shaped.length_le f.kind.maxLength_le)⟩

/-- A frame of two bytes that holds a third one from before it was cut. -/
def cutFrame : Frame := (ofKind .data).change [.data [1, 2, 3], .length 2]

theorem kernel_layout_cutFrame :
    Made cutFrame ∧ cutFrame.derivedKind = cutFrame.kind ∧ cutFrame.kind ≠ .unknown ∧
      ofKernel? (cutFrame.toKernel ++ [9]) = some (cutFrame, cutFrame.transferUnit) ∧
      ∃ rest, decode .native (cutFrame.toKernel ++ [9]) =
          .ok ({ cutFrame with payload := cutFrame.payload.zeroFrom cutFrame.length }, rest) ∧
        { cutFrame with payload := cutFrame.payload.zeroFrom cutFrame.length }.data =
          cutFrame.data := by
  have made : Made cutFrame := (Made.withKind .data .empty).change _
  have agrees : cutFrame.derivedKind = cutFrame.kind := by decide
  have known : cutFrame.kind ≠ .unknown := by decide
  have found := kernel_layout.1 cutFrame made agrees known [9]
  exact ⟨made, agrees, known, found, kernel_layout.2 _ _ _ found⟩

end Frame

end CanStream
