import CanStream.Proofs.Frame.Canonical

/-!
# Transitions between kinds

A transition makes any frame one of the wanted kind, whatever its word, its flags and its payload
were before. What every kind has room for is kept: the number and the format of the identifier, and
as much of the data as fits. A transition finds nothing left to do where it was made before, and
none sees whether the frame was made a flexible data rate frame first.
-/

namespace CanStream

namespace Frame

variable {f : Frame} {k : Kind}

/-- A transition touches no bits of the word but the flags for errors and remote requests. -/
theorem word_withKind_and (known : k ≠ .unknown) {mask : UInt32} (error : errorFlag &&& mask = 0)
    (remote : remoteFlag &&& mask = 0) : (f.withKind k).word &&& mask = f.word &&& mask := by
  have both : (remoteFlag ||| errorFlag) &&& mask = 0 := by
    rw [word_or_and, error, remote, UInt32.or_zero]
  have kept {flag : UInt32} (apart : flag &&& mask = 0) :
      f.word &&& ~~~flag &&& mask = f.word &&& mask :=
    word_and_and_of_within (complement_and_of_apart apart)
  cases k with
  | data => exact kept both
  | fd => exact kept both
  | error => exact (word_or_and_of_apart error).trans (kept remote)
  | remote => exact (word_or_and_of_apart remote).trans (kept error)
  | unknown => exact absurd rfl known

theorem canId_withKind (known : k ≠ .unknown) : (f.withKind k).canId = f.canId :=
  word_withKind_and known (by decide) (by decide)

theorem isExtended_withKind (known : k ≠ .unknown) :
    (f.withKind k).isExtended = f.isExtended := by
  rw [isExtended, word_withKind_and known (by decide) (by decide), isExtended]

theorem data_toData (f : Frame) :
    f.toData.data = f.payload.bytes.take (min f.length classicCapacity) :=
  Payload.take_zeroFrom (Nat.min_le_right _ _) (Nat.le_trans (Nat.min_le_right _ _) (by decide))

theorem data_toFd (f : Frame) : f.toFd.data = f.data := by
  have whole := f.payload.length_bytes
  change f.payload.bytes.take (min f.length fdCapacity) = f.payload.bytes.take f.length
  rw [List.take_eq_take_iff, whole, fdCapacity]
  omega

/-- A transition made again changes nothing. -/
theorem withKind_withKind (f : Frame) (k : Kind) : (f.withKind k).withKind k = f.withKind k := by
  have cut {n : Nat} : (f.payload.zeroFrom n).zeroFrom n = f.payload.zeroFrom n :=
    Payload.blankFrom_zeroFrom.zeroFrom_eq
  have short {n : Nat} : min (min f.length n) n = min f.length n :=
    Nat.min_eq_left (Nat.min_le_right f.length n)
  cases k with
  | data => simp only [withKind, toData, word_and_self, short, cut]
  | fd => simp only [withKind, toFd, word_and_self, short]
  | error =>
    have kept : errorFlag &&& ~~~remoteFlag = errorFlag := by decide
    have again := word_and_or_again f.word kept
    simp only [withKind, toError, again, cut]
  | remote =>
    have kept : remoteFlag &&& ~~~errorFlag = remoteFlag := by decide
    have again := word_and_or_again f.word kept
    simp only [withKind, toRemote, again, cut]
  | unknown => rfl

/-- What a flexible data rate frame can hold and the frame before could not is nothing. -/
theorem withKind_toFd (f : Frame) (k : Kind) : f.toFd.withKind k = f.withKind k := by
  have short : min (min f.length fdCapacity) classicCapacity = min f.length classicCapacity := by
    rw [Nat.min_assoc]
    rfl
  -- the flag that the new kind sets was cleared on the way, which is not seen any more
  have cleared (keep flag : UInt32)
      (split : ~~~(remoteFlag ||| errorFlag) &&& keep = keep &&& ~~~flag) :
      f.word &&& ~~~(remoteFlag ||| errorFlag) &&& keep ||| flag = f.word &&& keep ||| flag := by
    rw [UInt32.and_assoc, split, ← UInt32.and_assoc, word_and_complement_or]
  cases k with
  | data => simp only [withKind, toFd, toData, word_and_self, short]
  | fd => exact f.withKind_withKind .fd
  | error => simp only [withKind, toFd, toError, cleared (~~~remoteFlag) errorFlag (by decide)]
  | remote => simp only [withKind, toFd, toRemote, cleared (~~~errorFlag) remoteFlag (by decide)]
  | unknown => rfl

/-- A frame is another one as a frame of some kind. -/
structure Becomes (f g : Frame) (k : Kind) : Prop where
  kind : g.kind = k
  derivedKind : g.derivedKind = k
  single : Kind.known.countP g.isOf = 1
  length_le : g.length ≤ g.maxLength
  canId : g.canId = f.canId
  isExtended : g.isExtended = f.isExtended
  data_classic : k = .data → g.data = f.payload.bytes.take (min f.length classicCapacity)
  data_fd : k = .fd → g.data = f.data

theorem kind_withKind (f : Frame) (k : Kind) : (f.withKind k).kind = k := by
  cases k <;> rfl

/-- A frame of a known kind is of no other. -/
theorem countP_isOf (known : f.kind ≠ .unknown) : Kind.known.countP f.isOf = 1 := by
  have single : ∀ k : Kind, k ≠ .unknown → Kind.known.countP (fun l => k == l) = 1 := by
    intro k known
    cases k with
    | unknown => exact absurd rfl known
    | data => rfl
    | fd => rfl
    | error => rfl
    | remote => rfl
  exact single f.kind known

theorem becomes_withKind (known : k ≠ .unknown) : f.Becomes (f.withKind k) k := by
  have kind := f.kind_withKind k
  have canonical := canonical_withKind f k
  have other : (f.withKind k).kind ≠ .unknown := by
    rw [kind]
    exact known
  refine ⟨kind, ?_, countP_isOf other, canonical.shaped.length_le, canId_withKind known,
    isExtended_withKind known, ?_, ?_⟩
  · exact (canonical.derivedKind_eq_kind (flagged_withKind f k)).trans kind
  · rintro rfl
    exact f.data_toData
  · rintro rfl
    exact f.data_toFd

/-- A transition to a known kind makes every frame one of this kind, which keeps the number and the
format of its identifier and as much of its data as the kind takes. Made again it changes nothing,
and a frame made a flexible data rate frame first becomes the same data frame. -/
theorem transition_canonical (f : Frame) {k : Kind} (known : k ≠ .unknown) :
    f.Becomes (f.withKind k) k ∧ (f.withKind k).withKind k = f.withKind k ∧
      f.toFd.toData = f.toData :=
  ⟨becomes_withKind known, f.withKind_withKind k, f.withKind_toFd .data⟩

/-- A flexible data rate frame with all flags, which holds two bytes beyond its ten bytes of data.
-/
def overfull : Frame :=
  (ofKind .fd).change [.data (List.replicate 12 7), .length 10, .word 0xFFFFFFFF, .fdFlags ⟨3⟩]

theorem transition_canonical_overfull :
    Frame.Kind.error ≠ .unknown ∧ overfull.kind = .fd ∧
      overfull.Becomes (overfull.withKind .error) .error ∧
      (overfull.withKind .error).withKind .error = overfull.withKind .error ∧
      overfull.toFd.toData = overfull.toData :=
  ⟨nofun, rfl, transition_canonical overfull nofun⟩

end Frame

end CanStream
