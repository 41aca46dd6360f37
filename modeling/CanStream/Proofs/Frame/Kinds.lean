import CanStream.Proofs.Frame.Block
import Mathlib.Data.Nat.Bitwise
import Mathlib.Data.UInt

/-!
# Kinds of frames

The kind of a frame is stored, and it is also recognised from the header: from the sentinels, from
the length, and from the two flags for errors and remote requests in the identifier word. What a
kind asks of these fields is said here once; a frame is recognised as of a known kind exactly if its
fields are as that kind asks.
-/

namespace CanStream

section

variable {word mask flag : UInt32}

theorem word_or_and (a b c : UInt32) : (a ||| b) &&& c = a &&& c ||| b &&& c := by
  apply UInt32.toNat_inj.mp
  simp only [UInt32.toNat_and, UInt32.toNat_or, Nat.and_or_distrib_right]

theorem word_and_and_of_apart (apart : mask &&& flag = 0) : word &&& mask &&& flag = 0 := by
  rw [UInt32.and_assoc, apart, UInt32.and_zero]

theorem word_and_and_of_within (within : mask &&& flag = flag) :
    word &&& mask &&& flag = word &&& flag := by
  rw [UInt32.and_assoc, within]

theorem word_or_and_of_apart (apart : mask &&& flag = 0) :
    (word ||| mask) &&& flag = word &&& flag := by
  rw [word_or_and, apart, UInt32.or_zero]

theorem word_or_flag_and (set : flag ≠ 0) : (word ||| flag) &&& flag ≠ 0 := by
  rw [word_or_and, UInt32.and_self]
  intro zero
  exact set (UInt32.or_eq_zero_iff.mp zero).2

theorem complement_and_of_apart (apart : mask &&& flag = 0) : ~~~mask &&& flag = flag := by
  have all : (~~~mask ||| mask) &&& flag = flag := by
    rw [UInt32.not_or_self, UInt32.neg_one_and]
  rwa [word_or_and, apart, UInt32.or_zero] at all

theorem word_and_self : word &&& mask &&& mask = word &&& mask := by
  rw [UInt32.and_assoc, UInt32.and_self]

/-- Bits that are set need not be cleared before. -/
theorem word_and_complement_or : word &&& ~~~mask ||| mask = word ||| mask := by
  apply UInt32.toBitVec_inj.mp
  apply BitVec.eq_of_getLsbD_eq
  intro i inside
  simp only [UInt32.toBitVec_or, UInt32.toBitVec_and, UInt32.toBitVec_not, BitVec.getLsbD_or,
    BitVec.getLsbD_and, BitVec.getLsbD_not]
  cases mask.toBitVec.getLsbD i with
  | true => simp
  | false => simp [inside]

/-- To clear and to set the same bits again changes nothing. -/
theorem word_and_or_again (word : UInt32) (within : flag &&& mask = flag) :
    (word &&& mask ||| flag) &&& mask ||| flag = word &&& mask ||| flag := by
  rw [word_or_and, word_and_self, within, UInt32.or_assoc, UInt32.or_self]

/-- A bit of two words is the same if it is set in both or in none. -/
theorem word_and_flag_congr {word' : UInt32} {i : Nat} (bit : flag.toNat = 2 ^ i)
    (same : word &&& flag ≠ 0 ↔ word' &&& flag ≠ 0) : word &&& flag = word' &&& flag := by
  have either (w : UInt32) : w &&& flag = 0 ∨ w &&& flag = flag := by
    simp only [← UInt32.toNat_inj, UInt32.toNat_and, bit, Nat.and_two_pow, UInt32.toNat_zero]
    cases w.toNat.testBit i with
    | false => exact .inl (Nat.zero_mul _)
    | true => exact .inr (Nat.one_mul _)
  rcases either word with clear | full
  · rw [clear, eq_comm]
    exact not_not.mp fun set => same.mpr set clear
  · rcases either word' with clear' | full'
    · rw [clear']
      exact not_not.mp fun set => same.mp set clear'
    · rw [full, full']

/-- A number below a power of two does not have its bit. -/
theorem ofNat_and_two_pow {n i : Nat} (below : n < 2 ^ i) (bit : flag.toNat = 2 ^ i) :
    UInt32.ofNat n &&& flag = 0 := by
  have absent : (n % 2 ^ 32).testBit i = false :=
    Nat.testBit_lt_two_pow (Nat.lt_of_le_of_lt (Nat.mod_le n _) below)
  apply UInt32.toNat_inj.mp
  rw [UInt32.toNat_and, UInt32.toNat_ofNat', bit, Nat.and_two_pow, absent]
  simp

end

/-- The word of an identifier has no flag but the one of its format. -/
theorem CanId.word_and_flag (id : CanId) {flag : UInt32} (above : 2 ^ 29 ≤ flag.toNat)
    {i : Nat} (bit : flag.toNat = 2 ^ i) (apart : extendedFlag &&& flag = 0) :
    id.word &&& flag = 0 := by
  cases id with
  | standard n =>
    have below : n.val < 2 ^ i := by omega
    exact ofNat_and_two_pow below bit
  | extended n =>
    have below : n.val < 2 ^ i := by omega
    rw [CanId.word, word_or_and_of_apart apart]
    exact ofNat_and_two_pow below bit

namespace Payload

/-- There are only zeros from a position on. -/
def BlankFrom (p : Payload) (n : Nat) : Prop := ∀ b ∈ p.bytes.drop n, b = 0

variable {p : Payload} {m n : Nat}

theorem BlankFrom.mono (h : p.BlankFrom m) (le : m ≤ n) : p.BlankFrom n := by
  intro b member
  apply h b
  rw [← Nat.add_sub_cancel' le, ← List.drop_drop] at member
  exact List.mem_of_mem_drop member

theorem blankFrom_of_length_le (whole : 64 ≤ n) : p.BlankFrom n := by
  intro b member
  rw [List.drop_of_length_le (p.length_bytes.trans_le whole)] at member
  cases member

theorem blankFrom_zero : zero.BlankFrom n := by
  intro b member
  exact List.eq_of_mem_replicate (List.mem_of_mem_drop member)

theorem blankFrom_zeroFrom : (p.zeroFrom n).BlankFrom n := by
  intro b member
  simp only [zeroFrom, List.drop_append] at member
  rw [List.drop_eq_nil_of_le (List.length_take_le n _), List.nil_append] at member
  exact List.eq_of_mem_replicate (List.mem_of_mem_drop member)

theorem BlankFrom.overwrite (h : p.BlankFrom n) {data : List UInt8} (fits : data.length ≤ n) :
    (p.overwrite data).BlankFrom n := by
  have short : (data.take 64).length ≤ n := Nat.le_trans (List.length_take_le' 64 data) fits
  have bound : (data.take 64).length ≤ data.length := List.length_take_le' 64 data
  intro b member
  simp only [Payload.overwrite, List.drop_append] at member
  rw [List.drop_eq_nil_of_le short, List.nil_append, List.drop_drop] at member
  exact h.mono (by omega) b member

theorem BlankFrom.setByte (h : p.BlankFrom n) {i : Nat} (inside : i < n) (v : UInt8) :
    (p.setByte i v).BlankFrom n := by
  intro b member
  simp only [Payload.setByte, List.drop_set_of_lt inside] at member
  exact h b member

/-- Zeros may be written over zeros. -/
theorem BlankFrom.zeroFrom_eq (h : p.BlankFrom n) : p.zeroFrom n = p := by
  have zeros : p.bytes.drop n = List.replicate (64 - n) 0 :=
    List.eq_replicate_iff.mpr ⟨by rw [List.length_drop, p.length_bytes], h⟩
  cases p with
  | mk bytes length =>
    rw [zeroFrom, Payload.mk.injEq, ← zeros]
    exact List.take_append_drop n bytes

theorem ext_bytes {q : Payload} (same : p.bytes = q.bytes) : p = q := by
  cases p
  cases q
  exact Payload.mk.injEq .. ▸ same

theorem take_zeroFrom (le : n ≤ m) (fits : n ≤ 64) :
    (p.zeroFrom m).bytes.take n = p.bytes.take n := by
  have size : n ≤ (p.bytes.take m).length := by
    rw [List.length_take, p.length_bytes]
    omega
  rw [zeroFrom, List.take_append_of_le_length size, List.take_take, Nat.min_eq_left le]

theorem zeroFrom_zeroFrom (le : n ≤ m) (fits : n ≤ 64) :
    (p.zeroFrom m).zeroFrom n = p.zeroFrom n := by
  apply ext_bytes
  change (p.zeroFrom m).bytes.take n ++ List.replicate (64 - n) 0 = p.bytes.take n ++ _
  rw [take_zeroFrom le fits]

end Payload

namespace Frame

/-! ## What a kind asks for -/

/-- The sentinels of the layout of a kind. -/
def Kind.sentinels : Kind → UInt8 × UInt8
  | .data => (8, 16)
  | .fd => (64, 72)
  | .error => (8, 16)
  | .remote => (8, 16)
  | .unknown => (0, 0)

/-- The flags for errors and remote requests are set in a word as a kind prescribes: the first for
error frames only, the second for remote requests only. Nothing is prescribed for unknown frames. -/
def Kind.Flags (k : Kind) (word : UInt32) : Prop :=
  k ≠ .unknown →
    (word &&& errorFlag ≠ 0 ↔ k = .error) ∧ (word &&& remoteFlag ≠ 0 ↔ k = .remote)

/-- The sentinels and the length are those of a frame of some kind. -/
structure Shaped (f : Frame) (k : Kind) : Prop where
  sentinels : (f.sentinel0, f.sentinel1) = k.sentinels
  length_le : f.length ≤ k.maxLength
  length_error : k = .error → f.length = classicCapacity

theorem Kind.Flags.congr {k : Kind} {word word' : UInt32} (h : k.Flags word)
    (error : word' &&& errorFlag = word &&& errorFlag)
    (remote : word' &&& remoteFlag = word &&& remoteFlag) : k.Flags word' := by
  rw [Kind.Flags, error, remote]
  exact h

theorem Kind.maxLength_le (k : Kind) : k.maxLength ≤ 64 := by
  cases k <;> decide

/-- The sentinels of a known kind name its layout. -/
theorem Shaped.transferUnit {f : Frame} {k : Kind} (h : f.Shaped k) (known : k ≠ .unknown) :
    (capacity? f.sentinel0 f.sentinel1).map (· + headerSize) = some k.transferUnit := by
  obtain ⟨eq0, eq1⟩ := Prod.mk.inj h.sentinels
  rw [eq0, eq1]
  cases k with
  | unknown => exact absurd rfl known
  | data => rfl
  | fd => rfl
  | error => rfl
  | remote => rfl

/-- The kind that a frame is recognised as does not depend on its payload or its stored kind. -/
theorem derivedKind_congr {f g : Frame} (word : g.word = f.word) (length : g.length = f.length)
    (sentinel0 : g.sentinel0 = f.sentinel0) (sentinel1 : g.sentinel1 = f.sentinel1) :
    g.derivedKind = f.derivedKind := by
  simp only [derivedKind, word, length, sentinel0, sentinel1]

theorem kind_frame (h : Header) (payload : Payload) :
    (h.frame payload).kind = (h.frame payload).derivedKind :=
  derivedKind_congr rfl rfl rfl rfl

theorem capacity?_eq_some {s0 s1 : UInt8} {n : Nat} (named : capacity? s0 s1 = some n) :
    (s0, s1) = (8, 16) ∧ n = 8 ∨ (s0, s1) = (64, 72) ∧ n = 64 := by
  unfold capacity? at named
  split at named
  · rename_i classic
    cases named
    exact .inl ⟨Prod.ext classic.1 classic.2, rfl⟩
  · split at named
    · rename_i fd
      cases named
      exact .inr ⟨Prod.ext fd.1 fd.2, rfl⟩
    · cases named

theorem and_eq_of_ite_eq {P : Prop} [Decidable P] {k found : Kind}
    (derived : (if P then found else .unknown) = k) (known : k ≠ .unknown) : P ∧ found = k := by
  by_cases fits : P
  · rw [if_pos fits] at derived
    exact ⟨fits, derived⟩
  · rw [if_neg fits] at derived
    exact absurd derived.symm known

/-- A frame of a recognised kind has that kind's shape and flags. -/
theorem shaped_of_derivedKind {f : Frame} {k : Kind} (derived : f.derivedKind = k)
    (known : k ≠ .unknown) : f.Shaped k ∧ k.Flags f.word := by
  simp only [Kind.Flags, ← bne_iff_ne (b := (0 : UInt32))]
  unfold derivedKind at derived
  generalize (f.word &&& errorFlag != 0) = isError at derived ⊢
  generalize (f.word &&& remoteFlag != 0) = isRemote at derived ⊢
  cases named : capacity? f.sentinel0 f.sentinel1 with
  | none =>
    simp only [named] at derived
    exact absurd derived.symm known
  | some n =>
    simp only [named] at derived
    rcases capacity?_eq_some named with ⟨sentinels, rfl⟩ | ⟨sentinels, rfl⟩
    · match isError, isRemote with
      | false, false =>
        obtain ⟨fits, rfl⟩ := and_eq_of_ite_eq derived known
        exact ⟨⟨sentinels, fits, nofun⟩, by simp⟩
      | true, false =>
        obtain ⟨fits, rfl⟩ := and_eq_of_ite_eq derived known
        exact ⟨⟨sentinels, Nat.le_of_eq fits, fun _ => fits⟩, by simp⟩
      | false, true =>
        obtain ⟨fits, rfl⟩ := and_eq_of_ite_eq derived known
        exact ⟨⟨sentinels, Nat.le_of_eq fits, nofun⟩, by simp⟩
      | true, true => exact absurd derived.symm known
    · obtain ⟨fits, rfl⟩ := and_eq_of_ite_eq derived known
      simp only [Bool.and_eq_true, Bool.not_eq_true', decide_eq_true_eq] at fits
      obtain ⟨⟨rfl, rfl⟩, fits⟩ := fits
      exact ⟨⟨sentinels, fits, nofun⟩, by simp⟩

/-- A frame with the shape and the flags of a kind is recognised as of that kind. -/
theorem derivedKind_eq {f : Frame} {k : Kind} (shaped : f.Shaped k) (flags : k.Flags f.word) :
    f.derivedKind = k := by
  have capacity : capacity? f.sentinel0 f.sentinel1 = capacity? k.sentinels.1 k.sentinels.2 := by
    rw [← shaped.sentinels]
  have length := shaped.length_le
  simp only [Kind.Flags, ← bne_iff_ne (b := (0 : UInt32))] at flags
  unfold derivedKind
  rw [capacity]
  generalize (f.word &&& errorFlag != 0) = isError at flags ⊢
  generalize (f.word &&& remoteFlag != 0) = isRemote at flags ⊢
  cases k with
  | unknown => rfl
  | data =>
    obtain ⟨rfl, rfl⟩ : isError = false ∧ isRemote = false := by simpa using flags nofun
    exact if_pos length
  | fd =>
    obtain ⟨rfl, rfl⟩ : isError = false ∧ isRemote = false := by simpa using flags nofun
    exact if_pos (decide_eq_true length)
  | error =>
    obtain ⟨rfl, rfl⟩ : isError = true ∧ isRemote = false := by simpa using flags nofun
    exact if_pos (shaped.length_error rfl)
  | remote =>
    obtain ⟨rfl, rfl⟩ : isError = false ∧ isRemote = true := by simpa using flags nofun
    exact if_pos (Nat.le_zero.mp length)

theorem length_le_of_derivedKind {f : Frame} (known : f.derivedKind ≠ .unknown) :
    f.length ≤ f.derivedKind.maxLength :=
  (shaped_of_derivedKind rfl known).1.length_le

/-- A kind that is recognised from the sentinels agrees with them. -/
theorem transferUnit_derivedKind {f : Frame} (known : f.derivedKind ≠ .unknown) :
    (capacity? f.sentinel0 f.sentinel1).map (· + headerSize) = some f.derivedKind.transferUnit :=
  (shaped_of_derivedKind rfl known).1.transferUnit known

end Frame

end CanStream
