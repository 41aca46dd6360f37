import CanStream.Proofs.Frame.Made
import Mathlib.Data.UInt

/-!
# Frames in a stream, there and back

A header says how many payload bytes follow it, so frames written one behind another come apart
again whatever stands behind the last one. The other way round, every byte string that is long
enough for what its header says is read, and what was read writes the same bytes again unless the
header described no frame.
-/

namespace CanStream

namespace ByteOrder

theorem toNat_byteOf (word : UInt32) (i : Nat) :
    (byteOf word i).toNat = word.toNat / 256 ^ i % 256 := by
  have base : (2 : Nat) ^ (8 * i) = 256 ^ i := by rw [Nat.pow_mul]
  simp only [byteOf, UInt8.toNat_ofNat', Nat.shiftRight_eq_div_pow, base]

/-- A word is made up of its four bytes. -/
theorem decode_encode (order : ByteOrder) (word : UInt32) {a b c d : UInt8}
    (bytes : order.encode word = [a, b, c, d]) : order.decode a b c d = word := by
  have bound := word.toNat_lt
  apply UInt32.toNat_inj.mp
  cases order with
  | little =>
    simp only [encode, List.cons.injEq, and_true] at bytes
    obtain ⟨rfl, rfl, rfl, rfl⟩ := bytes
    simp only [decode, toNat_byteOf, UInt32.toNat_ofNat']
    omega
  | big =>
    simp only [encode, List.reverse_cons, List.reverse_nil, List.nil_append, List.cons_append,
      List.cons.injEq, and_true] at bytes
    obtain ⟨rfl, rfl, rfl, rfl⟩ := bytes
    simp only [decode, toNat_byteOf, UInt32.toNat_ofNat']
    omega

theorem exists_encode (order : ByteOrder) (word : UInt32) :
    ∃ a b c d, order.encode word = [a, b, c, d] := by
  cases order with
  | little => exact ⟨_, _, _, _, rfl⟩
  | big => exact ⟨_, _, _, _, rfl⟩

/-- Four bytes are the bytes of the word they make up. -/
theorem encode_decode (order : ByteOrder) (a b c d : UInt8) :
    order.encode (order.decode a b c d) = [a, b, c, d] := by
  have ha := a.toNat_lt
  have hb := b.toNat_lt
  have hc := c.toNat_lt
  have hd := d.toNat_lt
  cases order with
  | little =>
    simp only [encode, decode, List.cons.injEq, and_true]
    refine ⟨?_, ?_, ?_, ?_⟩
    all_goals
      apply UInt8.toNat_inj.mp
      simp only [toNat_byteOf, UInt32.toNat_ofNat']
      omega
  | big =>
    simp only [encode, decode, List.reverse_cons, List.reverse_nil, List.nil_append,
      List.cons_append, List.cons.injEq, and_true]
    refine ⟨?_, ?_, ?_, ?_⟩
    all_goals
      apply UInt8.toNat_inj.mp
      simp only [toNat_byteOf, UInt32.toNat_ofNat']
      omega

end ByteOrder

namespace Frame

theorem Header.decode?_encode (h : Header) (order : ByteOrder) (rest : List UInt8) :
    Header.decode? order (h.encode order ++ rest) = some (h, rest) := by
  obtain ⟨a, b, c, d, word⟩ := order.exists_encode h.word
  rw [Header.encode, word]
  simp only [List.cons_append, List.nil_append, Header.decode?, order.decode_encode h.word word]

/-- A byte string begins with the bytes of the header decoded from it. -/
theorem Header.encode_append_of_decode? {order : ByteOrder} {bytes rest : List UInt8} {h : Header}
    (decoded : Header.decode? order bytes = some (h, rest)) : h.encode order ++ rest = bytes := by
  unfold Header.decode? at decoded
  split at decoded
  · cases decoded
    simp only [Header.encode, order.encode_decode, List.cons_append, List.nil_append]
  · cases decoded

theorem maxLength_add_headerSize_le {k : Kind} (known : k ≠ .unknown) :
    k.maxLength + headerSize ≤ k.transferUnit := by
  cases k with
  | unknown => exact absurd rfl known
  | data => decide
  | fd => decide
  | error => decide
  | remote => decide

/-- A frame of a recognised kind is no longer than what its sentinels name. -/
theorem exists_capacity?_of_derivedKind {f : Frame} (known : f.derivedKind ≠ .unknown) :
    ∃ n, capacity? f.sentinel0 f.sentinel1 = some n ∧ f.length ≤ n ∧ n ≤ 64 := by
  have named := transferUnit_derivedKind known
  rw [Option.map_eq_some_iff] at named
  obtain ⟨n, named, total⟩ := named
  have fits := length_le_of_derivedKind known
  have room := maxLength_add_headerSize_le known
  refine ⟨n, named, by omega, ?_⟩
  rcases capacity?_cases named with rfl | rfl
  · decide
  · decide

/-! ## What was written is read -/

theorem bytes_zero_overwrite {data : List UInt8} (fits : data.length ≤ 64) :
    (Payload.zero.overwrite data).bytes = data ++ List.replicate (64 - data.length) 0 := by
  simp only [Payload.overwrite, Payload.zero, List.take_of_length_le fits, List.drop_replicate]

theorem length_data {f : Frame} (fits : f.length ≤ 64) : f.data.length = f.length := by
  simp only [data, List.length_take, f.payload.length_bytes]
  omega

/-- Bytes copied over zeros from the start of a payload. -/
theorem zero_overwrite_take (p : Payload) {n : Nat} (fits : n ≤ 64) :
    Payload.zero.overwrite (p.bytes.take n) = p.zeroFrom n := by
  have size : (p.bytes.take n).length = n := by
    rw [List.length_take, p.length_bytes, Nat.min_eq_left fits]
  have bytes := bytes_zero_overwrite (size.trans_le fits)
  rw [size] at bytes
  cases same : Payload.zero.overwrite (p.bytes.take n) with
  | mk written _ =>
    rw [same] at bytes
    simp only [Payload.zeroFrom, Payload.mk.injEq]
    exact bytes

theorem length_header {f : Frame} (fits : f.length ≤ 64) : f.header.length.toNat = f.length := by
  simp only [header, UInt8.toNat_ofNat']
  omega

/-- A frame that is recognised as what it is comes again from its header and its payload. -/
theorem frame_header {f : Frame} (agrees : f.derivedKind = f.kind) (fits : f.length ≤ 64)
    (payload : Payload) : f.header.frame payload = { f with payload := payload } := by
  have length := length_header fits
  have kind : (f.header.frame payload).kind = f.kind := by
    rw [kind_frame, ← agrees]
    exact derivedKind_congr rfl length rfl rfl
  simp only [Header.frame] at kind ⊢
  rw [kind, length]
  rfl

theorem capacity?_header {f : Frame} {n : Nat} (bound : n ≤ 64) (fits : f.length ≤ n)
    (named : capacity? f.sentinel0 f.sentinel1 = some n) : f.header.capacity? = some n := by
  rw [Header.capacity?, length_header (Nat.le_trans fits bound), Option.filter_eq_some_iff]
  exact ⟨named, decide_eq_true fits⟩

/-- A frame whose kind is the one it is recognised as is read from its own bytes, except what its
payload buffer holds beyond the data. -/
theorem decode_encode_append {f : Frame} (agrees : f.derivedKind = f.kind)
    (known : f.kind ≠ .unknown) (order : ByteOrder) (rest : List UInt8) :
    decode order (f.encode order ++ rest) =
      .ok ({ f with payload := f.payload.zeroFrom f.length }, rest) := by
  obtain ⟨n, named, fits, bound⟩ := exists_capacity?_of_derivedKind (agrees ▸ known)
  have inside := Nat.le_trans fits bound
  have valid : f.isValid = true := by simp [isValid, known]
  have taken : (f.data ++ rest).take f.length = f.data := by
    rw [← length_data inside, List.take_left]
  have left : (f.data ++ rest).drop f.length = rest := by
    rw [← length_data inside, List.drop_left]
  have enough : ¬(f.data ++ rest).length < f.length := by
    rw [List.length_append, length_data inside]
    omega
  rw [encode, if_pos valid, List.append_assoc, decode, Header.decode?_encode]
  simp only [capacity?_header bound fits named, length_header inside, if_neg enough, taken, left]
  rw [data, zero_overwrite_take f.payload inside, frame_header agrees inside, if_neg known]

/-- As many frames as are asked for, one behind another from the start of a byte string, and what
follows the last one. -/
def decodeMany (order : ByteOrder) : Nat → List UInt8 → Except IoError (List Frame × List UInt8)
  | 0, bytes => .ok ([], bytes)
  | n + 1, bytes => do
      let (f, rest) ← decode order bytes
      let (more, rest) ← decodeMany order n rest
      return (f :: more, rest)

/-- Frames written one behind another are read back one by one, and what stands behind the last one
is left. -/
theorem decodeMany_encodings (order : ByteOrder) (frames : List Frame) (tail : List UInt8)
    (recognised : ∀ f ∈ frames, f.derivedKind = f.kind ∧ f.kind ≠ .unknown) :
    decodeMany order frames.length (frames.flatMap (fun f => f.encode order) ++ tail) =
      .ok (frames.map fun f => { f with payload := f.payload.zeroFrom f.length }, tail) := by
  induction frames with
  | nil => rfl
  | cons f frames ih =>
    obtain ⟨agrees, known⟩ := recognised f List.mem_cons_self
    have rest := ih fun g member => recognised g (List.mem_cons_of_mem f member)
    rw [List.flatMap_cons, List.append_assoc, List.length_cons, decodeMany,
      decode_encode_append agrees known, List.map_cons]
    simp only [bind, Except.bind, rest]
    rfl

/-- Frames of four kinds, one of which holds a byte beyond its data. -/
def mixedFrames : List Frame :=
  [{ ofKind .data with length := 2, payload := Payload.zero.overwrite [1, 2, 3] },
    { ofKind .fd with length := 12, flags := 1, payload := Payload.zero.overwrite [4, 5, 6] },
    remote (.extended 0x12345), (ofKind .error).setCanId unknownFrameClass]

theorem decodeMany_mixed_frames :
    (∀ f ∈ mixedFrames, f.derivedKind = f.kind ∧ f.kind ≠ .unknown) ∧
      decodeMany .big 4 (mixedFrames.flatMap (fun f => f.encode .big) ++ [7, 7, 7]) =
        .ok (mixedFrames.map fun f => { f with payload := f.payload.zeroFrom f.length },
          [7, 7, 7]) := by
  have recognised : ∀ f ∈ mixedFrames, f.derivedKind = f.kind ∧ f.kind ≠ .unknown := by
    decide +kernel
  exact ⟨recognised, decodeMany_encodings .big mixedFrames [7, 7, 7] recognised⟩

/-! ## What was read is written -/

/-- How many payload bytes the header at the start of a byte string announces: none is announced
unless the sentinels name a layout and the length fits it. -/
def announced? (bytes : List UInt8) : Option Nat :=
  match bytes[4]?, bytes[6]?, bytes[7]? with
  | some length, some s0, some s1 =>
      match capacity? s0 s1 with
      | some capacity => if length.toNat ≤ capacity then some length.toNat else none
      | none => none
  | _, _, _ => none

/-- The byte string ends within its first header or within the payload announced there. -/
def CutShort (bytes : List UInt8) : Prop :=
  bytes.length < headerSize ∨ ∃ n, announced? bytes = some n ∧ bytes.length < headerSize + n

/-- What a byte string that is not cut short is read as: a frame of a kind that is recognised again,
from the header and the payload it announces. -/
structure ReadFrom (order : ByteOrder) (bytes : List UInt8) (f : Frame) (rest : List UInt8) :
    Prop where
  kind : f.kind = f.derivedKind
  known : f.kind ≠ .unknown
  length_le : f.length ≤ f.maxLength
  size : bytes.length = headerSize + (announced? bytes).getD 0 + rest.length
  suffix : bytes.drop (headerSize + (announced? bytes).getD 0) = rest
  canonical : ∃ h : Header, Header.decode? order bytes = some (h, bytes.drop headerSize) ∧
    if (h.frame .zero).kind = .unknown then
      f.kind = .error ∧ f.errorClass = ⟨unknownFrameClass⟩ ∧ f.data = List.replicate 8 0
    else f.encode order = bytes.take (headerSize + (announced? bytes).getD 0)

/-- What follows a header begins where the header ends. -/
theorem drop_of_decode? {order : ByteOrder} {bytes rest : List UInt8} {h : Header}
    (decoded : Header.decode? order bytes = some (h, rest)) :
    bytes.drop headerSize = rest ∧ bytes.length = headerSize + rest.length := by
  rw [← Header.encode_append_of_decode? decoded, ← length_encode_header h order]
  exact ⟨List.drop_left, List.length_append⟩

theorem announced?_of_decode? {order : ByteOrder} {bytes rest : List UInt8} {h : Header}
    (decoded : Header.decode? order bytes = some (h, rest)) :
    announced? bytes = h.capacity?.map fun _ => h.length.toNat := by
  have filtered : h.capacity? = match capacity? h.sentinel0 h.sentinel1 with
      | some n => if h.length.toNat ≤ n then some n else none
      | none => none := by
    rw [Header.capacity?]
    cases capacity? h.sentinel0 h.sentinel1 with
    | none => rfl
    | some n => simp [Option.filter]
  unfold Header.decode? at decoded
  split at decoded
  · cases decoded
    simp only [announced?, filtered, List.getElem?_cons_succ, List.getElem?_cons_zero]
    split
    · split
      · rfl
      · rfl
    · rfl
  · cases decoded

theorem decode?_eq_none {order : ByteOrder} {bytes : List UInt8}
    (short : bytes.length < headerSize) : Header.decode? order bytes = none := by
  cases decoded : Header.decode? order bytes with
  | none => rfl
  | some found =>
    have long := (drop_of_decode? decoded).2
    omega

/-- The bits of a mask that the new identifier and the flags settle, whatever the word was. -/
theorem word_asUnknownError_and (f : Frame) {mask : UInt32}
    (settled : ~~~extendedMask &&& (~~~remoteFlag &&& mask) = 0) :
    f.asUnknownError.word &&& mask =
      unknownFrameClass &&& extendedMask &&& (~~~remoteFlag &&& mask) ||| errorFlag &&& mask := by
  simp only [asUnknownError, setCanId, toError, word_or_and, UInt32.and_assoc]
  rw [settled, UInt32.and_zero, UInt32.zero_or]

theorem errorFlag_asUnknownError (f : Frame) :
    f.asUnknownError.word &&& errorFlag ≠ 0 := by
  intro unflagged
  simp only [asUnknownError, toError, word_or_and, UInt32.and_self] at unflagged
  rw [UInt32.or_eq_zero_iff] at unflagged
  exact absurd unflagged.2 (by decide)

theorem derivedKind_asUnknownError (f : Frame) : f.asUnknownError.derivedKind = .error := by
  have isError : (f.asUnknownError.word &&& errorFlag != 0) = true :=
    bne_iff_ne.mpr (errorFlag_asUnknownError f)
  have isRemote : f.asUnknownError.word &&& remoteFlag = 0 := by
    rw [word_asUnknownError_and f (by decide)]
    decide
  have length : f.asUnknownError.length = 8 := rfl
  have named : capacity? f.asUnknownError.sentinel0 f.asUnknownError.sentinel1 = some 8 := rfl
  simp [derivedKind, named, isError, isRemote, length]

theorem errorClass_asUnknownError (f : Frame) :
    f.asUnknownError.errorClass = ⟨unknownFrameClass⟩ := by
  have id : f.asUnknownError.canId = unknownFrameClass := by
    rw [canId, word_asUnknownError_and f (by decide)]
    decide
  have kind : f.asUnknownError.kind = .error := rfl
  rw [errorClass, if_pos kind, id]
  decide

section

variable {order : ByteOrder} {bytes body : List UInt8} {h : Header}

/-- A header of no frame, with as much behind it as it announces, is read as the error frame for
unknown frames. -/
theorem readFrom_asUnknownError (decoded : Header.decode? order bytes = some (h, body))
    (enough : (announced? bytes).getD 0 ≤ body.length) (unknown : (h.frame .zero).kind = .unknown)
    (f : Frame) :
    ReadFrom order bytes f.asUnknownError (body.drop ((announced? bytes).getD 0)) := by
  obtain ⟨behind, length⟩ := drop_of_decode? decoded
  refine ⟨(derivedKind_asUnknownError f).symm, ?_, Nat.le_refl 8, ?_, ?_, h, ?_, ?_⟩
  · intro absent
    cases absent
  · rw [List.length_drop]
    omega
  · rw [← List.drop_drop, behind]
  · rw [decoded, behind]
  · rw [if_pos unknown]
    exact ⟨rfl, errorClass_asUnknownError f, rfl⟩

/-- A frame made from a header and the payload it announces is written as both. -/
theorem encode_frame {data : List UInt8} (length : data.length = h.length.toNat)
    (known : (h.frame (Payload.zero.overwrite data)).kind ≠ .unknown) :
    (h.frame (Payload.zero.overwrite data)).encode order = h.encode order ++ data := by
  have valid : (h.frame (Payload.zero.overwrite data)).isValid = true := by
    simp [isValid, known]
  have again : (h.frame (Payload.zero.overwrite data)).header = h := by
    simp [Frame.header, Header.frame]
  rw [kind_frame] at known
  obtain ⟨n, -, fits, bound⟩ := exists_capacity?_of_derivedKind known
  have bytes := bytes_zero_overwrite (length.trans_le (Nat.le_trans fits bound))
  have payload : (h.frame (Payload.zero.overwrite data)).data = data := by
    simp only [Frame.data, Header.frame, bytes, ← length, List.take_left]
  rw [encode, if_pos valid, again, payload]

/-- A header of a frame is read with the payload it announces, and writes the same bytes. -/
theorem readFrom_frame (decoded : Header.decode? order bytes = some (h, body))
    (known : (h.frame .zero).kind ≠ .unknown)
    (announced : announced? bytes = some h.length.toNat) (enough : h.length.toNat ≤ body.length) :
    ReadFrom order bytes (h.frame (Payload.zero.overwrite (body.take h.length.toNat)))
      (body.drop h.length.toNat) := by
  obtain ⟨behind, length⟩ := drop_of_decode? decoded
  have derived := kind_frame h (Payload.zero.overwrite (body.take h.length.toNat))
  have recognised : (h.frame (Payload.zero.overwrite (body.take h.length.toNat))).kind ≠
      .unknown := by
    intro unknown
    exact known ((derivedKind_congr rfl rfl rfl rfl).trans unknown)
  refine ⟨derived, recognised, ?_, ?_, ?_, h, ?_, ?_⟩
  · rw [derived] at recognised
    rw [maxLength, derived]
    exact length_le_of_derivedKind recognised
  · rw [announced, Option.getD_some, List.length_drop]
    omega
  · rw [announced, Option.getD_some, ← List.drop_drop, behind]
  · rw [decoded, behind]
  · have taken : (body.take h.length.toNat).length = h.length.toNat := by
      rw [List.length_take, Nat.min_eq_left enough]
    have whole := Header.encode_append_of_decode? decoded
    rw [if_neg known, encode_frame taken recognised, announced, Option.getD_some, ← whole,
      ← length_encode_header h order, List.take_length_add_append]

theorem kind_eq_unknown_of_capacity? (noCapacity : h.capacity? = none) :
    (h.frame .zero).kind = .unknown := by
  by_contra known
  rw [kind_frame] at known
  obtain ⟨n, named, fits, -⟩ := exists_capacity?_of_derivedKind known
  have capacity : h.capacity? = some n := by
    rw [Header.capacity?, Option.filter_eq_some_iff]
    exact ⟨named, decide_eq_true fits⟩
  rw [noCapacity] at capacity
  cases capacity

theorem not_cutShort (decoded : Header.decode? order bytes = some (h, body))
    (enough : (announced? bytes).getD 0 ≤ body.length) : ¬CutShort bytes := by
  have length := (drop_of_decode? decoded).2
  rintro (short | ⟨n, announced, short⟩)
  · omega
  · rw [announced, Option.getD_some] at enough
    omega

end

/-- Reading fails only for want of bytes, and does so whenever a header or the payload it announces
is cut short. Every other byte string is read as a frame of a recognised kind. -/
theorem decode_outcome (order : ByteOrder) (bytes : List UInt8) :
    match decode order bytes with
    | .error cause => cause.kind = .unexpectedEof ∧ CutShort bytes
    | .ok (f, rest) => ¬CutShort bytes ∧ ReadFrom order bytes f rest := by
  by_cases long : headerSize ≤ bytes.length
  case neg =>
    have short := Nat.lt_of_not_le long
    rw [decode, decode?_eq_none short]
    exact ⟨rfl, .inl short⟩
  case pos =>
    obtain ⟨h, decoded, -⟩ := exists_header order long
    have announced := announced?_of_decode? decoded
    have unread := readFrom_asUnknownError decoded
    have whole := not_cutShort decoded
    rw [decode, decoded]
    simp only
    cases capacity : h.capacity? with
    | none =>
      rw [capacity, Option.map_none] at announced
      rw [announced, Option.getD_none] at unread whole
      exact ⟨whole (Nat.zero_le _),
        unread (Nat.zero_le _) (kind_eq_unknown_of_capacity? capacity) _⟩
    | some n =>
      rw [capacity, Option.map_some] at announced
      rw [announced, Option.getD_some] at unread whole
      simp only
      by_cases few : (bytes.drop headerSize).length < h.length.toNat
      · rw [if_pos few]
        rw [List.length_drop] at few
        exact ⟨rfl, .inr ⟨_, announced, by omega⟩⟩
      · rw [if_neg few]
        have enough := Nat.le_of_not_lt few
        have kind (payload : Payload) : (h.frame payload).kind = (h.frame .zero).kind :=
          derivedKind_congr rfl rfl rfl rfl
        refine ⟨whole enough, ?_⟩
        by_cases unknown : (h.frame .zero).kind = .unknown
        · rw [if_pos ((kind _).trans unknown)]
          exact unread enough unknown _
        · rw [if_neg (fun same => unknown ((kind _).symm.trans same))]
          exact readFrom_frame decoded unknown announced enough

end Frame

end CanStream
