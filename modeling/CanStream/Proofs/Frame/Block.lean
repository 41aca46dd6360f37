import CanStream.Frame.Stream
import Mathlib.Data.List.Basic

/-!
# Blocks in the kernel's layout

A block says in its own sentinels how large it is. A byte string of blocks, one behind another, is
therefore taken apart in one way only, whatever sizes are mixed in it.
-/

namespace CanStream.Frame

theorem exists_header (order : ByteOrder) {bytes : List UInt8} (long : headerSize ≤ bytes.length) :
    ∃ h : Header, Header.decode? order bytes = some (h, bytes.drop headerSize) ∧
      bytes[6]? = some h.sentinel0 ∧ bytes[7]? = some h.sentinel1 := by
  match bytes, long with
  | a :: b :: c :: d :: length :: flags :: s0 :: s1 :: rest, _ =>
    exact ⟨⟨order.decode a b c d, length, flags, s0, s1⟩, rfl, rfl, rfl⟩

/-- A header is decoded from the first eight bytes alone. -/
theorem decode?_take (order : ByteOrder) {bytes : List UInt8} {n : Nat} (long : headerSize ≤ n) :
    Header.decode? order (bytes.take n) =
      (Header.decode? order bytes).map fun p => (p.1, p.2.take (n - headerSize)) := by
  obtain ⟨m, rfl⟩ := Nat.exists_eq_add_of_le long
  rw [Nat.add_comm, Nat.add_sub_cancel]
  match bytes with
  | [] => rfl
  | [_] => rfl
  | [_, _] => rfl
  | [_, _, _] => rfl
  | [_, _, _, _] => rfl
  | [_, _, _, _, _] => rfl
  | [_, _, _, _, _, _] => rfl
  | [_, _, _, _, _, _, _] => rfl
  | a :: b :: c :: d :: length :: flags :: s0 :: s1 :: rest => rfl

theorem capacity?_cases {s0 s1 : UInt8} {n : Nat} (h : capacity? s0 s1 = some n) :
    n = classicCapacity ∨ n = fdCapacity := by
  unfold capacity? at h
  split at h
  · exact .inl (Option.some.inj h).symm
  · split at h
    · exact .inr (Option.some.inj h).symm
    · cases h

theorem sizeAt?_cases {bytes : List UInt8} {n : Nat} (h : sizeAt? bytes = some n) :
    (n = classicUnit ∨ n = fdUnit) := by
  unfold sizeAt? at h
  split at h
  · rw [Option.map_eq_some_iff] at h
    obtain ⟨capacity, named, rfl⟩ := h
    rcases capacity?_cases named with rfl | rfl
    · exact .inl rfl
    · exact .inr rfl
  · cases h

theorem sizeAt?_take {bytes : List UInt8} {n : Nat} (header : headerSize ≤ n) :
    sizeAt? (bytes.take n) = sizeAt? bytes := by
  have isEight : headerSize = 8 := rfl
  have at6 : (bytes.take n)[6]? = bytes[6]? := List.getElem?_take_of_lt (by omega)
  have at7 : (bytes.take n)[7]? = bytes[7]? := List.getElem?_take_of_lt (by omega)
  rw [sizeAt?, sizeAt?, at6, at7]

theorem sizeAt?_append {bytes : List UInt8} (header : headerSize ≤ bytes.length)
    (tail : List UInt8) : sizeAt? (bytes ++ tail) = sizeAt? bytes := by
  rw [← sizeAt?_take header, List.take_left]

theorem sizeAt?_eq_none {bytes : List UInt8} (short : bytes.length < headerSize) :
    sizeAt? bytes = none := by
  have isEight : headerSize = 8 := rfl
  have at7 : bytes[7]? = none := List.getElem?_eq_none (by omega)
  rw [sizeAt?, at7]
  split
  case h_1 found => cases found
  case h_2 => rfl

/-- The size of the block at the start of a byte string: that of a flexible data rate frame if the
sentinels name one, and that of a classic frame whatever else stands in their place. -/
def blockSize (bytes : List UInt8) : Nat :=
  if bytes[6]? = some 64 ∧ bytes[7]? = some 72 then fdUnit else classicUnit

theorem blockSize_eq (bytes : List UInt8) :
    blockSize bytes = (sizeAt? bytes).getD classicUnit := by
  unfold blockSize
  split
  case isTrue flexible =>
    rw [sizeAt?, flexible.1, flexible.2]
    rfl
  case isFalse other =>
    unfold sizeAt?
    split
    case h_1 s0 s1 at6 at7 =>
      have unnamed : ¬(s0 = 64 ∧ s1 = 72) := by
        rintro ⟨rfl, rfl⟩
        exact other ⟨at6, at7⟩
      rw [capacity?, if_neg unnamed]
      split
      · rfl
      · rfl
    case h_2 => rfl

theorem headerSize_le_blockSize (bytes : List UInt8) : headerSize ≤ blockSize bytes := by
  unfold blockSize
  split <;> decide

/-- The room that a block has for its payload. -/
theorem headerSize_add_capacity {bytes : List UInt8} {s0 s1 : UInt8} (at6 : bytes[6]? = some s0)
    (at7 : bytes[7]? = some s1) :
    headerSize + (capacity? s0 s1).getD classicCapacity = blockSize bytes := by
  have named : sizeAt? bytes = (capacity? s0 s1).map (· + headerSize) := by rw [sizeAt?, at6, at7]
  rw [blockSize_eq, named]
  cases capacity? s0 s1 with
  | none => rfl
  | some capacity => exact Nat.add_comm _ _

/-- A whole block is decoded, from its own bytes alone. -/
theorem exists_ofKernel? {bytes : List UInt8} (whole : blockSize bytes ≤ bytes.length) :
    ∃ f, ofKernel? bytes = some (f, blockSize bytes) ∧
      ofKernel? (bytes.take (blockSize bytes)) = some (f, blockSize bytes) := by
  have long := headerSize_le_blockSize bytes
  obtain ⟨h, decoded, at6, at7⟩ := exists_header .native (Nat.le_trans long whole)
  have total := headerSize_add_capacity at6 at7
  have room : (capacity? h.sentinel0 h.sentinel1).getD classicCapacity =
      blockSize bytes - headerSize := by omega
  have decodedTake : Header.decode? .native (bytes.take (blockSize bytes)) =
      some (h, (bytes.drop headerSize).take (blockSize bytes - headerSize)) := by
    rw [decode?_take .native long, decoded]
    rfl
  have enough : ¬(bytes.drop headerSize).length < blockSize bytes - headerSize := by
    rw [List.length_drop]
    omega
  have enoughTake : ¬((bytes.drop headerSize).take (blockSize bytes - headerSize)).length <
      blockSize bytes - headerSize := by
    rw [List.length_take]
    omega
  rw [room] at total
  simp only [ofKernel?, decoded, decodedTake, room, if_neg enough, if_neg enoughTake,
    List.take_take, Nat.min_self, total]
  split
  · exact ⟨_, rfl, rfl⟩
  · exact ⟨_, rfl, rfl⟩

/-- A block that nobody could read is decoded as an error frame, so that every decoded frame is of a
known kind. -/
theorem kind_ne_of_ofKernel? {bytes : List UInt8} {f : Frame} {n : Nat}
    (found : ofKernel? bytes = some (f, n)) : f.kind ≠ .unknown := by
  unfold ofKernel? at found
  split at found
  case h_1 => cases found
  case h_2 h body decoded =>
    simp only at found
    split at found
    · cases found
    · split at found
      · cases found
        exact Kind.noConfusion
      · rename_i usable
        cases found
        intro unknown
        exact usable (.inr unknown)

theorem ofKernel?_bounds {bytes : List UInt8} {f : Frame} {n : Nat}
    (h : ofKernel? bytes = some (f, n)) : headerSize ≤ n ∧ n ≤ bytes.length := by
  unfold ofKernel? at h
  split at h
  case h_1 => cases h
  case h_2 header rest decoded =>
    have long : bytes.length = headerSize + rest.length := by
      unfold Header.decode? at decoded
      split at decoded
      · cases decoded
        simp only [List.length_cons, headerSize]
        omega
      · cases decoded
    simp only at h
    split at h
    · cases h
    · split at h <;> cases h <;> omega

/-- The frames in a byte string, block by block from its start. -/
def framesIn (bytes : List UInt8) : List Frame :=
  match _found : ofKernel? bytes with
  | none => []
  | some (f, n) => f :: framesIn (bytes.drop n)
termination_by bytes.length
decreasing_by
  have bounds := ofKernel?_bounds _found
  have header : headerSize = 8 := rfl
  rw [List.length_drop]
  omega

theorem framesIn_nil : framesIn [] = [] := by
  rw [framesIn]
  rfl

theorem framesIn_eq_cons {bytes : List UInt8} {f : Frame} {n : Nat}
    (found : ofKernel? bytes = some (f, n)) : framesIn bytes = f :: framesIn (bytes.drop n) := by
  rw [framesIn]
  split
  case h_1 malformed =>
    rw [malformed] at found
    cases found
  case h_2 g m found' =>
    rw [found, Option.some.injEq, Prod.mk.injEq] at found'
    obtain ⟨rfl, rfl⟩ := found'
    rfl

end CanStream.Frame
