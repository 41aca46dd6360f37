import CanStream.Protocol.IsoTp

/-!
# Payloads cut from bytes

Bytes that are longer than a payload may be are sent as several: full ones as long as they last, and
the rest. The lengths of payloads that wait one behind another tell where each of them ends.
-/

namespace CanStream.IsoTp

/-- The pieces that some bytes are sent as. -/
def pieces (data : List UInt8) : List (List UInt8) :=
  (List.range ((data.length + maxPayload - 1) / maxPayload)).map fun i =>
    (data.drop (i * maxPayload)).take maxPayload

/-- The first pieces of some bytes, of the given lengths. -/
def cut : List Nat → List UInt8 → List (List UInt8)
  | [], _ => []
  | n :: lengths, data => data.take n :: cut lengths (data.drop n)

def total (lengths : List Nat) : Nat := lengths.foldr (fun n sum => n + sum) 0

@[simp] theorem cut_nil (data : List UInt8) : cut [] data = [] := rfl

@[simp] theorem cut_cons (n : Nat) (lengths : List Nat) (data : List UInt8) :
    cut (n :: lengths) data = data.take n :: cut lengths (data.drop n) :=
  rfl

@[simp] theorem cut_eq_nil_iff {lengths : List Nat} {data : List UInt8} :
    cut lengths data = [] ↔ lengths = [] := by
  cases lengths <;> simp

@[simp] theorem total_nil : total [] = 0 := rfl

@[simp] theorem total_cons (n : Nat) (lengths : List Nat) :
    total (n :: lengths) = n + total lengths :=
  rfl

theorem total_append (lengths others : List Nat) :
    total (lengths ++ others) = total lengths + total others := by
  induction lengths with
  | nil => rw [List.nil_append, total_nil, Nat.zero_add]
  | cons n lengths ih => rw [List.cons_append, total_cons, total_cons, ih, Nat.add_assoc]

/-- Cut at the lengths, none of which is zero, the bytes are used up. -/
structure Measures (lengths : List Nat) (data : List UInt8) : Prop where
  total : total lengths = data.length
  positive : ∀ n ∈ lengths, 0 < n

theorem measures_nil : Measures [] [] := ⟨rfl, fun _ member => by cases member⟩

namespace Measures

variable {n : Nat} {lengths : List Nat} {data more : List UInt8}

theorem eq_nil_iff (h : Measures lengths data) : lengths = [] ↔ data = [] := by
  have size := h.total
  constructor
  · rintro rfl
    exact List.eq_nil_of_length_eq_zero size.symm
  · rintro rfl
    cases lengths with
    | nil => rfl
    | cons n lengths =>
      have positive := h.positive n (List.mem_cons_self ..)
      simp only [total_cons, List.length_nil] at size
      omega

theorem head_le (h : Measures (n :: lengths) data) : n ≤ data.length :=
  h.total ▸ Nat.le_add_right n _

theorem tail (h : Measures (n :: lengths) data) : Measures lengths (data.drop n) where
  total := by
    have size := h.total
    simp only [total_cons] at size
    rw [List.length_drop]
    omega
  positive := fun m member => h.positive m (List.mem_cons_of_mem n member)

theorem cons (pos : 0 < n) (fits : n ≤ data.length) (h : Measures lengths (data.drop n)) :
    Measures (n :: lengths) data where
  total := by rw [total_cons, h.total, List.length_drop, Nat.add_sub_cancel' fits]
  positive := fun m member => by
    rcases List.mem_cons.mp member with rfl | later
    · exact pos
    · exact h.positive m later

theorem append {others : List Nat} (h : Measures lengths data) (h' : Measures others more) :
    Measures (lengths ++ others) (data ++ more) := by
  induction lengths generalizing data with
  | nil =>
    rw [h.eq_nil_iff.mp rfl]
    exact h'
  | cons n lengths ih =>
    refine cons (h.positive n (List.mem_cons_self ..)) ?_ ?_
    · rw [List.length_append]
      exact Nat.le_trans h.head_le (Nat.le_add_right ..)
    · rw [List.drop_append_of_le_length h.head_le]
      exact ih h.tail

theorem cut_append {others : List Nat} (h : Measures lengths data) :
    cut (lengths ++ others) (data ++ more) = cut lengths data ++ cut others more := by
  induction lengths generalizing data with
  | nil => rw [h.eq_nil_iff.mp rfl, cut_nil, List.nil_append, List.nil_append, List.nil_append]
  | cons n lengths ih =>
    rw [List.cons_append, cut_cons, cut_cons, List.take_append_of_le_length h.head_le,
      List.drop_append_of_le_length h.head_le, ih h.tail, List.cons_append]

end Measures

theorem maxPayload_pos : 0 < maxPayload := by decide

/-- The first piece is a full one, as far as the bytes go. -/
theorem pieces_of_ne_nil {data : List UInt8} (nonempty : data ≠ []) :
    pieces data = data.take maxPayload :: pieces (data.drop maxPayload) := by
  have positive := List.length_pos_iff.mpr nonempty
  have count : (data.length + maxPayload - 1) / maxPayload =
      ((data.drop maxPayload).length + maxPayload - 1) / maxPayload + 1 := by
    rw [List.length_drop]
    unfold maxPayload
    omega
  rw [pieces, count, List.range_succ_eq_map, List.map_cons, List.map_map, pieces]
  refine List.cons_eq_cons.mpr ⟨?_, List.map_congr_left fun i _ => ?_⟩
  · rw [Nat.zero_mul, List.drop_zero]
  · rw [Function.comp_apply, List.drop_drop, Nat.succ_mul, Nat.add_comm maxPayload]

theorem payloadLengths_of_pos {n : Nat} (positive : 0 < n) :
    payloadLengths n = min n maxPayload :: payloadLengths (n - maxPayload) := by
  by_cases short : n < maxPayload
  · have zero : n - maxPayload = 0 := Nat.sub_eq_zero_of_le (Nat.le_of_lt short)
    rw [zero, Nat.min_eq_left (Nat.le_of_lt short), payloadLengths, Nat.div_eq_of_lt short,
      Nat.mod_eq_of_lt short, if_neg (Nat.ne_of_gt positive)]
    rfl
  · have long := Nat.le_of_not_lt short
    rw [Nat.min_eq_right long, payloadLengths, payloadLengths, ← Nat.mod_eq_sub_mod long,
      Nat.div_eq_sub_div maxPayload_pos long, List.replicate_succ, List.cons_append]

/-- What holds of no bytes, and of all that begin with a piece before bytes of which it holds, holds
of all bytes. -/
theorem piecewise {motive : List UInt8 → Prop} (nil : motive [])
    (next : ∀ data, data ≠ [] → motive (data.drop maxPayload) → motive data)
    (data : List UInt8) : motive data := by
  by_cases empty : data = []
  · rw [empty]
    exact nil
  · exact next data empty (piecewise nil next (data.drop maxPayload))
termination_by data.length
decreasing_by
  rw [List.length_drop]
  have positive := List.length_pos_iff.mpr empty
  have := maxPayload_pos
  omega

theorem measures_payloadLengths (data : List UInt8) :
    Measures (payloadLengths data.length) data := by
  induction data using piecewise with
  | nil => exact measures_nil
  | next data nonempty ih =>
    have positive := List.length_pos_iff.mpr nonempty
    rw [payloadLengths_of_pos positive]
    refine .cons (Nat.lt_min.mpr ⟨positive, maxPayload_pos⟩) (Nat.min_le_left ..) ?_
    rw [Nat.min_comm, ← List.drop_eq_drop_min, ← List.length_drop]
    exact ih

/-- The lengths that are kept of some bytes tell their pieces. -/
theorem cut_payloadLengths (data : List UInt8) :
    cut (payloadLengths data.length) data = pieces data := by
  induction data using piecewise with
  | nil => rfl
  | next data nonempty ih =>
    rw [payloadLengths_of_pos (List.length_pos_iff.mpr nonempty), pieces_of_ne_nil nonempty,
      cut_cons, Nat.min_comm, ← List.take_eq_take_min, ← List.drop_eq_drop_min, ← List.length_drop,
      ih]

end CanStream.IsoTp
