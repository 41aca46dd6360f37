import CanStream.ByteQueue.Basic

/-!
# What a byte queue holds

Each operation of a queue seen from its contents, whatever the chunks are: reserving and appending
add at the tail, chopping and freeing drop bytes at either end, and making a block at the head
changes nothing. The contents of a well-formed queue are as long as its size says, and no chunk of
it is empty but a spare one.
-/

namespace CanStream.ByteQueue

theorem size_chunk (c : Chunk) : c.size = c.bytes.length := rfl

/-- The bytes of some chunks. -/
def contents (chunks : List Chunk) : List UInt8 := chunks.flatMap Chunk.bytes

@[simp] theorem contents_nil : contents [] = [] := rfl

@[simp] theorem contents_cons (c : Chunk) (cs : List Chunk) :
    contents (c :: cs) = c.bytes ++ contents cs := by
  simp [contents]

@[simp] theorem contents_append (cs ds : List Chunk) :
    contents (cs ++ ds) = contents cs ++ contents ds := by
  simp [contents]

/-- No chunk is empty but the only one. -/
def Compact (chunks : List Chunk) : Prop := ∀ c ∈ chunks, c.bytes = [] → chunks = [c]

/-- The size of the queue is the number of bytes in it, and none of its chunks is empty but a spare
one. -/
structure WellFormed (q : ByteQueue) : Prop where
  size_eq : q.size = q.toList.length
  compact : Compact q.chunks

theorem toList_eq (q : ByteQueue) : q.toList = contents q.chunks := rfl

theorem compact_of_nonempty {cs : List Chunk} (h : ∀ c ∈ cs, c.bytes ≠ []) : Compact cs :=
  fun c hc he => absurd he (h c hc)

/-- Where bytes are held, no chunk is empty. -/
theorem Compact.nonempty {cs : List Chunk} (h : Compact cs) (hne : contents cs ≠ []) :
    ∀ c ∈ cs, c.bytes ≠ [] := by
  intro c hc he
  rw [h c hc he] at hne
  simp [he] at hne

theorem contents_extendLast (n : Nat) (more : List UInt8) (cs : List Chunk) :
    contents (extendLast n more cs) = contents cs ++ more := by
  fun_induction extendLast n more cs with
  | case1 => simp
  | case2 c hfits => simp [Chunk.extend]
  | case3 c hfits hempty => simp [List.isEmpty_iff.mp hempty]
  | case4 c hfits hempty => simp
  | case5 c d rest ih => simp [ih]

theorem nonempty_extendLast {n : Nat} {more : List UInt8} {cs : List Chunk} (h : Compact cs)
    (hmore : more ≠ []) : ∀ c ∈ extendLast n more cs, c.bytes ≠ [] := by
  fun_induction extendLast n more cs with
  | case1 => simpa using hmore
  | case2 c hfits => simp [Chunk.extend, hmore]
  | case3 c hfits hempty => simpa using hmore
  | case4 c hfits hempty =>
    simp only [List.isEmpty_iff] at hempty
    simp [hempty, hmore]
  | case5 c d rest ih =>
    have hne : ∀ x ∈ c :: d :: rest, x.bytes ≠ [] := by
      intro x hx he
      have := h x hx he
      simp at this
    intro x hx
    rcases List.mem_cons.mp hx with rfl | hx
    · exact hne x (by simp)
    · exact ih (compact_of_nonempty fun y hy => hne y (List.mem_cons_of_mem _ hy)) x hx

theorem extendLast_nil {n : Nat} {cs : List Chunk} (h : cs ≠ []) : extendLast n [] cs = cs := by
  fun_induction extendLast n [] cs with
  | case1 => exact absurd rfl h
  | case2 c hfits => simp [Chunk.extend]
  | case3 c hfits hempty => simp [Chunk.fits] at hfits
  | case4 c hfits hempty => simp [Chunk.fits] at hfits
  | case5 c d rest ih => rw [ih (by simp)]

/-- The bytes that a reservation adds: what is filled in, and zeros behind it. -/
def window (n : Nat) (data : List UInt8) : List UInt8 :=
  data.take n ++ List.replicate (n - data.length) 0

@[simp] theorem length_window (n : Nat) (data : List UInt8) : (window n data).length = n := by
  simp only [window, List.length_append, List.length_take, List.length_replicate]
  omega

theorem toList_reserve (q : ByteQueue) (n : Nat) (data : List UInt8) :
    (q.reserve n data).toList = q.toList ++ window n data :=
  contents_extendLast _ _ _

@[simp] theorem size_reserve (q : ByteQueue) (n : Nat) (data : List UInt8) :
    (q.reserve n data).size = q.size + n := rfl

theorem WellFormed.reserve {q : ByteQueue} (h : q.WellFormed) (n : Nat) (data : List UInt8) :
    (q.reserve n data).WellFormed where
  size_eq := by rw [toList_reserve, List.length_append, length_window, size_reserve, h.size_eq]
  compact := by
    cases n with
    | zero =>
      have hw : window 0 data = [] := by simp [window]
      show Compact (extendLast q.chunkSize (window 0 data) q.chunks)
      rw [hw]
      by_cases hc : q.chunks = []
      · rw [hc]
        intro c hc he
        simp only [extendLast, List.mem_singleton] at hc
        simp [extendLast, hc]
      · rw [extendLast_nil hc]
        exact h.compact
    | succ n =>
      refine compact_of_nonempty (nonempty_extendLast h.compact ?_)
      intro hw
      have := length_window (n + 1) data
      rw [show window (n + 1) data = [] from hw] at this
      simp at this

theorem toList_append (q : ByteQueue) (data : List UInt8) :
    (q.append data).toList = q.toList ++ data := by
  unfold append
  split
  · rename_i h
    simp [List.isEmpty_iff.mp h]
  · simp [toList_reserve, window]

theorem size_append (q : ByteQueue) (data : List UInt8) :
    (q.append data).size = q.size + data.length := by
  unfold append
  split
  · rename_i h
    simp [List.isEmpty_iff.mp h]
  · rfl

theorem WellFormed.append {q : ByteQueue} (h : q.WellFormed) (data : List UInt8) :
    (q.append data).WellFormed := by
  unfold ByteQueue.append
  split
  · exact h
  · exact h.reserve _ _

/-- The chunks are given last one first, as they are chopped. -/
theorem contents_chopChunks (n : Nat) (cs : List Chunk) :
    contents (chopChunks n cs).reverse =
      (contents cs.reverse).take ((contents cs.reverse).length - n) := by
  fun_induction chopChunks n cs with
  | case1 => simp
  | case2 cs => simp
  | case3 n c rest hlt =>
    rw [size_chunk] at hlt
    simp only [List.reverse_cons, contents_append, contents_cons, contents_nil, List.append_nil,
      List.length_append, Chunk.truncate, size_chunk]
    rw [List.take_append]
    congr 1
    · exact (List.take_of_length_le (by omega)).symm
    · congr 1
      omega
  | case4 n c rest hge ih =>
    rw [ih]
    rw [size_chunk] at hge ⊢
    simp only [List.reverse_cons, contents_append, contents_cons, contents_nil, List.append_nil,
      List.length_append]
    rw [List.take_append_of_le_length (by omega)]
    congr 1
    omega

theorem nonempty_chopChunks {n : Nat} {cs : List Chunk} (h : ∀ c ∈ cs, c.bytes ≠ []) :
    ∀ c ∈ chopChunks n cs, c.bytes ≠ [] := by
  fun_induction chopChunks n cs with
  | case1 => simp
  | case2 cs => exact h
  | case3 n c rest hlt =>
    intro x hx
    rcases List.mem_cons.mp hx with rfl | hx
    · intro he
      have := congrArg List.length he
      simp only [Chunk.truncate, List.length_take, List.length_nil, size_chunk] at hlt this
      omega
    · exact h x (List.mem_cons_of_mem _ hx)
  | case4 n c rest hge ih => exact ih fun x hx => h x (List.mem_cons_of_mem _ hx)

theorem contents_dropEmptyLast (cs : List Chunk) :
    contents (dropEmptyLast cs).reverse = contents cs.reverse := by
  fun_induction dropEmptyLast cs with
  | case1 c d rest hempty ih =>
    rw [ih]
    simp [List.isEmpty_iff.mp hempty]
  | case2 c d rest hempty => rfl
  | case3 cs => rfl

theorem mem_dropEmptyLast {cs : List Chunk} {c : Chunk} (h : c ∈ dropEmptyLast cs) : c ∈ cs := by
  fun_induction dropEmptyLast cs with
  | case1 c d rest hempty ih => exact List.mem_cons_of_mem _ (ih h)
  | case2 c d rest hempty => exact h
  | case3 cs => exact h

@[simp] theorem contents_spare (cs : List Chunk) : contents (spare cs) = [] := by
  cases cs <;> simp [spare, Chunk.emptied]

theorem compact_spare (cs : List Chunk) : Compact (spare cs) := by
  cases cs with
  | nil => simp [spare, Compact]
  | cons c cs =>
    intro x hx _
    simp only [spare, List.mem_singleton] at hx
    simp [spare, hx]

@[simp] theorem size_trim (q : ByteQueue) : q.trim.size = q.size := rfl

theorem toList_trim {q : ByteQueue} (h : q.size = q.toList.length) : q.trim.toList = q.toList := by
  unfold trim
  simp only [toList_eq]
  split
  · rename_i h0
    rw [contents_spare, eq_comm, ← List.length_eq_zero_iff, ← toList_eq, ← h, h0]
  · rw [contents_dropEmptyLast, List.reverse_reverse]

/-- Trimming makes a queue well-formed whose size is right and whose chunks all hold bytes, unless
it holds none. -/
theorem wellFormed_trim {q : ByteQueue} (h : q.size = q.toList.length)
    (hne : q.size ≠ 0 → ∀ c ∈ q.chunks, c.bytes ≠ []) : q.trim.WellFormed where
  size_eq := by rw [size_trim, toList_trim h, h]
  compact := by
    unfold trim
    simp only
    split
    · exact compact_spare _
    · rename_i h0
      refine compact_of_nonempty fun c hc => hne h0 c ?_
      exact List.mem_reverse.mp (mem_dropEmptyLast (List.mem_reverse.mp hc))

theorem WellFormed.nonempty {q : ByteQueue} (h : q.WellFormed) (h0 : q.size ≠ 0) :
    ∀ c ∈ q.chunks, c.bytes ≠ [] := by
  refine h.compact.nonempty fun he => h0 ?_
  rw [h.size_eq, toList_eq, he, List.length_nil]

/-- The queue that `chop` trims. -/
theorem toList_chop_untrimmed {q : ByteQueue} (h : q.WellFormed) (k : Nat) :
    contents (chopChunks k q.chunks.reverse).reverse = q.toList.take (q.size - k) := by
  rw [contents_chopChunks, List.reverse_reverse, ← toList_eq, h.size_eq]

theorem toList_chop {q : ByteQueue} (h : q.WellFormed) (n : Nat) :
    (q.chop n).toList = q.toList.take (q.size - n) := by
  have hk := toList_chop_untrimmed h (min n q.size)
  have hsize : q.toList.length = q.size := h.size_eq.symm
  unfold chop
  rw [toList_trim]
  · rw [toList_eq, hk]
    congr 1
    omega
  · rw [toList_eq, hk, List.length_take, hsize]
    simp only
    omega

@[simp] theorem size_chop (q : ByteQueue) (n : Nat) : (q.chop n).size = q.size - n := by
  simp only [chop, size_trim]
  omega

theorem WellFormed.chop {q : ByteQueue} (h : q.WellFormed) (n : Nat) : (q.chop n).WellFormed := by
  have hk := toList_chop_untrimmed h (min n q.size)
  have hsize : q.toList.length = q.size := h.size_eq.symm
  unfold ByteQueue.chop
  refine wellFormed_trim ?_ ?_
  · rw [toList_eq, hk, List.length_take, hsize]
    simp only
    omega
  · intro h0 c hc
    have hq : q.size ≠ 0 := by
      simp only at h0
      omega
    refine nonempty_chopChunks (fun x hx => ?_) c (List.mem_reverse.mp hc)
    exact h.nonempty hq x (List.mem_reverse.mp hx)

/-- A reservation that is cut to what was put into it. -/
theorem toList_chop_reserve {q : ByteQueue} (h : q.WellFormed) {n : Nat} {data : List UInt8}
    (fits : data.length ≤ n) :
    ((q.reserve n data).chop (n - data.length)).toList = q.toList ++ data := by
  have size : (q.reserve n data).size - (n - data.length) = q.toList.length + data.length := by
    rw [size_reserve, h.size_eq]
    omega
  rw [toList_chop (h.reserve n data), size, toList_reserve, List.take_length_add_append, window,
    List.take_of_length_le fits, List.take_left]

theorem toList_chop_reserve_nil {q : ByteQueue} (h : q.WellFormed) (n : Nat) :
    ((q.reserve n []).chop n).toList = q.toList := by
  rw [toList_chop (h.reserve n []), size_reserve, Nat.add_sub_cancel, toList_reserve, h.size_eq,
    List.take_left]

/-! ## Removing at the head -/

theorem contents_freeChunks (n : Nat) (cs : List Chunk) :
    contents (freeChunks n cs) = (contents cs).drop n := by
  fun_induction freeChunks n cs with
  | case1 => simp
  | case2 cs => simp
  | case3 n c hlt => simp [Chunk.advance]
  | case4 n c hge =>
    rw [size_chunk] at hge
    simp only [contents_cons, contents_nil, List.append_nil, Chunk.emptied]
    rw [List.drop_eq_nil_of_le (by omega)]
  | case5 n c d rest hlt =>
    rw [size_chunk] at hlt
    rw [contents_cons, contents_cons c, List.drop_append_of_le_length (by omega)]
    rfl
  | case6 n c d rest hge ih =>
    rw [size_chunk] at hge
    have hc : c.bytes.drop (n + 1) = [] := List.drop_eq_nil_of_le (by omega)
    rw [ih, contents_cons c, List.drop_append, hc, List.nil_append]
    rfl

theorem nonempty_advance {c : Chunk} {n : Nat} (h : n < c.size) : (c.advance n).bytes ≠ [] := by
  intro he
  have hlength := congrArg List.length he
  simp only [Chunk.advance, List.length_drop, List.length_nil, size_chunk] at h hlength
  omega

theorem nonempty_freeChunks {n : Nat} {cs : List Chunk} (h : ∀ c ∈ cs, c.bytes ≠ [])
    (hn : n < (contents cs).length) : ∀ c ∈ freeChunks n cs, c.bytes ≠ [] := by
  fun_induction freeChunks n cs with
  | case1 => simp
  | case2 cs => exact h
  | case3 n c hlt => simpa using nonempty_advance hlt
  | case4 n c hge =>
    rw [size_chunk] at hge
    simp only [contents_cons, contents_nil, List.append_nil] at hn
    omega
  | case5 n c d rest hlt =>
    intro x hx
    rcases List.mem_cons.mp hx with rfl | hx
    · exact nonempty_advance hlt
    · exact h x (List.mem_cons_of_mem _ hx)
  | case6 n c d rest hge ih =>
    refine ih (fun x hx => h x (List.mem_cons_of_mem _ hx)) ?_
    rw [contents_cons, List.length_append] at hn
    rw [size_chunk] at hge ⊢
    omega

theorem drop_min_size {q : ByteQueue} (counted : q.size = q.toList.length) (n : Nat) :
    q.toList.drop (min n q.size) = q.toList.drop n := by
  rcases Nat.le_total n q.size with hle | hle
  · rw [Nat.min_eq_left hle]
  · rw [Nat.min_eq_right hle, counted, List.drop_length, List.drop_eq_nil_of_le]
    rw [← counted]
    exact hle

/-- What is taken off the head depends on the count of bytes alone, whatever the chunks are. -/
theorem toList_free {q : ByteQueue} (counted : q.size = q.toList.length) (n : Nat) :
    (q.free n).toList = q.toList.drop n := by
  unfold free
  rw [toList_trim]
  · simp only [toList_eq, contents_freeChunks]
    exact drop_min_size counted n
  · simp only [toList_eq, contents_freeChunks, List.length_drop]
    rw [← toList_eq, counted]

@[simp] theorem size_free (q : ByteQueue) (n : Nat) : (q.free n).size = q.size - n := by
  simp only [free, size_trim]
  omega

theorem WellFormed.free {q : ByteQueue} (h : q.WellFormed) (n : Nat) : (q.free n).WellFormed := by
  unfold ByteQueue.free
  refine wellFormed_trim ?_ ?_
  · simp only [toList_eq, contents_freeChunks, List.length_drop]
    rw [← toList_eq, h.size_eq]
  · intro h0
    simp only at h0
    refine nonempty_freeChunks (h.nonempty (by omega)) ?_
    rw [← toList_eq, ← h.size_eq]
    omega

@[simp] theorem size_clear (q : ByteQueue) : q.clear.size = 0 := rfl

@[simp] theorem toList_clear (q : ByteQueue) : q.clear.toList = [] := by
  simp [clear, trim, toList_eq]

theorem wellFormed_clear (q : ByteQueue) : q.clear.WellFormed where
  size_eq := by simp
  compact := by
    simp only [clear, trim, if_true]
    exact compact_spare _

@[simp] theorem toList_empty (n : Nat) : (empty n).toList = [] := rfl

theorem wellFormed_empty (n : Nat) : (empty n).WellFormed where
  size_eq := rfl
  compact := by simp [empty, Compact]

theorem isEmpty_iff (q : ByteQueue) : q.isEmpty = true ↔ q.size = 0 := by
  simp [isEmpty]

theorem isEmpty_append (q : ByteQueue) {data : List UInt8} (nonempty : data ≠ []) :
    (q.append data).isEmpty = false := by
  have positive := List.length_pos_iff.mpr nonempty
  rw [← Bool.not_eq_true, isEmpty_iff, size_append]
  omega

theorem head_append_tail (q : ByteQueue) : ∃ tail, q.toList = q.head ++ tail := by
  unfold head
  rw [toList_eq]
  cases q.chunks with
  | nil => exact ⟨[], rfl⟩
  | cons c cs => exact ⟨contents cs, contents_cons c cs⟩

/-- The block at the head of a well-formed queue is only empty if the queue is. -/
theorem WellFormed.head_eq_nil_iff {q : ByteQueue} (h : q.WellFormed) :
    q.head = [] ↔ q.toList = [] := by
  have first := h.compact
  unfold head
  rw [toList_eq]
  cases chunks : q.chunks with
  | nil => simp
  | cons c cs =>
    rw [chunks] at first
    rw [contents_cons, List.append_eq_nil_iff]
    refine ⟨fun empty => ⟨empty, ?_⟩, fun empty => empty.1⟩
    have only := first c (List.mem_cons_self ..) empty
    rw [(List.cons.inj only).2, contents_nil]

theorem WellFormed.head_ne_nil {q : ByteQueue} (h : q.WellFormed) (nonempty : q.size ≠ 0) :
    q.head ≠ [] := by
  intro empty
  rw [h.head_eq_nil_iff] at empty
  rw [h.size_eq, empty] at nonempty
  exact nonempty rfl

theorem splitHead_spec (n : Nat) (cs : List Chunk) (h : n ≤ (contents cs).length) :
    (splitHead n cs).1 ++ contents (splitHead n cs).2 = contents cs ∧
      (splitHead n cs).1.length = n := by
  fun_induction splitHead n cs with
  | case1 n => simpa [eq_comm] using h
  | case2 cs => simp
  | case3 n c rest hlt =>
    rw [size_chunk] at hlt
    simp only [contents_cons, Chunk.advance, ← List.append_assoc, List.take_append_drop,
      List.length_take, true_and]
    omega
  | case4 n c rest hge bytes left hsplit ih =>
    rw [size_chunk] at hge hsplit ih
    rw [contents_cons, List.length_append] at h
    rw [hsplit] at ih
    obtain ⟨hbytes, hlength⟩ := ih (by omega)
    simp only [List.append_assoc, contents_cons, List.length_append]
    refine ⟨by rw [hbytes], ?_⟩
    simp only at hlength
    omega

theorem nonempty_splitHead {n : Nat} {cs : List Chunk} (h : ∀ c ∈ cs, c.bytes ≠ []) :
    ∀ c ∈ (splitHead n cs).2, c.bytes ≠ [] := by
  fun_induction splitHead n cs with
  | case1 => simp
  | case2 cs => exact h
  | case3 n c rest hlt =>
    intro x hx
    rcases List.mem_cons.mp hx with rfl | hx
    · exact nonempty_advance hlt
    · exact h x (List.mem_cons_of_mem _ hx)
  | case4 n c rest hge bytes left hsplit ih =>
    rw [hsplit] at ih
    exact ih fun x hx => h x (List.mem_cons_of_mem _ hx)

/-- The chunks of a queue have as many bytes for a block at the head as the queue counts. -/
theorem WellFormed.splitHead {q : ByteQueue} (h : q.WellFormed) {k : Nat} (within : k ≤ q.size) :
    (splitHead k q.chunks).1 ++ contents (splitHead k q.chunks).2 = q.toList ∧
      (splitHead k q.chunks).1.length = k := by
  rw [h.size_eq, toList_eq] at within
  exact splitHead_spec k q.chunks within

@[simp] theorem size_makeContiguous (q : ByteQueue) (n : Nat) :
    (q.makeContiguous n).size = q.size := by
  unfold makeContiguous
  simp only
  split <;> rfl

theorem toList_makeContiguous {q : ByteQueue} (h : q.WellFormed) (n : Nat) :
    (q.makeContiguous n).toList = q.toList := by
  unfold makeContiguous
  simp only
  split
  · rfl
  · exact (toList_eq _).trans (h.splitHead (Nat.min_le_right n q.size)).1

theorem length_head_makeContiguous {q : ByteQueue} (h : q.WellFormed) (n : Nat) :
    min n q.size ≤ (q.makeContiguous n).head.length := by
  unfold makeContiguous
  simp only
  split
  · assumption
  · exact Nat.le_of_eq (h.splitHead (Nat.min_le_right n q.size)).2.symm

theorem WellFormed.makeContiguous {q : ByteQueue} (h : q.WellFormed) (n : Nat) :
    (q.makeContiguous n).WellFormed where
  size_eq := by rw [size_makeContiguous, toList_makeContiguous h, h.size_eq]
  compact := by
    unfold ByteQueue.makeContiguous
    simp only
    split
    · exact h.compact
    · rename_i hlt
      have hlength := (h.splitHead (Nat.min_le_right n q.size)).2
      refine compact_of_nonempty fun c hc => ?_
      rcases List.mem_cons.mp hc with rfl | hc
      · intro he
        rw [show (ByteQueue.splitHead (min n q.size) q.chunks).1 = [] from he,
          List.length_nil] at hlength
        omega
      · exact nonempty_splitHead (h.nonempty (by omega)) c hc

theorem peekChunks_eq (n : Nat) (cs : List Chunk) : peekChunks n cs = (contents cs).take n := by
  fun_induction peekChunks n cs with
  | case1 n => simp
  | case2 cs => simp
  | case3 n c rest ih => rw [ih, contents_cons, List.take_append, size_chunk]

theorem peek_eq (q : ByteQueue) (n : Nat) : q.peek n = q.toList.take n :=
  peekChunks_eq n q.chunks

theorem length_peek {q : ByteQueue} (counted : q.size = q.toList.length) (n : Nat) :
    (q.peek n).length = min n q.size := by
  rw [peek_eq, List.length_take, counted]

theorem toList_read {q : ByteQueue} (counted : q.size = q.toList.length) (n : Nat) :
    (q.read n).2.toList = q.toList.drop n := by
  rw [read, toList_free counted, length_peek counted, drop_min_size counted]

theorem size_read {q : ByteQueue} (counted : q.size = q.toList.length) (n : Nat) :
    (q.read n).2.size = q.size - n := by
  rw [read, size_free, length_peek counted]
  omega

theorem WellFormed.read {q : ByteQueue} (h : q.WellFormed) (n : Nat) : (q.read n).2.WellFormed :=
  h.free _

theorem WellFormed.readAll {q : ByteQueue} (h : q.WellFormed) : q.readAll.2.WellFormed :=
  h.read _

theorem WellFormed.readLine {q : ByteQueue} (h : q.WellFormed) (n : Nat) :
    (q.readLine n).2.WellFormed := by
  unfold ByteQueue.readLine
  split
  · exact h.read _
  · exact h.read _

end CanStream.ByteQueue
