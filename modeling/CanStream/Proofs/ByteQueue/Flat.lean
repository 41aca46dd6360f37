import CanStream.Proofs.ByteQueue.Contents

/-!
# A queue answers as a list does

Everything that can be asked of a queue is one of a few operations. Each has a meaning on the list
of bytes that the queue stands for, which knows nothing of chunks. Whatever is asked of a queue, in
whatever order, it answers as the list does and goes on to stand for the list that comes of it; so
the size of its chunks shows in nothing but how much of it lies in one piece.
-/

namespace CanStream.ByteQueue

/-- The last `n` bytes of the last chunk. -/
def lastBytes (q : ByteQueue) (n : Nat) : List UInt8 :=
  match q.chunks.getLast? with
  | none => []
  | some c => c.bytes.drop (c.size - n)

/-- The chunks with the first of the last `n` bytes of the last chunk overwritten. -/
def fillLast (n : Nat) (data : List UInt8) : List Chunk → List Chunk
  | [] => []
  | [c] =>
      let kept := c.bytes.take (c.size - n)
      [{ c with bytes := kept ++ data.take n ++ c.bytes.drop (c.size - n + data.length) }]
  | c :: d :: rest => c :: fillLast n data (d :: rest)

/-- Fills `n` bytes that were reserved last from their start. -/
def fill (q : ByteQueue) (n : Nat) (data : List UInt8) : ByteQueue :=
  { q with chunks := fillLast n data q.chunks }

/-- What is added at the tail is in one piece, at a place that only depends on how much it is. -/
theorem exists_last_extendLast (size n : Nat) (cs : List Chunk) :
    ∃ front bytes capacity, ∀ more : List UInt8, more.length = n →
      extendLast size more cs = front ++ [⟨bytes ++ more, capacity⟩] := by
  match cs with
  | [] => exact ⟨[], [], max n size, fun more same => by rw [extendLast, same]; rfl⟩
  | [c] =>
    by_cases fits : c.fits n = true
    · refine ⟨[], c.bytes, c.capacity, fun more same => ?_⟩
      rw [extendLast, same, if_pos fits]
      rfl
    · by_cases isEmpty : c.bytes.isEmpty = true
      · refine ⟨[], [], max n size, fun more same => ?_⟩
        rw [extendLast, same, if_neg fits, if_pos isEmpty]
        rfl
      · refine ⟨[c], [], max n size, fun more same => ?_⟩
        rw [extendLast, same, if_neg fits, if_neg isEmpty]
        rfl
  | c :: d :: rest =>
    obtain ⟨front, bytes, capacity, extended⟩ := exists_last_extendLast size n (d :: rest)
    refine ⟨c :: front, bytes, capacity, fun more same => ?_⟩
    rw [extendLast, extended more same]
    rfl

theorem fillLast_append_singleton (n : Nat) (data : List UInt8) (front : List Chunk) (c : Chunk) :
    fillLast n data (front ++ [c]) = front ++ fillLast n data [c] := by
  match front with
  | [] => rfl
  | [d] => rfl
  | d :: e :: front =>
    have ih := fillLast_append_singleton n data (e :: front) c
    exact congrArg (d :: ·) ih

theorem drop_window_nil (n k : Nat) : (window n []).drop k = List.replicate (n - k) 0 := by
  simp [window]

/-- A reservation hands out as many zeros as were asked for. -/
theorem lastBytes_reserve (q : ByteQueue) (n : Nat) :
    (q.reserve n []).lastBytes n = List.replicate n 0 := by
  obtain ⟨front, bytes, capacity, extended⟩ := exists_last_extendLast q.chunkSize n q.chunks
  have chunks : (q.reserve n []).chunks = front ++ [⟨bytes ++ window n [], capacity⟩] :=
    extended _ (length_window n [])
  have start : (bytes ++ window n []).length - n = bytes.length := by
    rw [List.length_append, length_window, Nat.add_sub_cancel]
  rw [lastBytes, chunks, List.getLast?_concat]
  simp only [size_chunk]
  rw [start, List.drop_left, ← List.drop_zero (l := window n []), drop_window_nil, Nat.sub_zero]

/-- To reserve bytes and fill them is to reserve zeros and to overwrite those that were handed out.
-/
theorem fill_reserve (q : ByteQueue) (n : Nat) (data : List UInt8) :
    (q.reserve n []).fill n data = q.reserve n data := by
  obtain ⟨front, bytes, capacity, extended⟩ := exists_last_extendLast q.chunkSize n q.chunks
  have zeros : (q.reserve n []).chunks = front ++ [⟨bytes ++ window n [], capacity⟩] :=
    extended _ (length_window n [])
  have filled : (q.reserve n data).chunks = front ++ [⟨bytes ++ window n data, capacity⟩] :=
    extended _ (length_window n data)
  have start : (bytes ++ window n []).length - n = bytes.length := by
    rw [List.length_append, length_window, Nat.add_sub_cancel]
  have same : fillLast n data [⟨bytes ++ window n [], capacity⟩] =
      [⟨bytes ++ window n data, capacity⟩] := by
    rw [fillLast]
    simp only [size_chunk]
    rw [start, List.take_left, List.drop_length_add_append, drop_window_nil, List.append_assoc]
    rfl
  have chunks : fillLast n data (q.reserve n []).chunks = (q.reserve n data).chunks := by
    rw [zeros, fillLast_append_singleton, same, filled]
  rw [fill, chunks]
  rfl

/-- What can be asked of a queue. -/
inductive Operation
  /-- Reserves bytes at the tail, and fills them from their start. -/
  | reserve (n : Nat) (data : List UInt8)
  | chop (n : Nat)
  | free (n : Nat)
  | append (data : List UInt8)
  | peek (n : Nat)
  | read (n : Nat)
  | readAll
  | readLine (limit : Nat)
  | indexOf (b : UInt8) (limit : Nat)
  | canReadLine
  | makeContiguous (n : Nat)
  | clear
  /-- Goes on with a copy of the queue. -/
  | clone

/-- What is answered. -/
inductive Answer
  | done
  | bytes (bytes : List UInt8)
  | position (i : Option Nat)
  | flag (on : Bool)
  deriving DecidableEq

/-- What is seen of a queue after an operation: the answer, the size, and whether it is empty. -/
structure Observation where
  answer : Answer
  size : Nat
  isEmpty : Bool
  deriving DecidableEq

namespace Operation

/-- What the operation answers on a queue, and the queue afterwards. -/
def perform (q : ByteQueue) : Operation → Answer × ByteQueue
  | reserve n data =>
      let reserved := q.reserve n []
      (.bytes (reserved.lastBytes n), reserved.fill n data)
  | chop n => (.done, q.chop n)
  | free n => (.done, q.free n)
  | append data => (.done, q.append data)
  | peek n => (.bytes (q.peek n), q)
  | read n => (.bytes (q.read n).1, (q.read n).2)
  | readAll => (.bytes q.readAll.1, q.readAll.2)
  | readLine limit => (.bytes (q.readLine limit).1, (q.readLine limit).2)
  | indexOf b limit => (.position (q.indexOf? b limit), q)
  | canReadLine => (.flag q.canReadLine, q)
  | makeContiguous n => (.done, q.makeContiguous n)
  | clear => (.done, q.clear)
  | clone => (.done, q.clone)

/-- The bytes up to the first one that ends a line, with it, but not more than the limit. -/
def lineOf : Nat → List UInt8 → List UInt8
  | 0, _ => []
  | _, [] => []
  | n + 1, b :: rest => if b = newline then [b] else b :: lineOf n rest

/-- What the operation answers on a list of bytes, and the list afterwards. -/
def performFlat (l : List UInt8) : Operation → Answer × List UInt8
  | reserve n data =>
      (.bytes (List.replicate n 0), l ++ data.take n ++ List.replicate (n - data.length) 0)
  | chop n => (.done, l.take (l.length - n))
  | free n => (.done, l.drop n)
  | append data => (.done, l ++ data)
  | peek n => (.bytes (l.take n), l)
  | read n => (.bytes (l.take n), l.drop n)
  | readAll => (.bytes l, [])
  | readLine limit => (.bytes (lineOf limit l), l.drop (lineOf limit l).length)
  | indexOf b limit => (.position ((l.take limit).findIdx? (· == b)), l)
  | canReadLine => (.flag (l.contains newline), l)
  | makeContiguous _ => (.done, l)
  | clear => (.done, [])
  | clone => (.done, l)

end Operation

/-- Asks a queue for operations in order. The result is what is seen after each of them, and the
queue in the end. -/
def run (q : ByteQueue) : List Operation → List Observation × ByteQueue
  | [] => ([], q)
  | op :: rest =>
      let first := op.perform q
      let more := run first.2 rest
      (⟨first.1, first.2.size, first.2.isEmpty⟩ :: more.1, more.2)

/-- What would be seen of a list of bytes, and the list in the end. -/
def runFlat (l : List UInt8) : List Operation → List Observation × List UInt8
  | [] => ([], l)
  | op :: rest =>
      let first := op.performFlat l
      let more := runFlat first.2 rest
      (⟨first.1, first.2.length, first.2.isEmpty⟩ :: more.1, more.2)

theorem Operation.lineOf_eq (limit : Nat) (l : List UInt8) :
    lineOf limit l =
      match (l.take limit).findIdx? (· == newline) with
      | some i => l.take (i + 1)
      | none => l.take limit := by
  fun_induction lineOf limit l with
  | case1 l => simp
  | case2 n => simp
  | case3 n rest => simp [List.findIdx?_cons]
  | case4 n b rest other ih =>
    rw [ih, List.take_succ_cons, List.findIdx?_cons]
    simp only [beq_iff_eq, other, if_false]
    cases (rest.take n).findIdx? (· == newline) with
    | none => rfl
    | some i => rfl

theorem WellFormed.canReadLine_eq {q : ByteQueue} (h : q.WellFormed) :
    q.canReadLine = q.toList.contains newline := by
  rw [canReadLine, indexOf?, h.size_eq, List.take_length, List.findIdx?_isSome,
    List.contains_eq_any_beq]
  congr 1
  funext b
  exact Bool.beq_comm

theorem WellFormed.readLine_eq {q : ByteQueue} (h : q.WellFormed) (limit : Nat) :
    (q.readLine limit).1 = Operation.lineOf limit q.toList ∧
      (q.readLine limit).2.toList = q.toList.drop (Operation.lineOf limit q.toList).length := by
  have read (n : Nat) : (q.read n).1 = q.toList.take n ∧
      (q.read n).2.toList = q.toList.drop (q.toList.take n).length := by
    refine ⟨q.peek_eq n, ?_⟩
    rw [toList_read h.size_eq, List.length_take, ← h.size_eq, drop_min_size h.size_eq]
  rw [Operation.lineOf_eq, ByteQueue.readLine, indexOf?]
  cases (q.toList.take limit).findIdx? (· == newline) with
  | some i => exact read (i + 1)
  | none =>
    have short : q.toList.take (min q.size limit) = q.toList.take limit := by
      rw [h.size_eq, Nat.min_comm, ← List.take_take, List.take_length]
    have all := read (min q.size limit)
    rw [short] at all
    exact all

/-! ## Every operation -/

theorem WellFormed.clone {q : ByteQueue} (h : q.WellFormed) :
    q.clone.toList = q.toList ∧ q.clone.WellFormed := by
  have same : q.clone.toList = q.toList := by
    simp [ByteQueue.clone, toList, List.flatMap_map]
  refine ⟨same, ⟨by rw [same]; exact h.size_eq, ?_⟩⟩
  intro c member empty
  obtain ⟨d, inside, rfl⟩ := List.mem_map.mp member
  rw [ByteQueue.clone, h.compact d inside empty]
  rfl

/-- On a well-formed queue an operation answers as it does on the list that the queue stands for,
and leads to a well-formed queue that stands for the list that comes of it. -/
theorem WellFormed.perform {q : ByteQueue} (h : q.WellFormed) (op : Operation) :
    (op.perform q).1 = (op.performFlat q.toList).1 ∧
      (op.perform q).2.toList = (op.performFlat q.toList).2 ∧ (op.perform q).2.WellFormed := by
  cases op with
  | reserve n data =>
    simp only [Operation.perform, Operation.performFlat]
    rw [fill_reserve, lastBytes_reserve, toList_reserve, window, ← List.append_assoc]
    exact ⟨rfl, rfl, h.reserve n data⟩
  | chop n =>
    refine ⟨rfl, ?_, h.chop n⟩
    rw [Operation.perform, Operation.performFlat, toList_chop h, h.size_eq]
  | free n => exact ⟨rfl, toList_free h.size_eq n, h.free n⟩
  | append data => exact ⟨rfl, toList_append q data, h.append data⟩
  | peek n => exact ⟨congrArg Answer.bytes (q.peek_eq n), rfl, h⟩
  | read n => exact ⟨congrArg Answer.bytes (q.peek_eq n), toList_read h.size_eq n, h.read n⟩
  | readAll =>
    refine ⟨congrArg Answer.bytes ?_, ?_, h.readAll⟩
    · rw [ByteQueue.readAll, ByteQueue.read, peek_eq, h.size_eq, List.take_length]
    · rw [Operation.perform, ByteQueue.readAll, toList_read h.size_eq, h.size_eq, List.drop_length]
      rfl
  | readLine limit =>
    obtain ⟨line, rest⟩ := h.readLine_eq limit
    exact ⟨congrArg Answer.bytes line, rest, h.readLine limit⟩
  | indexOf b limit => exact ⟨rfl, rfl, h⟩
  | canReadLine => exact ⟨congrArg Answer.flag h.canReadLine_eq, rfl, h⟩
  | makeContiguous n => exact ⟨rfl, toList_makeContiguous h n, h.makeContiguous n⟩
  | clear => exact ⟨rfl, toList_clear q, wellFormed_clear q⟩
  | clone => exact ⟨rfl, h.clone⟩

theorem WellFormed.isEmpty_eq {q : ByteQueue} (h : q.WellFormed) :
    q.isEmpty = q.toList.isEmpty := by
  rw [isEmpty, h.size_eq]
  cases q.toList <;> rfl

/-- Whatever is asked of a well-formed queue, the same is seen of it as of the list that it stands
for. -/
theorem WellFormed.run {q : ByteQueue} (h : q.WellFormed) (ops : List Operation) :
    (q.run ops).1 = (runFlat q.toList ops).1 ∧
      (q.run ops).2.toList = (runFlat q.toList ops).2 ∧ (q.run ops).2.WellFormed := by
  induction ops generalizing q with
  | nil => exact ⟨rfl, rfl, h⟩
  | cons op rest ih =>
    obtain ⟨answer, contents, next⟩ := h.perform op
    obtain ⟨seen, last, whole⟩ := ih next
    rw [contents] at seen last
    have size : (op.perform q).2.size = (op.performFlat q.toList).2.length := by
      rw [next.size_eq, contents]
    have empty : (op.perform q).2.isEmpty = (op.performFlat q.toList).2.isEmpty := by
      rw [next.isEmpty_eq, contents]
    refine ⟨?_, last, whole⟩
    rw [ByteQueue.run, runFlat, seen, answer, size, empty]

/-- What is seen of a queue, whatever was asked of it since it was made, is what is seen of a list
of bytes, for all sizes of its chunks. It stands for that list, its size is the list's length, and
the block at its head is the start of the list, which is only empty if the list is. -/
theorem run_empty_eq_runFlat (chunkSize : Nat) (ops : List Operation) :
    ((empty chunkSize).run ops).1 = (runFlat [] ops).1 ∧
      ((empty chunkSize).run ops).2.toList = (runFlat [] ops).2 ∧
      ((empty chunkSize).run ops).2.size = (runFlat [] ops).2.length ∧
      ((empty chunkSize).run ops).2.head <+: (runFlat [] ops).2 ∧
      (((empty chunkSize).run ops).2.head = [] ↔ (runFlat [] ops).2 = []) ∧
      ∀ otherSize, ((empty otherSize).run ops).1 = ((empty chunkSize).run ops).1 := by
  obtain ⟨seen, contents, whole⟩ := (wellFormed_empty chunkSize).run ops
  rw [toList_empty] at seen contents
  refine ⟨seen, contents, ?_, ?_, ?_, fun otherSize => ?_⟩
  · rw [whole.size_eq, contents]
  · obtain ⟨tail, split⟩ := ((empty chunkSize).run ops).2.head_append_tail
    exact ⟨tail, by rw [← split, contents]⟩
  · rw [← contents]
    exact whole.head_eq_nil_iff
  · rw [seen, ((wellFormed_empty otherSize).run ops).1, toList_empty]

end CanStream.ByteQueue
