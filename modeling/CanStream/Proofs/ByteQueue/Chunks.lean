import CanStream.Proofs.ByteQueue.Flat

/-!
# The chunks of a queue

The loops that take bytes off a queue go from chunk to chunk until they have as many as they were
asked for. They count on the size of the queue being the sum of what its chunks hold; otherwise they
would come to the end of the chunks too early. Whoever writes from the head of the queue counts on a
block being there, so that no chunk may be empty while bytes are held. Both hold whatever was asked
of the queue.
-/

namespace CanStream.ByteQueue

/-- The sum of what some chunks hold. -/
def total : List Chunk → Nat
  | [] => 0
  | c :: cs => c.size + total cs

theorem total_eq (cs : List Chunk) : total cs = (contents cs).length := by
  induction cs with
  | nil => rfl
  | cons c cs ih => rw [total, ih, contents_cons, List.length_append, size_chunk]

theorem total_reverse (cs : List Chunk) : total cs.reverse = total cs := by
  induction cs with
  | nil => rfl
  | cons c cs ih =>
    rw [List.reverse_cons, total_eq, contents_append, List.length_append, ← total_eq, ih,
      contents_cons, contents_nil, List.append_nil, total, size_chunk, Nat.add_comm]

/-- What is chopped off some chunks, the last of which comes first, is as much as is asked for, or
all that they hold if it is less. -/
theorem total_chopChunks (n : Nat) (cs : List Chunk) :
    total (chopChunks n cs) = total cs - n := by
  rw [← total_reverse, total_eq, contents_chopChunks, List.length_take, ← total_eq, total_reverse]
  omega

theorem total_freeChunks (n : Nat) (cs : List Chunk) :
    total (freeChunks n cs) = total cs - n := by
  rw [total_eq, contents_freeChunks, List.length_drop, ← total_eq]

/-- Each of the loops over the chunks of a queue takes off all of `k` bytes. If it ran out of chunks
before, it would have taken off less. -/
structure Supplies (q : ByteQueue) (k : Nat) : Prop where
  chopped : total (chopChunks k q.chunks.reverse) + k = q.size
  freed : total (freeChunks k q.chunks) + k = q.size
  /-- What is taken off to make a block at the head is in the block. -/
  moved : (splitHead k q.chunks).1.length = k
  left : total (splitHead k q.chunks).2 + k = q.size

theorem WellFormed.size_eq_total {q : ByteQueue} (h : q.WellFormed) : q.size = total q.chunks := by
  rw [h.size_eq, toList_eq, total_eq]

/-- The chunks of a queue supply as many bytes as the queue counts. -/
theorem WellFormed.supplies {q : ByteQueue} (h : q.WellFormed) {k : Nat} (within : k ≤ q.size) :
    q.Supplies k := by
  have size := h.size_eq_total
  obtain ⟨whole, moved⟩ := h.splitHead within
  refine ⟨?_, ?_, moved, ?_⟩
  · rw [total_chopChunks, total_reverse, ← size]
    omega
  · rw [total_freeChunks, ← size]
    omega
  · have held := congrArg List.length whole
    rw [List.length_append, moved, ← total_eq, ← h.size_eq] at held
    omega

/-- An empty chunk is the only one, and then the queue is empty. -/
theorem WellFormed.eq_singleton_of_empty {q : ByteQueue} (h : q.WellFormed) {c : Chunk}
    (member : c ∈ q.chunks) (isEmpty : c.bytes = []) : q.chunks = [c] ∧ q.size = 0 := by
  have only := h.compact c member isEmpty
  refine ⟨only, ?_⟩
  rw [h.size_eq_total, only]
  simp [total, size_chunk, isEmpty]

/-- Whatever was asked of a queue since it was made, its size is the sum of what its chunks hold,
and none of these is empty but the only chunk of an empty queue. Hence the block at the head holds
bytes whenever the queue does. A loop that is to take bytes off the chunks takes as many as it is
asked for, up to the size of the queue, and a block that is made at the head has that many. -/
theorem chunks_of_run {chunkSize : Nat} {ops : List Operation} {q : ByteQueue}
    (made : ((empty chunkSize).run ops).2 = q) :
    q.size = total q.chunks ∧
      (∀ c ∈ q.chunks, c.bytes = [] → q.chunks = [c] ∧ q.size = 0) ∧
      (q.size ≠ 0 → q.head ≠ []) ∧
      ∀ n, q.Supplies (min n q.size) ∧ min n q.size ≤ (q.makeContiguous n).head.length := by
  have whole : q.WellFormed := by
    rw [← made]
    exact ((wellFormed_empty chunkSize).run ops).2.2
  refine ⟨whole.size_eq_total, ?_, whole.head_ne_nil, ?_⟩
  · intro c member isEmpty
    exact whole.eq_singleton_of_empty member isEmpty
  · intro n
    exact ⟨whole.supplies (Nat.min_le_right _ _), length_head_makeContiguous whole n⟩

/-- Nine bytes in three chunks, less the first of them. -/
def ladenOps : List Operation :=
  [.append [1, 2, 3], .append [4, 5, 6, 7, 8], .append [9], .free 1]

/-- As before, and all bytes are taken out. -/
def drainedOps : List Operation := ladenOps ++ [.readAll]

theorem chunks_of_run_ladenOps :
    ∃ laden drained spare, ((empty 4).run ladenOps).2 = laden ∧
      laden.chunks.map Chunk.size = [2, 5, 1] ∧ laden.size = total laden.chunks ∧
      laden.size ≠ 0 ∧ laden.head ≠ [] ∧ laden.Supplies (min 4 laden.size) ∧
      min 4 laden.size ≤ (laden.makeContiguous 4).head.length ∧
      ((empty 4).run drainedOps).2 = drained ∧ spare ∈ drained.chunks ∧ spare.bytes = [] ∧
      drained.chunks = [spare] ∧ drained.size = 0 := by
  obtain ⟨size, -, head, supplies⟩ := chunks_of_run (q := ((empty 4).run ladenOps).2) rfl
  obtain ⟨-, alone, -, -⟩ := chunks_of_run (q := ((empty 4).run drainedOps).2) rfl
  have held : ((empty 4).run ladenOps).2.size ≠ 0 := by decide
  have member : (⟨[], 4⟩ : Chunk) ∈ ((empty 4).run drainedOps).2.chunks := by decide
  obtain ⟨only, isEmpty⟩ := alone _ member rfl
  exact ⟨_, _, _, rfl, by decide, size, held, head held, (supplies 4).1, (supplies 4).2, rfl,
    member, rfl, only, isEmpty⟩

end CanStream.ByteQueue
