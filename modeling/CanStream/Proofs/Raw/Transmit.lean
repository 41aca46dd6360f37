import CanStream.Proofs.Raw.Reading
import CanStream.Proofs.Raw.Writing
import CanStream.Proofs.Socket.Buffers

/-!
# Raw frames are transmitted exactly once

While the endpoint takes a block whole or not at all, and flexible frames are not disabled with some
of them still queued, the endpoint is given nothing to write but the block of one frame. What was
written, with the frames that are left in the write buffer behind it, are the frames that were
queued, in order.
-/

namespace CanStream.Raw

section

variable {γ δ : Type} {view : Endpoint → γ} (spares : Endpoint.SetUpSpares view)
  (kept : State → δ)

include spares

theorem keeps_push (value : Value) :
    Hook.Keeps (fun s => (kept s.1, view s.2)) (push value) := by
  have set : Hook.Keeps (fun s : State × Endpoint => (kept s.1, view s.2))
      (Hook.call SocketError.ofIo
        (Endpoint.setOption value.option.kernelName value.encode)) :=
    .call fun s e => congrArg (kept s, ·) (spares.setOption _ _ e)
  refine .bind .state fun s =>
    .ite (.bind (.call fun s e => congrArg (kept s, ·) (spares.lookup _ e)) fun i => ?_) set
  exact .ite (.fail _) set

theorem keeps_indexOf (ifname : String) :
    Hook.Keeps (fun s => (kept s.1, view s.2)) (indexOf ifname) := by
  refine .ite (.pure 0) ?_
  refine .bind (.call fun s e => congrArg (kept s, ·) (spares.lookup _ e)) fun i => ?_
  exact .pure i.index

/-- A set-up leaves alone what does not depend on the interface. -/
theorem keeps_connect (binds : ∀ s ifname, kept { s with interfaceName := ifname } = kept s)
    (ifname : String) : Hook.Keeps (fun s => (kept s.1, view s.2)) (connect ifname) := by
  have pushes (options : List Opt) :
      Hook.Keeps (fun s => (kept s.1, view s.2)) (pushAll options) := by
    refine .forM (fun o => ?_) options
    exact .bind .state fun s => keeps_push spares kept (s.value o)
  refine .bind (.call fun s e => congrArg (kept s, ·) (spares.openAs _ e)) fun _ => ?_
  refine .bind (.call fun s e => congrArg (kept s, ·) (spares.setNonblocking _ e)) fun _ => ?_
  refine .bind (keeps_indexOf spares kept ifname) fun index => ?_
  refine .bind (.modifyState fun s e => congrArg (·, view e) (binds s ifname)) fun _ => ?_
  refine .bind (pushes Opt.all) fun _ => ?_
  exact .call fun s e => congrArg (kept s, ·) (spares.bindTo _ e)

theorem keeps_applyOption (state : SocketState) (value : Value) :
    Hook.Keeps (fun s => (kept s.1, view s.2)) (applyOption state value) :=
  .ite (keeps_push spares kept value) (.pure ())

end

/-- What a transmission depends on beside the buffer. -/
def footing (s : State × Endpoint) : Bool × List WriteAnswer × Option Nat :=
  (s.1.fdFrames, s.2.writing)

theorem footing_connect (ifname : String) : Hook.Keeps footing (connect ifname) :=
  keeps_connect Endpoint.setUpSpares_writing State.fdFrames (fun _ _ => rfl) ifname

theorem footing_applyOption (state : SocketState) (value : Value) :
    Hook.Keeps footing (applyOption state value) :=
  keeps_applyOption Endpoint.setUpSpares_writing State.fdFrames state value

theorem keeps_read (window : Nat) : Hook.Keeps footing (read window) := by
  rintro ⟨s, e⟩
  obtain ⟨consumed, rest, result, -, ran, -⟩ := reads_read window s e
  rw [ran]
  rfl

/-! ## The invariant -/

/-- The frames that wait to be written. -/
def framesWaiting (j : List (Entry protocol)) : List Frame :=
  (framesQueued j).drop (writesTaken j).length

theorem framesWaiting_eq {j : List (Entry protocol)} {sent waiting : List Frame}
    (split : framesQueued j = sent ++ waiting)
    (taken : writesTaken j = sent.map Frame.toKernel) : framesWaiting j = waiting := by
  rw [framesWaiting, split, taken, List.length_map, List.drop_left]

/-- Flexible frames were not disabled while some of them waited. -/
def FdKept (j : List (Entry protocol)) : Prop :=
  ∀ before after, j = before ++ .kept (.fdFrames false) :: after →
    ∀ f ∈ framesWaiting before, f.kind ≠ .fd

/-- Whether flexible frames were disabled. -/
def disablesFd : Entry protocol → Bool
  | .kept (.fdFrames false) => true
  | _ => false

theorem fdKept_iff {j : List (Entry protocol)} :
    FdKept j ↔ ∀ before entry after, j = before ++ entry :: after → disablesFd entry = true →
      ∀ f ∈ framesWaiting before, f.kind ≠ .fd := by
  constructor
  · intro kept before entry after split disables
    unfold disablesFd at disables
    split at disables
    case h_1 => exact kept before after split
    case h_2 => cases disables
  · intro always before after split
    exact always before _ after split rfl

instance (j : List (Entry protocol)) : Decidable (FdKept j) := decidable_of_iff _ fdKept_iff.symm

/-- Nothing was given to the endpoint to write but the block of a frame that was queued. -/
def TriesBlocks (j : List (Entry protocol)) : Prop :=
  ∀ bytes ∈ writesTried j, ∃ f ∈ framesQueued j, bytes = f.toKernel

/-- The writes that were taken are the blocks of the first frames that were queued, and the buffer
holds the blocks of the others. -/
def InOrder (fd : Bool) (buffered : List UInt8) (j : List (Entry protocol)) : Prop :=
  ∃ sent waiting, framesQueued j = sent ++ waiting ∧ writesTaken j = sent.map Frame.toKernel ∧
    (∀ f ∈ waiting, Writable fd f) ∧ buffered = blocks waiting

/-- What a connection knows of what it transmits. -/
structure Transmitting (c : Connection protocol) (j : List (Entry protocol)) : Prop where
  whole : c.writeBuffer.WellFormed
  tries : FdKept j → TriesBlocks j
  inOrder : FdKept j →
    WholeWrites c.endpoint ∧ InOrder (State.fdFrames c.protocol) c.writeBuffer.toList j

theorem FdKept.of_append {j more : List (Entry protocol)} (h : FdKept (j ++ more)) : FdKept j := by
  intro before after split f waits
  refine h before (after ++ more) ?_ f waits
  rw [split, List.append_assoc, List.cons_append]

/-- An entry that has nothing to do with writing. -/
structure Unwritten (entry : Entry protocol) : Prop where
  keeps : entry.clears = false
  unqueued : entry.framesQueued = []
  untried : entry.writesTried = []
  unwritten : entry.writesTaken = []

namespace TriesBlocks

variable {j : List (Entry protocol)} {entry : Entry protocol}

theorem append (h : TriesBlocks j) (unwritten : Unwritten entry) : TriesBlocks (j ++ [entry]) := by
  unfold TriesBlocks
  rw [writesTried, told_append_silent unwritten.keeps unwritten.untried,
    framesQueued, told_append_silent unwritten.keeps unwritten.unqueued]
  exact h

theorem clear (j : List (Entry protocol)) (clears : entry.clears = true) :
    TriesBlocks (j ++ [entry]) := by
  unfold TriesBlocks
  rw [writesTried, told_append_clear clears]
  exact fun _ member => by cases member

theorem queue {f : Frame} (h : TriesBlocks j) :
    TriesBlocks (j ++ [.queued f.toKernel] ++ [.frameQueued f]) := by
  have before : TriesBlocks (j ++ [.queued f.toKernel]) := h.append ⟨rfl, rfl, rfl, rfl⟩
  intro bytes member
  rw [writesTried, told_append_silent rfl rfl] at member
  obtain ⟨g, queued, same⟩ := before bytes member
  rw [framesQueued, told_append rfl]
  exact ⟨g, List.mem_append_left _ queued, same⟩

theorem write {reporting : Bool} {offered : List UInt8} {tried made : List (List UInt8)}
    {result : Except IoError Nat} (h : TriesBlocks j)
    (writes : Writes 0 (framesWaiting j) tried made result) :
    TriesBlocks (j ++ [.writeHook reporting offered tried made result]) := by
  intro bytes member
  rw [framesQueued, told_append_silent rfl rfl]
  rw [writesTried, told_append rfl] at member
  rcases List.mem_append.mp member with before | now
  · exact h bytes before
  · obtain ⟨f, waits, same⟩ := writes.exists_of_tried bytes now
    exact ⟨f, List.mem_of_mem_drop waits, same⟩

end TriesBlocks

namespace InOrder

variable {fd : Bool} {buffered : List UInt8} {j : List (Entry protocol)} {entry : Entry protocol}

theorem append (h : InOrder fd buffered j) (unwritten : Unwritten entry) :
    InOrder fd buffered (j ++ [entry]) := by
  obtain ⟨sent, waiting, split, taken, writable, holds⟩ := h
  refine ⟨sent, waiting, ?_, ?_, writable, holds⟩
  · rw [framesQueued, told_append_silent unwritten.keeps unwritten.unqueued]
    exact split
  · rw [writesTaken, told_append_silent unwritten.keeps unwritten.unwritten]
    exact taken

theorem clear (j : List (Entry protocol)) (clears : entry.clears = true) :
    InOrder fd [] (j ++ [entry]) := by
  refine ⟨[], [], ?_, ?_, by simp, rfl⟩
  · rw [framesQueued, told_append_clear clears]
    rfl
  · rw [writesTaken, told_append_clear clears]
    rfl

theorem queue {f : Frame} (h : InOrder fd buffered j) (block : Writable fd f) :
    InOrder fd (buffered ++ f.toKernel) (j ++ [.queued f.toKernel] ++ [.frameQueued f]) := by
  have unwritten : Unwritten (.queued f.toKernel) := ⟨rfl, rfl, rfl, rfl⟩
  obtain ⟨sent, waiting, split, taken, writable, holds⟩ := h.append unwritten
  refine ⟨sent, waiting ++ [f], ?_, ?_, ?_, ?_⟩
  · rw [framesQueued, told_append rfl, ← List.append_assoc, ← split]
    rfl
  · rw [writesTaken, told_append_silent rfl rfl]
    exact taken
  · intro g member
    rcases List.mem_append.mp member with old | new
    · exact writable g old
    · rw [List.mem_singleton.mp new]
      exact block
  · rw [holds, blocks_append, blocks_cons]
    exact congrArg _ (List.append_nil _).symm

/-- A write takes its frames from those that wait. -/
theorem write {reporting : Bool} {offered : List UInt8} {tried made : List (List UInt8)}
    {result : Except IoError Nat} (h : InOrder fd buffered j)
    (writes : Writes 0 (framesWaiting j) tried made result) :
    (∃ n, result = .ok n ∧
        InOrder fd (buffered.drop n) (j ++ [.writeHook reporting offered tried made result])) ∨
      ∃ cause, result = .error cause ∧ cause.kind ≠ .invalidData ∧
        InOrder fd buffered (j ++ [.writeHook reporting offered tried made result]) := by
  obtain ⟨sent, waiting, split, taken, writable, holds⟩ := h
  rw [framesWaiting_eq split taken] at writes
  obtain ⟨written, left, parts, kept, outcome⟩ :=
    writes.exists_split fun f member => (writable f member).length_pos
  have after : ∀ rest, rest = blocks left →
      InOrder fd rest (j ++ [.writeHook reporting offered tried made result]) := by
    rintro rest rfl
    refine ⟨sent ++ written, left, ?_, ?_, ?_, rfl⟩
    · rw [framesQueued, told_append_silent rfl rfl, List.append_assoc, ← parts]
      exact split
    · rw [writesTaken, told_append rfl, List.map_append, ← kept, ← taken]
      rfl
    · exact fun f member => writable f (by rw [parts]; exact List.mem_append_right _ member)
  rcases outcome with ok | ⟨-, rfl, cause, failed, valid⟩
  · refine .inl ⟨_, ok, after _ ?_⟩
    rw [holds, parts, blocks_append, Nat.zero_add, List.drop_left]
  · exact .inr ⟨cause, failed, valid, after _ (by rw [holds, parts, List.nil_append])⟩

end InOrder

namespace Transmitting

variable {c c' : Connection protocol} {j : List (Entry protocol)} {entry : Entry protocol}

/-- Only the write buffer, the endpoint's answers to writes and the mode matter. -/
theorem congr (h : Transmitting c j) (buffer : c'.writeBuffer = c.writeBuffer)
    (foot : footing (c'.protocol, c'.endpoint) = footing (c.protocol, c.endpoint)) :
    Transmitting c' j := by
  obtain ⟨fd, answers, limit⟩ : State.fdFrames c'.protocol = State.fdFrames c.protocol ∧
      c'.endpoint.writeAnswers = c.endpoint.writeAnswers ∧
      c'.endpoint.writeLimit = c.endpoint.writeLimit := by
    simpa [footing, Endpoint.writing] using foot
  refine ⟨by rw [buffer]; exact h.whole, h.tries, fun kept => ?_⟩
  obtain ⟨writes, inOrder⟩ := h.inOrder kept
  rw [buffer, fd]
  exact ⟨writes.congr answers limit, inOrder⟩

theorem append (h : Transmitting c j) (unwritten : Unwritten entry) :
    Transmitting c (j ++ [entry]) where
  whole := h.whole
  tries := fun kept => (h.tries kept.of_append).append unwritten
  inOrder := fun kept => (h.inOrder kept.of_append).imp id fun inOrder => inOrder.append unwritten

theorem resumeReading (h : Transmitting c j) : Transmitting c.resumeReading j := by
  obtain ⟨on, resumed⟩ := c.exists_resumeReading
  rw [resumed]
  exact h.congr rfl rfl

theorem clear (h : Transmitting c j) (buffer : c'.writeBuffer = c.writeBuffer.clear)
    (endpoint : c'.endpoint = c.endpoint) (clears : entry.clears = true) :
    Transmitting c' (j ++ [entry]) where
  whole := by rw [buffer]; exact c.writeBuffer.wellFormed_clear
  tries := fun _ => TriesBlocks.clear j clears
  inOrder := fun kept => by
    rw [buffer, endpoint, ByteQueue.toList_clear]
    exact ⟨(h.inOrder kept.of_append).1, InOrder.clear j clears⟩

theorem hooked {ε α : Type} {hook : Hook State ε α} (kept : Hook.Keeps footing hook)
    (h : Transmitting c j) {result : Except ε α} {after : State × Endpoint}
    (ran : hook.exec (c.protocol, c.endpoint) = (result, after)) :
    Transmitting (c.hooked after) j :=
  h.congr rfl (kept.of_exec ran)

theorem queue {f : Frame} (h : Transmitting c j) (made : f.Made) (known : f.kind ≠ .unknown)
    (carries : f.kind = .fd → State.fdFrames c.protocol = true) :
    Transmitting (c.enqueue f.toKernel) (j ++ [.queued f.toKernel] ++ [.frameQueued f]) := by
  have block : Writable (State.fdFrames c.protocol) f := ⟨known, made.sealed, carries⟩
  rw [c.enqueue_of_ne_nil (List.ne_nil_of_length_pos block.length_pos)]
  refine ⟨h.whole.append _, fun kept => (h.tries kept.of_append.of_append).queue, fun kept => ?_⟩
  obtain ⟨writes, inOrder⟩ := h.inOrder kept.of_append.of_append
  rw [ByteQueue.toList_append]
  exact ⟨writes, inOrder.queue block⟩

/-- Flexible frames may be disabled when none of them waits. -/
theorem keepOption (h : Transmitting c j) (value : Value) :
    Transmitting { c with protocol := c.protocol.put value } (j ++ [.kept value]) := by
  have unwritten : Unwritten (.kept value) := ⟨rfl, rfl, rfl, rfl⟩
  refine ⟨h.whole, fun kept => (h.tries kept.of_append).append unwritten, fun kept => ?_⟩
  obtain ⟨writes, sent, waiting, split, taken, writable, holds⟩ := h.inOrder kept.of_append
  have stays : InOrder (c.protocol.put value).fdFrames c.writeBuffer.toList j := by
    refine ⟨sent, waiting, split, taken, fun f member => ?_, holds⟩
    have before := writable f member
    refine ⟨before.known, before.isSealed, fun isFd => ?_⟩
    cases value with
    | fdFrames on =>
      cases on with
      | true => rfl
      | false =>
        have notFd := kept j [] rfl f (by rw [framesWaiting_eq split taken]; exact member)
        exact absurd isFd notFd
    | filters v => exact before.fits isFd
    | errorMask v => exact before.fits isFd
    | loopback on => exact before.fits isFd
    | ownMessages on => exact before.fits isFd
  exact ⟨writes, stays.append unwritten⟩

/-- The first block that waits is in one piece at the head of the aligned buffer. -/
theorem head_align (h : Transmitting c j) {f : Frame} {more : List Frame}
    (holds : c.writeBuffer.toList = blocks (f :: more))
    (block : Writable (State.fdFrames c.protocol) f) :
    ∃ tail, blocks (f :: more) = c.align.writeBuffer.head ++ tail ∧
      f.toKernel.length ≤ c.align.writeBuffer.head.length := by
  have unit : f.toKernel.length ≤ State.frameSize c.protocol := by
    unfold State.frameSize
    rcases block.length_cases with size | ⟨size, fd⟩
    · rw [size]
      split <;> decide
    · exact Nat.le_of_eq (by rw [size, if_pos fd])
  have size : f.toKernel.length ≤ c.writeBuffer.size := by
    rw [h.whole.size_eq, holds, blocks_cons, List.length_append]
    omega
  obtain ⟨tail, split⟩ := c.align.writeBuffer.head_append_tail
  have aligned : c.align.writeBuffer.toList = c.writeBuffer.toList :=
    ByteQueue.toList_makeContiguous h.whole _
  refine ⟨tail, by rw [← split, aligned, holds], ?_⟩
  exact Nat.le_trans (Nat.le_min.mpr ⟨unit, size⟩) (ByteQueue.length_head_makeContiguous h.whole _)

/-- The protocol writes frames that wait, and leaves all else as it is. -/
theorem writes (h : Transmitting c j) (kept : FdKept j) (nonempty : c.writeBuffer.isEmpty = false)
    {result : Except IoError Nat} {after : State × Endpoint}
    (ran : (protocol.write c.align.writeBuffer.head).exec (c.protocol, c.endpoint) =
      (result, after)) :
    after.1 = c.protocol ∧ WholeWrites after.2 ∧
      Writes 0 (framesWaiting j) (c.endpoint.writesTried after.2) (c.endpoint.writesMade after.2)
        result := by
  obtain ⟨answers, sent, waiting, split, taken, writable, holds⟩ := h.inOrder kept
  cases waiting with
  | nil =>
    rw [← Bool.not_eq_true, ByteQueue.isEmpty_iff, h.whole.size_eq, holds] at nonempty
    exact absurd rfl nonempty
  | cons f more =>
    have block := writable f (List.mem_cons_self ..)
    obtain ⟨tail, starts, whole⟩ := h.head_align holds block
    have count : 0 < c.align.writeBuffer.head.length / classicUnit :=
      Nat.div_pos (Nat.le_trans block.classicUnit_le whole) (by decide)
    obtain ⟨tried, made, result', e', ran', answers', triedAll, madeAll, writes⟩ :=
      writes_writeFrames _ 0 starts writable (.inr ⟨count, f, more, rfl, whole⟩) c.protocol answers
    have hook : (protocol.write c.align.writeBuffer.head).exec (c.protocol, c.endpoint) =
        (result', (c.protocol, e')) :=
      (Hook.exec_state_bind _ _).trans ran'
    obtain ⟨rfl, rfl⟩ := Prod.mk.inj (ran.symm.trans hook)
    rw [Endpoint.writesTried_eq triedAll, Endpoint.writesMade_eq madeAll,
      framesWaiting_eq split taken]
    exact ⟨rfl, answers', writes⟩

theorem write (h : Transmitting c j) (nonempty : c.writeBuffer.isEmpty = false)
    {result : Except IoError Nat} {after : State × Endpoint}
    (ran : (protocol.write c.align.writeBuffer.head).exec (c.protocol, c.endpoint) =
      (result, after)) :
    Transmitting ((c.align.hooked after).settleWrite result)
      (j ++ [.writeHook c.reportingWrite c.align.writeBuffer.head
        (c.endpoint.writesTried after.2) (c.endpoint.writesMade after.2) result]) := by
  have aligned : c.align.writeBuffer.WellFormed := h.whole.makeContiguous _
  have same : c.align.writeBuffer.toList = c.writeBuffer.toList :=
    ByteQueue.toList_makeContiguous h.whole _
  refine ⟨Connection.wellFormed_settleWrite aligned after result, fun kept => ?_, fun kept => ?_⟩
  · obtain ⟨-, -, writes⟩ := h.writes kept.of_append nonempty ran
    exact (h.tries kept.of_append).write writes
  · obtain ⟨sameState, answers, writes⟩ := h.writes kept.of_append nonempty ran
    rcases (h.inOrder kept.of_append).2.write writes with
      ⟨n, rfl, later⟩ | ⟨cause, rfl, valid, later⟩
    · have freed : (c.align.writeBuffer.free n).toList = c.writeBuffer.toList.drop n := by
        rw [ByteQueue.toList_free aligned.size_eq, same]
      rw [← freed, ← sameState] at later
      exact ⟨answers, later⟩
    · rw [Connection.settleWrite, Connection.refuseWrite_of_valid _ valid]
      rw [← same, ← sameState] at later
      exact ⟨answers, later⟩

end Transmitting

/-! ## Runs -/

/-- A change to the endpoint's script after which it still does not split blocks. -/
def WholeCue : Endpoint.Cue → Prop
  | .pushWriteTake n => TakesWhole n
  | .setWriteLimit (some n) => TakesWhole n
  | _ => True

theorem WholeWrites.cue {e : Endpoint} (h : WholeWrites e) {q : Endpoint.Cue} (whole : WholeCue q) :
    WholeWrites (e.cue q) := by
  cases q with
  | pushWriteError code =>
    refine ⟨fun n member => h.answers n ?_, h.limit⟩
    simpa [Endpoint.cue] using member
  | pushWriteTake m =>
    refine ⟨fun n member => ?_, h.limit⟩
    rcases List.mem_append.mp member with old | new
    · exact h.answers n old
    · obtain rfl : n = m := by simpa using new
      exact whole
  | setWriteLimit limit =>
    refine ⟨h.answers, fun n limited => ?_⟩
    have same : limit = some n := limited
    rw [same] at whole
    exact whole
  | _ => exact h.congr rfl rfl

/-- Frames that can be made are written, but no other bytes, over an endpoint that does not split
blocks. -/
def frameWriter : Scope protocol where
  bytes := fun _ => False
  frames := Frame.Made
  takesBytes := True
  cues := WholeCue

theorem steps_transmitting : Steps frameWriter Transmitting Transmitting Transmitting where
  delivery := fun _ _ h => h.append ⟨rfl, rfl, rfl, rfl⟩
  returned := fun _ h => h.append ⟨rfl, rfl, rfl, rfl⟩
  noted := fun _ h => h.append ⟨rfl, rfl, rfl, rfl⟩
  error := fun _ h => (h.append ⟨rfl, rfl, rfl, rfl⟩).congr rfl rfl
  clearError := fun h => h.congr rfl rfl
  inspected := fun h => h.append ⟨rfl, rfl, rfl, rfl⟩
  beginClose := fun h _ _ => (h.append ⟨rfl, rfl, rfl, rfl⟩).congr rfl rfl
  goOnClosing := fun h _ => h
  discard := fun h _ => h.clear rfl rfl rfl
  endClose := fun {c j} h _ =>
    have emptied : Transmitting c.discard (j ++ [.discarded]) := h.clear rfl rfl rfl
    (emptied.append ⟨rfl, rfl, rfl, rfl⟩).congr rfl rfl
  sever := fun h => (h.append ⟨rfl, rfl, rfl, rfl⟩).congr rfl (by simp [footing])
  prepare := fun {c j} ifname mode h _ =>
    have emptied : Transmitting (c.prepare ifname mode) (j ++ [.cleared ifname mode]) :=
      h.clear rfl rfl rfl
    (emptied.append ⟨rfl, rfl, rfl, rfl⟩).congr rfl rfl
  connectFailed := fun ifname h ran =>
    (h.hooked (footing_connect ifname) ran).append ⟨rfl, rfl, rfl, rfl⟩
  reconnected := fun ifname _ h ran _ =>
    ((h.hooked (footing_connect ifname) ran).append ⟨rfl, rfl, rfl, rfl⟩).congr rfl rfl
  connected := fun ifname _ h ran _ =>
    (((h.hooked (footing_connect ifname) ran).append ⟨rfl, rfl, rfl, rfl⟩).append
      ⟨rfl, rfl, rfl, rfl⟩).congr rfl rfl
  read := fun {c _ window result after} h _ ran => by
    obtain ⟨buffer, on, settled⟩ := (c.hooked after).exists_settleRead c window result
    rw [settled]
    exact ((h.hooked (keeps_read window) ran).append ⟨rfl, rfl, rfl, rfl⟩).congr rfl rfl
  received := fun _ h => h.append ⟨rfl, rfl, rfl, rfl⟩
  beginAnnounce := fun h _ => (h.append ⟨rfl, rfl, rfl, rfl⟩).congr rfl rfl
  endAnnounce := fun h _ => h.congr rfl rfl
  beginReport := fun h _ _ => (h.append ⟨rfl, rfl, rfl, rfl⟩).congr rfl rfl
  endReport := fun h _ => h.congr rfl rfl
  skipReport := fun h _ => h.congr rfl rfl
  idle := fun h _ => h.congr rfl rfl
  write := fun h nonempty ran => h.write nonempty ran
  refuseOption := fun value h ran => h.hooked (footing_applyOption _ value) ran
  keepOption := fun value h ran => (h.hooked (footing_applyOption _ value) ran).keepOption value
  optionChanged := fun _ h => h.append ⟨rfl, rfl, rfl, rfl⟩
  setReadLimit := fun {c _} n h _ =>
    Transmitting.resumeReading (c := { c with readLimit := n }) (h.congr rfl rfl)
  takeBytes := fun {c _} n _ h =>
    Transmitting.resumeReading (c := { c with readBuffer := (c.readBuffer.read n).2 })
      ((h.append ⟨rfl, rfl, rfl, rfl⟩).congr rfl rfl)
  takeFrame := fun {c j header} h _ _ _ => by
    refine Transmitting.resumeReading (Transmitting.congr (c := c) ?_ rfl rfl)
    have taken : Transmitting c
        (j ++ [.taken (c.readBuffer.read (Socket.frameSize header)).1]) :=
      h.append ⟨rfl, rfl, rfl, rfl⟩
    exact holds_append_frameEntry taken fun _ => taken.append ⟨rfl, rfl, rfl, rfl⟩
  queueBytes := fun never _ _ _ => never.elim
  queueFrame := fun made h _ _ known carries => h.queue made known carries
  cue := fun whole h =>
    ⟨h.whole, h.tries, fun kept => (h.inOrder kept).imp (fun writes => writes.cue whole) id⟩
  poll := fun _ _ h => h.congr rfl (by simp [footing])
  takeWritten := fun h => h.congr rfl rfl

/-- Over an endpoint that does not split blocks, every write since the buffer was emptied last is of
the block of one frame. The writes that were taken, with the blocks of the frames that wait behind
them, are the blocks of the frames that were queued since, and the buffer holds those that wait. -/
theorem writesTaken_append_framesWaiting {protocolState : State} {endpoint : Endpoint}
    {readChunk writeChunk : Nat} {actions : List (Action protocol)}
    (inScope : ∀ a ∈ actions, a.Within frameWriter) (writes : WholeWrites endpoint)
    {s : Socket protocol}
    (ran : Socket.run actions (Socket.fresh protocolState endpoint readChunk writeChunk) =
      some ((), s))
    (kept : FdKept s.journal) :
    (∀ bytes ∈ writesTried s.journal, ∃ f ∈ framesQueued s.journal, bytes = f.toKernel) ∧
      writesTaken s.journal ++ (framesWaiting s.journal).map Frame.toKernel =
        (framesQueued s.journal).map Frame.toKernel ∧
      s.writeBuffer.toList = blocks (framesWaiting s.journal) := by
  have sound : Outline.Sound frameWriter ⟨Transmitting, Transmitting, Transmitting⟩ :=
    ⟨steps_transmitting, steps_transmitting, fun h => h.congr rfl (by simp [footing]),
      fun h => h.congr rfl rfl⟩
  have start : Transmitting (Socket.fresh protocolState endpoint readChunk writeChunk).toConnection
      [] :=
    ⟨ByteQueue.wellFormed_empty _, fun _ => by simp [TriesBlocks, writesTried],
      fun _ => ⟨writes, [], [], rfl, rfl, by simp, rfl⟩⟩
  obtain ⟨transmitting, -⟩ := sound.holds_after_run inScope start ran
  have h : Transmitting s.toConnection s.journal := transmitting
  obtain ⟨-, sent, waiting, split, taken, -, holds⟩ := h.inOrder kept
  refine ⟨h.tries kept, ?_, ?_⟩
  · rw [framesWaiting_eq split taken, split, taken, List.map_append]
  · rw [framesWaiting_eq split taken, holds]

/-- A run in which the kernel refuses a frame twice before it takes it and the next, and in which
flexible frames are disabled while a classic one waits. -/
def refusedRun : List (Action protocol) :=
  [.ask (.connectWith [(.fdFrames, .fdFrames true)] "" .readWrite),
    .ask (.cue (.pushWriteTake 0)), .ask (.cue (.pushWriteError 105)),
    .ask (.writeFrame (Frame.empty.withKind .data)), .ask (.writeFrame (Frame.empty.withKind .fd)),
    .ask .flush, .ask .writeReady, .ask .writeReady, .ask .writeReady,
    .ask (.cue (.setWriteLimit (some 0))), .ask (.writeFrame (Frame.empty.withKind .remote)),
    .ask .flush, .ask (.setOption .fdFrames (.fdFrames false))]

theorem writesTaken_append_framesWaiting_refusedRun :
    ∃ s : Socket protocol,
      Socket.run refusedRun (Socket.fresh .initial .blank 20 20) = some ((), s) ∧
      (writesTaken s.journal).map List.length = [16, 72] ∧ s.writeBuffer.size = 16 ∧
      writesTaken s.journal ++ (framesWaiting s.journal).map Frame.toKernel =
        (framesQueued s.journal).map Frame.toKernel := by
  obtain ⟨s, ran, outcome⟩ : ∃ s : Socket protocol,
      Socket.run refusedRun (Socket.fresh .initial .blank 20 20) = some ((), s) ∧
      ((writesTaken s.journal).map List.length, s.writeBuffer.size, decide (FdKept s.journal)) =
        ([16, 72], 16, true) :=
    Socket.exists_run (by decide +kernel)
  simp only [Prod.mk.injEq] at outcome
  obtain ⟨lengths, size, kept⟩ := outcome
  have inScope : ∀ a ∈ refusedRun, a.Within frameWriter := by
    simp [refusedRun, Action.Within, Request.Within, frameWriter, WholeCue, TakesWhole,
      Frame.Made.withKind _ .empty]
  have writes : WholeWrites .blank := ⟨by simp [Endpoint.blank], by simp [Endpoint.blank]⟩
  exact ⟨s, ran, lengths, size,
    (writesTaken_append_framesWaiting inScope writes ran (of_decide_eq_true kept)).2.1⟩

end CanStream.Raw
