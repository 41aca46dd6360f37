import CanStream.Proofs.Raw.Reading
import CanStream.Proofs.Raw.Taking
import CanStream.Proofs.Socket.Buffers

/-!
# Raw frames are received exactly

While every datagram is a frame, what is read goes into the read buffer block by block, each with
its own size in its sentinels. The reader finds the next block from these alone, so that the frames
it takes and those that are left are the datagrams that were read, one by one and in order.
-/

namespace CanStream.Raw

/-- A datagram that is a frame of one of the two sizes. -/
def IsBlock (d : List UInt8) : Prop := d.length = classicUnit ∨ d.length = fdUnit

theorem IsBlock.classicUnit_le {d : List UInt8} (block : IsBlock d) : classicUnit ≤ d.length := by
  rcases block with size | size
  · exact Nat.le_of_eq size.symm
  · rw [size]
    decide

/-- The frame of a datagram, decoded with the datagram's size in its sentinels. -/
def frameOf? (d : List UInt8) : Option Frame := (Frame.ofKernel? (tag d)).map Prod.fst

/-- The sentinels of a tagged datagram tell its size. -/
theorem blockSize_tag {d : List UInt8} (block : IsBlock d) (rest : List UInt8) :
    Frame.blockSize (tag d ++ rest) = d.length := by
  have long : 16 ≤ d.length := block.classicUnit_le
  have at6 : (tag d ++ rest)[6]? = some (UInt8.ofNat (d.length - headerSize)) := by
    rw [List.getElem?_append_left (by rw [length_tag]; omega), tag,
      List.getElem?_set_ne (by decide), List.getElem?_set_self (by omega)]
  have at7 : (tag d ++ rest)[7]? = some (UInt8.ofNat d.length) := by
    rw [List.getElem?_append_left (by rw [length_tag]; omega), tag,
      List.getElem?_set_self (by rw [List.length_set]; omega)]
  rw [Frame.blockSize, at6, at7]
  rcases block with size | size
  · rw [size]
    rfl
  · rw [size]
    rfl

/-- The block of a datagram is decoded the same, whatever follows it. -/
theorem exists_frameOf? {d : List UInt8} (block : IsBlock d) (rest : List UInt8) :
    ∃ f, frameOf? d = some f ∧ Frame.ofKernel? (tag d ++ rest) = some (f, d.length) := by
  have size := blockSize_tag block rest
  have whole : Frame.blockSize (tag d ++ rest) ≤ (tag d ++ rest).length := by
    rw [size]
    simp
  obtain ⟨f, found, own⟩ := Frame.exists_ofKernel? whole
  rw [size] at found own
  rw [List.take_append_of_le_length (by simp), List.take_of_length_le (by simp)] at own
  exact ⟨f, by rw [frameOf?, own]; rfl, found⟩

theorem drop_tag (d rest : List UInt8) : (tag d ++ rest).drop d.length = rest :=
  List.drop_left' (length_tag d)

/-- Datagrams that are put one behind another are taken apart again. -/
theorem mapM_frameOf? {ds : List (List UInt8)} (blocks : ∀ d ∈ ds, IsBlock d) :
    ds.mapM frameOf? = some (Frame.framesIn (ds.flatMap tag)) := by
  induction ds with
  | nil => rw [List.flatMap_nil, Frame.framesIn_nil]; rfl
  | cons d ds ih =>
    obtain ⟨f, frame, found⟩ := exists_frameOf? (blocks d (List.mem_cons_self ..)) (ds.flatMap tag)
    have rest := ih fun d member => blocks d (List.mem_cons_of_mem _ member)
    rw [List.flatMap_cons, Frame.framesIn_eq_cons found, drop_tag, List.mapM_cons, frame, rest]
    rfl

/-- The datagram is taken out, and what was behind it stays. -/
theorem read_block {q : ByteQueue} {d rest : List UInt8} (holds : q.toList = tag d ++ rest)
    (whole : q.WellFormed) :
    (q.read d.length).1 = tag d ∧ (q.read d.length).2.toList = rest := by
  refine ⟨?_, ?_⟩
  · rw [ByteQueue.read, ByteQueue.peek_eq, holds, ← length_tag d, List.take_left]
  · rw [ByteQueue.toList_read whole.size_eq, holds, drop_tag]

/-! ## The invariant -/

/-- Whether each datagram that was read is a frame: a classic one, or a flexible one while such
frames were read. -/
def readsBlocks : Entry protocol → Bool
  | .readHook unit consumed _ => (datagrams consumed).all fun d =>
      d.length == classicUnit || d.length == fdUnit && unit == fdUnit
  | _ => true

/-- Whatever datagram was read was a frame. -/
def WellSized (j : List (Entry protocol)) : Prop := ∀ entry ∈ j, readsBlocks entry = true

instance (j : List (Entry protocol)) : Decidable (WellSized j) := List.decidableBAll _ j

/-- The datagrams that were read are those whose frames were taken, and behind them those that the
buffer holds. -/
def InStep (buffered : List UInt8) (j : List (Entry protocol)) : Prop :=
  ∃ used waiting, datagramsRead j = used ++ waiting ∧ (∀ d ∈ waiting, IsBlock d) ∧
    used.mapM frameOf? = some (framesTaken j) ∧ buffered = waiting.flatMap tag

/-- What a connection knows of what it received. -/
structure Receiving (c : Connection protocol) (j : List (Entry protocol)) : Prop where
  whole : c.readBuffer.WellFormed
  inStep : WellSized j → InStep c.readBuffer.toList j

theorem WellSized.of_append {j more : List (Entry protocol)} (h : WellSized (j ++ more)) :
    WellSized j :=
  fun entry member => h entry (List.mem_append_left _ member)

/-- An entry that has nothing to do with reading. -/
structure Unread (entry : Entry protocol) : Prop where
  keeps : entry.clears = false
  unread : entry.datagramsRead = []
  untaken : entry.framesTaken = []

theorem InStep.append {buffered : List UInt8} {j : List (Entry protocol)}
    {entry : Entry protocol} (h : InStep buffered j) (unread : Unread entry) :
    InStep buffered (j ++ [entry]) := by
  obtain ⟨used, waiting, split, blocks, taken, holds⟩ := h
  refine ⟨used, waiting, ?_, blocks, ?_, holds⟩
  · rw [datagramsRead, told_append_silent unread.keeps unread.unread]
    exact split
  · rw [framesTaken, told_append_silent unread.keeps unread.untaken]
    exact taken

/-- A taken block takes its datagram from those that wait. -/
theorem InStep.take {buffered : List UInt8} {j : List (Entry protocol)} (h : InStep buffered j)
    (long : headerSize ≤ buffered.length) :
    ∃ d f rest, IsBlock d ∧ buffered = tag d ++ rest ∧ frameOf? d = some f ∧
      InStep rest (j ++ [.frameTaken f]) := by
  obtain ⟨used, waiting, split, blocks, taken, holds⟩ := h
  cases waiting with
  | nil =>
    rw [holds] at long
    cases long
  | cons d waiting =>
    have block := blocks d (List.mem_cons_self ..)
    obtain ⟨f, frame, -⟩ := exists_frameOf? block []
    refine ⟨d, f, waiting.flatMap tag, block, by rw [holds, List.flatMap_cons], frame,
      used ++ [d], waiting, ?_, fun d member => blocks d (List.mem_cons_of_mem _ member), ?_, rfl⟩
    · rw [datagramsRead, told_append_silent rfl rfl, List.append_assoc]
      exact split
    · rw [framesTaken, told_append rfl, List.mapM_append, taken, List.mapM_cons, frame]
      rfl

/-- What is read waits behind what waits already. -/
theorem InStep.read {buffered : List UInt8} {j : List (Entry protocol)} {unit : Nat}
    {consumed : List Arrival} {result : Except IoError Nat} (h : InStep buffered j)
    (blocks : ∀ d ∈ datagrams consumed, IsBlock d) :
    InStep (buffered ++ (datagrams consumed).flatMap tag)
      (j ++ [.readHook unit consumed result]) := by
  obtain ⟨used, waiting, split, waits, taken, holds⟩ := h
  refine ⟨used, waiting ++ datagrams consumed, ?_, ?_, ?_, by rw [holds, List.flatMap_append]⟩
  · rw [datagramsRead, told_append rfl, ← List.append_assoc, ← split]
    rfl
  · intro d member
    rcases List.mem_append.mp member with old | new
    · exact waits d old
    · exact blocks d new
  · rw [framesTaken, told_append_silent rfl rfl]
    exact taken

theorem InStep.clear (j : List (Entry protocol)) {entry : Entry protocol}
    (clears : entry.clears = true) : InStep [] (j ++ [entry]) := by
  refine ⟨[], [], ?_, by simp, ?_, rfl⟩
  · rw [datagramsRead, told_append_clear clears]
    rfl
  · rw [framesTaken, told_append_clear clears]
    rfl

namespace Receiving

variable {c c' : Connection protocol} {j : List (Entry protocol)} {entry : Entry protocol}

/-- Only the read buffer matters. -/
theorem congr (h : Receiving c j) (buffer : c'.readBuffer = c.readBuffer) : Receiving c' j where
  whole := by rw [buffer]; exact h.whole
  inStep := by rw [buffer]; exact h.inStep

theorem append (h : Receiving c j) (unread : Unread entry) : Receiving c (j ++ [entry]) where
  whole := h.whole
  inStep := fun sized => (h.inStep sized.of_append).append unread

theorem resumeReading (h : Receiving c j) : Receiving c.resumeReading j := by
  obtain ⟨on, resumed⟩ := c.exists_resumeReading
  rw [resumed]
  exact h.congr rfl

theorem clear {q : ByteQueue} (buffer : c.readBuffer = q.clear) (clears : entry.clears = true) :
    Receiving c (j ++ [entry]) where
  whole := by rw [buffer]; exact ByteQueue.wellFormed_clear q
  inStep := fun _ => by
    rw [buffer, ByteQueue.toList_clear]
    exact InStep.clear j clears

theorem settleRead {before : Connection protocol} {unit window : Nat} {consumed : List Arrival}
    {result : Except IoError (List UInt8)} (h : Receiving c j)
    (reads : Reads unit window [] consumed result) (size : unit = classicUnit ∨ unit = fdUnit) :
    Receiving (c.settleRead before window result)
      (j ++ [.readHook unit consumed (result.map List.length)]) := by
  refine ⟨Connection.wellFormed_settleRead h.whole before window result, fun sized => ?_⟩
  have sizes : ∀ d ∈ datagrams consumed,
      d.length = classicUnit ∨ d.length = unit ∧ unit = fdUnit := by
    intro d member
    have blocks := sized _ (List.mem_append_right _ (List.mem_singleton_self _))
    rw [readsBlocks, List.all_eq_true] at blocks
    have block := blocks d member
    rw [Bool.or_eq_true, Bool.and_eq_true, beq_iff_eq, beq_iff_eq, beq_iff_eq] at block
    exact block.imp id fun isFd => ⟨isFd.1.trans isFd.2.symm, isFd.2⟩
  have classic : classicUnit ≤ unit := by rcases size with rfl | rfl <;> decide
  have outcome := reads.of_sized classic fun d member => (sizes d member).imp id And.left
  have read : InStep (c.readBuffer.toList ++ (datagrams consumed).flatMap tag)
      (j ++ [.readHook unit consumed (result.map List.length)]) :=
    (h.inStep sized.of_append).read fun d member =>
      (sizes d member).imp id fun isFd => isFd.1.trans isFd.2
  rcases outcome with rfl | ⟨cause, rfl, empty, -⟩
  · rw [Connection.toList_settleRead_ok h.whole before (reads.length_le (Nat.zero_le _) rfl)]
    exact read
  · rw [Connection.toList_settleRead_error h.whole before window cause]
    rw [empty, List.flatMap_nil, List.append_nil] at read
    exact read

theorem takeFrame {header : List UInt8} (h : Receiving c j)
    (peeked : c.readBuffer.peek headerSize = header) (full : header.length = headerSize) :
    Receiving { c with readBuffer := (c.readBuffer.read (Socket.frameSize header)).2 }
      (j ++ [.taken (c.readBuffer.read (Socket.frameSize header)).1] ++
        frameEntry (c.readBuffer.read (Socket.frameSize header)).1) := by
  refine ⟨h.whole.read _, fun sized => ?_⟩
  have long : headerSize ≤ c.readBuffer.toList.length := by
    rw [← full, ← peeked, ByteQueue.peek_eq]
    exact List.length_take_le' _ _
  have inStep := (h.inStep sized.of_append.of_append).append
    (⟨rfl, rfl, rfl⟩ : Unread (.taken (c.readBuffer.read (Socket.frameSize header)).1))
  obtain ⟨d, f, rest, block, buffered, frame, next⟩ := inStep.take long
  have size : Socket.frameSize header = d.length := by
    rw [← peeked, frameSize_peek, buffered, blockSize_tag block]
  obtain ⟨bytes, left⟩ := read_block buffered h.whole
  have entry : frameEntry (tag d) = [(.frameTaken f : Entry protocol)] := by
    rw [frameOf?, Option.map_eq_some_iff] at frame
    obtain ⟨⟨g, n⟩, decoded, rfl⟩ := frame
    rw [frameEntry, decoded]
  rw [size] at next ⊢
  rw [left, bytes, entry, ← bytes]
  exact next

end Receiving

/-- Everything but taking bytes out of the read buffer other than as frames. -/
def frameReader : Scope protocol where
  bytes := fun _ => True
  frames := fun _ => True
  takesBytes := False
  cues := fun _ => True

theorem frameSize_cases (s : State) : s.frameSize = classicUnit ∨ s.frameSize = fdUnit := by
  unfold State.frameSize
  split
  · exact .inr rfl
  · exact .inl rfl

theorem steps_receiving : Steps frameReader Receiving Receiving Receiving where
  delivery := fun _ _ h => h.append ⟨rfl, rfl, rfl⟩
  returned := fun _ h => h.append ⟨rfl, rfl, rfl⟩
  noted := fun _ h => h.append ⟨rfl, rfl, rfl⟩
  error := fun _ h => (h.append ⟨rfl, rfl, rfl⟩).congr rfl
  clearError := fun h => h.congr rfl
  inspected := fun h => h.append ⟨rfl, rfl, rfl⟩
  beginClose := fun h _ _ => (h.append ⟨rfl, rfl, rfl⟩).congr rfl
  goOnClosing := fun h _ => h
  discard := fun _ _ => .clear rfl rfl
  endClose := fun {c j} _ _ =>
    have emptied : Receiving c.discard (j ++ [.discarded]) := .clear rfl rfl
    (emptied.append ⟨rfl, rfl, rfl⟩).congr rfl
  sever := fun h => (h.append ⟨rfl, rfl, rfl⟩).congr rfl
  prepare := fun {c j} ifname mode _ _ =>
    have emptied : Receiving (c.prepare ifname mode) (j ++ [.cleared ifname mode]) := .clear rfl rfl
    (emptied.append ⟨rfl, rfl, rfl⟩).congr rfl
  connectFailed := fun _ h _ => (h.append ⟨rfl, rfl, rfl⟩).congr rfl
  reconnected := fun _ _ h _ _ => (h.append ⟨rfl, rfl, rfl⟩).congr rfl
  connected := fun _ _ h _ _ =>
    ((h.append ⟨rfl, rfl, rfl⟩).append ⟨rfl, rfl, rfl⟩).congr rfl
  read := fun {c j window result after} h _ ran => by
    obtain ⟨consumed, rest, result', split, ran', reads⟩ := reads_read window c.protocol c.endpoint
    obtain ⟨rfl, rfl⟩ := Prod.mk.inj (ran.symm.trans ran')
    rw [Endpoint.arrivalsTaken_eq split]
    exact Receiving.settleRead (c := c.hooked _) (h.congr rfl) reads (frameSize_cases c.protocol)
  received := fun _ h => h.append ⟨rfl, rfl, rfl⟩
  beginAnnounce := fun h _ => (h.append ⟨rfl, rfl, rfl⟩).congr rfl
  endAnnounce := fun h _ => h.congr rfl
  beginReport := fun h _ _ => (h.append ⟨rfl, rfl, rfl⟩).congr rfl
  endReport := fun h _ => h.congr rfl
  skipReport := fun h _ => h.congr rfl
  idle := fun h _ => h.congr rfl
  write := fun h _ _ =>
    (h.append ⟨rfl, rfl, rfl⟩).congr (Connection.readBuffer_settleWrite _ _)
  refuseOption := fun _ h _ => h.congr rfl
  keepOption := fun _ h _ => (h.append ⟨rfl, rfl, rfl⟩).congr rfl
  optionChanged := fun _ h => h.append ⟨rfl, rfl, rfl⟩
  setReadLimit := fun {c _} n h _ =>
    Receiving.resumeReading (c := { c with readLimit := n }) (h.congr rfl)
  takeBytes := fun _ never _ => never.elim
  takeFrame := fun h peeked full _ => (h.takeFrame peeked full).resumeReading
  queueBytes := fun _ h _ _ => (h.append ⟨rfl, rfl, rfl⟩).congr (Connection.readBuffer_enqueue _ _)
  queueFrame := fun {c _ f} _ h _ _ _ _ =>
    ((h.append ⟨rfl, rfl, rfl⟩).append ⟨rfl, rfl, rfl⟩).congr (c.readBuffer_enqueue f.toKernel)
  cue := fun _ h => h.congr rfl
  poll := fun _ _ h => h.congr rfl
  takeWritten := fun h => h.congr rfl

/-- As long as every datagram is a frame, the frames taken since the buffer was emptied last, with
those that are left in it behind them, are the frames of the datagrams read since, and nothing else
is in the buffer. -/
theorem framesTaken_append_framesIn {protocolState : State} {endpoint : Endpoint}
    {readChunk writeChunk : Nat} {actions : List (Action protocol)}
    (inScope : ∀ a ∈ actions, a.Within frameReader) {s : Socket protocol}
    (ran : Socket.run actions (Socket.fresh protocolState endpoint readChunk writeChunk) =
      some ((), s))
    (sized : WellSized s.journal) :
    (datagramsRead s.journal).mapM frameOf? =
        some (framesTaken s.journal ++ Frame.framesIn s.readBuffer.toList) ∧
      ∃ waiting, waiting <:+ datagramsRead s.journal ∧
        s.readBuffer.toList = waiting.flatMap tag := by
  have sound : Outline.Sound frameReader ⟨Receiving, Receiving, Receiving⟩ :=
    ⟨steps_receiving, steps_receiving, fun h => h.congr rfl, fun h => h.congr rfl⟩
  have start : Receiving (Socket.fresh protocolState endpoint readChunk writeChunk).toConnection []
      := ⟨ByteQueue.wellFormed_empty _, fun _ => ⟨[], [], rfl, by simp, rfl, rfl⟩⟩
  obtain ⟨receiving, -⟩ := sound.holds_after_run inScope start ran
  have h : Receiving s.toConnection s.journal := receiving
  obtain ⟨used, waiting, split, blocks, taken, holds⟩ := h.inStep sized
  refine ⟨?_, waiting, ⟨used, split.symm⟩, holds⟩
  rw [split, List.mapM_append, taken, mapM_frameOf? blocks, holds]
  rfl

/-- A run in which frames of both sizes and a failure are read, and one frame is taken. -/
def mixedRun : List (Action protocol) :=
  [.ask (.connectWith [(.fdFrames, .fdFrames true)] "" .readWrite),
    .ask (.cue (.pushRead (List.replicate 16 1))), .ask (.cue (.pushReadError 100)),
    .ask (.cue (.pushRead (List.replicate 72 2))), .ask .readReady, .ask .readFrame,
    .ask .readReady]

theorem framesTaken_append_framesIn_mixedRun :
    ∃ s : Socket protocol,
      Socket.run mixedRun (Socket.fresh .initial .blank 20 20) = some ((), s) ∧
      s.readBuffer.size = 72 ∧
      (datagramsRead s.journal).mapM frameOf? =
        some (framesTaken s.journal ++ Frame.framesIn s.readBuffer.toList) := by
  obtain ⟨s, ran, outcome⟩ : ∃ s : Socket protocol,
      Socket.run mixedRun (Socket.fresh .initial .blank 20 20) = some ((), s) ∧
      (s.readBuffer.size, decide (WellSized s.journal)) = (72, true) :=
    Socket.exists_run (by decide +kernel)
  obtain ⟨size, sized⟩ := Prod.mk.inj outcome
  have inScope : ∀ a ∈ mixedRun, a.Within frameReader := by
    simp [mixedRun, Action.Within, Request.Within, frameReader]
  exact ⟨s, ran, size, (framesTaken_append_framesIn inScope ran (of_decide_eq_true sized)).1⟩

end CanStream.Raw
