import CanStream.Proofs.Raw.Transmit
import CanStream.Proofs.Socket.Holding

/-!
# Frames that are sent

Without a handler the frames that were queued are sent in order, one write for each, as long as no
write fails. An endpoint that takes nothing of a frame ends the writing. If it is to take nothing
ever, the frames stay in the write buffer for good.
-/

namespace CanStream.Raw

open Socket

/-- The endpoint takes nothing any more. -/
def Stalled (e : Endpoint) : Prop := e.writeAnswers = [] ∧ e.writeLimit = some 0

theorem limit_eq_zero {limit : Option Nat} {data : List UInt8} (nonempty : data ≠ [])
    (nothing : Endpoint.limited limit data = []) : limit = some 0 := by
  cases limit with
  | none => exact absurd nothing nonempty
  | some n =>
    rcases List.take_eq_nil_iff.mp nothing with rfl | empty
    · rfl
    · exact absurd empty nonempty

section

variable {e e' : Endpoint} {data : List UInt8}

theorem not_mem_of_write (willing : .upTo 0 ∉ e.writeAnswers) {result : Except IoError Nat}
    (wrote : e.write data = (result, e')) : .upTo 0 ∉ e'.writeAnswers :=
  fun member => willing ((Endpoint.writing_of_write wrote).1.subset member)

theorem Stalled.write (stalled : Stalled e) {result : Except IoError Nat}
    (wrote : e.write data = (result, e')) : Stalled e' := by
  obtain ⟨suffix, limit⟩ := Endpoint.writing_of_write wrote
  exact ⟨List.suffix_nil.mp (stalled.1 ▸ suffix), limit.trans stalled.2⟩

theorem Stalled.eq_zero (stalled : Stalled e) {n : Nat} (wrote : e.write data = (.ok n, e')) :
    n = 0 := by
  obtain ⟨part, ⟨n, answer, -⟩ | ⟨-, rfl⟩, rfl, -⟩ := Endpoint.exists_part_of_write_ok wrote
  · rw [stalled.1] at answer
    cases answer
  · simp [Endpoint.limited, stalled.2]

/-- An endpoint that takes nothing takes nothing any more. -/
theorem stalled_of_write_zero (willing : .upTo 0 ∉ e.writeAnswers) (nonempty : data ≠ [])
    (wrote : e.write data = (.ok 0, e')) : Stalled e' := by
  obtain ⟨part, lets, zero, -⟩ := Endpoint.exists_part_of_write_ok wrote
  obtain rfl := List.eq_nil_of_length_eq_zero zero
  obtain ⟨suffix, limit⟩ := Endpoint.writing_of_write wrote
  rcases lets with ⟨n, answer, empty⟩ | ⟨unanswered, empty⟩
  · rcases List.take_eq_nil_iff.mp empty.symm with rfl | isEmpty
    · exact absurd answer willing
    · exact absurd isEmpty nonempty
  · have full := limit_eq_zero nonempty empty.symm
    exact ⟨List.suffix_nil.mp (unanswered ▸ suffix), limit.trans full⟩

end

/-- A writing sent the first of the frames that waited, one write for each, and the others are left.
A stalled endpoint takes none, and one that comes to a stall leaves some. -/
structure Sends (waiting : List Frame) (e e' : Endpoint) (sent left : List Frame) : Prop where
  split : waiting = sent ++ left
  willing : .upTo 0 ∉ e'.writeAnswers
  stays : Stalled e → sent = [] ∧ Stalled e'
  written : e'.written = e.written ++ sent.map Frame.toKernel ∨ left ≠ [] ∧ Stalled e'

theorem Sends.nothing {waiting : List Frame} {e e' : Endpoint}
    (willing : .upTo 0 ∉ e'.writeAnswers) (stays : Stalled e → Stalled e')
    (same : e'.written = e.written) : Sends waiting e e' [] waiting where
  split := rfl
  willing := willing
  stays := fun stalled => ⟨rfl, stays stalled⟩
  written := .inl (by rw [same, List.map_nil, List.append_nil])

theorem exists_sends_of_stopWriting {taken n : Nat} {waiting : List Frame} {rest : List UInt8}
    {s s' : State} {e e' : Endpoint} (willing : .upTo 0 ∉ e.writeAnswers)
    (ran : (stopWriting taken rest).exec (s, e) = (.ok n, (s', e'))) :
    s' = s ∧ ∃ sent left, n = taken + (blocks sent).length ∧ Sends waiting e e' sent left := by
  unfold stopWriting at ran
  split at ran
  · obtain ⟨same, unchanged⟩ := Prod.mk.inj ran
    obtain ⟨rfl, rfl⟩ := Prod.mk.inj unchanged
    exact ⟨rfl, [], waiting, (Except.ok.inj same).symm, .nothing willing id rfl⟩
  · cases ran

theorem exists_sends_of_writeFrames {fd : Bool} (count taken : Nat) {waiting : List Frame}
    {rest tail : List UInt8} (split : blocks waiting = rest ++ tail)
    (writable : ∀ f ∈ waiting, Writable fd f) {s s' : State} {e e' : Endpoint} {n : Nat}
    (willing : .upTo 0 ∉ e.writeAnswers)
    (ran : (writeFrames fd count taken rest).exec (s, e) = (.ok n, (s', e'))) :
    s' = s ∧ ∃ sent left, n = taken + (blocks sent).length ∧ Sends waiting e e' sent left := by
  induction count generalizing taken waiting rest e with
  | zero => exact exists_sends_of_stopWriting willing ran
  | succ count ih =>
    cases writeTurn_of_writeFrames ran with
    | stop noFrame stops => exact exists_sends_of_stopWriting willing stops
    | lapsed found wrote =>
      exact ⟨rfl, [], waiting, rfl, .nothing (not_mem_of_write willing wrote) (·.write wrote)
        (Endpoint.written_of_write_error wrote)⟩
    | refused found wrote =>
      obtain ⟨f, more, rfl, rfl, first, -⟩ := exists_head_of_frameAt? split writable found
      have block := writable f (List.mem_cons_self ..)
      rw [first] at wrote
      have stalled : Stalled e' :=
        stalled_of_write_zero willing (List.ne_nil_of_length_pos block.length_pos) wrote
      exact ⟨rfl, [], f :: more, rfl, rfl, not_mem_of_write willing wrote, fun _ => ⟨rfl, stalled⟩,
        .inr ⟨List.cons_ne_nil f more, stalled⟩⟩
    | @frame size e₁ _ _ found wrote next =>
      obtain ⟨f, more, rfl, rfl, first, behind⟩ := exists_head_of_frameAt? split writable found
      have block := writable f (List.mem_cons_self ..)
      rw [first] at wrote
      obtain ⟨same, sent, left, total, sends⟩ := ih _ behind
        (fun g member => writable g (List.mem_cons_of_mem f member))
        (not_mem_of_write willing wrote) next
      have one : e₁.written = e.written ++ [f].map Frame.toKernel := by
        rw [(Endpoint.written_of_write_ok wrote).2, List.take_length, List.map_singleton]
      refine ⟨same, f :: sent, left, ?_, ?_, sends.willing, fun stalled => ?_, ?_⟩
      · rw [total, blocks_cons, List.length_append, Nat.add_assoc]
      · rw [sends.split, List.cons_append]
      · exact absurd (stalled.eq_zero wrote) (Nat.ne_of_gt block.length_pos)
      · rcases sends.written with all | stuck
        · exact .inl (by rw [all, one, List.append_assoc, ← List.map_append]; rfl)
        · exact .inr stuck

/-- What the sending of frames depends on. -/
def outgo (k : Stock protocol) :
    Bool × List (List UInt8) × (List WriteAnswer × Option Nat) × ByteQueue :=
  (State.fdFrames k.protocol, k.endpoint.written, k.endpoint.writing, k.writeBuffer)

/-- Frames are on their way behind what was written before: the write buffer holds those that wait,
and each of the others was written once, in order, unless the endpoint has stalled. -/
structure Sending (before : List (List UInt8)) (frames : List Frame) (k : Stock protocol) :
    Prop where
  whole : k.writeBuffer.WellFormed
  willing : .upTo 0 ∉ k.endpoint.writeAnswers
  progress : ∃ sent waiting, frames = sent ++ waiting ∧
    (∀ f ∈ waiting, Writable (State.fdFrames k.protocol) f) ∧
    k.writeBuffer.toList = blocks waiting ∧
    (k.endpoint.written = before ++ sent.map Frame.toKernel ∨ waiting ≠ [] ∧ Stalled k.endpoint)

namespace Sending

variable {before : List (List UInt8)} {frames : List Frame} {k k' : Stock protocol}

theorem congr (h : Sending before frames k) (same : outgo k' = outgo k) :
    Sending before frames k' := by
  obtain ⟨fd, written, writing, buffer⟩ :
      State.fdFrames k'.protocol = State.fdFrames k.protocol ∧
        k'.endpoint.written = k.endpoint.written ∧ k'.endpoint.writing = k.endpoint.writing ∧
        k'.writeBuffer = k.writeBuffer := by
    simpa only [outgo, Prod.mk.injEq] using same
  obtain ⟨answers, limit⟩ := Prod.mk.inj writing
  obtain ⟨whole, willing, progress⟩ := h
  refine ⟨by rw [buffer]; exact whole, by rw [answers]; exact willing, ?_⟩
  unfold Stalled
  rw [fd, written, answers, limit, buffer]
  exact progress

/-- Nothing is on its way where there is nothing to be written. -/
theorem nothing (willing : .upTo 0 ∉ k.endpoint.writeAnswers) (whole : k.writeBuffer.WellFormed)
    (empty : k.writeBuffer.toList = []) (same : k.endpoint.written = before) :
    Sending before [] k :=
  ⟨whole, willing, [], [], rfl, List.forall_mem_nil _, empty,
    .inl (same.trans (List.append_nil _).symm)⟩

/-- What is to be written can be given up where no frame is on its way. -/
theorem clear (h : Sending before [] k) {buffer : ByteQueue} :
    Sending before [] { k with readBuffer := buffer, writeBuffer := k.writeBuffer.clear } := by
  obtain ⟨-, willing, sent, waiting, split, -, -, written⟩ := h
  obtain ⟨rfl, rfl⟩ := List.append_eq_nil_iff.mp split.symm
  rcases written with same | ⟨nonempty, -⟩
  · exact .nothing willing (ByteQueue.wellFormed_clear _) (ByteQueue.toList_clear _)
      (same.trans (List.append_nil _))
  · exact absurd rfl nonempty

/-- To bring the next frame into one piece changes nothing. -/
theorem align (h : Sending before frames k) (n : Nat) :
    Sending before frames { k with writeBuffer := k.writeBuffer.makeContiguous n } where
  whole := h.whole.makeContiguous n
  willing := h.willing
  progress := by
    rw [ByteQueue.toList_makeContiguous h.whole]
    exact h.progress

/-- A write that succeeds sends the first of the frames that wait. -/
theorem write (h : Sending before frames k) {n : Nat}
    (took : ((write k.writeBuffer.head).exec (k.protocol, k.endpoint)).1 = .ok n) :
    let after := ((write k.writeBuffer.head).exec (k.protocol, k.endpoint)).2
    Sending before frames { k with
      protocol := after.1, endpoint := after.2, writeBuffer := k.writeBuffer.free n } := by
  obtain ⟨sent, waiting, split, writable, holds, written⟩ := h.progress
  obtain ⟨tail, front⟩ := ByteQueue.head_append_tail k.writeBuffer
  rcases ran : (Raw.write k.writeBuffer.head).exec (k.protocol, k.endpoint) with ⟨result, s, e⟩
  obtain rfl : result = .ok n := by
    rw [ran] at took
    exact took
  rw [Raw.write, Hook.exec_state_bind] at ran
  obtain ⟨rfl, more, left, total, sends⟩ :=
    exists_sends_of_writeFrames _ _ (holds.symm.trans front) writable h.willing ran
  refine ⟨h.whole.free n, sends.willing, sent ++ more, left, ?_, ?_, ?_, ?_⟩
  · rw [split, sends.split, List.append_assoc]
  · exact fun f member => writable f (by rw [sends.split]; exact List.mem_append_right _ member)
  · rw [ByteQueue.toList_free h.whole.size_eq, holds, sends.split, blocks_append, total,
      Nat.zero_add, List.drop_left]
  · rcases written with all | ⟨nonempty, stalled⟩
    · rcases sends.written with ahead | stuck
      · left
        rw [ahead, all, List.map_append, List.append_assoc]
      · exact .inr stuck
    · obtain ⟨rfl, still⟩ := sends.stays stalled
      exact .inr ⟨by rw [← List.nil_append left, ← sends.split]; exact nonempty, still⟩

/-- A frame is queued behind those that wait. -/
theorem queue (h : Sending before frames k) {f : Frame}
    (block : Writable (State.fdFrames k.protocol) f) :
    Sending before (frames ++ [f])
      { k with writeBuffer := k.writeBuffer.append f.toKernel } := by
  obtain ⟨sent, waiting, split, writable, holds, written⟩ := h.progress
  refine ⟨h.whole.append _, h.willing, sent, waiting ++ [f], ?_, ?_, ?_, ?_⟩
  · rw [split, List.append_assoc]
  · exact List.forall_mem_append.mpr ⟨writable, List.forall_mem_singleton.mpr block⟩
  · rw [ByteQueue.toList_append, holds, blocks_append, blocks_cons]
    exact congrArg _ (List.append_nil _).symm
  · exact written.imp_right fun ⟨_, stalled⟩ => ⟨by simp, stalled⟩

/-- Once nothing is left in the write buffer all the frames were written. -/
theorem written_of_empty (h : Sending before frames k) (empty : k.writeBuffer.size = 0) :
    k.endpoint.written = before ++ frames.map Frame.toKernel := by
  obtain ⟨sent, waiting, rfl, writable, holds, written⟩ := h.progress
  have isEmpty : waiting = [] := by
    cases waiting with
    | nil => rfl
    | cons f more =>
      have size : k.writeBuffer.toList.length = 0 := h.whole.size_eq ▸ empty
      have block := (writable f (List.mem_cons_self ..)).length_pos
      rw [holds, blocks_cons, List.length_append] at size
      omega
  rcases written with all | ⟨nonempty, -⟩
  · rw [all, isEmpty, List.append_nil]
  · exact absurd isEmpty nonempty

end Sending

/-! ## Sockets that send -/

section

variable {Φ : Socket protocol → Prop} (u : Unheard outgo Φ)

include u

theorem keeps_pumpRead_of_outgo : Keeps Φ (pumpRead Socket.emit) := by
  refine u.keeps_pumpRead (fun _ _ => rfl) fun window k => ?_
  obtain ⟨consumed, rest, result, -, ran, -⟩ := reads_read window k.protocol k.endpoint
  have went : (protocol.read window).exec (k.protocol, k.endpoint) = _ := ran
  rw [went]
  rfl

theorem keeps_poll_of_outgo (read write : Bool) : Keeps Φ (poll Socket.emit read write) :=
  u.keeps_polling fun k => Endpoint.view_poll (fun e => outgo { k with endpoint := e })
    (fun _ _ _ => rfl) read write k.endpoint

theorem passes_connect_of_outgo
    (prepares : ∀ {s} ifname mode, Φ s → Φ (s.change (·.prepare ifname mode)))
    (ifname : String) (mode : OpenMode) : Passes Φ (Socket.connect Socket.emit ifname mode) Φ := by
  refine u.passes_connect prepares (fun k => ?_) mode
  have spares : Endpoint.SetUpSpares fun e => (e.written, e.writing) :=
    Endpoint.setUpSpares_of_congr fun _ _ _ _ _ _ _ _ => rfl
  have same := keeps_connect spares State.fdFrames (fun _ _ => rfl) ifname (k.protocol, k.endpoint)
  obtain ⟨fd, rest⟩ := Prod.mk.inj same
  obtain ⟨written, writing⟩ := Prod.mk.inj rest
  exact Prod.ext fd (Prod.ext written (Prod.ext writing rfl))

end

/-- Frames are on their way behind what was written before, and nobody hears of it. -/
def Underway (before : List (List UInt8)) (frames : List Frame) (s : Socket protocol) : Prop :=
  s.handler = none ∧ Sending before frames s.toConnection.stock

/-- All that was to be written was written, and nobody hears of it. -/
def Rests (written : List (List UInt8)) (s : Socket protocol) : Prop :=
  s.handler = none ∧ s.writeBuffer.isEmpty = true ∧ s.endpoint.written = written

section

variable {before written : List (List UInt8)} {frames : List Frame} {wait : Wait}

theorem unheard_underway : Unheard outgo (Underway before frames) where
  alone := And.left
  congr := fun h alone same => ⟨alone.trans h.1, h.2.congr same⟩

theorem unheard_rests : Unheard outgo (Rests written) where
  alone := And.left
  congr := by
    intro s s' h alone same
    simp only [outgo, Prod.mk.injEq] at same
    obtain ⟨-, unwritten, -, buffer⟩ := same
    exact ⟨alone.trans h.1, congrArg ByteQueue.isEmpty buffer ▸ h.2.1, unwritten.trans h.2.2⟩

/-- A socket that is connected by itself keeps a condition on what is sent. -/
theorem keeps_connectWith_of_outgo {Φ : Socket protocol → Prop} (u : Unheard outgo Φ)
    (prepares : ∀ {s} ifname mode, Φ s → Φ (s.change (·.prepare ifname mode))) {initially : State}
    {e : Endpoint} {options : List (Opt × Value)} (begins : ∀ {s : Socket protocol},
      s.handler = none → s.toConnection = { Connection.initial (P := protocol) initially e with
        protocol := options.foldl (fun kept o => kept.put o.2) initially } → Φ s)
    {ifname : String} {mode : OpenMode} {s : Socket protocol}
    (ran : perform (.connectWith options ifname mode) (initial initially e) = some (true, s)) :
    Φ s := by
  obtain ⟨set, s₁, first, next⟩ := bind_eq_some.mp ran
  cases set with
  | false => cases next
  | true =>
    obtain ⟨alone, settled⟩ := setOptions_of_alone Raw.gatherer options rfl rfl first
    exact passes_connect_of_outgo u prepares ifname mode s₁ (begins alone settled) true s next rfl

/-- No frame is on its way yet on a socket that was connected by itself. -/
theorem underway_of_connectWith {initially : State} {e : Endpoint} {s : Socket protocol}
    (willing : .upTo 0 ∉ e.writeAnswers) {options : List (Opt × Value)} {ifname : String}
    {mode : OpenMode}
    (ran : perform (.connectWith options ifname mode) (initial initially e) = some (true, s)) :
    Underway e.written [] s := by
  refine keeps_connectWith_of_outgo unheard_underway (fun _ _ h => ⟨h.1, h.2.clear⟩)
    (fun alone settled => ⟨alone, ?_⟩) ran
  rw [settled]
  exact .nothing willing (ByteQueue.wellFormed_empty _) (ByteQueue.toList_empty _) rfl

/-- A connection is made without a write. -/
theorem written_of_connectWith {initially : State} {e : Endpoint} {s : Socket protocol}
    {options : List (Opt × Value)} {ifname : String} {mode : OpenMode}
    (ran : perform (.connectWith options ifname mode) (initial initially e) = some (true, s)) :
    s.handler = none ∧ s.endpoint.written = e.written := by
  have u : Unheard outgo fun t => t.handler = none ∧ t.endpoint.written = e.written :=
    ⟨And.left, fun h alone same =>
      ⟨alone.trans h.1, (Prod.mk.inj (Prod.mk.inj same).2).1.trans h.2⟩⟩
  refine keeps_connectWith_of_outgo u (fun _ _ h => h) (fun alone settled => ⟨alone, ?_⟩) ran
  rw [settled]
  rfl

/-- A connection is made in the mode that the options set. -/
theorem fdFrames_of_connectWith {initially : State} {e : Endpoint} {s : Socket protocol}
    {options : List (Opt × Value)} {ifname : String} {mode : OpenMode}
    (ran : perform (.connectWith options ifname mode) (initial initially e) = some (true, s)) :
    State.fdFrames s.protocol =
      (options.foldl (fun kept o => State.put kept o.2) initially).fdFrames := by
  have u : Unheard outgo fun t => t.handler = none ∧ State.fdFrames t.protocol =
      (options.foldl (fun kept o => State.put kept o.2) initially).fdFrames :=
    ⟨And.left, fun h alone same => ⟨alone.trans h.1, (Prod.mk.inj same).1.trans h.2⟩⟩
  refine (keeps_connectWith_of_outgo u (fun _ _ h => h) (fun alone settled => ⟨alone, ?_⟩) ran).2
  rw [settled]
  rfl

/-- A frame is refused, and nothing changes, or it is one that the socket carries, and is queued. -/
theorem writeFrame_cases (f : Frame) (s : Socket protocol) :
    (∃ cause, writeFrame f s = some (.error cause, s)) ∨
      f.kind ≠ .unknown ∧ (f.kind = .fd → State.fdFrames s.protocol = true) ∧
        writeFrame f s = some (.ok (), ((s.change (·.enqueue f.toKernel)).log
          (.queued f.toKernel)).log (.frameQueued f)) := by
  by_cases unknown : f.kind = .unknown
  · exact .inl ⟨_, by rw [writeFrame, get_bind_apply, if_pos unknown]; rfl⟩
  by_cases off : f.kind = .fd ∧ protocol.carriesFd s.protocol = false
  · exact .inl ⟨_, by rw [writeFrame, get_bind_apply, if_neg unknown, if_pos off]; rfl⟩
  have carries (isFd : f.kind = .fd) : State.fdFrames s.protocol = true :=
    Bool.eq_true_of_not_eq_false (not_and.mp off isFd)
  rw [writeFrame, get_bind_apply, if_neg unknown, if_neg off, Socket.write]
  by_cases idle : s.state ≠ .connected
  · exact .inl ⟨_, by rw [bind_assoc, get_bind_apply, if_pos idle]; rfl⟩
  by_cases readOnly : (!s.mode.writes) = true
  · exact .inl ⟨_, by rw [bind_assoc, get_bind_apply, if_neg idle, if_pos readOnly]; rfl⟩
  · refine .inr ⟨unknown, carries, ?_⟩
    rw [bind_assoc, get_bind_apply, if_neg idle, if_neg readOnly]
    rfl

/-- A frame that the socket does not refuse is queued behind those that are on their way. -/
theorem Underway.after_writeFrame {s : Socket protocol} (h : Underway before frames s) {f : Frame}
    (made : f.Made) : After (writeFrame f) s fun result s' =>
      result = .ok () → Underway before (frames ++ [f]) s' := by
  rcases writeFrame_cases f s with ⟨cause, refused⟩ | ⟨known, carries, queued⟩
  · exact (after_of_eq refused).mpr nofun
  · have block : Writable (State.fdFrames s.protocol) f := ⟨known, made.sealed, carries⟩
    refine (after_of_eq queued).mpr fun _ => ⟨h.1, ?_⟩
    have same := s.enqueue_of_ne_nil (List.ne_nil_of_length_pos block.length_pos)
    exact (congrArg Connection.stock same).symm ▸ h.2.queue block

/-- A write that is started while frames are on their way sends some of them, or it fails. -/
theorem passes_startWrite :
    Passes (Underway before frames) (startWrite Socket.emit) (Underway before frames) := by
  intro s h
  rw [startWrite, after_bind, after_get, after_ite, after_bind, after_update, after_bind, after_get,
    after_bind, after_runHook, after_bind, after_get, after_bind, after_record]
  refine ⟨fun _ => (after_pure true).mpr fun _ => h, fun _ => ?_⟩
  have aligned := h.2.align (protocol.nextWriteSize s.protocol)
  split
  case h_1 => exact Passes.refused
  case h_2 took =>
    rw [after_bind, after_update, after_pure]
    exact fun _ => ⟨h.1, aligned.write took⟩

theorem passes_completeWrite :
    Passes (Underway before frames) (completeWrite Socket.emit) (Underway before frames) := by
  have u : Unheard outgo (Underway before frames) := unheard_underway
  intro s h
  rw [completeWrite, after_bind]
  refine (u.keeps_reportWritten s h).mono fun _ s₁ h₁ => ?_
  rw [after_bind, after_update, after_bind, after_get, after_ite, after_bind, after_update,
    after_pure]
  exact ⟨fun _ _ => u.congr h₁ rfl rfl, fun _ => passes_startWrite _ (u.congr h₁ rfl rfl)⟩

theorem passes_waitForBytesWritten :
    Passes (Underway before frames) (waitForBytesWritten Socket.emit wait)
      (Underway before frames) :=
  Passes.waitForBytesWritten (keeps_poll_of_outgo unheard_underway) passes_completeWrite
    (.of_keeps (keeps_pumpRead_of_outgo unheard_underway)) wait

/-- Where nothing is left to be written nothing is written. -/
theorem keeps_completeWrite_of_rests : Keeps (Rests written) (completeWrite Socket.emit) := by
  have u : Unheard outgo (Rests written) := unheard_rests
  intro s h
  rw [completeWrite, after_bind]
  refine (u.keeps_reportWritten s h).mono fun _ s₁ h₁ => ?_
  rw [after_bind, after_update, after_bind, after_get, after_ite, after_bind, after_update,
    after_pure]
  exact ⟨fun _ => u.congr h₁ rfl rfl, fun nonempty => absurd h₁.2.1 nonempty⟩

theorem keeps_waitForReadyRead_of_rests :
    Keeps (Rests written) (waitForReadyRead Socket.emit wait) :=
  have u : Unheard outgo (Rests written) := unheard_rests
  Keeps.waitForReadyRead (keeps_poll_of_outgo u) u.keeps_setError (keeps_pumpRead_of_outgo u)
    keeps_completeWrite_of_rests wait

/-- Once nothing is left in the write buffer all the frames were written. -/
theorem Underway.rests {s : Socket protocol} (h : Underway before frames s)
    (empty : s.unwritten = 0) : Rests (before ++ frames.map Frame.toKernel) s :=
  ⟨h.1, (ByteQueue.isEmpty_iff _).mpr empty, h.2.written_of_empty empty⟩

end

end CanStream.Raw
