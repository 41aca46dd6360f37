import CanStream.Proofs.Endpoint.Options
import CanStream.Proofs.Protocol.Transfers
import CanStream.Proofs.Raw.Malformed
import CanStream.Proofs.Raw.Receive
import CanStream.Proofs.Socket.Alone
import CanStream.Proofs.Socket.Suspension

/-!
# Receiving frames one at a time

A frame that is asked for is read from the descriptor if none is buffered, but only by a socket that
waits for data. One that stopped waiting when a read failed for want of resources, with nothing in
its buffer, takes no data either, so that no request for a frame makes it wait again: what arrives
is left where it is.
-/

namespace CanStream.Raw

open Socket

section

variable {P : Protocol} {s : Socket P}

/-- The frame of the datagram at the head of the buffer is taken. -/
theorem readFrame_of_block (whole : s.readBuffer.WellFormed) {d rest : List UInt8} {f : Frame}
    (block : IsBlock d) (holds : s.readBuffer.toList = tag d ++ rest)
    (frame : frameOf? d = some f) :
    ∃ s' on, readFrame s = some (.ok f, s') ∧ s'.handler = s.handler ∧
      s'.toConnection =
        { s.toConnection with readBuffer := (s.readBuffer.read d.length).2, wantsRead := on } := by
  have size : Frame.blockSize s.readBuffer.toList = d.length := by
    rw [holds, blockSize_tag block]
  have present : Frame.blockSize s.readBuffer.toList ≤ s.readBuffer.toList.length := by
    rw [size, holds]
    simp
  obtain ⟨g, s', on, decoded, taken, alone, left⟩ := readFrame_of_whole whole.size_eq present
  have own : s.readBuffer.toList.take d.length = tag d := (s.readBuffer.peek_eq _).symm.trans
    (read_block holds whole).1
  rw [size] at decoded left
  rw [own] at decoded
  have same : g = f := by
    rw [frameOf?, decoded] at frame
    exact Option.some.inj frame
  subst same
  exact ⟨s', on, taken, alone, left⟩

end

/-- With some bytes read before, only a malformed datagram fails a reading. -/
theorem Reads.exists_malformed {unit window : Nat} {taken : List UInt8} {consumed : List Arrival}
    {result : Except IoError (List UInt8)} {cause : IoError}
    (reads : Reads unit window taken consumed result) (nonempty : taken ≠ [])
    (failed : result = .error cause) :
    ∃ bad, .datagram bad ∈ consumed ∧ Malformed unit bad := by
  induction reads with
  | stop taken => cases failed
  | refused cause => exact absurd rfl nonempty
  | lapsed code taken => cases failed
  | failed code => exact absurd rfl nonempty
  | ended taken => cases failed
  | malformed taken bad => exact ⟨_, List.mem_singleton_self _, bad⟩
  | frame sized fits next ih =>
    obtain ⟨bad, member, malformed⟩ := ih (by simp [nonempty]) failed
    exact ⟨bad, List.mem_cons_of_mem _ member, malformed⟩

/-- Where a frame of a size in use is the next to arrive at an open descriptor, a reading takes it
and goes on behind it. -/
theorem reads_read_of_frame {s : State} {e : Endpoint} (isOpen : e.isOpen = true) {d : List UInt8}
    {rest : List Arrival} (arrived : e.arrivals = .datagram d :: rest)
    (sized : d.length = classicUnit ∨ d.length = fdUnit ∧ s.fdFrames = true) :
    ∃ consumed result after, rest = consumed ++ after.2.arrivals ∧
      (read readChunk).exec (s, e) = (result, after) ∧
      Reads s.frameSize readChunk (tag d) consumed result := by
  have fits : d.length = classicUnit ∧ classicUnit ≤ s.frameSize ∨ d.length = s.frameSize := by
    rcases sized with classic | ⟨long, flexible⟩
    · refine .inl ⟨classic, ?_⟩
      rcases frameSize_cases s with size | size
      · exact Nat.le_of_eq size.symm
      · rw [size]
        decide
    · refine .inr ?_
      rw [State.frameSize, if_pos flexible, long]
  have roomy : ¬readChunk - ([] : List UInt8).length < s.frameSize := by
    rcases frameSize_cases s with size | size <;> rw [size] <;> decide
  have whole : d.take s.frameSize = d := List.take_of_length_le (by omega)
  have called : Endpoint.read s.frameSize e = (.ok d, { e with arrivals := rest }) := by
    simp [Endpoint.read, Endpoint.whileOpen, isOpen, arrived, whole]
  obtain ⟨consumed, left, result, split, ran, reads⟩ :=
    reads_readFrames (frameSize_pos s) (readChunk / classicUnit - 1) (tag d) s
      { e with arrivals := rest }
  refine ⟨consumed, result, (s, { e with arrivals := left }), split, ?_, reads⟩
  obtain ⟨byte, bytes, rfl⟩ : ∃ byte bytes, d = byte :: bytes := by
    refine List.exists_cons_of_ne_nil (List.ne_nil_of_length_pos ?_)
    have positive := frameSize_pos s
    have classic : classicUnit = 16 := rfl
    omega
  have count : readChunk / classicUnit = (readChunk / classicUnit - 1) + 1 := by decide
  have hasSize : ¬((byte :: bytes).length ≠ classicUnit ∧
      (byte :: bytes).length ≠ s.frameSize) := by omega
  rw [read, Hook.exec_state_bind, count, readFrames, if_neg roomy, Hook.exec_attempt_bind]
  simp only [called, if_neg hasSize, List.nil_append]
  exact ran

/-- Nothing is read from a descriptor that is not open. -/
theorem read_of_closed {s : State} {e : Endpoint} (closed : e.isOpen = false) :
    (read readChunk).exec (s, e) = (.error (.os Errno.badDescriptor), (s, e)) := by
  have called : Endpoint.read s.frameSize e = (.error (.os Errno.badDescriptor), e) := by
    simp [Endpoint.read, Endpoint.whileOpen, closed]
  have roomy : ¬readChunk - ([] : List UInt8).length < s.frameSize := by
    rcases frameSize_cases s with size | size <;> rw [size] <;> decide
  have count : readChunk / classicUnit = (readChunk / classicUnit - 1) + 1 := by decide
  rw [read, Hook.exec_state_bind, count, readFrames, if_neg roomy, Hook.exec_attempt_bind]
  simp only [called]
  rfl

/-! ## Requests for a frame -/

/-- The descriptor of a connected socket is open, unless somebody else closed it. -/
theorem coherent_isOpen :
    Coherent (P := protocol) (fun s => s.2.isOpen) fun s j => s.2.isOpen = true ∨ Severed j where
  spares := leaves_isOpen.spares
  congr := fun h same => by rwa [same]
  append := fun silent h => h.imp id fun severed => severed.append silent
  sever := fun {_ j} _ => .inr (severed_append j)
  refuse := fun {s after _ _} value h ran => by
    rw [(leaves_isOpen.applyOption .connected value).of_exec ran]
    exact h
  keep := fun {s after _} value h ran => by
    have same : after.2.isOpen = s.2.isOpen :=
      (leaves_isOpen.applyOption .connected value).of_exec ran
    rw [same]
    exact h.imp id fun severed => severed.append rfl
  connect := fun ifname ran => by
    obtain ⟨⟨⟩, s₁, -, ran⟩ := Hook.exists_of_bind_ok ran
    obtain ⟨⟨⟩, s₂, -, ran⟩ := Hook.exists_of_bind_ok ran
    obtain ⟨index, s₃, -, ran⟩ := Hook.exists_of_bind_ok ran
    obtain ⟨⟨⟩, s₄, -, ran⟩ := Hook.exists_of_bind_ok ran
    obtain ⟨⟨⟩, s₅, -, ran⟩ := Hook.exists_of_bind_ok ran
    obtain ⟨bound, -⟩ := Hook.eq_of_call_ok ran
    obtain ⟨isOpen, same⟩ := Endpoint.bindTo_ok bound
    rw [same]
    exact .inl isOpen

section

variable {s s₁ s' : Socket protocol} {emit : Emit protocol} {read : Bool}
  (short : s.available < headerSize) (pumped : readReady emit s = some (read, s₁))

include short pumped

theorem receive_of_taken {f : Frame} (taken : readFrame s₁ = some (.ok f, s')) :
    receive emit s = some (.ok (some f), s') := by
  rw [receive, get_bind_apply, if_pos short]
  exact bind_eq_some.mpr ⟨read, s₁, pumped, bind_eq_some.mpr ⟨_, s', taken, rfl⟩⟩

theorem receive_of_nothing
    (nothing : readFrame s₁ = some (.error (.io (.plain .wouldBlock)), s₁)) :
    receive emit s = some (.ok none, s₁) := by
  rw [receive, get_bind_apply, if_pos short]
  exact bind_eq_some.mpr ⟨read, s₁, pumped, bind_eq_some.mpr ⟨_, s₁, nothing, rfl⟩⟩

end

section

variable {s : Socket protocol} (alone : s.handler = none) (whole : s.readBuffer.WellFormed)
  (drained : s.readBuffer.toList = []) (unlimited : s.readLimit = 0)
  (pumps : readReady Socket.emit s = pumpRead Socket.emit s)
  {d : List UInt8} {consumed : List Arrival} {result : Except IoError (List UInt8)}
  {after : State × Endpoint}
  (took : (read readChunk).exec (s.protocol, s.endpoint) = (result, after))

include alone whole drained unlimited pumps took

/-- A reading that comes to an end leaves the frame it began with at the head of the buffer. -/
theorem receive_of_ok
    (reading : Reads (State.frameSize s.protocol) readChunk (tag d) consumed result)
    (block : IsBlock d) {f : Frame} (frame : frameOf? d = some f)
    {bytes : List UInt8} (given : result = .ok bytes) :
    ∃ s', receive Socket.emit s = some (.ok (some f), s') ∧
      s'.endpoint.arrivals = after.2.arrivals := by
  subst given
  have asked : s.readWindow? = some readChunk := by
    simp [Connection.readWindow?, unlimited, protocol]
  have short : s.available < headerSize := by
    rw [Connection.available, whole.size_eq, drained]
    decide
  have fits : (tag d).length ≤ readChunk := by
    rw [length_tag]
    rcases block with size | size <;> rw [size] <;> decide
  obtain ⟨s₁, pumped, -, settled⟩ :=
    pumpRead_of_passed alone asked took (fun _ failed => by cases failed)
  obtain ⟨all, -⟩ := reading.of_ok (frameSize_pos _) rfl
  have holds : s₁.readBuffer.toList =
      tag d ++ (gathered (State.frameSize s.protocol) consumed).flatMap tag := by
    rw [settled, Connection.toList_settleRead_ok (c := s.toConnection.hooked after) whole _
      (reading.length_le fits rfl), ← all]
    exact (congrArg (· ++ bytes) drained).trans (List.nil_append _)
  have whole₁ : s₁.readBuffer.WellFormed := by
    rw [settled]
    exact Connection.wellFormed_settleRead (c := s.toConnection.hooked after) whole _ _ _
  obtain ⟨s', on, last, -, final⟩ := readFrame_of_block whole₁ block holds frame
  refine ⟨s', receive_of_taken short (pumps.trans pumped) last, ?_⟩
  rw [final, settled]
  rfl

/-- A reading that fails leaves nothing in the buffer, whatever it had read. -/
theorem receive_of_error {cause : IoError} (failed : result = .error cause)
    (noRetry : cause.shouldRetry = false) :
    ∃ s', receive Socket.emit s = some (.ok none, s') ∧
      s'.endpoint.arrivals = after.2.arrivals := by
  subst failed
  have asked : s.readWindow? = some readChunk := by
    simp [Connection.readWindow?, unlimited, protocol]
  have short : s.available < headerSize := by
    rw [Connection.available, whole.size_eq, drained]
    decide
  obtain ⟨s₁, pumped, -, settled⟩ := pumpRead_of_failed alone asked took rfl noRetry
  have holds : s₁.readBuffer.toList = [] := by
    rw [settled]
    exact (Connection.toList_settleRead_error (c := s.toConnection.hooked after) whole _ _
      cause).trans drained
  have nothing := readFrame_of_part (s := s₁) (.inl (by rw [holds]; decide))
  refine ⟨s₁, receive_of_nothing short (pumps.trans pumped) nothing, ?_⟩
  obtain ⟨buffer, on, same⟩ := Connection.exists_settleRead (s.toConnection.hooked after)
    s.toConnection readChunk (.error cause)
  rw [settled, same]
  rfl

end

/-- A datagram of a frame's size is never malformed. -/
theorem not_malformed {s : State} {d : List UInt8}
    (sized : d.length = classicUnit ∨ d.length = fdUnit ∧ s.fdFrames = true) :
    ¬Malformed s.frameSize d := by
  intro malformed
  rcases sized with classic | ⟨long, flexible⟩
  · exact malformed.noClassic classic
  · have short := malformed.short
    rw [State.frameSize, if_pos flexible, long] at short
    exact absurd short (Nat.lt_irrefl _)

/-- A connected socket without a handler, with nothing in its read buffer and no limit on it, is
asked for a frame when one is the next to arrive. It gives the frame if and only if its descriptor
is open, it waits for data and the read that takes the frame meets no malformed datagram behind it.
Otherwise it gives nothing. The descriptor is open unless somebody else closed it. A socket that
does not wait stays as it is, and is like that because a read failed for want of resources and
nobody took data or connected since. -/
theorem receive_eq_frame_iff_wantsRead {protocolState : State} {endpoint : Endpoint}
    {readChunk writeChunk : Nat} {actions : List (Action protocol)} {s : Socket protocol}
    (ran : Socket.run actions (Socket.fresh protocolState endpoint readChunk writeChunk) =
      some ((), s))
    (alone : s.handler = none) (connected : s.state = .connected) (reads : s.mode.reads = true)
    (drained : s.available = 0) (unlimited : s.readLimit = 0)
    {d : List UInt8} {rest : List Arrival} (arrived : s.endpoint.arrivals = .datagram d :: rest)
    (sized : d.length = classicUnit ∨
      d.length = fdUnit ∧ State.fdFrames s.protocol = true) :
    ∃ (f : Frame) (answer : Except TransferError (Option Frame)) (s' : Socket protocol),
      frameOf? d = some f ∧ Socket.perform (P := protocol) .receive s = some (answer, s') ∧
      (answer = .ok (some f) ↔ s.endpoint.isOpen = true ∧ s.wantsRead = true ∧
        ∀ bad ∈ datagrams (s.endpoint.arrivalsTaken s'.endpoint),
          ¬Malformed (State.frameSize s.protocol) bad) ∧
      (answer ≠ .ok (some f) → answer = .ok none) ∧
      (s.endpoint.isOpen = true ∨ Severed s.journal) ∧
      (s.wantsRead = false → s' = s ∧ Exhausted s.journal) := by
  have block : IsBlock d := sized.imp id And.left
  obtain ⟨f, frame, -⟩ := exists_frameOf? block []
  have whole := (wellFormed_of_run ran).1
  have opened := coherent_isOpen.of_run ran connected
  have empty : s.readBuffer.toList = [] := by
    rw [← List.length_eq_zero_iff, ← whole.size_eq]
    exact drained
  cases waits : s.wantsRead with
  | false =>
    have short : s.available < headerSize := by
      rw [drained]
      decide
    have gated : readReady emit s = some (false, s) := by
      rw [readReady, get_bind_apply, if_neg (by simp [waits])]
      rfl
    have nothing := readFrame_of_part (s := s) (.inl (by rw [empty]; decide))
    refine ⟨f, .ok none, s, frame, receive_of_nothing short gated nothing, ?_, fun _ => rfl,
      opened, fun _ => ⟨rfl, (Wakeful.of_run ran).awake connected reads unlimited waits⟩⟩
    simp
  | true =>
    have pumps : readReady Socket.emit s = pumpRead Socket.emit s := by
      rw [readReady, get_bind_apply, if_pos ⟨connected, waits⟩]
    cases isOpen : s.endpoint.isOpen with
    | false =>
      obtain ⟨s', received, -⟩ := receive_of_error alone whole empty unlimited pumps
        (read_of_closed (s := s.protocol) isOpen) rfl rfl
      refine ⟨f, _, s', frame, received, iff_of_false nofun (by simp), fun _ => rfl, ?_, nofun⟩
      simpa [isOpen] using opened
    | true =>
      obtain ⟨consumed, result, after, split, took, reading⟩ :=
        reads_read_of_frame isOpen arrived sized
      have taken {s' : Socket protocol} (same : s'.endpoint.arrivals = after.2.arrivals) :
          datagrams (s.endpoint.arrivalsTaken s'.endpoint) = d :: datagrams consumed := by
        have all : s.endpoint.arrivals = (.datagram d :: consumed) ++ s'.endpoint.arrivals := by
          rw [arrived, split, same, List.cons_append]
        rw [Endpoint.arrivalsTaken_eq all]
        rfl
      cases result with
      | ok bytes =>
        obtain ⟨s', received, same⟩ :=
          receive_of_ok alone whole empty unlimited pumps took reading block frame rfl
        refine ⟨f, _, s', frame, received, iff_of_true rfl ⟨rfl, rfl, ?_⟩,
          fun other => absurd rfl other, .inl rfl, nofun⟩
        rw [taken same, List.forall_mem_cons]
        refine ⟨not_malformed sized, fun bad member malformed => ?_⟩
        obtain ⟨_, -, -, failed⟩ := reading.of_malformed malformed (mem_datagrams.mp member)
        cases failed
      | error cause =>
        have nonempty : tag d ≠ [] := by
          refine List.ne_nil_of_length_pos ?_
          rw [length_tag]
          rcases block with size | size <;> rw [size] <;> decide
        obtain ⟨bad, member, malformed⟩ := reading.exists_malformed nonempty rfl
        obtain ⟨-, -, -, failed⟩ := reading.of_malformed malformed member
        have noRetry : cause.shouldRetry = false := by
          rw [Except.error.inj failed]
          exact shouldRetry_unexpectedSize _
        obtain ⟨s', received, same⟩ :=
          receive_of_error alone whole empty unlimited pumps took rfl noRetry
        refine ⟨f, _, s', frame, received, iff_of_false nofun ?_, fun _ => rfl, .inl rfl, nofun⟩
        rintro ⟨-, -, formed⟩
        rw [taken same] at formed
        exact formed bad (List.mem_cons_of_mem _ (mem_datagrams.mpr member)) malformed

/-- A connected socket for which a frame arrived. -/
def promptRun : List (Action protocol) :=
  [.ask (.connect "" .readWrite), .ask (.cue (.pushRead (List.replicate 16 1)))]

theorem receive_eq_frame_iff_wantsRead_promptRun :
    ∃ (s s' : Socket protocol) (f : Frame) (answer : Except TransferError (Option Frame)),
      Socket.run promptRun (Socket.fresh .initial .blank 20 20) = some ((), s) ∧
      frameOf? (List.replicate 16 1) = some f ∧
      Socket.perform (P := protocol) .receive s = some (answer, s') ∧
      (answer = .ok (some f) ↔ s.endpoint.isOpen = true ∧ s.wantsRead = true ∧
        ∀ bad ∈ datagrams (s.endpoint.arrivalsTaken s'.endpoint),
          ¬Malformed (State.frameSize s.protocol) bad) := by
  obtain ⟨s, ran, outcome⟩ : ∃ s : Socket protocol,
      Socket.run promptRun (Socket.fresh .initial .blank 20 20) = some ((), s) ∧
      decide (s.handler.isNone = true ∧ s.state = .connected ∧ s.mode.reads = true ∧
        s.available = 0 ∧ s.readLimit = 0 ∧
        s.endpoint.arrivals = [.datagram (List.replicate 16 1)]) = true :=
    Socket.exists_run (by decide +kernel)
  obtain ⟨alone, connected, reads, drained, unlimited, arrived⟩ := of_decide_eq_true outcome
  obtain ⟨f, answer, s', frame, received, iff, -⟩ :=
    receive_eq_frame_iff_wantsRead ran (Option.isNone_iff_eq_none.mp alone) connected reads drained
      unlimited arrived (.inl rfl)
  exact ⟨s, s', f, answer, ran, frame, received, iff⟩

/-- A connected socket for which a frame arrived after a read failed for want of resources. -/
def deafRun : List (Action protocol) :=
  [.ask (.connect "" .readWrite), .ask (.cue (.pushReadError 105)), .ask .receive,
    .ask (.cue (.pushRead (List.replicate 16 1)))]

theorem not_always_received :
    ¬∀ (protocolState : State) (endpoint : Endpoint) (readChunk writeChunk : Nat)
      (actions : List (Action protocol)) (s : Socket protocol) (d : List UInt8)
      (rest : List Arrival),
      Socket.run actions (Socket.fresh protocolState endpoint readChunk writeChunk) =
        some ((), s) →
      s.handler = none → s.state = .connected → s.mode.reads = true → s.available = 0 →
      s.readLimit = 0 → s.endpoint.arrivals = .datagram d :: rest →
      (d.length = classicUnit ∨ d.length = fdUnit ∧ State.fdFrames s.protocol = true) →
      ∃ f s', frameOf? d = some f ∧
        Socket.perform (P := protocol) .receive s = some (.ok (some f), s') := by
  intro always
  obtain ⟨s, ran, outcome⟩ : ∃ s : Socket protocol,
      Socket.run deafRun (Socket.fresh .initial .blank 20 20) = some ((), s) ∧
      decide (s.handler.isNone = true ∧ s.state = .connected ∧ s.mode.reads = true ∧
        s.available = 0 ∧ s.readLimit = 0 ∧
        s.endpoint.arrivals = [.datagram (List.replicate 16 1)] ∧
        (receive Socket.emit s).map (fun r => r.1.toOption) = some (some none)) = true :=
    Socket.exists_run (by decide +kernel)
  obtain ⟨alone, connected, reads, drained, unlimited, arrived, nothing⟩ :=
    of_decide_eq_true outcome
  obtain ⟨f, s', -, received⟩ := always _ _ _ _ _ s _ _ ran (Option.isNone_iff_eq_none.mp alone)
    connected reads drained unlimited arrived (.inl rfl)
  have given : receive Socket.emit s = some (.ok (some f), s') := received
  rw [given] at nothing
  cases nothing

end CanStream.Raw
