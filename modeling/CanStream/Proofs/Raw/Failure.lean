import CanStream.Proofs.Raw.Reading
import CanStream.Proofs.Socket.Buffers
import CanStream.Proofs.Socket.Pump
import CanStream.Proofs.Socket.Run

/-!
# Failures in the midst of a reading

A failure ends the reading that meets it. It is the socket's error, and reported as one, only if no
frame was read before it in the same go. The frames are kept otherwise, and the failure is lost.
-/

namespace CanStream.Raw

open Socket

section

variable {unit window : Nat} {code : Int}

/-- A reading that consumed a failure other than one to try again consumed frames before it and
nothing behind it. It failed only if nothing was read before. -/
theorem Reads.of_failure {taken : List UInt8} {consumed : List Arrival}
    {result : Except IoError (List UInt8)} (reads : Reads unit window taken consumed result)
    (positive : 0 < unit) (noRetry : (IoError.os code).shouldRetry = false)
    (member : .failure code ∈ consumed) :
    consumed = (datagrams consumed).map .datagram ++ [.failure code] ∧
      (∀ d ∈ datagrams consumed, FrameSized unit d) ∧
      result = if taken = [] ∧ datagrams consumed = [] then .error (.os code)
        else .ok (taken ++ (datagrams consumed).flatMap fun d => tag (d.take unit)) := by
  induction reads with
  | stop taken => cases member
  | refused cause => cases member
  | lapsed code' taken ends =>
    obtain rfl : code = code' := by simpa using member
    have read : taken ≠ [] := ends.resolve_left (Bool.eq_false_iff.mp noRetry)
    exact ⟨rfl, nofun, by simp [datagrams, Arrival.bytes?, read]⟩
  | failed code' =>
    obtain rfl : code = code' := by simpa using member
    exact ⟨rfl, nofun, rfl⟩
  | ended taken => simp at member
  | malformed taken bad => simp at member
  | frame sized fits next ih =>
    rename_i bytes taken rest result
    have later : .failure code ∈ rest := by simpa using member
    have split : datagrams (.datagram bytes :: rest) = bytes :: datagrams rest := rfl
    obtain ⟨whole, framed, given⟩ := ih later
    have read : taken ++ tag (bytes.take unit) ≠ [] := by
      refine List.append_ne_nil_of_right_ne_nil _ (List.ne_nil_of_length_pos ?_)
      have classic : classicUnit = 16 := rfl
      rw [length_tag, List.length_take]
      rcases sized with size | long <;> omega
    rw [split]
    refine ⟨congrArg (.datagram bytes :: ·) whole,
      List.forall_mem_cons.mpr ⟨sized, framed⟩, ?_⟩
    rw [given, if_neg fun both => read both.1, if_neg (by simp), List.flatMap_cons,
      List.append_assoc]

/-- A read of the hook met the failure: it was laid down for the read, or it is that of a descriptor
that is not open. -/
def Meets (unit window : Nat) (before after : Endpoint) (code : Int) : Prop :=
  .failure code ∈ before.arrivalsTaken after ∨
    before.isOpen = false ∧ unit ≤ window ∧ code = Errno.badDescriptor

/-- A reading that has room for a frame has a turn. -/
theorem exists_turn_of_roomy {s : State} (roomy : s.frameSize ≤ window) (e : Endpoint) :
    ∃ count, (read window).exec (s, e) =
        (readFrames s.frameSize window (count + 1) []).exec (s, e) ∧
      ¬window - ([] : List UInt8).length < s.frameSize := by
  have classic : classicUnit ≤ s.frameSize := by
    unfold State.frameSize
    split <;> decide
  obtain ⟨count, turns⟩ : ∃ count, window / classicUnit = count + 1 :=
    Nat.exists_eq_add_one.mpr (Nat.div_pos (Nat.le_trans classic roomy) (by decide))
  refine ⟨count, ?_, by rw [List.length_nil]; omega⟩
  rw [read, Hook.exec_state_bind, turns]

theorem exec_read_of_closed {s : State} {e : Endpoint} (closed : e.isOpen = false)
    (roomy : s.frameSize ≤ window) :
    (read window).exec (s, e) = (.error (.os Errno.badDescriptor), (s, e)) := by
  have called : Endpoint.read s.frameSize e = (.error (.os Errno.badDescriptor), e) := by
    simp [Endpoint.read, Endpoint.whileOpen, closed]
  obtain ⟨count, turn, fits⟩ := exists_turn_of_roomy roomy e
  rw [turn, readFrames, if_neg fits, Hook.exec_attempt_bind, called]
  rfl

end

/-- A reading gives no more than its window. -/
theorem length_le_of_exec_read {window : Nat} {s : State} {e : Endpoint}
    {result : Except IoError (List UInt8)} {after : State × Endpoint} {bytes : List UInt8}
    (ran : (read window).exec (s, e) = (result, after)) (given : result = .ok bytes) :
    bytes.length ≤ window := by
  obtain ⟨consumed, rest, result', -, ran', reads⟩ := reads_read window s e
  obtain ⟨rfl, -⟩ := Prod.mk.inj (ran'.symm.trans ran)
  exact reads.length_le (Nat.zero_le _) given

/-- A reading that met a failure other than one to try again failed with it, unless it gives some
frames. -/
theorem eq_of_meets {window : Nat} {s : State} {e : Endpoint}
    {result : Except IoError (List UInt8)} {after : State × Endpoint} {code : Int}
    (ran : (read window).exec (s, e) = (result, after))
    (meets : Meets s.frameSize window e after.2 code)
    (noRetry : (IoError.os code).shouldRetry = false) :
    result = if datagrams (e.arrivalsTaken after.2) = [] then .error (.os code)
      else .ok
        ((datagrams (e.arrivalsTaken after.2)).flatMap fun d => tag (d.take s.frameSize)) := by
  rcases meets with member | ⟨closed, roomy, rfl⟩
  · obtain ⟨consumed, rest, result', split, ran', reads⟩ := reads_read window s e
    obtain ⟨rfl, rfl⟩ := Prod.mk.inj (ran'.symm.trans ran)
    have taken : e.arrivalsTaken { e with arrivals := rest } = consumed :=
      Endpoint.arrivalsTaken_eq split
    rw [taken] at member
    simpa [taken] using (reads.of_failure (frameSize_pos _) noRetry member).2.2
  · obtain ⟨rfl, rfl⟩ := Prod.mk.inj ((exec_read_of_closed closed roomy).symm.trans ran)
    rw [Endpoint.arrivalsTaken_eq (List.nil_append _).symm]
    rfl

/-- A pump whose reads met a failure other than one to try again makes it the socket's error and
reports it, if no frame was read before it. Otherwise it keeps the frames and reports their arrival,
and the socket's error is what it was. -/
theorem pumpRead_of_failure (emit : Emit protocol) {s : Socket protocol}
    (whole : s.readBuffer.WellFormed) {window : Nat} (asked : s.readWindow? = some window)
    {result : Except IoError (List UInt8)} {after : State × Endpoint}
    (ran : (read window).exec (s.protocol, s.endpoint) = (result, after)) {code : Int}
    (meets : Meets s.protocol.frameSize window s.endpoint after.2 code)
    (noRetry : (IoError.os code).shouldRetry = false) :
    let error := SocketError.ofTransfer .readError (.os code)
    let frames := datagrams (s.endpoint.arrivalsTaken after.2)
    ∃ s₁ : Socket protocol, s₁.endpoint = after.2 ∧
      s₁.readBuffer.toList =
        s.readBuffer.toList ++ frames.flatMap (fun d => tag (d.take s.protocol.frameSize)) ∧
      (frames = [] → s₁.error = error ∧
        pumpRead emit s = (do emit (.error error.kind); pure false : SocketM protocol Bool) s₁) ∧
      (frames ≠ [] → s₁.error = s.error ∧
        pumpRead emit s =
          (do announceRead emit s.available; pure true : SocketM protocol Bool) s₁) := by
  intro error frames
  have hook : (protocol.read window).exec (s.protocol, s.endpoint) = (result, after) := ran
  have given : result = if frames = [] then .error (.os code)
      else .ok (frames.flatMap fun d => tag (d.take s.protocol.frameSize)) :=
    eq_of_meets ran meets noRetry
  by_cases empty : frames = []
  · rw [if_pos empty] at given
    obtain ⟨s₁, settled, -, went⟩ := exists_emit_error_of_failed asked hook given noRetry
    refine ⟨s₁, ?_, ?_, fun _ => ⟨?_, went emit⟩, fun nonempty => absurd empty nonempty⟩
    · rw [settled]
      exact Connection.endpoint_settleRead ..
    · rw [settled, given, empty, List.flatMap_nil, List.append_nil]
      exact Connection.toList_settleRead_error (c := s.toConnection.hooked after) whole _ _ _
    · rw [settled]
  · rw [if_neg empty] at given
    obtain ⟨s₁, settled, -, went⟩ :=
      exists_announceRead_of_passed asked hook fun cause failed => by
        rw [given] at failed
        cases failed
    refine ⟨s₁, ?_, ?_, fun isEmpty => absurd isEmpty empty, fun _ => ⟨?_, went emit⟩⟩
    · rw [settled]
      exact Connection.endpoint_settleRead ..
    · have fits := length_le_of_exec_read ran given
      rw [settled, given]
      exact Connection.toList_settleRead_ok (c := s.toConnection.hooked after) whole _ fits
    · rw [settled, given]
      rfl

/-- Whether an error was reported. -/
def reportsError : Entry protocol → Bool
  | .raised (.error _) => true
  | _ => false

/-- A connected socket for which a frame arrived, and then the network goes down. -/
def lapsingRun : List (Action protocol) :=
  [.ask (.connect "" .readWrite), .ask (.cue (.pushRead (List.replicate 16 0))),
    .ask (.cue (.pushReadError 100))]

/-- A pump that consumed the frame and the failure leaves no trace of the failure. -/
theorem exists_lapse :
    ∃ s s' : Socket protocol, Socket.run lapsingRun (initial .initial .blank) = some ((), s) ∧
      pumpRead Socket.emit s = some (true, s') ∧
      s.endpoint.arrivalsTaken s'.endpoint =
        [.datagram (List.replicate 16 0), .failure 100] ∧
      s'.error = SocketError.none ∧
      (s'.journal.drop s.journal.length).any reportsError = false := by
  obtain ⟨s, read, s', ran, pumped, outcome⟩ : ∃ s read s',
      Socket.run lapsingRun (initial .initial .blank) = some ((), s) ∧
        pumpRead Socket.emit s = some (read, s') ∧
        (read, s.endpoint.arrivalsTaken s'.endpoint, s'.error,
          (s'.journal.drop s.journal.length).any reportsError) =
          (true, [.datagram (List.replicate 16 0), .failure 100], SocketError.none, false) :=
    exists_asked (by decide +kernel)
  simp only [Prod.mk.injEq] at outcome
  obtain ⟨rfl, taken, error, silent⟩ := outcome
  exact ⟨s, s', ran, pumped, taken, error, silent⟩

theorem not_always_reported :
    ¬∀ (actions : List (Action protocol)) (s s' : Socket protocol) (read : Bool) (code : Int),
      Socket.run actions (initial .initial .blank) = some ((), s) →
      pumpRead Socket.emit s = some (read, s') →
      .failure code ∈ s.endpoint.arrivalsTaken s'.endpoint →
      (IoError.os code).shouldRetry = false →
      (s'.journal.drop s.journal.length).any reportsError = true ∧
        s'.error = SocketError.ofTransfer .readError (.os code) := by
  intro always
  obtain ⟨s, s', ran, pumped, taken, -, silent⟩ := exists_lapse
  have member : .failure 100 ∈ s.endpoint.arrivalsTaken s'.endpoint := by simp [taken]
  have reported := (always lapsingRun s s' true 100 ran pumped member (by decide)).1
  rw [silent] at reported
  cases reported

/-- A socket with an open descriptor on which the network goes down behind what arrived first. -/
def failing (first : List Arrival) : Socket protocol :=
  initial .initial { Endpoint.blank with
    opened := some .raw, arrivals := first ++ [.failure 100] }

/-- The failure is the socket's error if it comes first, and lost behind a frame. -/
theorem pumpRead_failing :
    (∃ s₁ : Socket protocol, s₁.error = ⟨.readError, "Network is down (os error 100)"⟩ ∧
      pumpRead Socket.emit (failing []) =
        (do Socket.emit (.error .readError); pure false : SocketM protocol Bool) s₁) ∧
    ∃ s₁ : Socket protocol, s₁.error = SocketError.none ∧
      pumpRead Socket.emit (failing [.datagram (List.replicate 16 0)]) =
        (do announceRead Socket.emit 0; pure true : SocketM protocol Bool) s₁ := by
  constructor
  · have met : Meets (State.frameSize (failing []).protocol) readChunk (failing []).endpoint
        ((read readChunk).exec ((failing []).protocol, (failing []).endpoint)).2.2 100 :=
      .inl (by decide +kernel)
    obtain ⟨s₁, -, -, reported, -⟩ := pumpRead_of_failure Socket.emit
      (ByteQueue.wellFormed_empty _) (s := failing []) (by decide +kernel) rfl met (by decide)
    obtain ⟨error, pumped⟩ := reported (by decide +kernel)
    exact ⟨s₁, error, pumped⟩
  · let s := failing [.datagram (List.replicate 16 0)]
    have met : Meets (State.frameSize s.protocol) readChunk s.endpoint
        ((read readChunk).exec (s.protocol, s.endpoint)).2.2 100 := .inl (by decide +kernel)
    obtain ⟨s₁, -, -, -, kept⟩ := pumpRead_of_failure Socket.emit
      (ByteQueue.wellFormed_empty _) (s := s) (by decide +kernel) rfl met (by decide)
    obtain ⟨error, pumped⟩ := kept (by decide +kernel)
    exact ⟨s₁, error, pumped⟩

end CanStream.Raw
