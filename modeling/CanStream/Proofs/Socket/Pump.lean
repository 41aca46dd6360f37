import CanStream.Proofs.ByteQueue.Contents
import CanStream.Proofs.Socket.After
import CanStream.Proofs.Socket.Fields

/-!
# The pumps up to their first event

A read pump reads, settles what came of it, and only then raises an event, if any. Up to there it is
the same however events are raised, within a handler and outside of one. So is the start of a write
that fails.
-/

namespace CanStream

variable {P : Protocol}

namespace Connection

/-- How many bytes come of a read: what fits the window. -/
def gained (window : Nat) : Except IoError (List UInt8) → Nat
  | .ok bytes => min bytes.length window
  | .error _ => 0

theorem available_settleRead (c before : Connection P) (window : Nat)
    (result : Except IoError (List UInt8)) :
    (c.settleRead before window result).available = c.available + gained window result := by
  cases result with
  | ok bytes =>
    simp only [settleRead, takeIn, available, gained, ByteQueue.size_chop, ByteQueue.size_reserve]
    omega
  | error cause =>
    rw [settleRead]
    split
    · simp [takeIn, available, gained]
    · simp [refuseRead, available, gained]

theorem gained_le (window : Nat) (result : Except IoError (List UInt8)) :
    gained window result ≤ window := by
  cases result with
  | ok bytes => exact Nat.min_le_right _ _
  | error cause => exact Nat.zero_le _

/-- The window of a byte stream goes no further than the limit. -/
theorem readWindow?_le {c : Connection P} {window : Nat} (asked : c.readWindow? = some window)
    (limited : 0 < c.readLimit) (stream : P.isDatagram c.protocol = false) :
    window ≤ c.readLimit - c.available := by
  simp only [readWindow?, stream, Bool.false_eq_true, if_false] at asked
  split at asked
  · obtain rfl := Option.some.inj asked
    omega
  · split at asked
    · cases asked
    · obtain rfl := Option.some.inj asked
      exact Nat.le_refl _

end Connection

namespace Socket

/-- A read pump goes from the first socket to the second before anybody learns of it. There it
returns, or it has an arrival or a failure to report before it returns; a failure comes with nothing
read. -/
inductive Pumps (s s₁ : Socket P) : Prop
  | returns (answer : Bool) (went : ∀ emit, pumpRead emit s = some (answer, s₁))
  | announces
      (went : ∀ emit, pumpRead emit s =
        (do
          emit .readyRead
          update fun c => { c with reportingRead := false }
          pure true : SocketM P Bool) s₁)
  | fails (kind : SocketError.Kind)
      (went : ∀ emit, pumpRead emit s =
        (do
          emit (.error kind)
          pure false : SocketM P Bool) s₁)
      (unread : s₁.available = s.available)

/-- A pump leaves the descriptor alone when the read buffer is full. -/
theorem pumpRead_of_full {s : Socket P} (full : s.readWindow? = none) (emit : Emit P) :
    pumpRead emit s = some (false, s) := by
  rw [pumpRead, get_bind_apply, full]
  rfl

section

variable {s : Socket P} {window : Nat} (asked : s.readWindow? = some window)
  {result : Except IoError (List UInt8)} {after : P.State × Endpoint}
  (ran : (P.read window).exec (s.protocol, s.endpoint) = (result, after))

include asked ran

/-- What came of a read that did not fail is in the buffer before it is reported. -/
theorem exists_announceRead_of_passed (passed : Passed result) :
    ∃ s₁ : Socket P,
      s₁.toConnection = (s.toConnection.hooked after).settleRead s.toConnection window result ∧
      s₁.handler = s.handler ∧
      ∀ emit, pumpRead emit s =
        (do
          announceRead emit s.available
          pure true : SocketM P Bool) s₁ := by
  let hooked := (s.hooked after).log (s.toConnection.readEntry after result)
  let taken (bytes : List UInt8) := hooked.change (·.takeIn s.toConnection window bytes)
  cases result with
  | ok bytes =>
    refine ⟨(taken bytes).log (.received s.available (taken bytes).available), rfl, rfl,
      fun emit => ?_⟩
    rw [pumpRead, get_bind_apply, asked]
    simp only [runHook_bind_apply, get_bind_apply, record_bind_apply, ran]
    rfl
  | error cause =>
    have retry := passed cause rfl
    rw [Connection.settleRead, if_pos retry]
    refine ⟨(taken []).log (.received s.available (taken []).available), rfl, rfl, fun emit => ?_⟩
    rw [pumpRead, get_bind_apply, asked]
    simp only [runHook_bind_apply, get_bind_apply, record_bind_apply, ran, if_pos retry]
    rfl

/-- A read that fails gives its window back, and its failure is the socket's error before it is
reported. -/
theorem exists_emit_error_of_failed {cause : IoError} (failed : result = .error cause)
    (noRetry : cause.shouldRetry = false) :
    ∃ s₁ : Socket P,
      s₁.toConnection =
        { (s.toConnection.hooked after).settleRead s.toConnection window result with
          error := SocketError.ofTransfer .readError cause } ∧
      s₁.handler = s.handler ∧
      ∀ emit, pumpRead emit s =
        (do
          emit (.error (SocketError.ofTransfer .readError cause).kind)
          pure false : SocketM P Bool) s₁ := by
  subst failed
  have isNot : ¬cause.shouldRetry = true := Bool.eq_false_iff.mp noRetry
  let hooked := (s.hooked after).log (s.toConnection.readEntry after (.error cause))
  rw [Connection.settleRead, if_neg isNot]
  refine ⟨hooked.change fun c => { c.refuseRead window cause with
      error := SocketError.ofTransfer .readError cause }, rfl, rfl, fun emit => ?_⟩
  rw [pumpRead, get_bind_apply, asked]
  simp only [runHook_bind_apply, get_bind_apply, record_bind_apply, ran, if_neg isNot]
  rw [refuseRead, update_bind_apply, setError, bind_assoc, update_bind_apply]
  rfl

/-- A pump that reads settles what came of it before it raises an event. -/
theorem exists_pumps :
    ∃ s₁, s.Pumps s₁ ∧
      s₁.available = s.available + Connection.gained window result ∧ s₁.endpoint = after.2 := by
  have size := Connection.available_settleRead (s.toConnection.hooked after) s.toConnection
    window result
  have endpoint := Connection.endpoint_settleRead (s.toConnection.hooked after) s.toConnection
    window result
  by_cases passed : Passed result
  · obtain ⟨s₁, settled, -, went⟩ := exists_announceRead_of_passed asked ran passed
    rw [← settled] at size endpoint
    by_cases grown : s.available < s₁.available ∧ s₁.reportingRead = false
    · refine ⟨s₁.change fun c => { c with reportingRead := true }, .announces fun emit => ?_, size,
        endpoint⟩
      rw [went, announceRead, bind_assoc, get_bind_apply, if_pos grown, bind_assoc,
        update_bind_apply, bind_assoc]
    · refine ⟨s₁, .returns true fun emit => ?_, size, endpoint⟩
      rw [went, announceRead, bind_assoc, get_bind_apply, if_neg grown]
      rfl
  · obtain ⟨cause, failed, noRetry⟩ : ∃ cause, result = .error cause ∧
        cause.shouldRetry = false := by simpa [Passed] using passed
    obtain ⟨s₁, settled, -, went⟩ := exists_emit_error_of_failed asked ran failed noRetry
    have unread : s₁.available = s.available + Connection.gained window result := by
      rw [settled]
      exact size
    refine ⟨s₁, .fails _ went ?_, unread, ?_⟩
    · rw [unread, failed]
      rfl
    · rw [settled]
      exact endpoint

end

/-- A write that fails gives up what can never be written, and its failure is the socket's error
before it is reported. -/
theorem exists_emit_error_of_refused {s : Socket P} (nonempty : s.writeBuffer.isEmpty = false)
    (fresh : s.writeStarted = false) {cause : IoError} {after : P.State × Endpoint}
    (ran : (P.write s.align.writeBuffer.head).exec (s.protocol, s.endpoint) =
      (.error cause, after)) :
    ∃ s₁ : Socket P,
      s₁.toConnection =
        { (s.align.hooked after).refuseWrite cause with
          error := SocketError.ofTransfer .writeError cause } ∧
      s₁.handler = s.handler ∧
      ∀ emit, startWrite emit s =
        (do
          emit (.error (SocketError.ofTransfer .writeError cause).kind)
          pure false : SocketM P Bool) s₁ := by
  have idle : ¬(s.writeBuffer.isEmpty || s.writeStarted) = true := by simp [nonempty, fresh]
  have hook : (P.write (s.change Connection.align).writeBuffer.head).exec
      ((s.change Connection.align).protocol, (s.change Connection.align).endpoint) =
        (.error cause, after) := ran
  let entry : Entry P := .writeHook s.reportingWrite s.align.writeBuffer.head
    (s.endpoint.writesTried after.2) (s.endpoint.writesMade after.2) (.error cause)
  let hooked := ((s.change Connection.align).hooked after).log entry
  refine ⟨hooked.change fun c => { c.refuseWrite cause with
      error := SocketError.ofTransfer .writeError cause }, rfl, rfl, fun emit => ?_⟩
  rw [startWrite, get_bind_apply, if_neg idle, update_bind_apply]
  simp only [get_bind_apply, runHook_bind_apply, record_bind_apply, hook]
  rw [refuseWrite, update_bind_apply, setError, bind_assoc, update_bind_apply]
  rfl

end Socket

end CanStream
