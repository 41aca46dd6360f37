import CanStream.Proofs.Socket.Pump

/-!
# Sockets without a handler

Nobody hears the events of a socket without a handler, so what an operation does to it is what the
operation itself does. A read then comes to an end, and what it leaves is what it settles.
-/

namespace CanStream

variable {P : Protocol}

namespace Socket

variable {α β ε : Type} {s : Socket P}

/-- The socket after an event that nobody hears. -/
def unheard (s : Socket P) (e : P.Event) : Socket P :=
  if s.dispatching then { s.log (.raised e) with queue := s.queue ++ [e] } else s.log (.raised e)

@[simp] theorem toConnection_unheard (s : Socket P) (e : P.Event) :
    (s.unheard e).toConnection = s.toConnection := by
  unfold unheard
  split <;> rfl

@[simp] theorem handler_unheard (s : Socket P) (e : P.Event) :
    (s.unheard e).handler = s.handler := by
  unfold unheard
  split <;> rfl

theorem emit_of_alone (alone : s.handler = none) (e : P.Event) :
    emit e s = some ((), s.unheard e) := by
  rw [emit, get_bind_apply, unheard, alone]
  cases s.dispatching <;> rfl

/-- The connection is the same afterwards, whether an arrival was reported or not. -/
theorem announceRead_of_alone (alone : s.handler = none) (available : Nat) :
    ∃ s', announceRead emit available s = some ((), s') ∧ s'.handler = none ∧
      s'.toConnection = s.toConnection := by
  rw [announceRead, get_bind_apply]
  by_cases grown : available < s.available ∧ s.reportingRead = false
  · let reporting := s.change fun c => { c with reportingRead := true }
    have raised := emit_of_alone (s := reporting) alone .readyRead
    rw [if_pos grown, update_bind_apply]
    refine ⟨(reporting.unheard .readyRead).change fun c => { c with reportingRead := false },
      bind_eq_some.mpr ⟨(), _, raised, rfl⟩, (handler_unheard ..).trans alone, ?_⟩
    have quiet : false = s.reportingRead := grown.2.symm
    rw [change, toConnection_unheard]
    simp only [quiet]
    rfl
  · rw [if_neg grown]
    exact ⟨s, rfl, alone, rfl⟩

section

variable (alone : s.handler = none) {window : Nat} (asked : s.readWindow? = some window)
  {result : Except IoError (List UInt8)} {after : P.State × Endpoint}
  (ran : (P.read window).exec (s.protocol, s.endpoint) = (result, after))

include alone asked ran

theorem pumpRead_of_passed (passed : Passed result) :
    ∃ s', pumpRead emit s = some (true, s') ∧ s'.handler = none ∧
      s'.toConnection = (s.toConnection.hooked after).settleRead s.toConnection window result := by
  obtain ⟨s₁, settled, handler, went⟩ := exists_announceRead_of_passed asked ran passed
  obtain ⟨s', announced, alone', same⟩ :=
    announceRead_of_alone (handler.trans alone) s.available
  refine ⟨s', ?_, alone', same.trans settled⟩
  rw [went]
  exact bind_eq_some.mpr ⟨(), s', announced, rfl⟩

/-- A read that fails leaves the read buffer as it was, and an error. -/
theorem pumpRead_of_failed {cause : IoError} (failed : result = .error cause)
    (noRetry : cause.shouldRetry = false) :
    ∃ s', pumpRead emit s = some (false, s') ∧ s'.handler = none ∧
      s'.toConnection =
        { (s.toConnection.hooked after).settleRead s.toConnection window result with
          error := SocketError.ofTransfer .readError cause } := by
  obtain ⟨s₁, settled, handler, went⟩ := exists_emit_error_of_failed asked ran failed noRetry
  let e : P.Event := .error (SocketError.ofTransfer .readError cause).kind
  have raised := emit_of_alone (handler.trans alone) e
  refine ⟨s₁.unheard e, ?_, (handler_unheard ..).trans (handler.trans alone),
    (toConnection_unheard ..).trans settled⟩
  rw [went]
  exact bind_eq_some.mpr ⟨(), _, raised, rfl⟩

end

end Socket

end CanStream
