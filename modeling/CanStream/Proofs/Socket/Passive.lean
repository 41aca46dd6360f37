import CanStream.Proofs.Socket.Delivery
import CanStream.Proofs.Socket.Unpolled

/-!
# Operations on a passive socket

A socket is passive if its handler, should it have one, asks for nothing. Whatever is raised is then
raised once, and comes to an end with the connection as it was. What an operation makes of the
connection can therefore be told from the connection alone.
-/

namespace CanStream

variable {P : Protocol}

namespace Socket

/-- The handler of the socket asks for nothing. -/
def Passive (s : Socket P) : Prop := ∀ h ∈ s.handler, h.Within Scope.quiet

theorem passive_of_alone {s : Socket P} (alone : s.handler = none) : s.Passive := by
  intro h installed
  rw [alone] at installed
  cases installed

/-- An event that a passive socket raises leaves the connection as it was, and brings about no
other event. -/
theorem exists_emit_of_passive {s : Socket P} (passive : s.Passive) (e : P.Event) :
    ∃ s', Socket.emit e s = some ((), s') ∧ s'.toConnection = s.toConnection ∧ s'.Passive ∧
      raisings s'.journal = raisings s.journal ++ [e] := by
  obtain ⟨s₁, goes⟩ := goes_emit passive e
  obtain ⟨polls, ran, -⟩ := goes.exists_ran
  let K : Assertion P := fun c j =>
    c = s.toConnection ∧ raisings j = raisings s.journal ++ [e]
  have turns : Turns K fun _ => K := by
    refine ⟨fun label e h => ⟨h.1, ?_⟩, fun _ h => ⟨h.1, ?_⟩, fun text h => ⟨h.1, ?_⟩⟩
    · rw [raisings_append, h.2]
      exact List.append_nil _
    · rw [raisings_append, h.2]
      exact List.append_nil _
    · rw [raisings_append, h.2]
      exact List.append_nil _
  have ready : Ready Scope.quiet (fun c j => K c (j ++ [.raised e])) s :=
    ⟨⟨rfl, raisings_append ..⟩, passive⟩
  have still := (upholds_emit turns False.elim e (fun _ h => h) id s ready () _ ran).1
  exact ⟨_, ran, still.holds.1, still.handler, still.holds.2⟩

/-- On a passive socket with the one connection the operation ends with the answer, and the socket
is passive again and has the other connection. -/
def Leads {α : Type} (m : SocketM P α) (c : Connection P) (a : α) (c' : Connection P) : Prop :=
  ∀ s : Socket P, s.toConnection = c → s.Passive →
    ∃ s', m s = some (a, s') ∧ s'.toConnection = c' ∧ s'.Passive

section

variable {α β ε : Type} {c c₁ c' : Connection P}

theorem Leads.pure (a : α) : Leads (Pure.pure a : SocketM P α) c a c :=
  fun s same passive => ⟨s, rfl, same, passive⟩

theorem Leads.bind {m : SocketM P α} {f : α → SocketM P β} {a : α} {b : β}
    (first : Leads m c a c₁) (next : Leads (f a) c₁ b c') : Leads (m >>= f) c b c' := by
  intro s same passive
  obtain ⟨s₁, ran₁, same₁, passive₁⟩ := first s same passive
  obtain ⟨s', ran, same', passive'⟩ := next s₁ same₁ passive₁
  exact ⟨s', bind_eq_some.mpr ⟨a, s₁, ran₁, ran⟩, same', passive'⟩

/-- An operation that begins by looking at the socket sees its connection. -/
theorem Leads.get {f : Socket P → SocketM P β} {b : β}
    (next : ∀ s : Socket P, s.toConnection = c → Leads (f s) c b c') :
    Leads (MonadState.get >>= f) c b c' :=
  fun s same passive => next s same s same passive

theorem leads_update (f : Connection P → Connection P) : Leads (update f) c () (f c) := by
  rintro s rfl passive
  exact ⟨s.change f, rfl, rfl, passive⟩

theorem leads_record (entry : Entry P) : Leads (record entry) c () c :=
  fun s same passive => ⟨s.log entry, rfl, same, passive⟩

theorem leads_runHook {hook : Hook P.State ε α} {result : Except ε α} {after : P.State × Endpoint}
    (ran : hook.exec (c.protocol, c.endpoint) = (result, after)) :
    Leads (runHook hook) c result (c.hooked after) := by
  rintro s rfl passive
  refine ⟨s.hooked after, ?_, rfl, passive⟩
  rw [runHook, ran]

theorem leads_callEndpoint (call : Endpoint.Call α) :
    Leads (callEndpoint call) c (call c.endpoint).1
      { c with endpoint := (call c.endpoint).2 } := by
  rintro s rfl passive
  exact ⟨s.called (call s.endpoint).2, rfl, rfl, passive⟩

theorem leads_emit (e : P.Event) : Leads (Socket.emit e) c () c := by
  rintro s rfl passive
  obtain ⟨s', ran, same, passive', -⟩ := exists_emit_of_passive passive e
  exact ⟨s', ran, same, passive'⟩

theorem leads_setState (state : SocketState) :
    Leads (setState Socket.emit state) c () { c with state := state } := by
  refine .get fun s same => ?_
  split
  case isTrue already =>
    have settled : c = { c with state := state } := by rw [← already, same]
    exact settled ▸ Leads.pure ()
  case isFalse => exact .bind (leads_update _) (leads_emit _)

theorem leads_setError (error : SocketError) :
    Leads (setError Socket.emit error) c () { c with error := error } :=
  .bind (leads_update _) (leads_emit _)

end

/-- The error after a call: its failure, or else the error that there was before. -/
def errorAfter {α : Type} (error : SocketError) : Except IoError α → SocketError
  | .ok _ => error
  | .error cause => SocketError.ofIo cause

theorem leads_reportFailure {α : Type} {c : Connection P} (result : Except IoError α) :
    Leads (reportFailure Socket.emit result) c ()
      { c with error := errorAfter c.error result } := by
  cases result with
  | ok a => exact .pure ()
  | error cause => exact leads_setError _

end Socket

/-- The connection after it was closed. If the descriptor cannot be closed properly, that is its
error. -/
def Connection.shut (c : Connection P) : Connection P :=
  { c.hush.discard with
    endpoint := (Endpoint.close c.endpoint).2
    error := Socket.errorAfter c.error (Endpoint.close c.endpoint).1
    state := .unconnected }

namespace Socket

theorem leads_close {c : Connection P} (isOpen : c.state ≠ .unconnected) :
    Leads (close Socket.emit) c () c.shut := by
  refine .get fun s same => ?_
  subst same
  rw [if_neg isOpen]
  refine .bind (leads_setState .closing) ?_
  refine .bind (leads_update Connection.hush) ?_
  refine .bind (leads_callEndpoint Endpoint.close) ?_
  refine .bind (leads_reportFailure _) ?_
  refine .bind (leads_update Connection.discard) ?_
  refine .bind (leads_record .discarded) ?_
  exact leads_setState .unconnected

/-- A connect whose set-up fails closes the socket again, with the failure as its error. -/
theorem leads_connect_of_failed {c : Connection P} {ifname : String} {mode : OpenMode}
    (unconnected : c.state = .unconnected) (supported : mode.isSupported = true)
    {cause : SocketError} {after : P.State × Endpoint}
    (failed : (P.connect ifname).exec (c.protocol, c.endpoint) = (.error cause, after)) :
    Leads (connect Socket.emit ifname mode) c false
      { (c.prepare ifname mode).hooked after with state := .connecting, error := cause }.shut := by
  rintro s rfl passive
  rw [connect_of_supported unconnected supported]
  let connecting : Connection P := { s.toConnection.prepare ifname mode with state := .connecting }
  have ran : (P.connect ifname).exec (connecting.protocol, connecting.endpoint) =
      (.error cause, after) := failed
  have isOpen : { connecting.hooked after with error := cause }.state ≠ .unconnected := nofun
  have leads : Leads (establish Socket.emit ifname mode) (s.toConnection.prepare ifname mode) false
      { connecting.hooked after with error := cause }.shut := by
    refine .bind (leads_setState .connecting) ?_
    refine .bind (leads_runHook ran) ?_
    refine .bind (leads_record (.setUp (.error cause))) ?_
    refine .bind (leads_setError cause) ?_
    refine .bind (leads_close isOpen) ?_
    exact .pure false
  exact leads _ rfl passive

end Socket

end CanStream
