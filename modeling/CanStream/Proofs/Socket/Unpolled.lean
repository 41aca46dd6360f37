import CanStream.Proofs.Protocol.Polls
import CanStream.Proofs.Socket.Backpressure

/-!
# Operations that take no notice of the number of polls

Where handlers ask for nothing, raising an event always comes to an end, and so do the pumps. Where
no answers to polls are laid down either, they do the same whatever the number of polls.
-/

namespace CanStream

variable {P : Protocol}

namespace Socket

variable {α β ε : Type} {s s₁ s' : Socket P}

/-- The socket with so many polls made on its endpoint. -/
def recount (polls : Nat) (s : Socket P) : Socket P := s.called (s.endpoint.recount polls)

/-- The handler asks for nothing, and no answers to polls are laid down. -/
structure Calm (s : Socket P) : Prop where
  handler : ∀ h ∈ s.handler, h.Within Scope.quiet
  unscripted : s.endpoint.pollAnswers = []

/-- But for the number of polls the operation goes from the one socket to the other, whatever that
number is. -/
def Goes (m : SocketM P α) (s : Socket P) (a : α) (s' : Socket P) : Prop :=
  ∀ polls, ∃ polls', m (s.recount polls) = some (a, s'.recount polls')

namespace Goes

theorem of_steady {m : SocketM P α} {a : α}
    (ran : ∀ polls, m (s.recount polls) = some (a, s'.recount polls)) : Goes m s a s' :=
  fun polls => ⟨polls, ran polls⟩

theorem bind {m : SocketM P α} {f : α → SocketM P β} {a : α} {b : β} (first : Goes m s a s₁)
    (next : Goes (f a) s₁ b s') : Goes (m >>= f) s b s' := by
  intro polls
  obtain ⟨polls₁, ran⟩ := first polls
  obtain ⟨polls', ran'⟩ := next polls₁
  exact ⟨polls', bind_eq_some.mpr ⟨a, _, ran, ran'⟩⟩

/-- An operation that goes from a socket to another ends there with some number of polls. -/
theorem exists_ran {m : SocketM P α} {a : α} (goes : Goes m s a s') :
    ∃ polls, m s = some (a, s'.recount polls) ∧ Goes m s a (s'.recount polls) := by
  obtain ⟨polls, ran⟩ := goes s.endpoint.polls
  exact ⟨polls, ran, goes⟩

end Goes

/-- From a calm socket the operation goes to a calm one, whatever the number of polls. -/
def Unpolled (m : SocketM P α) : Prop :=
  ∀ s, s.Calm → ∃ a s', Goes m s a s' ∧ s'.Calm

namespace Unpolled

theorem pure (a : α) : Unpolled (Pure.pure a : SocketM P α) :=
  fun s calm => ⟨a, s, .of_steady fun _ => rfl, calm⟩

theorem bind {m : SocketM P α} {f : α → SocketM P β} (first : Unpolled m)
    (next : ∀ a, Unpolled (f a)) : Unpolled (m >>= f) := by
  intro s calm
  obtain ⟨a, s₁, goes₁, calm₁⟩ := first s calm
  obtain ⟨b, s', goes, calm'⟩ := next a s₁ calm₁
  exact ⟨b, s', goes₁.bind goes, calm'⟩

/-- An operation may look at the socket, but not at the number of polls. -/
theorem get {f : Socket P → SocketM P β} (same : ∀ s polls, f (recount polls s) = f s)
    (next : ∀ s, Unpolled (f s)) : Unpolled (MonadState.get >>= f) := by
  intro s calm
  obtain ⟨b, s', goes, calm'⟩ := next s s calm
  refine ⟨b, s', fun polls => ?_, calm'⟩
  rw [get_bind_apply, same]
  exact goes polls

theorem ite {c : Prop} [Decidable c] {m n : SocketM P α} (yes : Unpolled m) (no : Unpolled n) :
    Unpolled (if c then m else n) := by
  split
  · exact yes
  · exact no

/-- A change that has nothing to do with the endpoint. -/
theorem update {f : Connection P → Connection P}
    (same : ∀ c endpoint, f { c with endpoint := endpoint } = { f c with endpoint := endpoint }) :
    Unpolled (Socket.update f) := by
  intro s calm
  have spared : (f s.toConnection).endpoint = s.endpoint := by
    have kept : f s.toConnection = { f s.toConnection with endpoint := s.endpoint } :=
      same s.toConnection s.endpoint
    rw [kept]
  have unscripted : (f s.toConnection).endpoint.pollAnswers = [] := by
    rw [spared]
    exact calm.unscripted
  refine ⟨(), s.change f, .of_steady fun polls => ?_, calm.handler, unscripted⟩
  have changed : f { s.toConnection with endpoint := s.endpoint.recount polls } =
      { f s.toConnection with endpoint := (f s.toConnection).endpoint.recount polls } := by
    rw [same, spared]
  exact congrArg (fun c => some ((), { s with toConnection := c })) changed

theorem record (entry : Entry P) : Unpolled (record entry) :=
  fun s calm => ⟨(), s.log entry, .of_steady fun _ => rfl, calm.handler, calm.unscripted⟩

theorem runHook {hook : Hook P.State ε α} (unpolled : hook.Unpolled) :
    Unpolled (Socket.runHook hook) := by
  intro s calm
  obtain ⟨result, protocol, e, unscripted, ran⟩ := unpolled s.protocol s.endpoint calm.unscripted
  refine ⟨result, s.hooked (protocol, e), fun polls => ?_, calm.handler, unscripted⟩
  obtain ⟨polls', ran⟩ := ran polls
  exact ⟨polls', congrArg (fun r : Except ε α × P.State × Endpoint => some (r.1, s.hooked r.2)) ran⟩

/-- A calm socket goes on to another calm one, whatever the number of polls. -/
theorem exists_ran {m : SocketM P α} (unpolled : Unpolled m) (calm : s.Calm) :
    ∃ a s', m s = some (a, s') ∧ s'.Calm ∧
      ∀ polls, ∃ polls', m (s.recount polls) = some (a, s'.recount polls') := by
  obtain ⟨a, s₁, goes, calm₁⟩ := unpolled s calm
  obtain ⟨polls, ran, goes⟩ := goes.exists_ran
  exact ⟨a, s₁.recount polls, ran, ⟨calm₁.handler, calm₁.unscripted⟩, goes⟩

end Unpolled

/-! ## Raising events -/

theorem goes_nextHeard (h : Handler P) (s : Socket P) :
    ∃ heard s', Goes (nextHeard h) s heard s' := by
  obtain ⟨heard, s', ran⟩ : ∃ heard s', nextHeard h s = some (heard, s') := ⟨_, _, rfl⟩
  refine ⟨heard, s', .of_steady fun polls => ?_⟩
  cases ran
  rfl

end Socket

open Socket

mutual

theorem Handler.goes_drain : (h : Handler P) → h.Within Scope.quiet → (s : Socket P) →
    ∃ next s', Goes h.drain s next s'
  | .silent label, _, s => by
      obtain ⟨heard, s', goes⟩ := goes_nextHeard (.silent label) s
      exact ⟨.silent label, s', goes.bind (.of_steady fun _ => rfl)⟩
  | .on label hears react, within, s => by
      rw [Handler.drain]
      obtain ⟨heard, s₁, goes⟩ := goes_nextHeard (.on label hears react) s
      cases heard with
      | none => exact ⟨.on label hears react, s₁, goes.bind (.of_steady fun _ => rfl)⟩
      | some e =>
        obtain ⟨next, s', runs⟩ := (react e).goes_run (within e) s₁
        exact ⟨next, s', goes.bind runs⟩

theorem Script.goes_run : (t : Script P) → t.Within Scope.quiet → (s : Socket P) →
    ∃ next s', Goes t.run s next s'
  | .done next, within, s => by
      obtain ⟨last, s', drains⟩ := next.goes_drain within (s.log .returned)
      exact ⟨last, s', Goes.bind (.of_steady fun _ => rfl) drains⟩
  | .note text rest, within, s => by
      obtain ⟨last, s', runs⟩ := rest.goes_run within (s.log (.noted text))
      exact ⟨last, s', Goes.bind (.of_steady fun _ => rfl) runs⟩
  | .install h rest, within, s => by
      obtain ⟨last, s', runs⟩ := rest.goes_run within.2 { s with handler := some h }
      exact ⟨last, s', Goes.bind (.of_steady fun _ => rfl) runs⟩
  | .call _ _, within, _ => within.1.elim

end

namespace Socket

variable {α β ε : Type} {s s₁ s' : Socket P}

/-- Where the handler asks for nothing, raising an event comes to an end. -/
theorem goes_emit (quiet : ∀ h ∈ s.handler, h.Within Scope.quiet) (e : P.Event) :
    ∃ s', Goes (emit e) s () s' := by
  cases dispatching : s.dispatching with
  | true =>
    refine ⟨{ s.log (.raised e) with queue := s.queue ++ [e] }, .of_steady fun polls => ?_⟩
    have waits : (s.recount polls).dispatching = true := dispatching
    rw [emit, get_bind_apply, if_pos waits]
    rfl
  | false =>
    have free (polls : Nat) : ¬(s.recount polls).dispatching = true :=
      Bool.eq_false_iff.mp dispatching
    cases handler : s.handler with
    | none =>
      refine ⟨s.log (.raised e), .of_steady fun polls => ?_⟩
      have alone : (s.recount polls).handler = none := handler
      rw [emit, get_bind_apply, if_neg (free polls), alone]
      rfl
    | some h =>
      obtain ⟨next, s₁, drains⟩ := h.goes_drain (quiet h handler) (s.beginDispatch e)
      refine ⟨s₁.endDispatch next, fun polls => ?_⟩
      obtain ⟨polls', drained⟩ := drains polls
      have held : (s.recount polls).handler = some h := handler
      rw [emit, get_bind_apply, if_neg (free polls), held]
      exact ⟨polls', bind_eq_some.mpr ⟨(), _, rfl, bind_eq_some.mpr ⟨next, _, drained, rfl⟩⟩⟩

/-- Handlers that ask for nothing leave the connection as it is. -/
theorem upholds_emit_of_quiet (K : Connection P → Prop) (e : P.Event) :
    Upholds Scope.quiet (fun c _ => K c) (emit e) fun c _ => K c := by
  have turns : Turns (fun c _ => K c) fun _ c (_ : List (Entry P)) => K c :=
    ⟨fun _ _ h => h, fun _ h => h, fun _ h => h⟩
  exact upholds_emit turns False.elim e (fun _ h => h) id

theorem unpolled_emit (e : P.Event) : Unpolled (emit e) := by
  intro s calm
  obtain ⟨s', goes⟩ := goes_emit calm.handler e
  obtain ⟨polls, ran, goes⟩ := goes.exists_ran
  have ready : Ready Scope.quiet (fun c _ => c.endpoint.pollAnswers = []) s :=
    ⟨calm.unscripted, calm.handler⟩
  have still := (upholds_emit_of_quiet (fun c => c.endpoint.pollAnswers = []) e s ready () _ ran).1
  exact ⟨(), s'.recount polls, goes, still.handler, still.holds⟩

theorem unpolled_setError (error : SocketError) : Unpolled (setError (P := P) emit error) := by
  refine .bind (.update fun _ _ => rfl) fun _ => ?_
  exact unpolled_emit (.error error.kind)

theorem unpolled_announceRead (available : Nat) :
    Unpolled (announceRead (P := P) emit available) := by
  refine .get (fun _ _ => rfl) fun s => .ite ?_ (.pure ())
  refine .bind (.update fun _ _ => rfl) fun _ => ?_
  refine .bind (unpolled_emit .readyRead) fun _ => ?_
  exact .update fun _ _ => rfl

theorem unpolled_takeIn (before : Connection P) (window : Nat) (bytes : List UInt8) :
    Unpolled (takeIn emit before window bytes) := by
  refine .bind (.update fun _ _ => rfl) fun _ => .get (fun _ _ => rfl) fun s => ?_
  refine .bind (.record _) fun _ => ?_
  refine .bind (unpolled_announceRead before.available) fun _ => ?_
  exact .pure true

theorem unpolled_pumpRead (unpolled : P.Unpolled) : Unpolled (pumpRead (P := P) emit) := by
  refine .get (fun _ _ => rfl) fun s => ?_
  cases s.readWindow? with
  | none => exact .pure false
  | some window =>
    refine .bind (.runHook (unpolled.read window)) fun result => ?_
    refine .get (fun _ _ => rfl) fun after => ?_
    refine .bind (.record _) fun _ => ?_
    cases result with
    | ok bytes => exact unpolled_takeIn _ window bytes
    | error cause =>
      refine .ite (unpolled_takeIn _ window []) ?_
      refine .bind (.update fun _ _ => rfl) fun _ => ?_
      refine .bind (unpolled_setError _) fun _ => ?_
      exact .pure false

theorem unpolled_refuseWrite (cause : IoError) : Unpolled (refuseWrite (P := P) emit cause) := by
  have refuses : Unpolled (P := P) (update (·.refuseWrite cause)) := by
    refine .update fun c endpoint => ?_
    unfold Connection.refuseWrite
    split <;> rfl
  refine .bind refuses fun _ => ?_
  refine .bind (unpolled_setError _) fun _ => ?_
  exact .pure false

theorem unpolled_startWrite (unpolled : P.Unpolled) : Unpolled (startWrite (P := P) emit) := by
  refine .get (fun _ _ => rfl) fun s => .ite (.pure true) ?_
  refine .bind (.update fun _ _ => rfl) fun _ => .get (fun _ _ => rfl) fun before => ?_
  refine .bind (.runHook (unpolled.write _)) fun result => .get (fun _ _ => rfl) fun after => ?_
  refine .bind (.record _) fun _ => ?_
  cases result with
  | error cause => exact unpolled_refuseWrite cause
  | ok n =>
    refine .bind (.update fun _ _ => rfl) fun _ => ?_
    exact .pure true

theorem unpolled_completeWrite (unpolled : P.Unpolled) :
    Unpolled (completeWrite (P := P) emit) := by
  have reports : Unpolled (P := P) (reportWritten emit) := by
    refine .get (fun _ _ => rfl) fun s => .ite ?_ (.pure ())
    refine .bind (.update fun _ _ => rfl) fun _ => ?_
    refine .bind (unpolled_emit (.bytesWritten s.pending)) fun _ => ?_
    exact .update fun _ _ => rfl
  refine .bind reports fun _ => ?_
  refine .bind (.update fun _ _ => rfl) fun _ => .get (fun _ _ => rfl) fun s => ?_
  refine .ite ?_ (unpolled_startWrite unpolled)
  refine .bind (.update fun _ _ => rfl) fun _ => ?_
  exact .pure true

end Socket

end CanStream
