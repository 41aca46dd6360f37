import CanStream.Proofs.Socket.After
import CanStream.Proofs.Socket.Outline
import CanStream.Proofs.Socket.Waits

/-!
# Operations that uphold an assertion

An operation upholds an assertion if it leads from it to it, or to another one, with handlers in
scope. It also leaves it as it was whether an arrival or a completed write is being reported, for an
operation only begins a report that it ends itself.
-/

namespace CanStream.Socket

variable {P : Protocol} {α β : Type} {scope : Scope P}

/-- What the socket is reporting. -/
def guards (s : Socket P) : Bool × Bool := (s.reportingRead, s.reportingWrite)

/-- The assertion holds of the socket, and its handler makes requests in scope. -/
structure Ready (scope : Scope P) (I : Assertion P) (s : Socket P) : Prop where
  holds : I s.toConnection s.journal
  handler : ∀ h ∈ s.handler, h.Within scope

/-- The operation leads from the one assertion to the other, and ends the reports it begins. -/
def Upholds (scope : Scope P) (I : Assertion P) (m : SocketM P α) (J : Assertion P) : Prop :=
  ∀ s, Ready scope I s → After m s fun _ s' => Ready scope J s' ∧ s'.guards = s.guards

variable {I J K : Assertion P}

theorem Upholds.before {m : SocketM P α} {I' : Assertion P} (h : Upholds scope I m J)
    (stronger : ∀ c j, I' c j → I c j) : Upholds scope I' m J :=
  fun s ready => h s ⟨stronger _ _ ready.holds, ready.handler⟩

theorem Upholds.after {m : SocketM P α} (h : Upholds scope I m J)
    (weaker : ∀ c j, J c j → K c j) : Upholds scope I m K :=
  fun s ready => (h s ready).mono fun _ _ ⟨ready', same⟩ =>
    ⟨⟨weaker _ _ ready'.holds, ready'.handler⟩, same⟩

theorem Upholds.pure (a : α) (h : ∀ c j, I c j → J c j) :
    Upholds scope I (Pure.pure a : SocketM P α) J := by
  intro s ready
  rw [after_pure]
  exact ⟨⟨h _ _ ready.holds, ready.handler⟩, rfl⟩

theorem Upholds.skip (a : α) : Upholds scope I (Pure.pure a : SocketM P α) I :=
  Upholds.pure a fun _ _ h => h

theorem Upholds.never : Upholds scope I (Socket.never : SocketM P α) J :=
  fun _ _ => after_never

theorem Upholds.bind {m : SocketM P α} {f : α → SocketM P β} (first : Upholds scope I m J)
    (next : ∀ a, Upholds scope J (f a) K) : Upholds scope I (m >>= f) K := by
  intro s ready
  rw [after_bind]
  refine (first s ready).mono ?_
  rintro a s₁ ⟨ready₁, same₁⟩
  refine (next a s₁ ready₁).mono ?_
  rintro b s₂ ⟨ready₂, same₂⟩
  exact ⟨ready₂, same₂.trans same₁⟩

/-- An operation that begins by looking at the socket may be judged by what it sees. -/
theorem Upholds.get {f : Socket P → SocketM P β}
    (next : ∀ s₀ : Socket P,
      Upholds scope (fun c j => I c j ∧ c = s₀.toConnection) (f s₀) K) :
    Upholds scope I (MonadState.get >>= f) K := by
  intro s ready
  rw [after_bind, after_get]
  exact next s s ⟨⟨ready.holds, rfl⟩, ready.handler⟩

theorem Upholds.ite {c : Prop} [Decidable c] {m n : SocketM P α}
    (yes : c → Upholds scope I m J) (no : ¬c → Upholds scope I n J) :
    Upholds scope I (if c then m else n) J := by
  split
  case isTrue h => exact yes h
  case isFalse h => exact no h

theorem Upholds.update {f : Connection P → Connection P}
    (reports : ∀ c, (f c).reportingRead = c.reportingRead ∧
      (f c).reportingWrite = c.reportingWrite)
    (h : ∀ c j, I c j → J (f c) j) : Upholds scope I (Socket.update f) J := by
  intro s ready
  rw [after_update]
  obtain ⟨sameRead, sameWrite⟩ := reports s.toConnection
  exact ⟨⟨h _ _ ready.holds, ready.handler⟩, Prod.ext sameRead sameWrite⟩

theorem Upholds.record {entry : Entry P} (h : ∀ c j, I c j → J c (j ++ [entry])) :
    Upholds scope I (Socket.record entry) J := by
  intro s ready
  rw [after_record]
  exact ⟨⟨h _ _ ready.holds, ready.handler⟩, rfl⟩

theorem Upholds.callEndpoint {call : Endpoint.Call α}
    (h : ∀ c j, I c j → J { c with endpoint := (call c.endpoint).2 } j) :
    Upholds scope I (Socket.callEndpoint call) J := by
  intro s ready
  rw [after_callEndpoint]
  exact ⟨⟨h _ _ ready.holds, ready.handler⟩, rfl⟩

/-- An operation that begins with a hook may be judged by what came of the hook. -/
theorem Upholds.runHook {ε : Type} {hook : Hook P.State ε α} {f : Except ε α → SocketM P β}
    (next : ∀ result after, Upholds scope
      (fun c j => ∃ c₀, I c₀ j ∧ hook.exec (c₀.protocol, c₀.endpoint) = (result, after) ∧
        c = c₀.hooked after) (f result) K) :
    Upholds scope I (Socket.runHook hook >>= f) K := by
  intro s ready
  rw [after_bind, after_runHook]
  exact next _ _ (s.hooked _) ⟨⟨_, ready.holds, rfl, rfl⟩, ready.handler⟩

theorem Upholds.closed : Closed fun m : SocketM P _ => Upholds scope I m I where
  pure := Upholds.skip
  never := Upholds.never
  bind := Upholds.bind
  get := fun next => Upholds.get fun s₀ => (next s₀).before fun _ _ h => h.1

/-- Where every request is in scope, so is every handler. -/
theorem Upholds.holds {m : SocketM P α} (h : Upholds Scope.all I m J) {s s' : Socket P} {a : α}
    (holds : I s.toConnection s.journal) (ran : m s = some (a, s')) :
    J s'.toConnection s'.journal :=
  (h s ⟨holds, fun handler _ => handler.within_all⟩ a s' ran).1.holds

/-- Raising an event, unless it is the arrival of data, leads from the assertion, with the event in
the journal, to the assertion. -/
def Emits (scope : Scope P) (I : Assertion P) (emit : Emit P) : Prop :=
  ∀ e, e ≠ .readyRead → Upholds scope (fun c j => I c (j ++ [.raised e])) (emit e) I

/-- Raising the arrival of data leads from the assertion, with the event in the journal, to the
assertion. -/
def Announces (scope : Scope P) (I : Assertion P) (emit : Emit P) : Prop :=
  Upholds scope (fun c j => I c (j ++ [.raised .readyRead])) (emit .readyRead) I

end CanStream.Socket
