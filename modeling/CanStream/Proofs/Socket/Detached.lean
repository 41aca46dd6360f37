import CanStream.Proofs.Socket.Composes
import CanStream.Proofs.Socket.Run

/-!
# What does not depend on the connection

Operations change the connection of a socket and make entries in its journal, but the queue and the
moments of dispatch they only touch by raising events. A condition that does not depend on the
connection or the handler, nor on entries that have nothing to do with dispatch, is kept by every
request if raising an event keeps it. One that depends on the handler is kept by every request that
leaves the handler where it is.
-/

namespace CanStream

variable {P : Protocol}

namespace Socket

variable {α β ε : Type} {Φ : Socket P → Prop}

namespace Keeps

theorem pure (a : α) : Keeps Φ (Pure.pure a : SocketM P α) :=
  fun _ h => (after_pure a).mpr h

theorem bind {m : SocketM P α} {f : α → SocketM P β} (first : Keeps Φ m)
    (next : ∀ a, Keeps Φ (f a)) : Keeps Φ (m >>= f) := by
  intro s h
  rw [after_bind]
  exact (first s h).mono fun a s₁ h₁ => next a s₁ h₁

theorem get {f : Socket P → SocketM P β} (next : ∀ s, Keeps Φ (f s)) :
    Keeps Φ (MonadState.get >>= f) :=
  bind (fun _ h => after_get.mpr h) next

theorem ite {c : Prop} [Decidable c] {m n : SocketM P α} (yes : Keeps Φ m) (no : Keeps Φ n) :
    Keeps Φ (if c then m else n) := by
  split
  · exact yes
  · exact no

theorem never : Keeps Φ (Socket.never : SocketM P α) := fun _ _ => after_never

theorem closed : Closed fun m : SocketM P _ => Keeps Φ m := ⟨pure, never, bind, get⟩

section

variable {emit : Emit P} (polls : ∀ read write, Keeps Φ (poll emit read write))
  (fails : ∀ error, Keeps Φ (setError emit error)) (reads : Keeps Φ (pumpRead emit))
  (writes : Keeps Φ (completeWrite emit))

include polls fails reads writes

theorem waitForReadyRead (wait : Wait) : Keeps Φ (waitForReadyRead emit wait) := by
  rw [waitForReadyRead_eq]
  exact closed.waitForReadyReadBy fails polls reads writes wait

end

end Keeps

/-- The condition does not depend on the connection or the handler, nor on entries that have nothing
to do with dispatch. -/
structure Detached (Φ : Socket P → Prop) : Prop where
  change : ∀ {s} f, Φ s → Φ (s.change f)
  log : ∀ {s} {entry : Entry P}, entry.dispatches = false → Φ s → Φ (s.log entry)
  handler : ∀ {s} h, Φ s → Φ { s with handler := h }

/-- The condition does not depend on the connection, nor on entries that have nothing to do with
dispatch. -/
structure Unmoved (Φ : Socket P → Prop) : Prop where
  change : ∀ {s} f, Φ s → Φ (s.change f)
  log : ∀ {s} {entry : Entry P}, entry.dispatches = false → Φ s → Φ (s.log entry)

namespace Unmoved

variable (d : Unmoved Φ) {emit : Emit P} (raises : ∀ e, Keeps Φ (emit e))

include d raises

theorem composes : Composes emit fun m => Keeps Φ m where
  pure := .pure
  bind := .bind
  get := .get
  update f := fun _ h => after_update.mpr (d.change f h)
  record _ other := fun _ h => after_record.mpr (d.log other h)
  runHook _ := fun _ h => after_runHook.mpr (d.change _ h)
  callEndpoint _ := fun _ h => after_callEndpoint.mpr (d.change _ h)
  raise := raises

/-- Every request keeps the condition, unless it takes the handler away. -/
theorem keeps_perform (q : Request P)
    (takes : q = .takeHandler → Keeps Φ (takeHandler : SocketM P Bool)) :
    Keeps Φ (q.perform emit) :=
  (d.composes raises).perform .never q takes

end Unmoved

/-- What every action of a run keeps, the run keeps. -/
theorem keeps_run_of_forall {actions : List (Action P)} (each : ∀ a ∈ actions, Keeps Φ a.perform) :
    Keeps Φ (run actions) := by
  induction actions with
  | nil => exact .pure ()
  | cons a rest ih =>
    exact .bind (each a (List.mem_cons_self ..)) fun _ =>
      ih fun a' member => each a' (List.mem_cons_of_mem a member)

namespace Detached

section

variable (d : Detached Φ)

include d

theorem unmoved : Unmoved Φ := ⟨d.change, d.log⟩

theorem keeps_takeHandler : Keeps Φ (takeHandler : SocketM P Bool) := by
  intro s h
  simp only [takeHandler, after_bind, after_get, after_set, after_pure]
  exact d.handler none h

theorem keeps_install (h : Handler P) : Keeps Φ (install h) :=
  fun _ holds => after_modify.mpr (d.handler (some h) holds)

/-- Every request keeps the condition. -/
theorem keeps_perform {emit : Emit P} (raises : ∀ e, Keeps Φ (emit e)) (q : Request P) :
    Keeps Φ (q.perform emit) :=
  d.unmoved.keeps_perform raises q fun _ => d.keeps_takeHandler

/-- Every run keeps the condition. -/
theorem keeps_run (raises : ∀ e, Keeps Φ (Socket.emit (P := P) e)) (actions : List (Action P)) :
    Keeps Φ (run actions) := by
  refine keeps_run_of_forall fun a _ => ?_
  cases a with
  | ask q => exact .bind (d.keeps_perform raises q) fun _ => .pure ()
  | install h => exact d.keeps_install h

end

end Detached

end Socket

end CanStream
