import CanStream.Proofs.Socket.After
import CanStream.Proofs.Socket.Outline

/-!
# What dispatch keeps

A dispatch goes back and forth between the handler that is at work and the moments between two
events. What is so at work and is kept by every request that a handler makes, and what is so between
events, follow one another until no event is left.
-/

namespace CanStream

variable {P : Protocol} {scope : Scope P}

namespace Socket

variable {α : Type}

/-- The operation keeps a condition on sockets. -/
def Keeps (Φ : Socket P → Prop) (m : SocketM P α) : Prop :=
  ∀ s, Φ s → After m s fun _ s' => Φ s'

/-- The socket with an event handed to the handler, and others still waiting. -/
def handOver (s : Socket P) (label : Option String) (e : P.Event) (rest : List P.Event) :
    Socket P :=
  { s.log (.delivered label e) with queue := rest }

/-- The socket at the beginning of a dispatch. -/
def beginDispatch (s : Socket P) (e : P.Event) : Socket P :=
  { s.log (.raised e) with handler := none, dispatching := true, queue := e :: s.queue }

/-- The socket at the end of a dispatch. It gets its handler back, unless another was installed. -/
def endDispatch (s : Socket P) (next : Handler P) : Socket P :=
  { s with dispatching := false, handler := some (s.handler.getD next) }

/-- An event that is raised within a handler waits, and without any handler nobody learns of it. -/
theorem after_emit {e : P.Event} {s : Socket P} {Q : Unit → Socket P → Prop} :
    After (emit e) s Q ↔
      (s.dispatching = true → Q () { s.log (.raised e) with queue := s.queue ++ [e] }) ∧
      (s.dispatching = false → s.handler = none → Q () (s.log (.raised e))) ∧
      (s.dispatching = false → ∀ h, s.handler = some h →
        After h.drain (s.beginDispatch e) fun next s' => Q () (s'.endDispatch next)) := by
  simp only [emit, after_bind, after_get, after_ite, after_enqueue, Bool.not_eq_true]
  refine and_congr_right fun _ => ?_
  cases s.handler with
  | none => simp only [after_record, forall_const, reduceCtorEq, false_implies, implies_true,
      and_true]
  | some h =>
    simp only [after_bind, after_set, after_modify, reduceCtorEq, false_implies, implies_true,
      true_and, Option.some.injEq, forall_eq']
    rfl

section

variable {h : Handler P} {s : Socket P}

theorem nextHeard_of_nil (isEmpty : s.queue = []) : nextHeard h s = some (none, s) := by
  unfold nextHeard
  rw [isEmpty]
  simp only [List.takeWhile_nil, List.dropWhile_nil, List.flatMap_nil, List.take_nil, List.map_nil,
    List.append_nil, List.head?_nil, List.drop_nil]
  rw [← isEmpty]

theorem nextHeard_of_hears {e : P.Event} {rest : List P.Event} (waits : s.queue = e :: rest)
    (hears : h.hears e = true) :
    nextHeard h s = some (some e, s.handOver h.label e rest) := by
  unfold nextHeard
  rw [waits]
  simp [hears, handOver, log]

theorem nextHeard_of_not_hears {e : P.Event} {rest : List P.Event} (waits : s.queue = e :: rest)
    (hears : h.hears e = false) :
    nextHeard h s = nextHeard h ((s.handOver h.label e rest).log .returned) := by
  unfold nextHeard
  rw [waits]
  simp [hears, handOver, log]

end

end Socket

open Socket

/-- What is so while a handler is at work, and what is so between two events of a dispatch. -/
structure Dispatching (scope : Scope P) (working pausing : Socket P → Prop) : Prop where
  deliver : ∀ {s : Socket P} {e rest} label, pausing s → s.queue = e :: rest →
    working (s.handOver label e rest)
  returned : ∀ {s : Socket P}, working s → pausing (s.log .returned)
  noted : ∀ {s : Socket P} text, working s → working (s.log (.noted text))
  install : ∀ {s : Socket P} {h}, h.Within scope → working s →
    working { s with handler := some h }
  host : ∀ {q : Request P}, scope.handlersAsk → q.Within scope → Keeps working (q.perform enqueue)

section

variable {working pausing : Socket P → Prop}

/-- The events that wait are handed to the handler, up to the first that it hears, if any. -/
theorem Dispatching.nextHeard (d : Dispatching scope working pausing) (h : Handler P)
    {s : Socket P} (pauses : pausing s) :
    After (nextHeard h) s fun heard s' =>
      match heard with
      | none => pausing s' ∧ s'.queue = []
      | some e => h.hears e = true ∧ working s' := by
  generalize waits : s.queue = queue
  induction queue generalizing s with
  | nil => exact (after_of_eq (nextHeard_of_nil waits)).mpr ⟨pauses, waits⟩
  | cons e rest ih =>
    have works := d.deliver h.label pauses waits
    cases hears : h.hears e with
    | true => exact (after_of_eq (nextHeard_of_hears waits hears)).mpr ⟨hears, works⟩
    | false =>
      have later := ih (d.returned works) rfl
      unfold After at later ⊢
      rw [nextHeard_of_not_hears waits hears]
      exact later

mutual

theorem Handler.keeps_drain (d : Dispatching scope working pausing) :
    (h : Handler P) → h.Within scope → ∀ s, pausing s →
    After h.drain s fun next s' => (pausing s' ∧ s'.queue = []) ∧ next.Within scope
  | .silent label, inScope, s, pauses => by
      rw [Handler.drain, after_bind]
      refine (d.nextHeard _ pauses).mono fun heard s₁ kept => ?_
      rw [after_pure]
      cases heard with
      | none => exact ⟨kept, inScope⟩
      | some e => cases kept.1
  | .on label hears react, inScope, s, pauses => by
      rw [Handler.drain, after_bind]
      refine (d.nextHeard _ pauses).mono fun heard s₁ kept => ?_
      cases heard with
      | none =>
        rw [after_pure]
        exact ⟨kept, inScope⟩
      | some e => exact (react e).keeps_run d (inScope e) s₁ kept.2

theorem Script.keeps_run (d : Dispatching scope working pausing) :
    (t : Script P) → t.Within scope → ∀ s, working s →
    After t.run s fun next s' => (pausing s' ∧ s'.queue = []) ∧ next.Within scope
  | .done next, inScope, s, works => by
      rw [Script.run, after_bind, after_record]
      exact next.keeps_drain d inScope _ (d.returned works)
  | .note text rest, inScope, s, works => by
      rw [Script.run, after_bind, after_record]
      exact rest.keeps_run d inScope _ (d.noted text works)
  | .install h rest, inScope, s, works => by
      rw [Script.run, after_bind, Socket.install, after_modify]
      exact rest.keeps_run d inScope.2 _ (d.install inScope.1 works)
  | .call q next, inScope, s, works => by
      rw [Script.run, after_bind]
      refine (d.host inScope.1 inScope.2.1 s works).mono fun answer s₁ still => ?_
      exact (next answer).keeps_run d (inScope.2.2 answer) s₁ still

end

end

end CanStream
