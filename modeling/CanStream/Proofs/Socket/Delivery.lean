import CanStream.Proofs.Socket.Backlog

/-!
# Delivery in order

A handler that stays with its socket is handed every event that is raised, once and in the order in
which they were raised, whatever it asks for while it is at work. It is not handed an event before
it is done with the one before, and none is left when the operation returns that raised the first.
-/

namespace CanStream

variable {P : Protocol}

/-- The event that was raised. -/
def Entry.raised? : Entry P → Option P.Event
  | raised e => some e
  | _ => none

/-- The events that were raised. -/
def raisings (j : List (Entry P)) : List P.Event := j.filterMap Entry.raised?

/-- A handler is handed the event that was raised next after those it was handed before, while it is
not at work. It is done with an event only while it is at work on one. -/
def Orderly (before : List (Entry P)) : Entry P → Prop
  | .delivered _ e =>
      (raisings before)[(deliveries before).length]? = some e ∧ (turn before).answering = none
  | .returned => (turn before).answering.isSome = true
  | _ => True

/-- Events were delivered in order, those in the queue are still to be delivered, and a handler is
at work or not. -/
structure Ordered (journal : List (Entry P)) (queue : List P.Event) (working : Bool) : Prop where
  lawful : Lawful Orderly journal
  balance : deliveries journal ++ queue = raisings journal
  turn : (turn journal).answering.isSome = working

theorem raisings_append (j more : List (Entry P)) :
    raisings (j ++ more) = raisings j ++ raisings more :=
  List.filterMap_append

theorem ordered_nil : Ordered ([] : List (Entry P)) [] false where
  lawful := lawful_nil
  balance := rfl
  turn := rfl

namespace Ordered

variable {j : List (Entry P)} {entry : Entry P} {queue left : List P.Event} {working : Bool}

/-- What is delivered at an entry leaves the queue, and what is raised there joins it. -/
theorem balance_append (h : Ordered j queue working)
    (moves : deliveries [entry] ++ left = queue ++ raisings [entry]) :
    deliveries (j ++ [entry]) ++ left = raisings (j ++ [entry]) := by
  rw [deliveries_append, raisings_append, List.append_assoc, moves, ← List.append_assoc, h.balance]

/-- An entry that has nothing to do with dispatch. -/
theorem append (h : Ordered j queue working) (other : entry.dispatches = false) :
    Ordered (j ++ [entry]) queue working := by
  have nothing : Orderly j entry ∧ deliveries [entry] = [] ∧ raisings [entry] = [] ∧
      entry.turns = false := by
    cases entry with
    | raised e => cases other
    | delivered label e => cases other
    | returned => cases other
    | _ => exact ⟨trivial, rfl, rfl, rfl⟩
  obtain ⟨lawful, undelivered, unraised, stays⟩ := nothing
  refine ⟨h.lawful.append lawful, h.balance_append ?_, ?_⟩
  · rw [undelivered, unraised, List.nil_append, List.append_nil]
  · rw [(turn_append_of_not_turns stays).1]
    exact h.turn

/-- An event is raised and joins the queue. -/
theorem raise (h : Ordered j queue working) (e : P.Event) :
    Ordered (j ++ [.raised e]) (queue ++ [e]) working where
  lawful := h.lawful.append trivial
  balance := h.balance_append rfl
  turn := by
    rw [(turn_append_of_not_turns rfl).1]
    exact h.turn

/-- The event at the head of the queue is handed to a handler that was not at work. -/
theorem deliver {e : P.Event} (h : Ordered j (e :: queue) false) (label : Option String) :
    Ordered (j ++ [.delivered label e]) queue true where
  lawful := by
    refine h.lawful.append ⟨?_, Option.not_isSome_iff_eq_none.mp (by rw [h.turn]; decide)⟩
    rw [← h.balance, List.getElem?_append_right (Nat.le_refl _), Nat.sub_self]
    rfl
  balance := h.balance_append (List.append_nil _).symm
  turn := by
    rw [turn_append]
    rfl

/-- A handler that was at work is done. -/
theorem done (h : Ordered j queue true) : Ordered (j ++ [.returned]) queue false where
  lawful := h.lawful.append h.turn
  balance := h.balance_append (List.append_nil _).symm
  turn := by
    rw [turn_append]
    rfl

end Ordered

/-! ## Dispatch -/

/-- Since the journal was as it is given, events were delivered in order, and those in the socket's
queue are still to be delivered. -/
def OrderedSince (start : List (Entry P)) (working : Bool) (s : Socket P) : Prop :=
  ∃ since, s.journal = start ++ since ∧ Ordered since s.queue working

/-- A dispatch goes on. -/
structure Delivering (start : List (Entry P)) (working : Bool) (s : Socket P) : Prop where
  dispatching : s.dispatching = true
  order : OrderedSince start working s

/-- No dispatch goes on, no event waits, and there is a handler. -/
structure Delivered (start : List (Entry P)) (s : Socket P) : Prop where
  resting : s.dispatching = false
  queue : s.queue = []
  handler : s.handler.isSome = true
  order : OrderedSince start false s

open Socket

variable {start : List (Entry P)}

section

variable {s s' : Socket P} {entry : Entry P} {working working' : Bool}

/-- One more entry, with the queue that goes with it. -/
theorem OrderedSince.append (h : OrderedSince start working s)
    (grown : s'.journal = s.journal ++ [entry])
    (next : ∀ {since}, Ordered since s.queue working →
      Ordered (since ++ [entry]) s'.queue working') :
    OrderedSince start working' s' := by
  obtain ⟨since, journal, ordered⟩ := h
  refine ⟨since ++ [entry], ?_, next ordered⟩
  rw [grown, journal, List.append_assoc]

end

theorem detached_delivering {working : Bool} : Detached (Delivering (P := P) start working) where
  change := fun _ h => ⟨h.dispatching, h.order⟩
  log := fun other h => ⟨h.dispatching, h.order.append rfl fun ordered => ordered.append other⟩
  handler := fun _ h => ⟨h.dispatching, h.order⟩

theorem unmoved_delivered : Unmoved (Delivered (P := P) start) where
  change := fun _ h => ⟨h.resting, h.queue, h.handler, h.order⟩
  log := fun other h => ⟨h.resting, h.queue, h.handler,
    h.order.append rfl fun ordered => ordered.append other⟩

/-- An event that is raised while a handler is at work joins the queue. -/
theorem keeps_enqueue_delivering (e : P.Event) : Keeps (Delivering start true) (enqueue e) := by
  intro s h
  rw [after_enqueue]
  exact ⟨h.dispatching, h.order.append rfl fun ordered => ordered.raise e⟩

theorem dispatching_delivering :
    Dispatching Scope.all (Delivering (P := P) start true) (Delivering start false) where
  deliver := by
    intro s e rest label h waits
    refine ⟨h.dispatching, h.order.append rfl fun ordered => ?_⟩
    rw [waits] at ordered
    exact ordered.deliver label
  returned := fun h => ⟨h.dispatching, h.order.append rfl Ordered.done⟩
  noted := fun _ h => detached_delivering.log rfl h
  install := fun {_ h'} _ h => detached_delivering.handler (some h') h
  host := fun {q} _ _ => detached_delivering.keeps_perform keeps_enqueue_delivering q

/-- An event that is raised outside of a handler is delivered with all that are raised meanwhile. -/
theorem keeps_emit_delivered (e : P.Event) : Keeps (Delivered start) (Socket.emit e) := by
  intro s h
  refine after_emit.mpr ⟨fun dispatching => ?_, fun _ absent => ?_, fun _ h' _ => ?_⟩
  · rw [h.resting] at dispatching
    cases dispatching
  · have present := h.handler
    rw [absent] at present
    cases present
  · have begun : Delivering start false (s.beginDispatch e) := by
      refine ⟨rfl, h.order.append rfl fun ordered => ?_⟩
      rw [beginDispatch]
      rw [h.queue] at ordered ⊢
      exact ordered.raise e
    refine (h'.keeps_drain dispatching_delivering h'.within_all _ begun).mono ?_
    rintro next s₁ ⟨⟨ended, empty⟩, -⟩
    exact ⟨rfl, empty, rfl, ended.order⟩

/-- What an action asks for leaves a handler where it is, unless it takes it away. -/
theorem keeps_perform_delivered {a : Action P} (stays : a ≠ .ask .takeHandler) :
    Keeps (Delivered start) a.perform := by
  cases a with
  | ask q =>
    refine .bind (unmoved_delivered.keeps_perform keeps_emit_delivered q fun takes => ?_)
      fun _ => .pure ()
    exact absurd (congrArg Action.ask takes) stays
  | install h =>
    exact fun s delivered =>
      after_modify.mpr ⟨delivered.resting, delivered.queue, rfl, delivered.order⟩

/-- Once a socket has a handler that is not taken away, the events that are delivered are those that
are raised, in that order, each when the handler is done with the one before. Whenever an operation
returns, none is left to be delivered. -/
theorem deliveries_eq_raisings {protocol : P.State} {endpoint : Endpoint}
    {readChunk writeChunk : Nat} {setup actions : List (Action P)} {h : Handler P}
    {s₀ s : Socket P}
    (began : Socket.run setup (Socket.fresh protocol endpoint readChunk writeChunk) =
      some ((), s₀))
    (ran : Socket.run (.install h :: actions) s₀ = some ((), s))
    (stays : .ask .takeHandler ∉ actions) :
    ∃ since, s.journal = s₀.journal ++ since ∧ deliveries since = raisings since ∧
      Lawful Orderly since ∧ (turn since).answering = none ∧
      s.queue = [] ∧ s.dispatching = false := by
  obtain ⟨⟨⟩, s₁, installed, goes⟩ := bind_eq_some.mp ran
  cases installed
  have rested := resting_of_run began
  have delivered : Delivered s₀.journal { s₀ with handler := some h } := by
    refine ⟨rested.resting, rested.queue, rfl, [], (List.append_nil _).symm, ?_⟩
    rw [rested.queue]
    exact ordered_nil
  have keeps : Keeps (Delivered s₀.journal) (Socket.run actions) :=
    keeps_run_of_forall fun a member => keeps_perform_delivered fun same => stays (same ▸ member)
  obtain ⟨resting, queue, -, since, journal, ordered⟩ := keeps _ delivered () s goes
  have balance := ordered.balance
  rw [queue, List.append_nil] at balance
  exact ⟨since, journal, balance, ordered.lawful,
    Option.not_isSome_iff_eq_none.mp (by rw [ordered.turn]; decide), queue, resting⟩

/-- What a socket with a handler that writes and closes is asked for, until data arrives. -/
def arrival : List (Action Plain.protocol) :=
  [.ask (.cue (.addInterface ⟨"vcan0", 3, 16⟩)), .ask (.connect "vcan0" .readWrite),
    .ask (.cue (.pushRead [1])), .ask .readReady]

theorem exists_arrival :
    ∃ s, Socket.run (.install closeInstead :: arrival)
        (Socket.fresh ⟨0, 64, 64, none⟩ .blank 64 64) = some ((), s) ∧
      deliveries s.journal =
        [.stateChanged .connecting, .stateChanged .connected, .readyRead, .bytesWritten 1,
          .stateChanged .closing, .stateChanged .unconnected] :=
  Socket.exists_run (by decide +kernel)

/-- What is raised while the handler answers the arrival of data is delivered after it. -/
theorem deliveries_eq_raisings_arrival :
    ∃ s, Socket.run (.install closeInstead :: arrival)
        (Socket.fresh ⟨0, 64, 64, none⟩ .blank 64 64) = some ((), s) ∧
      raisings s.journal =
        [.stateChanged .connecting, .stateChanged .connected, .readyRead, .bytesWritten 1,
          .stateChanged .closing, .stateChanged .unconnected] ∧
      Lawful Orderly s.journal ∧ s.queue = [] ∧ s.dispatching = false := by
  obtain ⟨s, ran, delivered⟩ := exists_arrival
  let new : Socket Plain.protocol := Socket.fresh ⟨0, 64, 64, none⟩ .blank 64 64
  have began : Socket.run [] new = some ((), new) := rfl
  have stays : Action.ask .takeHandler ∉ arrival := by simp [arrival]
  obtain ⟨since, journal, same, lawful, -, queue, resting⟩ :=
    deliveries_eq_raisings began ran stays
  obtain rfl : s.journal = since := journal
  exact ⟨s, ran, same ▸ delivered, lawful, queue, resting⟩

end CanStream
