import CanStream.Proofs.Socket.Account
import CanStream.Proofs.Socket.Detached
import CanStream.Proofs.Socket.Turns
import Mathlib.Data.List.Induction

/-!
# Events that wait

While a handler is at work the events that are raised wait, and they are handed to it in order once
it is done with the one before. A journal tells which events wait.

A socket that was closed raises no report of a write before it connects again. Those that waited
when it was closed are delivered all the same.
-/

namespace CanStream

variable {P : Protocol}

/-- Whether a handler is at work, and the events that wait for it. -/
structure Backlog (P : Protocol) where
  working : Bool
  events : List P.Event

/-- The backlog after one more entry. -/
def Backlog.next (b : Backlog P) : Entry P → Backlog P
  | .raised e => if b.working then { b with events := b.events ++ [e] } else b
  | .delivered _ _ => ⟨true, b.events.tail⟩
  | .returned => { b with working := false }
  | _ => b

def backlog (j : List (Entry P)) : Backlog P := j.foldl Backlog.next ⟨false, []⟩

/-- The events that were raised while a handler was at work and that are not delivered yet. -/
def waiting (j : List (Entry P)) : List P.Event := (backlog j).events

/-- The event that was handed to a handler. -/
def Entry.delivered? : Entry P → Option P.Event
  | delivered _ e => some e
  | _ => none

/-- The events that were handed to a handler. -/
def deliveries (j : List (Entry P)) : List P.Event := j.filterMap Entry.delivered?

/-- A handler is handed the event that waited for the longest time, or the one that was just raised
if none waits. -/
def Prompt (before : List (Entry P)) : Entry P → Prop
  | .delivered _ e =>
      match waiting before with
      | [] => before.getLast? = some (.raised e)
      | first :: _ => e = first
  | _ => True

section

variable {j : List (Entry P)} {entry : Entry P}

theorem backlog_append (j : List (Entry P)) (entry : Entry P) :
    backlog (j ++ [entry]) = (backlog j).next entry := by
  rw [backlog, List.foldl_append]
  rfl

theorem backlog_append_of_not_dispatches (other : entry.dispatches = false) :
    backlog (j ++ [entry]) = backlog j := by
  rw [backlog_append]
  cases entry with
  | raised e => cases other
  | delivered label e => cases other
  | returned => cases other
  | _ => rfl

theorem prompt_of_not_dispatches (other : entry.dispatches = false) : Prompt j entry := by
  cases entry with
  | delivered label e => cases other
  | _ => trivial

theorem deliveries_append (j more : List (Entry P)) :
    deliveries (j ++ more) = deliveries j ++ deliveries more :=
  List.filterMap_append

/-- What waited, with what joins it at an entry, is what is delivered there, with what waits then.
What joins was raised there or right before. -/
theorem exists_waiting_append_singleton (prompt : Prompt j entry) :
    ∃ joined, (∀ e ∈ joined, .raised e = entry ∨ j.getLast? = some (.raised e)) ∧
      waiting j ++ joined = deliveries [entry] ++ waiting (j ++ [entry]) := by
  have later : waiting (j ++ [entry]) = ((backlog j).next entry).events :=
    congrArg Backlog.events (backlog_append j entry)
  rw [later]
  cases entry with
  | raised e =>
    cases working : (backlog j).working with
    | false =>
      have stays : (backlog j).next (.raised e) = backlog j := by simp [Backlog.next, working]
      exact ⟨[], by simp, by rw [stays, List.append_nil]; rfl⟩
    | true =>
      have grows : ((backlog j).next (.raised e)).events = waiting j ++ [e] := by
        simp [Backlog.next, working, waiting]
      exact ⟨[e], by simp, by rw [grows]; rfl⟩
  | delivered label e =>
    have shrinks : ((backlog j).next (.delivered label e)).events = (waiting j).tail := rfl
    rw [shrinks]
    unfold Prompt at prompt
    cases waits : waiting j with
    | nil =>
      -- The event began a dispatch, so it was raised right before.
      rw [waits] at prompt
      refine ⟨[e], fun e' member => .inr ?_, rfl⟩
      rw [List.mem_singleton.mp member]
      exact prompt
    | cons first rest =>
      rw [waits] at prompt
      obtain rfl : e = first := prompt
      exact ⟨[], by simp, by rw [List.append_nil]; rfl⟩
  | _ => exact ⟨[], by simp, by rw [List.append_nil]; rfl⟩

/-- What waited, with what joined it since, is what was delivered since, with what waits now. Only
events raised since can have joined. -/
theorem exists_waiting_append {before since : List (Entry P)}
    (lawful : Lawful Prompt (before ++ since)) (settled : ∀ e, before.getLast? ≠ some (.raised e)) :
    ∃ joined, (∀ e ∈ joined, .raised e ∈ since) ∧
      waiting before ++ joined = deliveries since ++ waiting (before ++ since) := by
  induction since using List.reverseRecOn with
  | nil => exact ⟨[], by simp, by rw [List.append_nil, List.append_nil]; rfl⟩
  | append_singleton since entry ih =>
    rw [← List.append_assoc] at lawful ⊢
    obtain ⟨joined, recent, balance⟩ := ih lawful.of_append
    obtain ⟨joins, now, step⟩ :=
      exists_waiting_append_singleton (lawful (before ++ since) entry [] rfl)
    refine ⟨joined ++ joins, fun e member => ?_, ?_⟩
    · rcases List.mem_append.mp member with earlier | last
      · exact List.mem_append_left _ (recent e earlier)
      rcases now e last with rfl | raised
      · exact List.mem_append_right _ (List.mem_singleton_self _)
      · refine List.mem_append_left _ ?_
        rcases List.eq_nil_or_concat since with rfl | ⟨more, final, rfl⟩
        · rw [List.append_nil] at raised
          exact absurd raised (settled e)
        · rw [List.concat_eq_append, ← List.append_assoc, List.getLast?_concat,
            Option.some.injEq] at raised
          simp [raised]
    · calc waiting before ++ (joined ++ joins)
        _ = deliveries since ++ (waiting (before ++ since) ++ joins) := by
          rw [← List.append_assoc, balance, List.append_assoc]
        _ = deliveries (since ++ [entry]) ++ waiting (before ++ since ++ [entry]) := by
          rw [step, deliveries_append, List.append_assoc (deliveries since)]

end

/-! ## Dispatch -/

/-- A handler is at work, and the events that wait are those in the socket's queue. -/
structure InTurn (s : Socket P) : Prop where
  dispatching : s.dispatching = true
  backlog : backlog s.journal = ⟨true, s.queue⟩
  prompt : Lawful Prompt s.journal

/-- A dispatch goes on, and no handler is at work: the events that wait are those in the socket's
queue, or the dispatch has just begun with one. -/
structure BetweenTurns (s : Socket P) : Prop where
  dispatching : s.dispatching = true
  backlog : backlog s.journal = ⟨false, s.queue⟩ ∨
    ∃ e, s.queue = [e] ∧ backlog s.journal = ⟨false, []⟩ ∧ s.journal.getLast? = some (.raised e)
  prompt : Lawful Prompt s.journal

/-- No dispatch goes on, and no event waits. -/
structure Resting (s : Socket P) : Prop where
  resting : s.dispatching = false
  queue : s.queue = []
  backlog : backlog s.journal = ⟨false, []⟩
  prompt : Lawful Prompt s.journal

open Socket

theorem detached_inTurn : Detached (InTurn (P := P)) where
  change := fun _ h => ⟨h.dispatching, h.backlog, h.prompt⟩
  log := fun other h => ⟨h.dispatching, (backlog_append_of_not_dispatches other).trans h.backlog,
    h.prompt.append (prompt_of_not_dispatches other)⟩
  handler := fun _ h => ⟨h.dispatching, h.backlog, h.prompt⟩

theorem detached_resting : Detached (Resting (P := P)) where
  change := fun _ h => ⟨h.resting, h.queue, h.backlog, h.prompt⟩
  log := fun other h => ⟨h.resting, h.queue,
    (backlog_append_of_not_dispatches other).trans h.backlog,
    h.prompt.append (prompt_of_not_dispatches other)⟩
  handler := fun _ h => ⟨h.resting, h.queue, h.backlog, h.prompt⟩

theorem keeps_enqueue (e : P.Event) : Keeps InTurn (enqueue e) := by
  intro s h
  rw [after_enqueue]
  refine ⟨h.dispatching, ?_, h.prompt.append trivial⟩
  rw [log, backlog_append, h.backlog]
  rfl

theorem dispatching_inTurn : Dispatching Scope.all (InTurn (P := P)) BetweenTurns where
  deliver := by
    intro s e rest label h waits
    refine ⟨h.dispatching, ?_, h.prompt.append ?_⟩
    · rw [handOver, log, backlog_append]
      rcases h.backlog with same | ⟨first, only, cleared, -⟩
      · rw [same, waits]
        rfl
      · rw [waits] at only
        rw [cleared, (List.cons.inj only).2]
        rfl
    · rcases h.backlog with same | ⟨first, only, cleared, raised⟩
      · have waits' : waiting s.journal = e :: rest := by rw [waiting, same, waits]
        simp only [Prompt, waits']
      · have waits' : waiting s.journal = [] := by rw [waiting, cleared]
        rw [waits] at only
        simp only [Prompt, waits', (List.cons.inj only).1, raised]
  returned := by
    intro s h
    refine ⟨h.dispatching, .inl ?_, h.prompt.append trivial⟩
    rw [log, backlog_append, h.backlog]
    rfl
  noted := fun text h => detached_inTurn.log rfl h
  install := fun {_ h'} _ h => detached_inTurn.handler (some h') h
  host := fun {q} _ _ => detached_inTurn.keeps_perform keeps_enqueue q

theorem keeps_emit (e : P.Event) : Keeps Resting (emit e) := by
  intro s h
  refine after_emit.mpr ⟨fun dispatching => ?_, fun _ _ => ?_, fun _ h' _ => ?_⟩
  · rw [h.resting] at dispatching
    cases dispatching
  · refine ⟨h.resting, h.queue, ?_, h.prompt.append trivial⟩
    rw [log, backlog_append, h.backlog]
    rfl
  · have begun : BetweenTurns (s.beginDispatch e) := by
      refine ⟨rfl, .inr ⟨e, ?_, ?_, ?_⟩, h.prompt.append trivial⟩
      · rw [beginDispatch, h.queue]
      · rw [beginDispatch, log, backlog_append, h.backlog]
        rfl
      · exact List.getLast?_concat
    refine (h'.keeps_drain dispatching_inTurn h'.within_all _ begun).mono ?_
    rintro next s₁ ⟨⟨ended, empty⟩, -⟩
    refine ⟨rfl, empty, ?_, ended.prompt⟩
    rcases ended.backlog with same | ⟨e', only, -⟩
    · rw [empty] at same
      exact same
    · rw [empty] at only
      cases only

section

variable {protocol : P.State} {endpoint : Endpoint} {readChunk writeChunk : Nat}
  {actions : List (Action P)} {s : Socket P}

/-- After every run no event waits, and they were all delivered in order. -/
theorem resting_of_run
    (ran : Socket.run actions (Socket.fresh protocol endpoint readChunk writeChunk) =
      some ((), s)) : Resting s :=
  detached_resting.keeps_run keeps_emit actions _ ⟨rfl, rfl, rfl, lawful_nil⟩ () s ran

/-- A report of a write that is delivered after the socket was closed, and before it connects again,
is among the events that waited when it was closed: of these so many were delivered as events were
delivered since, in order. Once no event waits any more, all of them were. -/
theorem bytesWritten_mem_deliveries_iff
    (ran : Socket.run actions (Socket.fresh protocol endpoint readChunk writeChunk) =
      some ((), s))
    {before since after : List (Entry P)}
    (moment : s.journal = before ++ .discarded :: since ++ after)
    (closed : ∀ ifname mode, .cleared ifname mode ∉ since) (n : Nat) :
    (.bytesWritten n ∈ deliveries since ↔
        .bytesWritten n ∈ (waiting before).take (deliveries since).length) ∧
      (waiting (before ++ .discarded :: since) = [] →
        (.bytesWritten n ∈ deliveries since ↔ .bytesWritten n ∈ waiting before)) := by
  have split : before ++ .discarded :: since = before ++ [.discarded] ++ since := by simp
  have lawful : Lawful Prompt (before ++ [.discarded] ++ since) := by
    have whole := (resting_of_run ran).prompt
    rw [moment, split] at whole
    exact whole.of_append
  obtain ⟨joined, recent, balance⟩ := exists_waiting_append lawful (by simp)
  have same : waiting (before ++ [.discarded]) = waiting before := by
    rw [waiting, backlog_append]
    rfl
  have unreported : .bytesWritten n ∉ joined := fun member =>
    (accounted_of_run ran).not_mem_raised_bytesWritten moment closed n (recent _ member)
  rw [same] at balance
  have delivered : deliveries since = (waiting before).take (deliveries since).length ++
      joined.take ((deliveries since).length - (waiting before).length) := by
    rw [← List.take_append, balance, List.take_left]
  constructor
  · constructor
    · intro late
      rw [delivered] at late
      exact (List.mem_append.mp late).resolve_right fun other =>
        unreported (List.mem_of_mem_take other)
    · intro waited
      rw [delivered]
      exact List.mem_append_left _ waited
  · intro empty
    rw [split] at empty
    rw [empty, List.append_nil] at balance
    rw [← balance, List.mem_append, or_iff_left unreported]

end

/-- The moment of a close, told from its index. -/
theorem eq_take_append_discarded {j : List (Entry P)} {k : Nat}
    (found : (j[k]?).any Entry.discards = true) :
    j = j.take k ++ .discarded :: j.drop (k + 1) ++ [] := by
  obtain ⟨entry, here, discards⟩ := (Option.any_eq_true ..).mp found
  rw [List.append_nil]
  cases entry with
  | discarded => exact eq_take_append_cons here
  | _ => cases discards

theorem not_mem_cleared {j : List (Entry P)} (kept : j.any Entry.clears = false)
    (ifname : String) (mode : OpenMode) : .cleared ifname mode ∉ j := by
  intro member
  rw [List.any_eq_false] at kept
  exact kept _ member rfl

/-- A handler that answers an arrival with a write that is reported while it is at work, and closes
the socket. -/
def closeInstead : Handler Plain.protocol :=
  .on none (fun e => e matches .readyRead) fun _ =>
    .call (.write [1]) fun _ => .call .flush fun _ => .call .flush fun _ => .call .close fun _ =>
      .done (.silent none)

/-- A run in which the report of a write waits while the socket is closed. -/
def lateRun : List (Action Plain.protocol) :=
  [.ask (.cue (.addInterface ⟨"vcan0", 3, 16⟩)), .ask (.connect "vcan0" .readWrite),
    .install closeInstead, .ask (.cue (.pushRead [1])), .ask .readReady]

/-- The report is delivered after the socket was closed, and before it connects again. -/
theorem exists_lateRun :
    ∃ s, Socket.run lateRun (Socket.fresh ⟨0, 64, 64, none⟩ .blank 64 64) = some ((), s) ∧
      ((s.journal[12]?).any Entry.discards, (turn (s.journal.take 12)).answering,
        (s.journal.drop 13).any Entry.clears, deliveries (s.journal.drop 13)) =
        (true, some .readyRead, false,
          [.bytesWritten 1, .stateChanged .closing, .stateChanged .unconnected]) :=
  Socket.exists_run (by decide +kernel)

theorem not_never_mem_deliveries :
    ¬∀ (P : Protocol) (protocol : P.State) (endpoint : Endpoint) (readChunk writeChunk : Nat)
      (actions : List (Action P)) (s : Socket P),
      Socket.run actions (Socket.fresh protocol endpoint readChunk writeChunk) = some ((), s) →
      ∀ before since after, s.journal = before ++ .discarded :: since ++ after →
      (turn before).answering.isSome = true → (∀ ifname mode, .cleared ifname mode ∉ since) →
      ∀ n, .bytesWritten n ∉ deliveries since := by
  intro never
  obtain ⟨s, ran, outcome⟩ := exists_lateRun
  simp only [Prod.mk.injEq] at outcome
  obtain ⟨found, answering, kept, delivered⟩ := outcome
  refine never _ _ _ _ _ _ s ran _ _ _ (eq_take_append_discarded found)
    (by rw [answering]; rfl) (not_mem_cleared kept) 1 ?_
  rw [delivered]
  exact List.mem_cons_self ..

theorem bytesWritten_mem_deliveries_iff_lateRun :
    ∃ s before since,
      Socket.run lateRun (Socket.fresh ⟨0, 64, 64, none⟩ .blank 64 64) = some ((), s) ∧
      s.journal = before ++ .discarded :: since ++ [] ∧
      (∀ ifname mode, .cleared ifname mode ∉ since) ∧ (deliveries since).length = 3 ∧
      (.bytesWritten 1 ∈ deliveries since ↔ .bytesWritten 1 ∈ (waiting before).take 3) := by
  obtain ⟨s, ran, outcome⟩ := exists_lateRun
  simp only [Prod.mk.injEq] at outcome
  obtain ⟨found, -, kept, delivered⟩ := outcome
  have moment := eq_take_append_discarded found
  have three : (deliveries (s.journal.drop 13)).length = 3 := by rw [delivered]; rfl
  have late := (bytesWritten_mem_deliveries_iff ran moment (not_mem_cleared kept) 1).1
  rw [three] at late
  exact ⟨s, _, _, ran, moment, not_mem_cleared kept, three, late⟩

end CanStream
