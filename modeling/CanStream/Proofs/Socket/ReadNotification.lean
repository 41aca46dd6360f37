import CanStream.Proofs.Socket.Buffers
import CanStream.Proofs.Socket.Turns
import CanStream.Protocol.Plain

/-!
# When the arrival of data is reported

A read that finds data reports it, unless an arrival is being reported already. That is so while a
dispatch goes on that an arrival began, whichever event the handler is answering in it: what is read
in answer to another event is then not reported. It is not so in a dispatch that another event
began, even when the handler is answering an arrival that was raised in it: what is read in answer
to that one is reported once more.
-/

namespace CanStream

variable {P : Protocol}

/-- The guard of reports is set or not, as it is to be where the handler is, and arrivals were
raised when they were due. -/
structure Watching (reporting : Bool) (place : Option P.Event → Option P.Event → Prop)
    (c : Connection P) (j : List (Entry P)) : Prop where
  guard : c.reportingRead = reporting
  place : place (turn j).answering (turn j).origin
  announced : Announced j

/-- An entry that has nothing to do with arrivals or turns. -/
structure Unwatched (entry : Entry P) : Prop where
  stays : entry.turns = false
  other : entry.arrives = false

namespace Watching

variable {reporting : Bool} {place : Option P.Event → Option P.Event → Prop}
  {c c' : Connection P} {j : List (Entry P)} {entry : Entry P}

theorem congr (h : Watching reporting place c j) (guard : c'.reportingRead = c.reportingRead) :
    Watching reporting place c' j :=
  ⟨guard.trans h.guard, h.place, h.announced⟩

theorem stay (h : Watching reporting place c j) (stays : entry.turns = false)
    (announced : Announced (j ++ [entry])) : Watching reporting place c (j ++ [entry]) := by
  obtain ⟨answering, origin⟩ := turn_append_of_not_turns (j := j) stays
  exact ⟨h.guard, by rw [answering, origin]; exact h.place, announced⟩

theorem append (h : Watching reporting place c j) (unwatched : Unwatched entry) :
    Watching reporting place c (j ++ [entry]) :=
  h.stay unwatched.stays (h.announced.append unwatched.other)

theorem resumeReading (h : Watching reporting place c j) :
    Watching reporting place c.resumeReading j := by
  obtain ⟨on, resumed⟩ := c.exists_resumeReading
  rw [resumed]
  exact h.congr rfl

end Watching

/-- While an arrival is reported, the guard is set for the time being. -/
def Announcing (reporting : Bool) (place : Option P.Event → Option P.Event → Prop) : Assertion P :=
  fun c j => reporting = false ∧ Watching true place c j

section

variable {reporting : Bool} {place : Option P.Event → Option P.Event → Prop}

theorem quietSteps_watching :
    QuietSteps Scope.all (Watching reporting place) (Watching reporting place)
      (Watching (P := P) reporting place) where
  error := fun _ h => (h.append ⟨rfl, rfl⟩).congr rfl
  sever := fun h => (h.append ⟨rfl, rfl⟩).congr rfl
  clearError := fun h => h.congr rfl
  inspected := fun h => h.append ⟨rfl, rfl⟩
  beginClose := fun h _ _ => (h.append ⟨rfl, rfl⟩).congr rfl
  goOnClosing := fun h _ => h
  discard := fun h _ => (h.append ⟨rfl, rfl⟩).congr rfl
  endClose := fun h _ => ((h.append ⟨rfl, rfl⟩).append ⟨rfl, rfl⟩).congr rfl
  prepare := fun _ _ h _ => ((h.append ⟨rfl, rfl⟩).append ⟨rfl, rfl⟩).congr rfl
  connectFailed := fun _ h _ => (h.append ⟨rfl, rfl⟩).congr rfl
  reconnected := fun _ _ h _ _ => (h.append ⟨rfl, rfl⟩).congr rfl
  connected := fun _ _ h _ _ => ((h.append ⟨rfl, rfl⟩).append ⟨rfl, rfl⟩).congr rfl
  beginReport := fun h _ _ => (h.append ⟨rfl, rfl⟩).congr rfl
  endReport := fun h _ => h.congr rfl
  skipReport := fun h _ => h.congr rfl
  idle := fun h _ => h.congr rfl
  write := fun {c _ result after} h _ _ => by
    obtain ⟨buffer, pending, started, on, settled⟩ :=
      (c.align.hooked after).exists_settleWrite result
    rw [settled]
    exact (h.append ⟨rfl, rfl⟩).congr rfl
  refuseOption := fun _ h _ => h.congr rfl
  keepOption := fun _ h _ => (h.append ⟨rfl, rfl⟩).congr rfl
  optionChanged := fun _ h => h.append ⟨rfl, rfl⟩
  setReadLimit := fun {c _} n h _ =>
    Watching.resumeReading (c := { c with readLimit := n }) (h.congr rfl)
  takeBytes := fun {c _} n _ h =>
    Watching.resumeReading (c := { c with readBuffer := (c.readBuffer.read n).2 })
      ((h.append ⟨rfl, rfl⟩).congr rfl)
  takeFrame := fun {c j header} h _ _ _ => by
    refine Watching.resumeReading (Watching.congr (c := c) ?_ rfl)
    have taken : Watching reporting place c
        (j ++ [.taken (c.readBuffer.read (Socket.frameSize header)).1]) :=
      h.append ⟨rfl, rfl⟩
    exact holds_append_frameEntry taken fun _ => taken.append ⟨rfl, rfl⟩
  queueBytes := fun {c _ data} _ h _ _ => (h.append ⟨rfl, rfl⟩).congr (c.reportingRead_enqueue data)
  queueFrame := fun {c _ f} _ h _ _ _ _ =>
    ((h.append ⟨rfl, rfl⟩).append ⟨rfl, rfl⟩).congr (c.reportingRead_enqueue f.toKernel)
  cue := fun _ h => h.congr rfl
  poll := fun _ _ h => h.congr rfl
  takeWritten := fun h => h.congr rfl

/-- Where the guard is set if and only if the handler is at work in a dispatch that an arrival
began, every read raises what is due. -/
theorem moves_watching
    (agrees : ∀ t : Turn P, place t.answering t.origin → (t.Reports ↔ reporting = true)) :
    Moves Scope.all (Watching reporting place) (Watching reporting place)
      (Watching reporting place) (Announcing reporting place) where
  toQuietSteps := quietSteps_watching
  refuseRead := fun h _ _ _ =>
    (h.append ⟨rfl, rfl⟩).congr (Connection.reportingRead_settleRead _ _ _ _)
  receive := by
    rintro c _ j window result after h - - - rfl nothing
    have read : Watching reporting place c (j ++ [c.readEntry after result]) := h.append ⟨rfl, rfl⟩
    refine Watching.congr (read.stay rfl (read.announced.receive fun grown => ?_))
      (Connection.reportingRead_settleRead _ _ _ _)
    rw [agrees _ read.place, ← h.guard]
    by_contra quiet
    exact nothing ⟨grown, Bool.eq_false_iff.mpr quiet⟩
  announce := by
    rintro c _ j window result after h - - - rfl grown quiet
    have free : reporting = false := h.guard.symm.trans quiet
    have read : Watching reporting place c (j ++ [c.readEntry after result]) := h.append ⟨rfl, rfl⟩
    have unreported : ¬(turn (j ++ [c.readEntry after result])).Reports := by
      rw [agrees _ read.place, free]
      simp
    refine ⟨free, rfl, ?_, read.announced.announce grown unreported⟩
    rw [turn_append, turn_append]
    exact read.place
  endAnnounce := fun h _ => ⟨h.1.symm, h.2.place, h.2.announced⟩

end

/-- No handler is at work. -/
def AtRest : Option P.Event → Option P.Event → Prop := fun answering _ => answering = none

/-- A handler is at work in a dispatch that an arrival began, or one that none began. -/
def AtWork (reporting : Bool) : Option P.Event → Option P.Event → Prop := fun answering origin =>
  answering.isSome = true ∧ (origin = some .readyRead ↔ reporting = true)

theorem reports_iff_of_atRest {t : Turn P} (place : AtRest t.answering t.origin) :
    t.Reports ↔ false = true := by
  have resting : t.answering = none := place
  simp [Turn.Reports, resting]

theorem reports_iff_of_atWork {reporting : Bool} {t : Turn P}
    (place : AtWork reporting t.answering t.origin) : t.Reports ↔ reporting = true := by
  rw [Turn.Reports, and_iff_right place.1]
  exact place.2

/-- Between two turns of a dispatch, and before its first one, for which the event that begins it
is at the head of the queue. -/
structure Pausing (reporting : Bool) (queue : List P.Event) (c : Connection P)
    (j : List (Entry P)) : Prop where
  rests : Watching reporting AtRest c j
  begins : (turn j).raised = true →
    ∃ e, queue.head? = some e ∧ (e = .readyRead ↔ reporting = true)
  goesOn : (turn j).raised = false → ((turn j).origin = some .readyRead ↔ reporting = true)

theorem turns_watching (reporting : Bool) :
    Turns (Watching reporting (AtWork reporting)) (Pausing (P := P) reporting) where
  delivery := fun {c j queue} label e h => by
    refine ⟨h.rests.guard, ?_, h.rests.announced.append rfl⟩
    rw [turn_append]
    refine ⟨rfl, ?_⟩
    cases raised : (turn j).raised with
    | true =>
      obtain ⟨first, isHead, agrees⟩ := h.begins raised
      obtain rfl : e = first := Option.some_inj.mp isHead
      simpa [Turn.next, raised] using agrees
    | false => simpa [Turn.next, raised] using h.goesOn raised
  returned := fun {c j} queue h => by
    refine ⟨⟨h.guard, ?_, h.announced.append rfl⟩, ?_, ?_⟩
    · rw [turn_append]
      rfl
    · rw [turn_append]
      exact fun raised => by cases raised
    · rw [turn_append]
      exact fun _ => h.place.2
  noted := fun _ h => h.append ⟨rfl, rfl⟩

/-- An event that is raised with no handler at work begins a dispatch. -/
theorem pausing_of_raised {reporting : Bool} {e : P.Event} {queue : List P.Event}
    {c : Connection P} {j : List (Entry P)} (agrees : e = .readyRead ↔ reporting = true)
    (h : Watching reporting AtRest c (j ++ [.raised e])) :
    Pausing reporting (e :: queue) c (j ++ [.raised e]) where
  rests := h
  begins := fun _ => ⟨e, rfl, agrees⟩
  goesOn := by
    rw [turn_append]
    exact fun last => by cases last

/-- After every run arrivals were raised when they were due. -/
theorem announced_of_run {protocol : P.State} {endpoint : Endpoint} {readChunk writeChunk : Nat}
    {actions : List (Action P)} {s : Socket P}
    (ran : Socket.run actions (Socket.fresh protocol endpoint readChunk writeChunk) =
      some ((), s)) : Announced s.journal := by
  have atRest : Moves Scope.all (Watching false AtRest) (Watching false AtRest)
      (Watching (P := P) false AtRest) (Announcing false AtRest) :=
    moves_watching fun _ place => reports_iff_of_atRest place
  have atWork (reporting : Bool) : Moves Scope.all (Watching reporting (AtWork reporting))
      (Watching reporting (AtWork reporting)) (Watching (P := P) reporting (AtWork reporting))
      (Announcing reporting (AtWork reporting)) :=
    moves_watching fun _ place => reports_iff_of_atWork place
  have closing {reporting : Bool} {place : Option P.Event → Option P.Event → Prop} :
      ClosingSteps (Watching reporting place) :=
    ⟨quietSteps_watching.toBasicSteps, fun h => h.congr rfl, fun h => h.congr rfl⟩
  have emits : Socket.Emits Scope.all (Watching false AtRest) (Socket.emit (P := P)) :=
    fun e other => Socket.upholds_emit (turns_watching false)
      (fun _ => (atWork false).endures_enqueue closing) e
      (fun _ => pausing_of_raised (iff_of_false other Bool.false_ne_true)) fun h => h.rests
  have announces : Socket.Announces Scope.all (Announcing false AtRest) (Socket.emit (P := P)) :=
    Socket.upholds_emit (turns_watching true) (fun _ => (atWork true).endures_enqueue closing)
      .readyRead
      (fun _ h => pausing_of_raised (iff_of_true rfl rfl) h.2) fun h => ⟨rfl, h.rests⟩
  have start : Watching false AtRest
      (Socket.fresh protocol endpoint readChunk writeChunk).toConnection [] :=
    ⟨rfl, rfl, announced_nil⟩
  exact (Socket.holds_after_run (atRest.endures closing emits emits announces)
    (fun a _ => a.within_all) start ran).1.announced

/-! ## Reads in answer to an event -/

section

variable {protocol : P.State} {endpoint : Endpoint} {readChunk writeChunk : Nat}
  {actions : List (Action P)} {s : Socket P}

/-- A read that finds data, and is not made in answer to an arrival, raises one right behind it,
unless it is made in answer to another event of a dispatch that an arrival began. There are no
other arrivals than those raised right behind a read that found data. -/
theorem head?_eq_raised_readyRead_iff
    (ran : Socket.run actions (Socket.fresh protocol endpoint readChunk writeChunk) =
      some ((), s))
    {before after : List (Entry P)} {m n : Nat}
    (moment : s.journal = before ++ .received m n :: after)
    (grown : m < n) (elsewhere : (turn before).answering ≠ some .readyRead) :
    (after.head? = some (.raised .readyRead) ↔
        ¬∃ e, e ≠ .readyRead ∧ (turn before).answering = some e ∧
          (turn before).origin = some .readyRead) ∧
      ∀ before' after', s.journal = before' ++ .raised .readyRead :: after' →
        ∃ earlier m n, before' = earlier ++ [.received m n] ∧ m < n := by
  have announced := announced_of_run ran
  refine ⟨?_, fun before' after' split => ?_⟩
  · rw [announced.head?_eq_raised_iff moment, and_iff_right grown, not_iff_not]
    constructor
    · rintro ⟨answers, origin⟩
      obtain ⟨e, answering⟩ := Option.isSome_iff_exists.mp answers
      exact ⟨e, fun same => elsewhere (by rw [answering, same]), answering, origin⟩
    · rintro ⟨e, -, answering, origin⟩
      exact ⟨by rw [answering]; rfl, origin⟩
  · obtain ⟨earlier, m, n, last, found, -⟩ := (announced.raisesDue before' _ after' split).mp rfl
    exact ⟨earlier, m, n, last, found⟩

/-- A handler that answers an arrival with a write, and the report of the write with a read. -/
def readAfterReport : Handler Plain.protocol :=
  .on none (fun e => e matches .readyRead) fun _ =>
    .call (.write [1]) fun _ => .call .flush fun _ => .call .flush fun _ =>
      .done (.on none (fun e => e matches .bytesWritten _) fun _ =>
        .call .readReady fun _ => .done (.silent none))

/-- A run in which something is read in answer to the report of a write, while a dispatch goes on
that an arrival began. -/
def missingRun : List (Action Plain.protocol) :=
  [.ask (.cue (.addInterface ⟨"vcan0", 3, 16⟩)), .ask (.connect "vcan0" .readWrite),
    .install readAfterReport, .ask (.cue (.pushRead [1])), .ask (.cue (.pushRead [2])),
    .ask .readReady]

theorem exists_missingRun :
    ∃ s, Socket.run missingRun (Socket.fresh ⟨0, 64, 64, none⟩ .blank 64 64) = some ((), s) ∧
      ((s.journal[14]?).bind Entry.received?, (turn (s.journal.take 14)).answering,
        (turn (s.journal.take 14)).origin, (s.journal[15]?).any Entry.arrives) =
        (some (1, 2), some (.bytesWritten 1), some .readyRead, false) :=
  Socket.exists_run (by decide +kernel)

theorem not_always_raised_readyRead :
    ¬∀ (P : Protocol) (protocol : P.State) (endpoint : Endpoint) (readChunk writeChunk : Nat)
      (actions : List (Action P)) (s : Socket P),
      Socket.run actions (Socket.fresh protocol endpoint readChunk writeChunk) = some ((), s) →
      ∀ before m n after, s.journal = before ++ .received m n :: after → m < n →
      (turn before).answering ≠ some .readyRead →
      after.head? = some (.raised .readyRead) := by
  intro always
  obtain ⟨s, ran, outcome⟩ := exists_missingRun
  simp only [Prod.mk.injEq] at outcome
  obtain ⟨found, answering, -, unraised⟩ := outcome
  have raised := always _ _ _ _ _ _ s ran _ 1 2 _ (eq_take_append_received found) (by decide)
    (by rw [answering]; simp)
  rw [List.head?_drop] at raised
  rw [raised] at unraised
  cases unraised

theorem head?_eq_raised_readyRead_iff_missingRun :
    ∃ s before after,
      Socket.run missingRun (Socket.fresh ⟨0, 64, 64, none⟩ .blank 64 64) = some ((), s) ∧
      s.journal = before ++ .received 1 2 :: after ∧ (1 < 2) ∧
      (turn before).answering = some (.bytesWritten 1) ∧
      (after.head? = some (.raised .readyRead) ↔
        ¬∃ e, e ≠ .readyRead ∧ (turn before).answering = some e ∧
          (turn before).origin = some .readyRead) := by
  obtain ⟨s, ran, outcome⟩ := exists_missingRun
  simp only [Prod.mk.injEq] at outcome
  obtain ⟨found, answering, -⟩ := outcome
  have moment := eq_take_append_received found
  exact ⟨s, _, _, ran, moment, by decide, answering,
    (head?_eq_raised_readyRead_iff ran moment (by decide) (by rw [answering]; simp)).1⟩

/-- A read in answer to an arrival raises another one if and only if it finds data and the dispatch
was begun by another event. In a dispatch that an arrival began, none is raised in answer to it. -/
theorem head?_eq_raised_readyRead_iff_within
    (ran : Socket.run actions (Socket.fresh protocol endpoint readChunk writeChunk) =
      some ((), s))
    {before after : List (Entry P)} {m n : Nat}
    (moment : s.journal = before ++ .received m n :: after)
    (inside : (turn before).answering = some .readyRead) :
    (after.head? = some (.raised .readyRead) ↔
        m < n ∧ (turn before).origin ≠ some .readyRead) ∧
      ∀ before' after', s.journal = before' ++ .raised .readyRead :: after' →
        (turn before').answering = some .readyRead → (turn before').origin ≠ some .readyRead := by
  have announced := announced_of_run ran
  refine ⟨?_, fun before' after' split answering origin => ?_⟩
  · rw [announced.head?_eq_raised_iff moment, Turn.Reports, inside]
    simp
  · obtain ⟨earlier, m, n, rfl, -, free⟩ := (announced.raisesDue before' _ after' split).mp rfl
    rw [turn_append] at answering origin
    exact free ⟨by rw [show (turn earlier).answering = _ from answering]; rfl, origin⟩

/-- A handler that answers the connect with a read, and the first arrival with another one. -/
def readTwice : Handler Plain.protocol :=
  .on none (fun e => e matches .stateChanged .connected) fun _ =>
    .call .readReady fun _ => .done (.on none (fun e => e matches .readyRead) fun _ =>
      .call .readReady fun _ => .done (.silent none))

/-- A run in which something is read in answer to an arrival, in a dispatch that a change of state
began. -/
def repeatingRun : List (Action Plain.protocol) :=
  [.ask (.cue (.addInterface ⟨"vcan0", 3, 16⟩)), .install readTwice,
    .ask (.cue (.pushRead [1])), .ask (.cue (.pushRead [2])), .ask (.connect "vcan0" .readWrite)]

theorem exists_repeatingRun :
    ∃ s, Socket.run repeatingRun (Socket.fresh ⟨0, 64, 64, none⟩ .blank 64 64) = some ((), s) ∧
      ((s.journal[13]?).bind Entry.received?, (turn (s.journal.take 13)).answering,
        (turn (s.journal.take 13)).origin) =
        (some (1, 2), some .readyRead, some (.stateChanged .connected)) :=
  Socket.exists_run (by decide +kernel)

theorem not_never_raised_readyRead :
    ¬∀ (P : Protocol) (protocol : P.State) (endpoint : Endpoint) (readChunk writeChunk : Nat)
      (actions : List (Action P)) (s : Socket P),
      Socket.run actions (Socket.fresh protocol endpoint readChunk writeChunk) = some ((), s) →
      ∀ before m n after, s.journal = before ++ .received m n :: after →
      (turn before).answering = some .readyRead →
      after.head? ≠ some (.raised .readyRead) := by
  intro never
  obtain ⟨s, ran, outcome⟩ := exists_repeatingRun
  simp only [Prod.mk.injEq] at outcome
  obtain ⟨found, answering, origin⟩ := outcome
  have moment := eq_take_append_received found
  refine never _ _ _ _ _ _ s ran _ 1 2 _ moment answering ?_
  rw [(announced_of_run ran).head?_eq_raised_iff moment, Turn.Reports, origin]
  simp

theorem head?_eq_raised_readyRead_iff_within_repeatingRun :
    ∃ s before after,
      Socket.run repeatingRun (Socket.fresh ⟨0, 64, 64, none⟩ .blank 64 64) = some ((), s) ∧
      s.journal = before ++ .received 1 2 :: after ∧
      (turn before).answering = some .readyRead ∧
      (after.head? = some (.raised .readyRead) ↔
        1 < 2 ∧ (turn before).origin ≠ some .readyRead) := by
  obtain ⟨s, ran, outcome⟩ := exists_repeatingRun
  simp only [Prod.mk.injEq] at outcome
  obtain ⟨found, answering, -⟩ := outcome
  have moment := eq_take_append_received found
  exact ⟨s, _, _, ran, moment, answering,
    (head?_eq_raised_readyRead_iff_within ran moment answering).1⟩

end

end CanStream
