import CanStream.Proofs.Socket.Account
import CanStream.Protocol.Plain

/-!
# Writes that overlap

A write is completed by reporting it, and only then the next one is started. While a report is under
way there is no other: a write that is made in answer to it is completed without one as soon as the
handler flushes again, and the next write is started while its bytes are still to be reported. That
is the only way in which two writes overlap, and it goes on until a report or a close.
-/

namespace CanStream

variable {P : Protocol}

/-- Whether bytes were taken over in the midst of a report, for those entries after which it is
told. -/
def Entry.overlaps? : Entry P → Option Bool
  | writeHook reporting _ _ _ (.ok n) => if reporting ∧ 0 < n then some true else none
  | raised (.bytesWritten _) => some false
  | discarded => some false
  | _ => none

/-- Bytes were taken over in the midst of a report, with neither a report nor a close since. -/
def Overlapped (journal : List (Entry P)) : Prop :=
  (journal.filterMap Entry.overlaps?).getLast? = some true

section

variable {j : List (Entry P)} {entry : Entry P}

theorem overlapped_append_none (silent : entry.overlaps? = none) :
    Overlapped (j ++ [entry]) ↔ Overlapped j := by
  simp [Overlapped, silent]

theorem overlapped_append_some {b : Bool} (decides : entry.overlaps? = some b) :
    Overlapped (j ++ [entry]) ↔ b = true := by
  simp [Overlapped, decides]

theorem overlapped_append_taken {reporting : Bool} {offered : List UInt8}
    {tried sent : List (List UInt8)} {n : Nat} :
    Overlapped (j ++ [.writeHook reporting offered tried sent (.ok n)]) ↔
      reporting = true ∧ 0 < n ∨ Overlapped j := by
  by_cases during : reporting = true ∧ 0 < n
  · have told : Entry.overlaps? (.writeHook (P := P) reporting offered tried sent (.ok n)) =
        some true := if_pos during
    rw [overlapped_append_some told]
    exact iff_of_true rfl (.inl during)
  · have silent : Entry.overlaps? (.writeHook (P := P) reporting offered tried sent (.ok n)) =
        none := if_neg during
    rw [overlapped_append_none silent, or_iff_right during]

end

/-- The protocol is asked to write while bytes are to be reported just if some were taken over in
the midst of a report. -/
def Overlaps (before : List (Entry P)) : Entry P → Prop
  | .writeHook _ _ _ _ _ => bytesReported before < bytesTaken before ↔ Overlapped before
  | _ => True

/-- Whether an entry has to do with writes and their reports. -/
def Entry.concernsWrites : Entry P → Bool
  | raised (.bytesWritten _) => true
  | writeHook _ _ _ _ _ => true
  | discarded => true
  | _ => false

/-- What a connection knows between operations: in the midst of a report there is nothing more to be
reported than what was taken over meanwhile. -/
structure Overlapping (c : Connection P) (j : List (Entry P)) : Prop where
  balance : bytesReported j + c.pending = bytesTaken j
  due : Overlapped j → 0 < c.pending
  reporting : c.reportingWrite = true → 0 < c.pending → Overlapped j
  lawful : Lawful Overlaps j

/-- What a connection knows when a write is completed: there is something to be reported just if it
was taken over in the midst of a report. -/
structure Concluded (c : Connection P) (j : List (Entry P)) : Prop where
  balance : bytesReported j + c.pending = bytesTaken j
  due : 0 < c.pending ↔ Overlapped j
  lawful : Lawful Overlaps j

namespace Overlapping

variable {c c' : Connection P} {j : List (Entry P)} {entry : Entry P}

/-- Only what is to be reported and whether there is a report matters. -/
theorem congr (h : Overlapping c j) (pending : c'.pending = c.pending)
    (reporting : c'.reportingWrite = c.reportingWrite) : Overlapping c' j where
  balance := by rw [pending]; exact h.balance
  due := by rw [pending]; exact h.due
  reporting := by rw [pending, reporting]; exact h.reporting
  lawful := h.lawful

theorem append (h : Overlapping c j) (other : entry.concernsWrites = false) :
    Overlapping c (j ++ [entry]) := by
  obtain ⟨keeps, unreported, untaken, silent, law⟩ :
      entry.discards = false ∧ entry.bytesReported = 0 ∧ entry.bytesTaken = 0 ∧
        entry.overlaps? = none ∧ Overlaps j entry := by
    cases entry with
    | raised e =>
      cases e with
      | bytesWritten n => cases other
      | _ => exact ⟨rfl, rfl, rfl, rfl, trivial⟩
    | writeHook _ _ _ _ _ => cases other
    | discarded => cases other
    | _ => exact ⟨rfl, rfl, rfl, rfl, trivial⟩
  refine ⟨?_, ?_, ?_, h.lawful.append law⟩
  · rw [bytesReported_append keeps, bytesTaken_append keeps, unreported, untaken]
    exact h.balance
  · rw [overlapped_append_none silent]
    exact h.due
  · rw [overlapped_append_none silent]
    exact h.reporting

theorem resumeReading (h : Overlapping c j) : Overlapping c.resumeReading j := by
  obtain ⟨on, resumed⟩ := c.exists_resumeReading
  rw [resumed]
  exact h.congr rfl rfl

theorem queue (h : Overlapping c j) (data : List UInt8) :
    Overlapping (c.enqueue data) (j ++ [.queued data]) :=
  (h.append rfl).congr (c.pending_enqueue data) (c.reportingWrite_enqueue data)

/-- A report leaves nothing to be reported. -/
theorem report (h : Overlapping c j) :
    Overlapping c.report (j ++ [.raised (.bytesWritten c.pending)]) where
  balance := by
    rw [bytesReported_append rfl, bytesTaken_append rfl]
    exact h.balance
  due := fun overlapped => by cases (overlapped_append_some rfl).mp overlapped
  reporting := fun _ positive => absurd positive (Nat.lt_irrefl 0)
  lawful := h.lawful.append trivial

/-- Neither does a close. -/
theorem discard (h : Overlapping c j) : Overlapping c.discard (j ++ [.discarded]) where
  balance := by
    rw [bytesReported, bytesTaken, sinceDiscard_append, sinceDiscard_append]
    rfl
  due := fun overlapped => by cases (overlapped_append_some rfl).mp overlapped
  reporting := fun _ positive => absurd positive (Nat.lt_irrefl 0)
  lawful := h.lawful.append trivial

/-- A write is completed by its report, unless it was made in the midst of one. -/
theorem conclude (h : Overlapping c j) (ended : c.pending = 0 ∨ c.reportingWrite = true) :
    Concluded { c with writeStarted := false } j where
  balance := h.balance
  due := by
    refine ⟨fun positive => ?_, h.due⟩
    rcases ended with zero | reporting
    · exact absurd zero (Nat.ne_of_gt positive)
    · exact h.reporting reporting positive
  lawful := h.lawful

end Overlapping

namespace Concluded

variable {c : Connection P} {j : List (Entry P)}

theorem rest (h : Concluded c j) : Overlapping { c with wantsWrite := false } j where
  balance := h.balance
  due := h.due.mpr
  reporting := fun _ => h.due.mp
  lawful := h.lawful

theorem write (h : Concluded c j) {after : P.State × Endpoint} {offered : List UInt8}
    {tried sent : List (List UInt8)} (result : Except IoError Nat) :
    Overlapping ((c.align.hooked after).settleWrite result)
      (j ++ [.writeHook c.reportingWrite offered tried sent result]) := by
  have due := h.due
  have lawful : Lawful Overlaps (j ++ [.writeHook c.reportingWrite offered tried sent result]) := by
    refine h.lawful.append ?_
    rw [Overlaps, ← due, ← h.balance]
    exact Nat.lt_add_right_iff_pos
  cases result with
  | ok n =>
    refine ⟨?_, ?_, ?_, lawful⟩
    · rw [bytesReported_append rfl, bytesTaken_append rfl, ← h.balance]
      exact (Nat.add_assoc ..).symm
    · rw [overlapped_append_taken, ← due]
      rintro (⟨-, pos⟩ | pos)
      · exact Nat.add_pos_right c.pending pos
      · exact Nat.add_pos_left pos n
    · rw [overlapped_append_taken, ← due]
      intro during positive
      rcases Nat.eq_zero_or_pos n with rfl | pos
      · exact .inr positive
      · exact .inl ⟨during, pos⟩
  | error cause =>
    have silent :
        Overlapped (j ++ [.writeHook c.reportingWrite offered tried sent (.error cause)]) ↔
          Overlapped j := overlapped_append_none rfl
    obtain ⟨buffer, on, refused⟩ := (c.align.hooked after).exists_refuseWrite cause
    rw [Connection.settleWrite, refused]
    refine ⟨?_, ?_, ?_, lawful⟩
    · rw [bytesReported_append rfl, bytesTaken_append rfl]
      exact h.balance
    · rw [silent]
      exact due.mpr
    · rw [silent]
      exact fun _ => due.mp

end Concluded

/-! ## Runs -/

theorem steps_overlapping : Steps Scope.all (Overlapping (P := P)) Concluded Overlapping where
  delivery := fun _ _ h => h.append rfl
  returned := fun _ h => h.append rfl
  noted := fun _ h => h.append rfl
  error := fun _ h => (h.append rfl).congr rfl rfl
  sever := fun h => (h.append rfl).congr rfl rfl
  clearError := fun h => h.congr rfl rfl
  inspected := fun h => h.append rfl
  beginClose := fun h _ _ => (h.append rfl).congr rfl rfl
  goOnClosing := fun h _ => h
  discard := fun h _ => h.discard
  endClose := fun h _ => (h.discard.append rfl).congr rfl rfl
  prepare := fun _ _ h _ => ((h.append rfl).append rfl).congr rfl rfl
  connectFailed := fun _ h _ => (h.append rfl).congr rfl rfl
  reconnected := fun _ _ h _ _ => (h.append rfl).congr rfl rfl
  connected := fun _ _ h _ _ => ((h.append rfl).append rfl).congr rfl rfl
  beginReport := fun h _ _ => h.report
  endReport := fun h reporting => ⟨h.balance, ⟨h.reporting reporting, h.due⟩, h.lawful⟩
  skipReport := fun h ended => h.conclude ended
  idle := fun h _ => h.rest
  write := fun h _ _ => h.write _
  refuseOption := fun _ h _ => h.congr rfl rfl
  keepOption := fun _ h _ => (h.append rfl).congr rfl rfl
  optionChanged := fun _ h => h.append rfl
  setReadLimit := fun {c _} n h _ =>
    Overlapping.resumeReading (c := { c with readLimit := n }) (h.congr rfl rfl)
  takeBytes := fun {c _} n _ h =>
    Overlapping.resumeReading (c := { c with readBuffer := (c.readBuffer.read n).2 })
      ((h.append rfl).congr rfl rfl)
  takeFrame := fun {c j header} h _ _ _ => by
    refine Overlapping.resumeReading (Overlapping.congr (c := c) ?_ rfl rfl)
    have taken : Overlapping c (j ++ [.taken (c.readBuffer.read (Socket.frameSize header)).1]) :=
      h.append rfl
    exact holds_append_frameEntry taken fun _ => taken.append rfl
  queueBytes := fun {_ _ data} _ h _ _ => h.queue data
  queueFrame := fun {_ _ f} _ h _ _ _ _ => (h.queue f.toKernel).append rfl
  cue := fun _ h => h.congr rfl rfl
  poll := fun _ _ h => h.congr rfl rfl
  takeWritten := fun h => h.congr rfl rfl
  read := fun {c _ window result after} h _ _ => by
    obtain ⟨buffer, on, settled⟩ := (c.hooked after).exists_settleRead c window result
    rw [settled]
    exact (h.append rfl).congr rfl rfl
  received := fun _ h => h.append rfl
  beginAnnounce := fun h _ => (h.append rfl).congr rfl rfl
  endAnnounce := fun h _ => h.congr rfl rfl

/-- After every run the protocol was asked to write before everything was reported just where writes
overlap. -/
theorem overlapping_of_run {protocol : P.State} {endpoint : Endpoint} {readChunk writeChunk : Nat}
    {actions : List (Action P)} {s : Socket P}
    (ran : Socket.run actions (Socket.fresh protocol endpoint readChunk writeChunk) =
      some ((), s)) : Overlapping s.toConnection s.journal := by
  have closing : ClosingSteps (Overlapping (P := P)) :=
    ⟨steps_overlapping.toBasicSteps, fun h => h.congr rfl rfl, fun h => h.congr rfl rfl⟩
  have nothing : ¬Overlapped ([] : List (Entry P)) := by simp [Overlapped]
  have start : Overlapping (Socket.fresh protocol endpoint readChunk writeChunk).toConnection [] :=
    ⟨rfl, fun overlapped => absurd overlapped nothing,
      fun _ positive => absurd positive (Nat.lt_irrefl 0), lawful_nil⟩
  exact (steps_overlapping.holds_after_run closing (fun e _ => steps_overlapping.emits closing e)
    (fun a _ => a.within_all) start ran).1

section

variable {protocol : P.State} {endpoint : Endpoint} {readChunk writeChunk : Nat}
  {actions : List (Action P)} {s : Socket P}

/-- The protocol is asked to write while bytes that it took before are still to be reported just if
some of them were taken over in the midst of a report, with neither a report nor a close since.
Whoever looks at the socket finds bytes to be reported just if not all that were taken are. -/
theorem bytesReported_lt_bytesTaken_iff_overlapped
    (ran : Socket.run actions (Socket.fresh protocol endpoint readChunk writeChunk) =
      some ((), s)) :
    (∀ before reporting offered tried sent result after,
      s.journal = before ++ .writeHook reporting offered tried sent result :: after →
      (bytesReported before < bytesTaken before ↔ Overlapped before)) ∧
      ∀ before c after,
        s.journal ++ [.inspected s.toConnection] = before ++ .inspected c :: after →
        (0 < c.pending ↔ bytesReported before < bytesTaken before) := by
  refine ⟨fun before reporting offered tried sent result after moment => ?_,
    fun before c after moment => ?_⟩
  · exact (overlapping_of_run ran).lawful before _ after moment
  · have balance : bytesReported before + c.pending = bytesTaken before :=
      (accounted_of_run ran).inspect.lawful before (.inspected c) after moment
    rw [← balance]
    exact Nat.lt_add_right_iff_pos.symm

end

/-- The bytes that the protocol was asked to write. -/
def Entry.offered? : Entry P → Option (List UInt8)
  | writeHook _ offered _ _ _ => some offered
  | _ => none

/-- The moment of a write, told from its index. -/
theorem exists_eq_take_append_writeHook {j : List (Entry P)} {k : Nat} {offered : List UInt8}
    (found : (j[k]?).bind Entry.offered? = some offered) :
    ∃ reporting tried sent result,
      j = j.take k ++ .writeHook reporting offered tried sent result :: j.drop (k + 1) := by
  obtain ⟨entry, isWrite, moment⟩ := exists_moment found
  cases entry with
  | writeHook reporting offered' tried sent result =>
    cases isWrite
    exact ⟨reporting, tried, sent, result, moment⟩
  | _ => cases isWrite

/-- A handler that answers the first report of a write with a write that is flushed, and queues
another one behind it. -/
def writeTwice : Handler Plain.protocol :=
  .on none (fun e => e matches .bytesWritten _) fun _ =>
    .call (.write [2]) fun _ => .call .flush fun _ => .call (.write [3]) fun _ =>
      .done (.silent none)

/-- A run in which a write is answered with two more. -/
def overlappingRun : List (Action Plain.protocol) :=
  [.ask (.cue (.addInterface ⟨"vcan0", 3, 16⟩)), .ask (.connect "vcan0" .readWrite),
    .install writeTwice, .ask (.write [1]), .ask .flush, .ask .writeReady]

/-- The third byte is offered when two bytes were taken, of which one is reported. -/
theorem exists_overlappingRun :
    ∃ s, Socket.run overlappingRun (Socket.fresh ⟨0, 64, 64, none⟩ .blank 64 64) = some ((), s) ∧
      ((s.journal[12]?).bind Entry.offered?, bytesReported (s.journal.take 12),
        bytesTaken (s.journal.take 12)) = (some [3], 1, 2) :=
  Socket.exists_run (by decide +kernel)

theorem not_always_reported_before_write :
    ¬∀ (P : Protocol) (protocol : P.State) (endpoint : Endpoint) (readChunk writeChunk : Nat)
      (actions : List (Action P)) (s : Socket P),
      Socket.run actions (Socket.fresh protocol endpoint readChunk writeChunk) = some ((), s) →
      ∀ before reporting offered tried sent result after,
        s.journal = before ++ .writeHook reporting offered tried sent result :: after →
        ¬bytesReported before < bytesTaken before := by
  intro always
  obtain ⟨s, ran, outcome⟩ := exists_overlappingRun
  simp only [Prod.mk.injEq] at outcome
  obtain ⟨found, reported, taken⟩ := outcome
  obtain ⟨_, _, _, _, moment⟩ := exists_eq_take_append_writeHook found
  have apart := always _ _ _ _ _ _ s ran _ _ _ _ _ _ _ moment
  rw [reported, taken] at apart
  exact apart (by decide)

/-- The second byte was taken over in the midst of the report of the first one. -/
theorem overlapped_overlappingRun :
    ∃ s, Socket.run overlappingRun (Socket.fresh ⟨0, 64, 64, none⟩ .blank 64 64) = some ((), s) ∧
      Overlapped (s.journal.take 12) := by
  obtain ⟨s, ran, outcome⟩ := exists_overlappingRun
  simp only [Prod.mk.injEq] at outcome
  obtain ⟨found, reported, taken⟩ := outcome
  obtain ⟨_, _, _, _, moment⟩ := exists_eq_take_append_writeHook found
  refine ⟨s, ran, ?_⟩
  rw [← (bytesReported_lt_bytesTaken_iff_overlapped ran).1 _ _ _ _ _ _ _ moment, reported, taken]
  decide

end CanStream
