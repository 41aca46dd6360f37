import CanStream.Proofs.ByteQueue.Contents
import CanStream.Proofs.Socket.Run
import CanStream.Protocol.Plain

/-!
# When a socket waits to write

A connected socket has something left to do for its writes while bytes wait in the write buffer, or
bytes that the descriptor took are not reported yet. For the one it always waits to become writable.
For the other it does not when the bytes were taken over while an earlier report was under way, or
when all that was queued behind them was given up: then they are left `Stranded` until the next
write.
-/

namespace CanStream

variable {P : Protocol}

/-- Whether an entry leaves bytes without notice, for those entries that decide it. -/
def Entry.strands : Entry P → Option Bool
  | .writeHook reporting _ _ _ (.ok n) => some (reporting && decide (0 < n))
  | .writeHook _ _ _ _ (.error cause) => some (decide (cause.kind = .invalidData))
  | .queued data => if data.isEmpty then none else some false
  | _ => none

/-- The last thing done about a write was to take it over during a report, or to give it up. -/
def Stranded (journal : List (Entry P)) : Prop :=
  (journal.filterMap Entry.strands).getLast? = some true

section

variable {j : List (Entry P)}

theorem stranded_append_none {entry : Entry P} (silent : entry.strands = none) :
    Stranded (j ++ [entry]) ↔ Stranded j := by
  simp [Stranded, silent]

theorem stranded_append_some {entry : Entry P} {b : Bool} (decides : entry.strands = some b) :
    Stranded (j ++ [entry]) ↔ b = true := by
  simp [Stranded, decides]

end

/-- What a connection knows of its writes between operations: it waits for the descriptor as long as
bytes wait in the buffer, and it only fails to when it has nothing to report but stranded bytes. -/
structure Notified (c : Connection P) (j : List (Entry P)) : Prop where
  settled : c.state ≠ .closing
  idle : c.state ≠ .connected → c.writeBuffer.isEmpty = true ∧ c.pending = 0
  waits : c.state = .connected → c.writeBuffer.isEmpty = false → c.wantsWrite = true
  pending : c.reportingWrite = false → c.writeBuffer.isEmpty = true → 0 < c.pending →
    (c.wantsWrite = false ↔ Stranded j)
  reporting : c.reportingWrite = true → c.writeBuffer.isEmpty = true → 0 < c.pending →
    Stranded j

/-- What a connection knows of its writes after a report: if it has nothing to write, what is not
reported is stranded. -/
structure Reported (c : Connection P) (j : List (Entry P)) : Prop where
  settled : c.state ≠ .closing
  idle : c.state ≠ .connected → c.writeBuffer.isEmpty = true ∧ c.pending = 0
  waits : c.state = .connected → c.writeBuffer.isEmpty = false → c.wantsWrite = true
  pending : c.writeBuffer.isEmpty = true → 0 < c.pending → Stranded j

namespace Notified

variable {c c' : Connection P} {j j' : List (Entry P)}

/-- Only the fields that have to do with writes matter. -/
theorem congr (h : Notified c j) (state : c'.state = c.state)
    (buffer : c'.writeBuffer = c.writeBuffer) (pending : c'.pending = c.pending)
    (reporting : c'.reportingWrite = c.reportingWrite) (wants : c'.wantsWrite = c.wantsWrite)
    (journal : Stranded j' ↔ Stranded j) : Notified c' j' where
  settled := by rw [state]; exact h.settled
  idle := by rw [state, buffer, pending]; exact h.idle
  waits := by rw [state, buffer, wants]; exact h.waits
  pending := by rw [reporting, buffer, pending, wants, journal]; exact h.pending
  reporting := by rw [reporting, buffer, pending, journal]; exact h.reporting

/-- An entry that does not decide changes nothing. -/
theorem append {entry : Entry P} (h : Notified c j) (silent : entry.strands = none) :
    Notified c (j ++ [entry]) :=
  h.congr rfl rfl rfl rfl rfl (stranded_append_none silent)

theorem resumeReading (h : Notified c j) : Notified c.resumeReading j := by
  obtain ⟨on, resumed⟩ := c.exists_resumeReading
  rw [resumed]
  exact h.congr rfl rfl rfl rfl rfl Iff.rfl

/-- A connection with nothing to write and nothing to report is as it should be, unless it is being
closed. -/
theorem of_idle (settled : c.state ≠ .closing) (isEmpty : c.writeBuffer.isEmpty = true)
    (zero : c.pending = 0) : Notified c j where
  settled := settled
  idle := fun _ => ⟨isEmpty, zero⟩
  waits := fun _ nonempty => by rw [isEmpty] at nonempty; cases nonempty
  pending := fun _ _ positive => by omega
  reporting := fun _ _ positive => by omega

theorem queue {data : List UInt8} (h : Notified c j) (connected : c.state = .connected) :
    Notified (c.enqueue data) (j ++ [.queued data]) := by
  by_cases isEmpty : data = []
  · subst isEmpty
    have noted : Notified c (j ++ [.queued []]) := h.append rfl
    refine noted.congr rfl rfl rfl rfl ?_ Iff.rfl
    -- Nothing was queued: the flag could only be set for bytes that waited before.
    cases waiting : c.writeBuffer.isEmpty with
    | true => simp [c.enqueue_empty, waiting]
    | false => simp [c.enqueue_empty, h.waits connected waiting]
  · rw [c.enqueue_of_ne_nil isEmpty]
    have nonempty := c.writeBuffer.isEmpty_append isEmpty
    refine ⟨h.settled, ?_, ?_, ?_, ?_⟩
    · exact fun other => absurd connected other
    · exact fun _ _ => by simp [nonempty]
    · exact fun _ isEmpty => by simp [nonempty] at isEmpty
    · exact fun _ isEmpty => by simp [nonempty] at isEmpty

theorem report {entry : Entry P} (h : Notified c j) : Notified c.report (j ++ [entry]) where
  settled := h.settled
  idle := fun other => ⟨(h.idle other).1, rfl⟩
  waits := h.waits
  pending := fun quiet => by cases quiet
  reporting := fun _ _ positive => absurd positive (Nat.lt_irrefl 0)

/-- After a report what is not reported is stranded, if it was taken over meanwhile and nothing
waits behind it. -/
theorem reported (h : Notified c j) (ended : c.pending = 0 ∨ c.reportingWrite = true) :
    Reported { c with writeStarted := false } j where
  settled := h.settled
  idle := h.idle
  waits := h.waits
  pending := fun isEmpty positive => by
    rcases ended with zero | reporting
    · have : c.pending = 0 := zero
      simp only [this] at positive
      omega
    · exact h.reporting reporting isEmpty positive

end Notified

namespace Reported

variable {c : Connection P} {j : List (Entry P)}

theorem rest (h : Reported c j) (isEmpty : c.writeBuffer.isEmpty = true) :
    Notified { c with wantsWrite := false } j where
  settled := h.settled
  idle := h.idle
  waits := fun _ nonempty => by simp [isEmpty] at nonempty
  pending := fun _ _ positive => by simp [h.pending isEmpty positive]
  reporting := fun _ _ positive => h.pending isEmpty positive

theorem write (h : Reported c j) (nonempty : c.writeBuffer.isEmpty = false)
    {after : P.State × Endpoint} {offered : List UInt8} {tried sent : List (List UInt8)}
    (result : Except IoError Nat) :
    Notified ((c.align.hooked after).settleWrite result)
      (j ++ [.writeHook c.reportingWrite offered tried sent result]) := by
  have connected : c.state = .connected := by
    by_contra other
    simp [(h.idle other).1] at nonempty
  have aligned : c.align.writeBuffer.isEmpty = false := by
    rw [← Bool.not_eq_true, ByteQueue.isEmpty_iff] at nonempty ⊢
    simpa [Connection.align] using nonempty
  cases result with
  | ok n =>
    have decides : Stranded (j ++ [.writeHook c.reportingWrite offered tried sent (.ok n)]) ↔
        (c.reportingWrite && decide (0 < n)) = true :=
      stranded_append_some rfl
    refine ⟨h.settled, fun other => absurd connected other, fun _ _ => rfl, ?_, ?_⟩
    · intro quiet _ _
      rw [decides, show c.reportingWrite = false from quiet]
      simp [Connection.settleWrite, Connection.takeOver]
    · intro reporting isEmpty _
      rw [decides, show c.reportingWrite = true from reporting, Bool.true_and, decide_eq_true_iff]
      -- A write of nothing leaves the buffer as it was, with bytes in it.
      by_contra nonpositive
      have same : c.align.writeBuffer.size - n = 0 := by
        simpa [Connection.settleWrite, Connection.takeOver, Connection.hooked,
          ByteQueue.isEmpty_iff] using isEmpty
      rw [← Bool.not_eq_true, ByteQueue.isEmpty_iff] at aligned
      omega
  | error cause =>
    have decides : Stranded (j ++ [.writeHook c.reportingWrite offered tried sent (.error cause)]) ↔
        decide (cause.kind = .invalidData) = true :=
      stranded_append_some rfl
    rw [decide_eq_true_iff] at decides
    by_cases invalid : cause.kind = .invalidData
    · rw [Connection.settleWrite, Connection.refuseWrite_of_invalid _ invalid]
      refine ⟨h.settled, fun other => absurd connected other, ?_, ?_, ?_⟩
      · exact fun _ nonempty => by simp [ByteQueue.isEmpty] at nonempty
      · exact fun _ _ _ => ⟨fun _ => decides.mpr invalid, fun _ => rfl⟩
      · exact fun _ _ _ => decides.mpr invalid
    · rw [Connection.settleWrite, Connection.refuseWrite_of_valid _ invalid]
      refine ⟨h.settled, fun other => absurd connected other, ?_, ?_, ?_⟩
      · exact fun _ _ => h.waits connected nonempty
      · exact fun _ isEmpty => by simp [Connection.hooked, aligned] at isEmpty
      · exact fun _ isEmpty => by simp [Connection.hooked, aligned] at isEmpty

end Reported

/-! ## Runs -/

/-- Nothing needs to be known of a socket that is being closed: its buffers are given up in the end.
-/
def notification : Outline P where
  inv := Notified
  between := Reported
  closing := fun _ _ => True

theorem steps_notification :
    Steps Scope.all (Notified (P := P)) Reported fun _ _ => True where
  delivery := fun _ _ h => h.append rfl
  returned := fun _ h => h.append rfl
  noted := fun _ h => h.append rfl
  error := fun _ h => (h.append rfl).congr rfl rfl rfl rfl rfl Iff.rfl
  clearError := fun h => h.congr rfl rfl rfl rfl rfl Iff.rfl
  inspected := fun h => h.append rfl
  beginClose := fun _ _ _ => trivial
  goOnClosing := fun _ _ => trivial
  discard := fun {c} _ _ unconnected => .of_idle (c := c.discard)
    (by simp [Connection.discard, unconnected]) rfl rfl
  endClose := fun _ _ => .of_idle (by simp) rfl rfl
  sever := fun h => (h.append rfl).congr rfl rfl rfl rfl rfl Iff.rfl
  prepare := fun _ _ h unconnected =>
    .of_idle (by simp) rfl (h.idle (by simp [unconnected])).2
  connectFailed := fun _ h _ => (h.append rfl).congr rfl rfl rfl rfl rfl Iff.rfl
  reconnected := fun _ _ h _ _ => (h.append rfl).congr rfl rfl rfl rfl rfl Iff.rfl
  connected := fun {c _ after} _ mode h _ other =>
    .of_idle (c := { c.hooked after with
      wantsRead := c.wantsRead || mode.reads, state := .connected })
      (by simp) (h.idle other).1 (h.idle other).2
  read := fun {c _ window result after} h _ _ => by
    obtain ⟨buffer, on, settled⟩ := (c.hooked after).exists_settleRead c window result
    rw [settled]
    exact (h.append rfl).congr rfl rfl rfl rfl rfl Iff.rfl
  received := fun _ h => h.append rfl
  beginAnnounce := fun h _ => (h.append rfl).congr rfl rfl rfl rfl rfl Iff.rfl
  endAnnounce := fun h _ => h.congr rfl rfl rfl rfl rfl Iff.rfl
  beginReport := fun h _ _ => h.report
  endReport := fun h reporting => ⟨h.settled, h.idle, h.waits, h.reporting reporting⟩
  skipReport := fun h ended => h.reported ended
  idle := fun h isEmpty => h.rest isEmpty
  write := fun h nonempty _ => h.write nonempty _
  refuseOption := fun _ h _ => h.congr rfl rfl rfl rfl rfl Iff.rfl
  keepOption := fun _ h _ => (h.append rfl).congr rfl rfl rfl rfl rfl Iff.rfl
  optionChanged := fun _ h => h.append rfl
  setReadLimit := fun {c _} n h _ =>
    Notified.resumeReading (c := { c with readLimit := n }) (h.congr rfl rfl rfl rfl rfl Iff.rfl)
  takeBytes := fun {c _} n _ h =>
    Notified.resumeReading (c := { c with readBuffer := (c.readBuffer.read n).2 })
      ((h.append rfl).congr rfl rfl rfl rfl rfl Iff.rfl)
  takeFrame := fun {c j header} h _ _ _ => by
    refine Notified.resumeReading (Notified.congr (c := c) ?_ rfl rfl rfl rfl rfl Iff.rfl)
    have taken : Notified c (j ++ [.taken (c.readBuffer.read (Socket.frameSize header)).1]) :=
      h.append rfl
    exact holds_append_frameEntry taken fun _ => taken.append rfl
  queueBytes := fun _ h connected _ => h.queue connected
  queueFrame := fun _ h connected _ _ _ => (h.queue connected).append rfl
  cue := fun _ h => h.congr rfl rfl rfl rfl rfl Iff.rfl
  poll := fun _ _ h => h.congr rfl rfl rfl rfl rfl Iff.rfl
  takeWritten := fun h => h.congr rfl rfl rfl rfl rfl Iff.rfl

theorem sound_notification : (notification : Outline P).Sound Scope.all where
  steps := steps_notification
  closingSteps := by repeat' first | (intro _) | constructor
  closeEndpoint := fun _ => trivial
  hush := fun _ => trivial

/-- Between two actions of an application no write is being reported. -/
theorem notified_of_run {protocol : P.State} {endpoint : Endpoint} {readChunk writeChunk : Nat}
    {actions : List (Action P)} {s : Socket P}
    (ran : Socket.run actions (Socket.fresh protocol endpoint readChunk writeChunk) =
      some ((), s)) :
    Notified s.toConnection s.journal ∧ s.reportingWrite = false := by
  have start : Notified (Socket.fresh protocol endpoint readChunk writeChunk).toConnection [] := by
    apply Notified.of_idle
    · simp [Socket.fresh, Socket.initial, Socket.change, Connection.initial]
    · rfl
    · rfl
  obtain ⟨notified, -, quiet⟩ :=
    sound_notification.holds_after_run (fun a _ => a.within_all) start ran
  exact ⟨notified, quiet⟩

/-- Between two actions of an application, a connected socket with something to write or to report
waits for its descriptor to become writable, unless all it has is stranded bytes to report. -/
theorem wantsWrite_eq_false_iff_stranded {protocol : P.State} {endpoint : Endpoint}
    {readChunk writeChunk : Nat} {actions : List (Action P)} {s : Socket P}
    (ran : Socket.run actions (Socket.fresh protocol endpoint readChunk writeChunk) =
      some ((), s))
    (connected : s.state = .connected)
    (unfinished : s.writeBuffer.isEmpty = false ∨ 0 < s.pending) :
    s.wantsWrite = false ↔ s.writeBuffer.isEmpty = true ∧ Stranded s.journal := by
  obtain ⟨notified, quiet⟩ := notified_of_run ran
  cases isEmpty : s.writeBuffer.isEmpty with
  | false => simp [notified.waits connected isEmpty]
  | true =>
    have positive : 0 < s.pending := by
      rcases unfinished with nonempty | positive
      · rw [isEmpty] at nonempty
        cases nonempty
      · exact positive
    rw [notified.pending quiet isEmpty positive]
    simp

/-- A handler that answers the first report of a write with another write. -/
def writeAgain : Handler Plain.protocol :=
  .on none (fun e => e matches .bytesWritten _) fun _ =>
    .call (.write [2]) fun _ => .call .flush fun _ => .done (.silent none)

/-- A run in which the answer to a report is written at once. -/
def strandingRun : List (Action Plain.protocol) :=
  [.ask (.cue (.addInterface ⟨"vcan0", 3, 16⟩)), .ask (.connect "vcan0" .readWrite),
    .install writeAgain, .ask (.write [1]), .ask .flush, .ask .writeReady]

/-- The run ends with a byte to report and nobody waiting for the descriptor. -/
theorem exists_strandingRun :
    ∃ s, Socket.run strandingRun (Socket.fresh ⟨0, 64, 64, none⟩ .blank 64 64) = some ((), s) ∧
      (s.state, s.pending, s.wantsWrite) = (.connected, 1, false) :=
  Socket.exists_run (by decide +kernel)

theorem not_always_wantsWrite :
    ¬∀ (P : Protocol) (protocol : P.State) (endpoint : Endpoint) (readChunk writeChunk : Nat)
      (actions : List (Action P)) (s : Socket P),
      Socket.run actions (Socket.fresh protocol endpoint readChunk writeChunk) = some ((), s) →
      s.state = .connected → s.writeBuffer.isEmpty = false ∨ 0 < s.pending →
      s.wantsWrite = true := by
  intro always
  obtain ⟨s, ran, outcome⟩ := exists_strandingRun
  simp only [Prod.mk.injEq] at outcome
  obtain ⟨connected, pending, unnoticed⟩ := outcome
  have noticed := always _ _ _ _ _ _ s ran connected (.inr (by omega))
  rw [unnoticed] at noticed
  cases noticed

theorem wantsWrite_eq_false_strandingRun :
    ∃ s, Socket.run strandingRun (Socket.fresh ⟨0, 64, 64, none⟩ .blank 64 64) = some ((), s) ∧
      s.state = .connected ∧ 0 < s.pending ∧
      (s.wantsWrite = false ↔ s.writeBuffer.isEmpty = true ∧ Stranded s.journal) := by
  obtain ⟨s, ran, outcome⟩ := exists_strandingRun
  simp only [Prod.mk.injEq] at outcome
  obtain ⟨connected, pending, -⟩ := outcome
  have positive : 0 < s.pending := by omega
  exact ⟨s, ran, connected, positive,
    wantsWrite_eq_false_iff_stranded ran connected (.inr positive)⟩

end CanStream
