import CanStream.Proofs.Socket.Coherence
import CanStream.Proofs.Socket.Outlook

/-!
# Sockets that stop waiting for data

A connected socket that may read, and whose read buffer has no limit, stops waiting for data in one
case only: a read failed for want of resources, and since then nobody took data or connected. This
is so whatever handlers do, in the midst of a connect or a close as well.
-/

namespace CanStream

variable {P : Protocol}

/-- A read failed for want of resources, and nobody took data or connected since. -/
def Exhausted (j : List (Entry P)) : Prop :=
  ∃ before entry after, j = before ++ entry :: after ∧ entry.exhausts = true ∧
    ∀ later ∈ after, later.goesOn = false

theorem exhausted_append (j : List (Entry P)) {entry : Entry P} (exhausts : entry.exhausts = true) :
    Exhausted (j ++ [entry]) :=
  ⟨j, entry, [], rfl, exhausts, by simp⟩

theorem Exhausted.append {j : List (Entry P)} {entry : Entry P} (h : Exhausted j)
    (idle : entry.goesOn = false) : Exhausted (j ++ [entry]) := by
  obtain ⟨before, failed, after, rfl, exhausts, since⟩ := h
  refine ⟨before, failed, after ++ [entry], by simp, exhausts, ?_⟩
  exact List.forall_mem_append.mpr ⟨since, List.forall_mem_singleton.mpr idle⟩

/-- A connected socket that may read without a limit waits for data, unless a read failed for want
of resources. A socket that is being connected is in the mode of the stage. -/
structure Wakeful (stage : Option OpenMode) (c : Connection P) (j : List (Entry P)) : Prop where
  connecting : c.state = .connecting → stage = some c.mode
  unconnected : c.state = .unconnected → c.mode = FlagSet.empty
  settled : c.state ≠ .closing
  awake : c.state = .connected → c.mode.reads = true → c.readLimit = 0 → c.wantsRead = false →
    Exhausted j

namespace Wakeful

variable {stage : Option OpenMode} {c c' : Connection P} {j j' : List (Entry P)} {entry : Entry P}

theorem congr (h : Wakeful stage c j) (state : c'.state = c.state) (mode : c'.mode = c.mode)
    (limit : c'.readLimit = c.readLimit) (waits : c'.wantsRead = c.wantsRead) :
    Wakeful stage c' j where
  connecting := by rw [state, mode]; exact h.connecting
  unconnected := by rw [state, mode]; exact h.unconnected
  settled := by rw [state]; exact h.settled
  awake := by rw [state, mode, limit, waits]; exact h.awake

theorem append (h : Wakeful stage c j) (idle : entry.goesOn = false) :
    Wakeful stage c (j ++ [entry]) where
  connecting := h.connecting
  unconnected := h.unconnected
  settled := h.settled
  awake := fun connected reads unlimited asleep =>
    (h.awake connected reads unlimited asleep).append idle

/-- A socket that looks whether it can wait again does so, if it has no limit. -/
theorem resumeReading (h : Wakeful stage c j) (state : c'.state = c.state)
    (mode : c'.mode = c.mode) : Wakeful stage c'.resumeReading j' := by
  obtain ⟨on, resumed⟩ := c'.exists_resumeReading
  refine ⟨?_, ?_, ?_, ?_⟩
  · rw [resumed]
    change c'.state = _ → _ = some c'.mode
    rw [state, mode]
    exact h.connecting
  · rw [resumed]
    change c'.state = _ → c'.mode = _
    rw [state, mode]
    exact h.unconnected
  · rw [resumed]
    exact state ▸ h.settled
  · intro connected reads unlimited asleep
    have ready : c'.state = .connected ∧ c'.mode.reads = true ∧ c'.hasReadRoom = true := by
      rw [resumed] at connected reads unlimited
      have noLimit : c'.readLimit = 0 := unlimited
      exact ⟨connected, reads, by simp [Connection.hasReadRoom, noLimit]⟩
    rw [Connection.resumeReading, if_pos ready] at asleep
    cases asleep

/-- Without a limit no read leaves the buffer full. -/
theorem settleRead (h : Wakeful stage c j) (window : Nat) (result : Except IoError (List UInt8))
    (after : P.State × Endpoint) :
    Wakeful stage ((c.hooked after).settleRead c window result)
      (j ++ [c.readEntry after result]) := by
  obtain ⟨buffer, on, settles⟩ := (c.hooked after).exists_settleRead c window result
  have waits : on = ((c.hooked after).settleRead c window result).wantsRead := by rw [settles]
  have took (bytes : List UInt8) (unlimited : c.readLimit = 0) :
      ((c.hooked after).takeIn c window bytes).wantsRead = c.wantsRead := by
    simp [Connection.takeIn, Connection.hooked, unlimited]
  rw [settles]
  refine ⟨h.connecting, h.unconnected, h.settled, fun connected reads unlimited asleep => ?_⟩
  have unlimited : c.readLimit = 0 := unlimited
  have slept (same : on = c.wantsRead) : Exhausted (j ++ [c.readEntry after result]) :=
    (h.awake connected reads unlimited (same ▸ asleep)).append rfl
  cases result with
  | ok bytes => exact slept (waits.trans (took bytes unlimited))
  | error cause =>
    rw [Connection.settleRead] at waits
    split at waits
    · exact slept (waits.trans (took [] unlimited))
    · by_cases exhausts : (SocketError.ofIo cause).kind = .resourceExhausted
      · exact exhausted_append j (decide_eq_true exhausts)
      · refine slept (waits.trans ?_)
        simp [Connection.refuseRead, Connection.hooked, exhausts]

theorem turns : Turns (Wakeful (P := P) stage) fun _ => Wakeful stage where
  delivery := fun _ _ h => h.append rfl
  returned := fun _ h => h.append rfl
  noted := fun _ h => h.append rfl

theorem localSteps : LocalSteps Scope.all (Wakeful (P := P) stage) (Wakeful stage) where
  error := fun _ h => (h.append rfl).congr rfl rfl rfl rfl
  clearError := fun h => h.congr rfl rfl rfl rfl
  inspected := fun h => h.append rfl
  beginReport := fun h _ _ => (h.append rfl).congr rfl rfl rfl rfl
  endReport := fun h _ => h.congr rfl rfl rfl rfl
  skipReport := fun h _ => h.congr rfl rfl rfl rfl
  idle := fun h _ => h.congr rfl rfl rfl rfl
  write := fun {c _ result after} h _ _ => by
    obtain ⟨buffer, pending, started, on, settles⟩ :=
      (c.align.hooked after).exists_settleWrite result
    rw [settles]
    exact (h.append rfl).congr rfl rfl rfl rfl
  takeBytes := fun _ _ h => h.resumeReading rfl rfl
  takeFrame := fun h _ _ _ => h.resumeReading rfl rfl
  queueBytes := fun {_ _ data} _ h _ _ => by
    cases data <;> exact (h.append rfl).congr rfl rfl rfl rfl
  queueFrame := fun {c _ f} _ h _ _ _ _ => by
    cases f.toKernel <;> exact ((h.append rfl).append rfl).congr rfl rfl rfl rfl
  cue := fun _ h => h.congr rfl rfl rfl rfl
  poll := fun _ _ h => h.congr rfl rfl rfl rfl
  takeWritten := fun h => h.congr rfl rfl rfl rfl
  sever := fun h => (h.append rfl).congr rfl rfl rfl rfl
  refuseOption := fun _ h _ => h.congr rfl rfl rfl rfl
  keepOption := fun _ h _ => (h.append rfl).congr rfl rfl rfl rfl
  optionChanged := fun _ h => h.append rfl
  setReadLimit := fun _ h _ => h.resumeReading rfl rfl

theorem readSteps : ReadSteps (Wakeful (P := P) stage) (Wakeful stage) where
  refuseRead := fun h _ _ _ => h.settleRead _ _ _
  receive := by
    rintro c _ j window result after h - - - rfl -
    exact (h.settleRead window result after).append rfl
  announce := by
    rintro c _ j window result after h - - - rfl - -
    exact (((h.settleRead window result after).append rfl).append rfl).congr rfl rfl rfl rfl
  endAnnounce := fun h _ => h.congr rfl rfl rfl rfl

/-- Nothing is asked of a socket that is being closed: it ends unconnected. -/
theorem closeSteps (before after : Option OpenMode) :
    CloseSteps (P := P) (Wakeful before) Anything Anything (Wakeful after) where
  stay := fun h unconnected => by
    refine ⟨?_, h.unconnected, h.settled, ?_⟩ <;> rw [unconnected] <;> exact nofun
  beginClose := fun _ _ _ => trivial
  goOnClosing := fun _ _ => trivial
  release := fun _ => trivial
  releaseFailed := fun _ _ => trivial
  discard := fun {c _} _ unconnected => by
    have state : c.discard.state = .unconnected := unconnected
    refine ⟨?_, fun _ => rfl, ?_, ?_⟩ <;> rw [state] <;> exact nofun
  endClose := fun _ _ => ⟨nofun, fun _ => rfl, nofun, nofun⟩

/-- A connect ends with a socket that waits, if its mode is one that reads. -/
theorem connectSteps (ifname : String) (mode : OpenMode) :
    ConnectSteps (P := P) ifname mode (Wakeful stage) (Wakeful (some mode)) Anything Anything
      (Wakeful stage) where
  refuse := fun _ h => (h.append rfl).congr rfl rfl rfl rfl
  prepare := fun _ _ _ => ⟨fun _ => rfl, nofun, nofun, nofun⟩
  connectFailed := fun h _ => ((h.append rfl).append rfl).congr rfl rfl rfl rfl
  reconnected := fun {c _ _} h _ connected => by
    refine ⟨fun connecting => ?_, fun unconnected => ?_, h.settled,
      fun _ reads unlimited asleep => ?_⟩
    · exact absurd (connected.symm.trans connecting) nofun
    · exact absurd (connected.symm.trans unconnected) nofun
    · have slept : c.wantsRead = false := (Bool.or_eq_false_iff.mp asleep).1
      exact (h.awake connected reads unlimited slept).append rfl
  connected := fun {c _ _} h _ other => by
    refine ⟨nofun, nofun, nofun, fun _ mayRead _ asleep => ?_⟩
    have reads : c.mode.reads = true := mayRead
    have unwanted : mode.reads = false := (Bool.or_eq_false_iff.mp asleep).2
    cases state : c.state with
    | unconnected =>
      rw [h.unconnected state] at reads
      cases reads
    | connecting =>
      obtain rfl : mode = c.mode := Option.some.inj (h.connecting state)
      rw [reads] at unwanted
      cases unwanted
    | connected => exact absurd state other
    | closing => exact absurd state h.settled
  giveUp := closeSteps (some mode) stage

theorem endures_enqueue : Endures Scope.all Socket.enqueue (Wakeful (P := P) stage) := by
  have emits (K : Assertion P) : Socket.Emits Scope.all K Socket.enqueue :=
    fun e _ => Socket.upholds_enqueue K e
  refine endures_of_upholds localSteps readSteps (emits _) (Socket.upholds_enqueue _ .readyRead)
    (fun ifname mode => ?_) ?_
  · exact Socket.upholds_connect (connectSteps ifname mode) (emits _) (emits _) (emits _) (emits _)
  · exact Socket.upholds_close (closeSteps stage stage) (emits _) (emits _) (emits _)

theorem upholds_emit (e : P.Event) :
    Socket.Upholds Scope.all (fun c j => Wakeful stage c (j ++ [.raised e])) (Socket.emit e)
      (Wakeful stage) :=
  Socket.upholds_emit turns (fun _ => endures_enqueue) e (fun _ h => h) id

theorem endures_emit : Endures Scope.all Socket.emit (Wakeful (P := P) stage) := by
  have emits (stage : Option OpenMode) : Socket.Emits Scope.all (Wakeful (P := P) stage)
      Socket.emit := fun e _ => upholds_emit e
  have whatever : Socket.Emits Scope.all (Anything (P := P)) Socket.emit :=
    fun e _ => Anything.enduring.upholds_emit e
  refine endures_of_upholds localSteps readSteps (emits stage) (upholds_emit .readyRead)
    (fun ifname mode => ?_) ?_
  · exact Socket.upholds_connect (connectSteps ifname mode) (emits stage) (emits _) whatever
      whatever
  · exact Socket.upholds_close (closeSteps stage stage) (emits stage) whatever whatever

/-- After every run, a connected socket that may read and has no limit waits for data, unless a read
failed for want of resources and nobody took data or connected since. -/
theorem of_run {protocol : P.State} {endpoint : Endpoint} {readChunk writeChunk : Nat}
    {actions : List (Action P)} {s : Socket P}
    (ran : Socket.run actions (Socket.fresh protocol endpoint readChunk writeChunk) =
      some ((), s)) : Wakeful none s.toConnection s.journal := by
  have start : Wakeful none (Socket.fresh protocol endpoint readChunk writeChunk).toConnection [] :=
    ⟨nofun, fun _ => rfl, nofun, nofun⟩
  exact (Socket.holds_after_run endures_emit (fun a _ => a.within_all) start ran).1

end Wakeful

end CanStream
