import CanStream.Proofs.Socket.History
import CanStream.Proofs.Socket.Run
import CanStream.Protocol.Plain

/-!
# The account of written bytes

A socket keeps account of the bytes that its descriptor took and that are not reported yet. Whoever
looks at it finds the account right, in the midst of a dispatch as well: what was reported since it
was closed last, with what is still to be reported, is what the descriptor took since. A report is
always of all that is due, and there is none unless something is due.

A socket that was closed and not connected again has nothing to write and nothing to report.
-/

namespace CanStream

variable {P : Protocol}

namespace Entry

/-- The bytes that an entry reports as written. -/
def bytesReported : Entry P → Nat
  | raised (.bytesWritten n) => n
  | _ => 0

/-- The bytes that the protocol took over to write. -/
def bytesTaken : Entry P → Nat
  | writeHook _ _ _ _ (.ok n) => n
  | _ => 0

/-- Whether what was buffered and not yet reported was given up. -/
def discards : Entry P → Bool
  | discarded => true
  | _ => false

end Entry

/-- The sum over the entries that were made since the socket was closed last. -/
def sinceDiscard (amount : Entry P → Nat) (journal : List (Entry P)) : Nat :=
  journal.foldl (fun sofar entry => if entry.discards then 0 else sofar + amount entry) 0

/-- The bytes reported as written since the socket was closed last. -/
def bytesReported (journal : List (Entry P)) : Nat := sinceDiscard Entry.bytesReported journal

/-- The bytes that the protocol took over to write since the socket was closed last. -/
def bytesTaken (journal : List (Entry P)) : Nat := sinceDiscard Entry.bytesTaken journal

section

variable {j : List (Entry P)} {entry : Entry P}

theorem sinceDiscard_append (amount : Entry P → Nat) :
    sinceDiscard amount (j ++ [entry]) =
      if entry.discards then 0 else sinceDiscard amount j + amount entry := by
  rw [sinceDiscard, List.foldl_append]
  rfl

theorem bytesReported_append (keeps : entry.discards = false) :
    bytesReported (j ++ [entry]) = bytesReported j + entry.bytesReported := by
  rw [bytesReported, sinceDiscard_append, keeps]
  rfl

theorem bytesTaken_append (keeps : entry.discards = false) :
    bytesTaken (j ++ [entry]) = bytesTaken j + entry.bytesTaken := by
  rw [bytesTaken, sinceDiscard_append, keeps]
  rfl

end

/-! ## The invariant -/

/-- A report is of all that was taken and not reported before it, on a socket that was not closed,
and a look finds the account right. -/
def Accounts (before : List (Entry P)) : Entry P → Prop
  | .raised (.bytesWritten n) =>
      0 < n ∧ bytesReported before + n = bytesTaken before ∧ (target before).isSome = true
  | .inspected c => bytesReported before + c.pending = bytesTaken before
  | _ => True

/-- Whether an entry has to do with the account. -/
def Entry.isBooked : Entry P → Bool
  | raised (.bytesWritten _) => true
  | writeHook _ _ _ _ _ => true
  | cleared _ _ => true
  | discarded => true
  | inspected _ => true
  | _ => false

/-- The entry leaves the account as it is. -/
structure Unbooked (before : List (Entry P)) (entry : Entry P) : Prop where
  keeps : entry.discards = false
  unreported : entry.bytesReported = 0
  untaken : entry.bytesTaken = 0
  target : entry.target (target before) = target before
  accounts : Accounts before entry

theorem unbooked_of_not_isBooked {entry : Entry P} (other : entry.isBooked = false)
    (before : List (Entry P)) : Unbooked before entry := by
  cases entry with
  | raised e =>
    cases e with
    | bytesWritten n => cases other
    | _ => exact ⟨rfl, rfl, rfl, rfl, trivial⟩
  | writeHook _ _ _ _ _ => cases other
  | cleared _ _ => cases other
  | discarded => cases other
  | inspected _ => cases other
  | _ => exact ⟨rfl, rfl, rfl, rfl, trivial⟩

/-- The account of a connection is right, it was right whenever somebody looked or a write was
reported, and there is nothing on it after the socket was closed. -/
structure Accounted (c : Connection P) (j : List (Entry P)) : Prop where
  balance : bytesReported j + c.pending = bytesTaken j
  idle : target j = none →
    c.mode = FlagSet.empty ∧ c.writeBuffer.isEmpty = true ∧ c.pending = 0
  lawful : Lawful Accounts j

namespace Accounted

variable {c c' : Connection P} {j : List (Entry P)} {entry : Entry P}

theorem congr (h : Accounted c j) (mode : c'.mode = c.mode)
    (buffer : c'.writeBuffer = c.writeBuffer) (pending : c'.pending = c.pending) :
    Accounted c' j where
  balance := by rw [pending]; exact h.balance
  idle := by rw [mode, buffer, pending]; exact h.idle
  lawful := h.lawful

theorem append (h : Accounted c j) (other : entry.isBooked = false) :
    Accounted c (j ++ [entry]) := by
  obtain ⟨keeps, unreported, untaken, same, accounts⟩ := unbooked_of_not_isBooked other j
  refine ⟨?_, ?_, h.lawful.append accounts⟩
  · rw [bytesReported_append keeps, bytesTaken_append keeps, unreported, untaken]
    exact h.balance
  · rw [target_append, same]
    exact h.idle

theorem inspect (h : Accounted c j) : Accounted c (j ++ [.inspected c]) where
  balance := by
    rw [bytesReported_append rfl, bytesTaken_append rfl]
    exact h.balance
  idle := by
    rw [target_append]
    exact h.idle
  lawful := h.lawful.append h.balance

theorem resumeReading (h : Accounted c j) : Accounted c.resumeReading j := by
  obtain ⟨on, resumed⟩ := c.exists_resumeReading
  rw [resumed]
  exact h.congr rfl rfl rfl

/-- With something to write or to report, or in a mode that is not empty, the socket was not
closed. -/
theorem isSome_target (h : Accounted c j)
    (busy : c.mode ≠ FlagSet.empty ∨ c.writeBuffer.isEmpty = false ∨ 0 < c.pending) :
    (target j).isSome = true := by
  rw [Option.isSome_iff_ne_none]
  intro noTarget
  obtain ⟨mode, isEmpty, nothing⟩ := h.idle noTarget
  rcases busy with other | nonempty | positive
  · exact other mode
  · rw [isEmpty] at nonempty
    cases nonempty
  · exact absurd nothing (Nat.ne_of_gt positive)

/-- Where the socket was not closed there may be something on the account. -/
theorem of_isSome (balance : bytesReported j + c.pending = bytesTaken j)
    (targeted : (target j).isSome = true) (lawful : Lawful Accounts j) : Accounted c j where
  balance := balance
  idle := fun noTarget => by rw [noTarget] at targeted; cases targeted
  lawful := lawful

theorem report (h : Accounted c j) (due : 0 < c.pending) :
    Accounted c.report (j ++ [.raised (.bytesWritten c.pending)]) := by
  have targeted := h.isSome_target (.inr (.inr due))
  refine of_isSome ?_ ?_ (h.lawful.append ⟨due, h.balance, targeted⟩)
  · rw [bytesReported_append rfl, bytesTaken_append rfl]
    exact h.balance
  · rw [target_append]
    exact targeted

theorem write (h : Accounted c j) (nonempty : c.writeBuffer.isEmpty = false)
    {after : P.State × Endpoint} {offered : List UInt8} {tried sent : List (List UInt8)}
    (result : Except IoError Nat) :
    Accounted ((c.align.hooked after).settleWrite result)
      (j ++ [.writeHook c.reportingWrite offered tried sent result]) := by
  have targeted := h.isSome_target (.inr (.inl nonempty))
  refine of_isSome ?_ ?_ (h.lawful.append trivial)
  · rw [bytesReported_append rfl, bytesTaken_append rfl, ← h.balance]
    cases result with
    | ok n => exact (Nat.add_assoc ..).symm
    | error cause =>
      rw [Connection.settleWrite, Connection.pending_refuseWrite]
      rfl
  · rw [target_append]
    exact targeted

theorem queue (h : Accounted c j) (writes : c.mode.writes = true) (data : List UInt8) :
    Accounted (c.enqueue data) (j ++ [.queued data]) := by
  have isOpen : c.mode ≠ FlagSet.empty := by
    intro isEmpty
    rw [isEmpty] at writes
    cases writes
  have queued : Accounted c (j ++ [.queued data]) := h.append rfl
  refine of_isSome ?_ (queued.isSome_target (.inl isOpen)) queued.lawful
  rw [Connection.pending_enqueue]
  exact queued.balance

/-- A socket that is prepared for a connection keeps its account. -/
theorem prepare (h : Accounted c j) (ifname : String) (mode : OpenMode) :
    Accounted (c.prepare ifname mode) (j ++ [.cleared ifname mode]) := by
  refine of_isSome ?_ ?_ (h.lawful.append trivial)
  · rw [bytesReported_append rfl, bytesTaken_append rfl]
    exact h.balance
  · rw [target_append]
    rfl

/-- A socket that is closed has its account cleared. -/
theorem discard (h : Accounted c j) : Accounted c.discard (j ++ [.discarded]) where
  balance := by
    rw [bytesReported, bytesTaken, sinceDiscard_append, sinceDiscard_append]
    rfl
  idle := fun _ => ⟨rfl, rfl, rfl⟩
  lawful := h.lawful.append trivial

/-- Nothing is reported from a close until the next connect. -/
theorem not_mem_raised_bytesWritten (h : Accounted c j) {before since after : List (Entry P)}
    (moment : j = before ++ .discarded :: since ++ after)
    (closed : ∀ ifname mode, .cleared ifname mode ∉ since) (n : Nat) :
    .raised (.bytesWritten n) ∉ since := by
  intro member
  obtain ⟨earlier, later, rfl⟩ := List.append_of_mem member
  obtain ⟨-, -, isOpen⟩ := h.lawful (before ++ .discarded :: earlier) (.raised (.bytesWritten n))
    (later ++ after) (by rw [moment]; simp)
  rw [target_append_discarded fun ifname mode other =>
    closed ifname mode (List.mem_append_left _ other)] at isOpen
  cases isOpen

end Accounted

theorem steps_accounted : Steps Scope.all (Accounted (P := P)) Accounted Accounted where
  delivery := fun _ _ h => h.append rfl
  returned := fun _ h => h.append rfl
  noted := fun _ h => h.append rfl
  error := fun _ h => (h.append rfl).congr rfl rfl rfl
  sever := fun h => (h.append rfl).congr rfl rfl rfl
  clearError := fun h => h.congr rfl rfl rfl
  inspected := fun h => h.inspect
  beginClose := fun h _ _ => (h.append rfl).congr rfl rfl rfl
  goOnClosing := fun h _ => h
  discard := fun h _ => h.discard
  endClose := fun h _ => (h.discard.append rfl).congr rfl rfl rfl
  prepare := fun ifname mode h _ => ((h.prepare ifname mode).append rfl).congr rfl rfl rfl
  connectFailed := fun _ h _ => (h.append rfl).congr rfl rfl rfl
  reconnected := fun _ _ h _ _ => (h.append rfl).congr rfl rfl rfl
  connected := fun _ _ h _ _ => ((h.append rfl).append rfl).congr rfl rfl rfl
  beginReport := fun h due _ => h.report due
  endReport := fun h _ => h.congr rfl rfl rfl
  skipReport := fun h _ => h.congr rfl rfl rfl
  idle := fun h _ => h.congr rfl rfl rfl
  write := fun h nonempty _ => h.write nonempty _
  refuseOption := fun _ h _ => h.congr rfl rfl rfl
  keepOption := fun _ h _ => (h.append rfl).congr rfl rfl rfl
  optionChanged := fun _ h => h.append rfl
  setReadLimit := fun {c _} n h _ =>
    Accounted.resumeReading (c := { c with readLimit := n }) (h.congr rfl rfl rfl)
  takeBytes := fun {c _} n _ h =>
    Accounted.resumeReading (c := { c with readBuffer := (c.readBuffer.read n).2 })
      ((h.append rfl).congr rfl rfl rfl)
  takeFrame := fun {c j header} h _ _ _ => by
    refine Accounted.resumeReading (Accounted.congr (c := c) ?_ rfl rfl rfl)
    have taken : Accounted c (j ++ [.taken (c.readBuffer.read (Socket.frameSize header)).1]) :=
      h.append rfl
    exact holds_append_frameEntry taken fun _ => taken.append rfl
  queueBytes := fun {_ _ data} _ h _ writes => h.queue writes data
  queueFrame := fun {_ _ f} _ h _ writes _ _ => (h.queue writes f.toKernel).append rfl
  cue := fun _ h => h.congr rfl rfl rfl
  poll := fun _ _ h => h.congr rfl rfl rfl
  takeWritten := fun h => h.congr rfl rfl rfl
  read := fun {c _ window result after} h _ _ => by
    obtain ⟨buffer, on, settled⟩ := (c.hooked after).exists_settleRead c window result
    rw [settled]
    exact (h.append rfl).congr rfl rfl rfl
  received := fun _ h => h.append rfl
  beginAnnounce := fun h _ => (h.append rfl).congr rfl rfl rfl
  endAnnounce := fun h _ => h.congr rfl rfl rfl

section

variable {protocol : P.State} {endpoint : Endpoint} {readChunk writeChunk : Nat}
  {actions : List (Action P)} {s : Socket P}

/-- After every run the account is right. -/
theorem accounted_of_run
    (ran : Socket.run actions (Socket.fresh protocol endpoint readChunk writeChunk) =
      some ((), s)) : Accounted s.toConnection s.journal := by
  have sound : Outline.Sound Scope.all ⟨Accounted (P := P), Accounted, Accounted⟩ :=
    ⟨steps_accounted, steps_accounted, fun h => h.congr rfl rfl rfl, fun h => h.congr rfl rfl rfl⟩
  have start : Accounted (Socket.fresh protocol endpoint readChunk writeChunk).toConnection [] :=
    ⟨rfl, fun _ => ⟨rfl, rfl, rfl⟩, lawful_nil⟩
  exact (sound.holds_after_run (fun a _ => a.within_all) start ran).1

/-- Whoever looks at the socket, in the course of a run or after it, finds that the bytes reported
since the socket was closed last and those still to be reported are the bytes taken since. A report
is of all the bytes that were taken and not reported, and of some. -/
theorem bytesReported_add_pending
    (ran : Socket.run actions (Socket.fresh protocol endpoint readChunk writeChunk) =
      some ((), s)) :
    (∀ before c after,
      s.journal ++ [.inspected s.toConnection] = before ++ .inspected c :: after →
      bytesReported before + c.pending = bytesTaken before) ∧
      ∀ before n after, s.journal = before ++ .raised (.bytesWritten n) :: after →
        0 < n ∧ bytesReported before + n = bytesTaken before := by
  have accounted := accounted_of_run ran
  refine ⟨fun before c after split => ?_, fun before n after split => ?_⟩
  · exact accounted.inspect.lawful before (.inspected c) after split
  · obtain ⟨positive, all, -⟩ :=
      accounted.lawful before (.raised (.bytesWritten n)) after split
    exact ⟨positive, all⟩

end

/-- A handler that answers the report of a write with another write, and looks at the socket. -/
def writeMore : Handler Plain.protocol :=
  .on none (fun e => e matches .bytesWritten _) fun _ =>
    .call (.write [2, 2]) fun _ => .call .flush fun _ => .call .inspect fun _ =>
      .done (.silent none)

/-- A run in which a socket is closed with a byte to report, and then in another connection three
bytes are reported and two are not yet. -/
def reconnectedRun : List (Action Plain.protocol) :=
  [.ask (.cue (.addInterface ⟨"vcan0", 3, 16⟩)), .ask (.connect "vcan0" .readWrite),
    .ask (.write [9]), .ask .flush, .ask .close, .ask (.connect "vcan0" .readWrite),
    .install writeMore, .ask (.write [1, 1, 1]), .ask .flush, .ask .writeReady]

theorem bytesReported_add_pending_reconnectedRun :
    ∃ s, Socket.run reconnectedRun (Socket.fresh ⟨0, 64, 64, none⟩ .blank 64 64) = some ((), s) ∧
      (bytesReported s.journal, s.pending) = (3, 2) ∧
      bytesReported s.journal + s.pending = bytesTaken s.journal := by
  obtain ⟨s, ran, outcome⟩ : ∃ s,
      Socket.run reconnectedRun (Socket.fresh ⟨0, 64, 64, none⟩ .blank 64 64) = some ((), s) ∧
      (bytesReported s.journal, s.pending) = (3, 2) :=
    Socket.exists_run (by decide +kernel)
  exact ⟨s, ran, outcome, (bytesReported_add_pending ran).1 s.journal s.toConnection [] rfl⟩

end CanStream
