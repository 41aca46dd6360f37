import CanStream.Proofs.IsoTp.Transmit
import CanStream.Proofs.Socket.Outlook
import CanStream.Proofs.Socket.Pump

/-!
# Backpressure

A connected socket that may read waits for data as long as its read buffer has room for one more
unit. It gives up when a read fails for want of resources, until the application goes on: connects,
takes data, or changes the limit. A connect begins to wait whatever the limit is.
-/

namespace CanStream

variable {P : Protocol}

/-- Everything may be asked of the socket, but not by handlers. -/
def Scope.quiet : Scope P := { (Scope.all : Scope P) with handlersAsk := False }

/-- What came of the entries since a moment with an outlook of its own is as `K` says. -/
def Since (start : List (Entry P)) (o₀ : Outlook) (K : Outlook → Gauge → Prop) : Assertion P :=
  fun c j => ∃ news, j = start ++ news ∧ K (news.foldl (Outlook.next Entry.goesOn) o₀) c.gauge

namespace Since

variable {start j : List (Entry P)} {o₀ : Outlook} {K K' : Outlook → Gauge → Prop}
  {c c' : Connection P} {entry : Entry P}

theorem imp (h : Since start o₀ K c j) (step : ∀ o, K o c.gauge → K' o c'.gauge) :
    Since start o₀ K' c' j := by
  obtain ⟨news, rfl, holds⟩ := h
  exact ⟨news, rfl, step _ holds⟩

theorem append (h : Since start o₀ K c j)
    (step : ∀ o, K o c.gauge → K' (o.next Entry.goesOn entry) c'.gauge) :
    Since start o₀ K' c' (j ++ [entry]) := by
  obtain ⟨news, rfl, holds⟩ := h
  refine ⟨news ++ [entry], List.append_assoc .., ?_⟩
  rw [List.foldl_append]
  exact step _ holds

/-- An entry that tells nothing of waiting. -/
theorem silent (h : Since start o₀ K c j) (tells : entry.tellsOfWaiting = false) :
    Since start o₀ K c (j ++ [entry]) := by
  refine h.append fun o holds => ?_
  rw [Outlook.next_of_silent tells]
  exact holds

theorem begin (holds : K o₀ c.gauge) : Since j o₀ K c j := ⟨[], (List.append_nil j).symm, holds⟩

theorem congr (h : Since start o₀ K c j) (same : c'.gauge = c.gauge) : Since start o₀ K c' j := by
  refine h.imp fun o holds => ?_
  rw [same]
  exact holds

theorem turns : Turns (Since start o₀ K) fun _ => Since start o₀ K where
  delivery := fun _ _ h => h.silent rfl
  returned := fun _ h => h.silent rfl
  noted := fun _ h => h.silent rfl

/-- Handlers that ask for nothing leave all that matters here as it is. -/
theorem upholds_emit (e : P.Event) :
    Socket.Upholds Scope.quiet (fun c j => Since start o₀ K c (j ++ [.raised e])) (Socket.emit e)
      (Since start o₀ K) :=
  Socket.upholds_emit turns (fun asks => False.elim asks) e (fun _ h => h) id

theorem emits : Socket.Emits Scope.quiet (Since start o₀ K) (Socket.emit (P := P)) :=
  fun e _ => upholds_emit e

end Since

/-- While data moves, the limit stays and nobody connects. -/
structure Moving (limit : Nat) (o : Outlook) (g : Gauge) : Prop extends Watched o g where
  limit : g.limit = limit
  stays : o.connected = false

/-- While options are set, nothing changes but the size of the units. -/
def Resized (o₀ : Outlook) (g₀ : Gauge) (o : Outlook) (g : Gauge) : Prop :=
  o = o₀ ∧ ∃ unit, g = { g₀ with unit := unit }

/-- While the socket is connecting it does not wait. -/
structure Opening (mode : OpenMode) (o : Outlook) (g : Gauge) : Prop where
  unexhausted : o.exhausted = false
  unsettled : o.settled = false
  state : g.state = .connecting
  mode : g.mode = mode
  idle : g.wantsRead = false

section

variable {start : List (Entry P)} {o₀ : Outlook} {g₀ : Gauge} {limit : Nat}

namespace Since

variable {c : Connection P} {j : List (Entry P)}

theorem takeOut (h : Since start o₀ (Moving limit) c j) (n : Nat) :
    Since start o₀ (Moving limit) { c with readBuffer := (c.readBuffer.read n).2 }.resumeReading
      (j ++ [.taken (c.readBuffer.read n).1]) := by
  refine h.append fun o holds => ?_
  rw [Connection.gauge_resumeReading, Outlook.next_taken]
  have less : (c.readBuffer.read n).2.size ≤ c.available := by
    rw [ByteQueue.read, ByteQueue.size_free]
    exact Nat.sub_le _ _
  exact ⟨holds.toWatched.take holds.stays less, holds.limit, holds.stays⟩

theorem settleRead (steady : P.SteadyUnit) (h : Since start o₀ (Moving limit) c j) {window : Nat}
    {result : Except IoError (List UInt8)} {after : P.State × Endpoint}
    (ran : (P.read window).exec (c.protocol, c.endpoint) = (result, after))
    (passed : Passed result) :
    Since start o₀ (Moving limit) ((c.hooked after).settleRead c window result)
      (j ++ [c.readEntry after result]) := by
  have same := (steady.read window).of_exec ran
  have silent : (c.readEntry after result).tellsOfWaiting = false := by
    cases result with
    | ok bytes => rfl
    | error cause =>
      exact decide_eq_false (SocketError.kind_ofIo_ne_resourceExhausted (passed cause rfl))
  refine (h.silent silent).imp fun o holds => ?_
  rw [c.gauge_settleRead same window passed]
  have more : c.available ≤ ((c.hooked after).settleRead c window result).available := by
    rw [Connection.available_settleRead]
    exact Nat.le_add_right _ _
  exact ⟨holds.toWatched.fill holds.stays more, holds.limit, holds.stays⟩

end Since

theorem transferSteps_moving (steady : P.SteadyUnit) :
    TransferSteps Scope.quiet (Since (P := P) start o₀ (Moving limit))
      (Since start o₀ (Moving limit)) where
  error := fun _ h => h.silent rfl
  sever := fun h => h.silent rfl
  clearError := fun h => h
  inspected := fun h => h.silent rfl
  beginReport := fun h _ _ => h.silent rfl
  endReport := fun h _ => h
  skipReport := fun h _ => h
  idle := fun h _ => h
  write := fun {c _ result after} h _ ran => by
    have same := (steady.write c.align.writeBuffer.head).of_exec ran
    exact (h.silent rfl).congr (c.gauge_settleWrite same result)
  takeBytes := fun n _ h => Since.takeOut h n
  takeFrame := fun {c j header} h _ _ _ => by
    have taken := Since.takeOut h (Socket.frameSize header)
    exact holds_append_frameEntry taken fun _ => taken.silent rfl
  queueBytes := fun {c _ data} _ h _ _ => (h.silent rfl).congr (c.gauge_enqueue steady data)
  queueFrame := fun {c _ f} _ h _ _ _ _ =>
    ((h.silent rfl).silent rfl).congr (c.gauge_enqueue steady f.toKernel)
  cue := fun _ h => h
  poll := fun _ _ h => h
  takeWritten := fun h => h

theorem readSteps_moving (steady : P.SteadyUnit) :
    ReadSteps (Since (P := P) start o₀ (Moving limit)) (Since start o₀ (Moving limit)) where
  refuseRead := by
    intro c j window cause after h _ ran noRetry
    have same := (steady.read window).of_exec ran
    refine h.append fun o holds => ?_
    rw [Connection.settleRead, if_neg (Bool.eq_false_iff.mp noRetry),
      c.gauge_refuseRead same window cause, Connection.readEntry, Outlook.next_readHook]
    exact ⟨holds.toWatched.refuse holds.stays, holds.limit, holds.stays⟩
  receive := by
    rintro c _ j window result after h - ran passed rfl -
    exact (h.settleRead steady ran passed).silent rfl
  announce := by
    rintro c _ j window result after h - ran passed rfl - -
    exact ((h.settleRead steady ran passed).silent rfl).silent rfl
  endAnnounce := fun h _ => h

/-- Whatever becomes of the units, nothing else changes. -/
theorem Resized.resize {o : Outlook} {g : Gauge} (h : Resized o₀ g₀ o g) (unit : Nat) :
    Resized o₀ g₀ o { g with unit := unit } := by
  obtain ⟨same, _, rfl⟩ := h
  exact ⟨same, unit, rfl⟩

theorem optionSteps_resized : OptionSteps (Since (P := P) start o₀ (Resized o₀ g₀)) where
  error := fun _ h => h.silent rfl
  refuseOption := fun {c _ _ after} _ h _ =>
    h.imp fun _ holds => holds.resize (c.hooked after).unit
  keepOption := fun {c _ after} value h _ =>
    (h.silent rfl).imp fun _ holds => holds.resize
      (Connection.unit { c.hooked after with protocol := (P.keepOption value after.1).2 })
  optionChanged := fun _ h => h.silent rfl

/-- A socket that is closed does not wait any more. -/
theorem closeSteps_led {K : Outlook → Gauge → Prop}
    (stays : ∀ o g, K o g → g.state = .unconnected → Led o₀ g₀ o g) :
    CloseSteps (Since (P := P) start o₀ K) (Since start o₀ fun _ _ => True)
      (Since start o₀ fun _ g => g.wantsRead = false) (Since start o₀ (Led o₀ g₀)) where
  stay := fun h unconnected => h.imp fun o holds => stays o _ holds unconnected
  beginClose := fun h _ _ => (h.silent rfl).imp fun _ _ => trivial
  goOnClosing := fun h _ => h.imp fun _ _ => trivial
  release := fun h => h.imp fun _ _ => rfl
  releaseFailed := fun _ h => h.silent rfl
  discard := by
    intro c j h unconnected
    refine (h.silent rfl).imp fun o idle => .shut ?_ idle
    rw [show c.discard.gauge.state = .unconnected from unconnected]
    exact nofun
  endClose := fun h _ => ((h.silent rfl).silent rfl).imp fun _ idle => .shut nofun idle

/-- A connect begins to wait in the end, if the mode is one that reads. -/
theorem connectSteps_led (watched : Watched o₀ g₀) (ifname : String) (mode : OpenMode) :
    ConnectSteps ifname mode (Since (P := P) start o₀ (Resized o₀ g₀))
      (Since start o₀ (Opening mode)) (Since start o₀ fun _ _ => True)
      (Since start o₀ fun _ g => g.wantsRead = false) (Since start o₀ (Led o₀ g₀)) where
  refuse := by
    intro c j e h
    refine (h.silent rfl).imp fun o holds => ?_
    obtain ⟨rfl, unit, gauge⟩ := holds
    rw [show ({ c with error := e } : Connection P).gauge = c.gauge from rfl, gauge]
    exact .resized unit
  prepare := by
    intro c j h unconnected _
    refine Since.silent (h.append fun o holds => ?_) rfl
    rw [Outlook.next_cleared]
    obtain ⟨rfl, unit, gauge⟩ := holds
    refine ⟨rfl, rfl, rfl, rfl, ?_⟩
    have state : g₀.state = .unconnected := (congrArg Gauge.state gauge).symm.trans unconnected
    have idle : g₀.wantsRead = false := watched.shut (by rw [state]; exact nofun)
    exact (congrArg Gauge.wantsRead gauge).trans idle
  connectFailed := fun h _ => ((h.silent rfl).silent rfl).imp fun _ holds =>
    ⟨holds.unexhausted, holds.unsettled, holds.state, holds.mode, holds.idle⟩
  reconnected := by
    rintro c j after ⟨news, rfl, holds⟩ - connected
    have connecting : c.state = .connecting := holds.state
    rw [connecting] at connected
    cases connected
  connected := by
    intro c j after h _ _
    refine ((h.silent rfl).silent rfl).imp fun o holds => .connected holds.unexhausted
      holds.unsettled rfl ?_
    have idle : c.wantsRead = false := holds.idle
    have sameMode : c.mode = mode := holds.mode
    simp [Connection.gauge, idle, sameMode, Connection.hooked]
  giveUp := by
    refine closeSteps_led ?_
    intro o g holds unconnected
    rw [holds.state] at unconnected
    cases unconnected

theorem Request.within_quiet (q : Request P) : q.Within Scope.quiet := by
  cases q <;> exact trivial

theorem Resized.led {o : Outlook} {g : Gauge} (h : Resized o₀ g₀ o g) : Led o₀ g₀ o g := by
  obtain ⟨rfl, unit, rfl⟩ := h
  exact .resized unit

theorem upholds_moving (steady : P.SteadyUnit) {q : Request P} (transfers : q.transfers = true) :
    Socket.Upholds Scope.quiet (Since start o₀ (Moving limit)) (q.perform Socket.emit)
      (Since start o₀ (Moving limit)) :=
  upholds_transfer (transferSteps_moving steady).toCarrySteps (readSteps_moving steady) Since.emits
    (Socket.upholds_completeWrite Since.emits (transferSteps_moving steady))
    (Since.upholds_emit .readyRead) q.within_quiet transfers

/-- Where the socket waits as expected, a request leads on from there. -/
theorem upholds_request (steady : P.SteadyUnit) (watched : Watched o₀ g₀)
    (begun : o₀.connected = false) (q : Request P) :
    Socket.Upholds Scope.quiet (fun c j => c.gauge = g₀ ∧ j = start) (q.perform Socket.emit)
      (Since start o₀ (Led o₀ g₀)) := by
  have begins : ∀ c j, c.gauge = g₀ ∧ j = start →
      Since (P := P) start o₀ (Resized o₀ g₀) c j := by
    rintro c j ⟨rfl, rfl⟩
    exact .begin ⟨rfl, c.unit, rfl⟩
  have leads : ∀ c j, Since (P := P) start o₀ (Resized o₀ g₀) c j →
      Since start o₀ (Led o₀ g₀) c j :=
    fun _ _ h => h.imp fun _ holds => holds.led
  have connects (ifname : String) (mode : OpenMode) :
      Socket.Upholds Scope.quiet (Since start o₀ (Resized o₀ g₀))
        (Socket.connect Socket.emit ifname mode) (Since start o₀ (Led o₀ g₀)) :=
    Socket.upholds_connect (connectSteps_led watched ifname mode) Since.emits Since.emits
      Since.emits Since.emits
  cases transfers : q.transfers with
  | true =>
    have moves : Socket.Upholds Scope.quiet (Since start o₀ (Moving g₀.limit))
        (q.perform Socket.emit) (Since start o₀ (Moving g₀.limit)) :=
      upholds_moving steady transfers
    refine (moves.before ?_).after ?_
    · rintro c j ⟨rfl, rfl⟩
      exact .begin ⟨watched, rfl, begun⟩
    · intro c j h
      exact h.imp fun _ holds => .moved holds.limit holds.stays holds.toWatched
  | false =>
    cases q with
    | connect ifname mode => exact (connects ifname mode).before begins
    | connectWith options ifname mode =>
      have sets : Socket.Upholds Scope.quiet (Since start o₀ (Resized o₀ g₀))
          (Socket.setOptions Socket.emit options) (Since start o₀ (Resized o₀ g₀)) :=
        Socket.upholds_setOptions optionSteps_resized Since.emits options
      refine .bind (sets.before begins) fun _ => .ite (fun _ => ?_) fun _ => ?_
      · exact connects ifname mode
      · exact .pure false leads
    | close =>
      have closes : Socket.Upholds Scope.quiet (Since start o₀ (Resized o₀ g₀))
          (Socket.close Socket.emit) (Since start o₀ (Led o₀ g₀)) :=
        Socket.upholds_close (closeSteps_led fun _ _ holds _ => holds.led) Since.emits Since.emits
          Since.emits
      exact closes.before begins
    | setReadLimit n =>
      refine Socket.upholds_setReadLimit n ?_ ?_
      · intro c j h _
        exact leads c j (begins c j h)
      · rintro c j ⟨rfl, rfl⟩ other
        refine .begin ?_
        rw [Connection.gauge_resumeReading]
        exact .limited (Ne.symm other)
    | setOption option value =>
      have sets : Socket.Upholds Scope.quiet (Since start o₀ (Resized o₀ g₀))
          (Socket.setOption Socket.emit option value) (Since start o₀ (Resized o₀ g₀)) :=
        Socket.upholds_setOption optionSteps_resized Since.emits option value
      exact (sets.before begins).after leads
    | _ => cases transfers

end

/-! ## Runs -/

theorem Watched.perform (steady : P.SteadyUnit) {s s' : Socket P} {o : Outlook}
    (watched : Watched o s.gauge) (handler : ∀ h ∈ s.handler, h.Within Scope.quiet)
    {a : Action P} (inScope : a.Within Scope.quiet) (ran : a.perform s = some ((), s')) :
    Watched (o.step Entry.goesOn s s') s'.gauge ∧ ∀ h ∈ s'.handler, h.Within Scope.quiet := by
  have leads : Socket.Upholds Scope.quiet (fun c j => c.gauge = s.gauge ∧ j = s.journal) a.perform
      (Since s.journal o.begin (Led o.begin s.gauge)) := by
    cases a with
    | ask q => exact .bind (upholds_request steady watched.begin rfl q) fun _ => .skip ()
    | install h =>
      rintro s₀ ⟨⟨same, sameJournal⟩, -⟩
      rw [Action.perform, Socket.install, Socket.after_modify, ← sameJournal, ← same]
      refine ⟨⟨.begin (.resized s₀.gauge.unit), ?_⟩, rfl⟩
      rintro _ ⟨⟩
      exact inScope
  obtain ⟨⟨⟨news, split, led⟩, handler'⟩, -⟩ := leads s ⟨⟨rfl, rfl⟩, handler⟩ () s' ran
  rw [Outlook.step, split, List.drop_left]
  exact ⟨led.watched watched.begin, handler'⟩

theorem watched_of_run (steady : P.SteadyUnit) {actions : List (Action P)} {s s' : Socket P}
    {o : Outlook} (watched : Watched o s.gauge) (handler : ∀ h ∈ s.handler, h.Within Scope.quiet)
    (quiet : ∀ a ∈ actions, a.Within Scope.quiet) (ran : Socket.run actions s = some ((), s')) :
    Watched (outlook Entry.goesOn actions s o) s'.gauge := by
  induction actions generalizing s o with
  | nil =>
    obtain ⟨-, rfl⟩ := Prod.mk.inj (Option.some.inj ran)
    exact watched
  | cons a rest ih =>
    obtain ⟨⟨⟩, s₁, first, ran⟩ := Socket.bind_eq_some.mp ran
    obtain ⟨watched, handler⟩ :=
      watched.perform steady handler (quiet a (List.mem_cons_self ..)) first
    rw [outlook, first]
    exact ih watched handler (fun b member => quiet b (List.mem_cons_of_mem a member)) ran

/-- On a new socket the application knows what there is to know of waiting for data, and it does
after every run as long as handlers ask for nothing. -/
theorem watched_of_fresh (steady : P.SteadyUnit) {protocol : P.State} {endpoint : Endpoint}
    {readChunk writeChunk : Nat} {actions : List (Action P)} {s : Socket P}
    (quiet : ∀ a ∈ actions, a.Within Scope.quiet)
    (ran : Socket.run actions (Socket.fresh protocol endpoint readChunk writeChunk) =
      some ((), s)) :
    Watched (outlook Entry.goesOn actions (Socket.fresh protocol endpoint readChunk writeChunk)
      Outlook.initial) s.gauge := by
  have start : Watched Outlook.initial
      (Socket.fresh protocol endpoint readChunk writeChunk).gauge :=
    .of_shut nofun rfl
  refine watched_of_run steady start ?_ quiet ran
  intro h member
  cases member

/-- Between two actions of an application whose handlers ask for nothing, a connected socket waits
for data only if its mode is one that reads, and no read failed for want of resources without the
application going on since. Where nothing else than data made room or left none since the
application went on with room left, the socket waits if and only if there is also room for one more
unit. -/
theorem wantsRead_iff_of_settled (steady : P.SteadyUnit) {protocol : P.State}
    {endpoint : Endpoint} {readChunk writeChunk : Nat} {actions : List (Action P)} {s : Socket P}
    (quiet : ∀ a ∈ actions, a.Within Scope.quiet)
    (ran : Socket.run actions (Socket.fresh protocol endpoint readChunk writeChunk) =
      some ((), s))
    (connected : s.state = .connected) :
    let o := outlook Entry.goesOn actions
      (Socket.fresh protocol endpoint readChunk writeChunk) Outlook.initial
    (s.wantsRead = true → s.mode.reads = true ∧ o.exhausted = false) ∧
      (o.settled = true →
        (s.wantsRead = true ↔
          s.mode.reads = true ∧ s.hasReadRoom = true ∧ o.exhausted = false)) := by
  have watched := watched_of_fresh steady quiet ran
  refine ⟨watched.allowed, fun settled => ⟨fun waits => ?_, ?_⟩⟩
  · obtain ⟨reads, unexhausted⟩ := watched.allowed waits
    refine ⟨reads, ?_, unexhausted⟩
    by_contra noRoom
    have idle : s.wantsRead = false := watched.full settled (Bool.eq_false_iff.mpr noRoom)
    rw [idle] at waits
    cases waits
  · rintro ⟨reads, room, unexhausted⟩
    exact watched.roomy connected (.inl settled) reads room unexhausted

/-- A run in which frames are read up to the limit, and one is taken. -/
def Raw.throttledRun : List (Action Raw.protocol) :=
  [.ask (.setReadLimit 40), .ask (.connect "" .readWrite),
    .ask (.cue (.pushRead (List.replicate 16 1))), .ask (.cue (.pushRead (List.replicate 16 2))),
    .ask (.cue (.pushRead (List.replicate 16 3))), .ask .readReady, .ask .readFrame]

/-- A run in which a payload is read that goes over the limit. -/
def IsoTp.throttledRun : List (Action IsoTp.protocol) :=
  [.ask (.cue (.addInterface ⟨"vcan0", 3, 16⟩)),
    .ask (.connectWith IsoTp.exampleIds "vcan0" .readWrite), .ask (.setReadLimit 4),
    .ask (.cue (.pushRead [1, 2, 3, 4, 5])), .ask .readReady]

/-- The one socket waits again, and the other one does not. -/
theorem wantsRead_iff_of_settled_throttledRuns :
    (∃ s, Socket.run Raw.throttledRun (Socket.fresh .initial .blank 20 20) = some ((), s) ∧
      (∀ a ∈ Raw.throttledRun, a.Within Scope.quiet) ∧ s.state = .connected ∧
      (s.wantsRead = true ↔ s.mode.reads = true ∧ s.hasReadRoom = true ∧
        (outlook Entry.goesOn Raw.throttledRun (Socket.fresh .initial .blank 20 20)
          .initial).exhausted = false) ∧ s.wantsRead = true) ∧
    ∃ s, Socket.run IsoTp.throttledRun (Socket.fresh .initial .blank 20 20) = some ((), s) ∧
      (∀ a ∈ IsoTp.throttledRun, a.Within Scope.quiet) ∧ s.state = .connected ∧
      (s.wantsRead = true ↔ s.mode.reads = true ∧ s.hasReadRoom = true ∧
        (outlook Entry.goesOn IsoTp.throttledRun (Socket.fresh .initial .blank 20 20)
          .initial).exhausted = false) ∧ s.wantsRead = false := by
  constructor
  · obtain ⟨s, ran, outcome⟩ : ∃ s, Socket.run Raw.throttledRun
        (Socket.fresh .initial .blank 20 20) = some ((), s) ∧
        (s.state, s.wantsRead) = (.connected, true) :=
      Socket.exists_run (by decide +kernel)
    obtain ⟨connected, waits⟩ := Prod.mk.inj outcome
    have quiet : ∀ a ∈ Raw.throttledRun, a.Within Scope.quiet := by
      simp [Raw.throttledRun, Action.Within, Request.within_quiet]
    obtain ⟨-, decides⟩ := wantsRead_iff_of_settled Raw.steadyUnit quiet ran connected
    exact ⟨s, ran, quiet, connected, decides (by decide +kernel), waits⟩
  · obtain ⟨s, ran, outcome⟩ : ∃ s, Socket.run IsoTp.throttledRun
        (Socket.fresh .initial .blank 20 20) = some ((), s) ∧
        (s.state, s.wantsRead) = (.connected, false) :=
      Socket.exists_run (by decide +kernel)
    obtain ⟨connected, waits⟩ := Prod.mk.inj outcome
    have quiet : ∀ a ∈ IsoTp.throttledRun, a.Within Scope.quiet := by
      simp [IsoTp.throttledRun, Action.Within, Request.within_quiet]
    obtain ⟨-, decides⟩ := wantsRead_iff_of_settled IsoTp.steadyUnit quiet ran connected
    exact ⟨s, ran, quiet, connected, decides (by decide +kernel), waits⟩

/-- Whether some data was taken out of the read buffer. -/
def Entry.yields : Entry P → Bool
  | taken data => !data.isEmpty
  | _ => false

/-- A run heeds the room if it leaves a connected socket waiting for data exactly where its mode is
one that reads, there is room for one more unit, and no read failed for want of resources since some
data was taken or the limit changed. -/
def HeedsRoom (actions : List (Action Raw.protocol)) : Prop :=
  ∀ s, (∀ a ∈ actions, a.Within Scope.quiet) →
    Socket.run actions (Socket.fresh .initial .blank 20 20) = some ((), s) →
    s.state = .connected →
    (s.wantsRead = true ↔ s.mode.reads = true ∧ s.hasReadRoom = true ∧
      (outlook Entry.yields actions (Socket.fresh .initial .blank 20 20) .initial).exhausted =
        false)

/-- Runs that end with no regard to the room or to a failure. -/
def heedlessRuns : List (List (Action Raw.protocol)) :=
  -- The socket connects with a limit below the size of a frame.
  [[.ask (.setReadLimit 8), .ask (.connect "" .readWrite)],
    -- It connects again after a read failed for want of resources.
    [.ask (.connect "" .readWrite), .ask (.cue (.pushReadError Errno.noBuffers)), .ask .readReady,
      .ask .close, .ask (.connect "" .readWrite)],
    -- Data is asked for after such a failure, and there is none.
    [.ask (.connect "" .readWrite), .ask (.cue (.pushReadError Errno.noBuffers)), .ask .readReady,
      .ask (.read 16)],
    -- The limit goes below what is held.
    [.ask (.connect "" .readWrite), .ask (.cue (.pushRead (List.replicate 16 1))),
      .ask .readReady, .ask (.setReadLimit 8)],
    -- Flexible frames do not fit the limit.
    [.ask (.setReadLimit 64), .ask (.connect "" .readWrite),
      .ask (.setOption .fdFrames (.fdFrames true))],
    -- A classic frame fits where a flexible one did not.
    [.ask (.setReadLimit 100), .ask (.connect "" .readWrite),
      .ask (.setOption .fdFrames (.fdFrames true)),
      .ask (.cue (.pushRead (List.replicate 72 1))), .ask .readReady,
      .ask (.setOption .fdFrames (.fdFrames false))]]

/-- Whether the run ends with a connected socket that waits for data where it should not, or does
not where it should. -/
def heedless (actions : List (Action Raw.protocol)) : Bool :=
  match Socket.run actions (Socket.fresh .initial .blank 20 20) with
  | none => false
  | some (_, s) =>
      let exhausted :=
        (outlook Entry.yields actions (Socket.fresh .initial .blank 20 20) .initial).exhausted
      decide (s.state = .connected) &&
        (s.wantsRead != (s.mode.reads && s.hasReadRoom && !exhausted))

theorem not_heedsRoom {actions : List (Action Raw.protocol)}
    (quiet : ∀ a ∈ actions, a.Within Scope.quiet) (strays : heedless actions = true) :
    ¬HeedsRoom actions := by
  intro heeds
  unfold heedless at strays
  cases ran : Socket.run actions (Socket.fresh .initial .blank 20 20) with
  | none => simp [ran] at strays
  | some outcome =>
    obtain ⟨⟨⟩, s⟩ := outcome
    simp only [ran, Bool.and_eq_true, decide_eq_true_eq, bne_iff_ne] at strays
    obtain ⟨connected, differs⟩ := strays
    refine differs (Bool.eq_iff_iff.mpr ?_)
    rw [heeds s quiet ran connected]
    simp [and_assoc]

theorem not_exists_heedsRoom : ¬∃ actions ∈ heedlessRuns, HeedsRoom actions := by
  rintro ⟨actions, member, heeds⟩
  have strays : ∀ actions ∈ heedlessRuns, heedless actions = true := by decide +kernel
  have quiet : ∀ actions ∈ heedlessRuns, ∀ a ∈ actions, a.Within Scope.quiet := by
    simp [heedlessRuns, Action.Within, Request.within_quiet]
  exact not_heedsRoom (quiet actions member) (strays actions member) heeds

end CanStream
