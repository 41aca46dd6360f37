import CanStream.Socket.Dispatch

/-!
# Outlines

An outline says what is so of a socket's connection and journal between the steps of its
operations. It is sound if every step that an operation takes between two events keeps to it. What
is so whenever an event is raised holds around the scripts of handlers as well, for they only make
requests of their own.

While a socket is being closed, a handler may connect it again, and the close goes on all the same.
What holds then is an assertion of its own. So is what holds while an arrival is being reported, and
while a handler pauses between the events that it is handed, where these differ from the rest.
-/

namespace CanStream

variable {P : Protocol}

/-- Bounds on what a run asks of a socket. -/
structure Scope (P : Protocol) where
  /-- The bytes that are queued as they are. -/
  bytes : List UInt8 → Prop
  /-- The frames that are queued. -/
  frames : Frame → Prop
  /-- Whether bytes are taken out of the read buffer as they are. -/
  takesBytes : Prop
  /-- The changes to the endpoint's script. -/
  cues : Endpoint.Cue → Prop
  /-- Whether handlers make requests. -/
  handlersAsk : Prop := True

/-- The scope of every request. -/
def Scope.all : Scope P where
  bytes := fun _ => True
  frames := fun _ => True
  takesBytes := True
  cues := fun _ => True

/-- The request asks for nothing out of scope. -/
def Request.Within (scope : Scope P) : Request P → Prop
  | .write data => scope.bytes data
  | .streamWrite data => scope.bytes data
  | .writeFrame f => scope.frames f
  | .transmit f => scope.frames f
  | .read _ => scope.takesBytes
  | .readAll => scope.takesBytes
  | .readLine _ => scope.takesBytes
  | .streamRead _ => scope.takesBytes
  | .cue c => scope.cues c
  | _ => True

mutual

/-- The handler only ever makes requests in scope. -/
def Handler.Within (scope : Scope P) : Handler P → Prop
  | .silent _ => True
  | .on _ _ react => ∀ e, (react e).Within scope

/-- The script and the handlers it leads to only make requests in scope. -/
def Script.Within (scope : Scope P) : Script P → Prop
  | .done next => next.Within scope
  | .note _ rest => rest.Within scope
  | .install h rest => h.Within scope ∧ rest.Within scope
  | .call q next => scope.handlersAsk ∧ q.Within scope ∧ ∀ answer, (next answer).Within scope

end

theorem Request.within_all (q : Request P) : q.Within Scope.all := by
  cases q <;> exact trivial

mutual

theorem Handler.within_all : (h : Handler P) → h.Within Scope.all
  | .silent _ => trivial
  | .on _ _ react => fun e => (react e).within_all

theorem Script.within_all : (t : Script P) → t.Within Scope.all
  | .done next => next.within_all
  | .note _ rest => rest.within_all
  | .install h rest => ⟨h.within_all, rest.within_all⟩
  | .call q next => ⟨trivial, q.within_all, fun answer => (next answer).within_all⟩

end

/-! ## The steps between events -/

/-- What may be so of a connection and a journal. -/
abbrev Assertion (P : Protocol) : Type := Connection P → List (Entry P) → Prop

namespace Connection

/-- The connection after a hook of the protocol. -/
def hooked (c : Connection P) (after : P.State × Endpoint) : Connection P :=
  { c with protocol := after.1, endpoint := after.2 }

/-- The connection with what came of a read put into its read buffer. -/
def settleRead (c before : Connection P) (window : Nat) :
    Except IoError (List UInt8) → Connection P
  | .ok bytes => c.takeIn before window bytes
  | .error cause =>
      if cause.shouldRetry then c.takeIn before window [] else c.refuseRead window cause

@[simp] theorem reportingRead_settleRead (c before : Connection P) (window : Nat)
    (result : Except IoError (List UInt8)) :
    (c.settleRead before window result).reportingRead = c.reportingRead := by
  cases result with
  | ok bytes => rfl
  | error cause =>
    rw [settleRead]
    split <;> rfl

/-- The connection with what came of a write taken over. -/
def settleWrite (c : Connection P) : Except IoError Nat → Connection P
  | .ok n => c.takeOver n
  | .error cause => c.refuseWrite cause

end Connection

/-- The entry for the frame at the start of some bytes, if there is one. -/
def frameEntry (bytes : List UInt8) : List (Entry P) :=
  match Frame.ofKernel? bytes with
  | some (f, _) => [.frameTaken f]
  | none => []

/-- What is so of a journal, and with any frame that is taken behind it, is so whatever the bytes
hold. -/
theorem holds_append_frameEntry {motive : List (Entry P) → Prop} {j : List (Entry P)}
    {bytes : List UInt8} (silent : motive j) (frame : ∀ f, motive (j ++ [.frameTaken f])) :
    motive (j ++ frameEntry bytes) := by
  unfold frameEntry
  split
  case h_1 f _ _ => exact frame f
  case h_2 =>
    rw [List.append_nil]
    exact silent

/-- The read did not fail: it gave some bytes, or found nothing to read. -/
def Passed (result : Except IoError (List UInt8)) : Prop :=
  ∀ cause, result = .error cause → cause.shouldRetry = true

/-- The entry for a read of the protocol. -/
def Connection.readEntry (c : Connection P) (after : P.State × Endpoint)
    (result : Except IoError (List UInt8)) : Entry P :=
  .readHook (P.msgSize c.protocol) (c.endpoint.arrivalsTaken after.2) (result.map List.length)

/-- The steps that are also taken in the midst of a close. -/
structure BasicSteps (inv : Assertion P) : Prop where
  error : ∀ {c j} (e : SocketError), inv c j →
    inv { c with error := e } (j ++ [.raised (.error e.kind)])

/-- The steps within a close. -/
structure ClosingSteps (closing : Assertion P) : Prop extends BasicSteps closing where
  closeEndpoint : ∀ {c j}, closing c j →
    closing { c with endpoint := (Endpoint.close c.endpoint).2 } j
  hush : ∀ {c j}, closing c j → closing c.hush j

/-- The steps of a write lead from `between`, when a completed one has been reported, to `inv`. -/
structure WriteSteps (inv between : Assertion P) : Prop extends BasicSteps inv where
  idle : ∀ {c j}, between c j → c.writeBuffer.isEmpty = true →
    inv { c with wantsWrite := false } j
  write : ∀ {c j result after}, between c j → c.writeBuffer.isEmpty = false →
    (P.write c.align.writeBuffer.head).exec (c.protocol, c.endpoint) = (result, after) →
    inv ((c.align.hooked after).settleWrite result)
      (j ++ [.writeHook c.reportingWrite c.align.writeBuffer.head
        (c.endpoint.writesTried after.2) (c.endpoint.writesMade after.2) result])

/-- The steps of an operation that move data through the buffers or look at the connection, other
than reads and the report of a completed write, lead from `inv` to `inv`. In the midst of a write
they may lead to `between`. -/
structure CarrySteps (scope : Scope P) (inv between : Assertion P) : Prop
    extends WriteSteps inv between where
  clearError : ∀ {c j}, inv c j → inv { c with error := SocketError.none } j
  inspected : ∀ {c j}, inv c j → inv c (j ++ [.inspected c])
  takeBytes : ∀ {c j} n, scope.takesBytes → inv c j →
    inv { c with readBuffer := (c.readBuffer.read n).2 }.resumeReading
      (j ++ [.taken (c.readBuffer.read n).1])
  takeFrame : ∀ {c j header}, inv c j → c.readBuffer.peek headerSize = header →
    header.length = headerSize → Socket.frameSize header ≤ c.available →
    inv { c with readBuffer := (c.readBuffer.read (Socket.frameSize header)).2 }.resumeReading
      (j ++ [.taken (c.readBuffer.read (Socket.frameSize header)).1] ++
        frameEntry (c.readBuffer.read (Socket.frameSize header)).1)
  queueBytes : ∀ {c j data}, scope.bytes data → inv c j → c.state = .connected →
    c.mode.writes = true → inv (c.enqueue data) (j ++ [.queued data])
  queueFrame : ∀ {c j f}, scope.frames f → inv c j → c.state = .connected →
    c.mode.writes = true → f.kind ≠ .unknown →
    (f.kind = .fd → P.carriesFd c.protocol = true) →
    inv (c.enqueue f.toKernel) (j ++ [.queued f.toKernel] ++ [.frameQueued f])
  cue : ∀ {c j q}, scope.cues q → inv c j → inv { c with endpoint := c.endpoint.cue q } j
  poll : ∀ {c j} read write, inv c j →
    inv { c with endpoint := (Endpoint.poll read write c.endpoint).2 } j
  takeWritten : ∀ {c j}, inv c j →
    inv { c with endpoint := { c.endpoint with written := [] } } j
  sever : ∀ {c j}, inv c j →
    inv { c with endpoint := (Endpoint.close c.endpoint).2 } (j ++ [.severed])

/-- The steps of an operation that move data or look at the connection, where the report of a
completed write is not set apart from the rest. -/
structure TransferSteps (scope : Scope P) (inv between : Assertion P) : Prop
    extends CarrySteps scope inv between where
  beginReport : ∀ {c j}, inv c j → 0 < c.pending → c.reportingWrite = false →
    inv c.report (j ++ [.raised (.bytesWritten c.pending)])
  endReport : ∀ {c j}, inv c j → c.reportingWrite = true →
    between { c with reportingWrite := false, writeStarted := false } j
  skipReport : ∀ {c j}, inv c j → c.pending = 0 ∨ c.reportingWrite = true →
    between { c with writeStarted := false } j

/-- The steps of setting options. -/
structure OptionSteps (inv : Assertion P) : Prop extends BasicSteps inv where
  refuseOption : ∀ {c j cause after} value, inv c j →
    (P.applyOption c.state value).exec (c.protocol, c.endpoint) = (.error cause, after) →
    inv (c.hooked after) j
  keepOption : ∀ {c j after} value, inv c j →
    (P.applyOption c.state value).exec (c.protocol, c.endpoint) = (.ok (), after) →
    inv { c.hooked after with protocol := (P.keepOption value after.1).2 } (j ++ [.kept value])
  optionChanged : ∀ {c j} option, inv c j → inv c (j ++ [.raised (.optionChanged option)])

/-- The steps of an operation that have nothing to do with arrivals, nor with connecting or closing,
lead from `inv` to `inv`. In the midst of a write they may lead to `between`. -/
structure LocalSteps (scope : Scope P) (inv between : Assertion P) : Prop
    extends TransferSteps scope inv between, OptionSteps inv where
  setReadLimit : ∀ {c j} n, inv c j → c.readLimit ≠ n →
    inv { c with readLimit := n }.resumeReading j

/-- The steps of a read lead from `start` to `inv`. One that has an arrival to report leads to
`announcing`, in which it stays until the report is over. -/
structure PumpSteps (start inv announcing : Assertion P) : Prop where
  full : ∀ {c j}, start c j → c.readWindow? = none → inv c j
  refuseRead : ∀ {c j window cause after}, start c j → c.readWindow? = some window →
    (P.read window).exec (c.protocol, c.endpoint) = (.error cause, after) →
    cause.shouldRetry = false →
    inv ((c.hooked after).settleRead c window (.error cause))
      (j ++ [c.readEntry after (.error cause)])
  receive : ∀ {c c' j window result after}, start c j → c.readWindow? = some window →
    (P.read window).exec (c.protocol, c.endpoint) = (result, after) →
    Passed result → (c.hooked after).settleRead c window result = c' →
    ¬(c.available < c'.available ∧ c.reportingRead = false) →
    inv c' (j ++ [c.readEntry after result] ++ [.received c.available c'.available])
  announce : ∀ {c c' j window result after}, start c j → c.readWindow? = some window →
    (P.read window).exec (c.protocol, c.endpoint) = (result, after) →
    Passed result → (c.hooked after).settleRead c window result = c' →
    c.available < c'.available → c.reportingRead = false →
    announcing { c' with reportingRead := true }
      (j ++ [c.readEntry after result] ++ [.received c.available c'.available] ++
        [.raised .readyRead])
  endAnnounce : ∀ {c j}, announcing c j → c.reportingRead = true →
    inv { c with reportingRead := false } j

/-- The steps of a read lead from `inv` back to it. -/
structure ReadSteps (inv announcing : Assertion P) : Prop extends PumpSteps inv inv announcing where
  full := fun h _ => h

/-- The steps of a close lead from `start` to `done`: through `closing`, while the news that the
socket is closing is answered, and through `released`, once the descriptor was given up. -/
structure CloseSteps (start closing released done : Assertion P) : Prop where
  stay : ∀ {c j}, start c j → c.state = .unconnected → done c j
  beginClose : ∀ {c j}, start c j → c.state ≠ .unconnected → c.state ≠ .closing →
    closing { c with state := .closing } (j ++ [.raised (.stateChanged .closing)])
  goOnClosing : ∀ {c j}, start c j → c.state = .closing → closing c j
  release : ∀ {c j}, closing c j →
    released { c.hush with endpoint := (Endpoint.close c.endpoint).2 } j
  releaseFailed : ∀ {c j} (e : SocketError), released c j →
    released { c with error := e } (j ++ [.raised (.error e.kind)])
  discard : ∀ {c j}, released c j → c.state = .unconnected → done c.discard (j ++ [.discarded])
  endClose : ∀ {c j}, released c j → c.state ≠ .unconnected →
    done { c.discard with state := .unconnected }
      (j ++ [.discarded] ++ [.raised (.stateChanged .unconnected)])

/-- The steps of a connect to an interface in a mode lead from `start` to `done`: through `opening`,
while the news that the socket is connecting is answered and after a failed set-up, and from there
perhaps through a close. -/
structure ConnectSteps (ifname : String) (mode : OpenMode)
    (start opening closing released done : Assertion P) : Prop where
  refuse : ∀ {c j} (e : SocketError), start c j →
    done { c with error := e } (j ++ [.raised (.error e.kind)])
  prepare : ∀ {c j}, start c j → c.state = .unconnected → mode.isSupported = true →
    opening { c.prepare ifname mode with state := .connecting }
      (j ++ [.cleared ifname mode] ++ [.raised (.stateChanged .connecting)])
  connectFailed : ∀ {c j cause after}, opening c j →
    (P.connect ifname).exec (c.protocol, c.endpoint) = (.error cause, after) →
    opening { c.hooked after with error := cause }
      (j ++ [.setUp (.error cause)] ++ [.raised (.error cause.kind)])
  reconnected : ∀ {c j after}, opening c j →
    (P.connect ifname).exec (c.protocol, c.endpoint) = (.ok (), after) → c.state = .connected →
    done { c.hooked after with wantsRead := c.wantsRead || mode.reads } (j ++ [.setUp (.ok ())])
  connected : ∀ {c j after}, opening c j →
    (P.connect ifname).exec (c.protocol, c.endpoint) = (.ok (), after) → c.state ≠ .connected →
    done { c.hooked after with wantsRead := c.wantsRead || mode.reads, state := .connected }
      (j ++ [.setUp (.ok ())] ++ [.raised (.stateChanged .connected)])
  giveUp : CloseSteps opening closing released done

/-- The steps of connecting and closing lead from `inv` to `inv`. While the news that the socket is
connecting is answered they are at `opening`, and so they are after a failed set-up, until they go
on to close the socket. -/
structure Lifecycle (inv opening closing released : Assertion P) : Prop where
  prepare : ∀ {c j} ifname mode, inv c j → c.state = .unconnected → mode.isSupported = true →
    opening { c.prepare ifname mode with state := .connecting }
      (j ++ [.cleared ifname mode] ++ [.raised (.stateChanged .connecting)])
  connectFailed : ∀ {c j cause after} ifname, opening c j →
    (P.connect ifname).exec (c.protocol, c.endpoint) = (.error cause, after) →
    opening { c.hooked after with error := cause }
      (j ++ [.setUp (.error cause)] ++ [.raised (.error cause.kind)])
  reconnected : ∀ {c j after} ifname (mode : OpenMode), opening c j →
    (P.connect ifname).exec (c.protocol, c.endpoint) = (.ok (), after) →
    c.state = .connected →
    inv { c.hooked after with wantsRead := c.wantsRead || mode.reads } (j ++ [.setUp (.ok ())])
  connected : ∀ {c j after} ifname (mode : OpenMode), opening c j →
    (P.connect ifname).exec (c.protocol, c.endpoint) = (.ok (), after) →
    c.state ≠ .connected →
    inv { c.hooked after with wantsRead := c.wantsRead || mode.reads, state := .connected }
      (j ++ [.setUp (.ok ())] ++ [.raised (.stateChanged .connected)])
  giveUp : CloseSteps opening closing released inv
  close : CloseSteps inv closing released inv

theorem Lifecycle.connectSteps {inv opening closing released : Assertion P}
    (life : Lifecycle inv opening closing released) (basic : BasicSteps inv) (ifname : String)
    (mode : OpenMode) : ConnectSteps ifname mode inv opening closing released inv where
  refuse := basic.error
  prepare := life.prepare ifname mode
  connectFailed := life.connectFailed ifname
  reconnected := life.reconnected ifname mode
  connected := life.connected ifname mode
  giveUp := life.giveUp

/-- The steps of an operation that have nothing to do with arrivals, where connecting is not set
apart from the rest and all of a close is at `closing`. -/
structure QuietSteps (scope : Scope P) (inv between closing : Assertion P) : Prop
    extends LocalSteps scope inv between where
  beginClose : ∀ {c j}, inv c j → c.state ≠ .unconnected → c.state ≠ .closing →
    closing { c with state := .closing } (j ++ [.raised (.stateChanged .closing)])
  goOnClosing : ∀ {c j}, inv c j → c.state = .closing → closing c j
  discard : ∀ {c j}, closing c j → c.state = .unconnected →
    inv c.discard (j ++ [.discarded])
  endClose : ∀ {c j}, closing c j → c.state ≠ .unconnected →
    inv { c.discard with state := .unconnected }
      (j ++ [.discarded] ++ [.raised (.stateChanged .unconnected)])
  prepare : ∀ {c j} ifname mode, inv c j → c.state = .unconnected →
    inv { c.prepare ifname mode with state := .connecting }
      (j ++ [.cleared ifname mode] ++ [.raised (.stateChanged .connecting)])
  connectFailed : ∀ {c j cause after} ifname, inv c j →
    (P.connect ifname).exec (c.protocol, c.endpoint) = (.error cause, after) →
    inv (c.hooked after) (j ++ [.setUp (.error cause)])
  reconnected : ∀ {c j after} ifname (mode : OpenMode), inv c j →
    (P.connect ifname).exec (c.protocol, c.endpoint) = (.ok (), after) →
    c.state = .connected →
    inv { c.hooked after with wantsRead := c.wantsRead || mode.reads } (j ++ [.setUp (.ok ())])
  connected : ∀ {c j after} ifname (mode : OpenMode), inv c j →
    (P.connect ifname).exec (c.protocol, c.endpoint) = (.ok (), after) →
    c.state ≠ .connected →
    inv { c.hooked after with wantsRead := c.wantsRead || mode.reads, state := .connected }
      (j ++ [.setUp (.ok ())] ++ [.raised (.stateChanged .connected)])

section

variable {scope : Scope P} {inv between closing : Assertion P}

theorem QuietSteps.close (steps : QuietSteps scope inv between closing)
    (within : ClosingSteps closing) : CloseSteps inv closing closing inv where
  stay := fun h _ => h
  beginClose := fun h isOpen other => steps.beginClose h isOpen other
  goOnClosing := fun h isClosing => steps.goOnClosing h isClosing
  release := fun h => within.closeEndpoint (within.hush h)
  releaseFailed := fun e h => within.error e h
  discard := fun h isUnconnected => steps.discard h isUnconnected
  endClose := fun h isOpen => steps.endClose h isOpen

theorem QuietSteps.lifecycle (steps : QuietSteps scope inv between closing)
    (within : ClosingSteps closing) : Lifecycle inv inv closing closing where
  prepare := fun ifname mode h isUnconnected _ => steps.prepare ifname mode h isUnconnected
  connectFailed := fun {_ _ cause _} ifname h ran =>
    steps.error cause (steps.connectFailed ifname h ran)
  reconnected := fun ifname mode h ran isConnected =>
    steps.reconnected ifname mode h ran isConnected
  connected := fun ifname mode h ran other => steps.connected ifname mode h ran other
  giveUp := steps.close within
  close := steps.close within

end

/-- All steps of an operation. -/
structure Moves (scope : Scope P) (inv between closing announcing : Assertion P) : Prop
    extends QuietSteps scope inv between closing, ReadSteps inv announcing

/-- The steps of a handler between its requests. One that is handed an event goes from `pausing`,
with the events that wait, to `inv`, and back when it is done. -/
structure Turns (inv : Assertion P) (pausing : List P.Event → Assertion P) : Prop where
  delivery : ∀ {c j queue} label e, pausing (e :: queue) c j → inv c (j ++ [.delivered label e])
  returned : ∀ {c j} queue, inv c j → pausing queue c (j ++ [.returned])
  noted : ∀ {c j} text, inv c j → inv c (j ++ [.noted text])

/-- Every step of an operation and of a handler, taken by itself, leads from `inv` to `inv`. -/
structure Steps (scope : Scope P) (inv between closing : Assertion P) : Prop
    extends QuietSteps scope inv between closing, Turns inv (fun _ => inv) where
  read : ∀ {c j window result after}, inv c j → c.readWindow? = some window →
    (P.read window).exec (c.protocol, c.endpoint) = (result, after) →
    inv ((c.hooked after).settleRead c window result)
      (j ++ [.readHook (P.msgSize c.protocol) (c.endpoint.arrivalsTaken after.2)
        (result.map List.length)])
  received : ∀ {c j} before, inv c j → inv c (j ++ [.received before c.available])
  beginAnnounce : ∀ {c j}, inv c j → c.reportingRead = false →
    inv { c with reportingRead := true } (j ++ [.raised .readyRead])
  endAnnounce : ∀ {c j}, inv c j → c.reportingRead = true →
    inv { c with reportingRead := false } j

/-- Where every step by itself leads back to the assertion, a read and its report do. -/
theorem Steps.moves {scope : Scope P} {inv between closing : Assertion P}
    (steps : Steps scope inv between closing) : Moves scope inv between closing inv where
  toQuietSteps := steps.toQuietSteps
  refuseRead := fun h asked ran _ => steps.read h asked ran
  receive := by
    rintro c _ j window result after h asked ran - rfl -
    exact steps.received _ (steps.read h asked ran)
  announce := by
    rintro c _ j window result after h asked ran - rfl - quiet
    refine steps.beginAnnounce (steps.received _ (steps.read h asked ran)) ?_
    rwa [Connection.reportingRead_settleRead]
  endAnnounce := fun h reporting => steps.endAnnounce h reporting

/-- What is so whenever an operation is over or an event is raised, what is so in the midst of a
write, and what is so while the socket is being closed. -/
structure Outline (P : Protocol) where
  inv : Assertion P
  between : Assertion P
  closing : Assertion P

/-- The steps within a close keep to the outline as well as the others. -/
structure Outline.Sound (scope : Scope P) (A : Outline P) : Prop where
  steps : Steps scope A.inv A.between A.closing
  closingSteps : Steps scope A.closing A.closing A.closing
  closeEndpoint : ∀ {c j}, A.closing c j →
    A.closing { c with endpoint := (Endpoint.close c.endpoint).2 } j
  hush : ∀ {c j}, A.closing c j → A.closing c.hush j

end CanStream
