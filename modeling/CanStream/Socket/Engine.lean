import CanStream.Socket.Basic

/-!
# The engine of a socket

The operations that move a socket through its states and data through its buffers. Each takes the
way in which events are raised as an argument, so that it means the same within a handler, where
events wait, as outside of one, where they are delivered at once. After every event the operation
goes on with the socket as the event's handler left it.
-/

namespace CanStream.Socket

variable {P : Protocol} {α : Type}

section

variable (emit : Emit P)

/-- Moves the socket to a state, and reports it if it is another one. -/
def setState (state : SocketState) : SocketM P Unit := do
  let s ← get
  if s.state = state then pure ()
  else do
    update fun c => { c with state := state }
    emit (.stateChanged state)

/-- Makes an error the socket's current one, and reports it. -/
def setError (error : SocketError) : SocketM P Unit := do
  update fun c => { c with error := error }
  emit (.error error.kind)

/-- Makes the failure of a call the socket's error. -/
def reportFailure (result : Except IoError α) : SocketM P Unit :=
  match result with
  | .ok _ => pure ()
  | .error e => setError emit (SocketError.ofIo e)

/-- Closes the socket. What is buffered is lost, and what the descriptor took is not reported any
more. An unconnected socket stays as it is. -/
def close : SocketM P Unit := do
  let s ← get
  if s.state = .unconnected then pure ()
  else do
    setState emit .closing
    update Connection.hush
    let result ← callEndpoint Endpoint.close
    reportFailure emit result
    update Connection.discard
    record .discarded
    setState emit .unconnected

/-- Connects the socket to an interface. -/
def connect (ifname : String) (mode : OpenMode) : SocketM P Bool := do
  let s ← get
  if s.state ≠ .unconnected then do
    setError emit ⟨.operationError, "Trying to connect while connection is in progress"⟩
    pure false
  else if !mode.isSupported then do
    setError emit ⟨.unsupportedOperation, "Unsupported open mode"⟩
    pure false
  else do
    update (·.prepare ifname mode)
    record (.cleared ifname mode)
    setState emit .connecting
    let result ← runHook (P.connect ifname)
    record (.setUp result)
    match result with
    | .error cause => do
        setError emit cause
        close emit
        pure false
    | .ok _ => do
        update fun c => { c with wantsRead := c.wantsRead || mode.reads }
        setState emit .connected
        pure true

/-! ## The pumps -/

/-- Reports the arrival of data, unless that is being reported already. -/
def announceRead (available : Nat) : SocketM P Unit := do
  let s ← get
  if available < s.available ∧ s.reportingRead = false then do
    update fun c => { c with reportingRead := true }
    emit .readyRead
    update fun c => { c with reportingRead := false }
  else pure ()

/-- Puts what was read into the read buffer, and reports it. -/
def takeIn (before : Connection P) (window : Nat) (bytes : List UInt8) : SocketM P Bool := do
  update (·.takeIn before window bytes)
  let s ← get
  record (.received before.available s.available)
  announceRead emit before.available
  pure true

/-- Makes a failed read the socket's error. -/
def refuseRead (window : Nat) (cause : IoError) : SocketM P Bool := do
  update (·.refuseRead window cause)
  setError emit (SocketError.ofTransfer .readError cause)
  pure false

/-- Reads from the descriptor into the read buffer. -/
def pumpRead : SocketM P Bool := do
  let s ← get
  match s.readWindow? with
  | none => pure false
  | some window => do
      let result ← runHook (P.read window)
      let after ← get
      record (.readHook (P.msgSize s.protocol) (s.endpoint.arrivalsTaken after.endpoint)
        (result.map List.length))
      match result with
      | .ok bytes => takeIn emit s.toConnection window bytes
      | .error cause =>
          if cause.shouldRetry then takeIn emit s.toConnection window []
          else refuseRead emit window cause

/-- Makes a failed write the socket's error. -/
def refuseWrite (cause : IoError) : SocketM P Bool := do
  update (·.refuseWrite cause)
  setError emit (SocketError.ofTransfer .writeError cause)
  pure false

/-- Starts a write from the head of the write buffer, unless one is under way. -/
def startWrite : SocketM P Bool := do
  let s ← get
  if s.writeBuffer.isEmpty || s.writeStarted then pure true
  else do
    update Connection.align
    let before ← get
    let offered := before.writeBuffer.head
    let result ← runHook (P.write offered)
    let after ← get
    record (.writeHook before.reportingWrite offered
      (before.endpoint.writesTried after.endpoint) (before.endpoint.writesMade after.endpoint)
      result)
    match result with
    | .error cause => refuseWrite emit cause
    | .ok n => do
        update (·.takeOver n)
        pure true

/-- Reports what the descriptor took before, unless that is being reported already. -/
def reportWritten : SocketM P Unit := do
  let s ← get
  if 0 < s.pending ∧ s.reportingWrite = false then do
    update Connection.report
    emit (.bytesWritten s.pending)
    update fun c => { c with reportingWrite := false }
  else pure ()

/-- Completes the write under way and starts the next one. -/
def completeWrite : SocketM P Bool := do
  reportWritten emit
  update fun c => { c with writeStarted := false }
  let s ← get
  if s.writeBuffer.isEmpty then do
    update fun c => { c with wantsWrite := false }
    pure true
  else startWrite emit

/-- Takes notice that the descriptor is readable. -/
def readReady : SocketM P Bool := do
  let s ← get
  if s.state = .connected ∧ s.wantsRead then pumpRead emit else pure false

/-- Takes notice that the descriptor is writable. -/
def writeReady : SocketM P Bool := do
  let s ← get
  if s.state = .connected ∧ s.wantsWrite then completeWrite emit else pure false

/-- Sets an option. It is kept only if the protocol does not refuse it, and reported if it differs.
-/
def setOption (option : P.Opt) (value : P.Value) : SocketM P Bool := do
  if P.optionOf value ≠ option then do
    setError emit
      ⟨.unsupportedOperation, "Invalid value for the " ++ P.optionName option ++ " option"⟩
    pure false
  else do
    let s ← get
    match ← runHook (P.applyOption s.state value) with
    | .error cause => do
        setError emit cause
        pure false
    | .ok _ => do
        let s ← get
        let (differs, protocol) := P.keepOption value s.protocol
        update fun c => { c with protocol := protocol }
        record (.kept value)
        if differs then do
          emit (.optionChanged option)
          pure true
        else pure true

/-- Sets options in order, up to the first that is refused, and says whether all were set. -/
def setOptions : List (P.Opt × P.Value) → SocketM P Bool
  | [] => pure true
  | (option, value) :: rest => do
      if ← setOption emit option value then setOptions rest else pure false

/-- Sets options and connects, unless one of them is refused. -/
def connectWith (options : List (P.Opt × P.Value)) (ifname : String) (mode : OpenMode) :
    SocketM P Bool := do
  if ← setOptions emit options then connect emit ifname mode else pure false

end

/-! ## The byte stream -/

/-- Takes bytes out of the read buffer, which may make room for more. -/
def takeOut (f : ByteQueue → List UInt8 × ByteQueue) : SocketM P (List UInt8) := do
  let s ← get
  let (bytes, buffer) := f s.readBuffer
  update fun c => { c with readBuffer := buffer }.resumeReading
  record (.taken bytes)
  pure bytes

/-- Limits the read buffer; zero is no limit. -/
def setReadLimit (n : Nat) : SocketM P Unit :=
  update fun c => if c.readLimit = n then c else { c with readLimit := n }.resumeReading

/-- Queues bytes to be written. -/
def write (data : List UInt8) : SocketM P (Except SocketError Nat) := do
  let s ← get
  if s.state ≠ .connected then
    pure (.error ⟨.operationError, "Socket is not connected"⟩)
  else if !s.mode.writes then
    pure (.error ⟨.operationError, "Socket is not open for writing"⟩)
  else do
    update (·.enqueue data)
    record (.queued data)
    pure (.ok data.length)

/-- Reads as from a file: nothing is the end of an unconnected socket, and not ready on any other.
-/
def streamRead (n : Nat) : SocketM P (Except IoError (List UInt8)) := do
  let s ← get
  if n = 0 then pure (.ok [])
  else if s.readBuffer.isEmpty then
    pure (if s.state = .unconnected then .ok [] else .error (.plain .wouldBlock))
  else do
    let bytes ← takeOut (·.read n)
    pure (.ok bytes)

/-- Writes as to a file. -/
def streamWrite (data : List UInt8) : SocketM P (Except IoError Nat) := do
  let result ← write data
  pure (result.mapError fun e =>
    .worded (if e.kind = .operationError then .notConnected else .other) e.message)

/-- Flushes as a file: pushes out what the descriptor takes right now. -/
def streamFlush (emit : Emit P) : SocketM P (Except IoError Unit) := do
  if ← completeWrite emit then pure (.ok ())
  else do
    let s ← get
    pure (.error (.worded .other s.error.message))

end CanStream.Socket
