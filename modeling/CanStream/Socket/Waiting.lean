import CanStream.Socket.Engine

/-!
# Blocking waits

A wait polls the descriptor and works the pumps, turn by turn, until what it waits for has happened,
an error is met, or the time is over. A wait that would go on for more turns than it is followed for
has no result.
-/

namespace CanStream.Socket

variable {P : Protocol} (emit : Emit P)

/-- Polls the descriptor. Nothing ready is a timeout. -/
def poll (read write : Bool) : SocketM P (Option Readiness) := do
  match ← callEndpoint (Endpoint.poll read write) with
  | .ok (some r) => pure (some r)
  | .ok none => do
      setError emit (SocketError.ofKind .timeout)
      pure none
  | .error cause => do
      setError emit (SocketError.ofIo cause)
      pure none

/-- Goes on with a wait after a turn, unless its time is over. -/
def nextTurn (wait : Wait) (turn : Nat) (go : SocketM P Bool) : SocketM P Bool := do
  if wait.isOver turn then do
    setError emit (SocketError.ofKind .timeout)
    pure false
  else go

/-- The turns of a wait for data, from the given one on. -/
def readTurns (wait : Wait) : Nat → Nat → SocketM P Bool
  | _, 0 => never
  | turn, left + 1 => do
      let s ← get
      match ← poll emit true (!s.writeBuffer.isEmpty) with
      | none => pure false
      | some r =>
          if r.readable then pumpRead emit
          else if r.writable then do
            if ← completeWrite emit then nextTurn emit wait turn (readTurns wait (turn + 1) left)
            else pure false
          else nextTurn emit wait turn (readTurns wait (turn + 1) left)

/-- Waits until new data can be read; what is to be written is pushed out meanwhile. -/
def waitForReadyRead (wait : Wait) : SocketM P Bool := do
  let s ← get
  if s.state = .unconnected then pure false else readTurns emit wait 0 wait.turns

/-- The turns of a wait for a write, from the given one on. -/
def writeTurns (wait : Wait) : Nat → Nat → SocketM P Bool
  | _, 0 => never
  | turn, left + 1 => do
      let s ← get
      match ← poll emit s.wantsRead true with
      | none => pure false
      | some r => do
          let read ← if r.readable then pumpRead emit else pure true
          if !read then pure false
          else if r.writable then completeWrite emit
          else nextTurn emit wait turn (writeTurns wait (turn + 1) left)

/-- Waits until the descriptor took some of what is to be written, if there is any. -/
def waitForBytesWritten (wait : Wait) : SocketM P Bool := do
  let s ← get
  if s.state = .unconnected then pure false
  else if s.writeBuffer.isEmpty && s.pending == 0 then pure false
  else writeTurns emit wait 0 wait.turns

end CanStream.Socket
