import CanStream.Endpoint.Basic
import CanStream.Socket.Event

/-!
# Protocols

What a socket needs to know of the protocol it speaks: how the descriptor is set up, how data moves
between the buffers and the descriptor, how large the units are that must not be split, and which
options there are. A protocol has a state of its own; its hooks work on that state and on the
endpoint.
-/

namespace CanStream

/-- A hook on protocol states of type `σ`: a result or a failure, and the state and endpoint
afterwards. -/
abbrev Hook (σ ε : Type) : Type → Type := ExceptT ε (StateM (σ × Endpoint))

namespace Hook

variable {σ ε α : Type}

/-- The result of a hook, and the state and endpoint afterwards. -/
def exec (h : Hook σ ε α) (s : σ × Endpoint) : Except ε α × (σ × Endpoint) :=
  (ExceptT.run h : StateM (σ × Endpoint) (Except ε α)).run s

/-- Makes a call on the endpoint, with its failure put in the hook's terms. -/
def call (wrap : IoError → ε) (c : Endpoint.Call α) : Hook σ ε α :=
  ExceptT.mk fun s => ((c s.2).1.mapError wrap, (s.1, (c s.2).2))

/-- Makes a call on the endpoint and goes on with its result, whether or not it failed. -/
def attempt (c : Endpoint.Call α) : Hook σ ε (Except IoError α) :=
  ExceptT.mk fun s => (.ok (c s.2).1, (s.1, (c s.2).2))

/-- The protocol's state. -/
def state : Hook σ ε σ :=
  ExceptT.mk fun s => (.ok s.1, s)

/-- Replaces the protocol's state. -/
def modifyState (f : σ → σ) : Hook σ ε Unit :=
  ExceptT.mk fun s => (.ok (), (f s.1, s.2))

/-- Fails. -/
def fail (cause : ε) : Hook σ ε α :=
  ExceptT.mk fun s => (.error cause, s)

end Hook

/-- A protocol. -/
structure Protocol where
  /-- The protocol's own state. -/
  State : Type
  /-- The names of its options. -/
  Opt : Type
  /-- The values of its options. -/
  Value : Type
  /-- Whether two option names are the same. -/
  decEqOpt : DecidableEq Opt
  /-- The name of an option as text. -/
  optionName : Opt → String
  /-- The option that a value is for. -/
  optionOf : Value → Opt
  /-- The state of a new socket. -/
  initial : State
  /-- The type of the socket. -/
  socketType : State → SocketType
  /-- The most bytes taken from the descriptor in one go. -/
  readChunkSize : State → Nat
  /-- The chunk size of the socket's buffers. -/
  initialBufferSize : State → Nat
  /-- Opens the descriptor, sets it up, and binds it to an interface. -/
  connect : String → Hook State SocketError Unit
  /-- Forgets what is tied to the connection. -/
  disconnect : State → State
  /-- Reads at most so many bytes. -/
  read : Nat → Hook State IoError (List UInt8)
  /-- Writes from the start of some bytes, and says how many were taken. -/
  write : List UInt8 → Hook State IoError Nat
  /-- The size of the smallest unit, zero for a plain byte stream. -/
  msgSize : State → Nat
  /-- Whether a read gives one whole message, and loses what does not fit. -/
  isDatagram : State → Bool
  /-- Notes that so many bytes were queued as one message. -/
  messageQueued : Nat → State → State
  /-- The number of bytes at the head of the write buffer that have to go in one piece. -/
  nextWriteSize : State → Nat
  /-- Whether flexible data rate frames may be sent. -/
  carriesFd : State → Bool
  /-- Puts an option's value into effect, or refuses it, given the state of the connection. -/
  applyOption : SocketState → Value → Hook State SocketError Unit
  /-- Keeps an option's value, and says whether it differs from the one kept before. -/
  keepOption : Value → State → Bool × State

namespace Protocol

instance (P : Protocol) : DecidableEq P.Opt := P.decEqOpt

/-- The events of a socket that speaks the protocol. -/
abbrev Event (P : Protocol) : Type := CanStream.Event P.Opt

end Protocol

end CanStream
