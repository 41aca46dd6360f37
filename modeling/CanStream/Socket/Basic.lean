import CanStream.Socket.Handler

/-!
# Sockets

A socket is a connection with an event handler, the events that wait to be delivered, and a journal
of what happened. An operation of a socket is a function on sockets that gives a result, or none at
all if it never returns.
-/

namespace CanStream

/-- An entry of a socket's journal. -/
inductive Entry (P : Protocol)
  /-- An event was raised. -/
  | raised (e : P.Event)
  /-- An event was handed to a handler. -/
  | delivered (label : Option String) (e : P.Event)
  /-- The handler was done with the event it was handed last. -/
  | returned
  /-- A handler left a note. -/
  | noted (text : String)
  /-- The protocol was asked to set up the descriptor. -/
  | setUp (result : Except SocketError Unit)
  /-- The protocol, whose units have a size, was asked to read: it took some arrivals and gave so
  many bytes. -/
  | readHook (unit : Nat) (consumed : List Arrival) (result : Except IoError Nat)
  /-- What came of a read was put into the read buffer, which held so many bytes before and holds so
  many after. -/
  | received (before after : Nat)
  /-- The protocol was asked to write, perhaps while a completed write was being reported: it tried
  some writes, of which some went through, and took so many bytes. -/
  | writeHook (reporting : Bool) (offered : List UInt8) (tried sent : List (List UInt8))
    (result : Except IoError Nat)
  /-- Bytes were queued to be written. -/
  | queued (data : List UInt8)
  /-- Bytes were taken out of the read buffer. -/
  | taken (data : List UInt8)
  /-- A frame was queued to be written. -/
  | frameQueued (f : Frame)
  /-- A frame was taken out of the read buffer. -/
  | frameTaken (f : Frame)
  /-- The value of an option was kept. -/
  | kept (value : P.Value)
  /-- What was buffered was given up for a new connection, to an interface and in a mode. -/
  | cleared (ifname : String) (mode : OpenMode)
  /-- What was buffered and not yet reported was given up. -/
  | discarded
  /-- The descriptor was closed by somebody else. -/
  | severed
  /-- Somebody looked at the connection, which was like this. -/
  | inspected (c : Connection P)

/-- A socket. -/
structure Socket (P : Protocol) extends Connection P where
  handler : Option (Handler P)
  /-- Whether a handler is at work. -/
  dispatching : Bool
  /-- The events raised since, in order. -/
  queue : List P.Event
  journal : List (Entry P)

namespace Socket

variable {P : Protocol} {α ε : Type}

/-- A new socket without a handler. -/
def initial (protocol : P.State) (endpoint : Endpoint) : Socket P where
  toConnection := Connection.initial protocol endpoint
  handler := none
  dispatching := false
  queue := []
  journal := []

/-- The socket with another connection. -/
def change (s : Socket P) (f : Connection P → Connection P) : Socket P :=
  { s with toConnection := f s.toConnection }

/-- The socket after a hook of the protocol. -/
def hooked (s : Socket P) (after : P.State × Endpoint) : Socket P :=
  s.change fun c => { c with protocol := after.1, endpoint := after.2 }

/-- The socket after a call on its endpoint. -/
def called (s : Socket P) (endpoint : Endpoint) : Socket P :=
  s.change fun c => { c with endpoint := endpoint }

/-- The socket with one more entry in its journal. -/
def log (s : Socket P) (entry : Entry P) : Socket P :=
  { s with journal := s.journal ++ [entry] }

end Socket

/-- An operation of a socket. -/
abbrev SocketM (P : Protocol) : Type → Type := StateT (Socket P) Option

/-- The way in which an operation raises events. -/
abbrev Emit (P : Protocol) : Type := P.Event → SocketM P Unit

namespace Socket

variable {P : Protocol} {α ε : Type}

/-- The operation that never returns. -/
def never : SocketM P α := fun _ => none

/-- Changes the connection. -/
def update (f : Connection P → Connection P) : SocketM P Unit :=
  modify (·.change f)

/-- Makes an entry in the journal. -/
def record (entry : Entry P) : SocketM P Unit :=
  modify (·.log entry)

/-- Runs a hook of the protocol. -/
def runHook (hook : Hook P.State ε α) : SocketM P (Except ε α) := fun s =>
  let (result, after) := hook.exec (s.protocol, s.endpoint)
  some (result, s.hooked after)

/-- Makes a call on the endpoint. -/
def callEndpoint (call : Endpoint.Call α) : SocketM P (Except IoError α) := fun s =>
  let (result, endpoint) := call s.endpoint
  some (result, s.called endpoint)

/-- Raises an event while a handler is at work: it waits in the queue. -/
def enqueue (e : P.Event) : SocketM P Unit :=
  modify fun s => { s.log (.raised e) with queue := s.queue ++ [e] }

end Socket

end CanStream
