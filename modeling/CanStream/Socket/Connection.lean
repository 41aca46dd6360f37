import CanStream.ByteQueue.Basic
import CanStream.Socket.Protocol

/-!
# Connections

The part of a socket that is not about events: the protocol and the endpoint, the state of the
connection, the two buffers, and what is known of transfers under way.
-/

namespace CanStream

/-- The connection of a socket. -/
structure Connection (P : Protocol) where
  protocol : P.State
  endpoint : Endpoint
  state : SocketState
  error : SocketError
  mode : OpenMode
  interfaceName : String
  readBuffer : ByteQueue
  writeBuffer : ByteQueue
  /-- The most bytes that the read buffer is to hold; zero is no limit. -/
  readLimit : Nat
  /-- Whether the socket waits for its descriptor to become readable. -/
  wantsRead : Bool
  /-- Whether the socket waits for its descriptor to become writable. -/
  wantsWrite : Bool
  /-- Whether the arrival of data is being reported. -/
  reportingRead : Bool
  /-- Whether a completed write is being reported. -/
  reportingWrite : Bool
  /-- The bytes that the descriptor took and that are not reported yet. -/
  pending : Nat
  /-- Whether a write was made that is not completed yet. -/
  writeStarted : Bool

namespace Connection

variable {P : Protocol}

/-- The connection of a new socket. -/
def initial (protocol : P.State) (endpoint : Endpoint) : Connection P where
  protocol := protocol
  endpoint := endpoint
  state := .unconnected
  error := SocketError.none
  mode := FlagSet.empty
  interfaceName := ""
  readBuffer := ByteQueue.empty (P.initialBufferSize protocol)
  writeBuffer := ByteQueue.empty (P.initialBufferSize protocol)
  readLimit := 0
  wantsRead := false
  wantsWrite := false
  reportingRead := false
  reportingWrite := false
  pending := 0
  writeStarted := false

/-- The bytes that can be read. -/
def available (c : Connection P) : Nat := c.readBuffer.size

/-- The bytes that wait to be written. -/
def unwritten (c : Connection P) : Nat := c.writeBuffer.size

/-- The room that the smallest unit takes in the read buffer. -/
def unit (c : Connection P) : Nat := max (P.msgSize c.protocol) 1

/-- Whether the read buffer has room for one more unit. -/
def hasReadRoom (c : Connection P) : Bool :=
  c.readLimit == 0 || decide (c.available + c.unit ≤ c.readLimit)

/-- The bytes to ask for in one read, or `none` if the buffer is full. A datagram that does not fit
would be lost, so a datagram protocol is given its whole chunk as soon as there is room for a unit.
-/
def readWindow? (c : Connection P) : Option Nat :=
  let chunk := P.readChunkSize c.protocol
  let room := c.readLimit - c.available
  if c.readLimit = 0 ∨ chunk ≤ room then some chunk
  else if room < c.unit then none
  else some (if P.isDatagram c.protocol then chunk else room)

/-- The connection that waits for data again, if it can take some. -/
def resumeReading (c : Connection P) : Connection P :=
  if c.state = .connected ∧ c.mode.reads ∧ c.hasReadRoom then { c with wantsRead := true }
  else c

/-- The connection for a new interface and mode, with nothing buffered. -/
def prepare (c : Connection P) (ifname : String) (mode : OpenMode) : Connection P :=
  { c with
    interfaceName := ifname
    readBuffer := c.readBuffer.clear
    writeBuffer := c.writeBuffer.clear
    mode := mode }

/-- The connection that waits for nothing. -/
def hush (c : Connection P) : Connection P := { c with wantsRead := false, wantsWrite := false }

/-- The connection with all given up that was tied to the descriptor. -/
def discard (c : Connection P) : Connection P :=
  { c with
    protocol := P.disconnect c.protocol
    interfaceName := ""
    pending := 0
    writeStarted := false
    readBuffer := c.readBuffer.clear
    writeBuffer := c.writeBuffer.clear
    mode := FlagSet.empty }

/-- The connection with what was read in the window of its read buffer. It stops waiting for data
when there is no room for another unit; units have the size that they had `before` the read. -/
def takeIn (c before : Connection P) (window : Nat) (bytes : List UInt8) : Connection P :=
  let buffer := (c.readBuffer.reserve window bytes).chop (window - min bytes.length window)
  let isFull := decide (0 < c.readLimit ∧ c.readLimit < buffer.size + before.unit)
  { c with readBuffer := buffer, wantsRead := c.wantsRead && !isFull }

/-- The connection with the window of its read buffer given back after a failed read. When resources
are exhausted it stops waiting for data. -/
def refuseRead (c : Connection P) (window : Nat) (cause : IoError) : Connection P :=
  let isExhausted := decide ((SocketError.ofIo cause).kind = .resourceExhausted)
  { c with
    readBuffer := (c.readBuffer.reserve window []).chop window
    wantsRead := c.wantsRead && !isExhausted }

/-- The connection with more bytes to be written, as one message. -/
def enqueue (c : Connection P) (data : List UInt8) : Connection P :=
  let c := if data.isEmpty then c else
    { c with
      writeBuffer := c.writeBuffer.append data
      protocol := P.messageQueued data.length c.protocol }
  { c with wantsWrite := c.wantsWrite || !c.writeBuffer.isEmpty }

/-- The connection with its next unit in one piece at the head of the write buffer. -/
def align (c : Connection P) : Connection P :=
  { c with writeBuffer := c.writeBuffer.makeContiguous (P.nextWriteSize c.protocol) }

/-- The connection after `n` bytes were written. -/
def takeOver (c : Connection P) (n : Nat) : Connection P :=
  { c with
    writeBuffer := c.writeBuffer.free n
    pending := c.pending + n
    writeStarted := true
    wantsWrite := true }

/-- The connection after a failed write: what is to be written stays, unless it can never be
written. -/
def refuseWrite (c : Connection P) (cause : IoError) : Connection P :=
  if cause.kind = .invalidData then
    { c with writeBuffer := c.writeBuffer.clear, wantsWrite := false }
  else c

/-- The connection while it reports what was written. -/
def report (c : Connection P) : Connection P := { c with reportingWrite := true, pending := 0 }

/-- The readiness that the socket waits for, if any. -/
def interest? (c : Connection P) : Option Readiness :=
  if c.wantsRead || c.wantsWrite then some ⟨c.wantsRead, c.wantsWrite⟩ else none

/-- The connection with its main fields named. -/
def describe (c : Connection P) : String :=
  "CanAbstractSocket \x7b type: " ++ (P.socketType c.protocol).name ++
    ", state: " ++ c.state.name ++
    ", interface: " ++ Quoted.text c.interfaceName ++
    ", bytes_available: " ++ toString c.available ++
    ", bytes_to_write: " ++ toString c.unwritten ++
    ", error: " ++ c.error.kind.name ++ " \x7d"

end Connection

end CanStream
