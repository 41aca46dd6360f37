import CanStream.Socket.Frames
import CanStream.Socket.Waiting

/-!
# Performing requests

Each request is performed by one operation of the socket, which raises its events in the given way.
-/

namespace CanStream.Socket

variable {P : Protocol}

/-- Takes the socket's handler away, and says whether there was one. -/
def takeHandler : SocketM P Bool := do
  let s ← get
  set { s with handler := none }
  pure s.handler.isSome

def install (h : Handler P) : SocketM P Unit :=
  modify fun s => { s with handler := some h }

/-- Closes the descriptor behind the socket's back. -/
def sever : SocketM P (Except IoError Unit) := do
  let result ← callEndpoint Endpoint.close
  record .severed
  pure result

def takeWritten : SocketM P (List (List UInt8)) := do
  let s ← get
  update fun c => { c with endpoint := { c.endpoint with written := [] } }
  pure s.endpoint.written

def inspect : SocketM P (Connection P) := do
  let s ← get
  record (.inspected s.toConnection)
  pure s.toConnection

end CanStream.Socket

namespace CanStream.Request

variable {P : Protocol}

def perform (emit : Emit P) : (q : Request P) → SocketM P q.Answer
  | connect ifname mode => Socket.connect emit ifname mode
  | connectWith options ifname mode => Socket.connectWith emit options ifname mode
  | close => Socket.close emit
  | readReady => Socket.readReady emit
  | writeReady => Socket.writeReady emit
  | waitForReadyRead wait => Socket.waitForReadyRead emit wait
  | waitForBytesWritten wait => Socket.waitForBytesWritten emit wait
  | read n => Socket.takeOut (·.read n)
  | peek n => return (← get).readBuffer.peek n
  | readAll => Socket.takeOut ByteQueue.readAll
  | readLine limit => Socket.takeOut (·.readLine limit)
  | write data => Socket.write data
  | flush => Socket.completeWrite emit
  | streamRead n => Socket.streamRead n
  | streamWrite data => Socket.streamWrite data
  | streamFlush => Socket.streamFlush emit
  | clearError => Socket.update fun c => { c with error := SocketError.none }
  | setReadLimit n => Socket.setReadLimit n
  | setOption option value => Socket.setOption emit option value
  | writeFrame f => Socket.writeFrame f
  | readFrame => Socket.readFrame
  | transmit f => Socket.transmit emit f
  | receive => Socket.receive emit
  | takeHandler => Socket.takeHandler
  | inspect => Socket.inspect
  | cue c => Socket.update fun k => { k with endpoint := k.endpoint.cue c }
  | closeDescriptor => Socket.sever
  | takeWritten => Socket.takeWritten

end CanStream.Request
