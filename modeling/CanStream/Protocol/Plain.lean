import CanStream.Socket.Protocol

/-!
# The plain protocol

A protocol without options that passes bytes on as they are. Its sizes are chosen freely, and its
next connection may be made to fail.
-/

namespace CanStream

/-- The state of the plain protocol: its sizes, and what the next connection fails with. -/
structure Plain where
  unit : Nat
  readChunk : Nat
  bufferChunk : Nat
  failure : Option SocketError.Kind
  deriving DecidableEq, Repr

namespace Plain

/-- Opens the descriptor, unless the connection was made to fail. -/
def connect (ifname : String) : Hook Plain SocketError Unit := do
  let s ← Hook.state
  match s.failure with
  | some k => do
      Hook.modifyState fun s => { s with failure := none }
      Hook.fail (SocketError.ofKind k)
  | none => do
      Hook.call SocketError.ofIo (Endpoint.openAs .raw)
      Hook.call SocketError.ofIo (Endpoint.setNonblocking true)
      let _ ← Hook.call SocketError.ofIo (Endpoint.lookup ifname)
      pure ()

def protocol : Protocol where
  State := Plain
  Opt := Empty
  Value := Empty
  decEqOpt := inferInstance
  optionName := nofun
  optionOf := nofun
  initial := ⟨0, 1, 1, none⟩
  socketType := fun _ => .unknown
  readChunkSize := readChunk
  initialBufferSize := bufferChunk
  connect := connect
  disconnect := id
  read := fun n => Hook.call id (Endpoint.read n)
  write := fun data => Hook.call id (Endpoint.write data)
  msgSize := unit
  isDatagram := fun _ => false
  messageQueued := fun _ s => s
  nextWriteSize := unit
  carriesFd := fun _ => false
  applyOption := fun _ => nofun
  keepOption := nofun

end Plain

end CanStream
