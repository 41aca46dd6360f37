import CanStream.Frame.Stream
import CanStream.Socket.Engine

/-!
# Frames on a socket

Whole frames over the byte stream of a socket, in the kernel's layout. The sentinels in the header
say where a frame ends, so the reader keeps in step with frames of both sizes.
-/

namespace CanStream.Socket

variable {P : Protocol}

def writeFrame (f : Frame) : SocketM P (Except TransferError Unit) := do
  let s ← get
  if f.kind = .unknown then pure (.error (.construction .wrongFrameType))
  else if f.kind = .fd ∧ P.carriesFd s.protocol = false then
    pure (.error (.socket ⟨.unsupportedOperation, "FD frames are not enabled on the socket"⟩))
  else do
    match ← write f.toKernel with
    | .error cause => pure (.error (.socket cause))
    | .ok _ => do
        record (.frameQueued f)
        pure (.ok ())

/-- The size of the frame at the head of the buffer, as far as its header tells. -/
def frameSize (header : List UInt8) : Nat := (Frame.sizeAt? header).getD classicUnit

/-- Takes the next frame out of the read buffer. Less than a frame stays where it is. -/
def readFrame : SocketM P (Except TransferError Frame) := do
  let s ← get
  let header := s.readBuffer.peek headerSize
  if header.length < headerSize ∨ s.available < frameSize header then
    pure (.error (.io (.plain .wouldBlock)))
  else do
    let bytes ← takeOut (·.read (frameSize header))
    match Frame.ofKernel? bytes with
    | some (f, _) => do
        record (.frameTaken f)
        pure (.ok f)
    | none => pure (.error (.io (.plain .unexpectedEof)))

/-- Queues a frame and pushes out as much as the descriptor takes. -/
def transmit (emit : Emit P) (f : Frame) : SocketM P (Except TransferError Unit) := do
  match ← writeFrame f with
  | .error cause => pure (.error cause)
  | .ok _ => do
      let _ ← completeWrite emit
      pure (.ok ())

/-- Takes a frame, reading from the descriptor if none is buffered; `none` if there is none to be
had. -/
def receive (emit : Emit P) : SocketM P (Except TransferError (Option Frame)) := do
  let s ← get
  if s.available < headerSize then do
    let _ ← readReady emit
    pure ()
  else pure ()
  match ← readFrame with
  | .ok f => pure (.ok (some f))
  | .error (.io cause) =>
      pure (if cause.shouldRetry then .ok none else .error (.io cause))
  | .error cause => pure (.error cause)

end CanStream.Socket
