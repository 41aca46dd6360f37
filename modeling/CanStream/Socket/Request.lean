import CanStream.Endpoint.Basic
import CanStream.Error.Frame
import CanStream.Frame.Basic
import CanStream.Socket.Connection

/-!
# Requests

What can be asked of a socket, and the type of each answer. Beside the operations of a socket there
are requests that look at it and that change the script of its endpoint.
-/

namespace CanStream

/-- How long a blocking wait goes on: its timeout in milliseconds, the time on the clock after each
turn, and the number of turns that it is followed for. Without a timeout it waits for ever. -/
structure Wait where
  timeout : Option Nat
  elapsed : Nat → Nat
  turns : Nat

namespace Wait

/-- The timeout of so many milliseconds; any negative number means none. -/
def timeoutOf (ms : Int) : Option Nat := if ms < 0 then none else some ms.toNat

def isOver (w : Wait) (turn : Nat) : Bool :=
  match w.timeout with
  | none => false
  | some t => decide (t ≤ w.elapsed turn)

end Wait

/-- A request to a socket. -/
inductive Request (P : Protocol)
  | connect (ifname : String) (mode : OpenMode)
  /-- Sets options in order and connects, unless one of them is refused. -/
  | connectWith (options : List (P.Opt × P.Value)) (ifname : String) (mode : OpenMode)
  | close
  | readReady
  | writeReady
  | waitForReadyRead (wait : Wait)
  | waitForBytesWritten (wait : Wait)
  | read (n : Nat)
  | peek (n : Nat)
  | readAll
  | readLine (limit : Nat)
  | write (data : List UInt8)
  | flush
  | streamRead (n : Nat)
  | streamWrite (data : List UInt8)
  | streamFlush
  | clearError
  | setReadLimit (n : Nat)
  | setOption (option : P.Opt) (value : P.Value)
  | writeFrame (f : Frame)
  | readFrame
  | transmit (f : Frame)
  | receive
  | takeHandler
  | inspect
  | cue (c : Endpoint.Cue)
  | closeDescriptor
  | takeWritten

namespace Request

variable {P : Protocol}

def Answer : Request P → Type
  | connect _ _ => Bool
  | connectWith _ _ _ => Bool
  | close => Unit
  | readReady => Bool
  | writeReady => Bool
  | waitForReadyRead _ => Bool
  | waitForBytesWritten _ => Bool
  | read _ => List UInt8
  | peek _ => List UInt8
  | readAll => List UInt8
  | readLine _ => List UInt8
  | write _ => Except SocketError Nat
  | flush => Bool
  | streamRead _ => Except IoError (List UInt8)
  | streamWrite _ => Except IoError Nat
  | streamFlush => Except IoError Unit
  | clearError => Unit
  | setReadLimit _ => Unit
  | setOption _ _ => Bool
  | writeFrame _ => Except TransferError Unit
  | readFrame => Except TransferError Frame
  | transmit _ => Except TransferError Unit
  | receive => Except TransferError (Option Frame)
  | takeHandler => Bool
  | inspect => Connection P
  | cue _ => Unit
  | closeDescriptor => Except IoError Unit
  | takeWritten => List (List UInt8)

end Request

end CanStream
