import CanStream.Error.Socket
import CanStream.FlagSet

/-!
# States, modes and events

The vocabulary of a socket: the states it goes through, the modes it is opened in, and the events it
raises. An event has a text, its name with a colon and its detail behind it.
-/

namespace CanStream

/-- The state of a socket's connection. -/
inductive SocketState
  | unconnected
  | connecting
  | connected
  | closing
  deriving DecidableEq, Repr

namespace SocketState

def name : SocketState → String
  | unconnected => "Unconnected"
  | connecting => "Connecting"
  | connected => "Connected"
  | closing => "Closing"

end SocketState

def readBit : UInt32 := 1

def writeBit : UInt32 := 2

/-- The bits of the ways to open a file that a socket does not have. -/
def unsupportedBits : UInt32 := 0x3C

/-- The ways in which a socket or file is opened. -/
def openModeFamily : FlagFamily where
  name := "OpenMode"
  flags :=
    [("READ_ONLY", readBit), ("WRITE_ONLY", writeBit), ("READ_WRITE", readBit ||| writeBit),
      ("APPEND", 0x4), ("TRUNCATE", 0x8), ("TEXT", 0x10), ("UNBUFFERED", 0x20)]

abbrev OpenMode := FlagSet openModeFamily

namespace OpenMode

def readWrite : OpenMode := ⟨readBit ||| writeBit⟩

def reads (m : OpenMode) : Bool := m.contains readBit

def writes (m : OpenMode) : Bool := m.contains writeBit

/-- Whether a socket can be connected in the mode: it asks for something, and for nothing
unsupported. -/
def isSupported (m : OpenMode) : Bool := !m.isEmpty && !m.intersects unsupportedBits

end OpenMode

/-- What a socket reports, for options of type `O`. -/
inductive Event (O : Type)
  | readyRead
  | bytesWritten (n : Nat)
  | stateChanged (s : SocketState)
  | error (k : SocketError.Kind)
  | optionChanged (option : O)
  deriving DecidableEq, Repr

namespace Event

variable {O : Type}

def name : Event O → String
  | readyRead => "ReadyRead"
  | bytesWritten _ => "BytesWritten"
  | stateChanged _ => "StateChanged"
  | error _ => "Error"
  | optionChanged _ => "OptionChanged"

def detail? (optionName : O → String) : Event O → Option String
  | readyRead => none
  | bytesWritten n => some (toString n)
  | stateChanged s => some s.name
  | error k => some k.name
  | optionChanged o => some (optionName o)

def text (optionName : O → String) (e : Event O) : String :=
  match e.detail? optionName with
  | none => e.name
  | some d => e.name ++ ":" ++ d

end Event

end CanStream
