import CanStream.Error.Socket

/-!
# Errors of frames

Why a frame cannot be made or changed, why a text is not a frame, and what can go wrong when a
socket is handed frames: the socket refuses, the frame is unfit, or a call fails.
-/

namespace CanStream

/-- Why a frame, or an option that describes frames, cannot be made. -/
inductive ConstructionError
  | wrongFrameType
  | idTooLarge
  | tooMuchData
  | invalidDataLength
  deriving DecidableEq, Repr

namespace ConstructionError

def name : ConstructionError → String
  | wrongFrameType => "WrongFrameType"
  | idTooLarge => "IdTooLarge"
  | tooMuchData => "TooMuchData"
  | invalidDataLength => "InvalidDataLength"

def message : ConstructionError → String
  | wrongFrameType => "Incompatible frame type"
  | idTooLarge => "CAN ID too large"
  | tooMuchData => "Payload is too large"
  | invalidDataLength => "Invalid data length"

def all : List ConstructionError := [wrongFrameType, idTooLarge, tooMuchData, invalidDataLength]

def ofName? (s : String) : Option ConstructionError := all.find? (·.name == s)

end ConstructionError

/-- Why a text is not a frame. -/
inductive ParseError
  | missingSeparator
  | invalidId
  | invalidData
  | construction (cause : ConstructionError)
  deriving DecidableEq, Repr

namespace ParseError

def name : ParseError → String
  | missingSeparator => "MissingSeparator"
  | invalidId => "InvalidId"
  | invalidData => "InvalidData"
  | construction cause => "Construction(" ++ cause.name ++ ")"

def message : ParseError → String
  | missingSeparator => "Missing '#' separator"
  | invalidId => "Invalid CAN ID"
  | invalidData => "Invalid frame data"
  | construction cause => cause.message

/-- The causes that are not failures to build the frame, and all those that are. -/
def all : List ParseError :=
  [missingSeparator, invalidId, invalidData] ++ ConstructionError.all.map construction

def ofName? (s : String) : Option ParseError := all.find? (·.name == s)

end ParseError

/-- The failure of a frame transfer. -/
inductive TransferError
  | socket (cause : SocketError)
  | construction (cause : ConstructionError)
  | io (cause : IoError)
  deriving DecidableEq, Repr

namespace TransferError

def message : TransferError → String
  | socket cause => cause.message
  | construction cause => cause.message
  | io cause => cause.message

/-- Whether the failure means that the receiver was overrun: the system ran out of resources. -/
def isOverrun : TransferError → Bool
  | socket cause => cause.kind == .resourceExhausted
  | construction _ => false
  | io _ => false

end TransferError

end CanStream
