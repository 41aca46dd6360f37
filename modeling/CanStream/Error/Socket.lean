import CanStream.Error.Io
import CanStream.Text.Quoted

/-!
# Socket errors

What a socket reports: one of ten kinds of error and a message. A failed call is classified once, by
its error number; a number that is not in the table below keeps the system's own text.
-/

namespace CanStream

/-- What sort of error a socket met. -/
inductive SocketError.Kind
  | unknown
  | noSuchDevice
  | accessDenied
  | resourceExhausted
  | timeout
  | unsupportedOperation
  | operationError
  | writeError
  | readError
  | noError
  deriving DecidableEq, Repr

namespace SocketError.Kind

/-- The name of the kind and its canonical message. -/
def labels : Kind → String × String
  | unknown => ("Unknown", "Unknown error")
  | noSuchDevice => ("NoSuchDevice", "No such device")
  | accessDenied => ("AccessDenied", "Permission denied")
  | resourceExhausted => ("ResourceExhausted", "Resource error")
  | timeout => ("Timeout", "Operation timed out")
  | unsupportedOperation => ("UnsupportedOperation", "Unsupported socket operation")
  | operationError => ("OperationError", "Operation error")
  | writeError => ("WriteError", "Write error")
  | readError => ("ReadError", "Read error")
  | noError => ("NoError", "No error")

def name (k : Kind) : String := k.labels.1

def message (k : Kind) : String := k.labels.2

def all : List Kind :=
  [unknown, noSuchDevice, accessDenied, resourceExhausted, timeout, unsupportedOperation,
    operationError, writeError, readError, noError]

def ofName? (s : String) : Option Kind := all.find? (·.name == s)

end SocketError.Kind

/-- An error of a socket: its kind and a message. -/
structure SocketError where
  kind : SocketError.Kind
  message : String
  deriving DecidableEq, Repr

namespace SocketError

/-- The error of a kind, with the canonical message. -/
def ofKind (k : Kind) : SocketError := ⟨k, k.message⟩

def none : SocketError := ofKind .noError

instance : Inhabited SocketError := ⟨none⟩

def ofErrno : Int → SocketError
  | 19 => ⟨.noSuchDevice, "No such device system error"⟩
  | 13 => ⟨.accessDenied, "Permission denied system error"⟩
  | 24 => ⟨.resourceExhausted, "Too many open files system error"⟩
  | 23 => ⟨.resourceExhausted, "File table overflow system error"⟩
  | 105 => ⟨.resourceExhausted, "No buffer space available system error"⟩
  | 12 => ⟨.resourceExhausted, "Out of memory system error"⟩
  | 97 => ⟨.unsupportedOperation, "Address family not supported by protocol system error"⟩
  | 22 => ⟨.unsupportedOperation, "Invalid argument system error"⟩
  | 93 => ⟨.unsupportedOperation, "Protocol not supported system error"⟩
  | code => ⟨.unknown, (IoError.os code).message⟩

def ofIo : IoError → SocketError
  | .os code => ofErrno code
  | e => ⟨.unknown, e.message⟩

def reclassify (e : SocketError) (k : Kind) : SocketError := { e with kind := k }

/-- The error for a failed transfer: of the given kind, unless resources were exhausted. -/
def ofTransfer (k : Kind) (cause : IoError) : SocketError :=
  let e := ofIo cause
  if e.kind = .resourceExhausted then e else e.reclassify k

def describe (e : SocketError) : String :=
  "SocketErrorInfo \x7b kind: " ++ e.kind.name ++ ", message: " ++ Quoted.text e.message ++ " \x7d"

end SocketError

end CanStream
