import CanStream.Address
import CanStream.Error.Io

/-!
# Endpoints

The system calls that a socket is built on, answered from a script. An endpoint owns at most one
descriptor. What arrives, and what the calls fail with, is laid down beforehand; what is written and
which options are set is kept on record.

A call is a function on endpoints that gives a result or fails. A cue is a change to the script,
made while the endpoint is in use.

The kernel itself follows no script. Without a descriptor its answers are known all the same: to
close is in order, a type of socket that it does not know cannot be opened, and every other call
fails for want of a descriptor.
-/

namespace CanStream

/-- The protocol of a socket. -/
inductive SocketType
  | raw
  | bcm
  | tp16
  | tp20
  | isoTp
  | unknown
  deriving DecidableEq, Repr

namespace SocketType

def name : SocketType → String
  | raw => "Raw"
  | bcm => "Bcm"
  | tp16 => "Tp16"
  | tp20 => "Tp20"
  | isoTp => "IsoTp"
  | unknown => "Unknown"

def all : List SocketType := [raw, bcm, tp16, tp20, isoTp, unknown]

def ofName? (s : String) : Option SocketType := all.find? (·.name == s)

end SocketType

/-- A network interface. -/
structure Interface where
  name : String
  index : UInt32
  mtu : Nat
  deriving DecidableEq, Repr

/-- The answer to one read: a datagram, or a failure. -/
inductive Arrival
  | datagram (bytes : List UInt8)
  | failure (errno : Int)
  deriving DecidableEq, Repr

/-- The answer to one write: a failure, or at most so many bytes go through. -/
inductive WriteAnswer
  | failure (errno : Int)
  | upTo (n : Nat)
  deriving DecidableEq, Repr

/-- What a descriptor is ready for. -/
structure Readiness where
  readable : Bool
  writable : Bool
  deriving DecidableEq, Repr

/-- An answer to a poll that is laid down beforehand. -/
inductive PollAnswer
  | idle
  | ready (r : Readiness)
  | failure (errno : Int)
  deriving DecidableEq, Repr

/-- The name of a socket option: its level and its number. -/
structure OptionName where
  level : Int
  number : Int
  deriving DecidableEq, Repr

/-- A scripted endpoint. -/
structure Endpoint where
  /-- The interfaces that can be looked up. -/
  interfaces : List Interface
  /-- The type of the open descriptor. -/
  opened : Option SocketType
  nonblocking : Bool
  bound : Option Address
  /-- The options that were set, in order. -/
  options : List (OptionName × List UInt8)
  /-- The answers to the coming reads. -/
  arrivals : List Arrival
  /-- What the endpoint was given to write, one entry for each call. -/
  tried : List (List UInt8)
  /-- What was written, one entry for each call. The record can be taken away. -/
  written : List (List UInt8)
  /-- The number of writes that went through. -/
  writes : Nat
  /-- The answers to the coming writes, in front of the endpoint's own. -/
  writeAnswers : List WriteAnswer
  /-- The most bytes that one write takes. -/
  writeLimit : Option Nat
  writable : Bool
  openError : Option Int
  nonblockingError : Option Int
  bindError : Option Int
  closeError : Option Int
  /-- The options that cannot be set. -/
  optionErrors : List (OptionName × Int)
  /-- The answers to the coming polls, in front of the endpoint's own. -/
  pollAnswers : List PollAnswer
  polls : Nat
  closes : Nat
  deriving DecidableEq, Repr

namespace Endpoint

/-- The endpoint without interfaces, on which nothing arrives. -/
def blank : Endpoint where
  interfaces := []
  opened := none
  nonblocking := false
  bound := none
  options := []
  arrivals := []
  tried := []
  written := []
  writes := 0
  writeAnswers := []
  writeLimit := none
  writable := true
  openError := none
  nonblockingError := none
  bindError := none
  closeError := none
  optionErrors := []
  pollAnswers := []
  polls := 0
  closes := 0

instance : Inhabited Endpoint := ⟨blank⟩

/-- A call: a result or a failure, and the endpoint afterwards. -/
abbrev Call (α : Type) := Endpoint → Except IoError α × Endpoint

def isOpen (e : Endpoint) : Bool := e.opened.isSome

def descriptor : Nat := 42

def descriptor? (e : Endpoint) : Option Nat := e.opened.map fun _ => descriptor

/-- The call made on an open descriptor; without one it fails. -/
def whileOpen {α : Type} (call : Call α) : Call α := fun e =>
  if e.isOpen then call e else (.error (.os Errno.badDescriptor), e)

def openAs (type : SocketType) : Call Unit := fun e =>
  match e.openError with
  | some code => (.error (.os code), { e with openError := none })
  | none => (.ok (), { e with opened := some type, nonblocking := false, bound := none })

def close : Call Unit := fun e =>
  if e.isOpen then
    let closed :=
      { e with opened := none, bound := none, closes := e.closes + 1, closeError := none }
    match e.closeError with
    | some code => (.error (.os code), closed)
    | none => (.ok (), closed)
  else (.ok (), e)

/-- Says whether calls on the descriptor return at once. -/
def setNonblocking (on : Bool) : Call Unit := fun e =>
  match e.nonblockingError with
  | some code => (.error (.os code), { e with nonblockingError := none })
  | none => whileOpen (fun e => (.ok (), { e with nonblocking := on })) e

def interface? (e : Endpoint) (name : String) : Option Interface :=
  e.interfaces.find? (·.name == name)

def lookup (name : String) : Call Interface := fun e =>
  match e.interface? name with
  | some i => (.ok i, e)
  | none => (.error (.os Errno.noDevice), e)

def optionError? (e : Endpoint) (name : OptionName) : Option Int :=
  (e.optionErrors.find? (·.1 == name)).map (·.2)

def setOption (name : OptionName) (value : List UInt8) : Call Unit :=
  whileOpen fun e =>
    match e.optionError? name with
    | some code => (.error (.os code), e)
    | none => (.ok (), { e with options := e.options ++ [(name, value)] })

def option? (e : Endpoint) (name : OptionName) : Option (List UInt8) :=
  (e.options.reverse.find? (·.1 == name)).map (·.2)

def optionCount (e : Endpoint) (name : OptionName) : Nat :=
  e.options.countP (·.1 == name)

def bindTo (address : Address) : Call Unit :=
  whileOpen fun e =>
    match e.bindError with
    | some code => (.error (.os code), { e with bindError := none })
    | none => (.ok (), { e with bound := some address })

/-- Reads once: the next arrival, cut to `n` bytes. Without one the read would block. -/
def read (n : Nat) : Call (List UInt8) :=
  whileOpen fun e =>
    match e.arrivals with
    | [] => (.error (.os Errno.again), e)
    | .failure code :: rest => (.error (.os code), { e with arrivals := rest })
    | .datagram bytes :: rest => (.ok (bytes.take n), { e with arrivals := rest })

def accept (data : List UInt8) : Call Nat := fun e =>
  (.ok data.length, { e with written := e.written ++ [data], writes := e.writes + 1 })

def limited (limit : Option Nat) (data : List UInt8) : List UInt8 :=
  match limit with
  | some n => data.take n
  | none => data

/-- Answers a write: as much as the next answer or else the limit lets through. -/
def answerWrite (data : List UInt8) : Call Nat :=
  whileOpen fun e =>
    match e.writeAnswers with
    | .failure code :: rest => (.error (.os code), { e with writeAnswers := rest })
    | .upTo n :: rest => accept (data.take n) { e with writeAnswers := rest }
    | [] =>
        if e.writable then accept (limited e.writeLimit data) e
        else (.error (.os Errno.again), e)

def write (data : List UInt8) : Call Nat := fun e =>
  answerWrite data { e with tried := e.tried ++ [data] }

/-- What the endpoint itself is ready for, of what is asked. -/
def readiness (e : Endpoint) (read write : Bool) : Readiness where
  readable := read && !e.arrivals.isEmpty
  writable := write && (e.writable || !e.writeAnswers.isEmpty)

/-- Asks what the descriptor is ready for; `none` means that the time ran out with nothing ready. -/
def poll (read write : Bool) : Call (Option Readiness) := fun e =>
  match e.pollAnswers with
  | .idle :: rest => (.ok none, { e with pollAnswers := rest })
  | .ready r :: rest => (.ok (some r), { e with pollAnswers := rest })
  | .failure code :: rest => (.error (.os code), { e with pollAnswers := rest })
  | [] =>
      whileOpen (fun e =>
        let r := e.readiness read write
        let answer := if r.readable || r.writable then some r else none
        (.ok answer, { e with polls := e.polls + 1 })) e

/-- The arrivals that were taken between two moments. -/
def arrivalsTaken (before after : Endpoint) : List Arrival :=
  before.arrivals.take (before.arrivals.length - after.arrivals.length)

/-- What the endpoint was given to write between two moments. -/
def writesTried (before after : Endpoint) : List (List UInt8) :=
  after.tried.drop before.tried.length

/-- The writes that went through between two moments, each with the bytes that were taken. -/
def writesMade (before after : Endpoint) : List (List UInt8) :=
  after.written.drop before.written.length

/-- A change to the script of an endpoint. -/
inductive Cue
  | addInterface (i : Interface)
  | pushRead (bytes : List UInt8)
  | pushReadError (errno : Int)
  | pushWriteError (errno : Int)
  | pushWriteTake (n : Nat)
  | failOpen (errno : Int)
  | failNonblocking (errno : Int)
  | failBind (errno : Int)
  | failClose (errno : Int)
  | failOption (name : OptionName) (errno : Int)
  | setWriteLimit (limit : Option Nat)
  | setWritable (on : Bool)
  | pushPolls (answers : List PollAnswer)
  deriving DecidableEq, Repr

def cue (e : Endpoint) : Cue → Endpoint
  | .addInterface i => { e with interfaces := i :: e.interfaces.filter (·.name != i.name) }
  | .pushRead bytes => { e with arrivals := e.arrivals ++ [.datagram bytes] }
  | .pushReadError code => { e with arrivals := e.arrivals ++ [.failure code] }
  | .pushWriteError code => { e with writeAnswers := e.writeAnswers ++ [.failure code] }
  | .pushWriteTake n => { e with writeAnswers := e.writeAnswers ++ [.upTo n] }
  | .failOpen code => { e with openError := some code }
  | .failNonblocking code => { e with nonblockingError := some code }
  | .failBind code => { e with bindError := some code }
  | .failClose code => { e with closeError := some code }
  | .failOption name code =>
      { e with optionErrors := (name, code) :: e.optionErrors.filter (·.1 != name) }
  | .setWriteLimit limit => { e with writeLimit := limit }
  | .setWritable on => { e with writable := on }
  | .pushPolls answers => { e with pollAnswers := e.pollAnswers ++ answers }

/-! ## The kernel without a descriptor -/

/-- A call on a descriptor that is not open. -/
inductive ClosedCall
  | openAs (type : SocketType)
  | close
  | other
  deriving DecidableEq, Repr

def isSupported : SocketType → Bool
  | .raw => true
  | .isoTp => true
  | .bcm => false
  | .tp16 => false
  | .tp20 => false
  | .unknown => false

/-- The failure of a call on a descriptor that is not open, if it is known to fail. -/
def ClosedCall.failure? : ClosedCall → Option IoError
  | .openAs type => if isSupported type then none else some (.os Errno.protocolUnsupported)
  | .close => none
  | .other => some (.os Errno.badDescriptor)

/-- Whether a cue shows in a script that no call follows: only what is to arrive is counted. -/
def Cue.showsUnfollowed : Cue → Bool
  | .pushRead _ => true
  | .pushReadError _ => true
  | _ => false

end Endpoint

end CanStream
