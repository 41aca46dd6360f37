import CanStream.Frame.Stream
import CanStream.Socket.Protocol

/-!
# Raw frames

The protocol of whole frames in the kernel's layout. What is read is tagged with its own size in the
two sentinel bytes, which the kernel leaves unused.

The options are kept in the protocol. While the socket is connected a new value has to be accepted
by the kernel first; otherwise all of them are handed to the kernel when the socket connects.
-/

namespace CanStream

/-- A receive filter: a frame passes if its identifier agrees with the filter's on the bits of the
mask. -/
structure Filter where
  id : UInt32
  mask : UInt32
  deriving DecidableEq, Repr

namespace Filter

/-- The bit of a filter that keeps out what agrees with it. -/
def invertedFlag : UInt32 := 0x20000000

/-- The filter that keeps out what agrees with it. -/
def inverted (id mask : UInt32) : Filter := ⟨id ||| invertedFlag, mask⟩

def acceptAll : Filter := ⟨0, 0⟩

def encode (f : Filter) : List UInt8 :=
  ByteOrder.native.encode f.id ++ ByteOrder.native.encode f.mask

end Filter

namespace Raw

/-- The options. -/
inductive Opt
  | filters
  | errorMask
  | loopback
  | ownMessages
  | fdFrames
  deriving DecidableEq, Repr

namespace Opt

/-- The options in the order in which the kernel is given them. -/
def all : List Opt := [filters, errorMask, loopback, ownMessages, fdFrames]

def name : Opt → String
  | filters => "CanFilter"
  | errorMask => "ErrorFilterMask"
  | loopback => "Loopback"
  | ownMessages => "ReceiveOwnMessages"
  | fdFrames => "FdFrames"

def ofName? (s : String) : Option Opt := all.find? (·.name == s)

def level : Int := 101

def number : Opt → Int
  | filters => 1
  | errorMask => 2
  | loopback => 3
  | ownMessages => 4
  | fdFrames => 5

def kernelName (o : Opt) : OptionName := ⟨level, o.number⟩

end Opt

/-- The value of an option. -/
inductive Value
  | filters (v : List Filter)
  | errorMask (v : ErrorClass)
  | loopback (on : Bool)
  | ownMessages (on : Bool)
  | fdFrames (on : Bool)
  deriving DecidableEq, Repr

namespace Value

def option : Value → Opt
  | filters _ => .filters
  | errorMask _ => .errorMask
  | loopback _ => .loopback
  | ownMessages _ => .ownMessages
  | fdFrames _ => .fdFrames

def encodeSwitch (on : Bool) : List UInt8 := ByteOrder.native.encode (if on then 1 else 0)

def encode : Value → List UInt8
  | filters v => v.flatMap Filter.encode
  | errorMask v => ByteOrder.native.encode v.bits
  | loopback on => encodeSwitch on
  | ownMessages on => encodeSwitch on
  | fdFrames on => encodeSwitch on

end Value

/-- The state of the protocol: the options, and the interface it is connected to. -/
structure State where
  filters : List Filter
  errorMask : ErrorClass
  loopback : Bool
  ownMessages : Bool
  fdFrames : Bool
  interfaceName : String
  deriving DecidableEq, Repr

namespace State

/-- The options of a new socket: every frame but error frames is received, and no flexible ones. -/
def initial : State where
  filters := [Filter.acceptAll]
  errorMask := FlagSet.empty
  loopback := true
  ownMessages := false
  fdFrames := false
  interfaceName := ""

instance : Inhabited State := ⟨initial⟩

def value (s : State) : Opt → Value
  | .filters => .filters s.filters
  | .errorMask => .errorMask s.errorMask
  | .loopback => .loopback s.loopback
  | .ownMessages => .ownMessages s.ownMessages
  | .fdFrames => .fdFrames s.fdFrames

def put (s : State) : Value → State
  | .filters v => { s with filters := v }
  | .errorMask v => { s with errorMask := v }
  | .loopback on => { s with loopback := on }
  | .ownMessages on => { s with ownMessages := on }
  | .fdFrames on => { s with fdFrames := on }

def frameSize (s : State) : Nat := if s.fdFrames then fdUnit else classicUnit

end State

/-- Hands an option's value to the kernel. Flexible frames need an interface that carries them;
bound to all interfaces there is none to ask. -/
def push (value : Value) : Hook State SocketError Unit := do
  let s ← Hook.state
  if value = .fdFrames true ∧ s.interfaceName ≠ "" then do
    let i ← Hook.call SocketError.ofIo (Endpoint.lookup s.interfaceName)
    if i.mtu ≠ fdUnit then
      Hook.fail ⟨.unsupportedOperation, "Device doesn't support flexible data rate frames"⟩
    else Hook.call SocketError.ofIo (Endpoint.setOption value.option.kernelName value.encode)
  else Hook.call SocketError.ofIo (Endpoint.setOption value.option.kernelName value.encode)

/-- Hands the values of some options to the kernel. -/
def pushAll (options : List Opt) : Hook State SocketError Unit :=
  options.forM fun o => do
    let s ← Hook.state
    push (s.value o)

/-- The index of an interface; no name stands for all of them. -/
def indexOf (ifname : String) : Hook State SocketError UInt32 :=
  if ifname = "" then pure 0
  else do
    let i ← Hook.call SocketError.ofIo (Endpoint.lookup ifname)
    pure i.index

/-- Opens and sets up the descriptor and binds it to an interface, or without a name to all of them.
-/
def connect (ifname : String) : Hook State SocketError Unit := do
  Hook.call SocketError.ofIo (Endpoint.openAs .raw)
  Hook.call SocketError.ofIo (Endpoint.setNonblocking true)
  let index ← indexOf ifname
  Hook.modifyState fun s => { s with interfaceName := ifname }
  pushAll Opt.all
  Hook.call SocketError.ofIo (Endpoint.bindTo (Address.ofIndex index))

def tag (bytes : List UInt8) : List UInt8 :=
  (bytes.set 6 (UInt8.ofNat (bytes.length - headerSize))).set 7 (UInt8.ofNat bytes.length)

def unexpectedSize (n : Nat) : IoError :=
  .worded .invalidData ("Unexpected CAN frame size: " ++ toString n)

/-- Reads frames into a window while one fits, at most `count` of them. A failure after the first
frame only ends the reading, but a datagram that is no frame gives up all that was read before it.
-/
def readFrames (frameSize window : Nat) : Nat → List UInt8 → Hook State IoError (List UInt8)
  | 0, taken => pure taken
  | count + 1, taken =>
      if window - taken.length < frameSize then pure taken
      else do
        match ← Hook.attempt (Endpoint.read frameSize) with
        | .error cause =>
            if cause.shouldRetry || !taken.isEmpty then pure taken else Hook.fail cause
        | .ok [] => pure taken
        | .ok bytes =>
            if bytes.length ≠ classicUnit ∧ bytes.length ≠ frameSize then
              Hook.fail (unexpectedSize bytes.length)
            else readFrames frameSize window count (taken ++ tag bytes)

def read (window : Nat) : Hook State IoError (List UInt8) := do
  let s ← Hook.state
  readFrames s.frameSize window (window / classicUnit) []

/-- Bytes that are no whole frame of a size in use. -/
def invalidFrame : IoError := .worded .invalidData "Invalid CAN frame in the write buffer"

def incompleteWrite : IoError := .worded .writeZero "Incomplete CAN frame write"

/-- The size of the whole frame at the start of some bytes, if it may be written. -/
def frameAt? (fd : Bool) (bytes : List UInt8) : Option Nat :=
  (Frame.sizeAt? bytes).filter fun n => (n == classicUnit || fd) && decide (n ≤ bytes.length)

/-- The end of a writing: bytes that are left can wait if something was written before them. -/
def stopWriting (taken : Nat) (rest : List UInt8) : Hook State IoError Nat :=
  if rest.isEmpty || decide (0 < taken) then pure taken else Hook.fail invalidFrame

/-- Writes frames one by one, at most `count` of them. When the kernel has no room for a frame, or
after a failure that is not the first thing to happen, the writing only ends. -/
def writeFrames (fd : Bool) : Nat → Nat → List UInt8 → Hook State IoError Nat
  | 0, taken, rest => stopWriting taken rest
  | count + 1, taken, rest =>
      match frameAt? fd rest with
      | none => stopWriting taken rest
      | some size => do
          match ← Hook.attempt (Endpoint.write (rest.take size)) with
          | .error cause =>
              if cause.isBusy || decide (0 < taken) then pure taken else Hook.fail cause
          | .ok n =>
              if n = 0 then pure taken
              else if n = size then writeFrames fd count (taken + size) (rest.drop size)
              else Hook.fail incompleteWrite

/-- Writes the frames at the start of some bytes. -/
def write (bytes : List UInt8) : Hook State IoError Nat := do
  let s ← Hook.state
  writeFrames s.fdFrames (bytes.length / classicUnit) 0 bytes

/-- Hands an option's value to the kernel if the socket is connected. -/
def applyOption (state : SocketState) (value : Value) : Hook State SocketError Unit :=
  if state = .connected then push value else pure ()

/-- The largest amount read in one go: seventy-two classic frames, or sixteen flexible ones. -/
def readChunk : Nat := 1152

def bufferChunk : Nat := 18432

def protocol : Protocol where
  State := State
  Opt := Opt
  Value := Value
  decEqOpt := inferInstance
  optionName := Opt.name
  optionOf := Value.option
  initial := State.initial
  socketType := fun _ => .raw
  readChunkSize := fun _ => readChunk
  initialBufferSize := fun _ => bufferChunk
  connect := connect
  disconnect := fun s => { s with interfaceName := "" }
  read := read
  write := write
  msgSize := State.frameSize
  isDatagram := fun _ => false
  messageQueued := fun _ s => s
  nextWriteSize := State.frameSize
  carriesFd := State.fdFrames
  applyOption := applyOption
  keepOption := fun v s => (decide (s.value v.option ≠ v), s.put v)

end Raw

end CanStream
