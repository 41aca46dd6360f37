import CanStream.Error.Frame
import CanStream.Socket.Protocol

/-!
# Transport connections

The protocol of ISO 15765-2: payloads larger than a frame, segmented and put together by the kernel
over a pair of identifiers. Every read gives one payload and every write sends one, so the lengths
of the payloads that wait in the write buffer are kept beside it.

The identifiers and options go to the kernel when the socket connects and cannot be changed until it
is unconnected again.
-/

namespace CanStream.IsoTp

def flagFamily : FlagFamily where
  name := "IsoTpFlags"
  flags :=
    [("LISTEN_MODE", 0x1), ("EXTEND_ADDR", 0x2), ("TX_PADDING", 0x4), ("RX_PADDING", 0x8),
      ("CHK_PAD_LEN", 0x10), ("CHK_PAD_DATA", 0x20), ("HALF_DUPLEX", 0x40), ("FORCE_TXSTMIN", 0x80),
      ("FORCE_RXSTMIN", 0x100), ("RX_EXT_ADDR", 0x200)]

abbrev Flags := FlagSet flagFamily

def listenMode : UInt32 := 0x1

/-- The bit of a connection that fills up what it sends. -/
def txPadding : UInt32 := 0x4

def defaultPad : UInt8 := 0xCC

/-- The general options. -/
structure Options where
  flags : UInt32
  frameTime : UInt32
  extAddress : UInt8
  txPad : UInt8
  rxPad : UInt8
  rxExtAddress : UInt8
  deriving DecidableEq, Repr

namespace Options

def initial : Options where
  flags := 0
  frameTime := 0
  extAddress := 0
  txPad := defaultPad
  rxPad := defaultPad
  rxExtAddress := 0

instance : Inhabited Options := ⟨initial⟩

def namedFlags (o : Options) : Flags := FlagSet.truncate ⟨o.flags⟩

def encode (o : Options) : List UInt8 :=
  ByteOrder.native.encode o.flags ++ ByteOrder.native.encode o.frameTime ++
    [o.extAddress, o.txPad, o.rxPad, o.rxExtAddress]

end Options

/-- The options of flow control: block size, separation time code, and the limit of wait frames. -/
structure FlowControl where
  blockSize : UInt8
  separation : UInt8
  waitLimit : UInt8
  deriving DecidableEq, Repr

namespace FlowControl

def initial : FlowControl := ⟨0, 0, 0⟩

instance : Inhabited FlowControl := ⟨initial⟩

/-- The separation time codes of no delay, of the longest one, and of 100 and 900 microseconds. -/
def separationCodes : List UInt8 := [0x00, 0x7F, 0xF1, 0xF9]

def encode (o : FlowControl) : List UInt8 := [o.blockSize, o.separation, o.waitLimit]

end FlowControl

def dataLengths : List Nat := [8, 12, 16, 20, 24, 32, 48, 64]

/-- The options of the link: the size of its frames, their data length, and their flags. -/
structure LinkLayer where
  mtu : UInt8
  dataLength : UInt8
  flags : UInt8
  deriving DecidableEq, Repr

namespace LinkLayer

def initial : LinkLayer := ⟨16, 8, 0⟩

instance : Inhabited LinkLayer := ⟨initial⟩

/-- The options for a link, if it can send frames of the data length. -/
def make (mtu dataLength : Nat) (flags : UInt8) : Except ConstructionError LinkLayer :=
  if mtu ≠ 16 ∧ mtu ≠ 72 then .error .invalidDataLength
  else if dataLength ∉ dataLengths then .error .invalidDataLength
  else if mtu = 16 ∧ 8 < dataLength then .error .tooMuchData
  else .ok ⟨UInt8.ofNat mtu, UInt8.ofNat dataLength, flags⟩

/-- The options for a link that carries flexible data rate frames. -/
def fd (dataLength : Nat) (flags : UInt8) : Except ConstructionError LinkLayer :=
  make 72 dataLength flags

def namedFlags (o : LinkLayer) : FdFlags := FlagSet.truncate ⟨o.flags.toUInt32⟩

def encode (o : LinkLayer) : List UInt8 := [o.mtu, o.dataLength, o.flags]

end LinkLayer

/-- The options of a socket. -/
inductive Opt
  | txId
  | rxId
  | options
  | flowControl
  | txSeparation
  | rxSeparation
  | linkLayer
  deriving DecidableEq, Repr

namespace Opt

def all : List Opt := [txId, rxId, options, flowControl, txSeparation, rxSeparation, linkLayer]

def name : Opt → String
  | txId => "TxId"
  | rxId => "RxId"
  | options => "IsoTpOptions"
  | flowControl => "FlowControlOptions"
  | txSeparation => "TxMinSepTime"
  | rxSeparation => "RxMinSepTime"
  | linkLayer => "LinkLayerOptions"

def ofName? (s : String) : Option Opt := all.find? (·.name == s)

end Opt

/-- The value of an option. -/
inductive Value
  | txId (id : CanId)
  | rxId (id : CanId)
  | options (o : Options)
  | flowControl (o : FlowControl)
  | txSeparation (ns : UInt32)
  | rxSeparation (ns : UInt32)
  | linkLayer (o : LinkLayer)
  deriving DecidableEq, Repr

namespace Value

def option : Value → Opt
  | txId _ => .txId
  | rxId _ => .rxId
  | options _ => .options
  | flowControl _ => .flowControl
  | txSeparation _ => .txSeparation
  | rxSeparation _ => .rxSeparation
  | linkLayer _ => .linkLayer

end Value

/-- The state of the protocol: identifiers and options, and the lengths of the payloads that wait.
-/
structure State where
  txId : Option CanId
  rxId : Option CanId
  options : Options
  flowControl : FlowControl
  txSeparation : Option UInt32
  rxSeparation : Option UInt32
  linkLayer : LinkLayer
  queued : List Nat
  deriving DecidableEq, Repr

namespace State

/-- The state of a new socket, without identifiers. -/
def initial : State where
  txId := none
  rxId := none
  options := Options.initial
  flowControl := FlowControl.initial
  txSeparation := none
  rxSeparation := none
  linkLayer := LinkLayer.initial
  queued := []

instance : Inhabited State := ⟨initial⟩

def value? (s : State) : Opt → Option Value
  | .txId => s.txId.map .txId
  | .rxId => s.rxId.map .rxId
  | .options => some (.options s.options)
  | .flowControl => some (.flowControl s.flowControl)
  | .txSeparation => s.txSeparation.map .txSeparation
  | .rxSeparation => s.rxSeparation.map .rxSeparation
  | .linkLayer => some (.linkLayer s.linkLayer)

def put (s : State) : Value → State
  | .txId id => { s with txId := some id }
  | .rxId id => { s with rxId := some id }
  | .options o => { s with options := o }
  | .flowControl o => { s with flowControl := o }
  | .txSeparation ns => { s with txSeparation := some ns }
  | .rxSeparation ns => { s with rxSeparation := some ns }
  | .linkLayer o => { s with linkLayer := o }

end State

def level : Int := 106

/-- The kernel's numbers and values of the options that are set, in the order in which they are
handed over. The identifiers go into the address instead. -/
def State.kernelOptions (s : State) : List (OptionName × List UInt8) :=
  [(⟨level, 1⟩, s.options.encode), (⟨level, 2⟩, s.flowControl.encode)] ++
    (s.txSeparation.map fun ns => (⟨level, 3⟩, ByteOrder.native.encode ns)).toList ++
    (s.rxSeparation.map fun ns => (⟨level, 4⟩, ByteOrder.native.encode ns)).toList ++
    [(⟨level, 5⟩, s.linkLayer.encode)]

def pushAll (options : List (OptionName × List UInt8)) : Hook State SocketError Unit :=
  options.forM fun option => Hook.call SocketError.ofIo (Endpoint.setOption option.1 option.2)

/-- Opens and sets up the descriptor and binds it to an interface and the pair of identifiers. -/
def connect (ifname : String) : Hook State SocketError Unit := do
  let s ← Hook.state
  match s.txId, s.rxId with
  | some tx, some rx =>
      if ifname = "" then
        Hook.fail ⟨.noSuchDevice, "An ISO-TP socket needs an interface name"⟩
      else do
        Hook.modifyState fun s => { s with queued := [] }
        Hook.call SocketError.ofIo (Endpoint.openAs .isoTp)
        Hook.call SocketError.ofIo (Endpoint.setNonblocking true)
        let i ← Hook.call SocketError.ofIo (Endpoint.lookup ifname)
        pushAll s.kernelOptions
        Hook.call SocketError.ofIo (Endpoint.bindTo (Address.ofIds i.index rx tx))
  | _, _ =>
      Hook.fail
        ⟨.unsupportedOperation, "The transmit and receive IDs must be set before connecting"⟩

/-- Reads one payload; nothing to read is no failure. -/
def read (window : Nat) : Hook State IoError (List UInt8) := do
  match ← Hook.attempt (Endpoint.read window) with
  | .ok bytes => pure bytes
  | .error cause => if cause.shouldRetry then pure [] else Hook.fail cause

def maxPayload : Nat := 4095

/-- The lengths of the payloads that wait after `n` bytes of the first were taken. -/
def afterWrite (n : Nat) : List Nat → List Nat
  | [] => []
  | first :: rest => if first ≤ n then rest else (first - n) :: rest

/-- Writes the first payload that waits; no room for it is no failure. -/
def write (bytes : List UInt8) : Hook State IoError Nat := do
  let s ← Hook.state
  match ← Hook.attempt (Endpoint.write (bytes.take (s.queued.headD maxPayload))) with
  | .ok n => do
      Hook.modifyState fun s => { s with queued := afterWrite n s.queued }
      pure n
  | .error cause => if cause.shouldRetry then pure 0 else Hook.fail cause

/-- The lengths of the payloads that `n` bytes are sent as. -/
def payloadLengths (n : Nat) : List Nat :=
  List.replicate (n / maxPayload) maxPayload ++
    (if n % maxPayload = 0 then [] else [n % maxPayload])

/-- Refuses a change of options unless the socket is unconnected. -/
def applyOption (state : SocketState) (_ : Value) : Hook State SocketError Unit :=
  if state = .unconnected then pure ()
  else Hook.fail ⟨.unsupportedOperation, "ISO-TP options can only be set while unconnected"⟩

/-- The largest amount read in one go, enough for every payload. -/
def readChunk : Nat := 4096

def bufferChunk : Nat := 16384

def protocol : Protocol where
  State := State
  Opt := Opt
  Value := Value
  decEqOpt := inferInstance
  optionName := Opt.name
  optionOf := Value.option
  initial := State.initial
  socketType := fun _ => .isoTp
  readChunkSize := fun _ => readChunk
  initialBufferSize := fun _ => bufferChunk
  connect := connect
  disconnect := fun s => { s with queued := [] }
  read := read
  write := write
  msgSize := fun _ => 0
  isDatagram := fun _ => true
  messageQueued := fun n s => { s with queued := s.queued ++ payloadLengths n }
  nextWriteSize := fun s => s.queued.headD 0
  carriesFd := fun _ => false
  applyOption := applyOption
  keepOption := fun v s => (decide (s.value? v.option ≠ some v), s.put v)

end CanStream.IsoTp
