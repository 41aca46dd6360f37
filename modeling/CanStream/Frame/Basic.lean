import CanStream.CanId
import CanStream.Error.Frame

/-!
# Frames

A frame holds what goes into the kernel's layouts for classic and flexible data rate frames: the
identifier word, the data length, the flags, two sentinel bytes and sixty-four bytes of payload. The
sentinels name the layout: `8, 16` for classic frames and `64, 72` for flexible ones.

The kind of a frame is stored. It changes only through the transitions `toData`, `toFd`, `toError`,
`toRemote` and `clear`, which leave the other fields in the canonical state of the new kind.
-/

namespace CanStream

def classicCapacity : Nat := 8

/-- The payload capacity of a flexible data rate frame. -/
def fdCapacity : Nat := 64

def headerSize : Nat := 8

/-- The size of a classic frame in the kernel's layout. -/
def classicUnit : Nat := 16

/-- The size of a flexible data rate frame in the kernel's layout. -/
def fdUnit : Nat := 72

/-- Sixty-four bytes. -/
structure Payload where
  bytes : List UInt8
  length_bytes : bytes.length = 64
  deriving DecidableEq

namespace Payload

def zero : Payload := ⟨List.replicate 64 0, by simp⟩

def zeroFrom (p : Payload) (n : Nat) : Payload :=
  ⟨p.bytes.take n ++ List.replicate (64 - n) 0, by simp [p.length_bytes]; omega⟩

def overwrite (p : Payload) (data : List UInt8) : Payload :=
  ⟨data.take 64 ++ p.bytes.drop data.length, by simp [p.length_bytes]; omega⟩

def setByte (p : Payload) (i : Nat) (v : UInt8) : Payload :=
  ⟨p.bytes.set i v, by simp [p.length_bytes]⟩

end Payload

/-- What a frame is for. -/
inductive Frame.Kind
  | data
  | fd
  | error
  | remote
  | unknown
  deriving DecidableEq, Repr

namespace Frame.Kind

def name : Kind → String
  | data => "Data"
  | fd => "Fd"
  | error => "Error"
  | remote => "Rtr"
  | unknown => "Unknown"

/-- The kinds that a frame can be recognised as. -/
def known : List Kind := [data, fd, error, remote]

/-- The largest data length of a frame of the kind. -/
def maxLength : Kind → Nat
  | data => classicCapacity
  | fd => fdCapacity
  | error => classicCapacity
  | remote => 0
  | unknown => 0

/-- The size of a frame of the kind in the kernel's layout; an unknown frame has none. -/
def transferUnit : Kind → Nat
  | data => classicUnit
  | fd => fdUnit
  | error => classicUnit
  | remote => classicUnit
  | unknown => 0

end Frame.Kind

/-- A frame. -/
structure Frame where
  kind : Frame.Kind
  word : UInt32
  length : Nat
  flags : UInt8
  sentinel0 : UInt8
  sentinel1 : UInt8
  payload : Payload
  deriving DecidableEq

namespace Frame

/-- The payload capacity that a pair of sentinels names. -/
def capacity? (s0 s1 : UInt8) : Option Nat :=
  if s0 = 8 ∧ s1 = 16 then some classicCapacity
  else if s0 = 64 ∧ s1 = 72 then some fdCapacity
  else none

/-- The size of the kernel frame at the start of a byte string, as its sentinels name it. -/
def sizeAt? (bytes : List UInt8) : Option Nat :=
  match bytes[6]?, bytes[7]? with
  | some s0, some s1 => (capacity? s0 s1).map (· + headerSize)
  | _, _ => none

def empty : Frame where
  kind := .unknown
  word := 0
  length := 0
  flags := 0
  sentinel0 := 0
  sentinel1 := 0
  payload := .zero

instance : Inhabited Frame := ⟨empty⟩

def isValid (f : Frame) : Bool := f.kind != .unknown

/-- Whether the frame is stored as one of a kind. -/
def isOf (f : Frame) (k : Kind) : Bool := f.kind == k

def canId (f : Frame) : UInt32 := f.word &&& extendedMask

def idFlags (f : Frame) : IdFlags := FlagSet.truncate ⟨f.word⟩

/-- Whether the identifier is in the extended format. -/
def isExtended (f : Frame) : Bool := f.word &&& extendedFlag != 0

def id? (f : Frame) : Option CanId := CanId.ofWord? f.word

def data (f : Frame) : List UInt8 := f.payload.bytes.take f.length

/-- The byte at a position below the data length. -/
def byte? (f : Frame) (i : Nat) : Option UInt8 := f.data[i]?

def maxLength (f : Frame) : Nat := f.kind.maxLength

/-- The size of the frame in the kernel's layout. -/
def transferUnit (f : Frame) : Nat := f.kind.transferUnit

/-- The error classes of an error frame; other frames have none. -/
def errorClass (f : Frame) : ErrorClass :=
  if f.kind = .error then FlagSet.truncate ⟨f.canId⟩ else FlagSet.empty

def fdFlags (f : Frame) : FdFlags := FlagSet.truncate ⟨f.flags.toUInt32⟩

/-- The length code on the wire for the data length. -/
def lengthCode (f : Frame) : Nat :=
  if f.length ≤ 8 then f.length
  else if f.length ≤ 24 then 8 + (f.length - 9) / 4 + 1
  else if f.length ≤ 32 then 13
  else if f.length ≤ 48 then 14
  else 15

/-- The order of two frames by their identifiers, without the flags. -/
def compareId (f g : Frame) : Ordering := compare f.canId.toNat g.canId.toNat

/-- The kind as it is recognised in a byte stream: from the sentinels, the length and the flags. -/
def derivedKind (f : Frame) : Kind :=
  let isError := f.word &&& errorFlag != 0
  let isRemote := f.word &&& remoteFlag != 0
  match capacity? f.sentinel0 f.sentinel1 with
  | some 8 =>
      match isError, isRemote with
      | false, false => if f.length ≤ 8 then .data else .unknown
      | true, false => if f.length = 8 then .error else .unknown
      | false, true => if f.length = 0 then .remote else .unknown
      | true, true => .unknown
  | some 64 => if !isError && !isRemote && decide (f.length ≤ 64) then .fd else .unknown
  | _ => .unknown

/-! ## Transitions -/

/-- The frame as a classic data frame: the length is cut to eight, and no flag but the format stays.
-/
def toData (f : Frame) : Frame where
  kind := .data
  word := f.word &&& ~~~(remoteFlag ||| errorFlag)
  length := min f.length classicCapacity
  flags := 0
  sentinel0 := 8
  sentinel1 := 16
  payload := f.payload.zeroFrom classicCapacity

/-- The frame as a flexible data rate frame: the payload, its length and the FD flags stay. -/
def toFd (f : Frame) : Frame where
  kind := .fd
  word := f.word &&& ~~~(remoteFlag ||| errorFlag)
  length := min f.length fdCapacity
  flags := f.flags
  sentinel0 := 64
  sentinel1 := 72
  payload := f.payload

/-- The frame as an error frame, whose length is eight. -/
def toError (f : Frame) : Frame where
  kind := .error
  word := (f.word &&& ~~~remoteFlag) ||| errorFlag
  length := classicCapacity
  flags := 0
  sentinel0 := 8
  sentinel1 := 16
  payload := f.payload.zeroFrom classicCapacity

/-- The frame as a remote request, which has no data. -/
def toRemote (f : Frame) : Frame where
  kind := .remote
  word := (f.word &&& ~~~errorFlag) ||| remoteFlag
  length := 0
  flags := 0
  sentinel0 := 8
  sentinel1 := 16
  payload := f.payload.zeroFrom 0

def withKind (f : Frame) : Kind → Frame
  | .data => f.toData
  | .fd => f.toFd
  | .error => f.toError
  | .remote => f.toRemote
  | .unknown => empty

def ofKind (k : Kind) : Frame := empty.withKind k

def setWord (f : Frame) (word : UInt32) : Frame := { f with word := word }

/-- The frame with another identifier and the same flags. -/
def setCanId (f : Frame) (id : UInt32) : Frame :=
  { f with word := (f.word &&& ~~~extendedMask) ||| (id &&& extendedMask) }

/-- The frame with its identifier in the extended format, or in the standard one. -/
def setExtended (f : Frame) (on : Bool) : Frame :=
  { f with word := if on then f.word ||| extendedFlag else f.word &&& ~~~extendedFlag }

/-- The frame with another data length. The length of error frames and remote requests is fixed, and
unknown frames have none. Bytes that come into view keep what the payload held. -/
def setLength? (f : Frame) (n : Nat) : Option Frame :=
  if f.kind = .unknown then none
  else if f.length = n then some f
  else if f.kind = .remote ∨ f.kind = .error then none
  else if n ≤ f.maxLength then some { f with length := n }
  else none

/-- The frame with another payload, zeros up to the kind's capacity. An error frame keeps its
length. -/
def setData (f : Frame) (data : List UInt8) : Except ConstructionError Frame :=
  if f.kind = .unknown then .error .wrongFrameType
  else if f.kind = .remote ∧ 0 < data.length then .error .wrongFrameType
  else if f.maxLength < data.length then .error .tooMuchData
  else
    .ok { f with
      payload := f.payload.overwrite (data ++ List.replicate (f.maxLength - data.length) 0)
      length := if f.kind = .error then f.length else data.length }

/-- The frame with every byte of its data set to one value. -/
def fill (f : Frame) (v : UInt8) : Frame :=
  { f with payload := f.payload.overwrite (List.replicate f.data.length v) }

/-- The frame with one byte of its data replaced. -/
def setByte? (f : Frame) (i : Nat) (v : UInt8) : Option Frame :=
  if i < f.length then some { f with payload := f.payload.setByte i v } else none

/-- The frame with other FD flags, which only a flexible data rate frame has. -/
def setFdFlags? (f : Frame) (flags : FdFlags) : Option Frame :=
  if f.kind = .fd then some { f with flags := flags.bits.toUInt8 } else none

/-- The frame with the bit rate switch on or off. -/
def setBitRateSwitch? (f : Frame) (on : Bool) : Option Frame :=
  f.setFdFlags? (f.fdFlags.put bitRateSwitch on)

/-- The frame with the error state indicator on or off. -/
def setErrorState? (f : Frame) (on : Bool) : Option Frame :=
  f.setFdFlags? (f.fdFlags.put errorStateIndicator on)

/-- The data frame with a payload, flexible if it does not fit a classic frame. -/
def withData (id : CanId) (data : List UInt8) : Except ConstructionError Frame :=
  if data.length ≤ classicCapacity then ((ofKind .data).setWord id.word).setData data
  else if data.length ≤ fdCapacity then ((ofKind .fd).setWord id.word).setData data
  else .error .tooMuchData

/-- The data frame for an identifier given by its number. -/
def ofRawId (id : UInt32) (data : List UInt8) : Except ConstructionError Frame :=
  match CanId.ofRaw? id with
  | none => .error .idTooLarge
  | some id => withData id data

def remote (id : CanId) : Frame := (ofKind .remote).setWord (id.word ||| remoteFlag)

/-- The remote request for a length code, of which a classic frame has eight. -/
def remoteWithCode? (id : CanId) (code : Nat) : Option Frame :=
  if code ≤ classicCapacity then some (remote id) else none

end Frame

end CanStream
