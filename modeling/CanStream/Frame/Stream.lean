import CanStream.ByteOrder
import CanStream.Error.Io
import CanStream.Frame.Basic

/-!
# Frames as bytes

In a stream a frame is its header followed by as many payload bytes as the header's length says. The
header is the identifier word in a chosen byte order, the length, the flags and the two sentinels.

The kernel passes frames in blocks of sixteen bytes, or of seventy-two for flexible data rate
frames: the header in the byte order of the host, and the whole payload capacity behind it. What
lies in the capacity beyond the data length travels with the frame.

Reading never rejects what it can delimit: a header that describes no usable frame becomes an error
frame of the class for unknown frames.
-/

namespace CanStream.Frame

/-- The eight bytes of a header. -/
structure Header where
  word : UInt32
  length : UInt8
  flags : UInt8
  sentinel0 : UInt8
  sentinel1 : UInt8
  deriving DecidableEq

def header (f : Frame) : Header where
  word := f.word
  length := UInt8.ofNat f.length
  flags := f.flags
  sentinel0 := f.sentinel0
  sentinel1 := f.sentinel1

namespace Header

def encode (h : Header) (order : ByteOrder) : List UInt8 :=
  order.encode h.word ++ [h.length, h.flags, h.sentinel0, h.sentinel1]

/-- The header at the start of a byte string, and what follows it. -/
def decode? (order : ByteOrder) : List UInt8 → Option (Header × List UInt8)
  | a :: b :: c :: d :: length :: flags :: s0 :: s1 :: rest =>
      some (⟨order.decode a b c d, length, flags, s0, s1⟩, rest)
  | _ => none

/-- The payload capacity, if the sentinels name one and the length fits it. -/
def capacity? (h : Header) : Option Nat :=
  (Frame.capacity? h.sentinel0 h.sentinel1).filter (h.length.toNat ≤ ·)

/-- The frame with a header and a payload, of the kind that the header says. -/
def frame (h : Header) (payload : Payload) : Frame :=
  let f : Frame :=
    { kind := .unknown, word := h.word, length := h.length.toNat, flags := h.flags,
      sentinel0 := h.sentinel0, sentinel1 := h.sentinel1, payload := payload }
  { f with kind := f.derivedKind }

end Header

/-- The error frame that stands for a frame nobody could read; the format flag is kept. -/
def asUnknownError (f : Frame) : Frame :=
  ({ f with kind := .unknown, payload := .zero }.setCanId unknownFrameClass).toError

/-- The bytes of a frame in a stream. A frame of no known kind has none. -/
def encode (f : Frame) (order : ByteOrder) : List UInt8 :=
  if f.isValid then f.header.encode order ++ f.data else []

/-- Writes a frame over the start of a buffer of `n` zeros: the bytes left over, and the buffer. -/
def encodeInto (f : Frame) (order : ByteOrder) (n : Nat) : Except IoError (Nat × List UInt8) :=
  let bytes := f.encode order
  if bytes.length ≤ n then .ok (n - bytes.length, bytes ++ List.replicate (n - bytes.length) 0)
  else .error .shortOutput

/-- Reads one frame from the start of a byte string: the frame, and what follows it. -/
def decode (order : ByteOrder) (bytes : List UInt8) : Except IoError (Frame × List UInt8) :=
  match Header.decode? order bytes with
  | none => .error .shortInput
  | some (h, rest) =>
      match h.capacity? with
      | none => .ok ((h.frame .zero).asUnknownError, rest)
      | some _ =>
          if rest.length < h.length.toNat then .error .shortInput
          else
            let f := h.frame (Payload.zero.overwrite (rest.take h.length.toNat))
            .ok (if f.kind = .unknown then f.asUnknownError else f, rest.drop h.length.toNat)

/-- The block of a frame. A frame of no known kind has none. -/
def toKernel (f : Frame) : List UInt8 :=
  if f.transferUnit = 0 then []
  else f.header.encode .native ++ f.payload.bytes.take (f.transferUnit - headerSize)

/-- The frame at the start of a byte string, and the size of its block. A block whose sentinels name
no layout has the classic size. -/
def ofKernel? (bytes : List UInt8) : Option (Frame × Nat) :=
  match Header.decode? .native bytes with
  | none => none
  | some (h, rest) =>
      let capacity := (Frame.capacity? h.sentinel0 h.sentinel1).getD classicCapacity
      if rest.length < capacity then none
      else
        let f := h.frame (Payload.zero.overwrite (rest.take capacity))
        if h.capacity?.isNone ∨ f.kind = .unknown then
          some ((h.frame .zero).asUnknownError, headerSize + capacity)
        else some ({ f with payload := f.payload.zeroFrom f.maxLength }, headerSize + capacity)

end CanStream.Frame
