/-!
# Byte order

Words of thirty-two bits as four bytes, from either end.
-/

namespace CanStream

/-- Which byte of a word comes first. -/
inductive ByteOrder
  | little
  | big
  deriving DecidableEq, Repr

namespace ByteOrder

/-- The order in which the kernel reads and writes words. -/
def native : ByteOrder := little

/-- The byte of a word that stands for the power `256 ^ i`. -/
def byteOf (word : UInt32) (i : Nat) : UInt8 := UInt8.ofNat (word.toNat >>> (8 * i))

def encode (order : ByteOrder) (word : UInt32) : List UInt8 :=
  let bytes := [byteOf word 0, byteOf word 1, byteOf word 2, byteOf word 3]
  match order with
  | little => bytes
  | big => bytes.reverse

def decode (order : ByteOrder) (a b c d : UInt8) : UInt32 :=
  match order with
  | little => UInt32.ofNat (a.toNat + 256 * (b.toNat + 256 * (c.toNat + 256 * d.toNat)))
  | big => UInt32.ofNat (d.toNat + 256 * (c.toNat + 256 * (b.toNat + 256 * a.toNat)))

end ByteOrder

end CanStream
