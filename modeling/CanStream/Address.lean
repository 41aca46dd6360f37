import CanStream.ByteOrder
import CanStream.CanId

/-!
# Addresses

The address a socket is bound to: a network interface by its index, and for a transport connection
the pair of identifier words. Index zero stands for all interfaces.
-/

namespace CanStream

/-- The address of a socket. -/
structure Address where
  index : UInt32
  rx : UInt32
  tx : UInt32
  deriving DecidableEq, Repr

namespace Address

/-- The address family of the controller area network. -/
def family : Nat := 29

def size : Nat := 24

/-- The size of the part of the kernel's general address structure that is shown. -/
def storageSize : Nat := 28

def ofIndex (index : UInt32) : Address := ⟨index, 0, 0⟩

/-- The address of a transport connection on an interface. -/
def ofIds (index : UInt32) (rx tx : CanId) : Address := ⟨index, rx.word, tx.word⟩

/-- The kernel's address structure behind the family: index, identifiers, and eight bytes not in
use. -/
def body (a : Address) : List UInt8 :=
  ByteOrder.native.encode a.index ++ ByteOrder.native.encode a.rx ++ ByteOrder.native.encode a.tx ++
    List.replicate 8 0

/-- The same structure at the start of the kernel's general address structure. -/
def storage (a : Address) : List UInt8 :=
  a.body ++ List.replicate (storageSize - a.body.length) 0

/-- The address with its family and index, the index as a signed number. -/
def describe (a : Address) : String :=
  "CanAddr \x7b can_family: " ++ toString family ++
    ", can_ifindex: " ++ toString (Int.bmod a.index.toNat 0x100000000) ++ " \x7d"

end Address

end CanStream
