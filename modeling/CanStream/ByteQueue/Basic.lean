/-!
# Byte queues

A first-in first-out queue of bytes, kept in chunks so that a reservation at the tail and the block
at the head are each in one piece. A chunk is made with room for as many bytes as were asked for,
but at least for the queue's chunk size; bytes taken from its front give that room up for good.

One chunk may be empty: the only one, kept as a spare for the next reservation.
-/

namespace CanStream

/-- Some bytes, and the room that the chunk was made with. -/
structure Chunk where
  bytes : List UInt8
  capacity : Nat
  deriving DecidableEq, Repr

namespace Chunk

def size (c : Chunk) : Nat := c.bytes.length

def fits (c : Chunk) (n : Nat) : Bool := decide (n ≤ c.capacity - c.size)

def extend (c : Chunk) (more : List UInt8) : Chunk := { c with bytes := c.bytes ++ more }

def emptied (c : Chunk) : Chunk := { c with bytes := [] }

def truncate (c : Chunk) (n : Nat) : Chunk := { c with bytes := c.bytes.take n }

/-- The chunk without its first `n` bytes and their room. -/
def advance (c : Chunk) (n : Nat) : Chunk where
  bytes := c.bytes.drop n
  capacity := c.capacity - n

end Chunk

/-- A queue of bytes in chunks, the head first. -/
structure ByteQueue where
  chunks : List Chunk
  size : Nat
  chunkSize : Nat
  deriving DecidableEq, Repr

namespace ByteQueue

/-- The chunk size of a queue for which none is given. -/
def defaultChunkSize : Nat := 4096

/-- The empty queue; its chunks hold one byte at least. -/
def empty (chunkSize : Nat) : ByteQueue := ⟨[], 0, max chunkSize 1⟩

def toList (q : ByteQueue) : List UInt8 := q.chunks.flatMap Chunk.bytes

def isEmpty (q : ByteQueue) : Bool := q.size == 0

def head (q : ByteQueue) : List UInt8 :=
  match q.chunks with
  | [] => []
  | c :: _ => c.bytes

/-- The chunks with more bytes at the tail: in the last chunk if they fit there, otherwise in a new
one, which takes the place of an empty chunk. -/
def extendLast (chunkSize : Nat) (more : List UInt8) : List Chunk → List Chunk
  | [] => [⟨more, max more.length chunkSize⟩]
  | [c] =>
      if c.fits more.length then [c.extend more]
      else if c.bytes.isEmpty then [⟨more, max more.length chunkSize⟩]
      else [c, ⟨more, max more.length chunkSize⟩]
  | c :: d :: rest => c :: extendLast chunkSize more (d :: rest)

/-- Reserves `n` bytes at the tail, in one piece, and fills them from their start; the rest are
zeros. -/
def reserve (q : ByteQueue) (n : Nat) (data : List UInt8) : ByteQueue :=
  let window := data.take n ++ List.replicate (n - data.length) 0
  { q with chunks := extendLast q.chunkSize window q.chunks, size := q.size + n }

/-- The chunks, last one first, without `n` bytes at the tail. -/
def chopChunks : Nat → List Chunk → List Chunk
  | _, [] => []
  | 0, chunks => chunks
  | n + 1, c :: rest =>
      if n + 1 < c.size then c.truncate (c.size - (n + 1)) :: rest
      else chopChunks (n + 1 - c.size) rest

/-- The chunks without `n` bytes at the head; the last chunk stays, emptied if need be. -/
def freeChunks : Nat → List Chunk → List Chunk
  | _, [] => []
  | 0, chunks => chunks
  | n + 1, [c] => if n + 1 < c.size then [c.advance (n + 1)] else [c.emptied]
  | n + 1, c :: d :: rest =>
      if n + 1 < c.size then c.advance (n + 1) :: d :: rest
      else freeChunks (n + 1 - c.size) (d :: rest)

/-- The chunks, last one first, without empty ones at the tail, except when there is only one chunk.
-/
def dropEmptyLast : List Chunk → List Chunk
  | c :: d :: rest => if c.bytes.isEmpty then dropEmptyLast (d :: rest) else c :: d :: rest
  | chunks => chunks

def spare : List Chunk → List Chunk
  | [] => []
  | c :: _ => [c.emptied]

/-- The queue without empty chunks at the tail; of an empty queue one spare chunk is kept. -/
def trim (q : ByteQueue) : ByteQueue :=
  let chunks := (dropEmptyLast q.chunks.reverse).reverse
  { q with chunks := if q.size = 0 then spare chunks else chunks }

/-- The queue without `n` bytes at the tail, or empty if it has fewer. -/
def chop (q : ByteQueue) (n : Nat) : ByteQueue :=
  let k := min n q.size
  trim { q with chunks := (chopChunks k q.chunks.reverse).reverse, size := q.size - k }

/-- The queue without `n` bytes at the head, or empty if it has fewer. -/
def free (q : ByteQueue) (n : Nat) : ByteQueue :=
  let k := min n q.size
  trim { q with chunks := freeChunks k q.chunks, size := q.size - k }

/-- The first `n` bytes of the chunks, and the chunks behind them. -/
def splitHead : Nat → List Chunk → List UInt8 × List Chunk
  | _, [] => ([], [])
  | 0, chunks => ([], chunks)
  | n + 1, c :: rest =>
      if n + 1 < c.size then (c.bytes.take (n + 1), c.advance (n + 1) :: rest)
      else
        let (bytes, left) := splitHead (n + 1 - c.size) rest
        (c.bytes ++ bytes, left)

/-- The same bytes with a block of at least `n` at the head, or of all of them if there are fewer.
-/
def makeContiguous (q : ByteQueue) (n : Nat) : ByteQueue :=
  let k := min n q.size
  if k ≤ q.head.length then q
  else
    let (block, rest) := splitHead k q.chunks
    { q with chunks := ⟨block, max k q.chunkSize⟩ :: rest }

def append (q : ByteQueue) (data : List UInt8) : ByteQueue :=
  if data.isEmpty then q else q.reserve data.length data

/-- The first `n` bytes of the chunks, chunk by chunk, or all of them if there are fewer. -/
def peekChunks : Nat → List Chunk → List UInt8
  | _, [] => []
  | 0, _ => []
  | n + 1, c :: rest => c.bytes.take (n + 1) ++ peekChunks (n + 1 - c.size) rest

/-- The first `n` bytes, or all of them if there are fewer. -/
def peek (q : ByteQueue) (n : Nat) : List UInt8 := peekChunks n q.chunks

/-- Takes the first `n` bytes out of the queue, or all of them if there are fewer. -/
def read (q : ByteQueue) (n : Nat) : List UInt8 × ByteQueue :=
  let bytes := q.peek n
  (bytes, q.free bytes.length)

def readAll (q : ByteQueue) : List UInt8 × ByteQueue := q.read q.size

/-- The first position of a byte among the first `limit` bytes. -/
def indexOf? (q : ByteQueue) (b : UInt8) (limit : Nat) : Option Nat :=
  (q.toList.take limit).findIdx? (· == b)

def newline : UInt8 := 10

def canReadLine (q : ByteQueue) : Bool := (q.indexOf? newline q.size).isSome

/-- Takes a line out of the queue with the byte that ends it, or `limit` bytes if the line is
longer. -/
def readLine (q : ByteQueue) (limit : Nat) : List UInt8 × ByteQueue :=
  match q.indexOf? newline limit with
  | some i => q.read (i + 1)
  | none => q.read (min q.size limit)

/-- The queue without its bytes; one chunk is kept. -/
def clear (q : ByteQueue) : ByteQueue := trim { q with size := 0 }

/-- A copy of the queue. The chunks of a copy have no room to spare. -/
def clone (q : ByteQueue) : ByteQueue :=
  { q with chunks := q.chunks.map fun c => { c with capacity := c.size } }

end ByteQueue

end CanStream
