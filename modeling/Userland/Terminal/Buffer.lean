namespace Userland

/-! # Terminal output buffers

What a terminal printed waits in a ring buffer until a client drains it. A
buffer of size `n` (at least 2) has `n` slots and holds the bytes from its head
round to its tail, so at most `n - 1`: a byte written when the tail has caught
up with the head pushes out the oldest by moving the head on. Writing always
takes every byte, so a slow client never holds up a writer.
-/

namespace Terminal

/-- A ring buffer: its slots, their number, and where the oldest byte held is
(`head`) and the next byte goes (`tail`). -/
structure Buffer where
  data : Array UInt8
  size : Nat
  head : Nat
  tail : Nat
  deriving Inhabited, Repr

namespace Buffer

/-- An empty buffer; sizes below 2 are taken as 2. -/
def new (size : Int) : Buffer :=
  let n := if size < 2 then 2 else size.toNat
  ⟨Array.replicate n 0, n, 0, 0⟩

/-- Stores a byte at the tail; when the tail catches up with the head, the
oldest byte is overwritten next and the head moves on. -/
def push (b : Buffer) (c : UInt8) : Buffer :=
  let tail := (b.tail + 1) % b.size
  { b with data := b.data.setIfInBounds b.tail c, tail,
           head := if tail = b.head then (b.head + 1) % b.size else b.head }

/-- Appends bytes one by one, and says how many were taken: all. -/
def write (b : Buffer) (p : List UInt8) : Nat × Buffer := (p.length, p.foldl push b)

/-- Everything held, from the head up to the tail or, when the ring wraps, up to
its end and then from its start up to the tail, leaving the buffer empty. -/
def drain (b : Buffer) : List UInt8 × Buffer :=
  if b.head = b.tail then ([], b)
  else if b.tail > b.head then ((b.data.extract b.head b.tail).toList, { b with head := b.tail })
  else ((b.data.extract b.head b.data.size).toList ++ (b.data.extract 0 b.tail).toList, { b with head := b.tail })

end Buffer

end Terminal

end Userland
