namespace Userland

/-! # Pipes as byte rings

A pipe holds at most `capacity` unread bytes in a ring of `capacity + 2` slots.
A writer appends at the write position and a reader takes from the read
position; both move forward modulo the ring's size. Closing the pipe writes an
end marker into the slot at the write position, remembers that slot, and moves
the write position past it, so that a full ring still has room for the marker.

Bytes before the marker are data; once a reader reaches the marker the pipe is
at its end for good, because the marker itself is never taken.

Every operation here is non-blocking: where a caller would wait for room or for
data, the operation reports `wouldBlock` together with what it did.

* `Ring.contents` is the list of unread bytes, read off the slots.
* `Ring.write` appends as many bytes as fit; `Ring.take` removes bytes from the front.
-/

/-- The byte that marks the end of a pipe's data. -/
def endMarker : UInt8 := 0xFF

/-- A pipe's ring of slots with its read, write and end positions. -/
structure Ring where
  /-- The most unread bytes the pipe holds. -/
  capacity : Nat
  /-- The slots; two more than the capacity. -/
  slots : Array UInt8
  /-- Where the next byte is read. -/
  readPos : Nat
  /-- Where the next byte is written. -/
  writePos : Nat
  /-- The slot of the end marker, once the pipe is closed. -/
  endPos : Option Nat
  /-- Whether the pipe was closed. -/
  closed : Bool
  size_eq : slots.size = capacity + 2

/-- Why a pipe operation stopped short or did nothing. -/
inductive PipeStop where
  /-- The pipe is at its end: closed, and every byte before the marker read. -/
  | atEnd
  /-- The caller would have to wait for data or for room. -/
  | wouldBlock
  /-- The pipe was already closed. -/
  | closed
  deriving DecidableEq, Repr, Inhabited

namespace Ring

/-- An empty open pipe; a capacity below 1 becomes 1. -/
def new (capacity : Nat) : Ring :=
  let c := max capacity 1
  { capacity := c, slots := Array.replicate (c + 2) 0, readPos := 0, writePos := 0,
    endPos := none, closed := false, size_eq := by simp }

/-- The number of slots. -/
def size (r : Ring) : Nat := r.capacity + 2

/-- Slots in use between the read and the write position, the end marker included. -/
def used (r : Ring) : Nat := (r.writePos + r.size - r.readPos) % r.size

/-- Unread data bytes, and whether the end marker follows them. -/
def available (r : Ring) : Nat × Bool :=
  match r.endPos with
  | some e =>
    let d := (e + r.size - r.readPos) % r.size
    if d < r.used then (d, true) else (r.used, false)
  | none => (r.used, false)

/-- The number of unread data bytes. -/
def len (r : Ring) : Nat := r.available.1

/-- Room left for writing. -/
def free (r : Ring) : Nat := r.capacity - r.used

/-- The byte in slot `i`, taken modulo the size. -/
def slot (r : Ring) (i : Nat) : UInt8 :=
  have h : i % r.size < r.slots.size := by rw [r.size_eq]; exact Nat.mod_lt _ (by simp [size])
  r.slots[i % r.size]

/-- The unread data bytes in order. -/
def contents (r : Ring) : List UInt8 :=
  (List.range r.len).map fun k => r.slot (r.readPos + k)

/-- Stores one byte at slot `i` modulo the size. -/
def store (r : Ring) (i : Nat) (b : UInt8) : Ring :=
  { r with slots := r.slots.set (i % r.size) b (by rw [r.size_eq]; exact Nat.mod_lt _ (by simp [size]))
           size_eq := by simp [r.size_eq] }

/-- Stores bytes at consecutive slots from `i`, wrapping around. -/
def storeAll (r : Ring) (i : Nat) : List UInt8 → Ring
  | [] => r
  | b :: bs => (r.store i b).storeAll (i + 1) bs

@[simp] theorem store_capacity (r : Ring) (i : Nat) (b : UInt8) :
    (r.store i b).capacity = r.capacity := rfl

@[simp] theorem storeAll_capacity (r : Ring) (i : Nat) (bs : List UInt8) :
    (r.storeAll i bs).capacity = r.capacity := by
  induction bs generalizing r i with
  | nil => rfl
  | cons b bs ih => simp [storeAll, ih]

/-- Appends the first bytes of `p` that fit, and says how many, whether or not
the pipe is closed. -/
def append (r : Ring) (p : List UInt8) : Ring × Nat :=
  let n := min r.free p.length
  let r' := r.storeAll r.writePos (p.take n)
  ({ r' with writePos := (r.writePos + n) % r.size }, n)

/-- Appends the first bytes of `p` that fit, and says how many. A closed pipe
refuses. -/
def write (r : Ring) (p : List UInt8) : Except PipeStop (Ring × Nat) :=
  if r.closed then .error .closed else .ok (r.append p)

/-- Appends all of `p` if it fits, else nothing; a closed pipe takes nothing. -/
def tryWrite (r : Ring) (p : List UInt8) : Option Ring :=
  if r.closed || r.free < p.length then none
  else some { r.storeAll r.writePos p with writePos := (r.writePos + p.length) % r.size }

/-- Writes the end marker; closing twice is refused. -/
def close (r : Ring) : Except PipeStop Ring :=
  if r.closed then .error .closed
  else
    let r' := r.store r.writePos endMarker
    .ok { r' with endPos := some r.writePos, closed := true,
                  writePos := (r.writePos + 1) % r.size }

/-- The first `n` unread bytes, stopping after the first `delim` byte when one is given. -/
def prefixUpTo (bs : List UInt8) (delim : Option UInt8) : List UInt8 :=
  match delim with
  | none => bs
  | some d =>
    match bs.findIdx? (· == d) with
    | some i => bs.take (i + 1)
    | none => bs

/-- Removes up to `max` bytes from the front, stopping after `delim`. With no
data it reports the end of the pipe, or that the reader would wait. -/
def take (r : Ring) (max : Nat) (delim : Option UInt8) :
    Except PipeStop (List UInt8 × Ring) :=
  let (n, atEnd) := r.available
  if n > 0 then
    let front := (List.range (min n max)).map fun k => r.slot (r.readPos + k)
    let bs := prefixUpTo front delim
    .ok (bs, { r with readPos := (r.readPos + bs.length) % r.size })
  else if atEnd then .error .atEnd
  else .error .wouldBlock

/-! ## Reads as a caller that cannot wait sees them -/

/-- What a read returned: the bytes, the pipe after it, and why it stopped, if it stopped short. -/
structure Got where
  data : List UInt8
  ring : Ring
  stop : Option PipeStop

/-- Reads up to `n` bytes; asking for none reads nothing and succeeds. -/
def read (r : Ring) (n : Nat) : Got :=
  if n = 0 then ⟨[], r, none⟩
  else
    match r.take n none with
    | .ok (bs, r') => ⟨bs, r', none⟩
    | .error s => ⟨[], r, some s⟩

/-- Keeps taking chunks, of at most `chunk acc` bytes after `acc` was read, until
`done` says the bytes so far are enough, or the pipe has no more. At most `fuel`
chunks are taken. -/
def takeLoop (chunk : List UInt8 → Nat) (delim : Option UInt8)
    (done : List UInt8 → List UInt8 → Bool) : Nat → List UInt8 → Ring → Got
  | 0, acc, r => ⟨acc, r, none⟩
  | fuel + 1, acc, r =>
    match r.take (chunk acc) delim with
    | .ok (bs, r') =>
      if done acc bs then ⟨acc ++ bs, r', none⟩
      else takeLoop chunk delim done fuel (acc ++ bs) r'
    | .error s => ⟨acc, r, some s⟩

/-- Enough takes for any loop: each takes at least one byte. -/
def fuel (r : Ring) : Nat := r.size + 1

/-- Reads exactly `n` bytes, or what there is and why there is no more. -/
def readExact (r : Ring) (n : Nat) : Got :=
  if n = 0 then ⟨[], r, none⟩
  else takeLoop (fun acc => n - acc.length) none (fun acc bs => acc.length + bs.length ≥ n)
    r.fuel [] r

/-- Reads everything up to the end of the pipe; reaching the end is success. -/
def readAll (r : Ring) : Got :=
  let g := takeLoop (fun _ => 512) none (fun _ _ => false) r.fuel [] r
  if g.stop = some .atEnd then { g with stop := none } else g

/-- Reads up to and including a newline, or what there is and why it stopped. -/
def readLine (r : Ring) : Got :=
  takeLoop (fun _ => 256) (some 10) (fun _ bs => bs.getLast? = some 10) r.fuel [] r

/-- Reads what is there without waiting: nothing (or the end) when the pipe is empty. -/
def readAvailable (r : Ring) (n : Nat) : Got :=
  let (k, atEnd) := r.available
  if k = 0 then ⟨[], r, if atEnd then some .atEnd else none⟩
  else
    match r.take n none with
    | .ok (bs, r') => ⟨bs, r', none⟩
    | .error s => ⟨[], r, some s⟩

end Ring

end Userland
