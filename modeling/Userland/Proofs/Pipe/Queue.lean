import Userland.Pipe.Ring

/-! # Bounded byte queues

The meaning of a pipe: a first-in first-out queue of at most `capacity` bytes,
and a flag that says whether the writer has closed it. Nothing here waits; a
call that would have to wait for data or room says so with `wouldBlock`.

* A write to a closed queue is refused; otherwise the bytes that fit are
  appended, and the count says how many.
* A read takes bytes from the front. When the queue is empty it reports the end
  of the stream if the queue is closed, and `wouldBlock` otherwise.
* `readExact`, `readAll`, `readLine` and `readAvailable` take a fixed number of
  bytes, everything, one line, or what is there.
-/

namespace Userland

/-- A bounded first-in first-out queue of bytes with an end-of-stream flag. -/
structure ByteQueue where
  capacity : Nat
  bytes : List UInt8
  closed : Bool
  length_le : bytes.length ≤ capacity

namespace ByteQueue

@[ext] theorem ext {q q' : ByteQueue} (hc : q.capacity = q'.capacity) (hb : q.bytes = q'.bytes)
    (hd : q.closed = q'.closed) : q = q' := by
  cases q; cases q'; simp_all

/-- The empty open queue of a capacity. -/
def empty (c : Nat) : ByteQueue := ⟨c, [], false, by simp⟩

/-- Why a read of an empty queue stops: the end of the stream once closed. -/
def endStop (q : ByteQueue) : PipeStop := if q.closed then .atEnd else .wouldBlock

/-- The queue without its first `k` bytes. -/
def dropFront (q : ByteQueue) (k : Nat) : ByteQueue :=
  ⟨q.capacity, q.bytes.drop k, q.closed, by have := q.length_le; simp; omega⟩

/-- Appends the first bytes of `p` that fit, and says how many. -/
def push (q : ByteQueue) (p : List UInt8) : ByteQueue × Nat :=
  let m := min (q.capacity - q.bytes.length) p.length
  (⟨q.capacity, q.bytes ++ p.take m, q.closed, by have := q.length_le; simp; omega⟩, m)

/-- A write: refused once closed, else the bytes that fit are appended. -/
def write (q : ByteQueue) (p : List UInt8) : Except PipeStop (ByteQueue × Nat) :=
  if q.closed then .error .closed else .ok (q.push p)

/-- Closing: refused the second time. -/
def close (q : ByteQueue) : Except PipeStop ByteQueue :=
  if q.closed then .error .closed else .ok { q with closed := true }

/-- What a read returned: the bytes, the queue after it, and why it stopped short, if it did. -/
structure Got where
  data : List UInt8
  queue : ByteQueue
  stop : Option PipeStop

/-- Takes up to `n` bytes; asking for none takes nothing and succeeds. -/
def read (q : ByteQueue) (n : Nat) : Got :=
  if n = 0 then ⟨[], q, none⟩
  else if q.bytes = [] then ⟨[], q, some q.endStop⟩
  else ⟨q.bytes.take n, q.dropFront n, none⟩

/-- Takes exactly `n` bytes, or all there are and why there are no more. -/
def readExact (q : ByteQueue) (n : Nat) : Got :=
  if n ≤ q.bytes.length then ⟨q.bytes.take n, q.dropFront n, none⟩
  else ⟨q.bytes, q.dropFront n, some q.endStop⟩

/-- Takes everything; the end of the stream is success, an open queue would wait. -/
def readAll (q : ByteQueue) : Got :=
  ⟨q.bytes, q.dropFront q.bytes.length, if q.closed then none else some .wouldBlock⟩

/-- How many bytes the first line of `bs` has, newline included, if it has a newline. -/
def lineLength? (bs : List UInt8) : Option Nat := (bs.findIdx? (· == 10)).map (· + 1)

/-- Takes the first line, newline included; without a newline, takes everything
and says why the line stops there. -/
def readLine (q : ByteQueue) : Got :=
  match lineLength? q.bytes with
  | some k => ⟨q.bytes.take k, q.dropFront k, none⟩
  | none => ⟨q.bytes, q.dropFront q.bytes.length, some q.endStop⟩

/-- Takes up to `n` of the bytes there are without waiting: nothing from an empty
queue, which reports the end of the stream once closed. -/
def readAvailable (q : ByteQueue) (n : Nat) : Got :=
  if q.bytes = [] then ⟨[], q, if q.closed then some .atEnd else none⟩
  else ⟨q.bytes.take n, q.dropFront n, none⟩

@[simp] theorem dropFront_zero (q : ByteQueue) : q.dropFront 0 = q := by
  ext <;> simp [dropFront]

@[simp] theorem dropFront_dropFront (q : ByteQueue) (a b : Nat) :
    (q.dropFront a).dropFront b = q.dropFront (a + b) := by
  ext <;> simp [dropFront, Nat.add_comm]

@[simp] theorem dropFront_bytes (q : ByteQueue) (k : Nat) : (q.dropFront k).bytes = q.bytes.drop k := rfl

@[simp] theorem dropFront_closed (q : ByteQueue) (k : Nat) : (q.dropFront k).closed = q.closed := rfl

@[simp] theorem dropFront_capacity (q : ByteQueue) (k : Nat) :
    (q.dropFront k).capacity = q.capacity := rfl

@[simp] theorem dropFront_endStop (q : ByteQueue) (k : Nat) : (q.dropFront k).endStop = q.endStop := rfl

/-- Dropping at least the whole queue gives the same empty queue. -/
theorem dropFront_of_length_le (q : ByteQueue) {a b : Nat} (ha : q.bytes.length ≤ a)
    (hb : q.bytes.length ≤ b) : q.dropFront a = q.dropFront b := by
  ext <;> simp [List.drop_of_length_le ha, List.drop_of_length_le hb]

/-- Dropping as many bytes as a take of `n` returned is dropping `n`. -/
@[simp] theorem dropFront_min_length (q : ByteQueue) (n : Nat) :
    q.dropFront (min n q.bytes.length) = q.dropFront n := by
  rcases Nat.le_total n q.bytes.length with h | h
  · simp [h]
  · rw [Nat.min_eq_right h]
    exact dropFront_of_length_le q (Nat.le_refl _) h

/-! ## Lines -/

/-- A line found in a prefix is the line of the whole. -/
theorem lineLength?_take {bs : List UInt8} {c k : Nat} (h : lineLength? (bs.take c) = some k) :
    lineLength? bs = some k := by
  unfold lineLength? at h ⊢
  rw [List.findIdx?_take] at h
  cases hb : bs.findIdx? (· == 10) with
  | none => simp [hb] at h
  | some i => simp_all [Option.guard]

theorem lineLength?_le {bs : List UInt8} {k : Nat} (h : lineLength? bs = some k) : k ≤ bs.length := by
  unfold lineLength? at h
  cases hb : bs.findIdx? (· == 10) with
  | none => simp [hb] at h
  | some i =>
    obtain ⟨hi, -⟩ := List.findIdx?_eq_some_iff_getElem.mp hb
    simp [hb] at h
    omega

/-- A line ends with its newline. -/
theorem getLast?_take_lineLength? {bs : List UInt8} {k : Nat} (h : lineLength? bs = some k) :
    (bs.take k).getLast? = some 10 := by
  unfold lineLength? at h
  cases hb : bs.findIdx? (· == 10) with
  | none => simp [hb] at h
  | some i =>
    obtain ⟨hi, hnl, -⟩ := List.findIdx?_eq_some_iff_getElem.mp hb
    simp only [hb, Option.map_some, Option.some.injEq] at h
    subst h
    rw [List.getLast?_eq_getElem?]
    simp [Nat.min_eq_left (Nat.succ_le_of_lt hi)]
    simpa using hnl

/-- Bytes with no newline do not end with one. -/
theorem getLast?_ne_of_lineLength?_none {bs : List UInt8} (h : lineLength? bs = none) :
    bs.getLast? ≠ some 10 := by
  intro hl
  have hnone : bs.findIdx? (· == 10) = none := by simpa [lineLength?] using h
  have := List.findIdx?_eq_none_iff.mp hnone 10 (List.mem_of_getLast? hl)
  simp at this

/-- Dropping the rest of what is left after dropping `k` bytes drops everything. -/
@[simp] theorem dropFront_dropFront_length (q : ByteQueue) (k : Nat) :
    (q.dropFront k).dropFront (q.dropFront k).bytes.length = q.dropFront q.bytes.length := by
  rw [dropFront_dropFront]
  exact dropFront_of_length_le q (by simp; omega) (Nat.le_refl _)

/-- Reading a line through a front part with no newline in it reads that part,
then the line of the rest. -/
theorem readLine_dropFront (q : ByteQueue) (k : Nat) (hnone : lineLength? (q.bytes.take k) = none) :
    q.readLine = ⟨q.bytes.take k ++ (q.dropFront k).readLine.data, (q.dropFront k).readLine.queue,
      (q.dropFront k).readLine.stop⟩ := by
  rcases Nat.le_total k q.bytes.length with hk | hk
  · -- the line of the whole is the line of the rest, shifted by `k`
    have hsplit : lineLength? q.bytes = (lineLength? (q.bytes.drop k)).map (· + k) := by
      have hf : (q.bytes.take k).findIdx? (· == 10) = none := by simpa [lineLength?] using hnone
      rw [← List.take_append_drop k q.bytes]
      simp only [lineLength?, List.findIdx?_append, hf, Option.none_or, Option.map_map]
      simp [Function.comp_def, List.length_take, Nat.min_eq_left hk, Nat.add_right_comm]
    unfold readLine
    rw [hsplit]
    cases hl : lineLength? (q.bytes.drop k) with
    | none =>
      simp only [hl, Option.map_none, dropFront_bytes, dropFront_endStop, List.take_append_drop,
        dropFront_dropFront, List.length_drop, Nat.add_sub_cancel' hk]
    | some j =>
      simp only [hl, Option.map_some, dropFront_bytes, dropFront_dropFront, List.take_add,
        Nat.add_comm j k]
  · -- the front part is everything: no line, and nothing after it
    have htake : q.bytes.take k = q.bytes := List.take_of_length_le hk
    rw [htake] at hnone
    have hrest : lineLength? (q.dropFront k).bytes = none := by
      simp [List.drop_of_length_le hk, lineLength?]
    unfold readLine
    rw [hnone, hrest, htake]
    simp [dropFront_of_length_le q hk (Nat.le_refl _)]

end ByteQueue

/-! ## Calls on a pipe -/

/-- A call on a pipe by a caller that never waits. -/
inductive PipeCall where
  | write (p : List UInt8)
  | close
  | read (n : Nat)
  | readExact (n : Nat)
  | readAll
  | readLine
  | readAvailable (n : Nat)
  | len
  | closed

/-- What a pipe call returns: how many bytes were written, whether a close went
through, the bytes read, the unread length, or whether the pipe is closed; the
first three with why the call stopped short, if it did. -/
inductive PipeAnswer where
  | wrote (n : Nat) (stop : Option PipeStop)
  | closed (stop : Option PipeStop)
  | got (data : List UInt8) (stop : Option PipeStop)
  | length (n : Nat)
  | isClosed (b : Bool)
  deriving DecidableEq

namespace ByteQueue

/-- The answer of a read and the queue after it. -/
def Got.answer (g : Got) : PipeAnswer × ByteQueue := (.got g.data g.stop, g.queue)

/-- What a call on the queue returns, and the queue after it. A write that could
not append everything would have had to wait for room. -/
def call (q : ByteQueue) : PipeCall → PipeAnswer × ByteQueue
  | .write p =>
    match q.write p with
    | .error s => (.wrote 0 (some s), q)
    | .ok (q', n) => (.wrote n (if n < p.length then some .wouldBlock else none), q')
  | .close =>
    match q.close with
    | .error s => (.closed (some s), q)
    | .ok q' => (.closed none, q')
  | .read n => (q.read n).answer
  | .readExact n => (q.readExact n).answer
  | .readAll => q.readAll.answer
  | .readLine => q.readLine.answer
  | .readAvailable n => (q.readAvailable n).answer
  | .len => (.length q.bytes.length, q)
  | .closed => (.isClosed q.closed, q)

/-- The answers of calls made one after another. -/
def answers (q : ByteQueue) : List PipeCall → List PipeAnswer
  | [] => []
  | c :: cs => (q.call c).1 :: (q.call c).2.answers cs

end ByteQueue

end Userland
