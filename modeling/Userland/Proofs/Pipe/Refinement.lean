import Userland.Proofs.Pipe.Ring
import Userland.Proofs.Pipe.Queue

/-! # Pipes refine bounded byte queues

A ring in shape stands for the byte queue of its unread data, its closed flag
and its capacity (`Ring.Refines`). Every pipe operation on the ring returns
what the same operation on the queue returns, and leaves a ring that stands
for the queue after it.

* `Ring.Refines.take_of_ne_nil`: one take hands out the front of the queue.
* `Ring.Refines.readAll`, `Ring.Refines.readLine`: the read loops take exactly
  everything, or exactly the first line, because every turn of the loop takes
  at least one byte and the ring has more turns than bytes.
* `Ring.answers_new`: from a new pipe, every sequence of calls gets the
  answers the queue gives.
-/

namespace Userland

namespace Ring

/-- A ring stands for a byte queue: it is in shape for the queue's length, its
unread bytes are the queue's, and it agrees on closing and capacity. -/
structure Refines (r : Ring) (q : ByteQueue) : Prop where
  shape : r.Shape q.bytes.length
  contents_eq : r.contents = q.bytes
  closed_eq : r.closed = q.closed
  capacity_eq : r.capacity = q.capacity

/-- A read on the ring returns what the read on the queue returns. -/
structure Got.Refines (g : Ring.Got) (g' : ByteQueue.Got) : Prop where
  data_eq : g.data = g'.data
  stop_eq : g.stop = g'.stop
  ring : g.ring.Refines g'.queue

variable {r : Ring} {q : ByteQueue}

/-- A new pipe stands for the empty queue of its capacity. -/
theorem refines_new (c : Nat) : (Ring.new c).Refines (ByteQueue.empty (max c 1)) where
  shape := by simpa [ByteQueue.empty] using shape_new c
  contents_eq := by simpa [ByteQueue.empty] using (shape_new c).length_contents
  closed_eq := rfl
  capacity_eq := rfl

theorem Refines.endStop_eq (h : r.Refines q) :
    (if r.closed then PipeStop.atEnd else .wouldBlock) = q.endStop := by
  simp [ByteQueue.endStop, h.closed_eq]

/-- Dropping bytes from the front of the queue is moving the read position on. -/
theorem Refines.advance (h : r.Refines q) {k : Nat} (hk : k ≤ q.bytes.length) :
    ({ r with readPos := (r.readPos + k) % r.size } : Ring).Refines (q.dropFront k) := by
  obtain ⟨hshape, hcontents⟩ := h.shape.advance hk
  exact ⟨by simpa using hshape, by simp [hcontents, h.contents_eq], h.closed_eq, h.capacity_eq⟩

/-- A take from a ring whose queue has bytes hands out the front of the queue,
up to `max` bytes and through the first `delim`. -/
theorem Refines.take_of_ne_nil (h : r.Refines q) (hq : q.bytes ≠ []) (max : Nat)
    (delim : Option UInt8) :
    ∃ r', r.take max delim = .ok (prefixUpTo (q.bytes.take max) delim, r') ∧
      r'.Refines (q.dropFront (prefixUpTo (q.bytes.take max) delim).length) := by
  have hpos : 0 < q.bytes.length := List.length_pos_iff.mpr hq
  have hle : (prefixUpTo (q.bytes.take max) delim).length ≤ q.bytes.length :=
    ((prefixUpTo_prefixOf _ delim).length_le).trans (List.length_take_le' _ _)
  rw [h.shape.take_of_pos hpos, h.contents_eq]
  exact ⟨_, rfl, h.advance hle⟩

/-- A take from a ring whose queue is empty stops as the queue says. -/
theorem Refines.take_of_nil (h : r.Refines q) (hq : q.bytes = []) (max : Nat)
    (delim : Option UInt8) : r.take max delim = .error q.endStop := by
  have hshape : r.Shape 0 := by simpa [hq] using h.shape
  rw [hshape.take_of_zero, h.endStop_eq]

/-- Without a delimiter a take hands out the whole front that was asked for. -/
@[simp] theorem prefixUpTo_none (bs : List UInt8) : prefixUpTo bs none = bs := rfl

/-! ## Writing and closing -/

/-- Appending to an open ring is pushing onto its queue. -/
theorem Refines.append (h : r.Refines q) (hc : q.closed = false) (p : List UInt8) :
    (r.append p).1.Refines (q.push p).1 ∧ (r.append p).2 = (q.push p).2 := by
  have hrc : r.closed = false := h.closed_eq.trans hc
  have hcount : (r.append p).2 = (q.push p).2 := by
    simp [append_count, h.shape.free_eq hrc, ByteQueue.push, h.capacity_eq]
  obtain ⟨hshape, hcontents⟩ := h.shape.append hrc p
  refine ⟨⟨?_, ?_, by simp [ByteQueue.push, h.closed_eq], by simp [ByteQueue.push, h.capacity_eq]⟩,
    hcount⟩
  · have hlen : (q.push p).1.bytes.length = q.bytes.length + (r.append p).2 := by
      have := q.length_le
      simp [ByteQueue.push, hcount]
    rw [hlen]
    exact hshape
  · simp [hcontents, h.contents_eq, hcount, ByteQueue.push]

/-- A write on the ring is refused exactly when the write on the queue is, and
otherwise appends the same bytes. -/
theorem Refines.write (h : r.Refines q) (p : List UInt8) :
    (q.closed = true ∧ r.write p = .error .closed ∧ q.write p = .error .closed) ∨
      (q.write p = .ok (q.push p) ∧ r.write p = .ok ((r.append p).1, (q.push p).2) ∧
        (r.append p).1.Refines (q.push p).1) := by
  cases hc : q.closed
  · have hrc : r.closed = false := h.closed_eq.trans hc
    obtain ⟨hr, hn⟩ := h.append hc p
    right
    refine ⟨by simp [ByteQueue.write, hc], ?_, hr⟩
    rw [← hn]
    simp [Ring.write, hrc]
  · have hrc : r.closed = true := h.closed_eq.trans hc
    left
    exact ⟨rfl, by simp [Ring.write, hrc], by simp [ByteQueue.write, hc]⟩

/-- Closing the ring is refused exactly when closing the queue is, and otherwise
stands for the closed queue; it never needs room, even in a full ring. -/
theorem Refines.close (h : r.Refines q) :
    (q.closed = true ∧ r.close = .error .closed ∧ q.close = .error .closed) ∨
      ∃ r', r.close = .ok r' ∧ q.close = .ok { q with closed := true } ∧
        r'.Refines { q with closed := true } := by
  cases hc : q.closed
  · have hrc : r.closed = false := h.closed_eq.trans hc
    obtain ⟨r', hclose, hshape, hclosed, hcap, hcontents⟩ := h.shape.close hrc
    right
    exact ⟨r', hclose, by simp [ByteQueue.close, hc],
      ⟨hshape, hcontents.trans h.contents_eq, hclosed, hcap.trans h.capacity_eq⟩⟩
  · have hrc : r.closed = true := h.closed_eq.trans hc
    left
    exact ⟨rfl, by simp [Ring.close, hrc], by simp [ByteQueue.close, hc]⟩

/-! ## Reading -/

theorem Refines.read (h : r.Refines q) (n : Nat) : (r.read n).Refines (q.read n) := by
  unfold Ring.read ByteQueue.read
  by_cases hn : n = 0
  · simp only [hn, if_true]
    exact ⟨rfl, rfl, h⟩
  · simp only [hn, if_false]
    by_cases hq : q.bytes = []
    · rw [h.take_of_nil hq]
      simp only [hq, if_true]
      exact ⟨rfl, rfl, h⟩
    · obtain ⟨r', htake, hr'⟩ := h.take_of_ne_nil hq n none
      rw [htake]
      simp only [hq, if_false]
      exact ⟨by simp, rfl, by simpa using hr'⟩

theorem Refines.readAvailable (h : r.Refines q) (n : Nat) :
    (r.readAvailable n).Refines (q.readAvailable n) := by
  unfold Ring.readAvailable ByteQueue.readAvailable
  rw [h.shape.available_eq]
  by_cases hq : q.bytes = []
  · simp only [hq, List.length_nil, if_true]
    exact ⟨rfl, by simp [h.closed_eq], h⟩
  · have hlen : q.bytes.length ≠ 0 := by simpa using hq
    obtain ⟨r', htake, hr'⟩ := h.take_of_ne_nil hq n none
    simp only [hlen, hq, if_false, htake]
    exact ⟨by simp, rfl, by simpa using hr'⟩

/-- The loop of `readExact` takes what is asked for at once, or all there is and
then meets the empty queue: two turns are enough. -/
theorem Refines.readExact (h : r.Refines q) (n : Nat) :
    (r.readExact n).Refines (q.readExact n) := by
  unfold Ring.readExact ByteQueue.readExact
  by_cases hn : n = 0
  · simp only [hn, if_true, Nat.zero_le]
    exact ⟨rfl, rfl, by simpa using h⟩
  simp only [hn, if_false]
  rw [show r.fuel = r.capacity + 1 + 1 + 1 from rfl]
  by_cases hq : q.bytes = []
  · -- nothing there: the first turn stops
    have hq' : ¬ n ≤ q.bytes.length := by simp [hq]; omega
    simp only [takeLoop, h.take_of_nil hq, if_neg hq']
    refine ⟨by simp [hq], rfl, ?_⟩
    rw [q.dropFront_of_length_le (b := 0) (by simp [hq]) (by simp [hq])]
    simpa using h
  obtain ⟨r', htake, hr'⟩ := h.take_of_ne_nil hq (n - ([] : List UInt8).length) none
  simp only [takeLoop, htake, prefixUpTo_none]
  by_cases hle : n ≤ q.bytes.length
  · -- enough there: the first turn takes all that was asked for
    have hdone : ([] : List UInt8).length + (q.bytes.take n).length ≥ n := by simp; omega
    simp only [List.length_nil, Nat.sub_zero] at htake hr' hdone ⊢
    simp only [hdone, decide_true, if_true, if_pos hle]
    exact ⟨by simp, rfl, by simpa using hr'⟩
  · -- too little: the first turn takes all of it, the second meets the empty queue
    have hall : q.bytes.take n = q.bytes := List.take_of_length_le (by omega)
    simp only [List.length_nil, Nat.sub_zero, hall, prefixUpTo_none] at htake hr' ⊢
    have hnd : ¬ (0 + q.bytes.length ≥ n) := by omega
    have hempty : (q.dropFront q.bytes.length).bytes = [] := by simp
    simp only [hnd, decide_false, if_neg hle, hr'.take_of_nil hempty]
    refine ⟨by simp, by simp, ?_⟩
    rwa [q.dropFront_of_length_le (Nat.le_refl _) (by omega : q.bytes.length ≤ n)] at hr'

/-- Taking in chunks of `c` bytes until the pipe stops takes the whole queue,
however many turns that needs, as long as there are more turns than bytes. -/
theorem Refines.takeLoop_all {c : Nat} (hc : 0 < c) :
    ∀ (fuel : Nat) (acc : List UInt8) (r : Ring) (q : ByteQueue), r.Refines q →
      q.bytes.length < fuel →
      (takeLoop (fun _ => c) none (fun _ _ => false) fuel acc r).Refines
        ⟨acc ++ q.bytes, q.dropFront q.bytes.length, some q.endStop⟩ := by
  intro fuel
  induction fuel with
  | zero => intro acc r q _ hlt; omega
  | succ fuel ih =>
    intro acc r q h hlt
    by_cases hq : q.bytes = []
    · -- the queue is empty: the loop stops as the queue says
      simp only [takeLoop, h.take_of_nil hq]
      exact ⟨by simp [hq], rfl, by simpa [hq] using h⟩
    · -- a chunk of at least one byte, then the rest by induction
      obtain ⟨r', htake, hr'⟩ := h.take_of_ne_nil hq c none
      have hpos : 0 < q.bytes.length := List.length_pos_iff.mpr hq
      simp only [prefixUpTo_none, List.length_take, ByteQueue.dropFront_min_length] at htake hr'
      simp only [takeLoop, htake, Bool.false_eq_true, if_false]
      have hrest := ih (acc ++ q.bytes.take c) r' (q.dropFront c) hr' (by simp; omega)
      rwa [ByteQueue.dropFront_dropFront_length, List.append_assoc, ByteQueue.dropFront_bytes,
        List.take_append_drop, ByteQueue.dropFront_endStop] at hrest

/-- `readAll` takes everything there is, and succeeds exactly when the pipe is closed. -/
theorem Refines.readAll (h : r.Refines q) : r.readAll.Refines q.readAll := by
  have hlen : q.bytes.length < r.fuel := by
    have := q.length_le
    simp [fuel, size, h.capacity_eq]
    omega
  obtain ⟨hdata, hstop, hring⟩ := h.takeLoop_all (by decide : 0 < 512) r.fuel [] r q hlen
  unfold Ring.readAll ByteQueue.readAll
  cases hc : q.closed
  · have hs : (takeLoop (fun _ => 512) none (fun _ _ => false) r.fuel [] r).stop =
        some .wouldBlock := by simp [hstop, ByteQueue.endStop, hc]
    rw [if_neg (by simp [hs])]
    exact ⟨by simpa using hdata, by simp [hs], hring⟩
  · have hs : (takeLoop (fun _ => 512) none (fun _ _ => false) r.fuel [] r).stop =
        some .atEnd := by simp [hstop, ByteQueue.endStop, hc]
    simp only [hs, if_true]
    exact ⟨by simpa using hdata, by simp, hring⟩

/-- Taking through a newline is cutting at the first line, or taking all when
there is no newline. -/
theorem prefixUpTo_newline (bs : List UInt8) :
    prefixUpTo bs (some 10) = match ByteQueue.lineLength? bs with
      | some k => bs.take k
      | none => bs := by
  show (match bs.findIdx? (· == 10) with | some i => bs.take (i + 1) | none => bs) = _
  unfold ByteQueue.lineLength?
  cases bs.findIdx? (· == 10) <;> rfl

/-- Taking in chunks of 256 bytes, each through the first newline, until a chunk
ends a line or the pipe stops, takes exactly the first line of the queue. -/
theorem Refines.takeLoop_line :
    ∀ (fuel : Nat) (acc : List UInt8) (r : Ring) (q : ByteQueue), r.Refines q →
      q.bytes.length < fuel →
      (takeLoop (fun _ => 256) (some 10) (fun _ bs => bs.getLast? = some 10) fuel acc r).Refines
        ⟨acc ++ q.readLine.data, q.readLine.queue, q.readLine.stop⟩ := by
  intro fuel
  induction fuel with
  | zero => intro acc r q _ hlt; omega
  | succ fuel ih =>
    intro acc r q h hlt
    by_cases hq : q.bytes = []
    · -- the queue is empty: the loop stops as the queue says
      have hline : q.readLine = ⟨[], q, some q.endStop⟩ := by
        simp [ByteQueue.readLine, hq, ByteQueue.lineLength?]
      simp only [takeLoop, h.take_of_nil hq, hline]
      exact ⟨by simp, rfl, h⟩
    obtain ⟨r', htake, hr'⟩ := h.take_of_ne_nil hq 256 (some 10)
    have hpos : 0 < q.bytes.length := List.length_pos_iff.mpr hq
    rw [prefixUpTo_newline] at htake hr'
    cases hl : ByteQueue.lineLength? (q.bytes.take 256) with
    | some k =>
      -- the chunk ends the first line: the loop stops with it
      have hk : k ≤ 256 := (ByteQueue.lineLength?_le hl).trans (List.length_take_le _ _)
      have hwhole : ByteQueue.lineLength? q.bytes = some k := ByteQueue.lineLength?_take hl
      have hend := ByteQueue.getLast?_take_lineLength? hl
      simp only [hl, List.take_take, Nat.min_eq_left hk] at htake hr' hend
      simp only [takeLoop, htake, hend, decide_true, if_true]
      simp only [ByteQueue.readLine, hwhole]
      exact ⟨rfl, rfl, by simpa using hr'⟩
    | none =>
      -- the chunk has no newline: the line goes on in the rest of the queue
      have hmore := ByteQueue.getLast?_ne_of_lineLength?_none hl
      simp only [hl] at htake hr'
      simp only [List.length_take, ByteQueue.dropFront_min_length] at hr'
      simp only [takeLoop, htake, hmore, decide_false, Bool.false_eq_true, if_false]
      have hrest := ih (acc ++ q.bytes.take 256) r' (q.dropFront 256) hr' (by simp; omega)
      rw [q.readLine_dropFront 256 hl]
      simpa only [List.append_assoc] using hrest

/-- `readLine` takes exactly the first line, or everything and why it stops. -/
theorem Refines.readLine (h : r.Refines q) : r.readLine.Refines q.readLine := by
  have hlen : q.bytes.length < r.fuel := by
    have := q.length_le
    simp [fuel, size, h.capacity_eq]
    omega
  obtain ⟨hdata, hstop, hring⟩ := h.takeLoop_line r.fuel [] r q hlen
  unfold Ring.readLine
  exact ⟨by simpa using hdata, hstop, hring⟩

/-! ## Calls -/

/-- The answer of a read and the ring after it. -/
def Got.answer (g : Got) : PipeAnswer × Ring := (.got g.data g.stop, g.ring)

/-- What a call on the pipe returns, and the pipe after it. A write that could
not append everything would have had to wait for room. -/
def call (r : Ring) : PipeCall → PipeAnswer × Ring
  | .write p =>
    match r.write p with
    | .error s => (.wrote 0 (some s), r)
    | .ok (r', n) => (.wrote n (if n < p.length then some .wouldBlock else none), r')
  | .close =>
    match r.close with
    | .error s => (.closed (some s), r)
    | .ok r' => (.closed none, r')
  | .read n => (r.read n).answer
  | .readExact n => (r.readExact n).answer
  | .readAll => r.readAll.answer
  | .readLine => r.readLine.answer
  | .readAvailable n => (r.readAvailable n).answer
  | .len => (.length r.len, r)
  | .closed => (.isClosed r.closed, r)

/-- The answers of calls made one after another. -/
def answers (r : Ring) : List PipeCall → List PipeAnswer
  | [] => []
  | c :: cs => (r.call c).1 :: (r.call c).2.answers cs

theorem Got.Refines.answer {g : Got} {g' : ByteQueue.Got} (h : g.Refines g') :
    g.answer.1 = g'.answer.1 ∧ g.answer.2.Refines g'.answer.2 :=
  ⟨by simp [Got.answer, ByteQueue.Got.answer, h.data_eq, h.stop_eq], h.ring⟩

/-- One call: the ring answers as the queue does, and still stands for it. -/
theorem Refines.call (h : r.Refines q) (c : PipeCall) :
    (r.call c).1 = (q.call c).1 ∧ (r.call c).2.Refines (q.call c).2 := by
  cases c with
  | write p =>
    rcases h.write p with ⟨-, hr, hq⟩ | ⟨hq, hr, h'⟩
    · simp only [Ring.call, ByteQueue.call, hr, hq]
      exact ⟨trivial, h⟩
    · simp only [Ring.call, ByteQueue.call, hr, hq]
      exact ⟨trivial, h'⟩
  | close =>
    rcases h.close with ⟨-, hr, hq⟩ | ⟨r', hr, hq, h'⟩
    · simp only [Ring.call, ByteQueue.call, hr, hq]
      exact ⟨trivial, h⟩
    · simp only [Ring.call, ByteQueue.call, hr, hq]
      exact ⟨trivial, h'⟩
  | read n => exact (h.read n).answer
  | readExact n => exact (h.readExact n).answer
  | readAll => exact h.readAll.answer
  | readLine => exact h.readLine.answer
  | readAvailable n => exact (h.readAvailable n).answer
  | len => exact ⟨by simp [Ring.call, ByteQueue.call, h.shape.len_eq], h⟩
  | closed => exact ⟨by simp [Ring.call, ByteQueue.call, h.closed_eq], h⟩

/-- Every sequence of calls: the ring answers as the queue does, call by call. -/
theorem Refines.answers (h : r.Refines q) (cs : List PipeCall) : r.answers cs = q.answers cs := by
  induction cs generalizing r q with
  | nil => rfl
  | cons c cs ih =>
    obtain ⟨hanswer, h'⟩ := h.call c
    simp only [Ring.answers, ByteQueue.answers, hanswer, ih h']

/-- A new pipe of any capacity (below 1 taken as 1) answers every sequence of
calls exactly as the empty bounded byte queue of that capacity does. -/
theorem answers_new (c : Nat) (cs : List PipeCall) :
    (Ring.new c).answers cs = (ByteQueue.empty (max c 1)).answers cs :=
  (refines_new c).answers cs

end Ring

end Userland
