import Userland.Proofs.Signal.Frame

/-! # A signal is a wake-up count and a queue of replies

What a signal means to the two sides that share it (`SignalSpec`): the wake-ups
queued, which are the wakes given less the sleeps that took one, and a
first-in first-out queue of the replies written and not yet read, in a room of
a fixed number of bytes of frames. A reply goes in whole when its frame fits in
the room left, and is refused otherwise with the queue as it was; a read takes
the oldest reply, and nothing from an empty queue; a sleep takes a wake-up
exactly when one is queued.

`Signal.answers_new_of_known`: a new signal of any reply size answers every sequence of
calls as its meaning does, as long as every reply written is one a reader
knows (`Reply.Known`). It follows from one step lemma, `Signal.Carries.call`,
about the relation `Signal.Carries` between a signal and what it stands for.

A reply of any other kind breaks the queue: its frame carries a number after
the kind byte, the reader takes the kind byte alone, and the bytes left over
are read as the next frame (`unknown_kind_desyncs`).
-/

namespace Userland

/-- The replies written and not yet read, oldest first, in a room of `capacity`
bytes of frames. -/
structure ReplyQueue where
  capacity : Nat
  replies : List Reply

namespace ReplyQueue

/-- The frames of the replies, one after another. -/
def bytes (q : ReplyQueue) : List UInt8 := (q.replies.map Frame.encode).flatten

/-- Takes a reply whose frame fits in the room left, and refuses one that does not. -/
def write? (q : ReplyQueue) (r : Reply) : Option ReplyQueue :=
  if q.bytes.length + (Frame.encode r).length ≤ q.capacity then some ⟨q.capacity, q.replies ++ [r]⟩
  else none

/-- Takes the oldest reply, if there is one. -/
def read (q : ReplyQueue) : Option Reply × ReplyQueue :=
  match q.replies with
  | [] => (none, q)
  | r :: rs => (some r, ⟨q.capacity, rs⟩)

end ReplyQueue

/-- A call on a signal: a wake, a sleep that does not wait, a reply written, a
reply read, or a look at the wake-ups queued. -/
inductive SignalCall where
  | wake
  | sleep
  | write (r : Reply)
  | read
  | pending

namespace SignalCall

/-- A call that writes, if it writes, a reply a reader knows. -/
def Known : SignalCall → Prop
  | .write r => r.Known
  | _ => True

instance : DecidablePred Known := fun c => by
  cases c <;> unfold Known <;> infer_instance

end SignalCall

/-- What a call returns: whether a sleep took a wake-up, whether a reply went
in, the reply read, or the wake-ups queued. -/
inductive SignalAnswer where
  | woke
  | slept (ok : Bool)
  | wrote (ok : Bool)
  | got (r : Option Reply)
  | pending (n : Nat)
  deriving DecidableEq

/-- What a signal means: the wakes given, the sleeps that took one, and the
queue of replies. -/
structure SignalSpec where
  woken : Nat
  slept : Nat
  queue : ReplyQueue

namespace SignalSpec

/-- A signal before any call, with room for `capacity` bytes of frames. -/
def new (capacity : Nat) : SignalSpec := ⟨0, 0, ⟨capacity, []⟩⟩

/-- What `Signal.new size` means: the room is the reply size, a size of zero or
less taking the default, and at least one byte. -/
def ofSize (size : Int) : SignalSpec :=
  new (max (if size ≤ 0 then defaultReplySize else size.toNat) 1)

/-- The wake-ups queued: the wakes given less the sleeps that took one. -/
def pending (σ : SignalSpec) : Nat := σ.woken - σ.slept

/-- What a call returns, and the meaning after it. -/
def call (σ : SignalSpec) : SignalCall → SignalAnswer × SignalSpec
  | .wake => (.woke, { σ with woken := σ.woken + 1 })
  | .sleep => if 0 < σ.pending then (.slept true, { σ with slept := σ.slept + 1 }) else (.slept false, σ)
  | .write r =>
    match σ.queue.write? r with
    | some q => (.wrote true, { σ with queue := q })
    | none => (.wrote false, σ)
  | .read => (.got σ.queue.read.1, { σ with queue := σ.queue.read.2 })
  | .pending => (.pending σ.pending, σ)

/-- The answers of calls made one after another. -/
def answers (σ : SignalSpec) : List SignalCall → List SignalAnswer
  | [] => []
  | c :: cs => (σ.call c).1 :: (σ.call c).2.answers cs

end SignalSpec

namespace Ring

variable {r : Ring} {q : ByteQueue}

/-- A whole frame goes into an open ring in shape when it fits in the room
left, after the bytes there; otherwise nothing is written. -/
theorem Refines.tryWrite (h : r.Refines q) (hc : q.closed = false) (p : List UInt8) :
    (q.bytes.length + p.length ≤ q.capacity → r.tryWrite p = some (r.append p).1 ∧
      (r.append p).1.Refines (q.push p).1 ∧ (q.push p).1.bytes = q.bytes ++ p) ∧
    (q.capacity < q.bytes.length + p.length → r.tryWrite p = none) := by
  have hrc : r.closed = false := h.closed_eq.trans hc
  have hfree : r.free = q.capacity - q.bytes.length := by
    rw [h.shape.free_eq hrc, h.capacity_eq]
  have hle := q.length_le
  refine ⟨fun hfit => ?_, fun hover => ?_⟩
  · have hmin : min r.free p.length = p.length := by omega
    refine ⟨?_, (h.append hc p).1, ?_⟩
    · simp only [Ring.tryWrite, hrc, Bool.false_or, decide_eq_true_eq, Ring.append, hmin,
        List.take_length]
      rw [if_neg (by omega)]
    · simp only [ByteQueue.push]
      rw [Nat.min_eq_right (by omega), List.take_length]
  · simp only [Ring.tryWrite, hrc, Bool.false_or, decide_eq_true_eq]
    rw [if_pos (by omega)]

end Ring

namespace Signal

/-- What a call on the signal returns, and the signal after it. -/
def call (s : Signal) : SignalCall → SignalAnswer × Signal
  | .wake => (.woke, s.wake)
  | .sleep =>
    match s.sleep? with
    | some s' => (.slept true, s')
    | none => (.slept false, s)
  | .write r =>
    match s.write? r with
    | some s' => (.wrote true, s')
    | none => (.wrote false, s)
  | .read => (.got s.read.1, s.read.2)
  | .pending => (.pending s.wakes, s)

/-- The answers of calls made one after another. -/
def answers (s : Signal) : List SignalCall → List SignalAnswer
  | [] => []
  | c :: cs => (s.call c).1 :: (s.call c).2.answers cs

/-- A signal stands for a meaning: its wake-ups are the ones queued, and its
ring stands for the open byte queue of the replies' frames, each of them a
reply a reader knows. -/
structure Carries (s : Signal) (σ : SignalSpec) : Prop where
  slept_le : σ.slept ≤ σ.woken
  wakes_eq : s.wakes = σ.pending
  ring : ∃ bq : ByteQueue, s.replies.Refines bq ∧ bq.bytes = σ.queue.bytes ∧ bq.closed = false ∧
    bq.capacity = σ.queue.capacity
  known : ∀ r ∈ σ.queue.replies, r.Known

variable {s : Signal} {σ : SignalSpec}

theorem carries_new (size : Int) : (Signal.new size).Carries (SignalSpec.ofSize size) where
  slept_le := le_refl 0
  wakes_eq := rfl
  ring := ⟨_, Ring.refines_new _, rfl, rfl, rfl⟩
  known := nofun

theorem Carries.wake (h : s.Carries σ) :
    (s.call .wake).1 = (σ.call .wake).1 ∧ (s.call .wake).2.Carries (σ.call .wake).2 := by
  refine ⟨rfl, ⟨by simp [SignalSpec.call]; have := h.slept_le; omega, ?_, h.ring, h.known⟩⟩
  simp only [Signal.call, SignalSpec.call, Signal.wake, SignalSpec.pending, h.wakes_eq]
  have := h.slept_le
  omega

/-- A sleep takes a wake-up exactly when one is queued. -/
theorem Carries.sleep (h : s.Carries σ) :
    (s.call .sleep).1 = (σ.call .sleep).1 ∧ (s.call .sleep).2.Carries (σ.call .sleep).2 := by
  have hle := h.slept_le
  by_cases hp : 0 < σ.pending
  · have hs : s.sleep? = some { s with wakes := s.wakes - 1 } := by
      simp [Signal.sleep?, h.wakes_eq, hp]
    simp only [Signal.call, SignalSpec.call, hs, if_pos hp]
    refine ⟨trivial, ⟨by unfold SignalSpec.pending at hp; simp; omega, ?_, h.ring, h.known⟩⟩
    simp only [SignalSpec.pending, h.wakes_eq]
    omega
  · have hs : s.sleep? = none := by simp [Signal.sleep?, h.wakes_eq, hp]
    simp only [Signal.call, SignalSpec.call, hs, if_neg hp]
    exact ⟨trivial, h⟩

/-- A reply a reader knows goes in whole, behind the others, when its frame fits
in the room left, and is refused with nothing changed otherwise. -/
theorem Carries.write (h : s.Carries σ) {rep : Reply} (hk : rep.Known) :
    (s.call (.write rep)).1 = (σ.call (.write rep)).1 ∧
      (s.call (.write rep)).2.Carries (σ.call (.write rep)).2 := by
  obtain ⟨bq, hr, hbytes, hclosed, hcap⟩ := h.ring
  obtain ⟨hfits, hover⟩ := hr.tryWrite hclosed (Frame.encode rep)
  by_cases hfit : σ.queue.bytes.length + (Frame.encode rep).length ≤ σ.queue.capacity
  · obtain ⟨hw, hr', hpush⟩ := hfits (by rw [hbytes, hcap]; exact hfit)
    have hs : s.write? rep = some { s with replies := (s.replies.append (Frame.encode rep)).1 } := by
      simp [Signal.write?, hw]
    have hσ : σ.queue.write? rep = some ⟨σ.queue.capacity, σ.queue.replies ++ [rep]⟩ := by
      simp [ReplyQueue.write?, hfit]
    simp only [Signal.call, SignalSpec.call, hs, hσ]
    refine ⟨trivial, h.slept_le, h.wakes_eq, ⟨_, hr', ?_, hclosed, ?_⟩, ?_⟩
    · simp [hpush, hbytes, ReplyQueue.bytes]
    · simp [ByteQueue.push, hcap]
    · intro r hmem
      simp only [List.mem_append, List.mem_singleton] at hmem
      rcases hmem with hmem | rfl
      · exact h.known r hmem
      · exact hk
  · have hw := hover (by rw [hbytes, hcap]; omega)
    have hs : s.write? rep = none := by simp [Signal.write?, hw]
    have hσ : σ.queue.write? rep = none := by simp [ReplyQueue.write?, hfit]
    simp only [Signal.call, SignalSpec.call, hs, hσ]
    exact ⟨trivial, h⟩

/-- A read takes the oldest reply whole, and nothing from an empty queue. -/
theorem Carries.read (h : s.Carries σ) :
    (s.call .read).1 = (σ.call .read).1 ∧ (s.call .read).2.Carries (σ.call .read).2 := by
  obtain ⟨bq, hr, hbytes, hclosed, hcap⟩ := h.ring
  simp only [Signal.call, SignalSpec.call, ReplyQueue.read]
  cases hq : σ.queue.replies with
  | nil =>
    have hnil : bq.bytes = [] := by simp [hbytes, ReplyQueue.bytes, hq]
    simp only [Signal.read, hr.decode_nil hnil]
    exact ⟨trivial, h⟩
  | cons rep rest =>
    have hk : rep.Known := h.known rep (by simp [hq])
    have hfront : bq.bytes = Frame.encode rep ++ (rest.map Frame.encode).flatten := by
      simp [hbytes, ReplyQueue.bytes, hq]
    obtain ⟨r', hdec, hr'⟩ := hr.decode_encode hk hfront
    simp only [Signal.read, hdec]
    refine ⟨trivial, h.slept_le, h.wakes_eq, ⟨_, hr', ?_, hclosed, hcap⟩, ?_⟩
    · simp [hfront, ReplyQueue.bytes]
    · intro r hmem
      exact h.known r (by simp [hq, hmem])

/-- One call: the signal answers as its meaning does, and still stands for it. -/
theorem Carries.call (h : s.Carries σ) {c : SignalCall} (hc : c.Known) :
    (s.call c).1 = (σ.call c).1 ∧ (s.call c).2.Carries (σ.call c).2 := by
  cases c with
  | wake => exact h.wake
  | sleep => exact h.sleep
  | write rep => exact h.write hc
  | read => exact h.read
  | pending => exact ⟨by simp [Signal.call, SignalSpec.call, h.wakes_eq], h⟩

/-- Every sequence of calls that writes only replies a reader knows: the signal
answers as its meaning does, call by call. -/
theorem Carries.answers (h : s.Carries σ) {cs : List SignalCall} (hcs : ∀ c ∈ cs, c.Known) :
    s.answers cs = σ.answers cs := by
  induction cs generalizing s σ with
  | nil => rfl
  | cons c cs ih =>
    obtain ⟨hanswer, h'⟩ := h.call (hcs c (List.mem_cons_self ..))
    simp only [Signal.answers, SignalSpec.answers, hanswer,
      ih h' fun c' hc' => hcs c' (List.mem_cons_of_mem _ hc')]

/-- A new signal of any reply size answers every sequence of wakes, sleeps,
reads, counts and writes of replies a reader knows as its meaning does: the
wake-ups queued are the wakes less the sleeps that took one, a sleep takes one
exactly when one is queued, and the replies come back whole and in order, each
written only if its frame fits in the room left. -/
theorem answers_new_of_known (size : Int) (cs : List SignalCall) (hcs : ∀ c ∈ cs, c.Known) :
    (Signal.new size).answers cs = (SignalSpec.ofSize size).answers cs :=
  (carries_new size).answers hcs

/-- Numbers, an error code and a text through a signal with room for sixteen bytes. -/
theorem answers_new_sixteen :
    (∀ c ∈ [SignalCall.write (Reply.number 300), .wake, .write (Reply.errno (-2)),
        .write (.text [104, 105]), .read, .sleep, .read, .sleep, .read, .read, .pending], c.Known) ∧
      (Signal.new 16).answers [.write (Reply.number 300), .wake, .write (Reply.errno (-2)),
        .write (.text [104, 105]), .read, .sleep, .read, .sleep, .read, .read, .pending] =
      (SignalSpec.ofSize 16).answers [.write (Reply.number 300), .wake, .write (Reply.errno (-2)),
        .write (.text [104, 105]), .read, .sleep, .read, .sleep, .read, .read, .pending] :=
  have hcs : ∀ c ∈ [SignalCall.write (Reply.number 300), .wake, .write (Reply.errno (-2)),
      .write (.text [104, 105]), .read, .sleep, .read, .sleep, .read, .read, .pending], c.Known := by
    decide
  ⟨hcs, answers_new_of_known 16 _ hcs⟩

end Signal

/-- A reply of kind `x` leaves its number behind: the read after it takes that
number as a frame of its own, and the reply written next does not come back. -/
theorem unknown_kind_desyncs :
    (Signal.new 8).answers [.write (.tagged 120 55), .write (Reply.number 1), .read, .read] =
      [.wrote true, .wrote true, .got none, .got (some (Reply.number 55))] := by
  decide +kernel

end Userland
