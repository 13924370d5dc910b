import Userland.Proofs.Pipe.Refinement

/-! # What a pipe delivers

A pipe hands its reader what its writer put in, in order. Counting what every
write reports it appended and what every read handed out, the queue conserves
bytes: what was in it and what went in equals what came out and what is still
in it (`ByteQueue.bytes_append_written`). So the reads, taken together, are
always a prefix of the writes, and once the pipe is closed and everything
written has been read, every later call gets the answer of a drained closed
pipe (`PipeCall.atEnd`): writes are refused, reads get nothing, and a read that
asks for bytes reports the end of the stream, for good.

`Ring.reads_prefix_writes` and `Ring.answers_after_drained` say the same of the
ring a pipe is, through the refinement of the ring by the queue.
-/

namespace Userland

namespace PipeCall

/-- The bytes a call put into the pipe, as its answer reports: what a write appended. -/
def put : PipeCall → PipeAnswer → List UInt8
  | .write p, .wrote n _ => p.take n
  | _, _ => []

/-- The answer a closed pipe with nothing left gives a call: writes and closes
are refused, reads get nothing, and a read that asks for bytes is at the end. -/
def atEnd : PipeCall → PipeAnswer
  | .write _ => .wrote 0 (some .closed)
  | .close => .closed (some .closed)
  | .read n => .got [] (if n = 0 then none else some .atEnd)
  | .readExact n => .got [] (if n = 0 then none else some .atEnd)
  | .readAll => .got [] none
  | .readLine => .got [] (some .atEnd)
  | .readAvailable _ => .got [] (some .atEnd)
  | .len => .length 0
  | .closed => .isClosed true

end PipeCall

namespace PipeAnswer

/-- The bytes an answer hands out: what a read got. -/
def taken : PipeAnswer → List UInt8
  | .got data _ => data
  | _ => []

end PipeAnswer

/-- The bytes a sequence of calls put in, as their answers report. -/
def written (cs : List PipeCall) (as : List PipeAnswer) : List UInt8 :=
  (List.zipWith PipeCall.put cs as).flatten

/-- The bytes a sequence of answers handed out, in order. -/
def taken (as : List PipeAnswer) : List UInt8 :=
  (as.map PipeAnswer.taken).flatten

@[simp] theorem written_nil (as : List PipeAnswer) : written [] as = [] := rfl

@[simp] theorem written_cons (c : PipeCall) (cs : List PipeCall) (a : PipeAnswer) (as : List PipeAnswer) :
    written (c :: cs) (a :: as) = c.put a ++ written cs as := rfl

@[simp] theorem taken_nil : taken [] = [] := rfl

@[simp] theorem taken_cons (a : PipeAnswer) (as : List PipeAnswer) : taken (a :: as) = a.taken ++ taken as := rfl

@[simp] theorem taken_map_atEnd (cs : List PipeCall) : taken (cs.map PipeCall.atEnd) = [] := by
  induction cs with
  | nil => rfl
  | cons c cs ih => cases c <;> simp [PipeCall.atEnd, PipeAnswer.taken, ih]

namespace ByteQueue

/-- The queue after calls made one after another. -/
def after (q : ByteQueue) : List PipeCall → ByteQueue
  | [] => q
  | c :: cs => (q.call c).2.after cs

variable (q : ByteQueue)

theorem answers_append (cs cs' : List PipeCall) :
    q.answers (cs ++ cs') = q.answers cs ++ (q.after cs).answers cs' := by
  induction cs generalizing q with
  | nil => rfl
  | cons c cs ih => simp [answers, after, ih]

/-- One call conserves bytes: what was in the queue and what the call put in is
what it handed out and what is left. -/
theorem bytes_append_put (c : PipeCall) :
    q.bytes ++ c.put (q.call c).1 = (q.call c).1.taken ++ (q.call c).2.bytes := by
  cases c with
  | write p => by_cases hc : q.closed = true <;> simp [call, write, push, hc, PipeCall.put, PipeAnswer.taken]
  | close => by_cases hc : q.closed = true <;> simp [call, close, hc, PipeCall.put, PipeAnswer.taken]
  | read n =>
    simp only [call, read, Got.answer]
    split_ifs <;> simp_all [PipeCall.put, PipeAnswer.taken]
  | readExact n =>
    simp only [call, readExact, Got.answer]
    split_ifs with hn
    · simp [PipeCall.put, PipeAnswer.taken]
    · have hle : q.bytes.length ≤ n := by omega
      simp [PipeCall.put, PipeAnswer.taken, List.drop_eq_nil_of_le hle]
  | readAll => simp [call, readAll, Got.answer, PipeCall.put, PipeAnswer.taken]
  | readLine =>
    simp only [call, readLine, Got.answer]
    split <;> simp [PipeCall.put, PipeAnswer.taken]
  | readAvailable n =>
    simp only [call, readAvailable, Got.answer]
    split_ifs <;> simp_all [PipeCall.put, PipeAnswer.taken]
  | len => simp [call, PipeCall.put, PipeAnswer.taken]
  | closed => simp [call, PipeCall.put, PipeAnswer.taken]

/-- Every sequence of calls conserves bytes. -/
theorem bytes_append_written (cs : List PipeCall) :
    q.bytes ++ written cs (q.answers cs) = taken (q.answers cs) ++ (q.after cs).bytes := by
  induction cs generalizing q with
  | nil => simp [answers, after]
  | cons c cs ih =>
    -- the call's own bytes, then the rest of the run from the queue it left
    simp only [answers, after, written_cons, taken_cons]
    rw [← List.append_assoc, bytes_append_put, List.append_assoc, ih, List.append_assoc]

/-- A closed queue stays closed. -/
theorem closed_call {c : PipeCall} (h : q.closed = true) : (q.call c).2.closed = true := by
  cases c with
  | write p => simp [call, write, h]
  | close => simp [call, close, h]
  | read n => simp only [call, read, Got.answer]; split_ifs <;> simp [h]
  | readExact n => simp only [call, readExact, Got.answer]; split_ifs <;> simp [h]
  | readAll => simp [call, readAll, Got.answer, h]
  | readLine => simp only [call, readLine, Got.answer]; split <;> simp [h]
  | readAvailable n => simp only [call, readAvailable, Got.answer]; split_ifs <;> simp [h]
  | len => simp [call, h]
  | closed => simp [call, h]

/-- A close leaves the queue closed, whether or not it went through. -/
theorem closed_call_close : (q.call .close).2.closed = true := by
  by_cases hc : q.closed = true <;> simp [call, close, hc]

theorem closed_after {cs : List PipeCall} (h : q.closed = true) : (q.after cs).closed = true := by
  induction cs generalizing q with
  | nil => exact h
  | cons c cs ih => exact ih _ (q.closed_call h)

/-- Once a close was called, the queue is closed. -/
theorem closed_after_of_close {cs : List PipeCall} (h : PipeCall.close ∈ cs) : (q.after cs).closed = true := by
  induction cs generalizing q with
  | nil => cases h
  | cons c cs ih =>
    rcases List.mem_cons.mp h with rfl | h
    · exact closed_after (q.call .close).2 q.closed_call_close
    · exact ih _ h

/-- A closed queue with nothing left answers every call as at the end, and stays so. -/
theorem call_of_drained (c : PipeCall) (hc : q.closed = true) (hb : q.bytes = []) :
    q.call c = (c.atEnd, q) := by
  cases c with
  | write p => simp [call, write, hc, PipeCall.atEnd]
  | close => simp [call, close, hc, PipeCall.atEnd]
  | read n =>
    by_cases hn : n = 0 <;> simp [call, read, Got.answer, endStop, hc, hb, hn, PipeCall.atEnd]
  | readExact n =>
    by_cases hn : n = 0
    · simp [call, readExact, Got.answer, hb, hn, PipeCall.atEnd]
    · have hdrop : q.dropFront n = q := by ext <;> simp [hb]
      simp [call, readExact, Got.answer, endStop, hc, hb, hn, hdrop, PipeCall.atEnd]
  | readAll =>
    have hdrop : q.dropFront q.bytes.length = q := by ext <;> simp [hb]
    simp [call, readAll, Got.answer, hc, hdrop, PipeCall.atEnd]
    exact hb
  | readLine =>
    simp [call, readLine, Got.answer, lineLength?, endStop, hc, hb, PipeCall.atEnd]
  | readAvailable n => simp [call, readAvailable, Got.answer, hc, hb, PipeCall.atEnd]
  | len => simp [call, hb, PipeCall.atEnd]
  | closed => simp [call, hc, PipeCall.atEnd]

theorem answers_of_drained (cs : List PipeCall) (hc : q.closed = true) (hb : q.bytes = []) :
    q.answers cs = cs.map PipeCall.atEnd := by
  induction cs with
  | nil => rfl
  | cons c cs ih => simp [answers, q.call_of_drained c hc hb, ih]

end ByteQueue

namespace Ring

/-- Everything the reads of a new pipe handed out, in order, is the start of
what its writes put in. -/
theorem reads_prefix_writes (c : Nat) (cs : List PipeCall) :
    taken ((Ring.new c).answers cs) <+: written cs ((Ring.new c).answers cs) := by
  rw [answers_new]
  refine ⟨((ByteQueue.empty (max c 1)).after cs).bytes, ?_⟩
  simpa [ByteQueue.empty] using ((ByteQueue.empty (max c 1)).bytes_append_written cs).symm

/-- Once a new pipe was closed and every byte written to it was read, every
later call gets the answer of a drained closed pipe. -/
theorem answers_after_drained (c : Nat) {pre : List PipeCall} (hclose : PipeCall.close ∈ pre)
    (hread : taken ((Ring.new c).answers pre) = written pre ((Ring.new c).answers pre))
    (post : List PipeCall) :
    (Ring.new c).answers (pre ++ post) = (Ring.new c).answers pre ++ post.map PipeCall.atEnd := by
  rw [answers_new, answers_new] at *
  set q := ByteQueue.empty (max c 1)
  -- nothing is left: what went in all came out
  have hcons := q.bytes_append_written pre
  have hleft : (q.after pre).bytes = [] := by
    rw [hread] at hcons
    simpa [q, ByteQueue.empty] using hcons.symm
  rw [q.answers_append, (q.after pre).answers_of_drained post (q.closed_after_of_close hclose) hleft]

end Ring

end Userland
