import Userland.Signal.Reply

namespace Userland

/-! # Signals

A signal wakes a sleeper and carries replies to it. Wake-ups are counted, so a
wake that comes before the sleep is not lost: a sleep consumes one queued
wake-up, or reports that the sleeper would have to wait. Replies go through a
ring of their own as frames (`Frame.encode`); a reply whose frame does not fit
the room left is refused whole.
-/

/-- The default room for replies, in bytes. -/
def defaultReplySize : Nat := 32768

/-- A signal: queued wake-ups and the ring that carries reply frames. -/
structure Signal where
  wakes : Nat
  replies : Ring

namespace Signal

/-- A signal with room for `replySize` bytes of frames; a size of zero or less takes the default. -/
def new (replySize : Int) : Signal :=
  { wakes := 0, replies := Ring.new (if replySize ≤ 0 then defaultReplySize else replySize.toNat) }

/-- Queues one wake-up. -/
def wake (s : Signal) : Signal := { s with wakes := s.wakes + 1 }

/-- Consumes a queued wake-up, if there is one. -/
def sleep? (s : Signal) : Option Signal :=
  if s.wakes > 0 then some { s with wakes := s.wakes - 1 } else none

/-- Appends a reply's frame if it fits whole. -/
def write? (s : Signal) (r : Reply) : Option Signal :=
  (s.replies.tryWrite (Frame.encode r)).map fun ring => { s with replies := ring }

/-- Reads the oldest reply frame. -/
def read (s : Signal) : Option Reply × Signal :=
  let (r, ring) := Frame.decode s.replies
  (r, { s with replies := ring })

end Signal

end Userland
