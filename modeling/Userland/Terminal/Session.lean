import Userland.Terminal.Buffer
import Userland.Terminal.Line

namespace Userland

/-! # Terminal sessions

A session is one terminal: an id, a size, a line discipline and the buffer
that collects what it shows (64 KiB). A client types into it and drains what
it shows; processes print to it and read lines from it. A size of zero or
less is taken as 80 columns by 24 rows when a session opens; resizing takes
any size. A closed session refuses typing and resizing.

A read that found no completed line keeps waiting: the next line typed goes
to it first.

The manager keeps the open sessions by id. Closing a session through the
manager forgets it; a session can also be closed while the manager keeps it.
-/

namespace Terminal

/-- Why a terminal operation failed. -/
inductive TermError where
  | notFound (id : String)
  | closed
  deriving DecidableEq, Repr, Inhabited

/-- The message of an error. -/
def TermError.message : TermError → String
  | .notFound id => "terminal: session not found: " ++ id
  | .closed => "terminal: session closed"

/-- One terminal. -/
structure Session where
  id : String
  cols : Int
  rows : Int
  closed : Bool
  line : Discipline
  screen : Buffer
  /-- Reads still waiting for a line, by how many bytes each takes. -/
  waiting : List Nat
  deriving Inhabited, Repr

/-- What a session shows of itself. -/
structure Info where
  id : String
  cols : Int
  rows : Int
  active : Bool
  deriving Inhabited, Repr, DecidableEq

namespace Session

/-- The size of a session's screen buffer. -/
def screenSize : Nat := 65536

/-- A new open session; sizes of zero or less take the defaults. -/
def new (id : String) (cols rows : Int) : Session :=
  ⟨id, if cols ≤ 0 then 80 else cols, if rows ≤ 0 then 24 else rows, false, Discipline.new,
    Buffer.new screenSize, []⟩

/-- What the session shows of itself. -/
def info (s : Session) : Info := ⟨s.id, s.cols, s.rows, !s.closed⟩

/-- Moves what the discipline wrote to the other side into the screen buffer. -/
def collect (s : Session) : Session :=
  let (bs, line) := s.line.collect
  { s with line, screen := (s.screen.write bs).2 }

/-- Hands completed lines to reads that were waiting. -/
def serveWaiting (s : Session) : Session :=
  let rec go : List Nat → Discipline → List Nat × Discipline
    | [], d => ([], d)
    | n :: rest, d =>
      match d.read n with
      | none => (n :: rest, d)
      | some (_, d) => go rest d
  let (waiting, line) := go s.waiting s.line
  collect { s with waiting, line }

/-- Types bytes into the session. -/
def input (s : Session) (bs : List UInt8) : Except TermError Session :=
  if s.closed then .error .closed
  else .ok (serveWaiting { s with line := s.line.type bs })

/-- A process prints bytes: how many it wrote. -/
def write (s : Session) (bs : List UInt8) : Session × Nat :=
  (collect { s with line := s.line.print bs }, bs.length)

/-- A process takes at most `n` bytes of a completed line, if there is one. -/
def take? (s : Session) (n : Nat) : Option (List UInt8 × Session) :=
  (s.line.read n).map fun (bs, line) => (bs, collect { s with line })

/-- A process reads at most `n` bytes: the bytes, or none when it has to wait
(it then stays waiting). -/
def read (s : Session) (n : Nat) : Option (List UInt8) × Session :=
  if !s.waiting.isEmpty && n > 0 then (none, { s with waiting := s.waiting ++ [n] })
  else
    match s.take? n with
    | some (bs, s) => (some bs, s)
    | none => (none, { s with waiting := s.waiting ++ [n] })

/-- Drains what the session shows. -/
def drain (s : Session) : List UInt8 × Session :=
  let (bs, screen) := s.screen.drain
  (bs, { s with screen })

/-- Resizes an open session. -/
def resize (s : Session) (cols rows : Int) : Except TermError Session :=
  if s.closed then .error .closed else .ok { s with cols, rows }

/-- Closes the session. -/
def close (s : Session) : Session := { s with closed := true }

end Session

/-- Every session ever opened, in order, and which ids the manager keeps. -/
structure Manager where
  sessions : List Session
  kept : List String
  deriving Inhabited, Repr

namespace Manager

/-- No sessions. -/
def empty : Manager := ⟨[], []⟩

/-- The id of the n-th session opened, counting from one: shaped like a
random identifier, with the count in its last group. -/
def idFor (n : Nat) : String :=
  let hex := String.ofList (Nat.toDigits 16 n)
  "00000000-0000-4000-8000-" ++ String.ofList (List.replicate (12 - hex.length) '0') ++ hex

/-- Opens a session. -/
def create (m : Manager) (cols rows : Int) : Session × Manager :=
  let s := Session.new (idFor (m.sessions.length + 1)) cols rows
  (s, { m with sessions := m.sessions ++ [s], kept := m.kept ++ [s.id] })

/-- A session by id, whether or not the manager keeps it. -/
def find? (m : Manager) (id : String) : Option Session := m.sessions.find? (·.id == id)

/-- A session the manager keeps. -/
def get (m : Manager) (id : String) : Except TermError Session :=
  if m.kept.contains id then
    match m.find? id with
    | some s => .ok s
    | none => .error (.notFound id)
  else .error (.notFound id)

/-- Replaces a session. -/
def update (m : Manager) (s : Session) : Manager :=
  { m with sessions := m.sessions.map fun x => if x.id == s.id then s else x }

/-- Closes a session and forgets it. -/
def close (m : Manager) (id : String) : Except TermError Manager := do
  let s ← m.get id
  return { (m.update s.close) with kept := m.kept.filter (· != id) }

/-- Closes every session kept. -/
def closeAll (m : Manager) : Manager :=
  m.kept.foldl (fun m id => match m.close id with
    | .ok m => m
    | .error _ => m) m

/-- The sessions kept, as they show themselves. -/
def list (m : Manager) : List Info :=
  (m.sessions.filter fun s => m.kept.contains s.id).map Session.info

end Manager

end Terminal

end Userland
