import Userland.Process.State
import Userland.Fault

namespace Userland

/-! # The process table

A table of `maxPID` slots, of which slot 0 is never used, so it holds at most
`maxPID - 1` processes. A new process takes the first free slot at or after the
cursor, going round to 1 after the last; the cursor then moves past it. Freeing
a slot moves the cursor back onto it, so the next new process reuses it.

A record holds what a process was created with, the channels it owns, its state,
whether it was started, and the execution unit registered to run it.

* `Table.allocate` fails with `tableFull` exactly when every slot is taken.
* Every lookup of a number that is not a live process fails with `noSuchProcess`.
-/

/-- What a new process is created from. -/
structure Spec where
  path : String
  source : List UInt8
  args : List String
  cwd : String
  terminal : Option String
  pipeStdin : Bool
  pipeStdout : Bool
  redirectStdin : String
  redirectStdout : String
  autostart : Bool
  deriving Inhabited, Repr

/-- The channels a new process owns: three pipes and a signal, by number. -/
structure Endpoints where
  stdin : Nat
  stdout : Nat
  stderr : Nat
  signal : Nat
  deriving Inhabited, Repr, DecidableEq

/-- A live process. -/
structure Record where
  pid : Nat
  state : State
  createdAt : Nat
  path : String
  source : List UInt8
  args : List String
  cwd : String
  /-- The pipe the process reads; another process's output once the two are piped. -/
  stdin : Nat
  stdout : Nat
  stderr : Nat
  signal : Nat
  terminal : Option String
  pipeStdin : Bool
  pipeStdout : Bool
  redirectStdin : String
  redirectStdout : String
  autostart : Bool
  started : Bool
  /-- The execution unit registered to run the process. -/
  unit : Option String
  deriving Inhabited, Repr

namespace Record

/-- Whether an execution unit is registered to run the process. -/
def registered (r : Record) : Bool := r.unit.isSome

end Record

/-- Process slots by number, the allocation cursor, and the number of live processes. -/
structure Table where
  slots : Array (Option Record)
  next : Nat
  live : Nat
  deriving Inhabited

namespace Table

/-- An empty table of `maxPID` slots; fewer than 2 become 2. -/
def new (maxPID : Nat) : Table :=
  { slots := Array.replicate (max maxPID 2) none, next := 1, live := 0 }

/-- The most processes the table holds. -/
def cap (t : Table) : Nat := t.slots.size - 1

/-- The record in a slot, if the number names a slot that holds one. -/
def get? (t : Table) (pid : Int) : Option Record :=
  if pid ≤ 0 then none else (t.slots[pid.toNat]?).join

/-- The fault for a number that names no live process. -/
def noSuch : Fault := .sys (SysError.of .noSuchProcess)

/-- The live process of a number. -/
def lookup (t : Table) (pid : Int) : Except Fault Record :=
  match t.get? pid with
  | some r => .ok r
  | none => .error noSuch

/-- The slots in the order a new process looks at them: from the cursor to the
last, then from 1. -/
def searchOrder (t : Table) : List Nat :=
  (List.range t.cap).map fun i => (t.next - 1 + i) % t.cap + 1

/-- The first free slot in search order. -/
def firstFree? (t : Table) : Option Nat :=
  t.searchOrder.find? fun p => (t.slots[p]?).join.isNone

/-- Takes a free slot for a new process, which starts out `STARTING`. -/
def allocate (t : Table) (spec : Spec) (ends : Endpoints) (now : Nat) :
    Except Fault (Record × Table) :=
  match t.firstFree? with
  | none => .error (.sys (SysError.of .tableFull))
  | some pid =>
    let r : Record :=
      { pid, state := .starting, createdAt := now, path := spec.path, source := spec.source,
        args := spec.args, cwd := spec.cwd, stdin := ends.stdin, stdout := ends.stdout,
        stderr := ends.stderr, signal := ends.signal, terminal := spec.terminal,
        pipeStdin := spec.pipeStdin, pipeStdout := spec.pipeStdout,
        redirectStdin := spec.redirectStdin, redirectStdout := spec.redirectStdout,
        autostart := spec.autostart, started := false, unit := none }
    .ok (r, { slots := t.slots.set! pid (some r), next := pid % t.cap + 1, live := t.live + 1 })

/-- Changes a live record; the change may refuse. -/
def update (t : Table) (pid : Int) (f : Record → Except Fault Record) : Except Fault Table := do
  let r ← t.lookup pid
  let r' ← f r
  return { t with slots := t.slots.set! pid.toNat (some r') }

/-- Registers an execution unit to run a live process that has none yet. -/
def register (t : Table) (pid : Int) (unit : String) : Except Fault Table :=
  t.update pid fun r =>
    match r.unit with
    | some u => .error (.sys (SysError.invalid
        ("pid " ++ toString pid ++ " already has unit " ++ u)))
    | none => .ok { r with unit := some unit }

/-- The fault for a state change the current state does not allow. -/
def badMove (pid : Int) (cur : State) (next : String) : Fault :=
  .wrap ("pid " ++ toString pid ++ ": " ++ cur.name ++ " -> " ++ next)
    (.sys (SysError.of .unknownProcessState))

/-- Moves a live process to a state named by text; the current state again
changes nothing, and a move the current state does not allow is refused. -/
def setStateNamed (t : Table) (pid : Int) (next : String) : Except Fault Table :=
  t.update pid fun r =>
    if next = r.state.name then .ok r
    else match State.ofName? next with
      | some s => if r.state.canMove s then .ok { r with state := s } else .error (badMove pid r.state next)
      | none => .error (badMove pid r.state next)

/-- Moves a live process to a state. -/
def setState (t : Table) (pid : Int) (s : State) : Except Fault Table := t.setStateNamed pid s.name

/-- Frees a live process's slot and moves the cursor onto it. -/
def free (t : Table) (pid : Int) : Except Fault Table := do
  let _ ← t.lookup pid
  return { slots := t.slots.set! pid.toNat none, next := pid.toNat, live := t.live - 1 }

/-- The live records in order of number. -/
def records (t : Table) : List Record := t.slots.toList.filterMap id

end Table

end Userland
