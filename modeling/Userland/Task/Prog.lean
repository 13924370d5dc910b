import Userland.Supervisor.Serve

namespace Userland

/-! # Tasks

A task is a program of atomic steps on the machine. A step either happens,
giving a value and the machine after it, or finds that it cannot happen yet:
then the task waits until the machine changes or the clock reaches a given
time, and tries the same step again. Programs are trees of steps whose
branches continue with the step's value, so a task's whole future is a plain
value that a scheduler can take apart one step at a time. A program may also
start another task that runs beside it from then on.

A task runs under a context that ends when its execution unit is terminated,
when a deadline passes, when one of its cancellation handles is cancelled, or
from the start. A blocking step that finds its
context ended gives up with the context's fault; a step that can happen
happens, even in an ended context.
-/

/-- What an atomic step found. -/
inductive Attempt (β : Type) where
  /-- The step happened. -/
  | done (b : β) (m : Machine)
  /-- Not yet: try again once the machine changes, or once the clock reaches `wakeAt`. -/
  | blocked (wakeAt : Option Nat)

/-- A program of atomic machine steps giving an `α`. -/
inductive Prog : Type → Type 1 where
  | pure {α : Type} (a : α) : Prog α
  | step {α β : Type} (f : Machine → Attempt β) (k : β → Prog α) : Prog α
  /-- Starts `child` as a task of its own, then goes on with `rest`. -/
  | fork {α : Type} (child : Prog Unit) (rest : Prog α) : Prog α

namespace Prog

variable {α β γ : Type}

/-- Runs `p`, then the program its value selects. -/
def bind : Prog α → (α → Prog β) → Prog β
  | .pure a, g => g a
  | .step f k, g => .step f fun b => (k b).bind g
  | .fork c r, g => .fork c (r.bind g)

instance : Monad Prog where
  pure := .pure
  bind := bind

/-- A step that always happens. -/
def atomic (f : Machine → β × Machine) : Prog β :=
  .step (fun m => let (b, m') := f m; .done b m') .pure

/-- A supervisor step, as a task step. -/
def act (a : Act β) : Prog β := atomic a.run

/-- Reads the machine. -/
def read (f : Machine → β) : Prog β := atomic fun m => (f m, m)

/-- Changes the machine. -/
def change (f : Machine → Machine) : Prog Unit := atomic fun m => ((), f m)

/-- A step that happens once `f` allows it, trying again at the latest at `wakeAt`. -/
def await (f : Machine → Option (β × Machine)) (wakeAt : Option Nat) : Prog β :=
  .step (fun m => match f m with
    | some (b, m') => .done b m'
    | none => .blocked wakeAt) .pure

/-- Lets other tasks run. -/
def yield : Prog Unit := change id

/-- The clock. -/
def now : Prog Nat := read (·.clock)

/-- Starts a task beside the current one. -/
def spawn (child : Prog Unit) : Prog Unit := .fork child (.pure ())

end Prog

/-- What a task runs under: the execution unit whose termination ends it, a
deadline on the clock, whether it ended before it began, and cancellation
handles any of which ends it. -/
structure Ctx where
  unit : Option String
  deadline : Option Nat
  cancelled : Bool
  handles : List Nat
  deriving Inhabited, Repr

namespace Ctx

/-- A context that never ends. -/
def background : Ctx := ⟨none, none, false, []⟩

/-- The context of an execution unit. -/
def ofUnit (id : String) : Ctx := ⟨some id, none, false, []⟩

/-- A context ending at a deadline. -/
def withDeadline (deadline : Nat) : Ctx := ⟨none, some deadline, false, []⟩

/-- The context with one more cancellation handle, made fresh: the context
and its handle. -/
def withCancel (c : Ctx) : Prog (Ctx × Nat) :=
  Prog.atomic fun m => let (h, m) := m.newCancel; (({ c with handles := c.handles ++ [h] }, h), m)

/-- Why the context ended, if it has. -/
def err? (c : Ctx) (m : Machine) : Option Fault :=
  if c.cancelled || ((c.unit.bind m.unit?).map (·.cancelled)).getD false ||
    c.handles.any m.isCancelled then some .cancelled
  else match c.deadline with
    | some d => if d ≤ m.clock then some .deadlineExceeded else none
    | none => none

/-- The earlier of two optional times. -/
def earlier : Option Nat → Option Nat → Option Nat
  | some a, some b => some (min a b)
  | some a, none => some a
  | none, b => b

/-- A step that happens once `f` allows it, or gives up with the context's
fault once the context ends. It is tried again at the latest at `wakeAt`. -/
def block {β : Type} (c : Ctx) (f : Machine → Option (β × Machine)) (wakeAt : Option Nat) :
    Prog (Except Fault β) :=
  .step (fun m => match f m with
    | some (b, m') => .done (.ok b) m'
    | none => match c.err? m with
      | some e => .done (.error e) m
      | none => .blocked (earlier wakeAt c.deadline)) .pure

/-- Waits `d` nanoseconds, or gives up when the context ends. -/
def sleep (c : Ctx) (d : Nat) : Prog (Except Fault Unit) := do
  let t := (← Prog.now) + d
  c.block (fun m => if t ≤ m.clock then some ((), m) else none) (some t)

end Ctx

end Userland
