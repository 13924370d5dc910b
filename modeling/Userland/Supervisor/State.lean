import Userland.Process.Table
import Userland.Process.Message

namespace Userland

/-! # The supervisor's state

The supervisor owns the process table. Besides it, it keeps the processes
created but not yet claimed by an execution unit, oldest first, each with the
signal its creator waits on; the waiters on each process, in the order they
asked; and its inbox of requests and unit announcements, served first in,
first out. Once the inbox is closed nothing more can be put in, but what is in
it is still served.
-/

/-- How the supervisor is set up. -/
structure SupervisorConfig where
  maxPid : Nat
  pipeSize : Nat
  replySize : Nat
  requireTerminal : Bool
  defaultProgram : String
  deriving Inhabited, Repr

namespace SupervisorConfig

/-- The setup with non-positive sizes replaced by the defaults 128, 1024 and 32768. -/
def withDefaults (maxPid pipeSize replySize : Int) (requireTerminal : Bool) (defaultProgram : String) :
    SupervisorConfig :=
  { maxPid := if maxPid ≤ 0 then 128 else maxPid.toNat,
    pipeSize := if pipeSize ≤ 0 then 1024 else pipeSize.toNat,
    replySize := if replySize ≤ 0 then 32768 else replySize.toNat,
    requireTerminal, defaultProgram }

end SupervisorConfig

/-- A created process waiting for an execution unit, and where its creator waits. -/
structure Pending where
  pid : Nat
  signal : Option Nat
  deriving Inhabited, Repr

/-- A process waiting for another to end, and its signal. Pid 0 is the host. -/
structure Waiter where
  pid : Int
  signal : Nat
  deriving Inhabited, Repr

/-- What arrives in the supervisor's inbox. -/
inductive Inbound where
  /-- A request. -/
  | request (m : Message)
  /-- An execution unit offering itself to run the oldest pending process. -/
  | announce (unit : String)
  deriving Inhabited

/-- The supervisor's state. -/
structure Supervisor where
  config : SupervisorConfig
  table : Table
  pending : List Pending
  waiting : List (Nat × List Waiter)
  inbox : List Inbound
  closed : Bool
  deriving Inhabited

namespace Supervisor

/-- A fresh supervisor with an empty table. -/
def new (config : SupervisorConfig) : Supervisor :=
  { config, table := Table.new config.maxPid, pending := [], waiting := [], inbox := [],
    closed := false }

/-- Adds a waiter on a process, after the others. -/
def addWaiter (s : Supervisor) (target : Nat) (w : Waiter) : Supervisor :=
  match s.waiting.lookup target with
  | some ws => { s with waiting := s.waiting.map fun (t, l) => if t = target then (t, ws ++ [w]) else (t, l) }
  | none => { s with waiting := s.waiting ++ [(target, [w])] }

/-- Removes and returns the waiters on a process. -/
def releaseWaiters (s : Supervisor) (target : Nat) : List Waiter × Supervisor :=
  ((s.waiting.lookup target).getD [], { s with waiting := s.waiting.filter (·.1 != target) })

/-- The number of waiters on all processes. -/
def waiterCount (s : Supervisor) : Nat := (s.waiting.map (·.2.length)).foldr (· + ·) 0

end Supervisor

end Userland
