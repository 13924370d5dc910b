namespace Userland

/-! # Process states and request kinds

A process is `STARTING` until it first runs, then moves between `RUNNING` and
`SLEEPING`, and ends in `TERMINATING`, which it never leaves. Requests between
processes and their supervisor are named by an operation; names outside the
known set travel as they are.
-/

/-- The life stage of a process. -/
inductive State where
  | starting
  | running
  | sleeping
  | terminating
  deriving DecidableEq, Repr, Inhabited

namespace State

/-- The state's name on the wire. -/
def name : State → String
  | .starting => "STARTING"
  | .running => "RUNNING"
  | .sleeping => "SLEEPING"
  | .terminating => "TERMINATING"

/-- The state a name denotes; names are matched exactly, case included. -/
def ofName? : String → Option State
  | "STARTING" => some .starting
  | "RUNNING" => some .running
  | "SLEEPING" => some .sleeping
  | "TERMINATING" => some .terminating
  | _ => none

/-- Whether a process may move from one state to another: a starting process may
run or terminate, a running or sleeping one may run, sleep or terminate, and a
terminating one goes nowhere. -/
def canMove : State → State → Bool
  | .starting, next => next == .running || next == .terminating
  | .running, next => next != .starting
  | .sleeping, next => next != .starting
  | .terminating, _ => false

end State

/-- Whether a move between two state names is allowed; an unknown name allows nothing. -/
def canMoveNamed (src dst : String) : Bool :=
  match State.ofName? src, State.ofName? dst with
  | some a, some b => a.canMove b
  | _, _ => false

/-- The operation a request asks for. -/
inductive Op where
  | changeState
  | waitOnPid
  | create
  | kill
  | list
  | pipe
  | start
  | exit
  /-- Hands a process its start payload. -/
  | init
  /-- A log entry from a program's console. -/
  | log
  /-- Any other name, passed on as it is. -/
  | other (name : String)
  deriving DecidableEq, Repr, Inhabited

namespace Op

/-- The operation's name on the wire. -/
def name : Op → String
  | .changeState => "CHANGE_STATE"
  | .waitOnPid => "WAIT_ON_PID"
  | .create => "CREATE_PROCESS"
  | .kill => "KILL_PROCESS"
  | .list => "GET_PROCESS_LIST"
  | .pipe => "PIPE_PROCESSES"
  | .start => "START_PROCESS"
  | .exit => "EXIT_PROCESS"
  | .init => "INIT"
  | .log => "LOG"
  | .other n => n

/-- The operation a name denotes. -/
def ofName (s : String) : Op :=
  match s with
  | "CHANGE_STATE" => .changeState
  | "WAIT_ON_PID" => .waitOnPid
  | "CREATE_PROCESS" => .create
  | "KILL_PROCESS" => .kill
  | "GET_PROCESS_LIST" => .list
  | "PIPE_PROCESSES" => .pipe
  | "START_PROCESS" => .start
  | "EXIT_PROCESS" => .exit
  | "INIT" => .init
  | "LOG" => .log
  | n => .other n

end Op

end Userland
