import Userland.Text.Quoted

namespace Userland

/-! # Error codes of the process protocol

Each error a process request can end in has a negative code that travels in an
error reply. A code that is not one of these reads back as `unknown`, with a
message that names the code. The text of an error names the operation and the
process it concerns, when it concerns one.
-/

/-- The errors of the process protocol. -/
inductive Errno where
  | noWorkerRegistered
  | noSuchProcess
  | waitingProcessVanished
  | unknownProcessState
  | noTerminal
  | noPendingRegistration
  | tableFull
  | external
  | unknown
  | notPipeEligible
  | targetAlreadyStarted
  | programNotFound
  | invalidArguments
  deriving DecidableEq, Repr, Inhabited

namespace Errno

/-- Every error, in order of code from -1 down. -/
def all : List Errno :=
  [.noWorkerRegistered, .noSuchProcess, .waitingProcessVanished, .unknownProcessState,
   .noTerminal, .noPendingRegistration, .tableFull, .external, .unknown, .notPipeEligible,
   .targetAlreadyStarted, .programNotFound, .invalidArguments]

/-- The wire code. -/
def code : Errno → Int
  | .noWorkerRegistered => -1
  | .noSuchProcess => -2
  | .waitingProcessVanished => -3
  | .unknownProcessState => -4
  | .noTerminal => -5
  | .noPendingRegistration => -6
  | .tableFull => -7
  | .external => -8
  | .unknown => -9
  | .notPipeEligible => -10
  | .targetAlreadyStarted => -15
  | .programNotFound => -16
  | .invalidArguments => -17

/-- The standard text. -/
def text : Errno → String
  | .noWorkerRegistered => "no execution unit registered"
  | .noSuchProcess => "no such process"
  | .waitingProcessVanished => "waiting process vanished"
  | .unknownProcessState => "unknown process state"
  | .noTerminal => "process requires a terminal"
  | .noPendingRegistration => "no pending process to register"
  | .tableFull => "process table full"
  | .external => "external error"
  | .unknown => "unknown error"
  | .notPipeEligible => "process not set up for piping"
  | .targetAlreadyStarted => "process already started"
  | .programNotFound => "program not found"
  | .invalidArguments => "invalid arguments"

/-- The name the error goes by in reports. -/
def name : Errno → String
  | .noWorkerRegistered => "NoWorkerRegistered"
  | .noSuchProcess => "NoSuchProcess"
  | .waitingProcessVanished => "WaitingProcessVanished"
  | .unknownProcessState => "UnknownProcessState"
  | .noTerminal => "NoTerminal"
  | .noPendingRegistration => "NoPendingRegistration"
  | .tableFull => "TableFull"
  | .external => "External"
  | .unknown => "Unknown"
  | .notPipeEligible => "NotPipeEligible"
  | .targetAlreadyStarted => "TargetAlreadyStarted"
  | .programNotFound => "ProgramNotFound"
  | .invalidArguments => "InvalidArguments"

/-- The error of a code, if it is one of the listed codes. -/
def ofCode? (c : Int) : Option Errno := all.find? (·.code == c)

end Errno

/-- An error of the process protocol: its code, its text, and the operation and
process it concerns (an empty operation and pid 0 when it concerns none). -/
structure SysError where
  errno : Errno
  msg : String
  op : String
  pid : Int
  deriving DecidableEq, Repr, Inhabited

namespace SysError

/-- The error with its standard text, concerning no operation. -/
def of (e : Errno) : SysError := ⟨e, e.text, "", 0⟩

/-- The same error with another text. -/
def withMsg (e : SysError) (msg : String) : SysError := { e with msg := msg }

/-- The same error, concerning operation `op` of process `pid`. -/
def concerning (e : SysError) (op : String) (pid : Int) : SysError := { e with op := op, pid := pid }

/-- The error's text: `OP pid N: text`, `OP: text`, or the text alone. -/
def message (e : SysError) : String :=
  if e.op ≠ "" && e.pid > 0 then e.op ++ " pid " ++ toString e.pid ++ ": " ++ e.msg
  else if e.op ≠ "" then e.op ++ ": " ++ e.msg
  else e.msg

/-- The error a code in a reply stands for: none for a code of zero or more, the
listed error for a listed code, else `unknown` naming the code. -/
def ofCode? (c : Int) : Option SysError :=
  if c ≥ 0 then none
  else match Errno.ofCode? c with
    | some e => some (of e)
    | none => some ((of .unknown).withMsg ("unknown error code " ++ toString c))

/-- The protocol's wrapper for an error from elsewhere, keeping its text. -/
def external (msg : String) : SysError := (of .external).withMsg msg

/-- An invalid-arguments error with the given text. -/
def invalid (msg : String) : SysError := (of .invalidArguments).withMsg msg

/-- The error for a state name that is none of the four. -/
def unknownState (s : String) : SysError :=
  (of .unknownProcessState).withMsg ("unknown process state " ++ Text.quote s)

end SysError

end Userland
