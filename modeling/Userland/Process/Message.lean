import Userland.Process.State
import Userland.Json.Basic

namespace Userland

/-! # Messages

Requests between processes and their supervisor. A request names an
operation, the process that sends it, the signal its reply goes to (if it
wants one), and the fields of its operation. A process is started by an `INIT`
message that carries its start payload: what it was created with and the
channels it owns.
-/

/-- A request to create a process. -/
structure CreateRequest where
  path : String
  args : List String
  pipeStdin : Bool
  pipeStdout : Bool
  start : Bool
  cwd : String
  redirectStdin : String
  redirectStdout : String
  terminal : Option String
  deriving Inhabited, Repr

/-- What a process is started with. -/
structure StartPayload where
  pid : Nat
  path : String
  args : List String
  source : List UInt8
  cwd : String
  signal : Nat
  stdin : Nat
  stdout : Nat
  /-- The error pipe; a process without one gets a pipe of its own. -/
  stderr : Option Nat
  pipeStdin : Bool
  pipeStdout : Bool
  redirectStdin : String
  redirectStdout : String
  terminal : Option String
  deriving Inhabited, Repr

/-- A request to the supervisor, or from it to an execution unit. -/
structure Message where
  op : Op
  /-- The sender; the supervisor stamps it on what a unit sends. -/
  pid : Int
  /-- The signal that takes the reply. -/
  signal : Option Nat
  target : Int
  state : String
  code : Int
  outPid : Int
  inPid : Int
  create : Option CreateRequest
  start : Option StartPayload
  /-- Anything outside the core fields; `null` when none. -/
  payload : Json
  deriving Inhabited

namespace Message

/-- A message of an operation with every field empty. -/
def of (op : Op) : Message :=
  { op, pid := 0, signal := none, target := 0, state := "", code := 0, outPid := 0, inPid := 0,
    create := none, start := none, payload := .null }

end Message

end Userland
