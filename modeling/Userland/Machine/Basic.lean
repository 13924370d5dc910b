import Userland.Supervisor.State
import Userland.Signal.Basic
import Userland.Files.Mount
import Userland.Log.Entry
import Userland.Web.Shared
import Userland.Web.Socket
import Userland.Terminal.Session

namespace Userland

/-! # The machine

Everything the supervisor, the execution units and a server in front of them
share: the pipes and signals by number, the execution units, the supervisor,
the file system, the terminals, the server's shared state and its message
connections, cancellation handles and counters, the clock (in nanoseconds), and what has
been observed so far: log entries, ended processes, what was done to
execution units and what tasks run in the background answered.

An execution unit runs one process at a time for the supervisor. It has a
handler for what its process sends (its own, the supervisor's, or a scripted
supervisor's), a mailbox of messages for it, and a context that is cancelled
when it is terminated. Some units are played by a scenario instead of running
programs; those report what was done to them.
-/

/-- A process that left the table, and why: `exit` or `kill`. -/
structure ExitEvent where
  pid : Nat
  path : String
  code : Int
  reason : String
  deriving Inhabited, Repr

/-- What was done to an execution unit that a scenario plays. -/
inductive UnitEvent where
  | spawned (unit : String)
  | spawnFailed (call : Nat)
  | handlerInstalled (unit : String)
  | sent (unit : String) (op : Op) (start : Option StartPayload)
  | sendFailed (unit : String) (op : Op)
  | terminated (unit : String)
  | forwarded (unit : String) (op : Op) (pid : Int) (payload : Json)
  deriving Inhabited

/-- Where what a unit's process sends goes. -/
inductive Handler where
  /-- The unit's own handler. -/
  | own
  /-- The supervisor, stamped with the process the unit runs. -/
  | supervisor (pid : Nat)
  /-- A scripted supervisor. -/
  | script
  deriving DecidableEq, Inhabited, Repr

/-- An execution unit. -/
structure ExecUnit where
  id : String
  handler : Handler
  /-- Whether a scenario plays this unit. -/
  scripted : Bool
  /-- A played unit that crashed: sending to it fails. -/
  dead : Bool
  mailbox : List Message
  mailboxClosed : Bool
  /-- Whether the unit's context was cancelled. -/
  cancelled : Bool
  /-- Whether the unit's worker is running. -/
  launched : Bool
  /-- The start payload the unit was sent, if any. -/
  payload : Option StartPayload
  deriving Inhabited

namespace ExecUnit

/-- A fresh unit with its own handler. -/
def fresh (id : String) (scripted : Bool) : ExecUnit :=
  { id, handler := .own, scripted, dead := false, mailbox := [], mailboxClosed := false,
    cancelled := false, launched := false, payload := none }

end ExecUnit

/-- How execution units are made. -/
inductive Spawner where
  /-- Units a scenario plays; spawn call `n` (from 1) fails when listed, and the
  units announce themselves at once when asked to. -/
  | scripted (refuse : List Nat) (autoAnnounce : Bool)
  /-- Workers that run programs. -/
  | pool
  deriving Inhabited

/-- Failures a scenario plants in the file system that programs are loaded from:
by path, the message an open, read or close fails with, and the paths whose open crashes. -/
structure LoadFaults where
  onOpen : List (String × String)
  onRead : List (String × String)
  onClose : List (String × String)
  crashOnOpen : List String
  deriving Inhabited

/-- How a scripted supervisor answers a request that wants a reply. -/
inductive ScriptAction where
  /-- Write this reply and wake the caller. -/
  | reply (r : Reply)
  /-- Wake the caller without a reply. -/
  | wakeOnly
  /-- Do nothing. -/
  | silent
  /-- Refuse the request: posting it fails with this text. -/
  | refuse (msg : String)
  /-- Reply with the number 0. -/
  | answer
  deriving Inhabited

/-- One answer of a scripted supervisor, and whether it then terminates the unit. -/
structure ScriptItem where
  action : ScriptAction
  terminate : Bool
  deriving Inhabited

/-- A scripted supervisor: the answers it gives, in order, what it was sent,
and whether it leaves a unit running after answering its exit. -/
structure Script where
  items : List ScriptItem
  posted : Array Message
  keepAlive : Bool
  deriving Inhabited

/-- A terminal: what was typed and not yet read, and what was printed. -/
structure Terminal where
  id : String
  input : List UInt8
  output : Array UInt8
  closed : Bool
  deriving Inhabited

/-- The epoch of the machine's wall clock, in seconds since 1970. -/
def wallEpoch : Int := 1700000000

/-- The shared state of supervisor and units. -/
structure Machine where
  clock : Nat
  pipes : Array Ring
  signals : Array Signal
  units : Array ExecUnit
  supervisor : Supervisor
  spawner : Spawner
  spawnCalls : Nat
  files : Files
  faults : LoadFaults
  /-- Patterns of the program paths that need no source. -/
  builtins : List String
  script : Script
  terminals : List Terminal
  /-- Terminal sessions a client opens and processes can use. -/
  sessions : Terminal.Manager
  /-- What the server in front of the supervisor shares across requests. -/
  web : Web.Shared
  /-- Message connections, by number. -/
  sockets : Array Web.Socket
  /-- Cancellation handles, by number: whether each was cancelled. -/
  cancels : Array Bool
  /-- Counters tasks count down to tell others they are done, by number. -/
  counters : Array Nat
  logs : Array LogEntry
  exits : Array ExitEvent
  trace : Array UnitEvent
  /-- Answers of tasks run in the background, by name. -/
  outcomes : List (String × Json)
  deriving Inhabited

namespace Machine

/-- A machine with nothing in it but a supervisor. -/
def new (config : SupervisorConfig) (spawner : Spawner) (files : Files) (builtins : List String) :
    Machine :=
  { clock := 0, pipes := #[], signals := #[], units := #[], supervisor := Supervisor.new config,
    spawner, spawnCalls := 0, files, faults := ⟨[], [], [], []⟩, builtins,
    script := ⟨[], #[], false⟩, terminals := [], sessions := Terminal.Manager.empty,
    web := Web.Shared.empty, sockets := #[], cancels := #[], counters := #[], logs := #[],
    exits := #[], trace := #[], outcomes := [] }

/-! ## Channels -/

/-- Makes a pipe of the given capacity. -/
def newPipe (m : Machine) (cap : Nat) : Nat × Machine :=
  (m.pipes.size, { m with pipes := m.pipes.push (Ring.new cap) })

/-- The pipe of a number. -/
def pipe (m : Machine) (id : Nat) : Ring := m.pipes[id]?.getD (Ring.new 1)

/-- Replaces the pipe of a number. -/
def setPipe (m : Machine) (id : Nat) (r : Ring) : Machine := { m with pipes := m.pipes.set! id r }

/-- Closes a pipe; closing a closed pipe changes nothing. -/
def closePipe (m : Machine) (id : Nat) : Machine :=
  match (m.pipe id).close with
  | .ok r => m.setPipe id r
  | .error _ => m

/-- Makes a signal with room for replies of the given size. -/
def newSignal (m : Machine) (size : Nat) : Nat × Machine :=
  (m.signals.size, { m with signals := m.signals.push (Signal.new size) })

/-- The signal of a number. -/
def signal (m : Machine) (id : Nat) : Signal := m.signals[id]?.getD (Signal.new 1)

/-- Replaces the signal of a number. -/
def setSignal (m : Machine) (id : Nat) (s : Signal) : Machine := { m with signals := m.signals.set! id s }

/-! ## Terminals -/

/-- The terminal of an id. -/
def terminal? (m : Machine) (id : String) : Option Terminal := m.terminals.find? (·.id == id)

/-- Changes the terminal of an id. -/
def updateTerminal (m : Machine) (id : String) (f : Terminal → Terminal) : Machine :=
  { m with terminals := m.terminals.map fun t => if t.id == id then f t else t }

/-! ## Message connections -/

/-- Opens a connection whose opening request is not answered yet. -/
def newSocket (m : Machine) : Nat × Machine :=
  (m.sockets.size, { m with sockets := m.sockets.push Web.Socket.dialing })

/-- The connection of a number. -/
def socket (m : Machine) (id : Nat) : Web.Socket := m.sockets[id]?.getD Web.Socket.dialing

/-- Changes the connection of a number. -/
def updateSocket (m : Machine) (id : Nat) (f : Web.Socket → Web.Socket) : Machine :=
  { m with sockets := m.sockets.modify id f }

/-! ## Cancellation -/

/-- Makes a cancellation handle, not cancelled. -/
def newCancel (m : Machine) : Nat × Machine := (m.cancels.size, { m with cancels := m.cancels.push false })

/-- Cancels a handle. -/
def cancel (m : Machine) (id : Nat) : Machine := { m with cancels := m.cancels.set! id true }

/-- Whether a handle was cancelled. -/
def isCancelled (m : Machine) (id : Nat) : Bool := m.cancels[id]?.getD false

/-! ## Counters -/

/-- Makes a counter starting at `n`. -/
def newCounter (m : Machine) (n : Nat) : Nat × Machine :=
  (m.counters.size, { m with counters := m.counters.push n })

/-- The value of a counter. -/
def counter (m : Machine) (id : Nat) : Nat := m.counters[id]?.getD 0

/-- Counts a counter down by one, stopping at zero. -/
def countDown (m : Machine) (id : Nat) : Machine := { m with counters := m.counters.modify id (· - 1) }

/-! ## Observation -/

/-- Adds a log entry. -/
def log (m : Machine) (level : Level) (logger msg : String) (fields : List (String × Json)) : Machine :=
  { m with logs := m.logs.push ⟨level, logger, msg, fields⟩ }

/-- Notes what was done to a played unit. -/
def note (m : Machine) (e : UnitEvent) : Machine := { m with trace := m.trace.push e }

/-! ## Units -/

/-- The unit of an id. -/
def unit? (m : Machine) (id : String) : Option ExecUnit := m.units.find? (·.id == id)

/-- Changes the unit of an id. -/
def updateUnit (m : Machine) (id : String) (f : ExecUnit → ExecUnit) : Machine :=
  { m with units := m.units.map fun u => if u.id == id then f u else u }

/-- Adds a unit. -/
def addUnit (m : Machine) (u : ExecUnit) : Machine := { m with units := m.units.push u }

/-- Installs a handler for what a unit's process sends. -/
def installHandler (m : Machine) (id : String) (h : Handler) : Machine :=
  let m := m.updateUnit id fun u => { u with handler := h }
  match m.unit? id with
  | some u => if u.scripted then m.note (.handlerInstalled id) else m
  | none => m

/-- Terminates a unit: its context is cancelled and its mailbox closed. -/
def terminate (m : Machine) (id : String) : Machine :=
  let m := m.updateUnit id fun u => { u with cancelled := true, mailboxClosed := true }
  match m.unit? id with
  | some u => if u.scripted then m.note (.terminated id) else m
  | none => m

/-- Sends a message to a unit; a closed mailbox, or a played unit that crashed, refuses it. -/
def sendTo (m : Machine) (id : String) (msg : Message) : Except Fault Machine :=
  match m.unit? id with
  | none => .error .mailboxClosed
  | some u =>
    if u.scripted then
      if u.dead then .error (.other ("unit " ++ id ++ " is gone"))
      else
        let m := m.updateUnit id fun u => { u with payload := msg.start.orElse fun _ => u.payload }
        .ok (m.note (.sent id msg.op msg.start))
    else if u.mailboxClosed then .error .mailboxClosed
    else .ok (m.updateUnit id fun u => { u with mailbox := u.mailbox ++ [msg] })

/-! ## Replies -/

/-- Writes a reply to a signal and wakes it. A reply that does not fit is
dropped, and the code for an error from elsewhere is written in its place if
that fits. -/
def reply (m : Machine) (sig : Option Nat) (r : Reply) : Machine :=
  match sig with
  | none => m
  | some id =>
    let s := m.signal id
    let (s, m) := match s.write? r with
      | some s' => (s', m)
      | none =>
        let m := m.log .warn "" "Reply dropped" [("error", .str Fault.replyTooLarge.message)]
        ((s.write? (Reply.errno Errno.external.code)).getD s, m)
    m.setSignal id s.wake

/-! ## Supervisor inbox -/

/-- Puts an item in the supervisor's inbox; a closed inbox refuses it. -/
def submit (m : Machine) (item : Inbound) : Except Fault Machine :=
  if m.supervisor.closed then .error .mailboxClosed
  else .ok { m with supervisor := { m.supervisor with inbox := m.supervisor.inbox ++ [item] } }

/-- Closes the supervisor's inbox. -/
def closeInbox (m : Machine) : Machine := { m with supervisor := { m.supervisor with closed := true } }

end Machine

end Userland
