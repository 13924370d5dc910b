import Userland.Supervisor.Load
import Userland.Process.Info
import Userland.Files.Path

namespace Userland

/-! # Serving requests

The supervisor serves its inbox one item at a time, each as one step of the
machine: a request goes to the handler of its operation, an announcement pairs
the unit with the oldest pending process.

A handler answers at once, refuses with an error whose code becomes the reply,
or owes the reply for later: a creation is answered when a unit registers for
the new process, a wait when its target ends, and an exit replies itself. A
handler that crashes is answered with the code for an error from elsewhere, so
no caller is left asleep. Operations the supervisor does not know go back to
the handler the sender's unit had before it registered.

Ending a process frees its slot, answers every waiter on it with the exit code
(a waiter that is itself a process must still be alive with the same signal),
and closes the process's outputs.

The supervisor keeps its metrics as it goes: every request it handles by the
way it went (answered, deferred, refused or crashed), every message handed
back to a unit, the processes created and freed, and how many are live or
waiting for a unit.
-/

/-- An atomic step of the machine. -/
abbrev Act := StateM Machine

/-- What a handler did with a request. -/
inductive Outcome where
  /-- Answer with this reply. -/
  | answer (r : Reply)
  /-- The reply was sent or is owed later. -/
  | deferred
  /-- Answer with the error's code. -/
  | refused (f : Fault)
  /-- The handler crashed. -/
  | crashed

namespace Outcome

/-- A refusal with a protocol error. -/
def error (e : SysError) : Outcome := .refused (.sys e)

end Outcome

namespace Machine

/-- The wall-clock time of a moment on the machine's clock, in UTC. -/
def wallTime (ns : Nat) : Instant := ⟨wallEpoch + (ns / 1000000000 : Nat), ns % 1000000000, 0⟩

/-- The process table. -/
def table (m : Machine) : Table := m.supervisor.table

/-- Replaces the process table. -/
def setTable (m : Machine) (t : Table) : Machine :=
  { m with supervisor := { m.supervisor with table := t } }

/-- The list row of a record, aged by the clock. -/
def info (m : Machine) (r : Record) : ProcessInfo :=
  { pid := r.pid, path := r.path, createdAt := wallTime r.createdAt,
    ageSeconds := ((m.clock - r.createdAt) / 1000000000 : Nat), state := r.state.name }

/-- The error for an operation on a process that is not in the table. -/
def noSuch (op : Op) (pid : Int) : SysError := (SysError.of .noSuchProcess).concerning op.name pid

end Machine

namespace Act

/-- Adds a log entry of the supervisor. -/
def log (level : Level) (msg : String) (fields : List (String × Json)) : Act Unit :=
  modify (·.log level "" msg fields)

/-- Updates the metrics. -/
def measure (f : Monitor.Metrics → Monitor.Metrics) : Act Unit :=
  modify fun m => { m with web := { m.web with metrics := f m.web.metrics } }

/-- Records how many processes wait for a unit. -/
def measurePending : Act Unit := do
  let n := (← get).supervisor.pending.length
  measure (·.setPendingRegistrations n)

/-- Records how many processes are live. -/
def measureLive : Act Unit := do
  let n := (← get).table.records.length
  measure (·.setProcessesLive n)

/-- Replies on a signal, if there is one. -/
def reply (sig : Option Nat) (r : Reply) : Act Unit := modify (·.reply sig r)

/-- Terminates a unit. -/
def terminate (id : String) : Act Unit := modify (·.terminate id)

/-- Offers a unit to the supervisor; a closed inbox terminates it instead. -/
def announce (id : String) : Act Unit := do
  match (← get).submit (.announce id) with
  | .ok m => set m
  | .error _ => terminate id

/-- The id of the `n`-th unit a pool spawns: a UUID whose last group counts. -/
def poolUnitId (n : Nat) : String :=
  let hex := String.ofList (Nat.toDigits 16 n)
  "00000000-0000-4000-9000-" ++ String.ofList (List.replicate (12 - hex.length) '0') ++ hex

/-- Asks the spawner for a new execution unit. -/
def spawn : Act (Except Fault String) := do
  let n := (← get).spawnCalls + 1
  modify fun m => { m with spawnCalls := n }
  match (← get).spawner with
  | .scripted refuse auto =>
    if refuse.contains n then
      modify (·.note (.spawnFailed n))
      return .error (.other ("spawn " ++ toString n ++ " refused"))
    else
      let id := "u" ++ toString n
      modify fun m => (m.addUnit (ExecUnit.fresh id true)).note (.spawned id)
      if auto then announce id
      return .ok id
  | .pool =>
    let id := poolUnitId n
    modify (·.addUnit (ExecUnit.fresh id false))
    return .ok id

/-- Makes the three pipes and the signal a new process owns. -/
def openChannels : Act Endpoints := do
  let cfg := (← get).supervisor.config
  let stdin ← modifyGet (·.newPipe cfg.pipeSize)
  let stdout ← modifyGet (·.newPipe cfg.pipeSize)
  let stderr ← modifyGet (·.newPipe cfg.pipeSize)
  let signal ← modifyGet (·.newSignal cfg.replySize)
  return { stdin, stdout, stderr, signal }

/-- Creates a process for `caller`: loads its program, reserves a slot and
spawns a unit for it. The creator is answered once the unit registers. A caller
that is a live process lends its terminal and working directory to what the
request leaves out. -/
def create (caller : Int) (req : CreateRequest) (sig : Option Nat) : Act Outcome := do
  let m ← get
  let parent := if caller > 0 then m.table.get? caller else none
  let term := req.terminal.orElse fun _ => parent.bind (·.terminal)
  let cwd := if req.cwd = "" then (parent.map (·.cwd)).getD "" else req.cwd
  let cwd := if cwd = "" then "/" else cwd
  let cfg := m.supervisor.config
  let path := if req.path = "" then cfg.defaultProgram else req.path
  if path = "" then return Outcome.error (SysError.invalid "empty program path")
  let path := Path.resolve cwd path
  if cfg.requireTerminal && term.isNone && !(req.pipeStdin && req.pipeStdout) then
    return Outcome.error ((SysError.of .noTerminal).concerning Op.create.name caller)
  match ← modifyGet (·.load path) with
  | .crashed => return .crashed
  | .failed f => return .refused f
  | .source source =>
    if (← get).table.firstFree?.isNone then return Outcome.error (SysError.of .tableFull)
    let ends ← openChannels
    let spec : Spec :=
      { path, source, args := req.args, cwd, terminal := term, pipeStdin := req.pipeStdin,
        pipeStdout := req.pipeStdout, redirectStdin := req.redirectStdin,
        redirectStdout := req.redirectStdout, autostart := req.start }
    let m ← get
    match m.table.allocate spec ends m.clock with
    | .error f => return .refused f
    | .ok (r, t) =>
      set ((m.setTable t) |> fun m =>
        { m with supervisor := { m.supervisor with
          pending := m.supervisor.pending ++ [({ pid := r.pid, signal := sig } : Pending)] } })
      match ← spawn with
      | .error f =>
        modify fun m => { m with supervisor := { m.supervisor with
          pending := m.supervisor.pending.dropLast } }
        modify fun m => match m.table.free r.pid with
          | .ok t => m.setTable t
          | .error _ => m
        return Outcome.error (SysError.external f.message)
      | .ok id =>
        measurePending
        measureLive
        measure (·.recordProcessCreated)
        log .debug "Process created" [("pid", .int r.pid), ("path", .str path),
          ("creator", .int caller), ("unit", .str id)]
        return .deferred

/-- The start payload of a record. -/
def payloadOf (r : Record) : StartPayload :=
  { pid := r.pid, path := r.path, args := r.args, source := r.source, cwd := r.cwd,
    signal := r.signal, stdin := r.stdin, stdout := r.stdout, stderr := some r.stderr,
    pipeStdin := r.pipeStdin, pipeStdout := r.pipeStdout, redirectStdin := r.redirectStdin,
    redirectStdout := r.redirectStdout, terminal := r.terminal }

/-- Delivers a registered process's start payload, exactly once. The record is
marked started before the payload is sent, and stays so if sending fails. -/
def start (r : Record) : Act (Except Fault Unit) := do
  match r.unit with
  | none => return .error (.sys ((SysError.of .noWorkerRegistered).concerning Op.start.name r.pid))
  | some id =>
    let upd := (← get).table.update r.pid fun r =>
      if r.started then .error (.sys ((SysError.of .targetAlreadyStarted).concerning Op.start.name r.pid))
      else .ok { r with started := true }
    match upd with
    | .error f => return .error f
    | .ok t =>
      modify (·.setTable t)
      let r := ((← get).table.get? r.pid).getD r
      match (← get).sendTo id { Message.of .init with start := some (payloadOf r) } with
      | .ok m => set m; return .ok ()
      | .error f =>
        let m ← get
        if (m.unit? id).any (·.scripted) then modify (·.note (.sendFailed id .init))
        return .error (.sys (SysError.external f.message))

/-- Ends a process: frees its slot, answers its waiters with `code`, closes its
outputs and records the exit. -/
def finish (r : Record) (code : Int) (reason : String) : Act Unit := do
  modify fun m => match m.table.setState r.pid .terminating with
    | .ok t => m.setTable t
    | .error _ => m
  match (← get).table.free r.pid with
  | .error f => log .warn "Free failed" [("pid", .int r.pid), ("error", .str f.message)]
  | .ok t =>
    modify (·.setTable t)
    let (ws, s) := (← get).supervisor.releaseWaiters r.pid
    modify fun m => { m with supervisor := s }
    for w in ws do
      let alive := w.pid == 0 || ((← get).table.get? w.pid).any (·.signal == w.signal)
      if alive then reply (some w.signal) (Reply.number code)
      else log .warn "Waiter gone" [("pid", .int r.pid), ("waiter", .int w.pid),
        ("error", .str (SysError.of .waitingProcessVanished).message)]
    modify fun m => (m.closePipe r.stdout).closePipe r.stderr
    log .info "Process exited" [("pid", .int r.pid), ("path", .str r.path), ("code", .int code),
      ("reason", .str reason)]
    measureLive
    measure (·.recordProcessExit reason)
    modify fun m => { m with exits := m.exits.push ⟨r.pid, r.path, code, reason⟩ }

/-- Moves the sender to the named state. -/
def changeState (msg : Message) : Act Outcome := do
  match State.ofName? msg.state with
  | none => return Outcome.error (SysError.unknownState msg.state)
  | some s =>
    match (← get).table.setState msg.pid s with
    | .error f => return .refused f
    | .ok t => modify (·.setTable t); return .answer (Reply.number 0)

/-- Waits for the target to end; the reply is owed until then. -/
def wait (msg : Message) : Act Outcome := do
  match msg.signal with
  | none => return Outcome.error (SysError.invalid "wait without a reply signal")
  | some sig =>
    if msg.target = msg.pid then
      return Outcome.error (SysError.invalid ("pid " ++ toString msg.pid ++ " cannot wait on itself"))
    else if ((← get).table.get? msg.target).isNone then
      return Outcome.error (Machine.noSuch .waitOnPid msg.target)
    else
      modify fun m => { m with supervisor := m.supervisor.addWaiter msg.target.toNat ⟨msg.pid, sig⟩ }
      log .debug "Waiting on process" [("pid", .int msg.pid), ("target", .int msg.target),
        ("waiters", .int (← get).supervisor.waiterCount)]
      return .deferred

/-- Kills the target: its unit is terminated and it ends with code 137. -/
def kill (msg : Message) : Act Outcome := do
  match (← get).table.get? msg.target with
  | none => return Outcome.error (Machine.noSuch .kill msg.target)
  | some r =>
    match r.unit with
    | none => return Outcome.error ((SysError.of .noWorkerRegistered).concerning Op.kill.name msg.target)
    | some id =>
      terminate id
      finish r 137 "kill"
      return .answer (Reply.number 0)

/-- The process list as text. -/
def list : Act Outcome := do
  let m ← get
  return .answer (.text (Utf8.encode (ProcessInfo.encodeList (m.table.records.map m.info))))

/-- Connects one process's output to another's input, before the reader starts. -/
def pipe (msg : Message) : Act Outcome := do
  let t := (← get).table
  match t.get? msg.outPid, t.get? msg.inPid with
  | none, _ => return Outcome.error (Machine.noSuch .pipe msg.outPid)
  | _, none => return Outcome.error (Machine.noSuch .pipe msg.inPid)
  | some o, some i =>
    let notEligible (pid : Nat) := (SysError.of .notPipeEligible).concerning Op.pipe.name pid
    if !o.pipeStdout then return Outcome.error (notEligible o.pid)
    else if !i.pipeStdin then return Outcome.error (notEligible i.pid)
    else
      let upd := t.update i.pid fun r =>
        if r.started then .error (.sys ((SysError.of .targetAlreadyStarted).concerning Op.pipe.name r.pid))
        else .ok { r with stdin := o.stdout }
      match upd with
      | .error f => return .refused f
      | .ok t =>
        modify (·.setTable t)
        log .debug "Processes piped" [("out", .int o.pid), ("in", .int i.pid)]
        return .answer (Reply.number 0)

/-- Starts the target. -/
def startTarget (msg : Message) : Act Outcome := do
  match (← get).table.get? msg.target with
  | none => return Outcome.error (Machine.noSuch .start msg.target)
  | some r =>
    match ← start r with
    | .error f => return .refused f
    | .ok () => return .answer (Reply.number 0)

/-- Ends the sender with its code, answers it, and terminates its unit. -/
def exit (msg : Message) : Act Outcome := do
  match (← get).table.get? msg.pid with
  | none => return Outcome.error (Machine.noSuch .exit msg.pid)
  | some r =>
    finish r msg.code "exit"
    reply msg.signal (Reply.number 0)
    if let some id := r.unit then terminate id
    return .deferred

/-- A unit's own handler: what a played unit is sent is noted, and a worker
logs its process's output. -/
def ownHandler (id : String) (msg : Message) : Act Unit := do
  match (← get).unit? id with
  | none => pure ()
  | some u =>
    if u.scripted then modify (·.note (.forwarded id msg.op msg.pid msg.payload))
    else if msg.op = .log then
      modify (·.log .info id "Process output" [("pid", .int msg.pid), ("entry", msg.payload)])
    else
      modify (·.log .debug id "Unhandled unit message" [("op", .str msg.op.name), ("pid", .int msg.pid)])

/-- Hands an unknown operation back to the sender unit's own handler. -/
def forward (msg : Message) : Act Unit := do
  match ((← get).table.get? msg.pid).bind (·.unit) with
  | none => log .debug "Dropping message" [("op", .str msg.op.name), ("pid", .int msg.pid)]
  | some id =>
    measure (·.recordUnitMessage msg.op.name)
    ownHandler id msg

/-- The handler of a known operation. -/
def handlerFor (msg : Message) : Option (Act Outcome) :=
  match msg.op with
  | .changeState => some (changeState msg)
  | .waitOnPid => some (wait msg)
  | .create => some (match msg.create with
      | some req => create msg.pid req msg.signal
      | none => pure (Outcome.error (SysError.invalid "create without a request")))
  | .kill => some (kill msg)
  | .list => some list
  | .pipe => some (pipe msg)
  | .start => some (startTarget msg)
  | .exit => some (exit msg)
  | _ => none

/-- Answers a request with what its handler returned, and counts it: a deferred
request is answered later, a failure with its code, and a handler that crashed
with the code of an error from elsewhere. -/
def answer (msg : Message) (op : String) : Outcome → Act Unit
  | .deferred => measure (·.recordOp op "deferred" 0)
  | .answer r => do
    reply msg.signal r
    measure (·.recordOp op "ok" 0)
  | .refused f => do
    log .warn "Request failed" [("op", .str op), ("pid", .int msg.pid),
      ("error", .str f.message)]
    reply msg.signal (Reply.errno f.code)
    measure (·.recordOp op "error" 0)
  | .crashed => do
    log .error "Request handler panicked" [("op", .str op), ("pid", .int msg.pid)]
    reply msg.signal (Reply.errno Errno.external.code)
    measure (·.recordOp op "panic" 0)

/-- Serves one request and delivers its reply. -/
def dispatch (msg : Message) : Act Unit := do
  match handlerFor msg with
  | none => forward msg
  | some h =>
    log .debug "Request" [("op", .str msg.op.name), ("pid", .int msg.pid)]
    answer msg msg.op.name (← h)

/-- Pairs an announced unit with the oldest pending process, starts it if it
was created to start, and answers its creator with its pid. A unit with no
pending process is terminated. -/
def register (id : String) : Act Unit := do
  match (← get).supervisor.pending with
  | [] =>
    log .warn "Unit announced without a pending process" [("unit", .str id),
      ("error", .str (SysError.of .noPendingRegistration).message)]
    terminate id
  | p :: rest =>
    modify fun m => { m with supervisor := { m.supervisor with pending := rest } }
    measurePending
    modify (·.installHandler id (.supervisor p.pid))
    match (← get).table.register p.pid id with
    | .error f =>
      log .warn "Registration failed" [("pid", .int p.pid), ("error", .str f.message)]
      terminate id
      reply p.signal (Reply.errno f.code)
    | .ok t =>
      modify (·.setTable t)
      let started ← match (← get).table.get? p.pid with
        | some r => if r.autostart then start r else pure (.ok ())
        | none => pure (.error Table.noSuch)
      if let .error f := started then
        log .warn "Autostart failed" [("pid", .int p.pid), ("error", .str f.message)]
      log .debug "Process registered" [("pid", .int p.pid), ("unit", .str id)]
      reply p.signal (Reply.number p.pid)

/-- Serves one item of the inbox, if there is one; says whether there was. -/
def serveOne : Act Bool := do
  match (← get).supervisor.inbox with
  | [] => return false
  | item :: rest =>
    modify fun m => { m with supervisor := { m.supervisor with inbox := rest } }
    match item with
    | .request msg => dispatch msg
    | .announce id => register id
    return true

/-- Serves the inbox until it is empty, at most `fuel` items. -/
def drain : Nat → Act Unit
  | 0 => pure ()
  | fuel + 1 => do
    if ← serveOne then drain fuel

/-- A scripted supervisor's answer to what a unit (if any) posts: it records the
message and, when the message wants a reply, takes the next answer of its
script (replying 0 once the script runs out). After answering an exit it
terminates the unit, unless told to keep it. -/
def scripted (id : Option String) (msg : Message) : Act (Except Fault Unit) := do
  modify fun m => { m with script := { m.script with posted := m.script.posted.push msg } }
  match msg.signal with
  | none => return .ok ()
  | some sig =>
    let item := (← get).script.items.headD ⟨.answer, false⟩
    modify fun m => { m with script := { m.script with items := m.script.items.drop 1 } }
    let answerWith (r : Reply) : Act Unit :=
      modify fun m => let s := m.signal sig; m.setSignal sig ((s.write? r).getD s).wake
    let result : Except Fault Unit ← match item.action with
      | .reply r => do answerWith r; pure (.ok ())
      | .answer => do answerWith (Reply.number 0); pure (.ok ())
      | .wakeOnly => do modify (fun m => m.setSignal sig (m.signal sig).wake); pure (.ok ())
      | .silent => pure (.ok ())
      | .refuse text => pure (.error (.other text))
    if let some id := id then
      if item.terminate then terminate id
      if result matches .ok () then
        if msg.op = .exit && !(← get).script.keepAlive then terminate id
    return result

/-- What a unit's process posts, through the handler the unit has: its own;
the supervisor's, which stamps the process's pid and queues it (answering with
the code for an error from elsewhere when the inbox is closed); or a scripted
supervisor's. Only a scripted supervisor can refuse a message. -/
def post (id : String) (msg : Message) : Act (Except Fault Unit) := do
  match (← get).unit? id with
  | none => return .ok ()
  | some u =>
    match u.handler with
    | .own => ownHandler id msg; return .ok ()
    | .script => scripted (some id) msg
    | .supervisor pid =>
      match (← get).submit (.request { msg with pid := pid }) with
      | .ok m => set m; return .ok ()
      | .error _ => reply msg.signal (Reply.errno Errno.external.code); return .ok ()

end Act

end Userland
