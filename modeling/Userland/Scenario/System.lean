import Userland.Task.Supervise
import Userland.Boot.Host
import Userland.Scenario.Client
import Userland.Scenario.Boot

namespace Userland

/-! # System scenarios

The supervisor's loop, a pool of workers running the builtin programs (and,
with `js`, scripts for every other path) and a memory file system, driven by
the host's client. Each step is one call or a few, under a deadline of two
seconds from when the step begins:

* `create` answers the new pid (negative on error) and remembers the new
  process's output pipe;
* `pipe`, `start` and `kill` answer nothing but an error;
* `wait` answers the exit code;
* `run` watches a process, starts it and waits for its code;
* `start_watch` watches and starts, and `await` waits for that watch's code;
* `write_stdin` writes what fits into a process's input and closes it unless told not to;
* `output` reads a remembered output pipe to its end;
* `list` answers the pids and paths of the table;
* `launch` reads a manifest and launches it.

At the end the system runs on for 20 ms and makes one more list call, so that
exits already under way are in. The answer has every step's answer, the exits
sorted, and the files.
-/

namespace Scenario

/-- A system scenario in progress. -/
structure SystemRun where
  world : World
  client : Client
  /-- The output pipe of each process created, by pid. -/
  outputs : List (Int × Nat)
  /-- The signal of each watch started, by pid. -/
  watches : List (Int × Nat)

/-- How long each step may take. -/
def stepDeadline : Nat := 2000000000

namespace SystemRun

/-- Runs a task to its end in the world. -/
def run {α : Type} (s : SystemRun) (task : Ctx → Prog α) : Option α × SystemRun :=
  let ctx : Ctx := Ctx.withDeadline (s.world.machine.clock + stepDeadline)
  match World.runMain World.defaultFuel s.world (task ctx) with
  | (.finished a, w) => (some a, { s with world := w })
  | (.stuck _, w) => (none, { s with world := w })

end SystemRun

/-- An answer with the number of a call under a name, and its error. -/
def numbered (name : String) (a : Answer) : List (String × Json) :=
  errorFields a.error ++ [(name, .int a.num)]

/-- A step of a system scenario. -/
inductive SystemStep where
  | create (req : CreateRequest)
  | pipe (outPid inPid : Int)
  | start (pid : Int)
  | kill (pid : Int)
  | wait (pid : Int)
  | run (pid : Int)
  | startWatch (pid : Int)
  | await (pid : Int)
  | writeStdin (pid : Int) (data : List UInt8) (close : Bool)
  | output (pid : Int)
  | list
  | launch (format : String) (data : String)
  | unknown (name : String)

/-- A step given in JSON. -/
def SystemStep.of (step : Json) : Decode SystemStep := do
  match ← step.getStr "do" with
  | "create" => return .create (← createRequestOf ((step.get? "create").getD (.obj [])))
  | "pipe" => return .pipe (← step.getInt "out") (← step.getInt "in")
  | "start" => return .start (← step.getInt "pid")
  | "kill" => return .kill (← step.getInt "pid")
  | "wait" => return .wait (← step.getInt "pid")
  | "run" => return .run (← step.getInt "pid")
  | "start_watch" => return .startWatch (← step.getInt "pid")
  | "await" => return .await (← step.getInt "pid")
  | "write_stdin" =>
    return .writeStdin (← step.getInt "pid") (← step.getBytes "data") (← step.getBoolOr "close" true)
  | "output" => return .output (← step.getInt "pid")
  | "list" => return .list
  | "launch" => return .launch (← step.getStr "format") (Utf8.decodeLossy (← step.getBytes "data"))
  | other => return .unknown other

/-- Runs one step: its answer (or why it cannot run), and the scenario after it. -/
def systemStep (s : SystemRun) : SystemStep → Except String (List (String × Json)) × SystemRun
  | .create req =>
    match s.run fun ctx => s.client.create ctx req with
    | (none, s) => (.error "step did not finish", s)
    | (some a, s) =>
      let s := match a.error, s.world.machine.table.get? a.num with
        | none, some r => { s with outputs := (a.num, r.stdout) :: s.outputs }
        | _, _ => s
      (.ok (numbered "pid" a), s)
  | .pipe o i => finish (fun ctx => s.client.pipe ctx o i) fun a => errorFields a.error
  | .start pid => finish (fun ctx => s.client.start ctx pid) fun a => errorFields a.error
  | .kill pid => finish (fun ctx => s.client.kill ctx pid) fun a => errorFields a.error
  | .wait pid => finish (fun ctx => s.client.wait ctx pid) (numbered "code")
  | .run pid =>
    finish (fun ctx => do
      match ← s.client.watch pid with
      | .error e => return e.fields
      | .ok sig =>
        let a ← s.client.start ctx pid
        match a.error with
        | some e => return e.fields
        | none => return numbered "code" (← s.client.awaitWatch ctx sig)) id
  | .startWatch pid =>
    let task (ctx : Ctx) : Prog (List (String × Json) × Option Nat) := do
      match ← s.client.watch pid with
      | .error e => return (e.fields, none)
      | .ok sig => return (errorFields (← s.client.start ctx pid).error, some sig)
    match s.run task with
    | (none, s) => (.error "step did not finish", s)
    | (some (fields, sig), s) =>
      let s := match sig with
        | some sig => { s with watches := (pid, sig) :: s.watches }
        | none => s
      (.ok fields, s)
  | .await pid =>
    match s.watches.lookup pid with
    | none => (.error ("no watch on pid " ++ toString pid), s)
    | some sig => finish (fun ctx => s.client.awaitWatch ctx sig) (numbered "code")
  | .writeStdin pid data close =>
    let m := s.world.machine
    match m.table.get? pid with
    | none => (.ok (Fault.fields (.sys (Machine.noSuch .start pid))), s)
    | some r =>
      let (n, m) := match (m.pipe r.stdin).write data with
        | .ok (p, n) => (n, m.setPipe r.stdin p)
        | .error _ => (0, m)
      let m := if close then m.closePipe r.stdin else m
      (.ok [("n", .int n)], { s with world := { s.world with machine := m } })
  | .output pid =>
    match s.outputs.lookup pid with
    | none => (.ok [("hex", hexJson [])], s)
    | some id => finish (fun ctx => ctx.readAllPipe id) fun (data, _) => [("hex", hexJson data)]
  | .list =>
    finish (fun ctx => s.client.listText ctx) fun
      | .error e => e.fields
      | .ok text =>
        match ProcessInfo.decodeListText text with
        | .error _ => [("error", .str "DecodeError")]
        | .ok rows => [("list", .arr (rows.map fun r => .obj [("pid", .int r.pid), ("path", .str r.path)]))]
  | .launch format data =>
    match Boot.Manifest.parse data format with
    | .error e => (.ok (manifestErrorFields e), s)
    | .ok man => finish (fun ctx => Boot.launch (s.client.syscalls ctx) man) launchFields
  | .unknown name => (.error ("unknown system step " ++ Text.quote name), s)
where
  /-- Runs a task and answers with what it gave. -/
  finish {α : Type} (task : Ctx → Prog α) (answer : α → List (String × Json)) :
      Except String (List (String × Json)) × SystemRun :=
    match s.run task with
    | (some a, s) => (.ok (answer a), s)
    | (none, s) => (.error "step did not finish", s)

/-- Runs the steps in order. -/
def systemSteps : SystemRun → List SystemStep → List Json × SystemRun
  | s, [] => ([], s)
  | s, step :: rest =>
    let (r, s) := systemStep s step
    let answer := match r with
      | .ok fs => Json.obj fs
      | .error msg => Json.obj [("step_error", .str msg)]
    let (answers, s) := systemSteps s rest
    (answer :: answers, s)

/-- Whether one exit sorts before another: by pid, then code, path and reason. -/
def exitBefore (a b : ExitEvent) : Bool :=
  if a.pid != b.pid then a.pid < b.pid
  else if a.code != b.code then a.code < b.code
  else if a.path != b.path then a.path < b.path
  else a.reason ≤ b.reason

/-- The system scenario. -/
def system (req : Json) : Decode Json := do
  let c := (req.get? "config").getD (.obj [])
  let config := SupervisorConfig.withDefaults (← c.getInt "max_pid") (← c.getInt "pipe_size")
    (← c.getInt "reply_size") (← c.getBool "require_terminal") (← c.getStr "default_program")
  let files := Files.memory (Memory.ofFiles (← c.getByteMap "files"))
  let js ← c.getBool "js"
  let stackSize := ((← c.getInt? "stack_size").map Int.toNat).getD Script.Config.default.stackSize
  let console ← c.getBoolOr "console" Script.Config.default.console
  let fallback := if js then some (Script.runner ⟨stackSize, console⟩) else none
  let runner := Builtin.dispatch (Builtin.routes fallback)
  let m := Machine.new config .pool files (Builtin.programs.map (·.1))
  let client := Client.ofHost .host m.supervisor.config.replySize
  let s : SystemRun := ⟨World.system m runner true, client, [], []⟩
  let steps ← (← req.getList "steps").mapM SystemStep.of
  let (answers, s) := systemSteps s steps
  let s := { s with world := World.pause World.defaultFuel s.world 20000000 }
  let (_, s) := s.run fun ctx => client.listText ctx
  let m := s.world.machine
  let exits := (m.exits.toList.mergeSort exitBefore).map fun e =>
    Json.obj [("pid", .int e.pid), ("path", .str e.path), ("code", .int e.code), ("reason", .str e.reason)]
  let memFiles := m.files.memoryListing
  return .obj [("steps", .arr answers), ("exits", .arr exits),
    ("files", .obj (memFiles.map fun (p, d) => (p, hexJson d)))]

end Scenario

end Userland
