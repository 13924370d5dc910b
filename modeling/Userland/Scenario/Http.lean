import Userland.Daemon.Startup
import Userland.Service.Remote
import Userland.Scenario.Exchange
import Userland.Scenario.Labels
import Userland.Scenario.Client
import Userland.Task.Supervise
import Userland.Files.Dir
import Userland.Script.Run
import Userland.Log.Logger

namespace Userland

/-! # HTTP scenarios

The whole service runs in a world: the supervisor's loop, a pool whose
workers run the builtin programs and scripts for every other path, and the
programs under a fresh program root (or, when the root cannot be made, an
empty memory file system). The scenario's steps, in order, are:

* an HTTP request served directly, under a context that may have a deadline
  or be cancelled already;
* `sleep_ms`, a pause of at most 500 ms;
* `wait_exit`, waiting at most two seconds for a pid to leave the table;
* `await`, the answer of a step run in the background under a name, waited
  for at most three seconds;
* `term_output`, draining a terminal's output every 10 ms until it has been
  empty three times in a row, at most 60 times;
* `ws`, a message connection to a process: the frames sent back are summed
  up until the server closes, at most three seconds;
* `client`, a call through the remote client.

Any step may run in the background under a name instead; it then answers
with the name after 50 ms. Terminal labels in a request's path, body and
header values stand for the terminals' ids. Answers show every id as its
label, times as placeholders, and the terminal list in the order of labels.
-/

namespace Scenario

open Web Service Host

/-- The address the scenarios' server is reached at. -/
def serverBase : String := "http://127.0.0.1:8000"

/-- The host and port of the scenarios' server. -/
def serverAddress : String := "127.0.0.1:8000"

/-- Nanoseconds in a millisecond. -/
def millis : Nat := 1000000

/-- The service's settings for a scenario's configuration. -/
def serviceConfig (c : Json) : Decode Daemon.Config := do
  let d := Daemon.Config.default
  let rl := (c.get? "rate_limit").getD (.obj [])
  let origins ← match c.get? "cors_origins" with
    | some (.arr _) => c.getStrs "cors_origins"
    | _ => pure d.corsOrigins
  return { d with
    port := ← c.getStrOr "port" "0", host := ← c.getStrOr "host" "127.0.0.1",
    corsOrigins := origins,
    maxPid := ← c.getIntOr "max_pid" d.maxPid, pipeSize := ← c.getIntOr "pipe_size" d.pipeSize,
    signalSize := ← c.getIntOr "signal_size" d.signalSize,
    requireTty := ← c.getBool "require_tty",
    defaultProgram := ← c.getStrOr "default_program" d.defaultProgram,
    stackSize := ← c.getIntOr "stack_size" d.stackSize,
    enableConsole := ← c.getBoolOr "console" d.enableConsole,
    logLevel := ← c.getStrOr "log_level" d.logLevel, logDev := ← c.getBool "dev",
    rateLimitEnabled := ← rl.getBoolOr "enabled" d.rateLimitEnabled,
    rateLimitRps := ← rl.getIntOr "rps" d.rateLimitRps,
    rateLimitBurst := ← rl.getIntOr "burst" d.rateLimitBurst }

/-- The scratch directory a scenario writes under. -/
def scratchPath : HostPath := ["<dir>"]

/-- A host tree with the scenario's programs and the program root's path: a
fresh directory holding the files, or, with `noRoot`, a path below a regular file. -/
def programTree (files : List (String × List UInt8)) (noRoot : Bool) : HostTree × String :=
  let base : HostTree := ⟨[(scratchPath, .dir 0o700)]⟩
  if noRoot then
    (base.put (scratchPath ++ ["file"]) (.file 0o644 ByteArray.empty),
      showPath (scratchPath ++ ["file", "root"]))
  else
    let root := scratchPath ++ ["root"]
    let t := base.put root (.dir 0o755)
    let t := files.foldl (fun t (p, data) =>
      let q := root ++ pathOf p
      let t := match t.mkdirAll q.dropLast 0o755 with
        | .ok t => t
        | .error _ => t
      match t.openWrite q true with
      | .ok (q, t) => t.writeAt q 0 ⟨data.toArray⟩
      | .error _ => t) t
    (t, showPath root)

/-- The file system the service reads programs from: the program root, or
an empty memory file system when the root cannot be made. -/
def programFiles (tree : HostTree) (root : String) : Files :=
  match DirFs.new tree root with
  | .ok d => .dir d
  | .error _ => .memory (Memory.ofFiles [])

/-- An HTTP scenario in progress: the service's settings, the world it runs
in, the host's client its handlers call through, and the terminal ids seen. -/
structure HttpRun where
  cfg : Daemon.Config
  world : World
  client : Client
  labels : Labels

namespace HttpRun

/-- How the scenario's server takes a request. -/
def exchange (s : HttpRun) : Exchange := fun ctx sock req => respond s.cfg ⟨s.client, ctx, sock⟩ req

/-- Runs a task to its end in the world. -/
def run {α : Type} (s : HttpRun) (task : Prog α) : Option α × HttpRun :=
  match World.runMain World.defaultFuel s.world task with
  | (.finished a, w) => (some a, { s with world := w })
  | (.stuck _, w) => (none, { s with world := w })

end HttpRun

/-- A value with every label in its texts replaced by the id it stands for. -/
def substituteJson (l : Labels) : Nat → Json → Json
  | 0, j => j
  | _ + 1, .str s => .str (l.substitute s)
  | fuel + 1, .arr xs => .arr (xs.map (substituteJson l fuel))
  | fuel + 1, .obj fs => .obj (fs.map fun (k, v) => (k, substituteJson l fuel v))
  | _, j => j

/-- A request step with the labels in its path, body and header values replaced. -/
def withIds (l : Labels) (step : Json) : Json :=
  match step with
  | .obj fs => .obj (fs.map fun (k, v) =>
      if k == "path" || k == "body" || k == "headers" then (k, substituteJson l 1000 v) else (k, v))
  | j => j

/-- Whether a sample line of the text exposition is left out of answers: it
depends on time, on the exposition request itself or on output chunking. -/
def unstableSample (line : String) : Bool :=
  ["duration", "uptime", "response_size", "path=\"/metrics\"", "type=\"output\""].any fun part =>
    (line.splitOn part).length > 1

/-- The sample lines of the service's own metrics in an exposition. -/
def sampleLines (text : String) : List String :=
  (text.splitOn "\n").filter fun l => l.startsWith "procman_" && !unstableSample l

/-- A response as an answer; an exposition shows its stable sample lines. -/
def serviceResponseJson (req : Request) (resp : Response) : Json :=
  let base := responseJson req resp
  if (resp.headers.get "Content-Type").startsWith "text/plain; version=" then
    match base with
    | .obj fs => .obj ((fs.filter (·.1 != "text")) ++
        [("metrics", Json.strs (sampleLines (Utf8.decodeLossy resp.body)))])
    | j => j
  else base

/-- A plain GET request from the default peer. -/
def getRequest (target : String) : Request :=
  { method := "GET", target, headers := [], remote := "192.0.2.1:1234", host := "example.com",
    body := [], contentLength := 0, bodyFails := false }

/-- A request step: served under a context with the step's deadline, or
cancelled before it begins. -/
def requestTask (x : Exchange) (req : Request) (timeout : Option Int) (cancelled : Bool) : Prog Json := do
  let now ← Prog.now
  let ctx : Ctx := ⟨none, timeout.map fun t => now + t.toNat * millis, cancelled, []⟩
  return serviceResponseJson req (← x ctx none req)

/-- A pause of at most 500 ms. -/
def sleepTask (ms : Int) : Prog Json := do
  let _ ← Ctx.background.sleep ((min ms 500).toNat * millis)
  return .obj [("slept", .bool true)]

/-- Waits at most two seconds for a pid to leave the table. -/
def waitExitTask (pid : Int) : Prog Json := do
  let t := (← Prog.now) + 2000 * millis
  let gone ← Prog.await (fun m =>
    if (m.table.get? pid).isNone then some (true, m)
    else if t ≤ m.clock then some (false, m) else none) (some t)
  return .obj [("gone", .bool gone)]

/-- The answer of a step run in the background under a name, waited for at
most three seconds. -/
def awaitTask (name : String) : Prog Json := do
  let t := (← Prog.now) + 3000 * millis
  Prog.await (fun m =>
    match m.outcomes.lookup name with
    | some j => some (j, m)
    | none => if t ≤ m.clock then some (.obj [("timed_out", .bool true)], m) else none) (some t)

/-- The `data` text of a JSON body, empty when it has none. -/
def bodyData (resp : Response) : String :=
  match Json.parse (Utf8.decodeLossy resp.body) with
  | .ok j =>
    match j.get? "data" with
    | some (.str s) => s
    | _ => ""
  | .error _ => ""

/-- Drains a terminal's output at most `fuel` more times: the last status and
everything drained. -/
def drainRounds (x : Exchange) (id : String) : Nat → Nat → Nat → String → Prog (Nat × String)
  | 0, _, status, data => return (status, data)
  | fuel + 1, empties, _, data => do
    let resp ← x Ctx.background none (getRequest ("/terminals/" ++ id ++ "/output"))
    let chunk := bodyData resp
    let empties := if chunk.isEmpty then empties + 1 else 0
    if empties ≥ 3 then return (resp.status, data ++ chunk)
    let _ ← Ctx.background.sleep (10 * millis)
    drainRounds x id fuel empties resp.status (data ++ chunk)

/-- Drains a terminal's output until it has been empty three times in a row. -/
def termOutputTask (x : Exchange) (id : String) : Prog Json := do
  let (status, data) ← drainRounds x id 60 0 0 ""
  return .obj [("status", .int status), ("data", .str data)]

/-- What a client made of the frames of a connection. -/
structure Summary where
  stdout : String
  stderr : String
  eofs : List String
  errors : List String
  pongs : Nat
  exit : Option Int
  other : List String
  timedOut : Bool

namespace Summary

/-- Nothing read yet. -/
def empty : Summary := ⟨"", "", [], [], 0, none, [], false⟩

/-- Adds one frame. -/
def add (s : Summary) (f : Frame) : Summary :=
  if f.type == "output" then
    if f.stream == "stderr" then { s with stderr := s.stderr ++ Utf8.decodeLossy f.data }
    else { s with stdout := s.stdout ++ Utf8.decodeLossy f.data }
  else if f.type == "eof" then { s with eofs := s.eofs ++ [f.stream] }
  else if f.type == "error" then { s with errors := s.errors ++ [f.message] }
  else if f.type == "pong" then { s with pongs := s.pongs + 1 }
  else if f.type == "exit" then { s with exit := some (f.code.getD 0) }
  else { s with other := s.other ++ [f.type] }

/-- The summary as an answer, with what the client learned of the attached pid. -/
def toJson (s : Summary) (attached : Json) : Json :=
  .obj ([("attached", attached), ("stdout", .str s.stdout), ("stderr", .str s.stderr),
    ("eof", Json.strs (s.eofs.mergeSort fun a b => a ≤ b)), ("errors", Json.strs s.errors),
    ("pongs", .int s.pongs), ("exit", (s.exit.map Json.int).getD .null)] ++
    (if s.other.isEmpty then [] else [("other", Json.strs s.other)]) ++
    (if s.timedOut then [("timed_out", .bool true)] else []))

end Summary

/-- Reads at most `fuel` frames until the server closes or the context ends. -/
def collectFrames (ctx : Ctx) (sock : Nat) : Nat → Summary → Prog Summary
  | 0, s => return s
  | fuel + 1, s => do
    match ← Remote.nextFrame ctx sock with
    | .ok (some f) => collectFrames ctx sock fuel (s.add f)
    | .ok none => return s
    | .error _ => return { s with timedOut := true }

/-- The most frames a client reads on one connection. -/
def frameFuel : Nat := 1000000

/-- Sends messages on an attached connection, then reads the frames until the
server closes, at most three seconds, and goes away. -/
def converse (sock : Nat) (sends : List String) : Prog Summary := do
  sends.forM (Remote.sendText sock)
  let ctx := Ctx.withDeadline ((← Prog.now) + 3000 * millis)
  let s ← collectFrames ctx sock frameFuel Summary.empty
  Remote.hangUp sock
  return s

/-- The pause that ends every connection step. -/
def socketPause : Prog Unit := do
  let _ ← Ctx.background.sleep (30 * millis)

/-- A message connection step. -/
def socketTask (x : Exchange) (path : String) (sends : List String) (hangup : Bool) : Prog Json := do
  let answer ← match ← Remote.dial x Ctx.background true serverAddress path with
    | .error (.refused status) => pure (Json.obj [("dial_error", .bool true), ("status", .int status)])
    | .error (.failed msg) => pure (Json.obj [("dial_error", .bool true), ("message", .str msg)])
    | .ok sock =>
      match ← Remote.nextFrame Ctx.background sock with
      | .ok (some hello) =>
        if hangup then do
          Remote.hangUp sock
          pure (Json.obj [("attached", .int hello.pid), ("hung_up", .bool true)])
        else do
          let s ← converse sock sends
          pure (s.toJson (.int hello.pid))
      | _ => pure (Json.obj [("hello_error", .bool true)])
  socketPause
  return answer

/-- A message as a client sends it: text as it is, anything else as its JSON text. -/
def messageText : Json → String
  | .str s => s
  | j => marshal j

/-- A call of the remote client. -/
inductive RemoteCall where
  | health
  | list
  | create (req : CreateRequest)
  | wait (pid : Int)
  | kill (pid : Int)
  | start (pid : Int)
  | pipe (outPid inPid : Int)
  | attach (pid : Int) (sends : List String)
  | unknown (name : String)

/-- A call given in a step. -/
def RemoteCall.of (step : Json) : Decode RemoteCall := do
  match ← step.getStr "client" with
  | "health" => return .health
  | "list" => return .list
  | "create" => return .create (← createRequestOf ((step.get? "create").getD (.obj [])))
  | "wait" => return .wait (← step.getInt "pid")
  | "kill" => return .kill (← step.getInt "pid")
  | "start" => return .start (← step.getInt "pid")
  | "pipe" => return .pipe (← step.getInt "out") (← step.getInt "in")
  | "attach" => return .attach (← step.getInt "pid") ((← step.getList "send").map messageText)
  | other => return .unknown other

/-- A creation request's body as the client writes it. -/
def createBody (r : CreateRequest) : String :=
  let opt (k v : String) : List (String × Json) := if v.isEmpty then [] else [(k, .str v)]
  Json.render (.obj ([("path", .str r.path)] ++
    (if r.args.isEmpty then [] else [("args", Json.strs r.args)]) ++
    [("pipe_stdin", .bool r.pipeStdin), ("pipe_stdout", .bool r.pipeStdout), ("start", .bool r.start)] ++
    opt "cwd" r.cwd ++ opt "redirect_stdin" r.redirectStdin ++ opt "redirect_stdout" r.redirectStdout))

/-- A call's failure as an answer: the service's error with the protocol
errors its code is, or the transport's with the server's address masked. -/
def callErrorFields (e : CallError) : List (String × Json) :=
  match e with
  | .api status _ code =>
    let kinds := if code < 0 then (Errno.all.filter (·.code == code)).map Errno.name else []
    [("error", .str "APIError"), ("status", .int status), ("code", .int code),
     ("message", .str e.message), ("is", Json.strs kinds)]
  | .transport msg =>
    [("error", .str "Error"), ("message", .str (msg.replace serverBase "<server>")), ("is", .arr [])]

/-- A number member of a result, zero when it has none. -/
def resultNumber (j : Json) (k : String) : Int :=
  match j.get? k with
  | some (.int n) => n
  | _ => 0

/-- The rows of a process list result, each with its pid, path and state. -/
def listResult (j : Json) : Json :=
  match j.get? "processes" with
  | some (.arr rows) => .arr (rows.map fun r =>
      .obj [("pid", (r.get? "pid").getD (.int 0)), ("path", (r.get? "path").getD (.str "")),
        ("state", (r.get? "state").getD (.str ""))])
  | _ => .arr []

/-- A call over HTTP under a context, answered with what its result gives,
or with its failure and the members a failure adds. -/
def callTask (x : Exchange) (r : Remote) (ctx : Ctx) (method path : String) (body : Option String)
    (answer : Json → List (String × Json)) (failed : List (String × Json)) : Prog Json := do
  match ← r.call x ctx method path body with
  | .ok j => return .obj (answer j)
  | .error e => return .obj (callErrorFields e ++ failed)

/-- Attaches to a process through the remote client, then talks on the connection. -/
def attachTask (x : Exchange) (r : Remote) (ctx : Ctx) (pid : Int) (sends : List String) : Prog Json := do
  let target := r.prefixPath ++ "/ws/processes/" ++ toString pid
  let failure (msg : String) : Json :=
    .obj (callErrorFields (.transport ("attach " ++ toString pid ++ ": " ++ msg)))
  let answer ← match ← Remote.dial x ctx r.reachable r.address target with
    | .error (.refused status) => pure (Json.obj (callErrorFields (.api status "attach refused" 0)))
    | .error (.failed msg) => pure (failure msg)
    | .ok sock => do
      match ← Remote.nextFrame Ctx.background sock with
      | .ok (some _) =>
        let s ← converse sock sends
        pure (Json.obj [("result", s.toJson .null)])
      | _ => pure (failure "unexpected EOF")
  socketPause
  return answer

/-- A client step: the call under its deadline. -/
def RemoteCall.task (x : Exchange) (r : Remote) (ctx : Ctx) : RemoteCall → Prog Json
  | .health => callTask x r ctx "GET" "/health" none (fun j => [("result", j)]) []
  | .list => callTask x r ctx "GET" "/processes" none (fun j => [("result", listResult j)]) []
  | .create req =>
    callTask x r ctx "POST" "/processes" (some (createBody req))
      (fun j => [("result", .int (resultNumber j "pid"))]) [("result", .int 0)]
  | .wait pid =>
    callTask x r ctx "GET" ("/processes/" ++ toString pid ++ "/wait") none
      (fun j => [("result", .int (resultNumber j "code"))]) [("result", .int 0)]
  | .kill pid => callTask x r ctx "DELETE" ("/processes/" ++ toString pid) none (fun _ => []) []
  | .start pid => callTask x r ctx "POST" ("/processes/" ++ toString pid ++ "/start") none (fun _ => []) []
  | .pipe o i =>
    callTask x r ctx "POST" "/processes/pipe" (some (Json.render (.obj [("in_pid", .int i), ("out_pid", .int o)])))
      (fun _ => []) []
  | .attach pid sends => attachTask x r ctx pid sends
  | .unknown name => pure (.obj [("step_error", .str ("unknown client call " ++ Text.quote name))])

/-- A step of an HTTP scenario. -/
inductive HttpStep where
  /-- A request served directly, with its timeout in milliseconds and whether
  its context is cancelled before it begins. -/
  | request (req : Request) (timeout : Option Int) (cancelled : Bool)
  | sleep (ms : Int)
  | waitExit (pid : Int)
  | await (name : String)
  | termOutput (id : String)
  | socket (path : String) (sends : List String) (hangup : Bool)
  /-- A call of a remote client, with its timeout in nanoseconds. -/
  | client (r : Remote) (timeout : Nat) (call : RemoteCall)

/-- A step given in JSON, with the labels so far. -/
def HttpStep.of (l : Labels) (step : Json) : Decode HttpStep := do
  if (step.get? "sleep_ms").isSome then return .sleep (← step.getInt "sleep_ms")
  if (step.get? "wait_exit").isSome then return .waitExit (← step.getInt "wait_exit")
  if (step.get? "await").isSome then return .await (← step.getStr "await")
  if (step.get? "term_output").isSome then
    let label ← step.getStr "term_output"
    return .termOutput ((l.resolve? label).getD label)
  if let some ws := step.get? "ws" then
    let pid ← ws.getInt "pid"
    let path ← ws.getStrOr "path" ("/ws/processes/" ++ toString pid)
    return .socket path ((← ws.getList "send").map messageText) (← ws.getBool "hangup")
  if (step.get? "client").isSome then
    let unreachable ← step.getBool "unreachable"
    let basePath ← step.getStr "base_path"
    let base := if unreachable then "http://127.0.0.1:1" else serverBase ++ basePath ++ "/"
    let r := Remote.new base (!unreachable) (← step.getIntOr "retries" 0).toNat millis
    return .client r ((← step.getIntOr "timeout_ms" 3000).toNat * millis) (← RemoteCall.of step)
  let step := withIds l step
  return .request (← decodeRequest step) (← step.getInt? "timeout_ms") (← step.getBool "cancelled")

/-- The task a step runs, giving its answer. -/
def HttpStep.task (x : Exchange) : HttpStep → Prog Json
  | .request req timeout cancelled => requestTask x req timeout cancelled
  | .sleep ms => sleepTask ms
  | .waitExit pid => waitExitTask pid
  | .await name => awaitTask name
  | .termOutput id => termOutputTask x id
  | .socket path sends hangup => socketTask x path sends hangup
  | .client r timeout call => do
    let ctx := Ctx.withDeadline ((← Prog.now) + timeout)
    call.task x r ctx

/-- Keys whose values change from run to run, with what they are shown as. -/
def maskedKeys : List (String × String) :=
  [("created_at", "<time>"), ("uptime_seconds", "<uptime>"), ("age_seconds", "<age>")]

/-- A value with the values of changing keys replaced, at most `fuel` levels deep. -/
def maskKeys : Nat → Json → Json
  | 0, j => j
  | fuel + 1, .obj fs => .obj (fs.map fun (k, v) =>
      match maskedKeys.lookup k with
      | some shown => (k, .str shown)
      | none => (k, maskKeys fuel v))
  | fuel + 1, .arr xs => .arr (xs.map (maskKeys fuel))
  | _, j => j

/-- The `id` text of a value, empty when it has none. -/
def idText (j : Json) : String :=
  match j.get? "id" with
  | some (.str s) => s
  | _ => ""

/-- An answer whose JSON body lists terminals, with the list in the order of their labels. -/
def sortTerminals (j : Json) : Json :=
  let sortList (v : Json) : Json := match v with
    | .arr xs => .arr (xs.mergeSort fun a b => idText a ≤ idText b)
    | v => v
  match j with
  | .obj fs => .obj (fs.map fun (k, v) =>
      if k == "json" then
        match v with
        | .obj gs => (k, .obj (gs.map fun (k2, v2) => if k2 == "terminals" then (k2, sortList v2) else (k2, v2)))
        | v => (k, v)
      else (k, v))
  | j => j

/-- An answer as shown: ids as labels, terminals in label order, changing values masked. -/
def normalize (l : Labels) (j : Json) : Labels × Json :=
  let (l, j) := l.maskJson 1000 j
  (l, maskKeys 1000 (sortTerminals j))

namespace HttpRun

/-- Runs one step: its answer and the scenario after it. -/
def step (s : HttpRun) (stepJson : Json) : Decode (Json × HttpRun) :=
  match HttpStep.of s.labels stepJson, stepJson.getStr? "async" with
  | .error e, _ | _, .error e => .error e
  | .ok st, .ok (some name) =>
    let background : Prog Unit := do
      let j ← st.task s.exchange
      Prog.change fun m => { m with outcomes := m.outcomes ++ [(name, j)] }
    let w := { s.world with tasks := s.world.tasks ++ [background] }
    .ok (.obj [("async", .str name)], { s with world := World.pause World.defaultFuel w (50 * millis) })
  | .ok st, .ok none =>
    match s.run (st.task s.exchange) with
    | (some j, s) =>
      let (labels, j) := normalize s.labels j
      .ok (j, { s with labels })
    | (none, s) => .ok (.obj [("step_error", .str "step did not finish")], s)

/-- Runs the steps in order. -/
def steps (s : HttpRun) : List Json → Decode (List Json × HttpRun)
  | [] => return ([], s)
  | j :: rest => do
    let (a, s) ← s.step j
    let (answers, s) ← steps s rest
    return (a :: answers, s)

end HttpRun

/-- Why the service cannot be built: its configuration's problem, or its
logger's when it builds its own. -/
def serviceProblem (cfg : Daemon.Config) (ownLogger : Bool) : Option String :=
  let logger := Logger.new (LoggerConfig.ofSettings cfg.logLevel cfg.logDev)
  match logger, ownLogger with
  | .error msg, false => some msg
  | _, _ =>
    match cfg.problem, logger with
    | some msg, _ => some msg
    | none, .error msg => some ("failed to create logger: " ++ msg)
    | none, .ok _ => none

/-- The HTTP scenario. -/
def http (req : Json) : Decode Json := do
  let c := (req.get? "config").getD (.obj [])
  let cfg ← serviceConfig c
  match serviceProblem cfg (← c.getBool "nil_logger") with
  | some msg => return .obj [("error", .str "Error"), ("message", .str msg)]
  | none =>
    let (tree, root) := programTree (← c.getByteMap "files") (← c.getBool "no_root")
    let cfg := { cfg with programRoot := root }
    let w := Daemon.world cfg (programFiles tree root)
    let client := Client.ofHost .host w.machine.supervisor.config.replySize
    let steps ← req.getList "steps"
    match HttpRun.steps ⟨cfg, w, client, Labels.empty⟩ steps with
    | .ok (answers, _) => return .obj [("steps", .arr answers)]
    | .error e => throw e

end Scenario

end Userland
