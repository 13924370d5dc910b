import Userland.Service.Basic

namespace Userland

/-! # The process routes

Under `/processes` the service lists the table, creates processes (with a
terminal, when the body names one), pipes one process's output into
another's input, and, for one process by pid, shows its entry, kills it,
starts it, waits for its exit code, writes to its input and reads what it
wrote.

Listing, creating, piping, killing, starting and waiting are calls to the
supervisor; showing an entry and the input and output routes look at the
table directly. A pid must be a decimal integer above zero.

Writing to a process's input takes at most 64 KiB, closes the input after
when the query says `close=true`, and answers how much was written; writing
to a closed input is a conflict, and closing it again is not. Reading takes
what the output (or the error output, with `stream=stderr`) holds, waits for
some when there is none and the query says `wait=true`, and reports whether
the stream is at its end.
-/

namespace Service

open Web

/-- The record a creation body binds to. -/
def createSpec : Json.RecordSpec :=
  { qualified := "http.CreateProcessRequest", name := "CreateProcessRequest",
    fields := [⟨"path", "CreateRequest.path", .text⟩, ⟨"args", "CreateRequest.args", .texts⟩,
      ⟨"pipe_stdin", "CreateRequest.pipe_stdin", .flag⟩,
      ⟨"pipe_stdout", "CreateRequest.pipe_stdout", .flag⟩,
      ⟨"start", "CreateRequest.start", .flag⟩, ⟨"cwd", "CreateRequest.cwd", .text⟩,
      ⟨"redirect_stdin", "CreateRequest.redirect_stdin", .text⟩,
      ⟨"redirect_stdout", "CreateRequest.redirect_stdout", .text⟩,
      ⟨"terminal", "terminal", .text⟩] }

/-- The record a pipe body binds to. -/
def pipeSpec : Json.RecordSpec :=
  { qualified := "http.PipeRequest", name := "PipeRequest",
    fields := [⟨"out_pid", "out_pid", .integer⟩, ⟨"in_pid", "in_pid", .integer⟩] }

/-- A bound text field, empty when the body left it out. -/
def boundText (b : List (String × Json)) (key : String) : String :=
  match b.lookup key with
  | some (.str s) => s
  | _ => ""

/-- A bound flag, false when the body left it out. -/
def boundFlag (b : List (String × Json)) (key : String) : Bool :=
  match b.lookup key with
  | some (.bool v) => v
  | _ => false

/-- A bound integer, zero when the body left it out. -/
def boundInt (b : List (String × Json)) (key : String) : Int :=
  match b.lookup key with
  | some (.int n) => n
  | _ => 0

/-- A bound list of texts, empty when the body left it out; null items are empty texts. -/
def boundTexts (b : List (String × Json)) (key : String) : List String :=
  match b.lookup key with
  | some (.arr xs) => xs.map fun x => match x with
    | .str s => s
    | _ => ""
  | _ => []

/-- The failure of a required field left at zero, in the validator's words. -/
def requiredMessage (record field : String) : String :=
  "Key: '" ++ record ++ "." ++ field ++ "' Error:Field validation for '" ++ field ++
    "' failed on the 'required' tag"

/-- A row of the process list as JSON. -/
def infoJson (r : ProcessInfo) : Json :=
  .obj [("pid", .int r.pid), ("path", .str r.path), ("created_at", .str r.createdAt.format),
    ("age_seconds", .int r.ageSeconds), ("state", .str r.state)]

/-- `GET /processes`: the table, through the supervisor. -/
def listProcesses : Handler := fun env c => do
  match ← env.client.listText env.ctx with
  | .error e => return c.fail (.fault e)
  | .ok text =>
    match ProcessInfo.decodeListText text with
    | .error msg => return c.fail (.fault (.other ("decode process list: " ++ msg)))
    | .ok rows => return c.succeed 200 [("processes", .arr (rows.map infoJson))]

/-- `GET /processes/:pid`: one entry of the table with what it was created with. -/
def getProcess : Handler := fun _ c => do
  match pidOf c with
  | .error c => return c
  | .ok pid =>
    match ← task <| Prog.read fun m => (m.table.get? pid).map fun r => (r, m.info r) with
    | none => return c.fail (.fault Table.noSuch)
    | some (r, info) =>
      return c.succeed 200 [("process", infoJson info),
        ("args", if r.args.isEmpty then .null else Json.strs r.args), ("cwd", .str r.cwd),
        ("pipe_stdin", .bool r.pipeStdin), ("pipe_stdout", .bool r.pipeStdout),
        ("started", .bool r.started), ("registered", .bool r.registered)]

/-- `POST /processes`: creates a process, on a terminal when the body names one. -/
def createProcess : Handler := fun env c => do
  match createSpec.bind c.request.body c.request.bodyFails with
  | .error e => return c.fail (.invalid ("invalid request: " ++ e.message))
  | .ok b =>
    let term := boundText b "terminal"
    let found : Except Terminal.TermError (Option String) ←
      if term.isEmpty then pure (.ok none)
      else task <| Prog.read fun m => (m.sessions.get term).map fun s => some s.id
    match found with
    | .error e => return c.fail (.terminal e)
    | .ok terminal =>
      let req : CreateRequest :=
        { path := boundText b "path", args := boundTexts b "args",
          pipeStdin := boundFlag b "pipe_stdin", pipeStdout := boundFlag b "pipe_stdout",
          start := boundFlag b "start", cwd := boundText b "cwd",
          redirectStdin := boundText b "redirect_stdin", redirectStdout := boundText b "redirect_stdout",
          terminal }
      let a ← env.client.create env.ctx req
      match a.error with
      | some e => return c.fail (.fault e)
      | none =>
        logEntry ⟨.info, "http", "Process created over HTTP", [("pid", .int a.num), ("path", .str req.path)]⟩
        return c.succeed 201 [("pid", .int a.num)]

/-- `DELETE /processes/:pid`: kills a process. -/
def killProcess : Handler := fun env c => do
  match pidOf c with
  | .error c => return c
  | .ok pid =>
    match (← env.client.kill env.ctx pid).error with
    | some e => return c.fail (.fault e)
    | none => return c.succeed 200 [("pid", .int pid), ("code", .int 137)]

/-- `POST /processes/:pid/start`: starts a process created without starting. -/
def startProcess : Handler := fun env c => do
  match pidOf c with
  | .error c => return c
  | .ok pid =>
    match (← env.client.start env.ctx pid).error with
    | some e => return c.fail (.fault e)
    | none => return c.succeed 200 [("pid", .int pid)]

/-- `POST /processes/pipe`: joins one process's output to another's input. -/
def pipeProcesses : Handler := fun env c => do
  match pipeSpec.bind c.request.body c.request.bodyFails with
  | .error e => return c.fail (.invalid ("invalid request: " ++ e.message))
  | .ok b =>
    let outPid := boundInt b "out_pid"
    let inPid := boundInt b "in_pid"
    let missing := (if outPid == 0 then [requiredMessage "PipeRequest" "OutPID"] else []) ++
      (if inPid == 0 then [requiredMessage "PipeRequest" "InPID"] else [])
    if !missing.isEmpty then
      return c.fail (.invalid ("invalid request: " ++ "\n".intercalate missing))
    match (← env.client.pipe env.ctx outPid inPid).error with
    | some e => return c.fail (.fault e)
    | none => return c.succeed 200 [("out_pid", .int outPid), ("in_pid", .int inPid)]

/-- `GET /processes/:pid/wait`: waits for a process's exit code. -/
def waitProcess : Handler := fun env c => do
  match pidOf c with
  | .error c => return c
  | .ok pid =>
    let a ← env.client.wait env.ctx pid
    match a.error with
    | some e => return c.fail (.fault e)
    | none => return c.succeed 200 [("pid", .int pid), ("code", .int a.num)]

/-- `POST /processes/:pid/stdin`: writes the body to a process's input. -/
def writeStdin : Handler := fun env c => do
  match pidOf c with
  | .error c => return c
  | .ok pid =>
    match ← task <| Prog.read fun m => (m.table.get? pid).map (·.stdin) with
    | none => return c.fail (.fault Table.noSuch)
    | some stdin =>
      let data := c.request.body.take (maxChunk + 1)
      if c.request.bodyFails && data.length ≤ maxChunk then
        return c.fail (.invalid "read body: unexpected EOF")
      if data.length > maxChunk then
        return c.fail (.invalid ("stdin chunk larger than " ++ toString maxChunk ++ " bytes"))
      let written ← if data.isEmpty then pure none else do
        let (_, err) ← env.ctx.writePipe stdin data
        pure err
      match written with
      | some e => return c.streamFail e
      | none =>
        let closing := c.request.queryValue? "close" == some "true"
        if closing then task <| Prog.change (·.closePipe stdin)
        return c.succeed 200 [("written", .int data.length), ("closed", .bool closing)]

/-- `GET /processes/:pid/stdout`: what a process's output holds, waiting for
some when asked to. -/
def readStdout : Handler := fun env c => do
  match pidOf c with
  | .error c => return c
  | .ok pid =>
    match ← task <| Prog.read fun m => (m.table.get? pid).map fun r => (r.stdout, r.stderr) with
    | none => return c.fail (.fault Table.noSuch)
    | some (stdout, stderr) =>
      let pipe := if c.request.queryValue? "stream" == some "stderr" then stderr else stdout
      let got ← task <| Prog.atomic fun m => let g := (m.pipe pipe).readAvailable maxChunk; (g, m.setPipe pipe g.ring)
      let (data, err) ← if got.data.isEmpty && got.stop.isNone && c.request.queryValue? "wait" == some "true"
        then env.ctx.readPipe pipe maxChunk
        else pure (got.data, if got.stop == some .atEnd then some Fault.endOfStream else none)
      let atEnd := err == some Fault.endOfStream
      match err with
      | some e => if !atEnd then return c.streamFail e
      | none => pure ()
      return c.succeed 200 [("pid", .int pid), ("data", .str (Utf8.decodeLossy data)), ("eof", .bool atEnd)]

end Service

end Userland
