import Userland.Task.World
import Userland.Program.Builtin
import Userland.Scenario.Fields
import Userland.Scenario.Signal
import Userland.Script.Run

namespace Userland

/-! # Running one program

One program runs on a worker whose supervisor is a script. The scenario sets
up the process's pipes (stdin filled and, unless kept open, closed), its
signal, its terminal and file system, sends the worker the given messages and
then the start payload, and runs it to its end. A watchdog terminates the
worker after three seconds.

The answer shows what the program posted, what was left in its pipes, what it
printed on the terminal, the files afterwards, and the warnings it logged.
-/

namespace Scenario

/-- A request from a process in JSON, with the fields its operation uses. -/
def messageJson (msg : Message) : Json :=
  let base := [("op", Json.str msg.op.name), ("pid", .int msg.pid), ("signal", .bool msg.signal.isSome)]
  let extra : List (String × Json) := match msg.op with
    | .changeState => [("state", .str msg.state)]
    | .exit => [("code", .int msg.code)]
    | .waitOnPid | .kill | .start => [("target", .int msg.target)]
    | .pipe => [("out", .int msg.outPid), ("in", .int msg.inPid)]
    | .create =>
      match msg.create with
      | some c => [("create", .obj [("path", .str c.path), ("args", Json.strs c.args),
          ("cwd", .str c.cwd), ("pipe_stdin", .bool c.pipeStdin), ("pipe_stdout", .bool c.pipeStdout),
          ("redirect_stdin", .str c.redirectStdin), ("redirect_stdout", .str c.redirectStdout),
          ("start", .bool c.start)])]
      | none => []
    | .list => []
    | _ => [("payload", msg.payload)]
  .obj (base ++ extra)

/-- A script item given in JSON. -/
def scriptItem (j : Json) : Decode ScriptItem := do
  let terminate ← j.getBool "terminate"
  let action ← if let some r := j.get? "reply" then ScriptAction.reply <$> Reply.ofJson r
    else if ← j.getBool "wake_only" then pure .wakeOnly
    else if ← j.getBool "silent" then pure .silent
    else match ← j.getStr? "post_error" with
      | some msg => pure (.refuse msg)
      | none => pure .answer
  return ⟨action, terminate⟩

/-- Removes the stack frames an error text carries: every blank run followed by
`at`, an optional function name and opening parenthesis, a place
`file:line:column(offset)` or `native`, and an optional closing parenthesis. -/
def stripFrames (s : String) : String :=
  let cs := s.toList
  String.ofList (go (cs.length + 1) cs [])
where
  isBlank (c : Char) : Bool := c = ' ' || c = '\t' || c = '\n' || c = '\r' || c = '\x0c'
  /-- A place `file:line:column(offset)`: its length, if one starts here. -/
  place (cs : List Char) : Option Nat :=
    let file := cs.takeWhile fun c => !isBlank c && c ≠ '(' && c ≠ ')'
    -- the file part is the longest run that still leaves `:d:d(d)` after it
    let n := file.length
    (List.range (n + 1)).reverse.findSome? fun k =>
      if k = 0 then none
      else
        let rest := cs.drop k
        match rest with
        | ':' :: r1 =>
          let d1 := r1.takeWhile Char.isDigit
          match r1.drop d1.length with
          | ':' :: r2 =>
            let d2 := r2.takeWhile Char.isDigit
            match r2.drop d2.length with
            | '(' :: r3 =>
              let d3 := r3.takeWhile Char.isDigit
              match r3.drop d3.length with
              | ')' :: _ =>
                if d1.isEmpty || d2.isEmpty || d3.isEmpty then none
                else some (k + 1 + d1.length + 1 + d2.length + 1 + d3.length + 1)
              | _ => none
            | _ => none
          | _ => none
        | _ => none
  /-- A place or `native`, with what may wrap it. -/
  frame (cs : List Char) : Option Nat :=
    let blanks := (cs.takeWhile isBlank).length
    match cs.drop blanks with
    | 'a' :: 't' :: ' ' :: rest =>
      let core (r : List Char) : Option Nat :=
        match place r with
        | some n => some n
        | none => if r.take 6 = "native".toList then some 6 else none
      let closing (r : List Char) (n : Nat) : Nat := if (r.drop n).head? = some ')' then n + 1 else n
      -- with a function name and an opening parenthesis
      let name := rest.takeWhile fun c => !isBlank c
      let named : Option Nat :=
        if name.isEmpty then none
        else match rest.drop name.length with
          | ' ' :: '(' :: r => (core r).map fun n => name.length + 2 + closing r n
          | _ => none
      match named with
      | some n => some (blanks + 3 + n)
      | none => (core rest).map fun n => blanks + 3 + closing rest n
    | _ => none
  go : Nat → List Char → List Char → List Char
    | 0, _, acc => acc.reverse
    | _, [], acc => acc.reverse
    | fuel + 1, c :: rest, acc =>
      match frame (c :: rest) with
      | some n => go fuel ((c :: rest).drop n) acc
      | none => go fuel rest (c :: acc)

/-- A warning or worse in JSON: level, message and error text without frames. -/
def logJson (e : LogEntry) : Json :=
  .obj ([("level", .str e.level.name), ("msg", .str e.msg)] ++
    match e.fields.lookup "error" with
    | some (.str err) => [("error", .str (stripFrames err))]
    | _ => [])

/-- The run scenario, with `fallback` running what no builtin provides. -/
def runWith (fallback : Option Runner) (req : Json) : Decode Json := do
  let path ← req.getStr "path"
  let stdinData ← req.getBytes "stdin"
  let stdinCap := (← req.getInt? "stdin_cap").map Int.toNat |>.getD (max stdinData.length 1)
  let stdoutCap := ((← req.getInt? "stdout_cap").map Int.toNat).getD 65536
  let stderrCap := ((← req.getInt? "stderr_cap").map Int.toNat).getD 65536
  let noFs ← req.getBool "no_fs"
  let fileMap ← req.getByteMap "files"
  let files : Files := if noFs then .none else .memory (Memory.ofFiles fileMap)
  let terminal ← req.getBytes? "terminal"
  let script : Script := ⟨← (← req.getList "replies").mapM scriptItem, #[], ← req.getBool "keep_alive_on_exit"⟩
  let runner := Builtin.dispatch (Builtin.routes fallback)
  let config := SupervisorConfig.withDefaults 0 0 0 false ""
  let m := { Machine.new config .pool files [] with script }
  let (stdin, m) := m.newPipe stdinCap
  let (stdout, m) := m.newPipe stdoutCap
  let (stderr, m) := if ← req.getBool "no_stderr" then (none, m)
    else let (e, m) := m.newPipe stderrCap; (some e, m)
  let (written, m) := match (m.pipe stdin).write stdinData with
    | .ok (r, n) => (n, m.setPipe stdin r)
    | .error _ => (0, m)
  let m := if ← req.getBool "stdin_open" then m else m.closePipe stdin
  let m := if ← req.getBool "stdout_closed" then m.closePipe stdout else m
  let stderrClosed ← req.getBool "stderr_closed"
  let m := match stderr with
    | some e => if stderrClosed then m.closePipe e else m
    | none => m
  let (sig, m) := m.newSignal (((← req.getInt? "reply_size").getD 0).toNat)
  let m := match terminal with
    | some input => { m with terminals := [⟨"tty", input, #[], false⟩] }
    | none => m
  let unitId := "worker"
  let m := m.addUnit { ExecUnit.fresh unitId false with handler := .script, launched := true }
  let payload : StartPayload :=
    { pid := ((← req.getInt? "pid").getD 1).toNat, path, args := ← req.getStrs "args",
      source := ← req.getBytes "source", cwd := ← req.getStr "cwd", signal := sig, stdin, stdout,
      stderr, pipeStdin := ← req.getBool "pipe_stdin", pipeStdout := ← req.getBool "pipe_stdout",
      redirectStdin := ← req.getStr "redirect_stdin", redirectStdout := ← req.getStr "redirect_stdout",
      terminal := terminal.map fun _ => "tty" }
  let pre ← req.getStrs "pre_messages"
  let m := pre.foldl (fun m op => (m.sendTo unitId (Message.of (Op.ofName op))).toOption.getD m) m
  let m := (m.sendTo unitId { Message.of .init with start := some payload }).toOption.getD m
  let watchdog : Prog Unit := do
    let _ ← Ctx.background.sleep 3000000000
    Prog.change (·.terminate unitId)
  let w : World := ⟨m, [watchdog], fun _ => pure ()⟩
  let main := Worker.run runner (fun _ => pure ()) (!noFs) unitId
  let (_, w) := World.runMain World.defaultFuel w main
  let m := w.machine
  let timedOut := m.clock ≥ 3000000000
  let drain (id : Nat) : List UInt8 := ((m.pipe id).readAvailable (m.pipe id).len).data
  let memFiles := m.files.memoryListing
  let base : List (String × Json) :=
    [("messages", .arr (m.script.posted.toList.map messageJson)),
     ("stdin_written", .int written), ("stdin_left", .int (m.pipe stdin).len),
     ("stdout_closed", .bool (m.pipe stdout).closed), ("stdout_hex", hexJson (drain stdout)),
     ("files", .obj (memFiles.map fun (p, d) => (p, hexJson d))),
     ("logs", .arr ((m.logs.toList.filter (·.level.rank ≥ Level.warn.rank)).map logJson))]
  let term := match terminal with
    | some _ => [("terminal_hex", hexJson (((m.terminal? "tty").map (·.output.toList)).getD []))]
    | none => []
  let timed := if timedOut then [("timed_out", Json.bool true)] else []
  let errPipe := match stderr with
    | some e => [("stderr_closed", Json.bool (m.pipe e).closed), ("stderr_hex", hexJson (drain e))]
    | none => []
  return .obj (base ++ errPipe ++ term ++ timed)

/-- The run scenario: with `js`, scripts run what no builtin provides, under
`stack_size` and `console` when given. -/
def run (req : Json) : Decode Json := do
  if ← req.getBool "js" then
    let stackSize := ((← req.getInt? "stack_size").map Int.toNat).getD Script.Config.default.stackSize
    let console ← req.getBoolOr "console" Script.Config.default.console
    runWith (some (Script.runner ⟨stackSize, console⟩)) req
  else runWith none req

end Scenario

end Userland
