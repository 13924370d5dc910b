import Userland.Scenario.Run
import Userland.Scenario.Protocol

namespace Userland

/-! # Client and pool scenarios

A client for a process or for the host makes calls against a scripted
supervisor, which may refuse to take some operations at all. Each call reports
what it returned and the messages it posted. A call that would wait forever has
its context cancelled.

A pool refuses to spawn a unit when the unit has no way to announce itself,
or when the pool has no program runner; otherwise the unit announces itself,
is terminated and finishes.
-/

namespace Scenario

/-- The members reporting a call's error, if it failed. -/
def errorFields (e : Option Fault) : List (String × Json) :=
  (e.map Fault.fields).getD []

/-- A creation request given in JSON. -/
def createRequestOf (c : Json) : Decode CreateRequest := do
  let r : CreateRequest :=
    { path := (← c.getStr "path"), args := (← c.getStrs "args"),
      pipeStdin := (← c.getBool "pipe_stdin"), pipeStdout := (← c.getBool "pipe_stdout"),
      start := (← c.getBool "start"), cwd := (← c.getStr "cwd"),
      redirectStdin := (← c.getStr "redirect_stdin"), redirectStdout := (← c.getStr "redirect_stdout"),
      terminal := (← c.getStr? "terminal") }
  return r

/-- A call a client can make. -/
inductive Call where
  | wait (pid : Int)
  | watch (pid : Int)
  | create (req : CreateRequest)
  | kill (pid : Int)
  | pipe (outPid inPid : Int)
  | start (pid : Int)
  | exit (code : Int)
  | changeState (state : String)
  | forward (op : Op) (payload : Json)
  /-- The caller's own pid. -/
  | self
  | list

/-- A call given in JSON. -/
def callOf (call : Json) : Decode Call := do
  match ← call.getStr "call" with
  | "wait" => return .wait (← call.getInt "pid")
  | "watch" => return .watch (← call.getInt "pid")
  | "create" => return .create (← createRequestOf ((call.get? "create").getD (.obj [])))
  | "kill" => return .kill (← call.getInt "pid")
  | "pipe" => return .pipe (← call.getInt "out") (← call.getInt "in")
  | "start" => return .start (← call.getInt "pid")
  | "exit" => return .exit (← call.getInt "code")
  | "change_state" => return .changeState (← call.getStr "state")
  | "forward" => return .forward (Op.ofName (← call.getStr "req")) ((call.get? "payload").getD .null)
  | "pid" => return .self
  | "list" => return .list
  | other => throw ("unknown client call " ++ other)

/-- The task of one call, giving the members of its answer. -/
def Call.task (c : Client) (ctx : Ctx) : Call → Prog (List (String × Json))
  | .wait pid => withResult (c.wait ctx pid)
  | .watch pid => do
    match ← c.watch pid with
    | .error e => return e.fields
    | .ok sig => withResult (c.awaitWatch ctx sig)
  | .create req => withResult (c.create ctx req)
  | .kill pid => plain (c.kill ctx pid)
  | .pipe o i => plain (c.pipe ctx o i)
  | .start pid => plain (c.start ctx pid)
  | .exit code => plain (c.exit ctx code)
  | .changeState s => unitCall (c.post { Message.of .changeState with pid := c.pid, state := s })
  | .forward op payload => unitCall (c.forward op payload)
  | .self => pure [("result", .int c.pid)]
  | .list => do
    match ← c.listText ctx with
    | .error e => return e.fields
    | .ok text =>
      match ProcessInfo.decodeListText text with
      | .error _ => return [("error", .str "DecodeError")]
      | .ok rows => return [("result", .arr (rows.map infoJson))]
where
  withResult (p : Prog Answer) : Prog (List (String × Json)) := do
    let a ← p
    return errorFields a.error ++ [("result", .int a.num)]
  plain (p : Prog Answer) : Prog (List (String × Json)) := do
    let a ← p
    return errorFields a.error
  unitCall (p : Prog (Except Fault Unit)) : Prog (List (String × Json)) := do
    match ← p with
    | .ok () => return []
    | .error e => return e.fields

/-- Runs the calls in order, each answered with what it posted. -/
def clientCalls (c : Client) (caller : String) : World → List Json → Decode (List Json)
  | _, [] => return []
  | w, call :: rest => do
    let task := (← callOf call).task c (Ctx.ofUnit caller)
    let before := w.machine.script.posted.size
    let w := { w with machine := w.machine.updateUnit caller fun u => { u with cancelled := false } }
    let (r, w) := World.runCancelling World.defaultFuel w caller task
    let posted := (w.machine.script.posted.toList.drop before).map messageJson
    let answer := Json.obj ((r.getD []) ++ [("posted", .arr posted)])
    return answer :: (← clientCalls c caller w rest)

/-- The client scenario. -/
def client (req : Json) : Decode Json := do
  let pid ← req.getInt "pid"
  let replySize := (← req.getInt "reply_size").toNat
  let script : Script := ⟨← (← req.getList "script").mapM scriptItem, #[], false⟩
  let poster := Poster.script (← req.getStrs "post_fail_ops")
  let config := SupervisorConfig.withDefaults 0 0 0 false ""
  let m := { Machine.new config .pool .none [] with script }
  let caller := "caller"
  let m := m.addUnit { ExecUnit.fresh caller false with launched := true }
  let (c, m) := if pid > 0 then
      let (sig, m) := m.newSignal replySize
      (Client.ofProcess pid sig poster, m)
    else (Client.ofHost poster replySize, m)
  let w : World := ⟨m, [], fun _ => pure ()⟩
  return .obj [("calls", .arr (← clientCalls c caller w (← req.getList "calls")))]

/-- Why a pool refuses to spawn: no announce callback (checked first), or no runner. -/
def spawnRefusal (announce runner : Bool) : Option Fault :=
  if !announce then some (.other "unit: bootstrap has no announce callback")
  else if !runner then some (.other "unit: pool has no runner")
  else none

/-- The pool scenario. -/
def spawn (req : Json) : Decode Json := do
  let announce ← req.getBoolOr "announce" true
  let runner ← req.getBoolOr "runner" true
  match spawnRefusal announce runner with
  | some f => return .obj f.fields
  | none =>
    let config := SupervisorConfig.withDefaults 0 0 0 false ""
    let m := (Machine.new config .pool .none []).addUnit { ExecUnit.fresh "unit" false with launched := true }
    let w : World := ⟨m, [], fun _ => pure ()⟩
    let task := Worker.run (fun _ => pure (0, none)) (fun id => Prog.change (·.terminate id)) false "unit"
    match World.runMain World.defaultFuel w task with
    | (.finished (), _) => return .obj [("ok", .bool true)]
    | (.stuck _, _) => return .obj [("ok", .bool false)]

end Scenario

end Userland
