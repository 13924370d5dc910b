import Userland.Supervisor.Serve
import Userland.Scenario.Table
import Userland.Scenario.Pipe
import Userland.Scenario.Signal
import Userland.Program.Routes

namespace Userland

/-! # Supervisor scenarios

The supervisor runs with execution units that the scenario plays. Spawn call
`n` makes unit `u<n>` (unless that call is listed to fail); the scenario
announces units, has them send requests through the handler they have, and
crashes them. After every step the supervisor serves its whole inbox, and the
step reports what the units saw, the processes that ended, the table, and the
replies waiting on every signal, which are then drained.

Signals are shown by label: a process's own signal is `#k.signal` for the
`k`-th process created, and a signal a step makes is `req<i>` for step `i`.
-/

namespace Scenario

/-- A supervisor scenario in progress. -/
structure SupervisorRun where
  machine : Machine
  /-- The label of every signal, by number. -/
  labels : Array String
  /-- Processes created so far. -/
  made : Nat
  /-- Spawned units that have not announced themselves, oldest first. -/
  unannounced : List String
  /-- Units announced that were never spawned. -/
  strays : Nat
  /-- Unit events and exits already reported. -/
  eventsSeen : Nat
  exitsSeen : Nat

namespace SupervisorRun

/-- Labels the signals made since the last look: all are processes' own. -/
def syncLabels (s : SupervisorRun) : SupervisorRun :=
  let fresh := s.machine.signals.size - s.labels.size
  let labels := (List.range fresh).foldl
    (fun acc k => acc.push ("#" ++ toString (s.made + k + 1) ++ ".signal")) s.labels
  { s with labels, made := s.made + fresh }

/-- The label of a signal. -/
def label (s : SupervisorRun) (id : Nat) : String := s.labels.getD id ""

/-- Makes a signal for step `i`, labelled `req<i>`. -/
def freshSignal (s : SupervisorRun) (i : Nat) : Nat × SupervisorRun :=
  let s := s.syncLabels
  let (id, m) := s.machine.newSignal s.machine.supervisor.config.replySize
  (id, { s with machine := m, labels := s.labels.push ("req" ++ toString i) })

/-- Runs one atomic step of the machine. -/
def act {α : Type} (s : SupervisorRun) (a : Act α) : α × SupervisorRun :=
  let (x, m) := a.run s.machine
  (x, { s with machine := m })

end SupervisorRun

/-- A start payload in JSON, with channels by label. -/
def payloadJson (label : Nat → String) (p : StartPayload) : Json :=
  .obj [("pid", .int p.pid), ("path", .str p.path), ("args", Json.strs p.args),
    ("source_hex", hexJson p.source), ("cwd", .str p.cwd), ("signal", .str (label p.signal)),
    ("stdin", .str (pipeLabel p.stdin)), ("stdout", .str (pipeLabel p.stdout)),
    ("stderr", ((p.stderr.map pipeLabel).map Json.str).getD .null), ("pipe_stdin", .bool p.pipeStdin),
    ("pipe_stdout", .bool p.pipeStdout), ("redirect_stdin", .str p.redirectStdin),
    ("redirect_stdout", .str p.redirectStdout), ("terminal", optStr p.terminal)]

/-- What a played unit saw, in JSON. -/
def unitEventJson (label : Nat → String) : UnitEvent → Json
  | .spawned u => .obj [("event", .str "spawn"), ("unit", .str u)]
  | .spawnFailed n => .obj [("event", .str "spawn_failed"), ("spawn", .int n)]
  | .handlerInstalled u => .obj [("unit", .str u), ("event", .str "on_message")]
  | .sent u op p => .obj [("unit", .str u), ("event", .str "send"), ("op", .str op.name),
      ("start", (p.map (payloadJson label)).getD .null)]
  | .sendFailed u op => .obj [("unit", .str u), ("event", .str "send_failed"), ("op", .str op.name)]
  | .terminated u => .obj [("unit", .str u), ("event", .str "terminate")]
  | .forwarded u op pid payload => .obj [("unit", .str u), ("event", .str "forward"),
      ("op", .str op.name), ("pid", .int pid), ("payload", payload)]

/-- A reply in JSON; a process list is shown by its rows without times. -/
def replyJson : Reply → Json
  | .text bs =>
    match ProcessInfo.decodeList (Utf8.decodeLossy bs) with
    | some rows => .obj [("kind", .str "s"), ("list", .arr ((rows.getD []).map fun r =>
        .obj [("pid", .int r.pid), ("path", .str r.path), ("state", .str r.state)]))]
    | none => (Reply.text bs).toJson
  | r => r.toJson

/-- Reads every reply on a signal, at most `fuel` of them. -/
def drainReplies : Nat → Signal → List Reply × Signal
  | 0, s => ([], s)
  | fuel + 1, s =>
    match s.read with
    | (some r, s') => let (rs, s'') := drainReplies fuel s'; (r :: rs, s'')
    | (none, s') => ([], s')

/-- Drains every signal with wake-ups or replies, in order of number. -/
def drainSignals (s : SupervisorRun) : List Json × SupervisorRun :=
  let s := s.syncLabels
  let (woken, m) := (List.range s.machine.signals.size).foldl (fun (acc, m) id =>
      let sig := m.signal id
      if sig.wakes = 0 && sig.replies.len = 0 then (acc, m)
      else
        let (rs, sig') := drainReplies (sig.replies.len + 1) sig
        (acc ++ [Json.obj [("signal", .str (s.label id)), ("wakes", .int sig.wakes),
          ("replies", .arr (rs.map replyJson))]], m.setSignal id { sig' with wakes := 0 }))
    ([], s.machine)
  (woken, { s with machine := m })

/-- A request given in JSON. -/
def messageOf (step : Json) : Decode Message := do
  let create ← match step.get? "create" with
    | none => pure none
    | some c => do
      let req : CreateRequest :=
        { path := (← c.getStr "path"), args := (← c.getStrs "args"),
          pipeStdin := (← c.getBool "pipe_stdin"), pipeStdout := (← c.getBool "pipe_stdout"),
          start := (← c.getBool "start"), cwd := (← c.getStr "cwd"),
          redirectStdin := (← c.getStr "redirect_stdin"),
          redirectStdout := (← c.getStr "redirect_stdout"), terminal := (← c.getStr? "terminal") }
      pure (some req)
  let msg := Message.of (Op.ofName (← step.getStr "req"))
  return { msg with
    pid := (← step.getInt "pid"), target := (← step.getInt "target"),
    state := (← step.getStr "state"), code := (← step.getInt "code"),
    outPid := (← step.getInt "out"), inPid := (← step.getInt "in"),
    create, payload := (step.get? "payload").getD .null }

/-- What one step did besides its own members: unit events, exits, table and signals. -/
def stepReport (s : SupervisorRun) : List (String × Json) × SupervisorRun :=
  let s := s.syncLabels
  let m := s.machine
  let events := (m.trace.toList.drop s.eventsSeen).map (unitEventJson s.label)
  let exits := (m.exits.toList.drop s.exitsSeen).map fun e =>
    Json.obj [("pid", .int e.pid), ("path", .str e.path), ("code", .int e.code),
      ("reason", .str e.reason)]
  let table := m.table.records.map fun r =>
    recordJson pipeLabel s.label (m.pipe r.stdout).capacity r
  let s := { s with eventsSeen := m.trace.size, exitsSeen := m.exits.size }
  let (woken, s) := drainSignals s
  ([("events", .arr events), ("exits", .arr exits), ("table", .arr table), ("woken", .arr woken)], s)

/-- A step that cannot run. -/
def stepError (msg : String) : Except String (List (String × Json)) := .error msg

/-- The signal a unit's request carries when it asks for its record's: the one
in its start payload, else the one of the record it is registered to. -/
def recordSignal (m : Machine) (id : String) : Option Nat :=
  match (m.unit? id).bind (·.payload) with
  | some p => some p.signal
  | none => (m.table.records.find? (·.unit == some id)).map (·.signal)

/-- Notes the units spawned since the last look as waiting to announce, unless they announce themselves. -/
def noteSpawned (auto : Bool) (before : Nat) (s : SupervisorRun) : SupervisorRun :=
  if auto then s
  else
    let spawned := (s.machine.trace.toList.drop before).filterMap fun
      | .spawned u => some u
      | _ => none
    { s with unannounced := s.unannounced ++ spawned }

/-- Runs step `i`: the members of its answer (or why it cannot run), and the scenario after it. -/
def supervisorStep (auto : Bool) (s : SupervisorRun) (i : Nat) (step : Json) :
    Decode (Except String (List (String × Json)) × SupervisorRun) := do
  let fuel := s.machine.supervisor.inbox.length + 64
  let finish (own : List (String × Json)) (s : SupervisorRun) :
      Except String (List (String × Json)) × SupervisorRun :=
    let before := s.machine.trace.size
    let ((), s) := s.act (Act.drain (fuel * 4))
    let s := noteSpawned auto before s
    let (report, s) := stepReport s
    (.ok (own ++ report), s)
  let withSignal (sig : Option Nat) (s : SupervisorRun) : List (String × Json) :=
    [("signal", (sig.map fun id => Json.str (s.syncLabels.label id)).getD .null)]
  match ← step.getStr "do" with
  | "host" =>
    let msg ← messageOf step
    let mode ← step.getStrOr "signal" "fresh"
    let (sig, s) := if mode = "fresh" then
        let (id, s) := s.freshSignal i
        (some id, s)
      else (none, s)
    match s.machine.submit (.request { msg with signal := sig }) with
    | .ok m =>
      let s := { s with machine := m }
      return finish (withSignal sig s) s
    | .error f =>
      return finish (withSignal sig s ++ [("submit_error", .obj f.fields)]) s
  | "unit" =>
    let id ← step.getStr "unit"
    let msg ← messageOf step
    if (s.machine.unit? id).isNone then return (stepError ("no unit " ++ Text.quote id), s)
    let dflt := if msg.op = .changeState then "none" else "record"
    let mode ← step.getStrOr "signal" dflt
    let chosen : Option (Option Nat × SupervisorRun) :=
      if mode = "record" then some (recordSignal s.machine id, s)
      else if mode = "fresh" then
        let (id, s) := s.freshSignal i
        some (some id, s)
      else if mode = "none" then some (none, s)
      else none
    match chosen with
    | none => return (stepError ("unknown signal mode " ++ Text.quote mode), s)
    | some (sig, s) =>
      let (_, s) := s.act (Act.post id { msg with signal := sig })
      return finish (withSignal sig s) s
  | "announce" =>
    match s.unannounced with
    | [] => return (stepError "no spawned unit left to announce", s)
    | id :: rest =>
      let ((), s) := { s with unannounced := rest }.act (Act.announce id)
      return finish [] s
  | "announce_stray" =>
    if s.machine.spawnCalls = 0 then return (stepError "announce_stray needs an earlier spawn", s)
    let id := "x" ++ toString (s.strays + 1)
    let s := { s with strays := s.strays + 1,
                      machine := s.machine.addUnit (ExecUnit.fresh id true) }
    let ((), s) := s.act (Act.announce id)
    return finish [] s
  | "crash" =>
    let id ← step.getStr "unit"
    if (s.machine.unit? id).isNone then return (stepError ("no unit " ++ Text.quote id), s)
    let s := { s with machine := s.machine.updateUnit id fun u => { u with dead := true } }
    return finish [] s
  | "close" =>
    return finish [] { s with machine := s.machine.closeInbox }
  | "buffer" =>
    let label ← step.getStr "buf"
    let s := s.syncLabels
    let ids := (List.range s.machine.pipes.size).filter (pipeLabel · == label)
    match ids with
    | [] => return (stepError ("no buffer " ++ Text.quote label), s)
    | id :: _ =>
      let r := s.machine.pipe id
      match ← pipeStep r ((step.get? "action").getD (.obj [])) with
      | some (r', fs) =>
        let s := { s with machine := s.machine.setPipe id r' }
        return finish [("result", .obj (fs ++ pipeState r'))] s
      | none => return finish [("result", .obj (("error", .str "panic") :: pipeState r))] s
  | other => return (stepError ("unknown manager step " ++ Text.quote other), s)

/-- Runs the steps in order, from step number `i`. -/
def supervisorSteps (auto : Bool) : SupervisorRun → Nat → List Json → Decode (List Json)
  | _, _, [] => return []
  | s, i, step :: rest => do
    let (r, s) ← supervisorStep auto s i step
    let answer := match r with
      | .ok fs => Json.obj fs
      | .error msg => Json.obj [("step_error", .str msg)]
    return answer :: (← supervisorSteps auto s (i + 1) rest)

/-- The supervisor scenario. -/
def supervisor (req : Json) : Decode Json := do
  let c := (req.get? "config").getD (.obj [])
  let config := SupervisorConfig.withDefaults (← c.getInt "max_pid") (← c.getInt "pipe_size")
    (← c.getInt "reply_size") (← c.getBool "require_terminal") (← c.getStr "default_program")
  let builtins ← c.getStrs "builtins"
  let checked := builtins.foldl (fun (acc : Except Fault (Routes Unit)) p =>
    acc.bind (·.add p ())) (.ok (Routes.empty none))
  match checked with
  | .error f => return .obj f.fields
  | .ok _ =>
    let auto ← c.getBool "auto_announce"
    let refuse := (← c.getInts "spawn_fail").filterMap fun n => if n ≥ 0 then some n.toNat else none
    let files := Files.memory (Memory.ofFiles (← c.getByteMap "files"))
    let faults : LoadFaults := ⟨← c.getStrMap "fail_open", ← c.getStrMap "fail_read",
      ← c.getStrMap "fail_close", ← c.getStrs "panic_open"⟩
    let m := { Machine.new config (.scripted refuse auto) files builtins with faults }
    let s : SupervisorRun := ⟨m, #[], 0, [], 0, 0, 0⟩
    return .obj [("steps", .arr (← supervisorSteps auto s 0 (← req.getList "steps")))]

end Scenario

end Userland
