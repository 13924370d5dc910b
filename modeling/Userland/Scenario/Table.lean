import Userland.Scenario.Fields
import Userland.Process.Table

namespace Userland

/-! # Process table scenarios

A table driven step by step. The `k`-th process created owns the channels
labelled `#k.stdin`, `#k.stdout`, `#k.stderr` and `#k.signal`; a record shows
its channels by label.
-/

namespace Scenario

/-- The label of pipe number `id`: pipes are made three per process. -/
def pipeLabel (id : Nat) : String :=
  "#" ++ toString (id / 3 + 1) ++ "." ++ (["stdin", "stdout", "stderr"].getD (id % 3) "")

/-- The label of a process's own signal number `id`. -/
def ownSignalLabel (id : Nat) : String := "#" ++ toString (id + 1) ++ ".signal"

/-- The channels of the `k`-th process created, counting from 0. -/
def endpointsFor (k : Nat) : Endpoints := ⟨3 * k, 3 * k + 1, 3 * k + 2, k⟩

/-- A process spec given in JSON. -/
def specOf (j : Json) : Decode Spec := do
  return { path := ← j.getStr "path", source := ← j.getBytes "source", args := ← j.getStrs "args",
           cwd := ← j.getStr "cwd", terminal := ← j.getStr? "terminal",
           pipeStdin := ← j.getBool "pipe_stdin", pipeStdout := ← j.getBool "pipe_stdout",
           redirectStdin := ← j.getStr "redirect_stdin", redirectStdout := ← j.getStr "redirect_stdout",
           autostart := ← j.getBool "autostart" }

/-- A text or `null`. -/
def optStr : Option String → Json
  | some s => .str s
  | none => .null

/-- A record in JSON, with channels shown through the given labels. -/
def recordJson (pipeLabel signalLabel : Nat → String) (pipeCap : Nat) (r : Record) : Json :=
  .obj [("pid", .int r.pid), ("state", .str r.state.name), ("path", .str r.path),
    ("args", Json.strs r.args), ("cwd", .str r.cwd), ("source_hex", hexJson r.source),
    ("pipe_stdin", .bool r.pipeStdin), ("pipe_stdout", .bool r.pipeStdout),
    ("redirect_stdin", .str r.redirectStdin), ("redirect_stdout", .str r.redirectStdout),
    ("autostart", .bool r.autostart), ("started", .bool r.started),
    ("registered", .bool r.registered), ("unit", optStr r.unit), ("terminal", optStr r.terminal),
    ("stdin", .str (pipeLabel r.stdin)), ("stdout", .str (pipeLabel r.stdout)),
    ("stderr", .str (pipeLabel r.stderr)), ("signal", .str (signalLabel r.signal)),
    ("pipe_cap", .int pipeCap)]

/-- A process list row without times. -/
def rowJson (r : Record) : Json :=
  .obj [("pid", .int r.pid), ("path", .str r.path), ("state", .str r.state.name)]

/-- A table with the number of processes created so far. -/
structure TableRun where
  table : Table
  made : Nat
  pipeCap : Nat

/-- One step on the table. -/
def tableStep (s : TableRun) (step : Json) : Decode (TableRun × List (String × Json)) := do
  let rec' := recordJson pipeLabel ownSignalLabel s.pipeCap
  let apply (r : Except Fault Table) : TableRun × List (String × Json) :=
    match r with
    | .ok t => ({ s with table := t }, [])
    | .error e => (s, e.fields)
  match ← step.getStr "do" with
  | "allocate" =>
    let spec ← specOf ((step.get? "spec").getD (.obj []))
    match s.table.allocate spec (endpointsFor s.made) 0 with
    | .ok (r, t) => return ({ s with table := t, made := s.made + 1 },
        [("pid", .int r.pid), ("record", rec' r)])
    | .error e => return (s, e.fields)
  | "get" =>
    match s.table.lookup (← step.getInt "pid") with
    | .ok r => return (s, [("record", rec' r)])
    | .error e => return (s, e.fields)
  | "register" => return apply (s.table.register (← step.getInt "pid") (← step.getStr "unit"))
  | "set_state" => return apply (s.table.setStateNamed (← step.getInt "pid") (← step.getStr "state"))
  | "free" => return apply (s.table.free (← step.getInt "pid"))
  | "snapshot" => return (s, [("list", .arr (s.table.records.map rowJson))])
  | "records" => return (s, [("records", .arr (s.table.records.map rec'))])
  | "cap" => return (s, [("cap", .int s.table.cap)])
  | "len" => return (s, [])
  | other => throw ("unknown table step " ++ other)

/-- Runs table steps in order; each answer ends with the number of live processes. -/
def tableSteps (s : TableRun) : List Json → Decode (List Json)
  | [] => return []
  | step :: rest => do
    let (s', fs) ← tableStep s step
    return .obj (fs ++ [("len", .int s'.table.live)]) :: (← tableSteps s' rest)

/-- The process table scenario. -/
def table (req : Json) : Decode Json := do
  let maxPid ← req.getInt "max_pid"
  let pipeSize ← req.getInt "pipe_size"
  let t := Table.new maxPid.toNat
  let s : TableRun := ⟨t, 0, max pipeSize.toNat 1⟩
  return .obj [("cap", .int t.cap), ("steps", .arr (← tableSteps s (← req.getList "steps")))]

end Scenario

end Userland
