import Userland.Terminal.Session
import Userland.Scenario.Fields
import Userland.Scenario.Labels

namespace Userland

/-! # Terminal scenarios

Steps on one output buffer and on a manager of terminal sessions. Sessions are
named by labels in the order they were opened (`$term1` when a step names
none). Operations on a session go to it even after the manager forgot it; a
label that names no session is bad input. Looking up and closing through the
manager take the text as it is when it is no label, and find nothing.

Every id in the answers is shown as its label.
-/

namespace Scenario

open Terminal

/-- The state of a terminal scenario. -/
structure TerminalRun where
  buffer : Buffer
  manager : Manager
  deriving Inhabited

/-- A session's description as JSON. -/
def sessionInfoJson (i : Info) : Json :=
  .obj [("id", .str i.id), ("cols", .int i.cols), ("rows", .int i.rows), ("active", .bool i.active)]

/-- A terminal error as answer fields. -/
def termErrorFields (e : TermError) : List (String × Json) :=
  let kind := match e with
    | .notFound _ => "NotFound"
    | .closed => "Closed"
  [("error", .str kind), ("message", .str e.message)]

/-- The id a label names, in order of opening. -/
def labelId (m : Manager) (label : String) : Option String :=
  (Labels.resolve? ⟨m.sessions.map (·.id)⟩ label)

/-- The session a step names; bad input when the label names none. -/
def namedSession (m : Manager) (step : Json) : Decode Session := do
  let label ← step.getStrOr "id" "$term1"
  match labelId m label >>= m.find? with
  | some s => return s
  | none => throw ("unknown terminal " ++ label)

/-- The text a step passes to the manager: the id its label names, else the text. -/
def namedText (m : Manager) (step : Json) : Decode String := do
  let label ← step.getStrOr "id" "$term1"
  return (labelId m label).getD label

/-- Runs one step: the answer and the new state. -/
def terminalStep (r : TerminalRun) (step : Json) : Decode (Json × TerminalRun) := do
  let m := r.manager
  match ← step.getStr "do" with
  | "buffer_new" => return (.obj [], { r with buffer := Buffer.new (← step.getInt "size") })
  | "buffer_write" =>
    let data ← step.getBytes "data"
    let (n, buffer) := r.buffer.write data
    return (.obj [("n", .int n)], { r with buffer })
  | "buffer_drain" =>
    let (bs, buffer) := r.buffer.drain
    return (.obj [("hex", hexJson bs)], { r with buffer })
  | "create" =>
    let (s, m) := m.create (← step.getInt "cols") (← step.getInt "rows")
    return (.obj [("info", sessionInfoJson s.info)], { r with manager := m })
  | "get" =>
    match m.get (← namedText m step) with
    | .ok s => return (.obj [("info", sessionInfoJson s.info)], r)
    | .error e => return (.obj (termErrorFields e), r)
  | "list" => return (.obj [("list", .arr (m.list.map sessionInfoJson))], r)
  | "input" =>
    let s ← namedSession m step
    match s.input (← step.getBytes "data") with
    | .ok s => return (.obj [], { r with manager := m.update s })
    | .error e => return (.obj (termErrorFields e), r)
  | "write" =>
    let s ← namedSession m step
    let (s, n) := s.write (← step.getBytes "data")
    return (.obj [("n", .int n)], { r with manager := m.update s })
  | "read" =>
    let s ← namedSession m step
    let n := ((← step.getInt? "n").getD 64).toNat
    match s.read n with
    | (some bs, s) => return (.obj [("hex", hexJson bs)], { r with manager := m.update s })
    | (none, s) => return (.obj [("blocked", .bool true)], { r with manager := m.update s })
  | "output" =>
    let s ← namedSession m step
    let (bs, s) := s.drain
    return (.obj [("hex", hexJson bs)], { r with manager := m.update s })
  | "resize" =>
    let s ← namedSession m step
    match s.resize (← step.getInt "cols") (← step.getInt "rows") with
    | .ok s => return (.obj [("info", sessionInfoJson s.info)], { r with manager := m.update s })
    | .error e => return (.obj ([("info", sessionInfoJson s.info)] ++ termErrorFields e), r)
  | "info" =>
    let s ← namedSession m step
    return (.obj [("info", sessionInfoJson s.info)], r)
  | "session_close" =>
    let s ← namedSession m step
    return (.obj [("error", .null)], { r with manager := m.update s.close })
  | "close" =>
    match m.close (← namedText m step) with
    | .ok m => return (.obj [], { r with manager := m })
    | .error e => return (.obj (termErrorFields e), r)
  | "close_all" => return (.obj [], { r with manager := m.closeAll })
  | other => throw ("unknown step " ++ other)

/-- The terminal scenario. -/
def terminal (req : Json) : Decode Json := do
  let (answers, _) ← (← req.getList "steps").foldlM (fun (acc : List Json × TerminalRun) step => do
    let (answer, r) ← terminalStep acc.2 step
    return (acc.1 ++ [answer], r)) ([], ⟨Buffer.new 0, Manager.empty⟩)
  return (Labels.empty.maskJson 1000 (.obj [("steps", .arr answers)])).2

end Scenario

end Userland
