import Userland.Log.Logger
import Userland.Scenario.Fields

namespace Userland

/-! # Logging scenarios

A logger built from a level and a development flag (or from the daemon's
logging settings), then a run of steps: writing entries, changing the level
and asking whether a level is enabled. The answer has the settings, the
logger's level when built, what each step answered and the lines written.

Fields of an entry are added in the order of their names: integers as
integers, other numbers as the text they were written in, booleans and texts
as themselves, and anything else as its JSON with the members of objects in
the order of their names. An entry written through a component's logger is
named after the component and carries it as its first field.
-/

namespace Scenario

/-- A JSON value with the members of every object in the order of their
names, at most `fuel` levels deep. -/
def sortKeys : Nat → Json → Json
  | 0, j => j
  | fuel + 1, .obj fs =>
    .obj ((fs.map fun (k, v) => (k, sortKeys fuel v)).mergeSort fun a b => a.1 ≤ b.1)
  | fuel + 1, .arr xs => .arr (xs.map (sortKeys fuel))
  | _, j => j

/-- The value of an entry's field given in JSON. -/
def fieldValue : Json → Json
  | .num t => .str t
  | j => sortKeys 64 j

/-- The fields of an entry given as a JSON object, in the order of their names. -/
def entryFields (j : Json) : List (String × Json) :=
  match j with
  | .obj fs => ((fs.map fun (k, v) => (k, fieldValue v)).mergeSort fun a b => a.1 ≤ b.1)
  | _ => []

/-- The steps of a logging scenario: the answers and the lines written. -/
def loggingSteps : Logger → List Json → List Json → Array Json → Decode (List Json × Array Json)
  | _, [], acc, lines => return (acc.reverse, lines)
  | l, step :: rest, acc, lines => do
    match ← step.getStr "do" with
    | "log" =>
      let lvl ← match Level.parse (← step.getStr "level") with
        | .ok v => pure v
        | .error e => throw e
      let component ← step.getStr "component"
      let fields := (if component.isEmpty then [] else [("component", Json.str component)]) ++
        entryFields ((step.get? "fields").getD (.obj []))
      let entry : LogEntry := ⟨lvl, component, ← step.getStr "msg", fields⟩
      let lines := match l.line entry with
        | some j => lines.push j
        | none => lines
      loggingSteps l rest (Json.obj [("panicked", .bool (l.panicsAt lvl))] :: acc) lines
    | "set_level" =>
      match l.setLevel (← step.getStr "level") with
      | .ok l => loggingSteps l rest (Json.obj [("level", .str l.level.name)] :: acc) lines
      | .error msg =>
        let answer := Json.obj [("level", .str l.level.name), ("error", .str "Error"), ("message", .str msg)]
        loggingSteps l rest (answer :: acc) lines
    | "enabled" =>
      let lvl ← match Level.parse (← step.getStr "level") with
        | .ok v => pure v
        | .error e => throw e
      loggingSteps l rest (Json.obj [("enabled", .bool (l.enabled lvl))] :: acc) lines
    | _ => loggingSteps l rest (Json.obj [] :: acc) lines

/-- The logging scenario. -/
def logging (req : Json) : Decode Json := do
  let cfg ← match req.get? "from_config" with
    | some fc => pure (LoggerConfig.ofSettings (← fc.getStr "level") (← fc.getBool "dev"))
    | none => do
      pure { LoggerConfig.default with level := (← req.getStr? "level").getD LoggerConfig.default.level,
                                       development := ← req.getBool "dev" }
  let configJson := Json.obj [("level", .str cfg.level), ("dev", .bool cfg.development),
    ("outputs", Json.strs cfg.outputs)]
  match Logger.new cfg with
  | .error msg => return .obj [("config", configJson), ("error", .str "Error"), ("message", .str msg)]
  | .ok l =>
    let (answers, lines) ← loggingSteps l (← req.getList "steps") [] #[]
    let defaultLevel := if ← req.getBool "new_default" then
        match Logger.new LoggerConfig.default with
        | .ok d => [("default_level", Json.str d.level.name)]
        | .error _ => []
      else []
    let linesField := if ← req.getBool "default_outputs" then [] else [("lines", Json.arr lines.toList)]
    return .obj ([("config", configJson), ("level", .str l.level.name), ("steps", .arr answers)] ++
      linesField ++ defaultLevel)

end Scenario

end Userland
