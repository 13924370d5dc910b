import Userland.Scenario.Fields
import Userland.Files.Memory
import Userland.Program.Routes

namespace Userland

/-! # File scenarios

Name resolution, an in-memory file system driven step by step, and program
routes looked up by path.
-/

namespace Scenario

/-- The resolve scenario. -/
def resolve (req : Json) : Decode Json := do
  return .obj [("path", .str (Path.resolve (← req.getStr "cwd") (← req.getStr "name")))]

/-- The open mode a step names: `r`, `w`, `a` or a number; reading by default. -/
def openMode (step : Json) : Decode OpenMode :=
  match step.get? "mode" with
  | none => .ok OpenMode.read
  | some (.str "r") => .ok OpenMode.read
  | some (.str "w") => .ok OpenMode.write
  | some (.str "a") => .ok OpenMode.append
  | some (.int n) => .ok n
  | some _ => .error "bad open mode"

/-- Files as an answer: each path with its content in hexadecimal. -/
def filesJson (fs : List (String × List UInt8)) : Json :=
  .obj (fs.map fun (p, d) => (p, hexJson d))

/-- The members reporting a result with no value. -/
def unitFields : Except Fault Unit → List (String × Json)
  | .ok () => []
  | .error e => e.fields

/-- One step on the in-memory file system. -/
def memoryStep (m : Memory) (step : Json) : Decode (Memory × List (String × Json)) := do
  match ← step.getStr "do" with
  | "open" =>
    match m.openFile (← step.getStr "path") (← openMode step) with
    | .ok (fd, m') => return (m', [("fd", .int fd)])
    | .error e => return (m, ("fd", .int (-1)) :: e.fields)
  | "read_all" =>
    match m.readAll (← step.getInt "fd") with
    | .ok d => return (m, [("hex", hexJson d)])
    | .error e => return (m, e.fields)
  | "write" =>
    match m.write (← step.getInt "fd") (← step.getBytes "data") with
    | .ok m' => return (m', [])
    | .error e => return (m, e.fields)
  | "close" =>
    match m.close (← step.getInt "fd") with
    | .ok m' => return (m', [])
    | .error e => return (m, e.fields)
  | "glob" =>
    match m.glob (← step.getStr "pattern") with
    | .ok ms => return (m, [("matches", Json.strs ms)])
    | .error e => return (m, e.fields)
  | "get" =>
    let d := m.get? (← step.getStr "path")
    return (m, [("found", .bool d.isSome), ("hex", hexJson (d.getD []))])
  | "put" => return (m.put (← step.getStr "path") (← step.getBytes "data"), [])
  | "read_file" =>
    let (r, m') := m.readFile (← step.getStr "path")
    match r with
    | .ok d => return (m', [("hex", hexJson d)])
    | .error e => return (m', e.fields)
  | "write_file" =>
    let (r, m') := m.writeFile (← step.getStr "path") (← step.getBytes "data")
    return (m', unitFields r)
  | "files" => return (m, [("files", filesJson m.listing)])
  | other => throw ("unknown fs step " ++ other)

/-- Runs file system steps in order. -/
def memorySteps (m : Memory) : List Json → Decode (List Json)
  | [] => return []
  | s :: rest => do
    let (m', fs) ← memoryStep m s
    return .obj fs :: (← memorySteps m' rest)

/-- The in-memory file system scenario. -/
def memoryFs (req : Json) : Decode Json := do
  let m := Memory.ofFiles (← req.getByteMap "files")
  return .obj [("steps", .arr (← memorySteps m (← req.getList "steps")))]

/-- The routes scenario: pattern `i` runs a program that exits with `i`, and the
fallback, if there is one, exits with -1. -/
def routes (req : Json) : Decode Json := do
  let patterns ← req.getStrs "patterns"
  let fallback : Option Int := if ← req.getBool "fallback" then some (-1) else none
  let (r, handles) := (patterns.zipIdx).foldl (fun (r, hs) (p, i) =>
      match r.add p (i : Int) with
      | .ok r' => (r', hs ++ [Json.null])
      | .error e => (r, hs ++ [Json.obj e.fields])) (Routes.empty fallback, [])
  let paths ← req.getStrs "paths"
  let answers := paths.map fun path =>
    let base := [("path", Json.str path), ("provides", .bool (r.provides path))]
    match r.select? path with
    | some code => .obj (base ++ [("code", .int code)])
    | none =>
      let (code, e) := Routes.unrouted path
      .obj (base ++ [("code", .int code)] ++ e.fields)
  return .obj [("handle", .arr handles), ("routes", .arr answers)]

end Scenario

end Userland
