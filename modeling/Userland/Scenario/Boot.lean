import Userland.Boot.Launch
import Userland.Scenario.Fields
import Userland.Files.Memory
import Userland.Text.Utf8

namespace Userland

/-! # Boot scenarios

Reading a manifest from text in a given format, or from a file whose
extension names the format, and launching a manifest against a set of calls
that the scenario plays: creation call `n` gives the `n`-th of the listed pids
(or `n`), waiting on a pid gives its listed code (or ten times the pid), and
the one call named by `fail` fails.
-/

namespace Scenario

open Boot

/-- An entry of a manifest in JSON. -/
def programJson (p : Program) : Json :=
  .obj [("name", .str p.name), ("path", .str p.path), ("args", Json.strs p.args), ("cwd", .str p.cwd),
    ("pipe_stdin", .bool p.pipeStdin), ("pipe_stdout", .bool p.pipeStdout),
    ("stdin_from", .str p.stdinFrom), ("start", .bool p.start), ("wait", .bool p.wait)]

/-- Why a manifest could not be read, in JSON. -/
def manifestErrorFields : ManifestError → List (String × Json)
  | .yaml _ => [("error", .str "YAMLParseError")]
  | .toml _ => [("error", .str "TOMLParseError")]
  | .invalid msg => [("error", .str "Invalid"), ("message", .str msg)]
  | .crash _ => [("error", .str "panic")]

/-- A manifest read, or why not, in JSON. -/
def manifestAnswer : Except ManifestError Manifest → Json
  | .ok m => .obj [("programs", .arr (m.programs.map programJson))]
  | .error e => .obj (manifestErrorFields e)

/-- The manifest scenario. -/
def manifest (req : Json) : Decode Json := do
  let data ← req.getBytes "data"
  let format ← req.getStr "format"
  return manifestAnswer (Manifest.parse (Utf8.decodeLossy data) format)

/-- The manifest-loading scenario. -/
def manifestLoad (req : Json) : Decode Json := do
  let fs := Memory.ofFiles (← req.getByteMap "files")
  let path ← req.getStr "path"
  match (fs.readFile path).1 with
  | .error e => return .obj [("error", .str "ReadError"), ("message", .str ("read manifest: " ++ e.message))]
  | .ok data => return manifestAnswer (Manifest.parse (Utf8.decodeLossy data) (extension path))

/-- What a launch did to one entry, in JSON. -/
def launchedJson (l : Launched) : Json :=
  .obj [("name", .str l.name), ("path", .str l.path), ("pid", .int l.pid), ("started", .bool l.started),
    ("exited", .bool l.exited), ("code", .int l.code)]

/-- A launch's outcome in JSON: what it launched, and its failure. -/
def launchFields (r : List Launched × Option String) : List (String × Json) :=
  [("launched", .arr (r.1.map launchedJson))] ++
    match r.2 with
    | some msg => [("error", .str "Error"), ("message", .str msg)]
    | none => []

/-- The calls a played launch has seen, and the pids it watched. -/
structure PlayedCalls where
  calls : Array Json
  creates : Nat
  watched : Array Int

/-- The calls of a launch played by the scenario. -/
def playedSyscalls (fail : String) (codes : List (String × Int)) (pids : List Int) :
    Syscalls (StateM PlayedCalls) :=
  let record (j : Json) : StateM PlayedCalls Unit := modify fun s => { s with calls := s.calls.push j }
  let refused (call : String) : Except Fault Unit := if fail == call then .error (.other "refused") else .ok ()
  { create := fun req => do
      let n := (← get).creates + 1
      modify fun s => { s with creates := n }
      record (.obj [("call", .str "create"), ("path", .str req.path), ("args", Json.strs req.args),
        ("cwd", .str req.cwd), ("pipe_stdin", .bool req.pipeStdin), ("pipe_stdout", .bool req.pipeStdout),
        ("start", .bool req.start)])
      return (refused ("create " ++ toString n)).map fun () => pids.getD (n - 1) (n : Int)
    pipe := fun o i => do
      record (.obj [("call", .str "pipe"), ("out", .int o), ("in", .int i)])
      return refused ("pipe " ++ toString i)
    start := fun pid => do
      record (.obj [("call", .str "start"), ("pid", .int pid)])
      return refused ("start " ++ toString pid)
    watch := fun pid => do
      record (.obj [("call", .str "watch"), ("pid", .int pid)])
      match refused ("watch " ++ toString pid) with
      | .error e => return .error e
      | .ok () =>
        let h := (← get).watched.size
        modify fun s => { s with watched := s.watched.push pid }
        return .ok h
    await := fun h => do
      let pid := (← get).watched.getD h 0
      if fail == "wait " ++ toString pid then return .error (.other "wait refused")
      return .ok ((codes.lookup (toString pid)).getD (pid * 10))
    report := fun _ => pure () }

/-- An entry of a manifest given in JSON. -/
def programOf (j : Json) : Decode Program := do
  return { name := ← j.getStr "name", path := ← j.getStr "path", args := ← j.getStrs "args",
           cwd := ← j.getStr "cwd", pipeStdin := ← j.getBool "pipe_stdin",
           pipeStdout := ← j.getBool "pipe_stdout", stdinFrom := ← j.getStr "stdin_from",
           start := ← j.getBool "start", wait := ← j.getBool "wait" }

/-- The launch scenario. -/
def launch (req : Json) : Decode Json := do
  let programs ← (← req.getList "programs").mapM programOf
  let codes ← (← req.getMembers "codes").mapM fun (k, v) => return (k, ← v.asInt k)
  let pids ← req.getInts "pids"
  let sys := playedSyscalls (← req.getStr "fail") codes pids
  let (r, s) := (Boot.launch sys ⟨programs⟩).run ⟨#[], 0, #[]⟩
  return .obj ([("calls", .arr s.calls.toList)] ++ launchFields r)

end Scenario

end Userland
