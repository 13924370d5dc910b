import Userland.Scenario.Http
import Userland.Daemon.Run

namespace Userland

/-! # Running the daemon's command

The daemon runs as a command in a fresh scratch directory `<dir>`, its
working directory, with the scenario's programs under `<dir>/root` and, when
there is one, the boot manifest at `<dir>/<manifest_name>` (`boot.yaml`
unless named). In the arguments and the environment's values, `$root` and
`$boot` stand for those two paths; the environment is the scenario's alone.

The daemon is stopped 50 ms after it first writes a line containing the
scenario's `ready` text (`Starting HTTP server` unless given), or after three
seconds without one, which the answer reports as a timeout.

The answer is the exit code, the standard error and the lines written, each
with the scratch directory shown as `<dir>` and every id as `<uuid>`: JSON
lines written again with their members in the order of their names (without
the time of a unit's output entry), console lines as they are, and in the
order of their text, since the daemon's tasks log side by side.
-/

namespace Scenario

open Host

/-- The scratch directory as the daemon sees it: an absolute path. -/
def scratchDir : String := "/" ++ showPath scratchPath

/-- Writes a file of the host tree, when its directory is there. -/
def writeHost (tree : HostTree) (p : HostPath) (data : List UInt8) : HostTree :=
  match tree.openWrite p true with
  | .ok (q, t) => t.writeAt q 0 ⟨data.toArray⟩
  | .error _ => tree

/-- A text with every occurrence of a part replaced. -/
def replaceText (s part by_ : String) : String := by_.intercalate (s.splitOn part)

/-- Whether characters are an id in either case of the hexadecimal digits. -/
def isAnyId (cs : List Char) : Bool := isId (cs.map Char.toLower)

/-- A text with every id written `<uuid>`. -/
def maskUuids (s : String) : String :=
  let rec go : Nat → List Char → List Char → List Char
    | 0, rest, acc => acc.reverse ++ rest
    | _ + 1, [], acc => acc.reverse
    | fuel + 1, c :: rest, acc =>
      if isAnyId ((c :: rest).take 36) then go fuel ((c :: rest).drop 36) ("<uuid>".toList.reverse ++ acc)
      else go fuel rest (c :: acc)
  String.ofList (go (s.length + 1) s.toList [])

/-- A JSON line's members without the ones that vary from run to run. -/
def steadyMembers (fs : List (String × Json)) : List (String × Json) :=
  (fs.filter fun (k, _) => k != "timestamp" && k != "caller" && k != "stacktrace").map fun (k, v) =>
    if k == "entry" then
      match v with
      | .obj es => (k, .obj (es.filter (·.1 != "time")))
      | v => (k, v)
    else (k, v)

/-- A line written, as the answer shows it, if it shows it: a JSON line
written again, a console line as it is. -/
def steadyLine (line : String) : Option String :=
  let line := replaceText line scratchDir (showPath scratchPath)
  if line.startsWith "\x7b" then
    match Json.parse line with
    | .ok (.obj fs) => some (maskUuids (marshal (.obj (steadyMembers fs))))
    | _ => none
  else if line.toList.contains '\t' then some (maskUuids line)
  else none

/-- The procd scenario. -/
def procd (req : Json) : Decode Json := do
  let args ← req.getStrs "args"
  let env ← req.getStrMap "env"
  let files ← req.getByteMap "files"
  let manifest ← req.getBytes? "manifest"
  let name ← req.getStrOr "manifest_name" "boot.yaml"
  let ready ← req.getStrOr "ready" "Starting HTTP server"
  let (tree, _) := programTree files false
  let tree := match manifest with
    | some data => writeHost tree (scratchPath ++ [name]) data
    | none => tree
  let stand (s : String) : String :=
    replaceText (replaceText s "$root" (scratchDir ++ "/root")) "$boot" (scratchDir ++ "/" ++ name)
  let out := Daemon.session "procd" (args.map stand) (env.map fun (k, v) => (k, stand v)) tree scratchDir
    ⟨ready, 50 * millis, 3000 * millis⟩
  let log := (out.lines.filterMap steadyLine).mergeSort fun a b => !(b < a)
  return .obj ([("code", .int out.code),
    ("stderr", .str (replaceText out.stderr scratchDir (showPath scratchPath))),
    ("log", Json.strs log)] ++ (if out.late then [("timed_out", .bool true)] else []))

end Scenario

end Userland
