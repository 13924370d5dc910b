import Userland.Scenario.Http
import Userland.Daemon.Startup

namespace Userland

/-! # Serving with a boot manifest

The daemon starts with the scenario's configuration: it listens on its host
and port and, with a manifest, reads and launches it. The manifest is written
to `boot/` under the scratch directory, or, when its directory is to be
missing, its path runs through a regular file. A failure to listen ends the
run with that failure and ends the boot's context with it.

The answer is the run's failure, if any, and the log entries whose message
starts with `Boot`, in order, each with its fields and the component that
logged it.
-/

namespace Scenario

open Host

/-- A log entry as the boot answer shows it. -/
def bootEntryJson (e : LogEntry) : Json :=
  .obj ([("msg", .str e.msg)] ++ (if e.logger.isEmpty then [] else [("component", .str e.logger)]) ++ e.fields)

/-- The host tree with the manifest written in place, and the path configured
for it: under `boot/`, or below a regular file when its directory is missing. -/
def placeManifest (tree : HostTree) (data : List UInt8) (name : String) (dirMissing : Bool) :
    HostTree × String :=
  if dirMissing then
    (tree.put (scratchPath ++ ["file_not_dir"]) (.file 0o644 ByteArray.empty),
      showPath (scratchPath ++ ["file_not_dir", "x", name]))
  else
    let dir := scratchPath ++ ["boot"]
    let t := tree.put dir (.dir 0o755)
    let t := match t.openWrite (dir ++ [name]) true with
      | .ok (q, t) => t.writeAt q 0 ⟨data.toArray⟩
      | .error _ => t
    (t, showPath (dir ++ [name]))

/-- The serve scenario. -/
def serve (req : Json) : Decode Json := do
  let c := (req.get? "config").getD (.obj [])
  let cfg ← serviceConfig c
  match cfg.problem with
  | some msg => return .obj [("error", .str "Error"), ("message", .str msg)]
  | none =>
    let (tree, root) := programTree (← c.getByteMap "files") (← c.getBool "no_root")
    let name ← req.getStrOr "manifest_name" "boot.yaml"
    let dirMissing ← req.getBool "manifest_dir_missing"
    let placed := match ← req.getBytes? "manifest" with
      | some data => some (placeManifest tree data name dirMissing)
      | none => none
    let tree := (placed.map (·.1)).getD tree
    let cfg := { cfg with programRoot := root, bootManifest := (placed.map (·.2)).getD "" }
    let w := Daemon.world cfg (programFiles tree root)
    let client := Client.ofHost .host w.machine.supervisor.config.replySize
    let failure := Daemon.listenFailure? cfg.port
    let ctx : Ctx := { Ctx.background with cancelled := failure.isSome }
    let w := if cfg.bootManifest.isEmpty then w
      else (World.runMain World.defaultFuel w (Daemon.bootstrap tree "" cfg.bootManifest client ctx)).2
    let boot := w.machine.web.logs.toList.filter fun e => e.msg.startsWith "Boot"
    return .obj [("run_error", (failure.map fun f => Json.str ("http server: " ++ f)).getD .null),
      ("boot", .arr (boot.map bootEntryJson))]

end Scenario

end Userland
