import Userland.Daemon.Config
import Userland.Scenario.Fields

namespace Userland

/-! # Configuration scenarios

The daemon's configuration loaded from a given environment, strictly or
falling back to the defaults, in JSON by section.
-/

namespace Scenario

/-- A configuration in JSON, by section. -/
def configJson (c : Daemon.Config) : Json :=
  .obj [("server", .obj [("port", .str c.port), ("host", .str c.host), ("cors_origins", Json.strs c.corsOrigins)]),
    ("process", .obj [("max_pid", .int c.maxPid), ("pipe_size", .int c.pipeSize),
      ("signal_size", .int c.signalSize), ("require_tty", .bool c.requireTty),
      ("program_root", .str c.programRoot), ("default_program", .str c.defaultProgram)]),
    ("runtime", .obj [("stack_size", .int c.stackSize), ("enable_console", .bool c.enableConsole)]),
    ("boot", .obj [("manifest", .str c.bootManifest)]),
    ("logging", .obj [("level", .str c.logLevel), ("development", .bool c.logDev)]),
    ("rate_limit", .obj [("rps", .int c.rateLimitRps), ("burst", .int c.rateLimitBurst),
      ("enabled", .bool c.rateLimitEnabled)])]

/-- The configuration scenario. -/
def config (req : Json) : Decode Json := do
  let env ← req.getStrMap "env"
  if ← req.getBool "default" then return configJson (Daemon.Config.loadOrDefault env)
  match Daemon.Config.load env with
  | .ok c => return configJson c
  | .error (.environment ..) => return .obj [("error", .str "EnvError")]
  | .error (.invalid msg) => return .obj [("error", .str "Invalid"), ("message", .str msg)]

end Scenario

end Userland
