import Userland.Daemon.Command
import Userland.Daemon.Startup
import Userland.Log.Logger

namespace Userland

/-! # Running the daemon

The daemon reads its settings from the environment, then its flags; a
setting that does not read, a flag error or a logger level that is not one
ends it at once with a message on its standard error (exit code 1, or 2 for
a flag error; asking for the usage text exits with 0).

It then creates its server: settings that do not work together are a fatal
log entry (exit code 1). Otherwise it logs that it is initializing, serves
the program root or, when that cannot be made, an empty memory file system
(with a warning), logs the rate limit when there is one and that the server
is ready.

Running, the supervisor logs that it started, the server that it listens on
its address, and the boot manifest, if any, is launched. A failure to
listen is logged as a server error after the shutdown (exit code 1).
Otherwise the daemon runs until it is told to stop: it then shuts down and
logs that it is done (exit code 0).

Every entry is written as a line by the logger, below its level nothing:
the server's own entries under their component, the supervisor's under
`process`, an execution unit's under `unit` with the unit's id, and an entry
for every process that left the table.
-/

namespace Daemon

/-- How a run of the daemon ends before it serves: its exit code and what it
wrote to its standard error. -/
structure Exit where
  code : Int
  stderr : String
  deriving Inhabited, Repr

/-- The settings from the environment and the command line, with the logger
they ask for; or how the daemon exits when they do not work. -/
def configure (program : String) (args : List String) (env : List (String × String)) :
    Except Exit (Config × Logger) :=
  match Config.load env with
  | .error e => .error ⟨1, "procd: " ++ e.message ++ "\n"⟩
  | .ok cfg =>
    let defaults := flagDefaults cfg
    match parseFlags args defaults with
    | .error .help => .error ⟨0, usageText program defaults⟩
    | .error e => .error ⟨2, e.message ++ "\n" ++ usageText program defaults⟩
    | .ok values =>
      let cfg := cfg.withFlags values
      match Logger.new (LoggerConfig.ofSettings cfg.logLevel cfg.logDev) with
      | .error msg => .error ⟨1, "procd: " ++ msg ++ "\n"⟩
      | .ok logger => .ok (cfg, logger)

/-- A daemon that has created its server: its settings, its logger, the
host's files and its working directory, the world it runs in and the host's
client of its supervisor. -/
structure Instance where
  cfg : Config
  logger : Logger
  tree : HostTree
  cwd : String
  world : World
  client : Client

/-- An entry of the daemon's own, at info level. -/
def note (msg : String) (fields : List (String × Json)) : LogEntry := ⟨.info, "", msg, fields⟩

/-- Creates the server in a working directory: the daemon, with what it
logged in its server log, or the fatal entry when the settings do not work. -/
def create (cfg : Config) (logger : Logger) (tree : HostTree) (cwd : String) : Except LogEntry Instance :=
  match cfg.problem with
  | some msg => .error ⟨.fatal, "", "Failed to create server", [("error", .str msg)]⟩
  | none =>
    let (files, unavailable) : Files × List LogEntry :=
      match DirFs.new tree (absolutePath cwd cfg.programRoot) with
      | .ok d => (.dir d, [])
      | .error e =>
        (.memory (Memory.ofFiles []),
          [⟨.warn, "", "Program root unavailable, using an in-memory filesystem",
            [("root", .str cfg.programRoot), ("error", .str e.message)]⟩])
    let entries := [note "Initializing process supervisor"
        [("port", .str cfg.port), ("max_pid", .int cfg.maxPid), ("program_root", .str cfg.programRoot)]] ++
      unavailable ++
      (if cfg.rateLimitEnabled then
        [note "Rate limiting enabled" [("rps", .int cfg.rateLimitRps), ("burst", .int cfg.rateLimitBurst)]]
       else []) ++
      [note "Server initialized successfully" []]
    let w := world cfg files
    let w := { w with machine := { w.machine with web := { w.machine.web with logs := entries.toArray } } }
    .ok ⟨cfg, logger, tree, cwd, w, Client.ofHost .host w.machine.supervisor.config.replySize⟩

/-- An entry of the machine's log with the component that logged it: the
supervisor's under `process`, an execution unit's under `unit` with the
unit's id. -/
def attributed (e : LogEntry) : LogEntry :=
  if e.logger.isEmpty then { e with logger := "process", fields := ("component", .str "process") :: e.fields }
  else { e with logger := "unit", fields := ("component", .str "unit") :: ("unit", .str e.logger) :: e.fields }

/-- A server log entry, with its component when it has one. -/
def tagged (e : LogEntry) : LogEntry :=
  if e.logger.isEmpty then e else { e with fields := ("component", .str e.logger) :: e.fields }

/-- The entries of processes that left the table. -/
def exitEntries (m : Machine) : List LogEntry :=
  m.exits.toList.map fun x =>
    ⟨.info, "process", "Process left the table", [("component", .str "process"), ("pid", .int x.pid),
      ("path", .str x.path), ("code", .int x.code), ("reason", .str x.reason)]⟩

/-- Every entry logged on a machine so far. -/
def entries (m : Machine) : List LogEntry :=
  m.web.logs.toList.map tagged ++ m.logs.toList.map attributed ++ exitEntries m

/-- The text of a console column. -/
def columnText : Json → String
  | .str s => s
  | j => j.render

/-- The line a logger writes for an entry, if it writes one: the JSON object,
or the console columns separated by tabs. -/
def render (l : Logger) (e : LogEntry) : Option String :=
  (l.line e).map fun j =>
    match j with
    | .arr cols => "\t".intercalate (cols.map columnText)
    | j => j.render

/-- The lines written for the entries logged on a machine so far. -/
def Instance.lines (i : Instance) (m : Machine) : List String :=
  (entries m).filterMap (render i.logger)

/-- When the daemon is told to stop: `grace` nanoseconds after it first
writes a line containing `ready`, or at `limit` when it writes none by then. -/
structure StopRule where
  ready : String
  grace : Nat
  limit : Nat
  deriving Inhabited, Repr

/-- Whether a text contains another. -/
def contains (s part : String) : Bool := (s.splitOn part).length > 1

/-- Tells the daemon to stop by the rule, through a cancellation handle. -/
def Instance.stopper (i : Instance) (rule : StopRule) (stop : Nat) : Prog Unit := do
  let deadline := (← Prog.now) + rule.limit
  Prog.await (fun m =>
    if (i.lines m).any (contains · rule.ready) || deadline ≤ m.clock then some ((), m) else none)
    (some deadline)
  let _ ← Ctx.background.sleep rule.grace
  Prog.change (·.cancel stop)

/-- The address the server listens on. -/
def listenAddress (host port : String) : String :=
  if host.toList.contains ':' then "[" ++ host ++ "]:" ++ port else host ++ ":" ++ port

/-- How a run of the daemon went: its exit code, the lines it wrote, its
standard error, and whether it was stopped without writing the line it was
waited for. -/
structure Outcome where
  code : Int
  lines : List String
  stderr : String
  late : Bool
  deriving Inhabited, Repr

/-- Runs a created daemon until the rule stops it. -/
def Instance.serve (i : Instance) (rule : StopRule) : Outcome :=
  let cfg := i.cfg
  let m := i.world.machine.log .info "" "Process manager started" [("max_pid", .int cfg.maxPid), ("pipe_size", .int cfg.pipeSize)]
  let listening := note "Starting HTTP server" [("addr", .str (listenAddress cfg.host cfg.port))]
  let m := { m with web := { m.web with logs := m.web.logs.push listening } }
  let w := { i.world with machine := m }
  let boot (ctx : Ctx) : Prog Unit :=
    if cfg.bootManifest.isEmpty then pure ()
    else bootstrap i.tree i.cwd cfg.bootManifest i.client ctx
  let finish (w : World) (tail : List LogEntry) : List String :=
    i.lines { w.machine with web := { w.machine.web with logs := w.machine.web.logs ++ tail.toArray } }
  match listenFailure? cfg.port with
  | some failure =>
    let w := (World.runMain World.defaultFuel w (boot { Ctx.background with cancelled := true })).2
    ⟨1, finish w [note "Shutting down server..." [],
      ⟨.error, "", "Server error", [("error", .str ("http server: " ++ failure))]⟩], "", false⟩
  | none =>
    let (stop, m) := w.machine.newCancel
    let w := { w with machine := m, tasks := w.tasks ++ [i.stopper rule stop] }
    let main : Prog Unit := do
      boot { Ctx.background with handles := [stop] }
      Prog.await (fun m => if m.isCancelled stop then some ((), m) else none) none
    let w := (World.runMain World.defaultFuel w main).2
    let seen := (i.lines w.machine).any (contains · rule.ready)
    ⟨0, finish w [note "Shutting down server..." [], note "Shutdown complete" []], "", !seen⟩

/-- A run of the daemon with a program name, arguments and environment, over
the host's files from a working directory, stopped by a rule. -/
def session (program : String) (args : List String) (env : List (String × String)) (tree : HostTree)
    (cwd : String) (rule : StopRule) : Outcome :=
  match configure program args env with
  | .error x => ⟨x.code, [], x.stderr, false⟩
  | .ok (cfg, logger) =>
    match create cfg logger tree cwd with
    | .error fatal => ⟨1, (render logger fatal).toList, "", false⟩
    | .ok i => i.serve rule

end Daemon

end Userland
