import Userland.Text.Integer
import Userland.Text.Words

namespace Userland

/-! # The daemon's configuration

The daemon is configured from its environment. Every setting has a variable
and a default:

| setting | variable | default |
|---|---|---|
| server port, host | `PORT`, `HOST` | `8000`, `0.0.0.0` |
| allowed browser origins | `CORS_ORIGINS` (comma separated) | `*` |
| process table size, pipe size, signal size | `MAX_PID`, `PIPE_SIZE`, `SIGNAL_SIZE` | 128, 1024, 32768 |
| whether processes need a terminal | `REQUIRE_TTY` | false |
| program root, default program | `PROGRAM_ROOT`, `DEFAULT_PROGRAM` | `./programs`, `/sys/shell.js` |
| script call depth, script console | `RUNTIME_STACK_SIZE`, `RUNTIME_CONSOLE` | 1024, true |
| boot manifest | `BOOT_MANIFEST` | none |
| log level, development logging | `LOG_LEVEL`, `LOG_DEV` | `info`, false |
| rate limit per second, burst, on | `RATE_LIMIT_RPS`, `RATE_LIMIT_BURST`, `RATE_LIMIT_ENABLED` | 100, 200, true |

A variable may also be given with its section's name in front (`PROCESS_MAX_PID`),
which takes precedence. A set variable is used even when empty. Numbers are
integer literals, flags are `1`, `t`, `true` (in three cases) or their
opposites, and a list is split at commas, the empty text giving no items. A
value that does not read stops the loading.

A loaded configuration must leave the process table at least two slots, pipes
positive room and signals at least 16 bytes.
-/

namespace Daemon

/-- How the daemon runs. -/
structure Config where
  port : String
  host : String
  corsOrigins : List String
  maxPid : Int
  pipeSize : Int
  signalSize : Int
  requireTty : Bool
  programRoot : String
  defaultProgram : String
  stackSize : Int
  enableConsole : Bool
  bootManifest : String
  logLevel : String
  logDev : Bool
  rateLimitRps : Int
  rateLimitBurst : Int
  rateLimitEnabled : Bool
  deriving Inhabited, Repr

/-- The defaults. -/
def Config.default : Config :=
  { port := "8000", host := "0.0.0.0", corsOrigins := ["*"], maxPid := 128, pipeSize := 1024,
    signalSize := 32768, requireTty := false, programRoot := "./programs",
    defaultProgram := "/sys/shell.js", stackSize := 1024, enableConsole := true, bootManifest := "",
    logLevel := "info", logDev := false, rateLimitRps := 100, rateLimitBurst := 200,
    rateLimitEnabled := true }

/-- Why a configuration could not be loaded. -/
inductive ConfigError where
  /-- A variable's value does not read as its setting's type: the variable,
  the setting, its type, the value and why it does not read. -/
  | environment (key setting type value detail : String)
  /-- The settings do not work together. -/
  | invalid (message : String)
  deriving Inhabited, Repr

/-- The text of a configuration failure. -/
def ConfigError.message : ConfigError → String
  | .environment key setting type value detail =>
    "failed to load config: envconfig.Process: assigning " ++ key ++ " to " ++ setting ++
      ": converting " ++ String.singleton (Char.ofNat 39) ++ value ++ String.singleton (Char.ofNat 39) ++
      " to type " ++ type ++ ". details: " ++ detail
  | .invalid msg => msg

/-- A flag's value. -/
def parseFlag? (s : String) : Option Bool :=
  if ["1", "t", "T", "TRUE", "true", "True"].contains s then some true
  else if ["0", "f", "F", "FALSE", "false", "False"].contains s then some false
  else none

/-- A list's value: its comma-separated items, none when the text is all white space. -/
def parseList (s : String) : List String :=
  if s.toList.all Text.isSpace then [] else s.splitOn ","

/-- The value of a setting from the environment: under its section's name
and its own, else under its own, else none. -/
def lookup (env : List (String × String)) (group : String) (name : String) : Option String :=
  (env.lookup (group ++ "_" ++ name)).orElse fun _ => env.lookup name

/-- Reads a number setting, named `setting` in the configuration. -/
def number (env : List (String × String)) (group name setting : String) (dflt : Int) :
    Except ConfigError Int :=
  match lookup env group name with
  | none => .ok dflt
  | some v => match Text.parseLiteral? v with
    | some n => .ok n
    | none => .error (.environment (group ++ "_" ++ name) setting "int" v (Text.literalProblem v))

/-- Reads a flag setting, named `setting` in the configuration. -/
def flag (env : List (String × String)) (group name setting : String) (dflt : Bool) :
    Except ConfigError Bool :=
  match lookup env group name with
  | none => .ok dflt
  | some v => match parseFlag? v with
    | some b => .ok b
    | none => .error (.environment (group ++ "_" ++ name) setting "bool" v
        ("strconv.ParseBool: parsing " ++ Text.quote v ++ ": invalid syntax"))

/-- Reads a text setting. -/
def text (env : List (String × String)) (group name : String) (dflt : String) : String :=
  (lookup env group name).getD dflt

/-- The first problem of a configuration, if any. -/
def Config.problem (c : Config) : Option String :=
  if c.maxPid < 2 then some ("invalid config: MAX_PID must be at least 2, got " ++ toString c.maxPid)
  else if c.pipeSize < 1 then some ("invalid config: PIPE_SIZE must be positive, got " ++ toString c.pipeSize)
  else if c.signalSize < 16 then
    some ("invalid config: SIGNAL_SIZE must be at least 16, got " ++ toString c.signalSize)
  else none

/-- Loads the configuration from an environment, settings in order. -/
def Config.load (env : List (String × String)) : Except ConfigError Config := do
  let d := Config.default
  let port := text env "SERVER" "PORT" d.port
  let host := text env "SERVER" "HOST" d.host
  let corsOrigins := ((lookup env "SERVER" "CORS_ORIGINS").map parseList).getD d.corsOrigins
  let maxPid ← number env "PROCESS" "MAX_PID" "MaxPID" d.maxPid
  let pipeSize ← number env "PROCESS" "PIPE_SIZE" "PipeSize" d.pipeSize
  let signalSize ← number env "PROCESS" "SIGNAL_SIZE" "SignalSize" d.signalSize
  let requireTty ← flag env "PROCESS" "REQUIRE_TTY" "RequireTTY" d.requireTty
  let programRoot := text env "PROCESS" "PROGRAM_ROOT" d.programRoot
  let defaultProgram := text env "PROCESS" "DEFAULT_PROGRAM" d.defaultProgram
  let stackSize ← number env "RUNTIME" "RUNTIME_STACK_SIZE" "StackSize" d.stackSize
  let enableConsole ← flag env "RUNTIME" "RUNTIME_CONSOLE" "EnableConsole" d.enableConsole
  let bootManifest := text env "BOOT" "BOOT_MANIFEST" d.bootManifest
  let logLevel := text env "LOGGING" "LOG_LEVEL" d.logLevel
  let logDev ← flag env "LOGGING" "LOG_DEV" "Development" d.logDev
  let rateLimitRps ← number env "RATELIMIT" "RATE_LIMIT_RPS" "RequestsPerSecond" d.rateLimitRps
  let rateLimitBurst ← number env "RATELIMIT" "RATE_LIMIT_BURST" "Burst" d.rateLimitBurst
  let rateLimitEnabled ← flag env "RATELIMIT" "RATE_LIMIT_ENABLED" "Enabled" d.rateLimitEnabled
  let c : Config :=
    { port, host, corsOrigins, maxPid, pipeSize, signalSize, requireTty, programRoot, defaultProgram,
      stackSize, enableConsole, bootManifest, logLevel, logDev, rateLimitRps, rateLimitBurst,
      rateLimitEnabled }
  match c.problem with
  | some msg => .error (.invalid msg)
  | none => return c

/-- The sections and names of the settings, in the order they are read. -/
def settingNames : List (String × String) :=
  [("SERVER", "PORT"), ("SERVER", "HOST"), ("SERVER", "CORS_ORIGINS"), ("PROCESS", "MAX_PID"),
   ("PROCESS", "PIPE_SIZE"), ("PROCESS", "SIGNAL_SIZE"), ("PROCESS", "REQUIRE_TTY"),
   ("PROCESS", "PROGRAM_ROOT"), ("PROCESS", "DEFAULT_PROGRAM"), ("RUNTIME", "RUNTIME_STACK_SIZE"),
   ("RUNTIME", "RUNTIME_CONSOLE"), ("BOOT", "BOOT_MANIFEST"), ("LOGGING", "LOG_LEVEL"),
   ("LOGGING", "LOG_DEV"), ("RATELIMIT", "RATE_LIMIT_RPS"), ("RATELIMIT", "RATE_LIMIT_BURST"),
   ("RATELIMIT", "RATE_LIMIT_ENABLED")]

/-- The environment variables a setting may be read from: its name under its
section's, and its name alone. -/
def environmentKeys : List String :=
  settingNames.flatMap fun (group, name) => [group ++ "_" ++ name, name]

/-- Loads the configuration, or the defaults when it does not load. -/
def Config.loadOrDefault (env : List (String × String)) : Config :=
  match Config.load env with
  | .ok c => c
  | .error _ => Config.default

end Daemon

end Userland
