import Userland.Service.Server
import Userland.Boot.Host
import Userland.Files.Dir
import Userland.Task.Supervise
import Userland.Script.Run
import Userland.Program.Builtin

namespace Userland

/-! # Starting the daemon

Before it serves, the daemon listens on its host and port. A port is a
decimal number, with an optional sign, or the name of a well-known service;
a number outside `0..65535` is an invalid port and an unknown name an unknown
port, both failures to listen.

With a boot manifest configured, the daemon serves the manifest's directory,
reads the manifest in the format its extension names and launches it through
the host's client, logging under the component `boot` each program it
started and each it waited for. It then logs how the launch went: the number
of programs launched, the launch's failure, or why the manifest could not be
read.
-/

namespace Daemon

/-- The world the daemon runs in: the supervisor's loop and a pool whose
workers run the builtin programs, and scripts for every other path, over the
programs' file system. -/
def world (cfg : Config) (files : Files) : World :=
  let sup := SupervisorConfig.withDefaults cfg.maxPid cfg.pipeSize cfg.signalSize cfg.requireTty
    cfg.defaultProgram
  let runner := Builtin.dispatch (Builtin.routes (some (Script.runner ⟨cfg.stackSize.toNat, cfg.enableConsole⟩)))
  World.system (Machine.new sup .pool files (Builtin.programs.map (·.1))) runner true

/-- The ports of the services a port may be named by. -/
def knownPorts : List (String × Nat) :=
  [("ftp", 21), ("ftps", 990), ("gopher", 70), ("http", 80), ("https", 443), ("imap2", 143),
   ("imap3", 220), ("imaps", 993), ("pop3", 110), ("pop3s", 995), ("smtp", 25), ("submissions", 465),
   ("ssh", 22), ("telnet", 23)]

/-- The number a port's text spells, when it is decimal digits after an
optional sign; the empty text is port zero. -/
def portNumber? (port : String) : Option Int :=
  let (neg, digits) := match port.toList with
    | '+' :: rest => (false, rest)
    | '-' :: rest => (true, rest)
    | cs => (false, cs)
  if port.isEmpty then some 0
  else if digits.all Char.isDigit then
    let n : Int := digits.foldl (fun n d => n * 10 + (d.toNat - '0'.toNat)) 0
    some (if neg then -n else n)
  else none

/-- Why listening on a port fails, if it does. -/
def listenFailure? (port : String) : Option String :=
  match portNumber? port with
  | some n =>
    if n < 0 || n > 65535 then some ("listen tcp: address " ++ port ++ ": invalid port") else none
  | none =>
    if (knownPorts.lookup (Json.lowerAscii port)).isSome then none
    else some ("listen tcp: lookup tcp/" ++ port ++ ": unknown port")

/-- A path made absolute against a working directory. -/
def absolutePath (cwd path : String) : String :=
  if path.startsWith "/" then path else cwd ++ "/" ++ path

/-- The directory part of a path. -/
def dirName (path : String) : String :=
  match (path.splitOn "/").reverse with
  | _ :: rest@(_ :: _) => "/".intercalate rest.reverse
  | _ => "."

/-- The last element of a path. -/
def baseName (path : String) : String := ((path.splitOn "/").getLast?).getD path

/-- The entry a launch logs about a program: started, or waited for with its exit code. -/
def launchedEntry (l : Boot.Launched) : LogEntry :=
  if l.exited then ⟨.info, "boot", "Boot program finished", [("path", .str l.path), ("code", .int l.code)]⟩
  else ⟨.info, "boot", "Boot program started", [("name", .str l.name), ("path", .str l.path), ("pid", .int l.pid)]⟩

/-- Logs an entry of the daemon's own, in the server's log. -/
def logServer (e : LogEntry) : Prog Unit :=
  Prog.change fun m => { m with web := { m.web with logs := m.web.logs.push e } }

/-- Reads the manifest at a path of the host tree: the manifest, or why it
cannot be read, with whether the failure was the directory's. -/
def readManifest (tree : HostTree) (path : String) : Except (Bool × String) Boot.Manifest :=
  match DirFs.new tree (dirName path) with
  | .error e => .error (true, e.message)
  | .ok d =>
    let name := "/" ++ baseName path
    match (d.readFile name).1 with
    | .error e => .error (false, "read manifest: " ++ e.message)
    | .ok data =>
      match Boot.Manifest.parse (Utf8.decodeLossy data) (Boot.extension name) with
      | .error e => .error (false, e.message)
      | .ok m => .ok m

/-- Reads the boot manifest at a path, relative to a working directory, and
launches it through a client under a context, logging in the server's log
how it goes; the entries name the path as it was configured. -/
def bootstrap (tree : HostTree) (cwd path : String) (client : Client) (ctx : Ctx) : Prog Unit := do
  match readManifest tree (absolutePath cwd path) with
  | .error (true, msg) =>
    logServer ⟨.error, "", "Boot manifest unreadable", [("manifest", .str path), ("error", .str msg)]⟩
  | .error (false, msg) =>
    logServer ⟨.error, "", "Boot manifest invalid", [("manifest", .str path), ("error", .str msg)]⟩
  | .ok man =>
    let sys := { client.syscalls ctx with report := fun l => logServer (launchedEntry l) }
    let (out, failure) ← Boot.launch sys man
    match failure with
    | some msg =>
      logServer ⟨.error, "", "Boot launch stopped", [("launched", .int out.length), ("error", .str msg)]⟩
    | none => logServer ⟨.info, "", "Boot manifest launched", [("programs", .int out.length)]⟩

end Daemon

end Userland
