import Userland.Json.Basic
import Userland.Text.Quoted

namespace Userland

/-! # Log entries

A structured log entry: a severity, the name of the logger that wrote it (empty
for the root logger), a message, and named fields whose values are JSON.
-/

/-- Severities, least severe first. -/
inductive Level where
  | debug
  | info
  | warn
  | error
  | dpanic
  | panic
  | fatal
  deriving DecidableEq, Repr, Inhabited

namespace Level

/-- The rank of a severity: debug is -1, info 0, and so on up to fatal at 5. -/
def rank : Level → Int
  | .debug => -1
  | .info => 0
  | .warn => 1
  | .error => 2
  | .dpanic => 3
  | .panic => 4
  | .fatal => 5

/-- The lowercase name. -/
def name : Level → String
  | .debug => "debug"
  | .info => "info"
  | .warn => "warn"
  | .error => "error"
  | .dpanic => "dpanic"
  | .panic => "panic"
  | .fatal => "fatal"

/-- Every severity, least severe first. -/
def all : List Level := [.debug, .info, .warn, .error, .dpanic, .panic, .fatal]

/-- The uppercase name. -/
def capital : Level → String
  | .debug => "DEBUG"
  | .info => "INFO"
  | .warn => "WARN"
  | .error => "ERROR"
  | .dpanic => "DPANIC"
  | .panic => "PANIC"
  | .fatal => "FATAL"

/-- The terminal colour of a severity's name: magenta for debug, blue for
info, yellow for warnings and red for errors and worse. -/
def color : Level → Nat
  | .debug => 35
  | .info => 34
  | .warn => 33
  | _ => 31

/-- The uppercase name between the terminal codes of its colour. -/
def colored (l : Level) : String :=
  String.ofList [Char.ofNat 27] ++ "[" ++ toString l.color ++ "m" ++ l.capital ++
    String.ofList [Char.ofNat 27] ++ "[0m"

/-- The severity a name gives, in any case; the empty name is info. -/
def parse (s : String) : Except String Level :=
  match s.toLower with
  | "debug" => .ok .debug
  | "info" | "" => .ok .info
  | "warn" => .ok .warn
  | "error" => .ok .error
  | "dpanic" => .ok .dpanic
  | "panic" => .ok .panic
  | "fatal" => .ok .fatal
  | _ => .error ("unrecognized level: " ++ Text.quote s)

end Level

/-- One log entry. -/
structure LogEntry where
  level : Level
  logger : String
  msg : String
  fields : List (String × Json)
  deriving Inhabited

end Userland
