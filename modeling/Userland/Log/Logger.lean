import Userland.Log.Encode

namespace Userland

/-! # Loggers

A logger writes the entries at or above its level, which can change while it
runs. A development logger writes console lines; any other writes JSON
objects. Whatever its level, a logger panics after an entry at panic level or
worse, and a development logger also after one at dpanic level.

A logger is built from settings: a level name, whether it is for development,
and where its output goes (standard output by default).
-/

/-- How to build a logger. -/
structure LoggerConfig where
  level : String
  development : Bool
  outputs : List String
  deriving Inhabited, Repr

namespace LoggerConfig

/-- Info level, JSON, to standard output. -/
def default : LoggerConfig := ⟨"info", false, ["stdout"]⟩

/-- The settings for a level name (the empty name keeps info) and a development flag. -/
def ofSettings (level : String) (development : Bool) : LoggerConfig :=
  { default with level := if level.isEmpty then default.level else level, development }

end LoggerConfig

/-- A running logger. -/
structure Logger where
  level : Level
  development : Bool
  deriving Inhabited, Repr

namespace Logger

/-- Builds a logger; a level name that is not one is an error. -/
def new (c : LoggerConfig) : Except String Logger := do
  return ⟨← Level.parse c.level, c.development⟩

/-- Whether entries at a level are written. -/
def enabled (l : Logger) (lvl : Level) : Bool := lvl.rank ≥ l.level.rank

/-- Whether an entry at a level makes the logger panic after it. -/
def panicsAt (l : Logger) (lvl : Level) : Bool :=
  lvl == .panic || lvl == .fatal || (lvl == .dpanic && l.development)

/-- Changes the level to the one a name gives; a bad name changes nothing. -/
def setLevel (l : Logger) (name : String) : Except String Logger := do
  return { l with level := ← Level.parse name }

/-- What the logger writes for an entry: a JSON object, or console columns
for a development logger; nothing below its level. -/
def line (l : Logger) (e : LogEntry) : Option Json :=
  if !l.enabled e.level then none
  else if l.development then some (Json.strs e.consoleColumns)
  else some e.toJson

end Logger

end Userland
