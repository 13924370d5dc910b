import Userland.Log.Entry
import Userland.Json.Print

namespace Userland

/-! # Writing log entries

An entry is written as a JSON object or as a console line. The JSON object
holds the lowercase level, the logger's name when it has one, the message, and
then the fields in order. A console line has tab-separated columns: the
uppercase level in its colour, the logger's name when it has one, the message,
and the fields as one JSON object with a blank after each colon and comma.

The time and the caller, which both forms also carry, are left out: they do
not belong to what the program says.
-/

namespace LogEntry

/-- The entry as a JSON object. -/
def toJson (e : LogEntry) : Json :=
  .obj ([("level", .str e.level.name)] ++
    (if e.logger.isEmpty then [] else [("logger", .str e.logger)]) ++
    [("message", .str e.msg)] ++ e.fields)

/-- Fields as one JSON object with blanks after colons and commas. -/
def spacedFields (fs : List (String × Json)) : String :=
  "\x7b" ++ ", ".intercalate (fs.map fun (k, v) => Json.quote k ++ ": " ++ v.render) ++ "\x7d"

/-- The entry's console columns. -/
def consoleColumns (e : LogEntry) : List String :=
  [e.level.colored] ++ (if e.logger.isEmpty then [] else [e.logger]) ++ [e.msg] ++
    (if e.fields.isEmpty then [] else [spacedFields e.fields])

end LogEntry

end Userland
