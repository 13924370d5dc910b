namespace Userland

/-! # JSON values

The value type every request, answer and wire body goes through. Members of an
object keep the order they were written in; a lookup takes the last member of a
name, which is how a reader that fills a record from an object behaves when a
name repeats.

Numbers keep the form they were written in: an integer literal is an `Int`,
anything with a fraction or an exponent keeps its text, so that a value passed
through unchanged is written back as it came.
-/

/-- A JSON value with ordered object members. -/
inductive Json where
  | null
  | bool (b : Bool)
  | int (n : Int)
  | num (text : String)
  | str (s : String)
  | arr (items : List Json)
  | obj (fields : List (String × Json))
  deriving Inhabited, Repr

namespace Json

/-- The value of member `k`, the last one when the name repeats. -/
def field? : Json → String → Option Json
  | .obj fs, k => (fs.reverse.find? (·.1 == k)).map (·.2)
  | _, _ => none

/-- Member `k`, where a missing member and `null` both read as absent. -/
def get? (j : Json) (k : String) : Option Json :=
  match j.field? k with
  | some .null => none
  | v => v

/-- Whether the value is an object that has member `k` with a value other than `null`. -/
def has (j : Json) (k : String) : Bool := (j.get? k).isSome

/-- A list of strings as an array. -/
def strs (xs : List String) : Json := .arr (xs.map .str)

/-- Adds the members of `extra` after those of an object; other values are kept. -/
def merge : Json → List (String × Json) → Json
  | .obj fs, extra => .obj (fs ++ extra)
  | j, _ => j

end Json

end Userland
