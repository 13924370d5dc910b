import Userland.Json.Parse
import Userland.Text.Utf8

namespace Userland

/-! # Binding a body to a record

A request body is bound to a record of typed fields the way a strict decoder
for typed records does it.

Only the first JSON value of the body is read; whatever follows it is left
alone. A body of nothing but blanks has no value at all, and one that ends
inside its value ends unexpectedly. A body whose reading fails after its
bytes fails the same way unless those bytes already finish a value; a number
at the very end is not finished, as more digits could follow. A syntax error
is reported as the reader names it.

The value must be an object, or null, which binds nothing. Members are matched
to fields by name, exactly or else ignoring case, where the long s and the
Kelvin sign are the letters s and k (field names are ASCII, and those are the
only other letters whose case folds into ASCII); members
that match no field are ignored, and a later member for a field replaces an
earlier one. A null member leaves its field alone. A member of the wrong kind
leaves its field alone too, and the first such member is reported once the
whole value is bound: the kind of JSON value found, the field with the record
it belongs to, and the field's type. An integer that does not fit 64 bits, or
a number with a fraction or exponent, is reported with its digits.
-/

namespace Json

/-- The types a field can have. -/
inductive FieldKind where
  | text
  | flag
  | integer
  | texts
  deriving DecidableEq, Repr, Inhabited

/-- How a decoder names a field type. -/
def FieldKind.typeName : FieldKind → String
  | .text => "string"
  | .flag => "bool"
  | .integer => "int"
  | .texts => "[]string"

/-- A field of a record: its member name, its path from the record as errors
show it, and its type. -/
structure FieldSpec where
  key : String
  path : String
  kind : FieldKind
  deriving Repr, Inhabited

/-- A record a body binds to. -/
structure RecordSpec where
  /-- The record's type with its package, as an error about the whole value names it. -/
  qualified : String
  /-- The record's own name, as an error about a field names it. -/
  name : String
  fields : List FieldSpec
  deriving Repr, Inhabited

/-- Why a body does not bind. -/
inductive BindError where
  /-- The body holds no value. -/
  | ended
  /-- The body ends, or its reading fails, inside its value. -/
  | truncated
  /-- The body is not JSON. -/
  | malformed (e : JsonError)
  /-- A value of the wrong kind: what was found, the field if it is one (else
  the whole value), and the type wanted. -/
  | mismatch (found : String) (field : Option String) (type : String)
  deriving Repr, Inhabited, DecidableEq

/-- The text of a binding failure. -/
def BindError.message : BindError → String
  | .ended => "EOF"
  | .truncated => "unexpected EOF"
  | .malformed e => e.message
  | .mismatch found field type =>
    let target := match field with
      | some f => "Go struct field " ++ f
      | none => "Go value"
    "json: cannot unmarshal " ++ found ++ " into " ++ target ++ " of type " ++ type

/-- How a decoder names the kind of a JSON value. -/
def kindName : Json → String
  | .null => "null"
  | .bool _ => "bool"
  | .int _ | .num _ => "number"
  | .str _ => "string"
  | .arr _ => "array"
  | .obj _ => "object"

/-- Whether an integer fits 64 bits with a sign. -/
def fitsWord (n : Int) : Bool := -Int.pow 2 63 ≤ n && n < Int.pow 2 63

/-- What a member's value found, when it does not suit a field of a kind: the
found kind and the type wanted. -/
def misfit (kind : FieldKind) (v : Json) : Option (String × String) :=
  match kind, v with
  | _, .null => none
  | .text, .str _ => none
  | .flag, .bool _ => none
  | .integer, .int n => if fitsWord n then none else some ("number " ++ toString n, "int")
  | .integer, .num t => some ("number " ++ t, "int")
  | .texts, .arr xs =>
    (xs.find? fun x => match x with
      | .str _ | .null => false
      | _ => true).map fun x => (kindName x, "string")
  | k, v => some (kindName v, k.typeName)

/-- ASCII lower case. -/
def lowerAscii (s : String) : String := s.map Char.toLower

/-- A letter folded for matching member names to ASCII field names: ASCII
letters to lower case, the long s to s and the Kelvin sign to k. -/
def foldLetter (c : Char) : Char :=
  if c.val = 0x17F then 's'
  else if c.val = 0x212A then 'k'
  else c.toLower

/-- A name folded letter by letter. -/
def foldName (s : String) : String := s.map foldLetter

/-- The field a member name selects: an exact match, else one ignoring case. -/
def RecordSpec.field? (r : RecordSpec) (key : String) : Option FieldSpec :=
  match r.fields.find? (·.key == key) with
  | some f => some f
  | none => r.fields.find? fun f => foldName f.key == foldName key

/-- Binds an object's members: the bound fields by their member names, last
one winning, or the first member of the wrong kind. -/
def RecordSpec.bindMembers (r : RecordSpec) (members : List (String × Json)) :
    Except BindError (List (String × Json)) :=
  let step (acc : Option BindError × List (String × Json)) (kv : String × Json) :=
    let (err, bound) := acc
    match r.field? kv.1 with
    | none => acc
    | some f =>
      match misfit f.kind kv.2 with
      | some (found, type) =>
        (err.orElse fun _ => some (.mismatch found (some (r.name ++ "." ++ f.path)) type), bound)
      | none =>
        match kv.2 with
        | .null => acc
        | v => (err, (bound.filter (·.1 != f.key)) ++ [(f.key, v)])
  match members.foldl step (none, []) with
  | (some e, _) => .error e
  | (none, bound) => .ok bound

/-- The first value of a body whose reading may fail after its bytes. -/
def firstValue (body : List UInt8) (readFails : Bool) : Except BindError Json :=
  let cs := (Utf8.decodeLossy body).toList
  match readPrefix cs with
  | .error .unexpectedEnd =>
    if (skipBlanks cs).isEmpty && !readFails then .error .ended else .error .truncated
  | .error e => .error (.malformed e)
  | .ok (v, rest) =>
    match v with
    | .int _ | .num _ => if rest.isEmpty && readFails then .error .truncated else .ok v
    | _ => .ok v

/-- Binds a body to a record: its fields by member name, or why it does not bind. -/
def RecordSpec.bind (r : RecordSpec) (body : List UInt8) (readFails : Bool) :
    Except BindError (List (String × Json)) := do
  match ← firstValue body readFails with
  | .null => return []
  | .obj members => r.bindMembers members
  | v => throw (.mismatch (kindName v) none r.qualified)

end Json

end Userland
