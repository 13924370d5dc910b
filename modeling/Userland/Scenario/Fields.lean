import Userland.Json.Basic
import Userland.Bytes.Hex
import Userland.Text.Utf8
import Userland.Fault

namespace Userland

/-! # Fields of a scenario

A scenario is a JSON object that names an operation and its inputs. Each input
field has a type; a missing field or `null` reads as the type's empty value
(zero, `false`, the empty text or list). A field of the wrong type, or an
integer outside the signed 64-bit range, makes the scenario ill-formed.

Bytes are given as a text, meaning its UTF-8 bytes, or as an object whose `hex`
member holds their hexadecimal text.
-/

/-- Reading a scenario's fields: the value, or why the scenario is ill-formed. -/
abbrev Decode := Except String

/-- The smallest signed 64-bit integer. -/
def int64Min : Int := -9223372036854775808
/-- The largest signed 64-bit integer. -/
def int64Max : Int := 9223372036854775807

namespace Json

/-- The value as an integer of 64 bits. -/
def asInt (j : Json) (k : String) : Decode Int :=
  match j with
  | .int n => if int64Min ≤ n && n ≤ int64Max then .ok n else .error ("field " ++ k ++ " is out of range")
  | _ => .error ("field " ++ k ++ " is not an integer")

/-- An integer field, zero when absent. -/
def getInt (j : Json) (k : String) : Decode Int :=
  match j.get? k with
  | none => .ok 0
  | some v => v.asInt k

/-- An integer field, or nothing when absent. -/
def getInt? (j : Json) (k : String) : Decode (Option Int) :=
  match j.get? k with
  | none => .ok none
  | some v => some <$> v.asInt k

/-- An integer field with a default for absence. -/
def getIntOr (j : Json) (k : String) (d : Int) : Decode Int :=
  return (← j.getInt? k).getD d

/-- A text field, empty when absent. -/
def getStr (j : Json) (k : String) : Decode String :=
  match j.get? k with
  | none => .ok ""
  | some (.str s) => .ok s
  | some _ => .error ("field " ++ k ++ " is not a string")

/-- A text field, or nothing when absent. -/
def getStr? (j : Json) (k : String) : Decode (Option String) :=
  match j.get? k with
  | none => .ok none
  | some (.str s) => .ok (some s)
  | some _ => .error ("field " ++ k ++ " is not a string")

/-- A text field with a default for absence. -/
def getStrOr (j : Json) (k : String) (d : String) : Decode String :=
  return (← j.getStr? k).getD d

/-- A truth field, false when absent. -/
def getBool (j : Json) (k : String) : Decode Bool :=
  match j.get? k with
  | none => .ok false
  | some (.bool b) => .ok b
  | some _ => .error ("field " ++ k ++ " is not a boolean")

/-- A truth field with a default for absence. -/
def getBoolOr (j : Json) (k : String) (d : Bool) : Decode Bool :=
  match j.get? k with
  | none => .ok d
  | some (.bool b) => .ok b
  | some _ => .error ("field " ++ k ++ " is not a boolean")

/-- The bytes a value gives: a text's UTF-8 bytes or an object's `hex` member. -/
def asBytes (j : Json) (k : String) : Decode (List UInt8) :=
  match j with
  | .str s => .ok (Utf8.encode s)
  | .obj _ =>
    match j.get? "hex" with
    | some (.str h) =>
      match Hex.decode h with
      | some bs => .ok bs
      | none => .error ("field " ++ k ++ " has bad hex")
    | none => .ok []
    | some _ => .error ("field " ++ k ++ " has bad hex")
  | _ => .error ("field " ++ k ++ " is not bytes")

/-- A bytes field, empty when absent. -/
def getBytes (j : Json) (k : String) : Decode (List UInt8) :=
  match j.get? k with
  | none => .ok []
  | some v => v.asBytes k

/-- A bytes field, or nothing when absent. -/
def getBytes? (j : Json) (k : String) : Decode (Option (List UInt8)) :=
  match j.get? k with
  | none => .ok none
  | some v => some <$> v.asBytes k

/-- A list field, empty when absent. -/
def getList (j : Json) (k : String) : Decode (List Json) :=
  match j.get? k with
  | none => .ok []
  | some (.arr xs) => .ok xs
  | some _ => .error ("field " ++ k ++ " is not a list")

/-- A list-of-texts field, empty when absent. -/
def getStrs (j : Json) (k : String) : Decode (List String) := do
  (← j.getList k).mapM fun
    | .str s => .ok s
    | _ => .error ("field " ++ k ++ " is not a list of strings")

/-- A list-of-integers field, empty when absent. -/
def getInts (j : Json) (k : String) : Decode (List Int) := do
  (← j.getList k).mapM (·.asInt k)

/-- An object field's members, none when absent. -/
def getMembers (j : Json) (k : String) : Decode (List (String × Json)) :=
  match j.get? k with
  | none => .ok []
  | some (.obj fs) => .ok fs
  | some _ => .error ("field " ++ k ++ " is not an object")

/-- An object field with byte values, such as a set of files. -/
def getByteMap (j : Json) (k : String) : Decode (List (String × List UInt8)) := do
  (← j.getMembers k).mapM fun (p, v) => return (p, ← v.asBytes k)

/-- An object field with text values. -/
def getStrMap (j : Json) (k : String) : Decode (List (String × String)) := do
  (← j.getMembers k).mapM fun
    | (p, .str v) => .ok (p, v)
    | _ => .error ("field " ++ k ++ " is not a map of strings")

end Json

/-- Bytes as an answer field: their hexadecimal text. -/
def hexJson (bs : List UInt8) : Json := .str (Hex.encode bs)

/-- The members that report a fault: its class, its text, and the protocol code
when it is a protocol error. -/
def Fault.fields (f : Fault) : List (String × Json) :=
  [("error", .str f.kind), ("message", .str f.message)] ++
    match f.sysError? with
    | some e => [("code", .int e.errno.code)]
    | none => []

end Userland
