import Userland.Json.Parse
import Userland.Json.Print
import Userland.Time.Instant
import Userland.Text.Quoted
import Userland.Text.Utf8

namespace Userland

/-! # Process lists on the wire

A process list travels as a JSON array of rows
`{"pid","path","created_at","age_seconds","state"}` in that member order, with
the creation time in RFC 3339 text. Text is escaped as JSON requires and no
further: `<`, `>` and `&` stand as themselves.

Reading a list accepts `null` (no list) or an array whose items are objects or
`null` (an empty row). A row's members are matched by name, exactly or else
ignoring case; unknown members are skipped, and `null` leaves a member empty.
A number that is not an integer, a text where a number belongs, or a time that
is not RFC 3339 makes the whole list unreadable.
-/

/-- One row of a process list. -/
structure ProcessInfo where
  pid : Int
  path : String
  createdAt : Instant
  ageSeconds : Int
  state : String
  deriving Inhabited, Repr

namespace ProcessInfo

/-- The empty row. -/
def empty : ProcessInfo := ⟨0, "", Instant.zero, 0, ""⟩

/-- A JSON string with only the escapes JSON requires. -/
def quote (s : String) : String :=
  "\"" ++ String.join (s.toList.map fun c =>
    if c = '"' then "\\\"" else if c = '\\' then "\\\\"
    else if c = '\n' then "\\n" else if c = '\r' then "\\r" else if c = '\t' then "\\t"
    else if c.toNat < 0x20 then "\\u" ++ Json.hex4 c.toNat
    else c.toString) ++ "\""

/-- A row's text. -/
def encode (r : ProcessInfo) : String :=
  "\x7b\"pid\":" ++ toString r.pid ++ ",\"path\":" ++ quote r.path ++ ",\"created_at\":" ++
    quote r.createdAt.format ++ ",\"age_seconds\":" ++ toString r.ageSeconds ++ ",\"state\":" ++
    quote r.state ++ "\x7d"

/-- A list's text; no list at all is written as the empty list. -/
def encodeList (rs : List ProcessInfo) : String :=
  "[" ++ ",".intercalate (rs.map encode) ++ "]"

/-- The member of a row a JSON name sets: its exact name, or one equal ignoring case. -/
def memberFor (name : String) : Option String :=
  let names := ["pid", "path", "created_at", "age_seconds", "state"]
  if names.contains name then some name
  else names.find? (·.toLower == name.toLower)

/-- Whether an integer fits a signed 64-bit word. -/
def inWord (n : Int) : Bool := -9223372036854775808 ≤ n && n ≤ 9223372036854775807

/-- Sets one member of a row from a JSON value. -/
def setMember (r : ProcessInfo) (name : String) (v : Json) : Option ProcessInfo :=
  match memberFor name, v with
  | none, _ => some r
  | some _, .null => some r
  | some "pid", .int n => if inWord n then some { r with pid := n } else none
  | some "age_seconds", .int n => if inWord n then some { r with ageSeconds := n } else none
  | some "path", .str s => some { r with path := s }
  | some "state", .str s => some { r with state := s }
  | some "created_at", .str s => (Instant.parse? s).map fun t => { r with createdAt := t }
  | _, _ => none

/-- A row from a JSON value. -/
def ofJson? : Json → Option ProcessInfo
  | .null => some empty
  | .obj fs => fs.foldlM (fun r (k, v) => setMember r k v) empty
  | _ => none

/-- Reads a list: `some none` for `null`, `none` when unreadable. -/
def decodeList (s : String) : Option (Option (List ProcessInfo)) :=
  match Json.parse s with
  | .ok .null => some none
  | .ok (.arr xs) => (xs.mapM ofJson?).map some
  | _ => none

/-- Whether a prefix of a text could still begin a well-formed value. -/
def viable (cs : List Char) : Bool :=
  match Json.parse (String.ofList cs) with
  | .ok _ => true
  | .error .unexpectedEnd => true
  | .error _ => false

/-- The number of leading characters that could still begin a value: the
index of the first character that cannot, found by bisection, since a prefix
of a viable prefix is viable. -/
def viableLength (cs : List Char) : Nat :=
  go (cs.length + 1) 0 cs.length
where
  go : Nat → Nat → Nat → Nat
    | 0, lo, _ => lo
    | fuel + 1, lo, hi =>
      if lo ≥ hi then lo
      else
        let mid := (lo + hi + 1) / 2
        if viable (cs.take mid) then go fuel mid hi else go fuel lo (mid - 1)

/-- The window of text shown around an error position: where it starts and
ends, and how many characters stand left and right of the position. -/
def window (size pos : Nat) : Nat × Nat × Nat × Nat :=
  if pos ≥ size then (0, 0, size, 0)
  else
    let i : Int := 16
    let lb : Int := pos - i
    let rb : Int := pos + i
    let (lb, rb, i) := if lb < 0 then ((0 : Int), rb - lb, i + lb) else (lb, rb, i)
    let (lb, rb, i) :=
      if (size : Int) - rb ≤ 0 then
        let n := rb - size
        if lb > n then (lb - n, (size : Int), i + n) else (lb, (size : Int), i)
      else (lb, rb, i)
    (lb.toNat, i.toNat, rb.toNat, (rb - lb - i - 1).toNat)

/-- The text of a syntax error in a process list. -/
def syntaxError (s : String) : String :=
  if s.isEmpty then
    Text.quote ("Syntax error no sources available, the input json is empty: " ++
      "errors.SyntaxError\x7bPos:0, Src:\"\", Code:0x1, Msg:\"\"\x7d")
  else
    let cs := s.toList
    let k := viableLength cs
    let bytes := Utf8.encode s
    let pos := (Utf8.encode (String.ofList (cs.take k))).length
    let msg := if k ≥ cs.length then "eof" else "invalid char"
    let (p, x, q, y) := window bytes.length pos
    let src := Utf8.decodeLossy ((bytes.drop p).take (q - p))
    Text.quote ("Syntax error at index " ++ toString pos ++ ": " ++ msg ++ "\n\n\t" ++ src ++ "\n\t" ++
      String.ofList (List.replicate x '.') ++ "^" ++ String.ofList (List.replicate y '.') ++ "\n")

/-- Reads a list, or says why it cannot: no list at all reads as the empty list. -/
def decodeListText (s : String) : Except String (List ProcessInfo) :=
  match Json.parse s with
  | .ok .null => .ok []
  | .ok (.arr xs) =>
    match xs.mapM ofJson? with
    | some rows => .ok rows
    | none => .error "mismatched type with value"
  | .ok _ => .error "mismatched type with value"
  | .error _ => .error (syntaxError s)

end ProcessInfo

end Userland
