import Userland.Web.Address
import Userland.Json.Print
import Userland.Text.Utf8

namespace Userland

/-! # HTTP messages

Requests and responses as a server sees them. Header names are kept in
canonical form: the first letter and every letter after a dash in upper case,
the rest in lower case, unless the name holds a byte that cannot be in a
header name, in which case it is kept as written. A name can carry several
values.

A request target is a path, percent-decoded, and a query after `?`. The query
is a list of `name=value` pairs separated by `&`, each side decoded with `+`
as a blank; a pair with a semicolon or a bad escape is dropped.

A response records its status, its headers and its body once its head is
written: headers set after that are not part of it.
-/

namespace Web

/-- Whether a byte may appear in a header name. -/
def tokenChar (c : Char) : Bool :=
  c.isAlphanum || "!#$%&'*+-.^_|~".toList.contains c || c.toNat = 96

/-- The canonical form of a header name. -/
def canonicalKey (s : String) : String :=
  if s.isEmpty || !s.toList.all tokenChar then s
  else
    let step (acc : List Char × Bool) (c : Char) :=
      let c' := if acc.2 then c.toUpper else c.toLower
      (c' :: acc.1, c' == '-')
    String.ofList ((s.toList.foldl step ([], true)).1.reverse)

/-- Headers: canonical names with their values, in the order first set. -/
abbrev Headers := List (String × List String)

namespace Headers

/-- The values of a name. -/
def values (h : Headers) (name : String) : List String :=
  ((h.find? (·.1 == canonicalKey name)).map (·.2)).getD []

/-- The first value of a name, or the empty text. -/
def get (h : Headers) (name : String) : String :=
  (h.values name).headD ""

/-- Replaces the values of a name. -/
def setAll (h : Headers) (name : String) (vs : List String) : Headers :=
  let k := canonicalKey name
  if h.any (·.1 == k) then h.map fun (n, old) => if n == k then (n, vs) else (n, old)
  else h ++ [(k, vs)]

/-- Sets a name to one value. -/
def set (h : Headers) (name value : String) : Headers := h.setAll name [value]

/-- Adds a value to a name. -/
def add (h : Headers) (name value : String) : Headers :=
  h.setAll name (h.values name ++ [value])

/-- Removes a name. -/
def remove (h : Headers) (name : String) : Headers :=
  h.filter (·.1 != canonicalKey name)

/-- Whether a name is present. -/
def has (h : Headers) (name : String) : Bool :=
  h.any (·.1 == canonicalKey name)

end Headers

/-- A request as served. -/
structure Request where
  method : String
  /-- The path and query as sent. -/
  target : String
  headers : Headers
  /-- The peer's address as `host:port`. -/
  remote : String
  /-- The host the request was sent to. -/
  host : String
  body : List UInt8
  /-- The announced length of the body, -1 when unknown. -/
  contentLength : Int
  /-- Whether reading the body fails after its bytes. -/
  bodyFails : Bool
  deriving Inhabited

/-- The value of a percent-escape's digit. -/
def escapeDigit? (c : Char) : Option Nat := hexDigit? c

/-- Decodes percent-escapes (and, in a query, `+` as a blank); none when an
escape is malformed. Escapes give bytes, read back as UTF-8. -/
def unescape? (s : String) (query : Bool) : Option String :=
  let rec go : List Char → List UInt8 → Option (List UInt8)
    | [], acc => some acc.reverse
    | '%' :: a :: b :: rest, acc => do
      let hi ← escapeDigit? a
      let lo ← escapeDigit? b
      go rest ((hi * 16 + lo).toUInt8 :: acc)
    | '%' :: _, _ => none
    | '+' :: rest, acc => go rest ((if query then ' ' else '+').toNat.toUInt8 :: acc)
    | c :: rest, acc => go rest ((String.singleton c).toUTF8.toList.reverse ++ acc)
  (go s.toList []).map Utf8.decodeLossy

/-- Splits a target into its path and its raw query. -/
def splitTarget (target : String) : String × String :=
  match target.splitOn "?" with
  | [] => ("", "")
  | p :: rest => (p, "?".intercalate rest)

namespace Request

/-- The decoded path; a path that does not decode is kept as sent. -/
def path (r : Request) : String :=
  let raw := (splitTarget r.target).1
  (unescape? raw false).getD raw

/-- The raw query. -/
def rawQuery (r : Request) : String := (splitTarget r.target).2

/-- The query's pairs in order. -/
def query (r : Request) : List (String × String) :=
  (r.rawQuery.splitOn "&").filterMap fun part =>
    if part.isEmpty || part.toList.contains ';' then none
    else
      let (k, v) := match part.splitOn "=" with
        | [] => ("", "")
        | k :: rest => (k, "=".intercalate rest)
      match unescape? k true, unescape? v true with
      | some k, some v => some (k, v)
      | _, _ => none

/-- The first value of a query name. -/
def queryValue? (r : Request) (name : String) : Option String :=
  (r.query.find? (·.1 == name)).map (·.2)

end Request

/-- A response as recorded. -/
structure Response where
  status : Nat
  headers : Headers
  body : List UInt8
  /-- Whether the head has been written. -/
  written : Bool
  deriving Inhabited

/-- A response not yet started: status 200, nothing set. -/
def Response.empty : Response := ⟨200, [], [], false⟩

/-- The text a status code is known by. -/
def statusText : Nat → String
  | 200 => "OK"
  | 201 => "Created"
  | 204 => "No Content"
  | 301 => "Moved Permanently"
  | 307 => "Temporary Redirect"
  | 400 => "Bad Request"
  | 403 => "Forbidden"
  | 404 => "Not Found"
  | 408 => "Request Timeout"
  | 409 => "Conflict"
  | 429 => "Too Many Requests"
  | 500 => "Internal Server Error"
  | 503 => "Service Unavailable"
  | _ => ""

/-- Whether a status allows a body. -/
def bodyAllowed (status : Nat) : Bool :=
  !((100 ≤ status && status ≤ 199) || status == 204 || status == 304)

end Web

end Userland
