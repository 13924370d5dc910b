import Userland.Web.Guard
import Userland.Scenario.Fields
import Userland.Json.Parse
import Userland.Script.Number

namespace Userland

/-! # Requests and responses in scenarios

A request in a scenario names its method (GET by default), its target (`/` by
default), its headers, the peer's address (`192.0.2.1:1234` by default) and
its body: a text as its bytes, `{"hex": ...}` as the bytes it spells, or any
other value as its JSON text with members in the order of their names and
numbers written as doubles. A body may be set to fail after its bytes; its
announced length is still the length of those bytes.

A response is answered with its status, the headers that matter (content
type, cross-origin headers, `Vary` and the request id, several values joined
by `, `) and its body: parsed when it is JSON, else as text. A request id the
server made up is shown only by whether it has the expected shape.
-/

namespace Scenario

open Web

/-- Text in a JSON string as a marshaller that guards HTML writes it. -/
def htmlSafeQuote (s : String) : String :=
  "\"" ++ String.join (s.toList.map fun c =>
    if c = '<' || c = '>' || c = '&' then "\\u" ++ Json.hex4 c.toNat else Json.escapeChar c) ++ "\""

/-- Members in the order of their names, the last of a repeated name kept. -/
def dedupSorted (fs : List (String × Json)) : List (String × Json) :=
  let last := fs.foldl (fun acc (k, v) => (acc.filter (·.1 != k)) ++ [(k, v)]) []
  last.mergeSort fun a b => a.1 ≤ b.1

/-- A value with the members of every object in the order of their names,
the last of a repeated name kept, at most `fuel` levels deep. -/
def canonical : Nat → Json → Json
  | 0, j => j
  | fuel + 1, .obj fs => .obj ((dedupSorted fs).map fun (k, v) => (k, canonical fuel v))
  | fuel + 1, .arr xs => .arr (xs.map (canonical fuel))
  | _, j => j

mutual

/-- A JSON value as a marshaller of decoded values writes it: numbers as
doubles and HTML characters escaped. -/
def marshalValue : Json → String
  | .null => "null"
  | .bool b => if b then "true" else "false"
  | .int n => Decimal.jsonText (Script.Number.ofInt n)
  | .num t => Decimal.jsonText (Script.Number.ofString t)
  | .str s => htmlSafeQuote s
  | .arr xs => "[" ++ marshalItems xs ++ "]"
  | .obj fs => "\x7b" ++ marshalFields fs ++ "\x7d"

/-- Items separated by commas. -/
def marshalItems : List Json → String
  | [] => ""
  | [x] => marshalValue x
  | x :: xs => marshalValue x ++ "," ++ marshalItems xs

/-- Members separated by commas. -/
def marshalFields : List (String × Json) → String
  | [] => ""
  | [(k, v)] => htmlSafeQuote k ++ ":" ++ marshalValue v
  | (k, v) :: fs => htmlSafeQuote k ++ ":" ++ marshalValue v ++ "," ++ marshalFields fs

end

/-- A decoded JSON value as a marshaller writes it, members in the order of their names. -/
def marshal (j : Json) : String := marshalValue (canonical 100000 j)

/-- A request body from a step's `body`. -/
def bodyOf (j : Json) : Decode (List UInt8) :=
  match j with
  | .str s => return Utf8.encode s
  | .obj fs =>
    if fs.any (·.1 == "hex") then j.asBytes "body" else return Utf8.encode (marshal j)
  | other => return Utf8.encode (marshal other)

/-- A request from a step. -/
def decodeRequest (step : Json) : Decode Request := do
  let body ← match step.get? "body" with
    | none => pure none
    | some b => some <$> bodyOf b
  let fails ← step.getBool "body_error"
  let headers ← step.getStrMap "headers"
  let bytes := body.getD []
  return {
    method := ← step.getStrOr "method" "GET",
    target := ← step.getStrOr "path" "/",
    headers := headers.foldl (fun h (k, v) => h.set k v) [],
    remote := ← step.getStrOr "remote" "192.0.2.1:1234",
    host := "example.com",
    body := bytes,
    contentLength := bytes.length,
    bodyFails := fails }

/-- The headers an answer shows. -/
def shownHeader (name : String) : Bool :=
  name == "Content-Type" || name.startsWith "Access-Control-" || name == "Vary" || name == "X-Request-Id"

/-- A response as an answer, with its request for the id it supplied. -/
def responseJson (req : Request) (resp : Response) : Json :=
  let supplied := req.headers.get requestIdHeader
  let headers := (resp.headers.filter fun (k, _) => shownHeader k).map fun (k, vs) =>
    let v := ", ".intercalate vs
    if k == "X-Request-Id" && v != supplied then
      (k, Json.str ("<minted:" ++ toString (v.startsWith "req_" && v.length == 30) ++ ">"))
    else (k, Json.str v)
  let text := Utf8.decodeLossy resp.body
  let isJson := (resp.headers.get "Content-Type").startsWith "application/json"
  let body := if isJson then
      match Json.parse text with
      | .ok j => ("json", j)
      | .error _ => ("text", Json.str text)
    else ("text", Json.str text)
  .obj [("status", .int resp.status), ("headers", .obj headers), body]

end Scenario

end Userland
