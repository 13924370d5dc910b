import Userland.Web.Message

namespace Userland

/-! # Routes

A route is a method and a pattern of path segments, each a literal or a named
parameter (`:pid`) that takes any one segment, the empty one included. A path
is matched segment by segment, literals before parameters at each point, going
back to try a parameter when the literal path found nothing.

A path that matches nothing but would match without its trailing slash is
answered by a redirect to that path, except for the root and for `CONNECT`.
-/

namespace Web

/-- One segment of a pattern. -/
inductive Segment where
  | literal (text : String)
  | param (name : String)
  deriving DecidableEq, Repr, Inhabited

/-- A route: its method, its pattern as written, and what it answers with. -/
structure Route (α : Type u) where
  method : String
  pattern : String
  handler : α

/-- The segments of a path or pattern: the parts between slashes after the first. -/
def segmentsOf (path : String) : List String :=
  match path.splitOn "/" with
  | [] => []
  | _ :: rest => rest

/-- The segments of a pattern. -/
def patternSegments (pattern : String) : List Segment :=
  (segmentsOf pattern).map fun s =>
    if s.startsWith ":" then .param (s.drop 1).toString else .literal s

/-- A route found for a path: the route and its parameters. -/
structure Found (α : Type u) where
  route : Route α
  params : List (String × String)

/-- The parameters a pattern binds in a path it matches. -/
def bindings (segs : List Segment) (path : List String) : List (String × String) :=
  (segs.zip path).filterMap fun
    | (.param n, v) => some (n, v)
    | _ => none

/-- The first of some routes, with the segments of their patterns still to
match, that matches the rest of a path: literal segments first. -/
def search {α : Type u} : List (Route α × List Segment) → List String → Option (Route α)
  | cands, [] => (cands.find? fun c => c.2.isEmpty).map (·.1)
  | cands, p :: rest =>
    let literals := cands.filterMap fun c => match c.2 with
      | .literal s :: tl => if s == p then some (c.1, tl) else none
      | _ => none
    match search literals rest with
    | some r => some r
    | none =>
      let params := cands.filterMap fun c => match c.2 with
        | .param _ :: tl => some (c.1, tl)
        | _ => none
      search params rest

/-- The route of a method that matches a path. -/
def lookup {α : Type u} (routes : List (Route α)) (method path : String) : Option (Found α) :=
  let segs := segmentsOf path
  let cands := (routes.filter (·.method == method)).map fun r => (r, patternSegments r.pattern)
  (search cands segs).map fun r => ⟨r, bindings (patternSegments r.pattern) segs⟩

/-- Where to redirect a path that matches no route of its method: the path
without its trailing slash, when that matches. -/
def trailingSlashTarget? {α : Type u} (routes : List (Route α)) (method path : String) : Option String :=
  if method == "CONNECT" || path == "/" || !path.endsWith "/" then none
  else
    let shorter := (path.dropEnd 1).toString
    (lookup routes method shorter).map fun _ => shorter

end Web

end Userland
