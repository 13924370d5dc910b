import Userland.Files.Glob
import Userland.Fault

namespace Userland

/-! # Program routes

Programs are found by path: each route pairs a path pattern with a program, and
the first route, in the order they were added, whose pattern matches the path
provides it. A path no route provides goes to the fallback program, if there is
one. A pattern that is not well-formed is refused when it is added.
-/

universe u

/-- Routes from path patterns to programs, with an optional fallback. -/
structure Routes (α : Type u) where
  routes : List (String × α)
  fallback : Option α

namespace Routes

variable {α : Type u}

/-- No routes, and the given fallback. -/
def empty (fallback : Option α) : Routes α := ⟨[], fallback⟩

/-- Adds a route after the others; a malformed pattern is refused. -/
def add (r : Routes α) (pattern : String) (x : α) : Except Fault (Routes α) :=
  if Glob.validText pattern then .ok { r with routes := r.routes ++ [(pattern, x)] }
  else .error (.other ("invalid program pattern " ++ Text.quote pattern))

/-- The program of the first route whose pattern matches the path. -/
def lookup? (r : Routes α) (path : String) : Option α :=
  (r.routes.find? fun (p, _) => Glob.match? p path == some true).map (·.2)

/-- Whether some route provides the path. -/
def provides (r : Routes α) (path : String) : Bool := (r.lookup? path).isSome

/-- The program that runs a path: the route's, else the fallback, else none. -/
def select? (r : Routes α) (path : String) : Option α :=
  (r.lookup? path).orElse fun _ => r.fallback

/-- The exit code and fault of a path that no program runs. -/
def unrouted (path : String) : Int × Fault := (127, .other ("no runner for " ++ path))

end Routes

end Userland
