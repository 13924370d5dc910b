namespace Userland

/-! # Slash-separated paths

Paths are cleaned lexically: the path is split at slashes, empty and `.`
components are dropped, a `..` removes the component before it (at the root it
is dropped; in a relative path with nothing to remove it stays), and the rest is
joined again, behind a slash when the path was absolute. An empty result is `.`
for a relative path and `/` for an absolute one.

A name is resolved against a working directory by joining it on when it is not
absolute, then cleaning. The empty name resolves to the empty path.
-/

namespace Path

/-- The components of a path between its slashes, empty ones included. -/
def components (s : String) : List String := (s.toList.splitOn '/').map String.ofList

/-- One component pushed on the stack of kept components, newest first. -/
def push (rooted : Bool) (st : List String) (c : String) : List String :=
  if c = "" || c = "." then st
  else if c = ".." then
    match st with
    | top :: rest => if top = ".." then c :: st else rest
    | [] => if rooted then [] else [c]
  else c :: st

/-- The lexically cleaned form of a path. -/
def clean (s : String) : String :=
  let rooted := s.startsWith "/"
  let kept := ((components s).foldl (push rooted) []).reverse
  let body := "/".intercalate kept
  if rooted then "/" ++ body
  else if body = "" then "." else body

/-- Whether a path is absolute. -/
def isAbs (s : String) : Bool := s.startsWith "/"

/-- A name resolved against a working directory (the root when empty). -/
def resolve (cwd name : String) : String :=
  if name = "" then ""
  else if isAbs name then clean name
  else clean ((if cwd = "" then "/" else cwd) ++ "/" ++ name)

/-- Joins two paths and cleans the result; an empty part is left out. -/
def join (a b : String) : String :=
  if a = "" then (if b = "" then "" else clean b)
  else if b = "" then clean a
  else clean (a ++ "/" ++ b)

end Path

end Userland
