import Userland.Files.Path

namespace Userland

/-! # A host directory tree

The part of the host file system a daemon serves from: directories, files and
symbolic links under one base directory, each with owner permission bits, as
seen by a user who owns them all but is not the superuser.

A path is looked up one component at a time from the tree's top. Passing
through a directory needs its search bit; `.` and empty components stay put
and `..` goes to the parent; a symbolic link is followed wherever it stands,
except as the last component when asked not to, and more than 40 links in one
lookup is a loop. Creating an entry needs the parent's write bit, reading a
file or listing a directory its read bit, and writing a file its write bit.

Paths are shown as their components joined by slashes.
-/

namespace Host

/-- The reasons a host operation fails, with the texts the system gives them. -/
inductive Errno where
  | noEntry
  | notDir
  | isDir
  | access
  | alreadyExists
  | loop
  deriving DecidableEq, Repr, Inhabited

/-- The text of a reason. -/
def Errno.text : Errno → String
  | .noEntry => "no such file or directory"
  | .notDir => "not a directory"
  | .isDir => "is a directory"
  | .access => "permission denied"
  | .alreadyExists => "file exists"
  | .loop => "too many levels of symbolic links"

/-- An entry of the tree. -/
inductive Node where
  | dir (mode : Nat)
  | file (mode : Nat) (data : ByteArray)
  | link (target : String)
  deriving Inhabited

/-- Whether a node is a directory. -/
def Node.isDir : Node → Bool
  | .dir _ => true
  | _ => false

/-- A path in the tree: its components from the top. -/
abbrev HostPath := List String

/-- A path as text. -/
def showPath (p : HostPath) : String := "/".intercalate p

/-- A path from text, cleaned lexically. -/
def pathOf (s : String) : HostPath := (Path.components (Path.clean s)).filter fun c => c != "" && c != "."

end Host

open Host

/-- A host directory tree: every entry by its path. The top of the tree is a
directory that is always there. -/
structure HostTree where
  nodes : List (HostPath × Node)
  deriving Inhabited

namespace HostTree

/-- The entry at a path, the top being a searchable directory. -/
def node? (t : HostTree) (p : HostPath) : Option Node :=
  if p.isEmpty then some (.dir 0o755) else (t.nodes.find? (·.1 == p)).map (·.2)

/-- Sets the entry at a path. -/
def put (t : HostTree) (p : HostPath) (n : Node) : HostTree :=
  if t.nodes.any (·.1 == p) then ⟨t.nodes.map fun (q, m) => if q == p then (q, n) else (q, m)⟩
  else ⟨t.nodes ++ [(p, n)]⟩

/-- Whether an entry has a permission bit of its owner (4 read, 2 write, 1 search). -/
def allows (n : Node) (bit : Nat) : Bool :=
  match n with
  | .dir m => (m / 64) &&& bit != 0
  | .file m _ => (m / 64) &&& bit != 0
  | .link _ => true

/-- What looking up a path found: an entry, or a missing last component with
the directory it would go in. -/
inductive Found where
  | entry (p : HostPath) (n : Node)
  | missing (parent : HostPath) (name : String)
  deriving Inhabited

/-- Looks up components from a directory, following links (the last one only
when `follow`), counting the links followed. -/
def walk (t : HostTree) (follow : Bool) : Nat → HostPath → List String → Nat → Except Errno Found
  | 0, _, _, _ => .error .loop
  | _ + 1, dir, [], _ => .ok (.entry dir ((t.node? dir).getD (.dir 0o755)))
  | fuel + 1, dir, c :: rest, links =>
    if c == "" then walk t follow fuel dir rest links
    else if !allows ((t.node? dir).getD (.dir 0o755)) 1 then .error .access
    else if c == "." then walk t follow fuel dir rest links
    else if c == ".." then walk t follow fuel dir.dropLast rest links
    else
      let p := dir ++ [c]
      match t.node? p with
      | none => if rest.isEmpty then .ok (.missing dir c) else .error .noEntry
      | some (.dir _) => walk t follow fuel p rest links
      | some (.file m d) => if rest.isEmpty then .ok (.entry p (.file m d)) else .error .notDir
      | some (.link target) =>
        if rest.isEmpty && !follow then .ok (.entry p (.link target))
        else if links ≥ 40 then .error .loop
        else
          let start := if target.startsWith "/" then [] else dir
          walk t follow fuel start (Path.components target ++ rest) (links + 1)

/-- Looks up a path from the top. -/
def lookup (t : HostTree) (p : HostPath) (follow : Bool) : Except Errno Found :=
  walk t follow (p.length + 4096) [] p 0

/-- The entry a path names, following links. -/
def stat (t : HostTree) (p : HostPath) : Except Errno (HostPath × Node) :=
  match t.lookup p true with
  | .ok (.entry q n) => .ok (q, n)
  | .ok (.missing _ _) => .error .noEntry
  | .error e => .error e

/-- The entry a path names, not following a last link. -/
def lstat (t : HostTree) (p : HostPath) : Except Errno (HostPath × Node) :=
  match t.lookup p false with
  | .ok (.entry q n) => .ok (q, n)
  | .ok (.missing _ _) => .error .noEntry
  | .error e => .error e

/-- Makes a directory. -/
def mkdir (t : HostTree) (p : HostPath) (mode : Nat) : Except Errno HostTree :=
  match t.lookup p false with
  | .error e => .error e
  | .ok (.entry _ _) => .error .alreadyExists
  | .ok (.missing parent name) =>
    if !allows ((t.node? parent).getD (.dir 0o755)) 2 then .error .access
    else .ok (t.put (parent ++ [name]) (.dir mode))

/-- Makes a directory and every missing one above it; a failure names the
path where it happened. -/
def mkdirAll (t : HostTree) (p : HostPath) (mode : Nat) : Except (HostPath × Errno) HostTree :=
  let rec build : Nat → HostTree → HostPath → Except (HostPath × Errno) HostTree
    | 0, _, p => .error (p, .loop)
    | fuel + 1, t, p =>
      match t.stat p with
      | .ok (_, n) => if n.isDir then .ok t else .error (p, .notDir)
      | .error _ => do
        let t ← if p.length > 1 then build fuel t p.dropLast else pure t
        match t.mkdir p mode with
        | .ok t => .ok t
        | .error e =>
          match t.lstat p with
          | .ok (_, n) => if n.isDir then .ok t else .error (p, e)
          | .error _ => .error (p, e)
  build (p.length + 1) t p

/-- Opens a path for reading: the entry reached. Directories and files both
need their read bit. -/
def openRead (t : HostTree) (p : HostPath) : Except Errno (HostPath × Node) := do
  let (q, n) ← t.stat p
  if !allows n 4 then throw .access
  return (q, n)

/-- Opens a path for writing, creating the file when missing and emptying it
when `truncate`: the file's path. -/
def openWrite (t : HostTree) (p : HostPath) (truncate : Bool) : Except Errno (HostPath × HostTree) :=
  match t.lookup p true with
  | .error e => .error e
  | .ok (.entry q n) =>
    match n with
    | .dir _ => .error .isDir
    | .file m d =>
      if !allows n 2 then .error .access
      else .ok (q, if truncate then t.put q (.file m ByteArray.empty) else (t.put q (.file m d)))
    | .link _ => .error .loop
  | .ok (.missing parent name) =>
    if !allows ((t.node? parent).getD (.dir 0o755)) 2 then .error .access
    else .ok (parent ++ [name], t.put (parent ++ [name]) (.file 0o644 ByteArray.empty))

/-- The content of a file. -/
def content (t : HostTree) (p : HostPath) : ByteArray :=
  match t.node? p with
  | some (.file _ d) => d
  | _ => ByteArray.empty

/-- Writes bytes into a file at an offset, growing it with zero bytes as needed. -/
def writeAt (t : HostTree) (p : HostPath) (offset : Nat) (bs : ByteArray) : HostTree :=
  match t.node? p with
  | some (.file m d) =>
    let d := if d.size < offset then d ++ ⟨Array.replicate (offset - d.size) 0⟩ else d
    let after := d.extract (offset + bs.size) d.size
    t.put p (.file m (d.extract 0 offset ++ bs ++ after))
  | _ => t

/-- Changes the permission bits of what a path names, following links. -/
def chmod (t : HostTree) (p : HostPath) (mode : Nat) : HostTree :=
  match t.stat p with
  | .ok (q, .dir _) => t.put q (.dir mode)
  | .ok (q, .file _ d) => t.put q (.file mode d)
  | _ => t

/-- The entries directly inside a directory, in name order. -/
def children (t : HostTree) (dir : HostPath) : List (String × Node) :=
  ((t.nodes.filter fun (p, _) => p.length == dir.length + 1 && p.take dir.length == dir).map
    fun (p, n) => (p.getLastD "", n)).mergeSort fun a b => a.1 ≤ b.1

/-- Every entry that is not a directory under a directory, by its path below
it, going only into directories that can be listed and searched. -/
def listing (t : HostTree) (dir : HostPath) : List (List String × Node) :=
  let rec go : Nat → HostPath → List String → List (List String × Node)
    | 0, _, _ => []
    | fuel + 1, d, rel =>
      (t.children d).flatMap fun (name, n) =>
        match n with
        | .dir _ => if allows n 4 && allows n 1 then go fuel (d ++ [name]) (rel ++ [name]) else []
        | _ => [(rel ++ [name], n)]
  go (t.nodes.length + 1) dir []

end HostTree

end Userland
