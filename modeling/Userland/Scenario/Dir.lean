import Userland.Files.Dir
import Userland.Scenario.Files

namespace Userland

/-! # Host directory scenarios

A fresh base directory is filled with the entries a scenario lists: files
with their bytes, symbolic links and directories, each possibly given
permission bits afterwards (through a link, on what it names). A file system
is then served from a root below the base, and driven step by step like the
in-memory one. Two more steps show the root and every entry under the base
that is not a directory: a file's bytes in hexadecimal (or `<unreadable>`),
a link as `-> ` and its target.

The base is written `<base>` in every answer.
-/

namespace Scenario

open Host

/-- The base directory. -/
def basePath : HostPath := ["<base>"]

/-- Adds one listed entry under the base. -/
def addEntry (t : HostTree) (e : Json) : Decode HostTree := do
  let p := basePath ++ pathOf (← e.getStr "path")
  let t := match t.mkdirAll p.dropLast 0o755 with
    | .ok t => t
    | .error _ => t
  let t ← if ← e.getBool "dir" then
      pure (match t.mkdirAll p 0o755 with
        | .ok t => t
        | .error _ => t)
    else match ← e.getStr? "symlink" with
      | some target => pure (if (t.node? p).isSome then t else t.put p (.link target))
      | none => do
        let data ← e.getBytes "data"
        pure (match t.openWrite p true with
          | .ok (q, t) => t.writeAt q 0 ⟨data.toArray⟩
          | .error _ => t)
  match ← e.getInt? "perm" with
  | some m => return t.chmod p m.toNat
  | none => return t

/-- Every entry under the base that is not a directory, as an answer. -/
def hostListing (t : HostTree) : Json :=
  .obj ((t.listing basePath).map fun (rel, n) =>
    let shown : Json := match n with
      | .file m d => if HostTree.allows (.file m d) 4 then hexJson d.toList else .str "<unreadable>"
      | .link target => .str ("-> " ++ target)
      | .dir _ => .str ""
    ("/".intercalate rel, shown))

/-- One step on the directory file system. -/
def dirStep (d : DirFs) (step : Json) : Decode (DirFs × List (String × Json)) := do
  match ← step.getStr "do" with
  | "open" =>
    match d.openFile (← step.getStr "path") (← openMode step) with
    | .ok (fd, d') => return (d', [("fd", .int fd)])
    | .error e => return (d, ("fd", .int (-1)) :: e.fields)
  | "read_all" =>
    let (r, d') := d.readAll (← step.getInt "fd")
    match r with
    | .ok bs => return (d', [("hex", hexJson bs)])
    | .error e => return (d', e.fields)
  | "write" =>
    match d.write (← step.getInt "fd") (← step.getBytes "data") with
    | .ok d' => return (d', [])
    | .error e => return (d, e.fields)
  | "close" =>
    match d.close (← step.getInt "fd") with
    | .ok d' => return (d', [])
    | .error e => return (d, e.fields)
  | "glob" =>
    match d.glob (← step.getStr "pattern") with
    | .ok ms => return (d, [("matches", Json.strs ms)])
    | .error e => return (d, e.fields)
  | "read_file" =>
    let (r, d') := d.readFile (← step.getStr "path")
    match r with
    | .ok bs => return (d', [("hex", hexJson bs)])
    | .error e => return (d', e.fields)
  | "write_file" =>
    let (r, d') := d.writeFile (← step.getStr "path") (← step.getBytes "data")
    return (d', unitFields r)
  | "root" => return (d, [("root", .str d.rootText)])
  | "host" => return (d, [("files", hostListing d.tree)])
  | other => throw ("unknown dir step " ++ other)

/-- Runs directory steps in order. -/
def dirSteps (d : DirFs) : List Json → Decode (List Json)
  | [] => return []
  | s :: rest => do
    let (d', fs) ← dirStep d s
    return .obj fs :: (← dirSteps d' rest)

/-- The host directory scenario. -/
def hostDir (req : Json) : Decode Json := do
  let base : HostTree := ⟨[(basePath, .dir 0o700)]⟩
  let tree ← (← req.getList "host").foldlM addEntry base
  let root ← req.getStrOr "root" "root"
  match DirFs.new tree (showPath basePath ++ "/" ++ root) with
  | .error e => return .obj e.fields
  | .ok d => return .obj [("steps", .arr (← dirSteps d (← req.getList "steps")))]

end Scenario

end Userland
