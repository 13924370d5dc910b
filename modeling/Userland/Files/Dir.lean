import Userland.Files.Host
import Userland.Files.Memory
import Userland.Files.Glob
import Userland.Fault
import Userland.Codec.Gzip
import Userland.Codec.Zstd

namespace Userland

/-! # A file system over a host directory

Names are resolved from `/` and served from a root directory of the host,
which is made (with any missing directories above it) when the file system
is set up. Descriptors are handed out as 3, 4, 5, … and never reused.

Opening for reading tries the name, then the name with `.gz`, then with
`.zst`, going on only while the file is missing; a failure names the last try.
What was opened is read from where its descriptor stands to the end, and a
file opened under a `.gz` or `.zst` name is decompressed on the way.

Opening for writing makes the missing directories above the file, then
creates the file or empties it (or, to append, keeps it); writes go to the
host at once.

Globbing walks the root without following links and reports every entry that
is not a directory, under its name with one `.gz` and then one `.zst` taken
off the end, so a name can come more than once.
-/

open Host

/-- An open file of a directory file system. -/
structure DirFile where
  /-- The name it was opened under, resolved. -/
  name : String
  mode : OpenMode
  /-- The host path opened, as tried. -/
  hostName : HostPath
  /-- Where the entry opened really is. -/
  target : HostPath
  isDir : Bool
  offset : Nat
  deriving Inhabited

/-- A file system served from a host directory. -/
structure DirFs where
  tree : HostTree
  root : HostPath
  open_ : List (Int × DirFile)
  nextFd : Int
  deriving Inhabited

/-- A host failure at a path: the operation and the path before its reason. -/
def hostFault (op : String) (p : HostPath) (e : Host.Errno) : Fault :=
  let cause : Fault := match e with
    | .noEntry => .notExist e.text
    | .access => .permission e.text
    | _ => .other e.text
  .wrap (op ++ " " ++ showPath p) cause

/-- A decoding failure as a fault. -/
def Codec.DecodeError.fault : Codec.DecodeError → Fault
  | .ended => .endOfStream
  | e => .other e.text

namespace DirFs

/-- Serves a root, making it when missing. -/
def new (tree : HostTree) (root : String) : Except Fault DirFs :=
  let p := pathOf root
  match tree.mkdirAll p 0o755 with
  | .ok tree => .ok ⟨tree, p, [], 3⟩
  | .error (q, e) => .error (.wrap ("create root " ++ showPath p) (hostFault "mkdir" q e))

/-- The root as text. -/
def rootText (d : DirFs) : String := showPath d.root

/-- The host path a name stands for. -/
def hostPath (d : DirFs) (name : String) : HostPath :=
  d.root ++ pathOf (Path.resolve "/" name)

/-- The fault for a descriptor that is not open. -/
def notOpen (fd : Int) : Fault := .wrap ("descriptor " ++ toString fd) .fileClosed

/-- The descriptor open under a number. -/
def descriptor (d : DirFs) (fd : Int) : Except Fault DirFile :=
  match d.open_.lookup fd with
  | some f => .ok f
  | none => .error (notOpen fd)

/-- Adds a host path's last component a suffix. -/
def withSuffix (p : HostPath) (ext : String) : HostPath :=
  match p.reverse with
  | [] => [ext]
  | last :: before => ((last ++ ext) :: before).reverse

/-- Opens a name. -/
def openFile (d : DirFs) (name : String) (mode : OpenMode) : Except Fault (Int × DirFs) := do
  let host := d.hostPath name
  let wrapOpen (f : Fault) : Fault := .wrap ("open " ++ name) f
  let (file, tree) ← if mode = OpenMode.read then
      let tries := [host, withSuffix host ".gz", withSuffix host ".zst"]
      let attempt := tries.foldl (fun (acc : Option (Except (HostPath × Host.Errno) (HostPath × HostPath × Node))) p =>
        match acc with
        | some (.error (_, Host.Errno.noEntry)) | none =>
          some (match d.tree.openRead p with
            | .ok (q, n) => .ok (p, q, n)
            | .error e => .error (p, e))
        | done => done) none
      match attempt with
      | some (.ok (p, q, n)) => pure (DirFile.mk (Path.resolve "/" name) mode p q n.isDir 0, d.tree)
      | some (.error (p, e)) => throw (wrapOpen (hostFault "open" p e))
      | none => throw (wrapOpen (hostFault "open" host Host.Errno.noEntry))
    else
      match d.tree.mkdirAll host.dropLast 0o755 with
      | .error (q, e) => throw (wrapOpen (hostFault "mkdir" q e))
      | .ok tree =>
        match tree.openWrite host (mode != OpenMode.append) with
        | .error e => throw (wrapOpen (hostFault "open" host e))
        | .ok (q, tree) =>
          let start := if mode = OpenMode.append then (tree.content q).size else 0
          pure (DirFile.mk (Path.resolve "/" name) mode host q false start, tree)
  return (d.nextFd, { d with tree, open_ := d.open_ ++ [(d.nextFd, file)], nextFd := d.nextFd + 1 })

/-- The extension of a host path's last component, from its last dot. -/
def extension (p : HostPath) : String :=
  let last := p.getLastD ""
  match (last.splitOn ".").reverse with
  | ext :: _ :: _ => "." ++ ext
  | _ => ""

/-- Reads everything from where a descriptor opened for reading stands. -/
def readAll (d : DirFs) (fd : Int) : Except Fault (List UInt8) × DirFs :=
  match d.descriptor fd with
  | .error e => (.error e, d)
  | .ok f =>
    if f.mode ≠ OpenMode.read then (.error (.wrap ("read " ++ f.name) (.permission "permission denied")), d)
    else
      let wrapRead (x : Fault) : Fault := .wrap ("read " ++ f.name) x
      if f.isDir then (.error (wrapRead (hostFault "read" f.hostName Host.Errno.isDir)), d)
      else
        let data := d.tree.content f.target
        let moved := { d with open_ := d.open_.map fun (k, e) =>
          if k == fd then (k, { e with offset := max e.offset data.size }) else (k, e) }
        let decoded : Except Codec.DecodeError ByteArray :=
          match extension f.hostName with
          | ".gz" => Codec.gunzip data f.offset
          | ".zst" => Codec.unzstd data f.offset
          | _ => .ok (data.extract f.offset data.size)
        match decoded with
        | .ok bs => (.ok bs.toList, moved)
        | .error e => (.error (wrapRead e.fault), moved)

/-- Writes through a descriptor opened for writing. -/
def write (d : DirFs) (fd : Int) (data : List UInt8) : Except Fault DirFs := do
  let f ← d.descriptor fd
  if f.mode = OpenMode.read then throw (.wrap ("write " ++ f.name) (.permission "permission denied"))
  let at_ := if f.mode = OpenMode.append then (d.tree.content f.target).size else f.offset
  let tree := d.tree.writeAt f.target at_ ⟨data.toArray⟩
  return { d with tree, open_ := d.open_.map fun (k, e) =>
    if k == fd then (k, { e with offset := at_ + data.length }) else (k, e) }

/-- Closes a descriptor. -/
def close (d : DirFs) (fd : Int) : Except Fault DirFs := do
  let _ ← d.descriptor fd
  return { d with open_ := d.open_.filter (·.1 != fd) }

/-- Takes one suffix off the end of a name when it is there. -/
def dropSuffix (s ext : String) : String :=
  if s.endsWith ext then (s.dropEnd ext.length).toString else s

/-- The names under the root that match a pattern, in order. -/
def glob (d : DirFs) (pattern : String) : Except Fault (List String) :=
  if !Glob.validText pattern then .error .badPattern
  else
    let pat := if pattern.startsWith "/" then (pattern.drop 1).toString else pattern
    let entries := match d.tree.stat d.root with
      | .ok (q, n) => if HostTree.allows n 4 && HostTree.allows n 1 then d.tree.listing q else []
      | .error _ => []
    let names := entries.filterMap fun (rel, _) =>
      let r := dropSuffix (dropSuffix ("/".intercalate rel) ".gz") ".zst"
      if Glob.match? pat r == some true then some ("/" ++ r) else none
    .ok (names.mergeSort (· ≤ ·))

/-- Reads a whole file through a descriptor of its own, which is closed after. -/
def readFile (d : DirFs) (name : String) : Except Fault (List UInt8) × DirFs :=
  match d.openFile name OpenMode.read with
  | .error e => (.error e, d)
  | .ok (fd, d1) =>
    let (r, d2) := d1.readAll fd
    match d2.close fd with
    | .ok d3 => (r, d3)
    | .error e => (match r with | .ok _ => .error e | err => err, d2)

/-- Replaces a whole file through a descriptor of its own, which is closed after. -/
def writeFile (d : DirFs) (name : String) (data : List UInt8) : Except Fault Unit × DirFs :=
  match d.openFile name OpenMode.write with
  | .error e => (.error e, d)
  | .ok (fd, d1) =>
    match d1.write fd data with
    | .error e =>
      match d1.close fd with
      | .ok d2 => (.error e, d2)
      | .error _ => (.error e, d1)
    | .ok d2 =>
      match d2.close fd with
      | .ok d3 => (.ok (), d3)
      | .error e => (.error e, d2)

end DirFs

end Userland
