import Userland.Files.Path
import Userland.Files.Glob
import Userland.Fault

namespace Userland

/-! # An in-memory file system

Files are kept under their path resolved from the root, so `a/b/../c` and `/a/c`
name the same file. Descriptors are handed out as 3, 4, 5, … and never reused.
A descriptor opened for reading reads the file as it is when read; one opened
for writing collects what is written and replaces the file when it is closed,
starting from the file's content at open time when opened to append.

Open modes are numbers: 0 reads, 2 appends, and every other number writes.
-/

/-- How a file is opened: 0 reads, 2 appends, any other number writes. -/
abbrev OpenMode := Int

namespace OpenMode
/-- Reading. -/
def read : OpenMode := 0
/-- Writing from empty. -/
def write : OpenMode := 1
/-- Writing after the current content. -/
def append : OpenMode := 2
end OpenMode

/-- An open file: the path it was opened under, its mode, and what was written through it. -/
structure Descriptor where
  name : String
  mode : OpenMode
  written : List UInt8
  deriving Inhabited

/-- Files by path, open descriptors, and the next descriptor number. -/
structure Memory where
  files : List (String × List UInt8)
  open_ : List (Int × Descriptor)
  nextFd : Int
  deriving Inhabited

namespace Memory

/-- The file system holding the given files, each under its resolved path; a
later file of the same path replaces an earlier one. -/
def ofFiles (fs : List (String × List UInt8)) : Memory :=
  { files := fs.foldl (fun acc (p, d) =>
      let k := Path.resolve "/" p
      (acc.filter (·.1 != k)) ++ [(k, d)]) []
    open_ := [], nextFd := 3 }

/-- The content of a file, if it is there. -/
def get? (m : Memory) (name : String) : Option (List UInt8) :=
  (m.files.find? (·.1 == Path.resolve "/" name)).map (·.2)

/-- Stores a file, replacing any file of the same path. -/
def put (m : Memory) (name : String) (data : List UInt8) : Memory :=
  let k := Path.resolve "/" name
  { m with files :=
      if m.files.any (·.1 == k) then m.files.map fun (p, d) => if p == k then (p, data) else (p, d)
      else m.files ++ [(k, data)] }

/-- Every file, in path order. -/
def listing (m : Memory) : List (String × List UInt8) :=
  m.files.mergeSort (fun a b => a.1 ≤ b.1)

/-- The fault for a descriptor that is not open. -/
def notOpen (fd : Int) : Fault := .wrap ("descriptor " ++ toString fd) .fileClosed

/-- The descriptor open under a number. -/
def descriptor (m : Memory) (fd : Int) : Except Fault Descriptor :=
  match m.open_.lookup fd with
  | some d => .ok d
  | none => .error (notOpen fd)

/-- Opens a file; reading a file that is not there fails. -/
def openFile (m : Memory) (name : String) (mode : OpenMode) : Except Fault (Int × Memory) :=
  let name := Path.resolve "/" name
  let existing := m.get? name
  if mode = OpenMode.read && existing.isNone then
    .error (.wrap ("open " ++ name) (.notExist "file does not exist"))
  else
    let start := if mode = OpenMode.append then existing.getD [] else []
    .ok (m.nextFd, { m with open_ := m.open_ ++ [(m.nextFd, ⟨name, mode, start⟩)],
                            nextFd := m.nextFd + 1 })

/-- Reads the whole file behind a descriptor opened for reading. -/
def readAll (m : Memory) (fd : Int) : Except Fault (List UInt8) := do
  let d ← m.descriptor fd
  if d.mode ≠ OpenMode.read then throw (.wrap ("read " ++ d.name) (.permission "permission denied"))
  match m.get? d.name with
  | some data => return data
  | none => throw (.wrap ("read " ++ d.name) (.notExist "file does not exist"))

/-- Writes through a descriptor opened for writing. -/
def write (m : Memory) (fd : Int) (data : List UInt8) : Except Fault Memory := do
  let d ← m.descriptor fd
  if d.mode = OpenMode.read then throw (.wrap ("write " ++ d.name) (.permission "permission denied"))
  return { m with open_ := m.open_.map fun (k, e) =>
    if k == fd then (k, { e with written := e.written ++ data }) else (k, e) }

/-- Closes a descriptor; one opened for writing replaces its file. -/
def close (m : Memory) (fd : Int) : Except Fault Memory := do
  let d ← m.descriptor fd
  let m := { m with open_ := m.open_.filter (·.1 != fd) }
  return if d.mode ≠ OpenMode.read then m.put d.name d.written else m

/-- The paths, in order, that match a pattern taken relative to the root. -/
def glob (m : Memory) (pattern : String) : Except Fault (List String) :=
  if !Glob.validText pattern then .error .badPattern
  else
    let pat := if pattern.startsWith "/" then (pattern.drop 1).toString else pattern
    let names := m.files.map (·.1) |>.filter fun name =>
      let rel := if name.startsWith "/" then (name.drop 1).toString else name
      Glob.match? pat rel == some true
    .ok (names.mergeSort (· ≤ ·))

/-- Reads a whole file through a descriptor of its own, which is closed after. -/
def readFile (m : Memory) (name : String) : Except Fault (List UInt8) × Memory :=
  match m.openFile name OpenMode.read with
  | .error e => (.error e, m)
  | .ok (fd, m1) =>
    let r := m1.readAll fd
    match m1.close fd with
    | .ok m2 => (r, m2)
    | .error e => (match r with | .ok _ => .error e | err => err, m1)

/-- Replaces a whole file through a descriptor of its own, which is closed after. -/
def writeFile (m : Memory) (name : String) (data : List UInt8) : Except Fault Unit × Memory :=
  match m.openFile name OpenMode.write with
  | .error e => (.error e, m)
  | .ok (fd, m1) =>
    match m1.write fd data with
    | .error e =>
      match m1.close fd with
      | .ok m2 => (.error e, m2)
      | .error _ => (.error e, m1)
    | .ok m2 =>
      match m2.close fd with
      | .ok m3 => (.ok (), m3)
      | .error e => (.error e, m2)

end Memory

end Userland
