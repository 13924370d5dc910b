import Userland.Files.Memory
import Userland.Files.Dir

namespace Userland

/-! # The file system programs see

Programs see no file system, one kept in memory, or a host directory served
from `/`. The two kinds answer the same calls: open a name for reading,
writing or appending, read what a descriptor has to its end, close it, read
or replace a whole file, and list the names a pattern matches.
-/

/-- The file system programs see. -/
inductive Files where
  | none
  | memory (m : Memory)
  | dir (d : DirFs)
  deriving Inhabited

namespace Files

/-- Opens a name; none when there is no file system. -/
def openFile (f : Files) (name : String) (mode : OpenMode) : Option (Except Fault (Int × Files)) :=
  match f with
  | .none => Option.none
  | .memory m => some ((m.openFile name mode).map fun (fd, m) => (fd, .memory m))
  | .dir d => some ((d.openFile name mode).map fun (fd, d) => (fd, .dir d))

/-- Reads what a descriptor has to its end. -/
def readAll (f : Files) (fd : Int) : Except Fault (List UInt8) × Files :=
  match f with
  | .none => (.error (Memory.notOpen fd), f)
  | .memory m => (m.readAll fd, f)
  | .dir d => let (r, d) := d.readAll fd; (r, .dir d)

/-- Closes a descriptor. -/
def close (f : Files) (fd : Int) : Except Fault Files :=
  match f with
  | .none => .error (Memory.notOpen fd)
  | .memory m => (m.close fd).map .memory
  | .dir d => (d.close fd).map .dir

/-- Reads a whole file; none when there is no file system. -/
def readFile (f : Files) (name : String) : Option (Except Fault (List UInt8) × Files) :=
  match f with
  | .none => Option.none
  | .memory m => let (r, m) := m.readFile name; some (r, .memory m)
  | .dir d => let (r, d) := d.readFile name; some (r, .dir d)

/-- Replaces a whole file; none when there is no file system. -/
def writeFile (f : Files) (name : String) (data : List UInt8) : Option (Except Fault Unit × Files) :=
  match f with
  | .none => Option.none
  | .memory m => let (r, m) := m.writeFile name data; some (r, .memory m)
  | .dir d => let (r, d) := d.writeFile name data; some (r, .dir d)

/-- The names a pattern matches; none when there is no file system. -/
def glob (f : Files) (pattern : String) : Option (Except Fault (List String)) :=
  match f with
  | .none => Option.none
  | .memory m => some (m.glob pattern)
  | .dir d => some (d.glob pattern)

/-- Every file of a memory file system with its bytes; nothing for the other kinds. -/
def memoryListing (f : Files) : List (String × List UInt8) :=
  match f with
  | .memory m => m.listing
  | _ => []

end Files

end Userland
