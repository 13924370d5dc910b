import Userland.Machine.Basic
import Userland.Files.Glob
import Userland.Text.Utf8

namespace Userland

/-! # Loading programs

A program is found by its resolved path. A path a builtin pattern provides
needs no source. Otherwise the file is read from the machine's file system and
must be text: no byte of it may be one that only binary data holds (the control
bytes other than tab, line feed, form feed, carriage return and escape), and it
must not open with the mark of a PDF or PostScript document.

A missing file means the program is not found; any other failure to read it is
an error from elsewhere, with the file system's text.
-/

/-- The outcome of loading a program. -/
inductive Loaded where
  | source (bytes : List UInt8)
  | failed (f : Fault)
  /-- The file system crashed while opening it. -/
  | crashed

namespace Loaded

/-- Whether a byte marks data as binary. -/
def binaryByte (b : UInt8) : Bool :=
  b ≤ 0x08 || b = 0x0B || (0x0E ≤ b && b ≤ 0x1A) || (0x1C ≤ b && b ≤ 0x1F)

/-- The media type of data that is not text, or none for text. -/
def nonTextKind (data : List UInt8) : Option String :=
  let starts (s : String) := (Utf8.encode s).isPrefixOf data
  if starts "%PDF-" then some "application/pdf"
  else if starts "%!PS-Adobe-" then some "application/postscript"
  else if (data.take 3072).any binaryByte then some "application/octet-stream"
  else none

end Loaded

namespace Machine

/-- Whether a builtin pattern provides a path. -/
def providesBuiltin (m : Machine) (path : String) : Bool :=
  m.builtins.any fun p => Glob.match? p path == some true

/-- Loads the program at a resolved path. -/
def load (m : Machine) (path : String) : Loaded × Machine :=
  if m.providesBuiltin path then (.source [], m)
  else if m.faults.crashOnOpen.contains path then (.crashed, m)
  else match m.faults.onOpen.lookup path, m.files.openFile path OpenMode.read with
    | some msg, _ => (.failed (.sys (SysError.external msg)), m)
    | none, none => (.crashed, m)
    | none, some (.error f) =>
      match f.cause with
      | .notExist _ => (.failed (.sys ((SysError.of .programNotFound).withMsg
          ("program " ++ path ++ " not found"))), m)
      | _ => (.failed (.sys (SysError.external f.message)), m)
    | none, some (.ok (fd, fs)) =>
      let (read, fs) : Except Fault (List UInt8) × Files := match m.faults.onRead.lookup path with
        | some msg => (.error (.other msg), fs)
        | none => fs.readAll fd
      let (closeErr, fs) : Option Fault × Files := match fs.close fd with
        | .ok fs' => ((m.faults.onClose.lookup path).map .other, fs')
        | .error e => (some e, fs)
      let m := { m with files := fs }
      let result : Except Fault (List UInt8) := match read, closeErr with
        | .ok _, some e => .error e
        | r, _ => r
      match result with
      | .error e => (.failed (.sys (SysError.external e.message)), m)
      | .ok data =>
        match Loaded.nonTextKind data with
        | some kind => (.failed (.sys (SysError.invalid
            ("program " ++ path ++ " is " ++ kind ++ ", not text"))), m)
        | none => (.source data, m)

end Machine

end Userland
