import Userland.Task.Client

namespace Userland

/-! # A running process

What a program sees while it runs: its pid, path, arguments, working directory
and source; where it reads and writes; its client for the supervisor; and the
file system, if it has one.

Input is, in order of precedence, a file named by the stdin redirect (read in
whole before the program starts), the stdin pipe when the process was created
to read one, the terminal, or else the stdin pipe. Output is a buffer that is
written to the stdout redirect's file when the process ends, else the stdout
pipe when the process was created to write one, the terminal, or the stdout
pipe. Errors go to the terminal unless the process writes a pipe, else to the
stderr pipe.

Input that is not a pipe is read through a buffer of 4096 bytes: a read of
fewer bytes takes one chunk from the source into the buffer and hands out what
it asked for; later reads are served from the buffer first. A terminal is
either one whose input is given in advance, which ends where that input ends,
or a session a client types into: reading it waits for a completed line, and
a line ended by `^D` reads as the end of input.

A process program runs in `Proc`: a task that also keeps the process's own
state, which is its input buffer, its captured output, and whether it has
exited and released its outputs.
-/

/-- Where a process reads. -/
inductive Input where
  | pipe (id : Nat)
  /-- The bytes of a redirect file, held by the process. -/
  | held
  | terminal (id : String)
  deriving Inhabited, Repr

/-- Where a process writes. -/
inductive Output where
  | pipe (id : Nat)
  /-- Kept by the process and written to the redirect file when it ends. -/
  | captured
  | terminal (id : String)
  deriving Inhabited, Repr

/-- What a program runs with. -/
structure ProcessContext where
  pid : Nat
  path : String
  args : List String
  cwd : String
  source : List UInt8
  stdin : Nat
  stdout : Nat
  stderr : Nat
  terminal : Option String
  pipeStdin : Bool
  pipeStdout : Bool
  redirectStdin : String
  redirectStdout : String
  /-- The execution unit the process runs on; its termination ends the process's context. -/
  unit : String
  client : Client
  /-- Whether the process has a file system. -/
  hasFs : Bool
  input : Input
  output : Output
  errOutput : Output
  deriving Inhabited

namespace ProcessContext

/-- The context the process's blocking calls run under. -/
def ctx (pc : ProcessContext) : Ctx := Ctx.ofUnit pc.unit

end ProcessContext

/-- A process's own state. -/
structure ProcState where
  /-- Input read from the source into the buffer and not yet handed out. -/
  buffered : List UInt8
  /-- What remains of a redirect file's bytes. -/
  held : List UInt8
  /-- Output kept for the redirect file. -/
  captured : Array UInt8
  exited : Bool
  released : Bool
  deriving Inhabited

/-- A task that runs a process. -/
abbrev Proc := StateT ProcState Prog

/-- The size of the buffer input that is not a pipe is read through. -/
def inputChunk : Nat := 4096

namespace Machine

/-- Reads a whole file; none when there is no file system. -/
def readFile? (m : Machine) (name : String) : Option (Except Fault (List UInt8) × Machine) :=
  (m.files.readFile name).map fun (r, fs) => (r, { m with files := fs })

/-- Replaces a whole file; none when there is no file system. -/
def writeFile? (m : Machine) (name : String) (data : List UInt8) : Option (Except Fault Unit × Machine) :=
  (m.files.writeFile name data).map fun (r, fs) => (r, { m with files := fs })

/-- The files matching a pattern; none when there is no file system. -/
def glob? (m : Machine) (pattern : String) : Option (Except Fault (List String)) :=
  m.files.glob pattern

end Machine

namespace Proc

/-- Runs a task step inside a process. -/
def lift {α : Type} (p : Prog α) : Proc α := StateT.lift p

/-- Logs an entry about the process. -/
def log (pc : ProcessContext) (level : Level) (msg : String) (fields : List (String × Json)) : Proc Unit :=
  lift (Prog.change (·.log level pc.unit msg
    ([("pid", Json.int pc.pid), ("path", .str pc.path)] ++ fields)))

/-- Takes up to `n` bytes from the source under the input buffer: the rest of
a redirect file, or what the terminal has. An empty source is at its end. -/
def pull (pc : ProcessContext) (n : Nat) : Proc (List UInt8 × Option Fault) := do
  match pc.input with
  | .held =>
    let s ← get
    if s.held.isEmpty then return ([], some .endOfStream)
    set { s with held := s.held.drop n }
    return (s.held.take n, none)
  | .terminal id =>
    lift (Prog.await (fun m => match m.terminal? id with
      | some t =>
        if t.input.isEmpty then some (([], some .endOfStream), m)
        else some ((t.input.take n, none), m.updateTerminal id fun t => { t with input := t.input.drop n })
      | none =>
        match m.sessions.find? id with
        | none => some (([], some .endOfStream), m)
        | some s =>
          match s.take? n with
          | none => none
          | some (bs, s) =>
            some ((bs, if bs.isEmpty then some .endOfStream else none),
              { m with sessions := m.sessions.update s })) none)
  | .pipe _ => return ([], some .endOfStream)

/-- Moves one chunk from the source into the input buffer, up to its size. -/
def fill (pc : ProcessContext) : Proc (Option Fault) := do
  let room := inputChunk - (← get).buffered.length
  let (bs, err) ← pull pc room
  modify fun s => { s with buffered := s.buffered ++ bs }
  return err

/-- Hands out up to `n` buffered bytes. -/
def fromBuffer (n : Nat) : Proc (List UInt8) := do
  let s ← get
  set { s with buffered := s.buffered.drop n }
  return s.buffered.take n

/-- Reads up to `n` bytes of input; nothing is read at the end of input. -/
def readIn (pc : ProcessContext) (n : Nat) : Proc (List UInt8 × Option Fault) := do
  match pc.input with
  | .pipe id => lift (pc.ctx.readPipe id n)
  | _ =>
    if n = 0 then return ([], none)
    if (← get).buffered.isEmpty then
      if n ≥ inputChunk then return ← pull pc n
      match ← fill pc with
      | some e => if (← get).buffered.isEmpty then return ([], some e)
      | none => pure ()
    return (← fromBuffer n, none)

/-- Reads input through the next newline, or what there is before the end of input. -/
def readLineIn (pc : ProcessContext) : Proc (List UInt8 × Option Fault) := do
  match pc.input with
  | .pipe id => lift (pc.ctx.readLinePipe id)
  | _ => go streamFuel []
where
  go : Nat → List UInt8 → Proc (List UInt8 × Option Fault)
    | 0, acc => pure (acc, none)
    | fuel + 1, acc => do
      let buf := (← get).buffered
      match buf.findIdx? (· == 10) with
      | some i => return (acc ++ (← fromBuffer (i + 1)), none)
      | none =>
        let acc := acc ++ (← fromBuffer buf.length)
        match ← fill pc with
        | some e =>
          if (← get).buffered.isEmpty then return (acc, some e) else go fuel acc
        | none => go fuel acc

/-- Reads input to its end; reaching the end is success. -/
def readAllIn (pc : ProcessContext) : Proc (List UInt8 × Option Fault) := do
  match pc.input with
  | .pipe id => lift (pc.ctx.readAllPipe id)
  | _ => go streamFuel []
where
  go : Nat → List UInt8 → Proc (List UInt8 × Option Fault)
    | 0, acc => pure (acc, none)
    | fuel + 1, acc => do
      let (bs, err) ← readIn pc 512
      match err with
      | some .endOfStream => return (acc ++ bs, none)
      | some e => return (acc ++ bs, some e)
      | none => go fuel (acc ++ bs)

/-- Reads exactly `n` bytes of input, or what there is before the end of input. -/
def readExactIn (pc : ProcessContext) (n : Nat) : Proc (List UInt8 × Option Fault) := do
  match pc.input with
  | .pipe id => lift (pc.ctx.readExactPipe id n)
  | _ => go streamFuel []
where
  go : Nat → List UInt8 → Proc (List UInt8 × Option Fault)
    | 0, acc => pure (acc, none)
    | fuel + 1, acc => do
      if acc.length ≥ n then return (acc, none)
      let (bs, err) ← readIn pc (n - acc.length)
      match err with
      | some e => return (acc ++ bs, some e)
      | none => go fuel (acc ++ bs)

/-- Writes bytes to an output; gives the count written and why it stopped short. -/
def writeTo (pc : ProcessContext) (o : Output) (bs : List UInt8) : Proc (Nat × Option Fault) := do
  match o with
  | .pipe id => lift (pc.ctx.writePipe id bs)
  | .captured =>
    modify fun s => { s with captured := s.captured ++ bs.toArray }
    return (bs.length, none)
  | .terminal id =>
    lift (Prog.change fun m => match m.terminal? id with
      | some _ => m.updateTerminal id fun t => { t with output := t.output ++ bs.toArray }
      | none =>
        match m.sessions.find? id with
        | some s => { m with sessions := m.sessions.update (s.write bs).1 }
        | none => m)
    return (bs.length, none)

/-- Writes to the process's output. -/
def writeOut (pc : ProcessContext) (bs : List UInt8) : Proc (Nat × Option Fault) :=
  writeTo pc pc.output bs

/-- Reads a file relative to the working directory; none without a file system. -/
def readFile (pc : ProcessContext) (name : String) : Proc (Option (Except Fault (List UInt8))) :=
  lift (Prog.atomic fun m => match m.readFile? (Path.resolve pc.cwd name) with
    | some (r, m') => (some r, m')
    | none => (none, m))

/-- Writes a file relative to the working directory; none without a file system. -/
def writeFile (pc : ProcessContext) (name : String) (data : List UInt8) : Proc (Option (Except Fault Unit)) :=
  lift (Prog.atomic fun m => match m.writeFile? (Path.resolve pc.cwd name) data with
    | some (r, m') => (some r, m')
    | none => (none, m))

/-- Writes the captured output to the redirect file and closes the output
pipes, once. -/
def release (pc : ProcessContext) : Proc Unit := do
  if (← get).released then return
  modify fun s => { s with released := true }
  if pc.redirectStdout ≠ "" then
    let name := Path.resolve pc.cwd pc.redirectStdout
    match ← writeFile pc pc.redirectStdout (← get).captured.toList with
    | some (.error e) =>
      log pc .warn "Failed to write redirected output" [("path", .str name), ("error", .str e.message)]
    | _ => pure ()
  lift (Prog.change fun m => (m.closePipe pc.stdout).closePipe pc.stderr)

/-- Ends the process with a code: releases its outputs and asks the supervisor
to end it. Gives the fault the program unwinds with: `exited` once the
supervisor answered, or the failure of the request. -/
def exit (pc : ProcessContext) (code : Int) : Proc Fault := do
  if (← get).exited then return .exited
  modify fun s => { s with exited := true }
  release pc
  let a ← lift (pc.client.exit pc.ctx code)
  match a.error with
  | some e => return .wrap ("exit " ++ toString code) e
  | none => return .exited

end Proc

end Userland
