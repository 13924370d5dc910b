import Userland.Worker.Run
import Userland.Program.Routes
import Userland.Text.Integer
import Userland.Text.Words
import Userland.Time.Duration
import Userland.Time.Relative

namespace Userland

/-! # Builtin programs

The programs every machine has under `/bin`, needing no source:

* `cat` copies its input, or the named files, to its output;
* `echo` writes its arguments joined by blanks, and a newline;
* `true` and `false` end with 0 and 1;
* `wc` counts the lines, words and bytes of its input;
* `sleep` waits a number of seconds or a duration (1 s by default);
* `exit` exits with the given code (0 by default);
* `ps` prints the process table in columns;
* `kill` kills the given pids, and `wait` waits for each and reports its code.

A program that fails gives the fault with its code: 1 for a failed call, 2 for
bad arguments.
-/

namespace Builtin

open Proc

/-- A finished program: its code and, when it failed, why. -/
def finish (code : Int) (err : Option Fault) : Proc (Int × Option Fault) := pure (code, err)

/-- Copies input to output until the end of input, at most `fuel` chunks. -/
def copy (pc : ProcessContext) : Nat → Proc (Int × Option Fault)
  | 0 => finish 0 none
  | fuel + 1 => do
    let (bs, err) ← readIn pc 32768
    if !bs.isEmpty then
      let (_, werr) ← writeOut pc bs
      if let some e := werr then return (1, some e)
    match err with
    | some .endOfStream => finish 0 none
    | some e => finish 1 (some e)
    | none => copy pc fuel

/-- Writes the named files to the output, in order. -/
def catFiles (pc : ProcessContext) : List String → Proc (Int × Option Fault)
  | [] => finish 0 none
  | name :: rest => do
    match ← readFile pc name with
    | none => finish 1 (some (.other "no filesystem"))
    | some (.error e) => finish 1 (some e)
    | some (.ok data) =>
      let (_, werr) ← writeOut pc data
      match werr with
      | some e => finish 1 (some e)
      | none => catFiles pc rest

/-- `cat`. -/
def cat (pc : ProcessContext) : Proc (Int × Option Fault) :=
  if pc.args.isEmpty then copy pc streamFuel else catFiles pc pc.args

/-- `echo`. -/
def echo (pc : ProcessContext) : Proc (Int × Option Fault) := do
  let (_, err) ← writeOut pc (Utf8.encode (" ".intercalate pc.args ++ "\n"))
  match err with
  | some e => finish 1 (some e)
  | none => finish 0 none

/-- `wc`. -/
def wc (pc : ProcessContext) : Proc (Int × Option Fault) := do
  let (data, err) ← readAllIn pc
  if let some e := err then return (1, some e)
  let text := toString (Text.lineCount data) ++ " " ++ toString (Text.wordCountBytes data) ++ " " ++
    toString data.length ++ "\n"
  let (_, werr) ← writeOut pc (Utf8.encode text)
  match werr with
  | some e => finish 1 (some e)
  | none => finish 0 none

/-- A duration argument: whole seconds, or a duration text. -/
def durationArg (s : String) : Except String Int :=
  match Text.parseInt? s with
  | some n => .ok (Text.wrapWord (n * 1000000000))
  | none => Duration.parse s

/-- `sleep`. -/
def sleep (pc : ProcessContext) : Proc (Int × Option Fault) := do
  let d ← match pc.args with
    | [] => pure (.ok 1000000000)
    | a :: _ => pure (durationArg a)
  match d with
  | .error msg => finish 2 (some (.other msg))
  | .ok d =>
    match ← lift (pc.ctx.sleep d.toNat) with
    | .ok () => finish 0 none
    | .error e => finish 1 (some e)

/-- `exit`. -/
def exit (pc : ProcessContext) : Proc (Int × Option Fault) := do
  match pc.args with
  | [] => let f ← Proc.exit pc 0; finish 0 (some f)
  | a :: _ =>
    match Text.parseInt? a with
    | none => finish 2 (some (.other ("exit: bad code " ++ Text.quote a)))
    | some code => let f ← Proc.exit pc code; finish code (some f)

/-- The pids named by the arguments. -/
def parsePids (args : List String) : Except Fault (List Int) :=
  if args.isEmpty then .error (.other "missing pid")
  else args.mapM fun a => match Text.parseInt? a with
    | some n => if n > 0 then .ok n else .error (.other ("bad pid " ++ Text.quote a))
    | none => .error (.other ("bad pid " ++ Text.quote a))

/-- `ps`. -/
def ps (pc : ProcessContext) : Proc (Int × Option Fault) := do
  match ← lift (pc.client.listText pc.ctx) with
  | .error e => finish 1 (some e)
  | .ok text =>
    match ProcessInfo.decodeListText text with
    | .error msg => finish 1 (some (.wrap "decode process list" (.other msg)))
    | .ok rows =>
      let now := Machine.wallTime (← lift Prog.now)
      let lines := ["PID", "STATE", "STARTED", "PATH"] :: rows.map fun r =>
        [toString r.pid, r.state, Relative.describe r.createdAt now, r.path]
      let (_, werr) ← writeOut pc (Utf8.encode (Text.columns 2 lines))
      match werr with
      | some e => finish 1 (some e)
      | none => finish 0 none

/-- Kills each pid in turn, stopping at the first failure. -/
def killAll (pc : ProcessContext) : List Int → Proc (Int × Option Fault)
  | [] => finish 0 none
  | pid :: rest => do
    let a ← lift (pc.client.kill pc.ctx pid)
    match a.error with
    | some e => finish 1 (some e)
    | none => killAll pc rest

/-- `kill`. -/
def kill (pc : ProcessContext) : Proc (Int × Option Fault) :=
  match parsePids pc.args with
  | .error e => finish 2 (some e)
  | .ok pids => killAll pc pids

/-- Waits for each pid in turn, reporting its code; the last code is the program's. -/
def waitAll (pc : ProcessContext) (code : Int) : List Int → Proc (Int × Option Fault)
  | [] => finish code none
  | pid :: rest => do
    let a ← lift (pc.client.wait pc.ctx pid)
    match a.error with
    | some e => finish 1 (some e)
    | none =>
      let _ ← writeOut pc (Utf8.encode (toString pid ++ " exited with " ++ toString a.num ++ "\n"))
      waitAll pc a.num rest

/-- `wait`. -/
def wait (pc : ProcessContext) : Proc (Int × Option Fault) :=
  match parsePids pc.args with
  | .error e => finish 2 (some e)
  | .ok pids => waitAll pc 0 pids

/-- The builtin programs by path. -/
def programs : List (String × Runner) :=
  [("/bin/cat", cat), ("/bin/echo", echo), ("/bin/true", fun _ => finish 0 none),
   ("/bin/false", fun _ => finish 1 none), ("/bin/wc", wc), ("/bin/sleep", sleep),
   ("/bin/exit", exit), ("/bin/ps", ps), ("/bin/kill", kill), ("/bin/wait", wait)]

/-- Routes with every builtin program, and the given fallback. -/
def routes (fallback : Option Runner) : Routes Runner :=
  { routes := programs, fallback }

/-- Runs the program routes select for a process; a path with no program ends with 127. -/
def dispatch (r : Routes Runner) : Runner := fun pc =>
  match r.select? pc.path with
  | some run => run pc
  | none => let (code, e) := Routes.unrouted pc.path; finish code (some e)

end Builtin

end Userland
