import Userland.Script.Globals
import Userland.Script.Call
import Userland.Script.Parser
import Userland.Script.EarlyError

namespace Userland

/-! # Running a process's script

The runner of script programs: it compiles the process's source, sets up a
fresh realm and runs the script to its end, then the jobs its promises left.

* A script that does not compile writes `<path>: <error>` to the process's
  errors and ends with code 2.
* A script that runs to its end ends with 0, and one that calls `exit` with
  its code.
* A process whose context ended while its script ran ends with 0 and the
  context's error, whatever the script did after.
* A value thrown and not caught writes `<path>: <value>` to the errors and
  ends with 1; calls nested too deep end with 1 and no text.
-/

namespace Script

open Eval

/-- How scripts run: the deepest calls may nest (0 for no limit) and whether
they have a console. -/
structure Config where
  stackSize : Nat
  console : Bool
  deriving Inhabited

/-- Calls nest at most 1024 deep, and scripts have a console. -/
def Config.default : Config := ⟨1024, true⟩

/-- The steps a script may take. -/
def fuel : Nat := 1000000000000

/-- Compiles a source: a syntax error is reported with its line and column
before the message, an early error after it. -/
def compile (path : String) (source : String) : Except String Program :=
  match Program.parse source with
  | .error errs => .error ("SyntaxError: " ++ SyntaxError.report path source errs)
  | .ok p =>
    match p.earlyError? with
    | some (offset, e) =>
      let (line, col) := placeIn source offset
      .error ("SyntaxError: " ++ e.message ++ " at " ++ path ++ ":" ++ toString line ++ ":" ++ toString col)
    | none => .ok p

/-- Writes a line to the process's errors; a failed write is ignored. -/
def complain (pc : ProcessContext) (text : String) : Proc Unit := do
  let _ ← Proc.writeTo pc pc.errOutput (Utf8.encode (pc.path ++ ": " ++ text ++ "\n"))

/-- The callbacks of object operations at the script's own depth. -/
def topCallbacks : Callbacks := ⟨fun f t a => callValue fuel 1 false f t a, fun f a nt => construct fuel 1 f a nt⟩

/-- Runs a program in a fresh realm, then its jobs: a value it throws is
thrown again once the jobs have run. -/
def runProgram (p : Program) : Eval Unit := do
  Globals.setup
  instantiateProgram topCallbacks p
  let out ← runMachine fuel 1 ⟨.execList p.body, [], 0, p.strict, .undefined⟩
  runJobs fuel
  match out with
  | .threw v => throwValue v
  | _ => pure ()

/-- Runs a script on a process. -/
def runner (cfg : Config) : Runner := fun pc => do
  match compile pc.path (Utf8.decodeLossy pc.source) with
  | .error text =>
    complain pc text
    return (2, some (.other ("compile " ++ pc.path ++ ": " ++ text)))
  | .ok prog =>
    let host : Host := ⟨pc, cfg.console, cfg.stackSize⟩
    let body : Eval Unit := do
      tryCatch (runProgram prog) fun s =>
        match s with
        | .thrown v => do
          let text ← tryCatch (toText topCallbacks v) fun _ => pure ""
          stop (.thrown (.str (Str.ofString text)))
        | _ => stop s
    let (res, _) ← (ExceptT.run body).run (Realm.empty host)
    let cancelled ← Proc.lift (Worker.terminated pc.unit)
    match res with
    | .error (.exited code) => return (code, some .exited)
    | _ =>
      if cancelled then return (0, some .cancelled)
      match res with
      | .error (.thrown v) =>
        let text := match v with
          | .str s => s.lossy
          | _ => ""
        complain pc text
        return (1, some (.other text))
      | .error .killed => return (0, some .cancelled)
      | .error _ => return (1, some (.other ""))
      | .ok _ => return (0, none)

end Script

end Userland
