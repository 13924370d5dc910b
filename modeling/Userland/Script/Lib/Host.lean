import Userland.Script.Object
import Userland.Process.Info
import Userland.Files.Path

namespace Userland

/-! # What scripts can do to their process

The functions a script's process gives it: reading input and writing output
and errors, asking the supervisor to create, wait for, kill, start and pipe
processes and to list them, exiting, sleeping, and reading, writing and
listing files. With the console on, `console.log` and its siblings send their
arguments' texts, joined by blanks, to the supervisor as a log entry.

Arguments are converted as the machine's functions take them: a text
argument that is `undefined` or `null` is empty, and a number argument is an
integer truncated toward zero, 0 for `undefined`, `null` and NaN.

Input at its end is `null`; asking for no input or less gives `""`. Calls to
the supervisor give the pid or code, or the negative code of the error. Errors
of the machine other than the end of input are thrown as `GoError`s.
-/

namespace Script

namespace Host

open Eval

/-- A text argument: `undefined` and `null` are empty. -/
def textArg (cb : Callbacks) (v : Value) : Eval String :=
  if v.isNullish then pure "" else toText cb v

/-- An integer argument: `undefined` and `null` are 0, and a number is truncated. -/
def intArg (cb : Callbacks) (v : Value) : Eval Int := do
  if v.isNullish then return 0
  return Number.toWord (← toNumber cb v)

/-- A string value of bytes read, decoded with replacement characters. -/
def bytesValue (data : List UInt8) : Value := .str (Str.ofString (Utf8.decodeLossy data))

/-- What a read gave: text, or `null` at the end of input; any other error is thrown. -/
def readResult (r : List UInt8 × Option Fault) : Eval Value := do
  let (data, err) := r
  match err with
  | some .endOfStream => return if data.isEmpty then .null else bytesValue data
  | some e => throwFault e
  | none => return bytesValue data

/-- Writes text to an output, throwing the error that stops the write. -/
def write (pc : ProcessContext) (o : Output) (s : String) : Eval Unit := do
  let (_, err) ← proc (Proc.writeTo pc o (Utf8.encode s))
  if let some e := err then throwFault e

/-- The arguments of a new process: the items of an array or an object with a
length, as texts; other values cannot be arguments. -/
def argList (cb : Callbacks) (v : Value) : Eval (List String) := do
  let item (x : Value) : Eval String := if x.isNullish then pure "" else toText cb x
  match v with
  | .obj r =>
    let n ← match (← getObj r).kind with
      | .array items => pure items.size
      | _ => do
        let len ← toNumber cb (← get cb r lengthKey)
        pure (if len.isNaN || len ≤ 0 then 0 else (Number.toInteger len).toNat)
    (List.range n).mapM fun i => do item (← get cb r (Key.ofIndex i))
  | _ => throwFault (.other ("create: args: could not convert " ++ (← toText cb v) ++ " to []string"))

/-- A flag of creation options: present and true. -/
def flag (cb : Callbacks) (o : Value) (name : String) : Eval Bool := do
  return (← getV cb o (keyOf name)).truthy

/-- A text of creation options: empty when missing, `undefined` or `null`. -/
def field (cb : Callbacks) (o : Value) (name : String) : Eval String := do
  textArg cb (← getV cb o (keyOf name))

/-- The creation request a call of `create` makes. -/
def createRequest (cb : Callbacks) (args : List Value) : Eval CreateRequest := do
  let path ← match arg args 0 with
    | .undefined => pure ""
    | v => toText cb v
  let argv ← match arg args 1 with
    | .undefined | .null => pure []
    | v => argList cb v
  let opts := arg args 2
  if opts.isNullish then
    return { path, args := argv, pipeStdin := false, pipeStdout := false, start := false, cwd := "",
             redirectStdin := "", redirectStdout := "", terminal := none }
  let opts ← pure (Value.obj (← toObject opts))
  let r : CreateRequest :=
    { path, args := argv, pipeStdin := ← flag cb opts "pipeStdin", pipeStdout := ← flag cb opts "pipeStdout",
      start := ← flag cb opts "start", cwd := ← field cb opts "cwd", redirectStdin := ← field cb opts "stdin",
      redirectStdout := ← field cb opts "stdout", terminal := none }
  return r

/-- The number a call to the supervisor gives: its reply's number, or the
negative code of its error. -/
def answerNumber (a : Answer) : Value :=
  match a.error with
  | some e => Value.ofInt e.code
  | none => Value.ofInt a.num

/-- The code of a call to the supervisor that gives nothing else: 0, or the
negative code of its error. -/
def answerCode (a : Answer) : Value := Value.ofInt a.code

/-- A row of the process list as an object. -/
def infoObject (p : ProcessInfo) : Eval Value :=
  newObject [("pid", Value.ofInt p.pid), ("path", Value.ofString p.path), ("state", Value.ofString p.state),
    ("age", Value.ofInt p.ageSeconds)]

/-- Calls a function of the process with arguments. -/
def run (cb : Callbacks) (f : HostFn) (args : List Value) : Eval Value := do
  let h ← host
  let pc := h.pc
  let ctx := pc.ctx
  let client := pc.client
  let a0 := arg args 0
  match f with
  | .input =>
    let count ← match a0 with
      | .undefined => pure (inputChunk : Int)
      | v => do pure (Number.toInteger (← toNumber cb v))
    if count ≤ 0 then return Value.ofString ""
    readResult (← proc (Proc.readIn pc count.toNat))
  | .inputLine => readResult (← proc (Proc.readLineIn pc))
  | .inputAll =>
    let (data, err) ← proc (Proc.readAllIn pc)
    match err with
    | some .endOfStream | none => return bytesValue data
    | some e => throwFault e
  | .inputExact =>
    let count ← intArg cb a0
    if count ≤ 0 then return Value.ofString ""
    readResult (← proc (Proc.readExactIn pc count.toNat))
  | .output =>
    write pc pc.output (← textArg cb a0)
    return .undefined
  | .errorOut =>
    write pc pc.errOutput (← textArg cb a0)
    return .undefined
  | .create =>
    let req ← createRequest cb args
    return answerNumber (← task (client.create ctx req))
  | .wait => return answerNumber (← task (client.wait ctx (← intArg cb a0)))
  | .kill => return answerCode (← task (client.kill ctx (← intArg cb a0)))
  | .start => return answerCode (← task (client.start ctx (← intArg cb a0)))
  | .pipe =>
    let o ← intArg cb a0
    let i ← intArg cb (arg args 1)
    return answerCode (← task (client.pipe ctx o i))
  | .processes =>
    match ← task (client.listText ctx) with
    | .error e => return Value.ofInt e.code
    | .ok text =>
      match ProcessInfo.decodeListText text with
      | .error msg => return Value.ofInt (Fault.other msg).code
      | .ok rows => newArray (← rows.mapM infoObject).toArray
  | .exit =>
    let code := Number.toWord (← toNumber cb a0)
    let fault ← proc (Proc.exit pc code)
    if !(fault.cause matches .exited) then
      proc (Proc.log pc .debug "Exit not acknowledged" [("error", .str fault.message)])
    stop (.exited code)
  | .sleep =>
    let ms ← intArg cb a0
    if ms > 0 then
      match ← task (ctx.sleep (ms.toNat * 1000000)) with
      | .error e => throwFault e
      | .ok () => pure ()
    return .undefined
  | .readFile =>
    match ← proc (Proc.readFile pc (← textArg cb a0)) with
    | some (.ok data) => return bytesValue data
    | _ => return .null
  | .writeFile =>
    let name ← textArg cb a0
    let data ← textArg cb (arg args 1)
    match ← proc (Proc.writeFile pc name (Utf8.encode data)) with
    | some (.ok ()) => return .bool true
    | _ => return .bool false
  | .glob =>
    let pattern ← textArg cb a0
    match ← task (Prog.read fun m => m.glob? (Path.resolve pc.cwd pattern)) with
    | none => newArray #[]
    | some (.error e) => throwFault e
    | some (.ok names) => newArray (names.map Value.ofString).toArray
  | .console level =>
    let parts ← args.mapM (toText cb)
    let payload := Json.obj [("level", .str level), ("message", .str (" ".intercalate parts))]
    let _ ← task (client.forward .log payload)
    return .undefined

end Host

end Script

end Userland
