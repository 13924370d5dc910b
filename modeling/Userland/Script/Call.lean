import Userland.Script.Step
import Userland.Script.Builtins
import Userland.Worker.Run

namespace Userland

/-! # Calls

Calling a function literal opens its scope, binds its parameters and runs a
machine over its body until the body returns or throws. A generator stops
once its parameters are bound and becomes a generator object, whose `next`
runs the machine on to its next `yield`. An asynchronous function runs until
its first `await`; the rest runs as a job once the awaited promise settles,
and the promise it returned settles with how the body ends.

Constructing first makes the new object from the prototype of `new.target`,
unless the class extends another, whose constructor makes it when `super` is
called; a class's fields are set on it before its own body runs.

Every call passes less fuel on. Calls also nest: the script runs at depth 1,
and each call of a function literal, or of a builtin that script code calls
itself, goes one deeper; beyond the host's limit the run stops with
`overflow`, which no script catches. Every so many steps a run looks whether
its process has ended, so that a killed process stops even in an endless
loop.
-/

namespace Script

open Eval

/-- Stops a call that would nest deeper than the host allows. -/
def checkDepth (depth : Nat) : Eval Unit := do
  let h ← host
  if h.maxDepth > 0 && depth > h.maxDepth then stop .overflow

/-- How many steps a run takes between looks at whether its process has ended. -/
def tickPeriod : Nat := 1024

/-- Counts a step; every `tickPeriod` steps, stops the run if its process has ended. -/
def tick : Eval Unit := do
  let r ← realm
  let t := r.ticks + 1
  modifyRealm fun s => { s with ticks := t }
  if t % tickPeriod == 0 then
    if ← task (Worker.terminated r.host.pc.unit) then stop .killed

/-- The operations of a machine, from its callbacks, its calls and its nested runs. -/
def Ops.assemble (cb : Callbacks) (call : Value → Value → List Value → Eval Value)
    (run : Machine → Eval Outcome) : Ops :=
  let base : Ops := ⟨cb, call, cb.construct, fun _ _ => pure (), run⟩
  { base with initFields := Exec.initFieldsWith base }

/-- The `this` a function that is not an arrow sees: in sloppy code,
`undefined` and `null` stand for the global object and primitives are boxed. -/
def thisFor (c : Closure) (thisArg : Value) : Eval (Option Value) := do
  if c.func.arrow then return none
  if c.strict then return some thisArg
  match thisArg with
  | .undefined | .null => return some (.obj (← intr).globalObject)
  | .obj _ => return some thisArg
  | _ => return some (.obj (← toObject thisArg))

/-- The prototype a constructed object gets: `new.target`'s `prototype` when
it is an object, or a fallback. -/
def protoFromCtor (cb : Callbacks) (newTarget : Value) (fallback : Nat) : Eval Nat := do
  match newTarget with
  | .obj r =>
    match ← get cb r (keyOf "prototype") with
    | .obj p => return p
    | _ => return fallback
  | _ => return fallback

/-- Makes a generator object running a machine, with the prototype its function's `prototype` gives. -/
def newGenerator (cb : Callbacks) (fobj : Nat) (m : Machine) : Eval Value := do
  let proto ← protoFromCtor cb (.obj fobj) (← intr).generatorProto
  return .obj (← alloc (Obj.ofKind (.generator (.suspended m false)) (some proto)))

/-- Carries an asynchronous function on from how its machine stopped: an
`await` waits for the value's promise and resumes the machine from a job;
a return or a throw settles the function's promise. -/
def asyncContinue (cb : Callbacks) (p : Nat) (out : Outcome) : Eval Unit := do
  match out with
  | .returned v => Promise.resolveWith cb p v
  | .threw e => Promise.settle p e true
  | .awaiting v m =>
    let q ← Promise.awaitPromise cb v
    let onFul ← newNative (.asyncResume m p .next) "" 1 false
    let onRej ← newNative (.asyncResume m p .throw) "" 1 false
    Promise.performThen q onFul onRej none
  | _ => pure ()

/-- Starts an asynchronous function's promise from how its machine first stopped. -/
def asyncStart (cb : Callbacks) (out : Outcome) : Eval Value := do
  let p ← Promise.newPromise (← intr).promiseProto
  asyncContinue cb p out
  return .obj p

/-- Sets the state of a generator object. -/
def setGenState (r : Nat) (s : GenState) : Eval Unit :=
  modifyObj r fun o => { o with kind := .generator s }

/-- The generator object a value is, with its state. -/
def generatorOf (v : Value) (what : String) : Eval (Nat × GenState) := do
  let fail : Eval (Nat × GenState) := throwType (what ++ " method called on incompatible receiver")
  match v with
  | .obj r =>
    match (← getObj r).kind with
    | .generator s => return (r, s)
    | _ => fail
  | _ => fail

/-- The name of a resumption, for messages. -/
def ResumeMode.method : ResumeMode → String
  | .next => "next"
  | .throw => "throw"
  | .ret => "return"

mutual

/-- Calls a value with `this` and arguments; `fromScript` when script code
makes the call itself, so that a builtin counts toward the depth. -/
def callValue (fuel depth : Nat) (fromScript : Bool) (f thisV : Value) (args : List Value) : Eval Value :=
  match fuel with
  | 0 => stop .exhausted
  | n + 1 => do
    let cb : Callbacks := ⟨fun f t a => callValue n depth false f t a, fun f a nt => construct n depth f a nt⟩
    match f with
    | .obj r =>
      let o ← getObj r
      match o.kind with
      | .func (.closure c) =>
        match c.func.info.kind with
        | .classCtor _ =>
          throwType ("Class constructor " ++ (← Functions.ownName r).lossy ++ " cannot be invoked without 'new'")
        | _ =>
          checkDepth depth
          let thisVal ← thisFor c thisV
          let (_, out) ← activate n (depth + 1) r c thisVal args .undefined
          let inner : Callbacks :=
            ⟨fun f t a => callValue n (depth + 1) false f t a, fun f a nt => construct n (depth + 1) f a nt⟩
          if c.func.info.generator then
            match out with
            | .started m => newGenerator inner r m
            | .threw e => throwValue e
            | _ => return .undefined
          else if c.func.info.async then asyncStart inner out
          else
            match out with
            | .returned v => return v
            | .threw e => throwValue e
            | _ => return .undefined
      | .func (.native nat _) =>
        if fromScript then
          checkDepth depth
          callNative n (depth + 1) nat thisV args none
        else callNative n depth nat thisV args none
      | .func (.bound target bthis bargs) =>
        if fromScript then
          checkDepth depth
          callValue n (depth + 1) false target bthis (bargs ++ args)
        else callValue n depth false target bthis (bargs ++ args)
      | .proxy target handler revoked true _ =>
        if revoked then revokedError "apply"
        match ← trapOf cb handler "apply" chainLimit with
        | some trap => cb.call trap (.obj handler) [.obj target, thisV, ← newArray args.toArray]
        | none => callValue n depth fromScript (.obj target) thisV args
      | _ => throwType ("Not a function: " ++ (← toText cb f))
    | _ => throwType ("Value is not an object: " ++ (← toText cb f))

/-- Constructs with a value, arguments and `new.target`. -/
def construct (fuel depth : Nat) (f : Value) (args : List Value) (newTarget : Value) : Eval Value :=
  match fuel with
  | 0 => stop .exhausted
  | n + 1 => do
    let cb : Callbacks := ⟨fun f t a => callValue n depth false f t a, fun f a nt => construct n depth f a nt⟩
    let notCtor : Eval Value := do throwType ("Value is not a constructor: " ++ (← toText cb f))
    match f with
    | .obj r =>
      let o ← getObj r
      match o.kind with
      | .func (.closure c) =>
        match c.func.info.kind with
        | .classCtor derived =>
          checkDepth depth
          let inner : Callbacks :=
            ⟨fun f t a => callValue n (depth + 1) false f t a, fun f a nt => construct n (depth + 1) f a nt⟩
          let ops := Ops.assemble inner (fun f t a => callValue n (depth + 1) true f t a)
            (fun m => runMachine n (depth + 1) m)
          let implicit := match c.cls with
            | some d => d.implicit
            | none => false
          if derived && implicit then
            let pv := match ← getProto cb r with
              | some p => Value.obj p
              | none => .null
            if !(← isConstructor pv) then
              throwType ("Super constructor " ++ (← toText cb pv) ++ " of anonymous class is not a constructor")
            let res ← construct n (depth + 1) pv args newTarget
            ops.initFields f res
            return res
          let thisVal ← if derived then pure none else do
            let proto ← protoFromCtor cb newTarget (← intr).objectProto
            let obj := Value.obj (← alloc (Obj.ordinary (some proto)))
            ops.initFields f obj
            pure (some obj)
          let (sc, out) ← activate n (depth + 1) r c thisVal args newTarget
          match out with
          | .threw e => throwValue e
          | .returned v =>
            if v.isObject then return v
            if derived && !v.isUndefined then
              throwType "Derived constructors may only return object or undefined"
            match (← getScope sc).kind with
            | .function cc =>
              match cc.thisVal with
              | some t => return t
              | none => superNotCalled
            | _ => return .undefined
          | _ => return .undefined
        | .plain =>
          if c.func.info.generator || c.func.info.async then
            let _ ← notCtor
          checkDepth depth
          let proto ← protoFromCtor cb newTarget (← intr).objectProto
          let obj := Value.obj (← alloc (Obj.ordinary (some proto)))
          let (_, out) ← activate n (depth + 1) r c (some obj) args newTarget
          match out with
          | .returned v => return (if v.isObject then v else obj)
          | .threw e => throwValue e
          | _ => return obj
        | _ => notCtor
      | .func (.native nat true) => callNative n depth nat .undefined args (some newTarget)
      | .func (.bound target _ bargs) =>
        let nt := if newTarget.ref? == some r then target else newTarget
        construct n depth target (bargs ++ args) nt
      | .proxy target handler revoked _ true =>
        if revoked then revokedError "construct"
        match ← trapOf cb handler "construct" chainLimit with
        | some trap =>
          let res ← cb.call trap (.obj handler) [.obj target, ← newArray args.toArray, newTarget]
          if !res.isObject then throwType "proxy [[Construct]] must return an object"
          return res
        | none =>
          let nt := if newTarget.ref? == some r then .obj target else newTarget
          construct n depth (.obj target) args nt
      | _ => notCtor
    | _ => throwType ("Value is not an object: " ++ (← toText cb f))

/-- Opens a function literal's scope with its `this`, binds its arguments,
and runs its body at a depth: the scope and how the body stopped. -/
def activate (fuel depth : Nat) (fobj : Nat) (c : Closure) (thisVal : Option Value) (args : List Value)
    (newTarget : Value) : Eval (Nat × Outcome) :=
  match fuel with
  | 0 => stop .exhausted
  | n + 1 => do
    let f := c.func
    let kind : ScopeKind :=
      if f.arrow then .block else .function ⟨thisVal, .obj fobj, newTarget, c.home⟩
    let sc ← newScope ⟨#[], some c.env, kind⟩
    let names := f.paramNames
    if !f.arrow && mentionsArguments f && !names.contains "arguments" then
      let ao ← makeArguments args sc names f.info.simple c.strict (.obj fobj)
      declareIn sc "arguments" ao .mutable true
    if f.info.simple then
      for (name, i) in names.zipIdx do
        declareIn sc name (args.getD i .undefined) .mutable true
      instantiateBody sc f c.strict
      let m : Machine := ⟨.execList f.body, [], sc, c.strict, .undefined⟩
      if f.info.generator then return (sc, .started m)
      return (sc, ← runMachine n depth m)
    for name in names do
      declareIn sc name .undefined .mutable false
    let m : Machine := ⟨.give .undefined, [.params f.params f.rest args, .body f], sc, c.strict, .undefined⟩
    return (sc, ← runMachine n depth m)

/-- Runs a machine at a depth until it ends or stops. -/
def runMachine (fuel depth : Nat) (m : Machine) : Eval Outcome :=
  match fuel with
  | 0 => stop .exhausted
  | n + 1 => do
    tick
    let cb : Callbacks := ⟨fun f t a => callValue n depth false f t a, fun f a nt => construct n depth f a nt⟩
    let ops := Ops.assemble cb (fun f t a => callValue n depth true f t a) (fun m => runMachine n depth m)
    match ← step ops m with
    | .next m' => runMachine n depth m'
    | .done o => return o

/-- Runs a builtin at a depth. -/
def callNative (fuel depth : Nat) (nat : Native) (thisV : Value) (args : List Value)
    (newTarget : Option Value) : Eval Value :=
  match fuel with
  | 0 => stop .exhausted
  | n + 1 => do
    let cb : Callbacks := ⟨fun f t a => callValue n depth false f t a, fun f a nt => construct n depth f a nt⟩
    let ops := Ops.assemble cb (fun f t a => callValue n depth true f t a) (fun m => runMachine n depth m)
    match nat with
    | .iter .genNext => resume n depth thisV .next (arg args 0)
    | .iter .genReturn => resume n depth thisV .ret (arg args 0)
    | .iter .genThrow => resume n depth thisV .throw (arg args 0)
    | .asyncResume m p mode =>
      let out ← runMachine n depth { m with control := .resume mode (arg args 0) }
      asyncContinue cb p out
      return .undefined
    | .global .eval => Dynamic.indirect ops args
    | .function .ctor =>
      let fn ← Dynamic.functionFrom ops args
      match newTarget, fn with
      | some nt, .obj r =>
        let proto ← protoFromCtor cb nt (← intr).functionProto
        modifyObj r fun o => { o with proto := some proto }
      | _, _ => pure ()
      return fn
    | _ => Builtins.run cb nat thisV args newTarget

/-- Resumes a generator object with a value to give, throw or return. -/
def resume (fuel depth : Nat) (thisV : Value) (mode : ResumeMode) (x : Value) : Eval Value :=
  match fuel with
  | 0 => stop .exhausted
  | n + 1 => do
    let (r, st) ← generatorOf thisV mode.method
    match st with
    | .running => throwType "Generator is already running"
    | .finished =>
      match mode with
      | .next => iterResultObject .undefined true
      | .ret => iterResultObject x true
      | .throw => throwValue x
    | .suspended m started =>
      if !started && mode != .next then
        setGenState r .finished
        match mode with
        | .throw => throwValue x
        | _ => iterResultObject x true
      else
        setGenState r .running
        let m' := if started then { m with control := .resume mode x } else m
        let out ← tryCatch (runMachine n (depth + 1) m') fun s => do
          setGenState r .finished
          throw s
        match out with
        | .yielded v m2 =>
          setGenState r (.suspended m2 true)
          iterResultObject v false
        | .delegated res m2 =>
          setGenState r (.suspended m2 true)
          return res
        | .returned v =>
          setGenState r .finished
          iterResultObject v true
        | .threw e =>
          setGenState r .finished
          throwValue e
        | _ =>
          setGenState r .finished
          iterResultObject .undefined true

end

/-- Runs the jobs waiting in the realm, and those they queue, in order. -/
def runJobs (fuel : Nat) : Eval Unit :=
  match fuel with
  | 0 => stop .exhausted
  | n + 1 => do
    let r ← realm
    match r.jobs[r.nextJob]? with
    | none => pure ()
    | some job =>
      modifyRealm fun s => { s with nextJob := s.nextJob + 1 }
      let cb : Callbacks := ⟨fun f t a => callValue n 1 false f t a, fun f a nt => construct n 1 f a nt⟩
      let work : Eval Unit := match job with
        | .reaction rc v rejected =>
          match rc.handler, rc.capability with
          | none, some cap => do
            let _ ← cb.call (if rejected then cap.reject else cap.resolve) .undefined [v]
          | none, none => pure ()
          | some h, some cap => Promise.settleWith cb cap (cb.call h .undefined [v])
          | some h, none => do
            let _ ← cb.call h .undefined [v]
        | .thenable p thenable thenFn => do
          let (res, rej) ← Promise.resolvingFunctions p
          tryCatch (do let _ ← cb.call thenFn thenable [res, rej]) fun s =>
            match s with
            | .thrown e => do
              let _ ← cb.call rej .undefined [e]
            | _ => throw s
      tryCatch work fun s =>
        match s with
        | .thrown _ => pure ()
        | _ => throw s
      runJobs n

end Script

end Userland
