import Userland.Script.Ops
import Userland.Script.Parser
import Userland.Script.EarlyError

namespace Userland

/-! # Code compiled while a script runs

`eval` and the `Function` constructor compile a text while the script runs
and run it.

* The text is compiled as a script named `(anonymous)`: a syntax error is
  thrown as a `SyntaxError` whose message places it by line and column.
* The code's `let`, `const` and `class` names live in a scope of its own.
  Its `var` and function names go where the caller's `var` declarations go
  (the nearest function's scope, or the global object), unless the code is
  strict, when they stay in its own scope too.
* The value of the code is its statements' completion value: the value of
  the expression statement run last, `undefined` after an `if`, a loop, a
  `switch`, a `try` or a `with` that ran none.
* `eval` called by that name runs the text in the caller's scope, with the
  caller's strictness; called any other way, in the global scope.
* `Function(p1, ..., pn, body)` evaluates the text
  `(function anonymous(p1,...,pn` newline `) {` newline body newline `})`
  in the global scope, so that the function's text is that one.
-/

namespace Script

open Eval

namespace Dynamic

/-- The name syntax errors of compiled code are reported under. -/
def codeName : String := "(anonymous)"

/-- Compiles code given at run time, strict when the caller's code is. -/
def compile (src : String) (strict : Bool) : Eval Program := do
  match Program.parse src with
  | .error errs => throwSyntax (SyntaxError.report codeName src errs)
  | .ok p =>
    let p := { p with strict := p.strict || strict }
    match p.earlyError? with
    | some (offset, e) =>
      let (line, col) := placeIn src offset
      throwSyntax (e.message ++ " at " ++ toString line ++ ":" ++ toString col)
    | none => return p

/-- The scope `var` declarations made in a scope go to: the nearest
function's scope around it, or the global scope. -/
def varScope (sc : Nat) : Eval Nat := do
  let rec go : Nat → Nat → Eval Nat
    | 0, i => return i
    | n + 1, i => do
      let s ← getScope i
      match s.kind with
      | .function _ | .global => return i
      | _ =>
        match s.parent with
        | some p => go n p
        | none => return i
  go scopeLimit sc

/-- Whether a scope is the global one, whose `var` names are properties of the global object. -/
def isGlobalScope (sc : Nat) : Eval Bool := do
  match (← getScope sc).kind with
  | .global => return true
  | _ => return false

/-- Makes a name a property of the global object as code given to `eval`
declares it: configurable, and kept as it is when it is there already. -/
def declareGlobal (cb : Callbacks) (name : String) (fn : Option Value) : Eval Unit := do
  let g := (← intr).globalObject
  match fn, ← getOwn cb g (keyOf name) with
  | none, some _ => pure ()
  | none, none =>
    let _ ← defineOwn cb g (keyOf name) ⟨some .undefined, some true, none, none, some true, some true⟩
  | some f, some cur =>
    if cur.configurable then
      let _ ← defineOwn cb g (keyOf name) ⟨some f, some true, none, none, some true, some true⟩
    else
      let _ ← set cb g (keyOf name) f
  | some f, none =>
    let _ ← defineOwn cb g (keyOf name) ⟨some f, some true, none, none, some true, some true⟩

/-- Binds the declarations of compiled code run in a scope: the scope the
code runs in, a new one around its lexical names. -/
def instantiate (cb : Callbacks) (p : Program) (outer : Nat) : Eval Nat := do
  let own ← newScope ⟨#[], some outer, .block⟩
  for (name, isConst) in lexicalDecls p.body do
    declareIn own name .undefined (if isConst then .const else .mutable) false
  let target ← if p.strict then pure own else varScope outer
  let toGlobal ← isGlobalScope target
  for v in p.vars do
    if toGlobal then declareGlobal cb v none else declareNew target v .undefined
  for (name, lit) in functionDecls p.body do
    let fn ← makeClosure lit own p.strict none (Str.ofString name) none
    if toGlobal then declareGlobal cb name (some fn) else declareIn target name fn .mutable true
  return own

/-- Runs compiled code in a scope: the value of its completion. -/
def run (ops : Ops) (p : Program) (outer : Nat) : Eval Value := do
  let sc ← instantiate ops.cb p outer
  match ← ops.run ⟨.execList p.body, [.evalCode], sc, p.strict, .undefined⟩ with
  | .returned v => return v
  | .threw v => throwValue v
  | _ => return .undefined

/-- `eval` called by its name from code running in a scope: a text runs
there, with the caller's strictness; any other value is given back. -/
def direct (ops : Ops) (scope : Nat) (strict : Bool) (args : List Value) : Eval Value := do
  match arg args 0 with
  | .str s => run ops (← compile s.lossy strict) scope
  | v => return v

/-- `eval` called any other way: a text runs in the global scope, as sloppy
code unless it says otherwise; any other value is given back. -/
def indirect (ops : Ops) (args : List Value) : Eval Value := do
  match arg args 0 with
  | .str s => run ops (← compile s.lossy false) 0
  | v => return v

/-- Whether a value is the realm's own `eval`, whose calls by name are direct. -/
def isOwnEval (v : Value) : Eval Bool := do
  match v with
  | .obj r =>
    match (← getObj r).kind with
    | .func (.native (.global .eval) _) => return true
    | _ => return false
  | _ => return false

/-- The text the `Function` constructor compiles from its arguments: the
parameters joined by commas, then the body. -/
def functionText (params : List String) (body : String) : String :=
  "(function anonymous(" ++ ",".intercalate params ++ "\n) \x7b\n" ++ body ++ "\n\x7d)"

/-- The function the `Function` constructor makes: all arguments but the
last are the parameters, the last the body. -/
def functionFrom (ops : Ops) (args : List Value) : Eval Value := do
  let texts ← args.mapM fun a => do pure (← toStr ops.cb a).lossy
  let body := texts.getLast?.getD ""
  indirect ops [.str (Str.ofString (functionText texts.dropLast body))]

end Dynamic

end Script

end Userland
