import Userland.Script.Object

namespace Userland

/-! # Names and scopes

How names resolve: a name is looked up in the current scope and then in the
scopes around it. A `with` scope has the properties of its object as names,
and the global scope has, after its own `let`, `const` and `class` names,
the properties of the global object.

A name declared by `let`, `const` or `class` exists from the start of its
block but cannot be read or assigned before its declaration runs. Assigning
a constant fails; assigning the name of a function expression inside it does
nothing, or fails in strict code. Assigning a name bound nowhere makes a
property of the global object, or fails in strict code.

The declarations a block makes when it starts are read off its statements:
the `let`, `const` and `class` names, and the functions it declares.
-/

namespace Script

open Eval

/-- The most scopes a lookup walks. -/
def scopeLimit : Nat := 1000000

/-! ## Declarations of blocks -/

/-- The names a list of statements declares with `let`, `const` or `class`,
with whether each is constant. -/
def lexicalDecls : List Stmt → List (String × Bool)
  | [] => []
  | .decl .blockScoped items :: rest => (declNames items).map (·, false) ++ lexicalDecls rest
  | .decl .const items :: rest => (declNames items).map (·, true) ++ lexicalDecls rest
  | .klass name _ _ :: rest => (name, false) :: lexicalDecls rest
  | _ :: rest => lexicalDecls rest

/-- The functions a list of statements declares, in order. -/
def functionDecls : List Stmt → List (String × Func)
  | [] => []
  | .func name _ f :: rest => (name, f) :: functionDecls rest
  | _ :: rest => functionDecls rest

/-- The statements of the cases of a `switch`, in order. -/
def caseStatements : List Case → List Stmt
  | [] => []
  | .mk _ body :: rest => body ++ caseStatements rest

/-- Whether a list of statements declares anything a block scope holds. -/
def needsScope (ss : List Stmt) : Bool :=
  ss.any fun s => match s with
    | .decl .blockScoped _ | .decl .const _ | .klass .. | .func .. => true
    | _ => false

/-! ## Bindings -/

/-- Adds a binding to a scope, replacing one of the same name. -/
def declareIn (sc : Nat) (name : String) (v : Value) (mode : BindingMode) (ready : Bool) : Eval Unit :=
  modifyScope sc fun s =>
    match s.vars.findIdx? (·.name == name) with
    | some i => { s with vars := s.vars.set! i ⟨name, v, mode, ready⟩ }
    | none => { s with vars := s.vars.push ⟨name, v, mode, ready⟩ }

/-- Adds a binding to a scope unless the name is bound there already. -/
def declareNew (sc : Nat) (name : String) (v : Value) : Eval Unit :=
  modifyScope sc fun s =>
    if s.vars.any (·.name == name) then s else { s with vars := s.vars.push ⟨name, v, .mutable, true⟩ }

/-- Initializes the binding of a name in the nearest scope that has it. -/
def initName (sc : Nat) (name : String) (v : Value) : Eval Unit := do
  let rec go : Nat → Nat → Eval Unit
    | 0, _ => pure ()
    | n + 1, i => do
      let s ← getScope i
      match s.vars.findIdx? (·.name == name) with
      | some j => modifyScope i fun s => { s with vars := s.vars.modify j fun b => { b with value := v, ready := true } }
      | none =>
        match s.parent with
        | some p => go n p
        | none => declareIn sc name v .mutable true
  go scopeLimit sc

/-- Where a name resolves. -/
inductive Resolved where
  | binding (scope : Nat) (b : Binding)
  /-- A property of a `with` scope's object. -/
  | withProp (o : Nat)
  /-- A property of the global object. -/
  | globalProp
  | missing
  deriving Inhabited

/-- Resolves a name from a scope. -/
def resolve (cb : Callbacks) (sc : Nat) (name : String) : Eval Resolved := do
  let rec go : Nat → Nat → Eval Resolved
    | 0, _ => return .missing
    | n + 1, i => do
      let s ← getScope i
      match s.vars.find? (·.name == name) with
      | some b => return .binding i b
      | none =>
        match s.kind with
        | .withObj o =>
          if ← has cb o (keyOf name) then return .withProp o
        | .global =>
          if ← has cb (← intr).globalObject (keyOf name) then return .globalProp
          return .missing
        | _ => pure ()
        match s.parent with
        | some p => go n p
        | none => return .missing
  go scopeLimit sc

/-- The error of reading a `let`, `const` or `class` name before its declaration. -/
def tdzError {α : Type} (name : String) : Eval α :=
  throwReference ("Cannot access '" ++ name ++ "' before initialization")

/-- The value of a name, none when it is bound nowhere. -/
def lookupName (cb : Callbacks) (sc : Nat) (name : String) : Eval (Option Value) := do
  match ← resolve cb sc name with
  | .binding _ b => if b.ready then return some b.value else tdzError name
  | .withProp o => return some (← get cb o (keyOf name))
  | .globalProp => return some (← get cb (← intr).globalObject (keyOf name))
  | .missing => return none

/-- The value of a name; a name bound nowhere fails. -/
def readName (cb : Callbacks) (sc : Nat) (name : String) : Eval Value := do
  match ← lookupName cb sc name with
  | some v => return v
  | none => throwReference (name ++ " is not defined")

/-- The error of a failed assignment to a property in strict code. -/
def assignError {α : Type} (cb : Callbacks) (r : Nat) (k : Key) : Eval α := do
  let ktext ← keyText k
  match ← getOwn cb r k with
  | some ⟨.data _ false, _, _⟩ => throwType ("Cannot assign to read only property '" ++ ktext ++ "'")
  | some ⟨.accessor .., _, _⟩ =>
    throwType ("Cannot set property " ++ ktext ++ " of " ++ (← toText cb (.obj r)) ++ " which has only a getter")
  | _ =>
    if !(← isExtensible cb r) then
      throwType ("Cannot add property " ++ ktext ++ ", object is not extensible")
    throwType ("Cannot assign to read only property '" ++ ktext ++ "'")

/-- Assigns a property of an object, failing in strict code when it is not allowed. -/
def putProp (cb : Callbacks) (r : Nat) (k : Key) (v : Value) (strict : Bool) : Eval Unit := do
  let ok ← set cb r k v
  if !ok && strict then assignError cb r k

/-- Assigns a name. -/
def assignName (cb : Callbacks) (sc : Nat) (name : String) (v : Value) (strict : Bool) : Eval Unit := do
  match ← resolve cb sc name with
  | .binding i b =>
    if !b.ready then tdzError name
    match b.mode with
    | .const => throwType "Assignment to constant variable."
    | .fnName => if strict then throwType "Assignment to constant variable." else pure ()
    | .mutable =>
      modifyScope i fun s =>
        match s.vars.findIdx? (·.name == name) with
        | some j => { s with vars := s.vars.modify j fun b => { b with value := v } }
        | none => s
  | .withProp o => putProp cb o (keyOf name) v strict
  | .globalProp => putProp cb (← intr).globalObject (keyOf name) v strict
  | .missing =>
    if strict then throwReference (name ++ " is not defined")
    let _ ← createData cb (← intr).globalObject (keyOf name) v

/-! ## Calls -/

/-- The nearest scope of a function call around a scope, with its place. -/
def callScope (sc : Nat) : Eval (Option (Nat × CallContext)) := do
  let rec go : Nat → Nat → Eval (Option (Nat × CallContext))
    | 0, _ => return none
    | n + 1, i => do
      let s ← getScope i
      match s.kind with
      | .function cc => return some (i, cc)
      | .global => return none
      | _ =>
        match s.parent with
        | some p => go n p
        | none => return none
  go scopeLimit sc

/-- The error of using `this` before a derived constructor calls `super`. -/
def superNotCalled {α : Type} : Eval α :=
  throwReference "Must call super constructor in derived class before accessing 'this' or returning from derived constructor"

/-- The `this` of a scope: the call's, or the global object outside calls. -/
def thisOf (sc : Nat) : Eval Value := do
  match ← callScope sc with
  | some (_, cc) =>
    match cc.thisVal with
    | some v => return v
    | none => superNotCalled
  | none => return .obj (← intr).globalObject

/-- Binds `this` in a call's scope, once. -/
def bindThis (i : Nat) (v : Value) : Eval Unit := do
  let s ← getScope i
  match s.kind with
  | .function cc =>
    if cc.thisVal.isSome then throwReference "Super constructor may only be called once"
    modifyScope i fun s => { s with kind := .function { cc with thisVal := some v } }
  | _ => pure ()

/-- The brand of the class whose body declares a private name, seen from a scope. -/
def brandOf (sc : Nat) (name : String) : Eval (Option Nat) := do
  let rec go : Nat → Nat → Eval (Option Nat)
    | 0, _ => return none
    | n + 1, i => do
      let s ← getScope i
      match s.kind with
      | .classBody names => if names.contains name then return some i
      | _ => pure ()
      match s.parent with
      | some p => go n p
      | none => return none
  go scopeLimit sc

end Script

end Userland
