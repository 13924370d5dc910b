import Userland.Script.Scope

namespace Userland

/-! # Function objects and the declarations of scopes

A function literal becomes a function object closed over the scope it is
evaluated in. Its own `length` and `name` are read-only properties; a plain
function gets a `prototype` object whose `constructor` is the function, a
generator gets a `prototype` inheriting from the generators' prototype, and
arrows, methods and asynchronous functions get none.

When a function's body starts, its `var` names are bound to `undefined`, its
function declarations to new function objects, and its `let`, `const` and
`class` names are bound but not yet initialized. A block does the same for
its own declarations, in a scope of its own when it has any. The script's
`var` and function names are properties of the global object instead.
-/

namespace Script

open Eval

/-- The name a function defined under a key gets: a symbol's description in
brackets, after a prefix such as `get` or `set`. -/
def functionNameOf (k : Key) (pre : String) : Eval Str := do
  let base ← match k with
    | .str s => pure s
    | .sym i => do
      match ← symbolDescription i with
      | some d => pure (Str.ofString "[" ++ d ++ Str.ofString "]")
      | none => pure Str.empty
  if pre.isEmpty then return base
  return Str.ofString (pre ++ " ") ++ base

/-- Adds a property that only its definer sets: writable, not enumerable, not configurable. -/
def definePrototypeSlot (r : Nat) (v : Value) : Eval Unit :=
  modifyObj r fun o => { o with props := o.props.insert (keyOf "prototype") ⟨.data v true, false, false⟩ }

/-- Makes a function object from a literal closed over a scope, with a home
object for `super`, a name, and, for a class constructor, what the class keeps. -/
def makeClosure (f : Func) (env : Nat) (strict : Bool) (home : Option Nat) (name : Str)
    (cls : Option ClassData) : Eval Value := do
  let i ← intr
  let info := f.info
  let proto :=
    if info.generator then i.generatorFunctionProto
    else if info.async then i.asyncFunctionProto
    else i.functionProto
  let c : Closure := ⟨f, env, strict || info.strict, home, cls⟩
  let props : List (Key × Property) :=
    [("length", Property.readOnly (Value.ofNat info.length)), ("name", Property.readOnly (.str name))]
  let r ← alloc ⟨.func (.closure c), PropMap.ofList props, some proto, true, #[]⟩
  if info.generator then
    let p ← alloc (Obj.ordinary (some i.generatorProto))
    definePrototypeSlot r (.obj p)
  else
    match info.kind with
    | .plain =>
      if !info.async then
        let p ← alloc ⟨.ordinary, PropMap.ofList [("constructor", Property.hidden (.obj r))], some i.objectProto,
          true, #[]⟩
        definePrototypeSlot r (.obj p)
    | _ => pure ()
  return .obj r

/-- Binds the declarations a function body makes when it starts. -/
def instantiateBody (sc : Nat) (f : Func) (strict : Bool) : Eval Unit := do
  for v in f.vars do declareNew sc v .undefined
  for (name, lit) in functionDecls f.body do
    declareIn sc name (← makeClosure lit sc strict none (Str.ofString name) none) .mutable true
  for (name, isConst) in lexicalDecls f.body do
    declareIn sc name .undefined (if isConst then .const else .mutable) false

/-- Opens the scope of a block when it declares anything: the scope its statements run in. -/
def enterBlock (sc : Nat) (ss : List Stmt) (strict : Bool) : Eval Nat := do
  if !needsScope ss then return sc
  let b ← newScope ⟨#[], some sc, .block⟩
  for (name, isConst) in lexicalDecls ss do
    declareIn b name .undefined (if isConst then .const else .mutable) false
  for (name, lit) in functionDecls ss do
    declareIn b name (← makeClosure lit b strict none (Str.ofString name) none) .mutable true
  return b

/-- A copy of a scope, for the next turn of a `for` loop that declares its names with `let`. -/
def copyScope (sc : Nat) : Eval Nat := do
  let s ← getScope sc
  newScope s

/-- Binds the declarations the script makes when it starts: `var` and
function names as properties of the global object, and `let`, `const` and
`class` names in the global scope. -/
def instantiateProgram (cb : Callbacks) (p : Program) : Eval Unit := do
  let g := (← intr).globalObject
  for v in p.vars do
    if (← getOwn cb g (keyOf v)).isNone then
      let _ ← defineOwn cb g (keyOf v) ⟨some .undefined, some true, none, none, some true, some false⟩
  for (name, lit) in functionDecls p.body do
    let fn ← makeClosure lit 0 p.strict none (Str.ofString name) none
    match ← getOwn cb g (keyOf name) with
    | some cur =>
      if cur.configurable then
        let _ ← defineOwn cb g (keyOf name) ⟨some fn, some true, none, none, some true, some false⟩
      else
        let _ ← set cb g (keyOf name) fn
    | none =>
      let _ ← defineOwn cb g (keyOf name) ⟨some fn, some true, none, none, some true, some false⟩
  for (name, isConst) in lexicalDecls p.body do
    declareIn 0 name .undefined (if isConst then .const else .mutable) false

/-- The arguments object of a call: its items, `length`, iterator and
`callee`; in sloppy code with simple parameters its items stand for the
parameters' bindings. -/
def makeArguments (args : List Value) (env : Nat) (params : List String) (simple strict : Bool)
    (callee : Value) : Eval Value := do
  let i ← intr
  let items : List (Key × Property) := args.zipIdx.map fun (v, k) => (Key.ofIndex k, Property.plain v)
  let mapped : Array (Option String) :=
    if strict || !simple then #[]
    else
      let ps := params.toArray
      (Array.range args.length).map fun k =>
        match ps[k]? with
        | some n => if (ps.extract (k + 1) ps.size).contains n then none else some n
        | none => none
  let tail : List (Key × Property) :=
    [(lengthKey, Property.hidden (Value.ofNat args.length)),
     (symKey WellKnown.iterator, Property.hidden (.obj i.arrayValues))] ++
    (if strict then
      [(keyOf "callee", ⟨.accessor (.obj i.throwTypeError) (.obj i.throwTypeError), false, false⟩)]
    else [(keyOf "callee", Property.hidden callee)])
  let r ← alloc ⟨.arguments env mapped, PropMap.ofList (items ++ tail), some i.objectProto, true, #[]⟩
  return .obj r

/-- Whether a function's source mentions `arguments`, so that a call makes the object. -/
def mentionsArguments (f : Func) : Bool := (f.source.splitOn "arguments").length > 1

end Script

end Userland
