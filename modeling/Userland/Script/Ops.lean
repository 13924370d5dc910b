import Userland.Script.Closure
import Userland.Script.Operators
import Userland.Script.Lib.RegExp

namespace Userland

/-! # What the machine's steps do

A step of the machine evaluates a little and asks for calls, constructions
and nested runs through `Ops`, which the caller of the machine provides: a
step never runs a function's body itself, so stepping needs no recursion.

This module holds the work steps share: reading and writing places (names,
properties, `super` properties, private elements), checking a callee before a
call, the strings object of a tagged template, and the private elements
classes put on objects.
-/

namespace Script

open Eval

/-- What a step may ask of the machine's caller: the callbacks of object
operations, a call from script code, a construction, initializing the fields
a class puts on a new instance, and running a nested machine to its end. -/
structure Ops where
  cb : Callbacks
  call : Value → Value → List Value → Eval Value
  construct : Value → List Value → Value → Eval Value
  initFields : Value → Value → Eval Unit
  run : Machine → Eval Outcome

namespace Machine

/-- The machine doing something else, with the same frames. -/
def goTo (m : Machine) (c : Control) : Step := .next { m with control := c }

/-- The machine giving a value to its innermost frame. -/
def giveV (m : Machine) (v : Value) : Step := .next { m with control := .give v }

/-- The machine evaluating an expression for a new innermost frame. -/
def push (m : Machine) (f : Frame) (e : Expr) : Step :=
  .next { m with control := .eval e, frames := f :: m.frames }

/-- The machine doing something with a new innermost frame. -/
def pushDo (m : Machine) (f : Frame) (c : Control) : Step :=
  .next { m with control := c, frames := f :: m.frames }

/-- The machine ending a statement. -/
def finishC (m : Machine) (c : Completion) : Step := .next { m with control := .finish c }

end Machine

/-! ## Private elements -/

/-- The private element of an object with a brand and name. -/
def privElem? (r : Nat) (brand : Nat) (name : String) : Eval (Option PrivElem) := do
  return (← getObj r).privs.find? fun e => e.brand == brand && e.name == name

/-- The brand of a private name seen from a scope; a name no class declares fails. -/
def privBrand (sc : Nat) (name : String) : Eval Nat := do
  match ← brandOf sc name with
  | some b => return b
  | none => throwSyntax ("Private field '#" ++ name ++ "' must be declared in an enclosing class")

/-- Adds a private element to an object, failing when it is there already. -/
def addPrivElem (r : Nat) (e : PrivElem) : Eval Unit := do
  if (← privElem? r e.brand e.name).isSome then
    throwType ("Cannot initialize #" ++ e.name ++ " twice on the same object")
  modifyObj r fun o => { o with privs := o.privs.push e }

/-- Installs private methods on an object, pairing getters with setters of the same name. -/
def installPrivMethods (brand : Nat) (r : Nat) (ms : Array PrivMethod) : Eval Unit := do
  for pm in ms do
    match pm.kind with
    | .method => addPrivElem r ⟨brand, pm.name, .data pm.fn false⟩
    | .getter | .setter =>
      match ← privElem? r brand pm.name with
      | some e =>
        let slot := match e.slot, pm.kind with
          | .accessor _ s, .getter => Slot.accessor pm.fn s
          | .accessor g _, _ => Slot.accessor g pm.fn
          | s, _ => s
        modifyObj r fun o => { o with privs := o.privs.map fun x =>
          if x.brand == brand && x.name == pm.name then { x with slot } else x }
      | none =>
        let slot := if pm.kind == .getter then Slot.accessor pm.fn .undefined else Slot.accessor .undefined pm.fn
        addPrivElem r ⟨brand, pm.name, slot⟩

/-- Reads a private element. -/
def privGet (cb : Callbacks) (sc : Nat) (base : Value) (name : String) : Eval Value := do
  let brand ← privBrand sc name
  match base with
  | .obj r =>
    match ← privElem? r brand name with
    | some e =>
      match e.slot with
      | .data v _ => return v
      | .accessor g _ =>
        if g.isUndefined then throwType ("'#" ++ name ++ "' was defined without a getter")
        cb.call g base []
    | none => throwType ("Cannot read private member #" ++ name ++ " from an object whose class did not declare it")
  | _ => throwType ("Cannot read private member #" ++ name ++ " from an object whose class did not declare it")

/-- Writes a private element. -/
def privSet (cb : Callbacks) (sc : Nat) (base : Value) (name : String) (v : Value) : Eval Unit := do
  let brand ← privBrand sc name
  match base with
  | .obj r =>
    match ← privElem? r brand name with
    | some e =>
      match e.slot with
      | .data _ true =>
        modifyObj r fun o => { o with privs := o.privs.map fun x =>
          if x.brand == brand && x.name == name then { x with slot := .data v true } else x }
      | .data _ false => throwType ("Private method #" ++ name ++ " is not writable")
      | .accessor _ s =>
        if s.isUndefined then throwType ("'#" ++ name ++ "' was defined without a setter")
        let _ ← cb.call s base [v]
    | none => throwType ("Cannot write private member #" ++ name ++ " to an object whose class did not declare it")
  | _ => throwType ("Cannot write private member #" ++ name ++ " to an object whose class did not declare it")

/-! ## Places -/

/-- The object `super` starts from in a scope: the prototype of the home object. -/
def superBase (cb : Callbacks) (sc : Nat) : Eval (Option Nat) := do
  match ← callScope sc with
  | some (_, cc) =>
    match cc.home with
    | some h => getProto cb h
    | none => throwSyntax "'super' keyword unexpected here"
  | none => throwSyntax "'super' keyword unexpected here"

/-- Assigns a property of any value: `undefined` and `null` fail, and a
primitive's property is written through its prototype's setters only. -/
def putValue (cb : Callbacks) (base : Value) (k : Key) (v : Value) (strict : Bool) : Eval Unit := do
  match base with
  | .obj r => putProp cb r k v strict
  | .undefined | .null => throwType "Cannot convert undefined or null to object"
  | _ =>
    match ← primitiveProto base with
    | some p =>
      let ok ← setFrom cb chainLimit p k v base
      if !ok && strict then
        throwType ("Cannot create property '" ++ (← keyText k) ++ "' on " ++ (← typeOf base) ++ " '" ++
          (← toText cb base) ++ "'")
    | none => pure ()

/-- Reads a place. -/
def getRef (cb : Callbacks) (m : Machine) (r : Ref) : Eval Value := do
  match r with
  | .name n => readName cb m.scope n
  | .prop base k => getV cb base k
  | .superProp thisV k =>
    match ← superBase cb m.scope with
    | some p => getFrom cb chainLimit p k thisV
    | none => return .undefined
  | .priv base name => privGet cb m.scope base name

/-- Writes a place. -/
def putRef (cb : Callbacks) (m : Machine) (r : Ref) (v : Value) : Eval Unit := do
  match r with
  | .name n => assignName cb m.scope n v m.strict
  | .prop base k => putValue cb base k v m.strict
  | .superProp thisV k =>
    match ← superBase cb m.scope with
    | some p =>
      let ok ← setFrom cb chainLimit p k v thisV
      if !ok && m.strict then throwType ("Cannot assign to read only property '" ++ (← keyText k) ++ "'")
    | none => pure ()
  | .priv base name => privSet cb m.scope base name v

/-- The callee of a method call through a place: the function and its
`this`, or a callee that fails once the arguments are evaluated when the
object has no such property. -/
def methodCallee (cb : Callbacks) (m : Machine) (r : Ref) : Eval Callee := do
  match r with
  | .prop base k =>
    let f ← getV cb base k
    if f.isUndefined then
      let present ← match base with
        | .obj o => has cb o k
        | _ => pure true
      if !present then return .missing (← keyText k)
    return .call f base
  | .superProp thisV _ => return .call (← getRef cb m r) thisV
  | .priv base _ => return .call (← getRef cb m r) base
  | .name _ => return .call (← getRef cb m r) .undefined

/-! ## Calls -/

/-- Checks that a value can be called from script code, with the errors of a call expression. -/
def checkCallable (cb : Callbacks) (f : Value) : Eval Unit := do
  match f with
  | .obj r =>
    if !(← getObj r).callable then throwType ("Not a function: " ++ (← toText cb f))
  | _ => throwType ("Value is not an object: " ++ (← toText cb f))

/-- Checks that a value can be constructed from script code. -/
def checkConstructor (cb : Callbacks) (f : Value) : Eval Unit := do
  match f with
  | .obj r =>
    if !(← getObj r).isCtor then throwType ("Value is not a constructor: " ++ (← toText cb f))
  | _ => throwType ("Value is not an object: " ++ (← toText cb f))

/-! ## Templates -/

/-- A frozen array of values: its items may not change and nothing may be added. -/
def frozenArray (items : Array Value) : Eval Nat := do
  let props := (items.toList.zipIdx.map fun (v, i) => (Key.ofIndex i, ⟨.data v false, true, false⟩))
  alloc ⟨.slowArray items.size false, PropMap.ofList props, some (← intr).arrayProto, false, #[]⟩

/-- The strings object of a tagged template: the texts after escapes, with
the raw texts as its `raw`; made once for each place in the source. -/
def templateObject (t : TemplateSite) : Eval Value := do
  match (← realm).templates.lookup t.site with
  | some v => return v
  | none =>
    let raw ← frozenArray (t.raw.map Value.str).toArray
    let cooked := (t.cooked.map fun c => match c with
      | some s => Value.str s
      | none => Value.undefined).toArray
    let props := (cooked.toList.zipIdx.map fun (v, i) => (Key.ofIndex i, (⟨.data v false, true, false⟩ : Property))) ++
      [(keyOf "raw", ⟨.data (.obj raw) false, false, false⟩)]
    let r ← alloc ⟨.slowArray cooked.size false, PropMap.ofList props, some (← intr).arrayProto, false, #[]⟩
    modifyRealm fun s => { s with templates := (t.site, .obj r) :: s.templates }
    return .obj r

/-! ## Object literals and classes -/

/-- Defines a method, getter or setter under a key: enumerable in an object
literal, not in a class. -/
def defineMethod (cb : Callbacks) (target : Nat) (k : Key) (kind : MethodKind) (fn : Value)
    (enumerable : Bool) : Eval Unit := do
  let d : Descriptor := match kind with
    | .method => ⟨some fn, some true, none, none, some enumerable, some true⟩
    | .getter => ⟨none, none, some fn, none, some enumerable, some true⟩
    | .setter => ⟨none, none, none, some fn, some enumerable, some true⟩
  let ok ← defineOwn cb target k d
  if !ok then throwType ("Cannot redefine property: " ++ (← keyText k))

/-- The prefix of the name of an accessor of a kind. -/
def methodPrefix : MethodKind → String
  | .method => ""
  | .getter => "get"
  | .setter => "set"

/-- Copies the own enumerable properties of a value into an object, except some keys. -/
def copyDataProperties (cb : Callbacks) (target : Nat) (src : Value) (except : Array Key) : Eval Unit := do
  if src.isNullish then return
  let from_ ← toObject src
  for k in ← ownKeys cb from_ do
    if except.contains k then continue
    match ← getOwn cb from_ k with
    | some p =>
      if p.enumerable then
        let v ← get cb from_ k
        let _ ← createData cb target k v
    | none => pure ()

/-- The private names a class body declares. -/
def classPrivateNames (members : List ClassMember) : List String :=
  members.filterMap fun m => match m with
    | .method _ (.priv n) _ _ => some n
    | .field _ (.priv n) _ => some n
    | _ => none

/-- The constructor a class gets when it writes none. -/
def implicitCtor (derived : Bool) (source : String) : Func :=
  .mk none [] none [] ⟨.classCtor derived, false, false, true, 0, true, 0⟩ [] source

/-- The text of a field's name, for the functions its initializer makes. -/
def fieldName (k : FieldKey) : Eval Str := do
  match k with
  | .key k => functionNameOf k ""
  | .priv n => return Str.ofString ("#" ++ n)

end Script

end Userland
