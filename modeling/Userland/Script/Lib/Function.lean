import Userland.Script.Operators

namespace Userland

/-! # Functions

`Function.prototype` calls a function with a given `this` and arguments, binds
it to them, and prints it. A bound function keeps its target, `this` and
leading arguments; its `length` is what the target's leaves after them, and its
name is the target's after `bound `. A builtin prints as its name around
`[native code]`, a literal as the text it was written with.
-/

namespace Script

namespace Functions

open Eval

/-- The text of a function's own `name`, or nothing when it has none. -/
def ownName (r : Nat) : Eval Str := do
  match (← getObj r).props.find? (keyOf "name") with
  | some ⟨.data (.str s) _, _, _⟩ => return s
  | _ => return Str.empty

/-- The text a function prints as. -/
def source (this : Value) : Eval Value := do
  let fail : Eval Value := throwType "Function.prototype.toString requires that 'this' be a Function"
  match this with
  | .obj r =>
    match (← getObj r).kind with
    | .func (.closure c) => return Value.ofString c.func.source
    | .func _ =>
      return .str (Str.ofString "function " ++ (← ownName r) ++ Str.ofString "() \x7b [native code] \x7d")
    | .proxy _ _ _ true _ => return Value.ofString "function () \x7b [native code] \x7d"
    | _ => fail
  | _ => fail

/-- The arguments an array-like object holds, in order. -/
def listFromArrayLike (cb : Callbacks) (v : Value) : Eval (List Value) := do
  match v with
  | .undefined | .null => return []
  | .obj r =>
    let n ← lengthOf cb r
    let mut out : Array Value := #[]
    for i in [0:n] do
      out := out.push (← get cb r (Key.ofIndex i))
    return out.toList
  | _ => throwType "CreateListFromArrayLike called on non-object"

/-- A function bound to `this` and leading arguments. -/
def bind (cb : Callbacks) (target : Value) (thisArg : Value) (lead : List Value) : Eval Value := do
  let f ← toCallable cb target
  let r := match f with
    | .obj r => r
    | _ => 0
  let len : Float ← match ← getOwn cb r lengthKey with
    | some _ =>
      match ← get cb r lengthKey with
      | .num x => toIntegerOrInf cb (.num x)
      | _ => pure 0
    | none => pure 0
  let rest := len - Float.ofNat lead.length
  let remaining : Value := .num (if rest < 0 then 0 else rest)
  let name ← match ← get cb r (keyOf "name") with
    | .str s => pure s
    | _ => pure Str.empty
  let props : List (Key × Property) :=
    [(lengthKey, Property.readOnly remaining),
     (keyOf "name", Property.readOnly (.str (Str.ofString "bound " ++ name)))]
  let proto ← getProto cb r
  return .obj (← alloc ⟨.func (.bound f thisArg lead), PropMap.ofList props, proto, true, #[]⟩)

/-- Runs a function of `Function.prototype`. -/
def run (cb : Callbacks) (f : FunctionFn) (this : Value) (args : List Value) : Eval Value := do
  match f with
  | .call => cb.call (← toCallable cb this) (arg args 0) args.tail
  | .apply =>
    let fn ← toCallable cb this
    cb.call fn (arg args 0) (← listFromArrayLike cb (arg args 1))
  | .bind => bind cb this (arg args 0) args.tail
  | .toString => source this
  | .hasInstance => return .bool (← ordinaryHasInstance cb this (arg args 0))
  | .empty => return .undefined
  | .ctor => throwType "Function constructor is not supported"

end Functions

end Script

end Userland
