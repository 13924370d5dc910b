import Userland.Script.Scope

namespace Userland

/-! # Objects, reflection and proxies

`Object` reads and changes objects as a whole: their keys, values and
entries, their property descriptors, their prototypes, whether they may grow,
and freezing or sealing them. `Reflect` offers the object operations
themselves as functions that answer whether they succeeded, and a proxy
passes each operation to its handler's trap of the same name, or to its
target when the handler has none.
-/

namespace Script

namespace Objects

open Eval

/-- A value that must be an object, failing with the engine's message otherwise. -/
def requireObject (cb : Callbacks) (v : Value) : Eval Nat := do
  match v with
  | .obj r => return r
  | _ => throwType ("Value is not an object: " ++ (← toText cb v))

/-- An object or `null` as a prototype. -/
def protoArg (cb : Callbacks) (v : Value) : Eval (Option Nat) := do
  match v with
  | .obj p => return some p
  | .null => return none
  | _ => throwType ("Object prototype may only be an Object or null: " ++ (← toText cb v))

/-- A descriptor as an object, in the order `value`, `writable`, or `get`,
`set`, then `enumerable`, `configurable`. -/
def fromProperty (p : Property) : Eval Value := do
  match p.slot with
  | .data v w =>
    newObject [("value", v), ("writable", .bool w), ("enumerable", .bool p.enumerable),
      ("configurable", .bool p.configurable)]
  | .accessor g s =>
    newObject [("get", g), ("set", s), ("enumerable", .bool p.enumerable),
      ("configurable", .bool p.configurable)]

/-- Reads a descriptor object, which must be an object. -/
def descriptorOf (cb : Callbacks) (v : Value) : Eval Descriptor := do
  match v with
  | .obj r => toDescriptor cb chainLimit r
  | _ => throwType ("Property description must be an object: " ++ (← toText cb v))

/-- Defines a property from a descriptor, failing when it may not change. -/
def defineOrThrow (cb : Callbacks) (r : Nat) (k : Key) (d : Descriptor) : Eval Unit := do
  if !(← defineOwn cb r k d) then
    throwType ("Cannot redefine property: " ++ (← keyText k))

/-- The own enumerable string keys of an object, in order. -/
def enumerableKeys (cb : Callbacks) (r : Nat) : Eval (List Key) := do
  let mut out := []
  for k in ← ownKeys cb r do
    if !k.isStr then continue
    match ← getOwn cb r k with
    | some p => if p.enumerable then out := k :: out
    | none => pure ()
  return out.reverse

/-- Defines the properties a descriptors object lists. -/
def defineAll (cb : Callbacks) (r : Nat) (props : Value) : Eval Unit := do
  let src ← toObject props
  let mut ds : Array (Key × Descriptor) := #[]
  for k in ← ownKeys cb src do
    match ← getOwn cb src k with
    | some p =>
      if p.enumerable then
        ds := ds.push (k, ← descriptorOf cb (← get cb src k))
    | none => pure ()
  for (k, d) in ds do defineOrThrow cb r k d

/-- Freezes or seals an object: no more properties, none configurable, and
when freezing none writable. -/
def setIntegrity (cb : Callbacks) (r : Nat) (freeze : Bool) : Eval Unit := do
  if !(← preventExtensions cb r) then throwType "Cannot prevent extensions"
  for k in ← ownKeys cb r do
    match ← getOwn cb r k with
    | some p =>
      let d : Descriptor := match p.slot with
        | .data .. =>
          if freeze then ⟨none, some false, none, none, none, some false⟩
          else ⟨none, none, none, none, none, some false⟩
        | .accessor .. => ⟨none, none, none, none, none, some false⟩
      defineOrThrow cb r k d
    | none => pure ()

/-- Whether an object is frozen, or sealed. -/
def testIntegrity (cb : Callbacks) (r : Nat) (frozen : Bool) : Eval Bool := do
  if ← isExtensible cb r then return false
  for k in ← ownKeys cb r do
    match ← getOwn cb r k with
    | some p =>
      if p.configurable then return false
      if frozen then
        match p.slot with
        | .data _ true => return false
        | _ => pure ()
    | none => pure ()
  return true

/-- The class an object shows in `Object.prototype.toString`. -/
def className (r : Nat) : Eval String := do
  if ← isArray (.obj r) then return "Array"
  let o ← getObj r
  match o.kind with
  | .func _ => return "Function"
  | .proxy _ _ _ true _ => return "Function"
  | .error => return "Error"
  | .boxed (.bool _) => return "Boolean"
  | .boxed (.num _) => return "Number"
  | .boxed (.str _) => return "String"
  | .date _ => return "Date"
  | .regexp _ => return "RegExp"
  | .arguments .. => return "Arguments"
  | _ => return "Object"

/-- `Object.prototype.toString`. -/
def objectText (cb : Callbacks) (this : Value) : Eval Value := do
  match this with
  | .undefined => return Value.ofString "[object Undefined]"
  | .null => return Value.ofString "[object Null]"
  | _ =>
    let r ← toObject this
    let cls ← className r
    let tagged ← match ← get cb r (symKey WellKnown.toStringTag) with
      | .str s => pure s.text
      | _ => pure cls
    return Value.ofString ("[object " ++ tagged ++ "]")

/-- The keys, values or entries of an object's own enumerable properties. -/
def listing (cb : Callbacks) (v : Value) (what : Nat) : Eval Value := do
  let r ← toObject v
  let mut out : Array Value := #[]
  for k in ← ownKeys cb r do
    if !k.isStr then continue
    match ← getOwn cb r k with
    | some p =>
      if !p.enumerable then continue
      match what with
      | 0 => out := out.push (keyValue k)
      | 1 => out := out.push (← get cb r k)
      | _ =>
        let val ← get cb r k
        out := out.push (← newArray #[keyValue k, val])
    | none => pure ()
  newArray out

/-- Groups the values an iterable gives by the keys a callback gives them. -/
def groupValues (cb : Callbacks) (items callback : Value) (asKeys : Bool) :
    Eval (Array (Value × Array Value)) := do
  let f ← toCallable cb callback
  let vs ← iterateToList cb items
  let mut groups : Array (Value × Array Value) := #[]
  let mut i := 0
  for v in vs do
    let k0 ← cb.call f .undefined [v, Value.ofNat i]
    let k ← if asKeys then pure (keyValue (← toPropertyKey cb k0)) else
      pure (match k0 with
        | .num x => if x == 0 then Value.num 0 else k0
        | _ => k0)
    match groups.findIdx? (fun (g, _) => Value.sameValueZero g k) with
    | some j => groups := groups.modify j fun (g, xs) => (g, xs.push v)
    | none => groups := groups.push (k, #[v])
    i := i + 1
  return groups

/-- Runs a function of `Object` or `Object.prototype`. -/
def run (cb : Callbacks) (f : ObjectFn) (this : Value) (args : List Value) (newTarget : Option Value) :
    Eval Value := do
  let a0 := arg args 0
  let a1 := arg args 1
  match f with
  | .ctor =>
    match newTarget with
    | some (.obj nt) =>
      let i ← intr
      let isObjectCtor ← match ← get cb i.objectProto (keyOf "constructor") with
        | .obj c => pure (c == nt)
        | _ => pure false
      if !isObjectCtor then
        let proto ← match ← get cb nt (keyOf "prototype") with
          | .obj p => pure p
          | _ => pure i.objectProto
        return .obj (← alloc (Obj.ordinary (some proto)))
      if a0.isNullish then return .obj (← alloc (Obj.ordinary (some i.objectProto)))
      return .obj (← toObject a0)
    | _ =>
      if a0.isNullish then return .obj (← alloc (Obj.ordinary (some (← intr).objectProto)))
      return .obj (← toObject a0)
  | .assign =>
    let target ← toObject a0
    for src in args.drop 1 do
      if src.isNullish then continue
      let source ← toObject src
      for k in ← ownKeys cb source do
        match ← getOwn cb source k with
        | some p =>
          if p.enumerable then
            let v ← get cb source k
            putProp cb target k v true
        | none => pure ()
    return .obj target
  | .create =>
    let proto ← protoArg cb a0
    let r ← alloc (Obj.ordinary proto)
    if !a1.isUndefined then defineAll cb r a1
    return .obj r
  | .defineProperty =>
    match a0 with
    | .obj r =>
      let k ← toPropertyKey cb a1
      let d ← descriptorOf cb (arg args 2)
      defineOrThrow cb r k d
      return a0
    | _ => throwType "Object.defineProperty called on non-object"
  | .defineProperties =>
    match a0 with
    | .obj r =>
      defineAll cb r a1
      return a0
    | _ => throwType "Object.defineProperties called on non-object"
  | .entries => listing cb a0 2
  | .keys => listing cb a0 0
  | .values => listing cb a0 1
  | .freeze =>
    match a0 with
    | .obj r =>
      setIntegrity cb r true
      return a0
    | _ => return a0
  | .seal =>
    match a0 with
    | .obj r =>
      setIntegrity cb r false
      return a0
    | _ => return a0
  | .isFrozen =>
    match a0 with
    | .obj r => return .bool (← testIntegrity cb r true)
    | _ => return .bool true
  | .isSealed =>
    match a0 with
    | .obj r => return .bool (← testIntegrity cb r false)
    | _ => return .bool true
  | .fromEntries =>
    let r ← alloc (Obj.ordinary (some (← intr).objectProto))
    for e in ← iterateToList cb a0 do
      match e with
      | .obj er =>
        let k ← toPropertyKey cb (← get cb er (Key.ofIndex 0))
        let v ← get cb er (Key.ofIndex 1)
        let _ ← createData cb r k v
      | _ => throwType ("Iterator value " ++ (← toText cb e) ++ " is not an entry object")
    return .obj r
  | .getOwnPropertyDescriptor =>
    let r ← toObject a0
    let k ← toPropertyKey cb a1
    match ← getOwn cb r k with
    | some p => fromProperty p
    | none => return .undefined
  | .getOwnPropertyDescriptors =>
    let r ← toObject a0
    let out ← alloc (Obj.ordinary (some (← intr).objectProto))
    for k in ← ownKeys cb r do
      match ← getOwn cb r k with
      | some p =>
        let _ ← createData cb out k (← fromProperty p)
      | none => pure ()
    return .obj out
  | .getOwnPropertyNames =>
    let r ← toObject a0
    newArray (((← ownKeys cb r).filter Key.isStr).map keyValue).toArray
  | .getOwnPropertySymbols =>
    let r ← toObject a0
    newArray (((← ownKeys cb r).filter fun k => !k.isStr).map keyValue).toArray
  | .getPrototypeOf =>
    let r ← toObject a0
    match ← getProto cb r with
    | some p => return .obj p
    | none => return .null
  | .is => return .bool (Value.sameValue a0 a1)
  | .isExtensible =>
    match a0 with
    | .obj r => return .bool (← isExtensible cb r)
    | _ => return .bool false
  | .preventExtensions =>
    match a0 with
    | .obj r =>
      if !(← preventExtensions cb r) then throwType "Cannot prevent extensions"
      return a0
    | _ => return a0
  | .setPrototypeOf =>
    if a0.isNullish then throwType "Object.setPrototypeOf called on null or undefined"
    let proto ← protoArg cb a1
    match a0 with
    | .obj r =>
      if !(← setProto cb r proto) then throwType "Object.setPrototypeOf failed"
      return a0
    | _ => return a0
  | .hasOwn =>
    let r ← toObject a0
    let k ← toPropertyKey cb a1
    return .bool (← getOwn cb r k).isSome
  | .groupBy =>
    let groups ← groupValues cb a0 a1 true
    let r ← alloc (Obj.ordinary none)
    for (k, vs) in groups do
      let _ ← createData cb r (← toPropertyKey cb k) (← newArray vs)
    return .obj r
  | .hasOwnProperty =>
    let k ← toPropertyKey cb a0
    let r ← toObject this
    return .bool (← getOwn cb r k).isSome
  | .isPrototypeOf =>
    match a0 with
    | .obj v =>
      let r ← toObject this
      let mut cur ← getProto cb v
      for _ in [0:chainLimit] do
        match cur with
        | none => return .bool false
        | some p =>
          if p == r then return .bool true
          cur ← getProto cb p
      return .bool false
    | _ => return .bool false
  | .propertyIsEnumerable =>
    let k ← toPropertyKey cb a0
    let r ← toObject this
    match ← getOwn cb r k with
    | some p => return .bool p.enumerable
    | none => return .bool false
  | .toLocaleString =>
    let f ← getV cb this (keyOf "toString")
    cb.call (← toCallable cb f) this []
  | .toString => objectText cb this
  | .valueOf => return .obj (← toObject this)
  | .protoGet =>
    let r ← toObject this
    match ← getProto cb r with
    | some p => return .obj p
    | none => return .null
  | .protoSet =>
    if this.isNullish then throwType "Object.prototype.__proto__ called on null or undefined"
    match a0, this with
    | .obj p, .obj r =>
      if !(← setProto cb r (some p)) then throwType "Object.prototype.__proto__ setter failed"
    | .null, .obj r =>
      if !(← setProto cb r none) then throwType "Object.prototype.__proto__ setter failed"
    | _, _ => pure ()
    return .undefined
  | .defineGetter | .defineSetter =>
    let r ← toObject this
    let fn ← toCallable cb a1
    let k ← toPropertyKey cb a0
    let d : Descriptor := match f with
      | .defineGetter => ⟨none, none, some fn, none, some true, some true⟩
      | _ => ⟨none, none, none, some fn, some true, some true⟩
    defineOrThrow cb r k d
    return .undefined
  | .lookupGetter | .lookupSetter =>
    let r ← toObject this
    let k ← toPropertyKey cb a0
    let mut cur := some r
    for _ in [0:chainLimit] do
      match cur with
      | none => return .undefined
      | some o =>
        match ← getOwn cb o k with
        | some p =>
          match p.slot, f with
          | .accessor g _, .lookupGetter => return g
          | .accessor _ s, _ => return s
          | _, _ => return .undefined
        | none => cur ← getProto cb o
    return .undefined

/-- The arguments an array-like object holds. -/
def listOf (cb : Callbacks) (v : Value) : Eval (List Value) := do
  match v with
  | .obj r =>
    let n ← lengthOf cb r
    (List.range n).mapM fun i => get cb r (Key.ofIndex i)
  | _ => throwType "CreateListFromArrayLike called on non-object"

/-- Runs a function of `Reflect`. -/
def reflect (cb : Callbacks) (f : ReflectFn) (args : List Value) : Eval Value := do
  let a0 := arg args 0
  let a1 := arg args 1
  match f with
  | .apply => cb.call (← toCallable cb a0) a1 (← listOf cb (arg args 2))
  | .construct =>
    if !(← isConstructor a0) then throwType "Value is not a constructor"
    let nt := if args.length > 2 then arg args 2 else a0
    if !(← isConstructor nt) then throwType "Value is not a constructor"
    cb.construct a0 (← listOf cb a1) nt
  | .defineProperty =>
    let r ← requireObject cb a0
    let k ← toPropertyKey cb a1
    let d ← descriptorOf cb (arg args 2)
    return .bool (← defineOwn cb r k d)
  | .deleteProperty =>
    let r ← requireObject cb a0
    return .bool (← deleteProp cb r (← toPropertyKey cb a1))
  | .get =>
    let r ← requireObject cb a0
    let recv := if args.length > 2 then arg args 2 else a0
    getFrom cb chainLimit r (← toPropertyKey cb a1) recv
  | .getOwnPropertyDescriptor =>
    let r ← requireObject cb a0
    match ← getOwn cb r (← toPropertyKey cb a1) with
    | some p => fromProperty p
    | none => return .undefined
  | .getPrototypeOf =>
    let r ← requireObject cb a0
    match ← getProto cb r with
    | some p => return .obj p
    | none => return .null
  | .has =>
    let r ← requireObject cb a0
    return .bool (← has cb r (← toPropertyKey cb a1))
  | .isExtensible => return .bool (← isExtensible cb (← requireObject cb a0))
  | .ownKeys =>
    let r ← requireObject cb a0
    newArray ((← ownKeys cb r).map keyValue).toArray
  | .preventExtensions => return .bool (← preventExtensions cb (← requireObject cb a0))
  | .set =>
    let r ← requireObject cb a0
    let recv := if args.length > 3 then arg args 3 else a0
    return .bool (← setFrom cb chainLimit r (← toPropertyKey cb a1) (arg args 2) recv)
  | .setPrototypeOf =>
    let r ← requireObject cb a0
    let p ← protoArg cb a1
    return .bool (← setProto cb r p)

/-- Makes a proxy of a target with a handler. -/
def newProxy (target handler : Value) : Eval Nat := do
  match target, handler with
  | .obj t, .obj h =>
    let o ← getObj t
    alloc (Obj.ofKind (.proxy t h false o.callable o.isCtor) o.proto)
  | _, _ => throwType "Cannot create proxy with a non-object as target or handler"

/-- Runs a function of `Proxy`. -/
def proxy (f : ProxyFn) (args : List Value) (newTarget : Option Value) : Eval Value := do
  match f with
  | .ctor =>
    if newTarget.isNone then throwType "Constructor Proxy requires 'new'"
    return .obj (← newProxy (arg args 0) (arg args 1))
  | .revocable =>
    let p ← newProxy (arg args 0) (arg args 1)
    let revoke ← newNative (.proxy (.revoke p)) "" 0 false
    newObject [("proxy", .obj p), ("revoke", revoke)]
  | .revoke p =>
    modifyObj p fun o => match o.kind with
      | .proxy t h _ c k => { o with kind := .proxy t h true c k }
      | _ => o
    return .undefined

end Objects

end Script

end Userland
