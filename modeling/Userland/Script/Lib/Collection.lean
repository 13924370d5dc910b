import Userland.Script.Object

namespace Userland

/-! # Maps, sets and iterators

A map keeps its entries in the order their keys were first added, a set its
values; keys are compared as `SameValueZero` does, so that every NaN is one
key and zero and negative zero are the same. Deleting an entry leaves a gap,
so that an iterator walking the entries keeps its place and sees entries
added after it started. Weak maps and weak sets take only objects as keys.

The iterators of arrays, maps, sets and strings are objects holding what
they walk and where they are; `next` moves them on until they are done.
-/

namespace Script

namespace Collections

open Eval

/-- The table of a map or set object, or a type error naming the method. -/
def tableOf (v : Value) (weak : Bool) (isMap : Bool) (method : String) : Eval (Nat × Table) := do
  let fail : Eval (Nat × Table) := do
    throwType ("Method " ++ method ++ " called on incompatible receiver " ++ primitiveText v)
  match v with
  | .obj r =>
    match (← getObj r).kind, weak, isMap with
    | .map t, false, true => return (r, t)
    | .set t, false, false => return (r, t)
    | .weakMap t, true, true => return (r, t)
    | .weakSet t, true, false => return (r, t)
    | _, _, _ => fail
  | _ => fail

/-- Stores a table back into its object. -/
def storeTable (r : Nat) (t : Table) : Eval Unit :=
  modifyObj r fun o => { o with kind := match o.kind with
    | .map _ => .map t
    | .set _ => .set t
    | .weakMap _ => .weakMap t
    | .weakSet _ => .weakSet t
    | k => k }

/-- The prototype a constructed collection gets. -/
def protoFor (cb : Callbacks) (newTarget : Option Value) (fallback : Nat) (name : String) : Eval Nat := do
  match newTarget with
  | some (.obj nt) =>
    match ← get cb nt (keyOf "prototype") with
    | .obj p => return p
    | _ => return fallback
  | _ => throwType ("Constructor " ++ name ++ " requires 'new'")

/-- Fills a new collection from an iterable through its adder method. -/
def fill (cb : Callbacks) (r : Nat) (iterable : Value) (adder : String) (pairs : Bool) : Eval Unit := do
  if iterable.isNullish then return
  let add ← get cb r (keyOf adder)
  if !(← isCallable add) then throwType ("'" ++ primitiveText add ++ "' returned for property '" ++ adder ++
    "' of object '#<Object>' is not a function")
  let it ← getIterator cb iterable
  for _ in [0:100000000] do
    match ← iterStep cb it with
    | none => return
    | some item =>
      let step : Eval Unit := do
        if pairs then
          match item with
          | .obj er =>
            let k ← get cb er (Key.ofIndex 0)
            let v ← get cb er (Key.ofIndex 1)
            let _ ← cb.call add (.obj r) [k, v]
          | _ => throwType ("Iterator value " ++ (← toText cb item) ++ " is not an entry object")
        else
          let _ ← cb.call add (.obj r) [item]
      tryCatch step fun s => do
        match s with
        | .thrown _ => iterClose cb it
        | _ => pure ()
        throw s

/-- A key with negative zero made zero. -/
def normalKey (k : Value) : Value :=
  match k with
  | .num x => if x == 0 then .num 0 else k
  | _ => k

/-- Calls a callback on each entry in order, seeing entries added on the way. -/
def forEachEntry (cb : Callbacks) (r : Nat) (isMap : Bool) (f thisArg : Value) : Eval Unit := do
  let mut i := 0
  for _ in [0:100000000] do
    let t ← match (← getObj r).kind with
      | .map t | .set t => pure t
      | _ => pure Table.empty
    if i ≥ t.entries.size then return
    match t.entries[i]?.join with
    | some (k, v) =>
      let _ ← cb.call f thisArg [if isMap then v else k, k, .obj r]
    | none => pure ()
    i := i + 1

/-- An iterator over a map's or set's entries. -/
def iterator (r : Nat) (isMap : Bool) (kind : IterKind) : Eval Value := do
  let i ← intr
  if isMap then return .obj (← alloc (Obj.ofKind (.mapIter r 0 kind false) (some i.mapIterProto)))
  return .obj (← alloc (Obj.ofKind (.setIter r 0 kind false) (some i.setIterProto)))

/-- Runs a function of `Map` or `Map.prototype`. -/
def mapRun (cb : Callbacks) (f : MapFn) (this : Value) (args : List Value) (newTarget : Option Value) :
    Eval Value := do
  let a0 := arg args 0
  let a1 := arg args 1
  let name (m : String) := "Map.prototype." ++ m
  match f with
  | .ctor =>
    let proto ← protoFor cb newTarget (← intr).mapProto "Map"
    let r ← alloc (Obj.ofKind (.map Table.empty) (some proto))
    fill cb r a0 "set" true
    return .obj r
  | .groupBy =>
    let fn ← toCallable cb a1
    let vs ← iterateToList cb a0
    let mut t := Table.empty
    let mut k := 0
    for v in vs do
      let key := normalKey (← cb.call fn .undefined [v, Value.ofNat k])
      let cur := (t.find? key).getD .undefined
      match cur with
      | .obj ar =>
        let len ← lengthOf cb ar
        let _ ← createData cb ar (Key.ofIndex len) v
      | _ => t := t.insert key (← newArray #[v])
      k := k + 1
    return .obj (← alloc (Obj.ofKind (.map t) (some (← intr).mapProto)))
  | .get =>
    let (_, t) ← tableOf this false true (name "get")
    return (t.find? a0).getD .undefined
  | .set =>
    let (r, t) ← tableOf this false true (name "set")
    storeTable r (t.insert a0 a1)
    return this
  | .has =>
    let (_, t) ← tableOf this false true (name "has")
    return .bool (t.contains a0)
  | .delete =>
    let (r, t) ← tableOf this false true (name "delete")
    let (t', found) := t.erase a0
    storeTable r t'
    return .bool found
  | .clear =>
    let (r, t) ← tableOf this false true (name "clear")
    storeTable r t.clear
    return .undefined
  | .forEach =>
    let (r, _) ← tableOf this false true (name "forEach")
    forEachEntry cb r true (← toCallable cb a0) a1
    return .undefined
  | .size =>
    let (_, t) ← tableOf this false true "get Map.prototype.size"
    return Value.ofNat t.count
  | .keys =>
    let (r, _) ← tableOf this false true (name "keys")
    iterator r true .keys
  | .values =>
    let (r, _) ← tableOf this false true (name "values")
    iterator r true .values
  | .entries =>
    let (r, _) ← tableOf this false true (name "entries")
    iterator r true .entries

/-- Runs a function of `Set` or `Set.prototype`. -/
def setRun (cb : Callbacks) (f : SetFn) (this : Value) (args : List Value) (newTarget : Option Value) :
    Eval Value := do
  let a0 := arg args 0
  let name (m : String) := "Set.prototype." ++ m
  match f with
  | .ctor =>
    let proto ← protoFor cb newTarget (← intr).setProto "Set"
    let r ← alloc (Obj.ofKind (.set Table.empty) (some proto))
    fill cb r a0 "add" false
    return .obj r
  | .add =>
    let (r, t) ← tableOf this false false (name "add")
    let k := normalKey a0
    if !t.contains k then storeTable r (t.insert k k)
    return this
  | .has =>
    let (_, t) ← tableOf this false false (name "has")
    return .bool (t.contains a0)
  | .delete =>
    let (r, t) ← tableOf this false false (name "delete")
    let (t', found) := t.erase a0
    storeTable r t'
    return .bool found
  | .clear =>
    let (r, t) ← tableOf this false false (name "clear")
    storeTable r t.clear
    return .undefined
  | .forEach =>
    let (r, _) ← tableOf this false false (name "forEach")
    forEachEntry cb r false (← toCallable cb a0) (arg args 1)
    return .undefined
  | .size =>
    let (_, t) ← tableOf this false false "get Set.prototype.size"
    return Value.ofNat t.count
  | .values =>
    let (r, _) ← tableOf this false false (name "values")
    iterator r false .values
  | .entries =>
    let (r, _) ← tableOf this false false (name "entries")
    iterator r false .entries

/-- Runs a function of `WeakMap`, `WeakSet` or their prototypes. -/
def weakRun (cb : Callbacks) (f : WeakFn) (this : Value) (args : List Value) (newTarget : Option Value) :
    Eval Value := do
  let a0 := arg args 0
  let a1 := arg args 1
  match f with
  | .mapCtor =>
    let proto ← protoFor cb newTarget (← intr).weakMapProto "WeakMap"
    let r ← alloc (Obj.ofKind (.weakMap Table.empty) (some proto))
    fill cb r a0 "set" true
    return .obj r
  | .setCtor =>
    let proto ← protoFor cb newTarget (← intr).weakSetProto "WeakSet"
    let r ← alloc (Obj.ofKind (.weakSet Table.empty) (some proto))
    fill cb r a0 "add" false
    return .obj r
  | .mapGet =>
    let (_, t) ← tableOf this true true "WeakMap.prototype.get"
    return (t.find? a0).getD .undefined
  | .mapSet =>
    let (r, t) ← tableOf this true true "WeakMap.prototype.set"
    if !a0.isObject then throwType "Invalid value used as weak map key"
    storeTable r (t.insert a0 a1)
    return this
  | .mapHas =>
    let (_, t) ← tableOf this true true "WeakMap.prototype.has"
    return .bool (t.contains a0)
  | .mapDelete =>
    let (r, t) ← tableOf this true true "WeakMap.prototype.delete"
    let (t', found) := t.erase a0
    storeTable r t'
    return .bool found
  | .setAdd =>
    let (r, t) ← tableOf this true false "WeakSet.prototype.add"
    if !a0.isObject then throwType "Invalid value used in weak set"
    storeTable r (t.insert a0 a0)
    return this
  | .setHas =>
    let (_, t) ← tableOf this true false "WeakSet.prototype.has"
    return .bool (t.contains a0)
  | .setDelete =>
    let (r, t) ← tableOf this true false "WeakSet.prototype.delete"
    let (t', found) := t.erase a0
    storeTable r t'
    return .bool found

/-! ## Iterators -/

/-- The result of an iterator's step over an entry of a view. -/
def viewResult (kind : IterKind) (k v : Value) : Eval Value := do
  match kind with
  | .keys => iterResultObject k false
  | .values => iterResultObject v false
  | .entries => iterResultObject (← newArray #[k, v]) false

/-- Runs the `next` of an iterator over an array, map, set or string. -/
def iterRun (cb : Callbacks) (f : IterFn) (this : Value) : Eval Value := do
  let fail (what : String) : Eval Value := do
    throwType ("Method " ++ what ++ " Iterator.prototype.next called on incompatible receiver " ++
      primitiveText this)
  match f with
  | .self => return this
  | _ =>
  let r ← match this with
    | .obj r => pure r
    | _ => throwType ("Method next called on incompatible receiver " ++ primitiveText this)
  let o ← getObj r
  match f, o.kind with
  | .arrayNext, .arrayIter target i kind done =>
    if done then return ← iterResultObject .undefined true
    let len ← match target with
      | .obj t => lengthOf cb t
      | _ => pure 0
    if i ≥ len then
      setObj r { o with kind := .arrayIter target i kind true }
      return ← iterResultObject .undefined true
    setObj r { o with kind := .arrayIter target (i + 1) kind false }
    match kind with
    | .keys => iterResultObject (Value.ofNat i) false
    | _ =>
      let v ← getV cb target (Key.ofIndex i)
      viewResult kind (Value.ofNat i) v
  | .mapNext, .mapIter m i kind done | .setNext, .setIter m i kind done =>
    if done then return ← iterResultObject .undefined true
    let t ← match (← getObj m).kind with
      | .map t | .set t => pure t
      | _ => pure Table.empty
    let mut j := i
    for _ in [0:t.entries.size + 1] do
      if j ≥ t.entries.size then break
      if (t.entries[j]?.join).isSome then break
      j := j + 1
    match t.entries[j]?.join with
    | some (k, v) =>
      let next := match o.kind with
        | .mapIter .. => ObjKind.mapIter m (j + 1) kind false
        | _ => ObjKind.setIter m (j + 1) kind false
      setObj r { o with kind := next }
      viewResult kind k v
    | none =>
      let fin := match o.kind with
        | .mapIter .. => ObjKind.mapIter m j kind true
        | _ => ObjKind.setIter m j kind true
      setObj r { o with kind := fin }
      iterResultObject .undefined true
  | .stringNext, .stringIter s pos done =>
    if done || pos ≥ s.length then
      setObj r { o with kind := .stringIter s pos true }
      return ← iterResultObject .undefined true
    let n := match s.unitAt? pos, s.unitAt? (pos + 1) with
      | some hi, some lo => if Str.isHigh hi && Str.isLow lo then 2 else 1
      | _, _ => 1
    setObj r { o with kind := .stringIter s (pos + n) false }
    iterResultObject (.str (s.slice pos (pos + n))) false
  | .arrayNext, _ => fail "Array"
  | .mapNext, _ => fail "Map"
  | .setNext, _ => fail "Set"
  | .stringNext, _ => fail "String"
  | _, _ => fail "RegExp String"

end Collections

end Script

end Userland
