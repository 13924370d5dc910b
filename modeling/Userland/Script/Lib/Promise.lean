import Userland.Script.Object

namespace Userland

/-! # Promises

A promise is pending until it is fulfilled with a value or rejected with a
reason; either happens once. Resolving a promise with a thenable follows it:
a job calls the thenable's `then` with the promise's resolving functions.
What waits on a promise is a pair of reactions, one for each outcome; when
the promise settles, or at once when it already has, a job runs the reaction
for its outcome: it calls the handler with the value and settles the
reaction's own promise with the handler's result or what it threw.

Jobs wait in the realm's queue until the script's own run ends, and then run
in order, each job's new jobs after the ones already waiting.
-/

namespace Script

namespace Promise

open Eval

/-- The state and reactions of a promise object, if the value is one. -/
def promiseOf? (v : Value) : Eval (Option (Nat × PromiseState)) := do
  match v with
  | .obj r =>
    match (← getObj r).kind with
    | .promise s _ _ => return some (r, s)
    | _ => return none
  | _ => return none

/-- A new pending promise with a prototype. -/
def newPromise (proto : Nat) : Eval Nat := alloc (Obj.ofKind (.promise .pending #[] false) (some proto))

/-- Settles a pending promise, queuing the reactions for its outcome. -/
def settle (p : Nat) (v : Value) (rejected : Bool) : Eval Unit := do
  let o ← getObj p
  match o.kind with
  | .promise .pending rs h =>
    let state := if rejected then PromiseState.rejected v else .fulfilled v
    setObj p { o with kind := .promise state #[] h }
    for (f, r) in rs do
      enqueue (.reaction (if rejected then r else f) v rejected)
  | _ => pure ()

/-- Resolves a promise with a value: a thenable is followed by a job, anything else fulfills it. -/
def resolveWith (cb : Callbacks) (p : Nat) (v : Value) : Eval Unit := do
  match v with
  | .obj r =>
    if r == p then
      settle p (← newError .typeError "Chaining cycle detected for promise #<Promise>") true
      return
    let thenV ← tryCatch (do pure (some (← get cb r (keyOf "then")))) fun s =>
      match s with
      | .thrown e => do
        settle p e true
        pure none
      | _ => throw s
    match thenV with
    | none => pure ()
    | some t =>
      if ← isCallable t then enqueue (.thenable p v t)
      else settle p v false
  | _ => settle p v false

/-- The pair of resolving functions of a promise, which settle it once between them. -/
def resolvingFunctions (p : Nat) : Eval (Value × Value) := do
  let cell ← newCell (.bool false)
  let res ← newNative (.promise (.settle p cell false)) "" 1 false
  let rej ← newNative (.promise (.settle p cell true)) "" 1 false
  return (res, rej)

/-- Makes a promise and its resolving functions through a constructor. -/
def newCapability (cb : Callbacks) (c : Value) : Eval Capability := do
  let i ← intr
  match c with
  | .obj cr =>
    if cr == i.promiseCtor then
      let p ← newPromise i.promiseProto
      let (res, rej) ← resolvingFunctions p
      return ⟨.obj p, res, rej⟩
    if !(← getObj cr).isCtor then throwType ("Value is not a constructor: " ++ (← toText cb c))
    let cell ← newCell .undefined
    let _ ← newCell .undefined
    let executor ← newNative (.promise (.capture cell)) "" 2 false
    let p ← cb.construct c [executor] c
    let res ← getCell cell
    let rej ← getCell (cell + 1)
    if !(← isCallable res) || !(← isCallable rej) then
      throwType "Promise resolve or reject function is not callable"
    return ⟨p, res, rej⟩
  | _ => throwType ("Value is not a constructor: " ++ (← toText cb c))

/-- Adds the reactions of a `then` to a promise: queued at once when it has settled. -/
def performThen (p : Nat) (onFul onRej : Value) (cap : Option Capability) : Eval Unit := do
  let fr : Reaction := ⟨if ← isCallable onFul then some onFul else none, cap⟩
  let rr : Reaction := ⟨if ← isCallable onRej then some onRej else none, cap⟩
  let o ← getObj p
  match o.kind with
  | .promise .pending rs _ => setObj p { o with kind := .promise .pending (rs.push (fr, rr)) true }
  | .promise (.fulfilled v) _ _ =>
    setObj p { o with kind := .promise (.fulfilled v) #[] true }
    enqueue (.reaction fr v false)
  | .promise (.rejected v) _ _ =>
    setObj p { o with kind := .promise (.rejected v) #[] true }
    enqueue (.reaction rr v true)
  | _ => pure ()

/-- A promise of a constructor for a value: the value itself when it is such a promise already. -/
def promiseResolve (cb : Callbacks) (c : Value) (v : Value) : Eval Value := do
  if let some _ ← promiseOf? v then
    let ctor ← getV cb v (keyOf "constructor")
    if Value.strictEq ctor c then return v
  let cap ← newCapability cb c
  let _ ← cb.call cap.resolve .undefined [v]
  return cap.promise

/-- The promise `await` waits on for a value. -/
def awaitPromise (cb : Callbacks) (v : Value) : Eval Nat := do
  let i ← intr
  match ← promiseResolve cb (.obj i.promiseCtor) v with
  | .obj r => return r
  | _ => newPromise i.promiseProto

/-- Settles a capability's promise with the outcome of a call: its value, or what it threw. -/
def settleWith (cb : Callbacks) (cap : Capability) (body : Eval Value) : Eval Unit := do
  let outcome ← tryCatch (do pure (Except.ok (← body))) fun s =>
    match s with
    | .thrown e => pure (Except.error e)
    | _ => throw s
  match outcome with
  | .ok v => let _ ← cb.call cap.resolve .undefined [v]
  | .error e => let _ ← cb.call cap.reject .undefined [e]

/-- `then` on a promise with a constructor for the promise it gives. -/
def thenWith (cb : Callbacks) (p : Nat) (onFul onRej : Value) : Eval Value := do
  let cap ← newCapability cb (.obj (← intr).promiseCtor)
  performThen p onFul onRej (some cap)
  return cap.promise

/-- The element functions' bookkeeping for `all`, `allSettled` and `any`:
stores a result and settles the combined promise once none are left. -/
def element (cb : Callbacks) (kind index values remaining done : Nat) (resolve reject : Value) (x : Value) :
    Eval Value := do
  if (← getCell done).truthy then return .undefined
  setCell done (.bool true)
  let stored ← match kind with
    | 1 => newObject [("status", Value.ofString "fulfilled"), ("value", x)]
    | 2 => newObject [("status", Value.ofString "rejected"), ("reason", x)]
    | _ => pure x
  let _ ← createData cb values (Key.ofIndex index) stored
  let left := match ← getCell remaining with
    | .num n => n - 1
    | _ => 0
  setCell remaining (.num left)
  if left == 0 then
    if kind == 3 then
      let err ← newError .error "All promises were rejected"
      if let .obj er := err then
        let _ ← createData cb er (keyOf "errors") (.obj values)
      let _ ← cb.call reject .undefined [err]
    else
      let _ ← cb.call resolve .undefined [.obj values]
  return .undefined

/-- `Promise.all`, `allSettled`, `any` and `race` over an iterable. -/
def combine (cb : Callbacks) (kind : Nat) (c : Value) (iterable : Value) : Eval Value := do
  let cap ← newCapability cb c
  let body : Eval Value := do
    let resolveFn ← getV cb c (keyOf "resolve")
    if !(← isCallable resolveFn) then throwType "Promise resolve is not a function"
    let items ← iterateToList cb iterable
    let values ← newArray #[]
    let vr := values.ref?.getD 0
    let remaining ← newCell (.num 1)
    let mut index := 0
    for item in items do
      let next ← cb.call resolveFn c [item]
      if kind == 4 then
        let _ ← cb.call (← getV cb next (keyOf "then")) next [cap.resolve, cap.reject]
      else
        let _ ← createData cb vr (Key.ofIndex index) .undefined
        let done ← newCell (.bool false)
        let n ← match ← getCell remaining with
          | .num n => pure n
          | _ => pure 0
        setCell remaining (.num (n + 1))
        let (onFul, onRej) ← match kind with
          | 0 => do
            pure (← newNative (.promise (.element 0 index vr remaining done cap.resolve cap.reject)) "" 1 false,
              cap.reject)
          | 1 => do
            pure (← newNative (.promise (.element 1 index vr remaining done cap.resolve cap.reject)) "" 1 false,
              ← newNative (.promise (.element 2 index vr remaining done cap.resolve cap.reject)) "" 1 false)
          | _ => do
            pure (cap.resolve,
              ← newNative (.promise (.element 3 index vr remaining done cap.resolve cap.reject)) "" 1 false)
        let _ ← cb.call (← getV cb next (keyOf "then")) next [onFul, onRej]
      index := index + 1
    if kind != 4 then
      let left := match ← getCell remaining with
        | .num n => n - 1
        | _ => 0
      setCell remaining (.num left)
      if left == 0 then
        if kind == 3 then
          let err ← newError .error "All promises were rejected"
          let _ ← createData cb ((err.ref?).getD 0) (keyOf "errors") values
          let _ ← cb.call cap.reject .undefined [err]
        else
          let _ ← cb.call cap.resolve .undefined [values]
    return .undefined
  let failed ← tryCatch (do let _ ← body; pure none) fun s =>
    match s with
    | .thrown e => pure (some e)
    | _ => throw s
  if let some e := failed then
    let _ ← cb.call cap.reject .undefined [e]
  return cap.promise

/-- Calls a builtin of promises. -/
def run (cb : Callbacks) (f : PromiseFn) (this : Value) (args : List Value) (newTarget : Option Value) :
    Eval Value := do
  let i ← intr
  let a0 := arg args 0
  match f with
  | .ctor =>
    match newTarget with
    | none => throwType "Promise constructor cannot be invoked without 'new'"
    | some nt =>
      if !(← isCallable a0) then throwType ("Promise resolver " ++ (← toText cb a0) ++ " is not a function")
      let proto ← match nt with
        | .obj nr => do
          match ← get cb nr (keyOf "prototype") with
          | .obj p => pure p
          | _ => pure i.promiseProto
        | _ => pure i.promiseProto
      let p ← newPromise proto
      let (res, rej) ← resolvingFunctions p
      tryCatch (do let _ ← cb.call a0 .undefined [res, rej]) fun s =>
        match s with
        | .thrown e => do let _ ← cb.call rej .undefined [e]
        | _ => throw s
      return .obj p
  | .resolve =>
    if !this.isObject then throwType "PromiseResolve called on non-object"
    promiseResolve cb this a0
  | .reject =>
    let cap ← newCapability cb this
    let _ ← cb.call cap.reject .undefined [a0]
    return cap.promise
  | .all => combine cb 0 this a0
  | .allSettled => combine cb 1 this a0
  | .any => combine cb 3 this a0
  | .race => combine cb 4 this a0
  | .withResolvers =>
    let cap ← newCapability cb this
    newObject [("promise", cap.promise), ("resolve", cap.resolve), ("reject", cap.reject)]
  | .then =>
    match ← promiseOf? this with
    | some (p, _) => thenWith cb p a0 (arg args 1)
    | none => throwType ("Method Promise.prototype.then called on incompatible receiver " ++ (← toText cb this))
  | .catch =>
    let t ← getV cb this (keyOf "then")
    if !(← isCallable t) then throwType "Value is not callable: undefined"
    cb.call t this [.undefined, a0]
  | .finally =>
    let t ← getV cb this (keyOf "then")
    if !(← isCallable t) then throwType "Value is not callable: undefined"
    if !(← isCallable a0) then return ← cb.call t this [a0, a0]
    let c := Value.obj i.promiseCtor
    let onFul ← newNative (.promise (.thenFinally a0 c false)) "" 1 false
    let onRej ← newNative (.promise (.thenFinally a0 c true)) "" 1 false
    cb.call t this [onFul, onRej]
  | .settle p cell rejected =>
    if (← getCell cell).truthy then return .undefined
    setCell cell (.bool true)
    if rejected then settle p a0 true else resolveWith cb p a0
    return .undefined
  | .capture cell =>
    if !(← getCell cell).isUndefined || !(← getCell (cell + 1)).isUndefined then
      throwType "Promise executor has already been invoked with non-undefined arguments"
    setCell cell a0
    setCell (cell + 1) (arg args 1)
    return .undefined
  | .thenFinally onFinally c rejected =>
    let result ← cb.call onFinally .undefined []
    let p ← promiseResolve cb c result
    let k ← newNative (.promise (.constant a0 rejected)) "" 0 false
    cb.call (← getV cb p (keyOf "then")) p [k]
  | .constant v throws => if throws then throwValue v else return v
  | .element kind index values remaining done resolve reject =>
    element cb kind index values remaining done resolve reject a0

end Promise

end Script

end Userland
