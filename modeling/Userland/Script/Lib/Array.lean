import Userland.Script.Scope

namespace Userland

/-! # Arrays

The methods of `Array.prototype` work on any object with a `length`, through
its properties: an index it does not have is a hole, which the methods that
call back skip and the ones that search or copy read as `undefined`.

`sort` keeps the engine's exact order of comparisons: a stable sort that
sorts blocks of twenty by insertion and then merges neighbouring blocks,
each merge splitting the larger side at its middle and rotating. Holes go
last, then `undefined`, and the rest by the comparison function or by their
text in UTF-16 units.
-/

namespace Script

namespace Arrays

open Eval

/-! ## Elements -/

/-- The element at an index. -/
def getIdx (cb : Callbacks) (r : Nat) (i : Nat) : Eval Value := get cb r (Key.ofIndex i)

/-- Whether an index holds an element. -/
def hasIdx (cb : Callbacks) (r : Nat) (i : Nat) : Eval Bool := has cb r (Key.ofIndex i)

/-- Writes an element, failing as strict code does. -/
def setIdx (cb : Callbacks) (r : Nat) (i : Nat) (v : Value) : Eval Unit := putProp cb r (Key.ofIndex i) v true

/-- Removes an element, failing when it may not be removed. -/
def deleteIdx (cb : Callbacks) (r : Nat) (i : Nat) : Eval Unit := do
  if !(← deleteProp cb r (Key.ofIndex i)) then
    throwType ("Cannot delete property '" ++ toString i ++ "' of " ++ (← toText cb (.obj r)))

/-- Sets the length, failing as strict code does. -/
def setLength (cb : Callbacks) (r : Nat) (n : Nat) : Eval Unit := putProp cb r lengthKey (Value.ofNat n) true

/-- Defines an element of a new array. -/
def createIdx (cb : Callbacks) (r : Nat) (i : Nat) (v : Value) : Eval Unit := do
  if !(← createData cb r (Key.ofIndex i) v) then
    throwType ("Cannot add property " ++ toString i ++ ", object is not extensible")

/-- A new array of a length, all holes. -/
def newHoles (n : Nat) : Eval Nat := do
  let proto := (← intr).arrayProto
  if n > denseLimit then alloc (Obj.ofKind (.slowArray n true) (some proto))
  else alloc (Obj.ofKind (.array (Array.replicate n none)) (some proto))

/-- A relative index from an argument: negative counts from the end, and the
result lies between 0 and the length; `undefined` gives a default. -/
def relArg (cb : Callbacks) (v : Value) (len : Nat) (dflt : Nat) : Eval Nat := do
  if v.isUndefined then return dflt
  return relativeIndex (← toIntegerOrInf cb v) len

/-- The callback of a method, which must be callable. -/
def callbackArg (cb : Callbacks) (v : Value) : Eval Value := toCallable cb v

/-! ## Sorting -/

/-- Compares two elements as `sort` does: holes last, then `undefined`, then
by the comparison function or by text. -/
def sortCompare (cb : Callbacks) (cmp : Option Value) (x y : Option Value) : Eval Int := do
  match x, y with
  | none, none => return 0
  | none, _ => return 1
  | _, none => return -1
  | some .undefined, some .undefined => return 0
  | some .undefined, _ => return 1
  | _, some .undefined => return -1
  | some a, some b =>
    match cmp with
    | some f =>
      let r ← toNumber cb (← cb.call f .undefined [a, b])
      if r > 0 then return 1
      if r < 0 then return -1
      if Number.signBit r && !r.isNaN then return -1
      return 0
    | none =>
      let sa ← toStr cb a
      let sb ← toStr cb b
      let ua := sa.units.toList
      let ub := sb.units.toList
      if ua < ub then return -1
      if ub < ua then return 1
      return 0

/-- Sorting's state: the elements, holes as `none`. -/
abbrev SortM := StateT (Array (Option Value)) Eval

/-- Whether the element at `i` sorts before the one at `j`. -/
def less (cb : Callbacks) (cmp : Option Value) (i j : Nat) : SortM Bool := do
  let a ← StateT.get
  let c ← (sortCompare cb cmp (a[i]?.join) (a[j]?.join) : Eval Int)
  return c < 0

/-- Swaps two elements. -/
def swap (i j : Nat) : SortM Unit := modify fun a => a.swapIfInBounds i j

/-- Sorts the elements from `a` to before `b` by insertion. -/
def insertionSort (cb : Callbacks) (cmp : Option Value) (a b : Nat) : SortM Unit := do
  for i in [a + 1:b] do
    let mut j := i
    for _ in [0:i - a] do
      if j > a && (← less cb cmp j (j - 1)) then
        swap j (j - 1)
        j := j - 1
      else break

/-- Swaps two runs of `n` elements starting at `a` and `b`. -/
def swapRange (a b n : Nat) : SortM Unit := do
  for i in [0:n] do swap (a + i) (b + i)

/-- Rotates the elements from `a` to before `b` so that the run from `m` comes first. -/
def rotate (a m b : Nat) : SortM Unit := do
  let mut i := m - a
  let mut j := b - m
  for _ in [0:b - a + 1] do
    if i == j then break
    if i > j then
      swapRange (m - i) m j
      i := i - j
    else
      swapRange (m - i) (m + j - i) i
      j := j - i
  swapRange (m - i) m i

/-- Merges the sorted runs from `a` to before `m` and from `m` to before `b`. -/
def symMerge (cb : Callbacks) (cmp : Option Value) : Nat → Nat → Nat → Nat → SortM Unit
  | 0, _, _, _ => pure ()
  | fuel + 1, a, m, b => do
    if m - a == 1 then
      let mut i := m
      let mut j := b
      for _ in [0:64] do
        if i ≥ j then break
        let h := (i + j) / 2
        if ← less cb cmp h a then i := h + 1 else j := h
      for k in [a:i - 1] do swap k (k + 1)
      return
    if b - m == 1 then
      let mut i := a
      let mut j := m
      for _ in [0:64] do
        if i ≥ j then break
        let h := (i + j) / 2
        if !(← less cb cmp m h) then i := h + 1 else j := h
      let mut k := m
      for _ in [0:m - i] do
        swap k (k - 1)
        k := k - 1
      return
    let mid := (a + b) / 2
    let n := mid + m
    let (start0, r0) := if m > mid then (n - b, mid) else (a, m)
    let mut start := start0
    let mut r := r0
    let p := n - 1
    for _ in [0:64] do
      if start ≥ r then break
      let c := (start + r) / 2
      if !(← less cb cmp (p - c) c) then start := c + 1 else r := c
    let fin := n - start
    if start < m && m < fin then rotate start m fin
    if a < start && start < mid then symMerge cb cmp fuel a start mid
    if mid < fin && fin < b then symMerge cb cmp fuel mid fin b

/-- Sorts all the elements stably, in the engine's order of comparisons. -/
def stableSort (cb : Callbacks) (cmp : Option Value) (n : Nat) : SortM Unit := do
  let mut blockSize := 20
  let mut a := 0
  let mut b := blockSize
  for _ in [0:n / blockSize + 1] do
    if b > n then break
    insertionSort cb cmp a b
    a := b
    b := b + blockSize
  insertionSort cb cmp a n
  for _ in [0:64] do
    if blockSize ≥ n then break
    a := 0
    b := 2 * blockSize
    for _ in [0:n / (2 * blockSize) + 1] do
      if b > n then break
      symMerge cb cmp (n + 1) a (a + blockSize) b
      a := b
      b := b + 2 * blockSize
    if a + blockSize < n then symMerge cb cmp (n + 1) a (a + blockSize) n
    blockSize := blockSize * 2

/-- The elements of an object up to its length, holes as `none`. -/
def readElements (cb : Callbacks) (r : Nat) (len : Nat) : Eval (Array (Option Value)) := do
  match (← getObj r).kind with
  | .array items => return items.extract 0 len
  | _ =>
    let mut out := #[]
    for i in [0:len] do
      if ← hasIdx cb r i then out := out.push (some (← getIdx cb r i))
      else out := out.push none
    return out

/-- Sorts an object's elements in place. -/
def sortInPlace (cb : Callbacks) (r : Nat) (cmp : Option Value) : Eval Unit := do
  let len ← lengthOf cb r
  let items ← readElements cb r len
  let ((), sorted) ← (stableSort cb cmp len).run items
  for i in [0:len] do
    match sorted[i]?.join with
    | some v => setIdx cb r i v
    | none =>
      if ← hasIdx cb r i then deleteIdx cb r i

/-- The comparison function argument of `sort`. -/
def comparator (v : Value) : Eval (Option Value) := do
  if v.isUndefined then return none
  if ← isCallable v then return some v
  throwType "The comparison function must be either a function or undefined"

/-! ## Flattening -/

/-- Appends the elements of a source to a target from an index, going into
arrays down to a depth: the index after them. -/
def flattenInto (cb : Callbacks) (target : Nat) (src : Nat) (len : Nat) (start : Nat) (depth : Float)
    (mapper : Option (Value × Value)) : Nat → Eval Nat
  | 0 => return start
  | fuel + 1 => do
    let mut at_ := start
    for i in [0:len] do
      if !(← hasIdx cb src i) then continue
      let mut el ← getIdx cb src i
      match mapper with
      | some (f, t) => el ← cb.call f t [el, Value.ofNat i, .obj src]
      | none => pure ()
      if depth > 0 && (← isArray el) then
        match el with
        | .obj er =>
          at_ ← flattenInto cb target er (← lengthOf cb er) at_ (depth - 1) none fuel
        | _ => pure ()
      else
        createIdx cb target at_ el
        at_ := at_ + 1
    return at_

/-! ## The methods -/

/-- Whether a value is spread by `concat`. -/
def spreadable (cb : Callbacks) (v : Value) : Eval Bool := do
  match v with
  | .obj r =>
    let s ← get cb r (symKey WellKnown.isConcatSpreadable)
    if !s.isUndefined then return s.truthy
    isArray v
  | _ => return false

/-- An iterator over an array's keys, values or entries. -/
def iterator (target : Value) (kind : IterKind) : Eval Value := do
  return .obj (← alloc (Obj.ofKind (.arrayIter target 0 kind false) (some (← intr).arrayIterProto)))

/-- Calls a callback on each element that is there, until it answers `stop`
truthily when `stop` is some: the index it stopped at. -/
def scan (cb : Callbacks) (r : Nat) (len : Nat) (f thisArg : Value) (stop : Option Bool) :
    Eval (Option Nat) := do
  for i in [0:len] do
    if !(← hasIdx cb r i) then continue
    let v ← getIdx cb r i
    let res ← cb.call f thisArg [v, Value.ofNat i, .obj r]
    match stop with
    | some want => if res.truthy == want then return some i
    | none => pure ()
  return none

/-- Searches every index, holes read as `undefined`, from the start or the end. -/
def search (cb : Callbacks) (r : Nat) (len : Nat) (f thisArg : Value) (fromEnd : Bool) :
    Eval (Option (Nat × Value)) := do
  for j in [0:len] do
    let i := if fromEnd then len - 1 - j else j
    let v ← getIdx cb r i
    if (← cb.call f thisArg [v, Value.ofNat i, .obj r]).truthy then return some (i, v)
  return none

/-- Folds the elements with a callback, from the start or the end. -/
def fold (cb : Callbacks) (r : Nat) (len : Nat) (args : List Value) (fromEnd : Bool) : Eval Value := do
  let f ← callbackArg cb (arg args 0)
  let order := (List.range len).map fun j => if fromEnd then len - 1 - j else j
  let mut acc : Option Value := if args.length ≥ 2 then some (arg args 1) else none
  for i in order do
    if !(← hasIdx cb r i) then continue
    let v ← getIdx cb r i
    match acc with
    | none => acc := some v
    | some a => acc := some (← cb.call f .undefined [a, v, Value.ofNat i, .obj r])
  match acc with
  | some a => return a
  | none => throwType "No initial value"

/-- Joins the elements' texts with a separator, `undefined` and `null` as nothing. -/
def joinWith (cb : Callbacks) (r : Nat) (sep : Str) : Eval Str := do
  let len ← lengthOf cb r
  let mut parts : Array Str := #[]
  for i in [0:len] do
    let v ← getIdx cb r i
    let t ← if v.isNullish then pure Str.empty else toStr cb v
    parts := parts.push t
  return Str.join sep parts.toList

/-- The `Array` constructor. -/
def construct (cb : Callbacks) (args : List Value) (newTarget : Option Value) : Eval Value := do
  let i ← intr
  let proto ← match newTarget with
    | some (.obj nt) =>
      match ← get cb nt (keyOf "prototype") with
      | .obj p => pure p
      | _ => pure i.arrayProto
    | _ => pure i.arrayProto
  let r ← match args with
    | [.num x] =>
      if x < 0 || x != x.floor || x ≥ 4294967296 || x.isNaN then throwRange "Invalid array length"
      newHoles x.toUInt64.toNat
    | _ => pure ((← newArray args.toArray).ref?.getD 0)
  modifyObj r fun o => { o with proto := some proto }
  return .obj r

/-- `Array.from`. -/
def arrayFrom (cb : Callbacks) (args : List Value) : Eval Value := do
  let items := arg args 0
  let mapFn := arg args 1
  let thisArg := arg args 2
  let mapper ← if mapFn.isUndefined then pure none else pure (some (← toCallable cb mapFn))
  let viaIter ← match items with
    | .undefined | .null => pure none
    | _ => getMethod cb items (symKey WellKnown.iterator)
  let vs ← match viaIter with
    | some _ => iterateToList cb items
    | none =>
      let src ← toObject items
      let len ← lengthOf cb src
      (List.range len).toArray.mapM fun i => getIdx cb src i
  match mapper with
  | none => newArray vs
  | some f =>
    let mut out := #[]
    let mut k := 0
    for v in vs do
      out := out.push (← cb.call f thisArg [v, Value.ofNat k])
      k := k + 1
    newArray out

/-- Runs a function of `Array` or `Array.prototype`. -/
def run (cb : Callbacks) (fn : ArrayFn) (this : Value) (args : List Value) (newTarget : Option Value) :
    Eval Value := do
  let a0 := arg args 0
  let a1 := arg args 1
  match fn with
  | .ctor => construct cb args newTarget
  | .isArray => return .bool (← isArray a0)
  | .from => arrayFrom cb args
  | .of => newArray args.toArray
  | _ =>
  let r ← toObject this
  match fn with
  | .at =>
    let len ← lengthOf cb r
    let x ← toIntegerOrInf cb a0
    let k := if x < 0 then Float.ofNat len + x else x
    if k < 0 || k ≥ Float.ofNat len then return .undefined
    getIdx cb r k.toUInt64.toNat
  | .concat =>
    let out ← newHoles 0
    let mut n := 0
    for item in (Value.obj r) :: args do
      if ← spreadable cb item then
        let src := item.ref?.getD 0
        let len ← lengthOf cb src
        for i in [0:len] do
          if ← hasIdx cb src i then createIdx cb out (n + i) (← getIdx cb src i)
        n := n + len
      else
        createIdx cb out n item
        n := n + 1
    setLength cb out n
    return .obj out
  | .copyWithin =>
    let len ← lengthOf cb r
    let target ← relArg cb a0 len 0
    let start ← relArg cb a1 len 0
    let fin ← relArg cb (arg args 2) len len
    let count := min (fin - start) (len - target)
    if start < target && target < start + count then
      for j in [0:count] do
        let i := count - 1 - j
        if ← hasIdx cb r (start + i) then setIdx cb r (target + i) (← getIdx cb r (start + i))
        else deleteIdx cb r (target + i)
    else
      for i in [0:count] do
        if ← hasIdx cb r (start + i) then setIdx cb r (target + i) (← getIdx cb r (start + i))
        else deleteIdx cb r (target + i)
    return .obj r
  | .entries => iterator (.obj r) .entries
  | .keys => iterator (.obj r) .keys
  | .values => iterator (.obj r) .values
  | .every =>
    let len ← lengthOf cb r
    let f ← callbackArg cb a0
    return .bool (← scan cb r len f a1 (some false)).isNone
  | .some =>
    let len ← lengthOf cb r
    let f ← callbackArg cb a0
    return .bool (← scan cb r len f a1 (some true)).isSome
  | .forEach =>
    let len ← lengthOf cb r
    let f ← callbackArg cb a0
    let _ ← scan cb r len f a1 none
    return .undefined
  | .fill =>
    let len ← lengthOf cb r
    let start ← relArg cb a1 len 0
    let fin ← relArg cb (arg args 2) len len
    for i in [start:fin] do setIdx cb r i a0
    return .obj r
  | .filter =>
    let len ← lengthOf cb r
    let f ← callbackArg cb a0
    let mut out := #[]
    for i in [0:len] do
      if !(← hasIdx cb r i) then continue
      let v ← getIdx cb r i
      if (← cb.call f a1 [v, Value.ofNat i, .obj r]).truthy then out := out.push v
    newArray out
  | .map =>
    let len ← lengthOf cb r
    let f ← callbackArg cb a0
    let out ← newHoles len
    for i in [0:len] do
      if !(← hasIdx cb r i) then continue
      let v ← getIdx cb r i
      createIdx cb out i (← cb.call f a1 [v, Value.ofNat i, .obj r])
    return .obj out
  | .find | .findIndex | .findLast | .findLastIndex =>
    let len ← lengthOf cb r
    let f ← callbackArg cb a0
    let fromEnd := match fn with
      | .findLast | .findLastIndex => true
      | _ => false
    let wantIndex := match fn with
      | .findIndex | .findLastIndex => true
      | _ => false
    match ← search cb r len f a1 fromEnd with
    | some (i, v) => return (if wantIndex then Value.ofNat i else v)
    | none => return (if wantIndex then Value.num (-1) else .undefined)
  | .flat =>
    let len ← lengthOf cb r
    let depth ← if a0.isUndefined then pure 1 else toIntegerOrInf cb a0
    let out ← newHoles 0
    let n ← flattenInto cb out r len 0 depth none 1000
    setLength cb out n
    return .obj out
  | .flatMap =>
    let len ← lengthOf cb r
    let f ← callbackArg cb a0
    let out ← newHoles 0
    let n ← flattenInto cb out r len 0 1 (some (f, a1)) 1000
    setLength cb out n
    return .obj out
  | .includes =>
    let len ← lengthOf cb r
    if len == 0 then return .bool false
    let start ← relArg cb a1 len 0
    for i in [start:len] do
      if Value.sameValueZero (← getIdx cb r i) a0 then return .bool true
    return .bool false
  | .indexOf =>
    let len ← lengthOf cb r
    if len == 0 then return .num (-1)
    let start ← relArg cb a1 len 0
    for i in [start:len] do
      if ← hasIdx cb r i then
        if Value.strictEq (← getIdx cb r i) a0 then return Value.ofNat i
    return .num (-1)
  | .lastIndexOf =>
    let len ← lengthOf cb r
    if len == 0 then return .num (-1)
    let from_ ← if args.length > 1 then toIntegerOrInf cb a1 else pure (Float.ofNat len - 1)
    let k : Float := if from_ < 0 then Float.ofNat len + from_ else min from_ (Float.ofNat len - 1)
    if k < 0 then return .num (-1)
    let top := k.toUInt64.toNat
    for j in [0:top + 1] do
      let i := top - j
      if ← hasIdx cb r i then
        if Value.strictEq (← getIdx cb r i) a0 then return Value.ofNat i
    return .num (-1)
  | .join =>
    let sep ← if a0.isUndefined then pure (Str.ofString ",") else toStr cb a0
    return .str (← joinWith cb r sep)
  | .pop =>
    let len ← lengthOf cb r
    if len == 0 then
      setLength cb r 0
      return .undefined
    let v ← getIdx cb r (len - 1)
    deleteIdx cb r (len - 1)
    setLength cb r (len - 1)
    return v
  | .push =>
    let len ← lengthOf cb r
    let mut n := len
    for v in args do
      setIdx cb r n v
      n := n + 1
    setLength cb r n
    return Value.ofNat n
  | .reduce => fold cb r (← lengthOf cb r) args false
  | .reduceRight => fold cb r (← lengthOf cb r) args true
  | .reverse =>
    let len ← lengthOf cb r
    for lower in [0:len / 2] do
      let upper := len - 1 - lower
      let lowerHas ← hasIdx cb r lower
      let lowerV ← if lowerHas then getIdx cb r lower else pure .undefined
      let upperHas ← hasIdx cb r upper
      let upperV ← if upperHas then getIdx cb r upper else pure .undefined
      if upperHas then setIdx cb r lower upperV else if lowerHas then deleteIdx cb r lower
      if lowerHas then setIdx cb r upper lowerV else if upperHas then deleteIdx cb r upper
    return .obj r
  | .shift =>
    let len ← lengthOf cb r
    if len == 0 then
      setLength cb r 0
      return .undefined
    let first ← getIdx cb r 0
    for k in [1:len] do
      if ← hasIdx cb r k then setIdx cb r (k - 1) (← getIdx cb r k)
      else deleteIdx cb r (k - 1)
    deleteIdx cb r (len - 1)
    setLength cb r (len - 1)
    return first
  | .unshift =>
    let len ← lengthOf cb r
    let n := args.length
    if n > 0 then
      for j in [0:len] do
        let k := len - 1 - j
        if ← hasIdx cb r k then setIdx cb r (k + n) (← getIdx cb r k)
        else deleteIdx cb r (k + n)
      for (v, i) in args.zipIdx do setIdx cb r i v
    setLength cb r (len + n)
    return Value.ofNat (len + n)
  | .slice =>
    let len ← lengthOf cb r
    let start ← relArg cb a0 len 0
    let fin ← relArg cb a1 len len
    let count := fin - start
    let out ← newHoles 0
    for i in [0:count] do
      if ← hasIdx cb r (start + i) then createIdx cb out i (← getIdx cb r (start + i))
    setLength cb out count
    return .obj out
  | .sort =>
    let cmp ← comparator a0
    sortInPlace cb r cmp
    return .obj r
  | .splice =>
    let len ← lengthOf cb r
    let start ← relArg cb a0 len 0
    let dc ← match args with
      | [] => pure 0
      | [_] => pure (len - start)
      | _ =>
        let x ← toIntegerOrInf cb a1
        pure (if x ≤ 0 then 0 else min x.toUInt64.toNat (len - start))
    let items := args.drop 2
    let removed ← newHoles 0
    for i in [0:dc] do
      if ← hasIdx cb r (start + i) then createIdx cb removed i (← getIdx cb r (start + i))
    setLength cb removed dc
    let n := items.length
    if n < dc then
      for k in [start:len - dc] do
        if ← hasIdx cb r (k + dc) then setIdx cb r (k + n) (← getIdx cb r (k + dc))
        else deleteIdx cb r (k + n)
      for j in [0:dc - n] do
        deleteIdx cb r (len - 1 - j)
    else if n > dc then
      for j in [0:len - dc - start] do
        let k := len - dc - 1 - j
        if ← hasIdx cb r (k + dc) then setIdx cb r (k + n) (← getIdx cb r (k + dc))
        else deleteIdx cb r (k + n)
    for (v, i) in items.zipIdx do setIdx cb r (start + i) v
    setLength cb r (len - dc + n)
    return .obj removed
  | .toLocaleString =>
    let len ← lengthOf cb r
    let mut parts : Array Str := #[]
    for i in [0:len] do
      let v ← getIdx cb r i
      if v.isNullish then parts := parts.push Str.empty
      else
        let f ← getV cb v (keyOf "toLocaleString")
        parts := parts.push (← toStr cb (← cb.call (← toCallable cb f) v []))
    return .str (Str.join (Str.ofString ",") parts.toList)
  | .toString =>
    let j ← get cb r (keyOf "join")
    if ← isCallable j then cb.call j (.obj r) []
    else
      let o := Value.obj r
      let tagged ← match ← get cb r (symKey WellKnown.toStringTag) with
        | .str s => pure s.text
        | _ => pure (if ← isArray o then "Array" else "Object")
      return Value.ofString ("[object " ++ tagged ++ "]")
  | .toReversed =>
    let len ← lengthOf cb r
    let mut out := #[]
    for j in [0:len] do out := out.push (← getIdx cb r (len - 1 - j))
    newArray out
  | .toSorted =>
    let cmp ← comparator a0
    let len ← lengthOf cb r
    let mut items := #[]
    for i in [0:len] do items := items.push (← getIdx cb r i)
    let out ← newArray items
    sortInPlace cb (out.ref?.getD 0) cmp
    return out
  | .toSpliced =>
    let len ← lengthOf cb r
    let start ← relArg cb a0 len 0
    let skip ← match args with
      | [] => pure 0
      | [_] => pure (len - start)
      | _ =>
        let x ← toIntegerOrInf cb a1
        pure (if x ≤ 0 then 0 else min x.toUInt64.toNat (len - start))
    let mut out := #[]
    for i in [0:start] do out := out.push (← getIdx cb r i)
    for v in args.drop 2 do out := out.push v
    for i in [start + skip:len] do out := out.push (← getIdx cb r i)
    newArray out
  | .withItem =>
    let len ← lengthOf cb r
    let x ← toIntegerOrInf cb a0
    let k := if x < 0 then Float.ofNat len + x else x
    if k < 0 || k ≥ Float.ofNat len then throwRange "Invalid index"
    let at_ := k.toUInt64.toNat
    let mut out := #[]
    for i in [0:len] do
      let v ← if i == at_ then pure a1 else getIdx cb r i
      out := out.push v
    newArray out
  | _ => return .undefined

end Arrays

end Script

end Userland
