import Userland.Script.Object
import Userland.Script.Regex

namespace Userland

/-! # Regular expression objects

A regular expression object holds its source, its flags and its compiled
form, and an own `lastIndex` where a global or sticky search starts and where
a successful one leaves it (a failed one sets it back to 0).

`exec` gives the match as an array of the matched text and the groups' texts
(`undefined` for a group that took no part), with the match's `index` and the
`input`. `test` says whether `exec` found a match.

Strings use expressions in four methods. `match` gives `exec`'s array, or for
a global expression the array of every match's text (or `null`). `search`
gives where the first match starts, or -1, and leaves `lastIndex` as it was.
`replace` replaces the first match, or every one, with what a function gives
or with a text in which `$$`, `$&`, `` $` ``, `$'`, `$n` and `$nn` stand for
parts of the match; a global replacement leaves `lastIndex` at the end of the
last match. `split` cuts at the matches, putting the groups between the
pieces; an empty match at either end of the text does not cut, and neither
does a match at the very start.

The global methods take every match at once, as the expression's `findAll`
finds them; `exec` and the iterator of `matchAll` search one match at a time
from `lastIndex`, moving on by one character after an empty match.
-/

namespace Script

namespace RegExp

open Eval

/-- Writes an own data property directly: its value if it exists, keeping its
attributes, else a new plain property. -/
def storeOwn (r : Nat) (k : Key) (v : Value) : Eval Unit :=
  modifyObj r fun o =>
    match o.props.find? k with
    | some p => { o with props := o.props.insert k { p with slot := .data v (match p.slot with
        | .data _ w => w
        | _ => true) } }
    | none => { o with props := o.props.insert k (Property.plain v) }

/-- The key `lastIndex`. -/
def lastIndexKey : Key := keyOf "lastIndex"

/-- A source as `toString` and `source` show it: every slash outside a class
that is not escaped gets a backslash, and line breaks are written as escapes. -/
def escapeSource (pattern : String) : String :=
  String.ofList (go pattern.toList false [] (pattern.length + 1))
where
  go : List Char → Bool → List Char → Nat → List Char
    | [], _, acc, _ => acc.reverse
    | cs, _, acc, 0 => acc.reverse ++ cs
    | '\\' :: c :: rest, inClass, acc, fuel + 1 => go rest inClass (c :: '\\' :: acc) fuel
    | '[' :: rest, _, acc, fuel + 1 => go rest true ('[' :: acc) fuel
    | ']' :: rest, _, acc, fuel + 1 => go rest false (']' :: acc) fuel
    | '/' :: rest, false, acc, fuel + 1 => go rest false ('/' :: '\\' :: acc) fuel
    | '\n' :: rest, inClass, acc, fuel + 1 => go rest inClass ('n' :: '\\' :: acc) fuel
    | c :: rest, inClass, acc, fuel + 1 => go rest inClass (c :: acc) fuel

/-- A new regular expression object for a source and flags, or the syntax
error of a pattern or flags that do not read. -/
def create (source : Str) (flags : String) : Eval Value := do
  match Regex.Flags.ofText flags with
  | none => throwSyntax ("Invalid flags supplied to RegExp constructor '" ++ flags ++ "'")
  | some f =>
    match Regex.Compiled.ofPattern source.text f with
    | .error msg => throwSyntax ("Invalid regular expression: /" ++ source.text ++ "/: " ++ msg)
    | .ok re =>
      let props := PropMap.ofList [(lastIndexKey, ⟨.data (.num 0) true, false, false⟩)]
      return .obj (← alloc ⟨.regexp ⟨source, f.text, re⟩, props, some (← intr).regexpProto, true, #[]⟩)

/-- The object and data of a regular expression value. -/
def regexpOf? (v : Value) : Eval (Option (Nat × RegExpData)) := do
  match v with
  | .obj r =>
    match (← getObj r).kind with
    | .regexp d => return some (r, d)
    | _ => return none
  | _ => return none

/-- The text of a group of a match, `undefined` for a group that took no part. -/
def groupValue (units : Array Nat) : Option (Nat × Nat) → Value
  | some (s, e) => .str (Str.ofUnits (units.extract s e))
  | none => .undefined

/-- The array `exec` gives for a match. -/
def matchArray (s : Str) (units : Array Nat) (caps : Regex.Captures) : Eval Value := do
  let arr ← newArray (caps.map (groupValue units))
  if let .obj r := arr then
    storeOwn r (keyOf "index") (Value.ofNat (((caps[0]?.join).map (·.1)).getD 0))
    storeOwn r (keyOf "input") (.str s)
  return arr

/-- Sets `lastIndex`, failing when it is read-only. -/
def setLastIndex (cb : Callbacks) (r : Nat) (n : Nat) : Eval Unit := do
  let ok ← set cb r lastIndexKey (Value.ofNat n)
  if !ok then throwType "Cannot assign to read only property 'lastIndex'"

/-- Sets `lastIndex` after a search from `index` that found the matches
from `first` to `last`: a sticky search that found nothing at `index`, or a
global one that found nothing, starts again from 0; a global or sticky one
that found something goes on from the end of the last match. Whether the
search counts as a success. -/
def updateLastIndex (cb : Callbacks) (r : Nat) (f : Regex.Flags) (index : Nat)
    (first last : Option Regex.Captures) : Eval Bool := do
  match first with
  | some caps =>
    if f.sticky && (Regex.spanOf caps).1 != index then
      setLastIndex cb r 0
      return false
  | none =>
    if f.sticky || f.global then setLastIndex cb r 0
    return false
  if f.global || f.sticky then
    setLastIndex cb r ((last.map fun caps => (Regex.spanOf caps).2).getD 0)
  return true

/-- Searches a text from the object's `lastIndex` when it is global or sticky,
else from the start, updating `lastIndex` as a search does: the match, if any. -/
def search (cb : Callbacks) (r : Nat) (re : Regex.Compiled) (units : Array Nat) :
    Eval (Option Regex.Captures) := do
  let moves := re.flags.global || re.flags.sticky
  let index ← if moves then toLength cb (← get cb r lastIndexKey) else pure 0
  let found := if index ≤ units.size then re.exec units index else none
  if ← updateLastIndex cb r re.flags index found found then return found
  return none

/-- `exec`: the match array, or `null`. -/
def exec (cb : Callbacks) (r : Nat) (re : Regex.Compiled) (s : Str) : Eval Value := do
  let units := s.units
  match ← search cb r re units with
  | some caps => matchArray s units caps
  | none => return .null

/-- A regular expression for a value where one is expected: the value itself,
or a new one with the value's text as its pattern. -/
def ofValue (cb : Callbacks) (v : Value) (flags : String) : Eval (Nat × RegExpData) := do
  match ← regexpOf? v with
  | some x => return x
  | none =>
    let source ← match v with
      | .undefined => pure Str.empty
      | _ => toStr cb v
    match ← regexpOf? (← create source flags) with
    | some x => return x
    | none => throwType "not a regular expression"

/-- The text a replacement template gives for a match: `$$`, `$&`, `` $` ``,
`$'`, `$n` and `$nn` stand for parts of the match, and any other `$` for itself. -/
def substitute (template : Str) (units : Array Nat) (caps : Regex.Captures) : Str :=
  let (start, stop) := ((caps[0]?.join).getD (0, 0))
  let part (s e : Nat) : List Nat := (units.extract s e).toList
  let group (i : Nat) : List Nat :=
    match caps[i]?.join with
    | some (s, e) => part s e
    | none => []
  let count := caps.size - 1
  let digit (c : Nat) : Option Nat := if 48 ≤ c && c ≤ 57 then some (c - 48) else none
  let rec go : List Nat → List Nat → Nat → List Nat
    | [], acc, _ => acc.reverse
    | cs, acc, 0 => acc.reverse ++ cs
    | 36 :: 36 :: rest, acc, fuel + 1 => go rest (36 :: acc) fuel
    | 36 :: 38 :: rest, acc, fuel + 1 => go rest ((part start stop).reverse ++ acc) fuel
    | 36 :: 96 :: rest, acc, fuel + 1 => go rest ((part 0 start).reverse ++ acc) fuel
    | 36 :: 39 :: rest, acc, fuel + 1 => go rest ((part stop units.size).reverse ++ acc) fuel
    | 36 :: c :: rest, acc, fuel + 1 =>
      match digit c with
      | some d =>
        let two : Option (Nat × List Nat) := match rest with
          | e :: more => (digit e).bind fun d2 =>
              let n := d * 10 + d2
              if 1 ≤ n && n ≤ count then some (n, more) else none
          | [] => none
        match two with
        | some (n, more) => go more ((group n).reverse ++ acc) fuel
        | none =>
          if 1 ≤ d && d ≤ count then go rest ((group d).reverse ++ acc) fuel
          else go (c :: rest) (36 :: acc) fuel
      | none => go (c :: rest) (36 :: acc) fuel
    | c :: rest, acc, fuel + 1 => go rest (c :: acc) fuel
  let us := template.units.toList
  Str.ofUnitList (go us [] (us.length + 1))

/-- The position after `i` that a search moves on to after an empty match. -/
def advance (unicode : Bool) (units : Array Nat) (i : Nat) : Nat :=
  if unicode && i + 1 < units.size then
    let u := units[i]!
    let next := units[i + 1]!
    if 0xD800 ≤ u && u < 0xDC00 && 0xDC00 ≤ next && next < 0xE000 then i + 2 else i + 1
  else i + 1

/-- `match` with a regular expression: `exec` for one that is not global,
else the texts of every match, with `lastIndex` back at 0. -/
def matchText (cb : Callbacks) (s : Str) (pattern : Value) : Eval Value := do
  let (r, d) ← ofValue cb pattern ""
  let re := d.compiled
  if !re.flags.global then return ← exec cb r re s
  let units := s.units
  let found := re.findAll units 0 none re.flags.sticky
  setLastIndex cb r 0
  if found.isEmpty then return .null
  newArray (found.map fun caps => groupValue units (caps[0]?.join)).toArray

/-- `search` with a regular expression. -/
def searchText (cb : Callbacks) (s : Str) (pattern : Value) : Eval Value := do
  let (r, d) ← ofValue cb pattern ""
  let before ← get cb r lastIndexKey
  setLastIndex cb r 0
  let found ← search cb r d.compiled s.units
  let _ ← set cb r lastIndexKey before
  match found with
  | some caps => return Value.ofNat (((caps[0]?.join).map (·.1)).getD 0)
  | none => return .num (-1)

/-- `replace` and `replaceAll` with a regular expression: every match of a
global one from the start, else the first from where a sticky one stands. -/
def replaceText (cb : Callbacks) (s : Str) (r : Nat) (re : Regex.Compiled) (replacement : Value) :
    Eval Value := do
  let units := s.units
  let callable ← isCallable replacement
  let template ← if callable then pure Str.empty else toStr cb replacement
  let index ← if re.flags.global then do
      setLastIndex cb r 0
      pure 0
    else if re.flags.sticky then toLength cb (← get cb r lastIndexKey)
    else pure 0
  let found := re.findAll units index (if re.flags.global then none else some 1) re.flags.sticky
  let found ← if ← updateLastIndex cb r re.flags index found.head? found.getLast? then pure found
    else pure []
  let mut out : Array Nat := #[]
  let mut next := 0
  for caps in found do
    let (start, stop) := (caps[0]?.join).getD (0, 0)
    let piece ← if callable then do
        let groups := (caps.toList.drop 1).map (groupValue units)
        let v ← cb.call replacement .undefined
          ([groupValue units (caps[0]?.join)] ++ groups ++ [Value.ofNat start, .str s])
        pure (← toStr cb v).units
      else pure (substitute template units caps).units
    out := out ++ units.extract next start ++ piece
    next := stop
  return .str (Str.ofUnits (out ++ units.extract next units.size))

/-- `split` with a regular expression. The pieces are cut at every match from
the start; an empty match at either end of the text does not cut, a match at
the very start leaves no piece before it, and the groups of each match come
after the piece before it. -/
def splitText (cb : Callbacks) (s : Str) (re : Regex.Compiled) (limitArg : Value) : Eval Value := do
  let limit ← match limitArg with
    | .undefined => pure none
    | v => pure (some (← toUint32 cb v))
  if limit == some 0 then return ← newArray #[]
  let units := s.units
  let found := re.findAll units 0 none false
  if units.isEmpty then
    return ← newArray (if found.isEmpty then #[.str s] else #[])
  let text (a b : Nat) : Value := .str (Str.ofUnits (units.extract a b))
  let full (out : Array Value) : Bool := limit == some out.size
  let mut out : Array Value := #[]
  let mut last := 0
  for caps in found do
    let (a, e) := (caps[0]?.join).getD (0, 0)
    if a == e && (a == 0 || a == units.size) then continue
    if last != a then out := out.push (text last a)
    else if last != 0 then out := out.push (text a a)
    last := e
    if full out then return ← newArray out
    for g in caps.toList.drop 1 do
      out := out.push (groupValue units g)
      if full out then return ← newArray out
  if full out then return ← newArray out
  newArray (out.push (text last units.size))

/-! ## The builtin functions -/

/-- The regular expression `this` is, for a method of `RegExp.prototype`. -/
def thisRegExp (this : Value) (method : String) : Eval (Nat × RegExpData) := do
  match ← regexpOf? this with
  | some x => return x
  | none =>
    throwType ("Method RegExp.prototype." ++ method ++ " called on incompatible receiver " ++ primitiveText this)

/-- An iterator over the matches of an expression in a text, searching with a
copy of the expression that starts at its `lastIndex`. -/
def matchAllIterator (cb : Callbacks) (r : Nat) (s : Str) : Eval Value := do
  match (← getObj r).kind with
  | .regexp d =>
    let start ← toLength cb (← get cb r lastIndexKey)
    let props := PropMap.ofList [(lastIndexKey, ⟨.data (Value.ofNat start) true, false, false⟩)]
    let copy ← alloc ⟨.regexp d, props, some (← intr).regexpProto, true, #[]⟩
    let f := d.compiled.flags
    return .obj (← alloc (Obj.ofKind (.regexpIter (.obj copy) s f.global f.unicode false)
      (some (← intr).regexpIterProto)))
  | _ => throwType "not a regular expression"

/-- The `next` of an iterator over matches. -/
def iterNext (cb : Callbacks) (this : Value) : Eval Value := do
  let fail : Eval Value := throwType ("Method RegExp String Iterator.prototype.next called on incompatible receiver " ++
    primitiveText this)
  match this with
  | .obj it =>
    let o ← getObj it
    match o.kind with
    | .regexpIter rx s global unicode done =>
      if done then return ← iterResultObject .undefined true
      match ← regexpOf? rx with
      | none => fail
      | some (r, d) =>
        let m ← exec cb r d.compiled s
        match m with
        | .obj mr =>
          if !global then
            setObj it { o with kind := .regexpIter rx s global unicode true }
            return ← iterResultObject m false
          let matched ← toStr cb (← get cb mr (Key.ofIndex 0))
          if matched.isEmpty then
            let last ← toLength cb (← get cb r lastIndexKey)
            setLastIndex cb r (advance unicode s.units last)
          iterResultObject m false
        | _ =>
          setObj it { o with kind := .regexpIter rx s global unicode true }
          iterResultObject .undefined true
    | _ => fail
  | _ => fail

/-- The `RegExp` constructor. -/
def construct (cb : Callbacks) (args : List Value) (newTarget : Option Value) : Eval Value := do
  let pattern := arg args 0
  let flagsArg := arg args 1
  let existing ← regexpOf? pattern
  let i ← intr
  if newTarget.isNone && existing.isSome && flagsArg.isUndefined then
    let ctor ← getV cb pattern (keyOf "constructor")
    let own ← get cb i.regexpProto (keyOf "constructor")
    if ctor.ref? == own.ref? && ctor.ref?.isSome then return pattern
  let (source, flags) ← match existing with
    | some (_, d) => pure (d.source, ← if flagsArg.isUndefined then pure d.flags else toText cb flagsArg)
    | none => do
      let src ← if pattern.isUndefined then pure Str.empty else toStr cb pattern
      let fl ← if flagsArg.isUndefined then pure "" else toText cb flagsArg
      pure (src, fl)
  let v ← create source flags
  if let some (.obj nt) := newTarget then
    match ← get cb nt (keyOf "prototype") with
    | .obj p => if p != i.regexpProto then modifyObj (v.ref?.getD 0) fun o => { o with proto := some p }
    | _ => pure ()
  return v

/-- Runs a function of `RegExp` or `RegExp.prototype`. -/
def run (cb : Callbacks) (f : RegExpFn) (this : Value) (args : List Value) (newTarget : Option Value) :
    Eval Value := do
  let a0 := arg args 0
  let flag (name : String) (pick : Regex.Flags → Bool) : Eval Value := do
    match ← regexpOf? this with
    | some (_, d) => return .bool (pick d.compiled.flags)
    | none =>
      if this.ref? == some (← intr).regexpProto then return .undefined
      throwType ("Method RegExp.prototype." ++ name ++ " getter called on incompatible receiver " ++
        primitiveText this)
  match f with
  | .ctor => construct cb args newTarget
  | .exec =>
    let (r, d) ← thisRegExp this "exec"
    exec cb r d.compiled (← toStr cb a0)
  | .test =>
    let (r, d) ← thisRegExp this "test"
    let m ← exec cb r d.compiled (← toStr cb a0)
    return .bool !m.isNullish
  | .toString =>
    match this with
    | .obj r =>
      let src ← toStr cb (← get cb r (keyOf "source"))
      let fl ← toStr cb (← get cb r (keyOf "flags"))
      return .str (Str.ofString "/" ++ src ++ Str.ofString "/" ++ fl)
    | _ => throwType ("Method RegExp.prototype.toString called on incompatible receiver " ++ primitiveText this)
  | .compile =>
    let (r, _) ← thisRegExp this "compile"
    let (source, flags) ← match ← regexpOf? a0 with
      | some (_, d) => pure (d.source, d.flags)
      | none => do
        let src ← if a0.isUndefined then pure Str.empty else toStr cb a0
        let fl ← if (arg args 1).isUndefined then pure "" else toText cb (arg args 1)
        pure (src, fl)
    match ← regexpOf? (← create source flags) with
    | some (_, d) =>
      modifyObj r fun o => { o with kind := .regexp d }
      setLastIndex cb r 0
    | none => pure ()
    return this
  | .source =>
    match ← regexpOf? this with
    | some (_, d) => return Value.ofString (if d.source.isEmpty then "(?:)" else escapeSource d.source.text)
    | none =>
      if this.ref? == some (← intr).regexpProto then return Value.ofString "(?:)"
      throwType ("Method RegExp.prototype.source getter called on incompatible receiver " ++ primitiveText this)
  | .flags =>
    match this with
    | .obj r =>
      let mut out := ""
      for (name, c) in [("hasIndices", 'd'), ("global", 'g'), ("ignoreCase", 'i'), ("multiline", 'm'),
          ("dotAll", 's'), ("unicode", 'u'), ("sticky", 'y')] do
        if (← get cb r (keyOf name)).truthy then out := out.push c
      return Value.ofString out
    | _ => throwType ("Method RegExp.prototype.flags getter called on incompatible receiver " ++ primitiveText this)
  | .global => flag "global" (·.global)
  | .ignoreCase => flag "ignoreCase" (·.ignoreCase)
  | .multiline => flag "multiline" (·.multiline)
  | .sticky => flag "sticky" (·.sticky)
  | .unicode => flag "unicode" (·.unicode)
  | .dotAll => flag "dotAll" (·.dotAll)
  | .hasIndices => flag "hasIndices" fun _ => false
  | .match =>
    let (_, _) ← thisRegExp this "[Symbol.match]"
    matchText cb (← toStr cb a0) this
  | .matchAll =>
    let (r, _) ← thisRegExp this "[Symbol.matchAll]"
    matchAllIterator cb r (← toStr cb a0)
  | .replace =>
    let (r, d) ← thisRegExp this "[Symbol.replace]"
    replaceText cb (← toStr cb a0) r d.compiled (arg args 1)
  | .search =>
    let (_, _) ← thisRegExp this "[Symbol.search]"
    searchText cb (← toStr cb a0) this
  | .split =>
    let (_, d) ← thisRegExp this "[Symbol.split]"
    splitText cb (← toStr cb a0) d.compiled (arg args 1)

end RegExp

end Script

end Userland
