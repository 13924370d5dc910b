import Userland.Script.Letters
import Userland.Text.Casing
import Userland.Script.Lib.RegExp

namespace Userland

/-! # Strings

The methods of `String.prototype` read their text in UTF-16 units: indices,
lengths and searches count units, and a lone surrogate stays what it is.
Splitting by a text, trimming, changing case, comparing and normalizing work
on the text's characters instead, a lone surrogate standing as U+FFFD there,
and splitting by the empty text splits between characters, not units.

`match`, `matchAll`, `replace`, `replaceAll`, `search` and `split` hand the
work to their argument's method of the same well-known symbol when it has
one, as regular expressions do; otherwise they work with the argument's text,
`match`, `matchAll` and `search` taking it as a pattern.
-/

namespace Script

namespace Strings

open Eval

/-- The text `this` stands for, failing on `undefined` and `null`. -/
def thisText (cb : Callbacks) (this : Value) (method : String) : Eval Str := do
  if this.isNullish then
    throwType ("String.prototype." ++ method ++ " called on null or undefined")
  toStr cb this

/-- Where a needle first stands in a haystack at or after a place, in units. -/
def findUnits (hay needle : Array Nat) (start : Nat) : Option Nat :=
  let n := needle.size
  if start + n > hay.size then none
  else (List.range (hay.size - n + 1 - start)).findSome? fun k =>
    let i := start + k
    if hay.extract i (i + n) == needle then some i else none

/-- Where a needle last stands in a haystack at or before a place, in units. -/
def findLastUnits (hay needle : Array Nat) (start : Nat) : Option Nat :=
  let n := needle.size
  if hay.size < n then none
  else
    let top := min start (hay.size - n)
    (List.range (top + 1)).reverse.findSome? fun i =>
      if hay.extract i (i + n) == needle then some i else none

/-- An integer argument clamped between 0 and a length; `undefined` gives a default. -/
def clampArg (cb : Callbacks) (v : Value) (len dflt : Nat) : Eval Nat := do
  if v.isUndefined then return dflt
  let x ← toIntegerOrInf cb v
  if x ≤ 0 then return 0
  if x ≥ Float.ofNat len then return len
  return x.toUInt64.toNat

/-- The whitespace that trimming removes. -/
def isTrimmed (u : Nat) : Bool :=
  u == 0x20 || u == 0x09 || u == 0x0A || u == 0x0B || u == 0x0C || u == 0x0D || u == 0xA0 ||
  u == 0x1680 || (0x2000 ≤ u && u ≤ 0x200A) || u == 0x2028 || u == 0x2029 || u == 0x202F ||
  u == 0x205F || u == 0x3000 || u == 0xFEFF

/-- The text with lone surrogates as U+FFFD, trimmed at either end. -/
def trimmed (s : Str) (start stop : Bool) : Str :=
  let us := (Str.ofString s.lossy).units.toList
  let us := if start then us.dropWhile isTrimmed else us
  let us := if stop then (us.reverse.dropWhile isTrimmed).reverse else us
  Str.ofUnitList us

/-- Splits a text at each occurrence of a separator, into at most `limit`
pieces when one is given; the empty separator splits between characters. -/
def splitText (s sep : String) (limit : Option Nat) : List String :=
  if sep.isEmpty then
    let cs := s.toList.map Char.toString
    match limit with
    | some n => if n ≥ cs.length then cs else cs.take (n - 1) ++ [String.join (cs.drop (n - 1))]
    | none => cs
  else
    let parts := s.splitOn sep
    match limit with
    | some n => if n ≥ parts.length then parts else parts.take (n - 1) ++ [sep.intercalate (parts.drop (n - 1))]
    | none => parts

/-- `split` by a text, as the engine does it on characters. -/
def splitBy (s : Str) (sep : Str) (limitArg : Value) (cb : Callbacks) : Eval Value := do
  let limit ← if limitArg.isUndefined then pure none else pure (some (← toUint32 cb limitArg))
  if limit == some 0 then return ← newArray #[]
  let str := s.lossy
  let lim := limit.map fun n => min n str.utf8ByteSize
  let pieces := match lim with
    | some 0 => []
    | some n => (splitText str sep.lossy (some (n + 1))).take n
    | none => splitText str sep.lossy none
  let pieces := if str.isEmpty && sep.isEmpty then [] else pieces
  newArray (pieces.map Value.ofString).toArray

/-- The text a replacement template gives for a match of a text: `$$`, `$&`,
`` $` `` and `$'`. -/
def expand (template : Str) (hay : Array Nat) (at_ len : Nat) : Str :=
  let rec go : List Nat → List Nat → Nat → List Nat
    | [], acc, _ => acc.reverse
    | cs, acc, 0 => acc.reverse ++ cs
    | 36 :: 36 :: rest, acc, fuel + 1 => go rest (36 :: acc) fuel
    | 36 :: 38 :: rest, acc, fuel + 1 => go rest ((hay.extract at_ (at_ + len)).toList.reverse ++ acc) fuel
    | 36 :: 96 :: rest, acc, fuel + 1 => go rest ((hay.extract 0 at_).toList.reverse ++ acc) fuel
    | 36 :: 39 :: rest, acc, fuel + 1 => go rest ((hay.extract (at_ + len) hay.size).toList.reverse ++ acc) fuel
    | c :: rest, acc, fuel + 1 => go rest (c :: acc) fuel
  let us := template.units.toList
  Str.ofUnitList (go us [] (us.length + 1))

/-- Replaces the first occurrence of a text, or every one. -/
def replaceBy (cb : Callbacks) (s : Str) (pattern : Str) (replacement : Value) (all : Bool) : Eval Value := do
  let hay := s.units
  let needle := pattern.units
  let callable ← isCallable replacement
  let template ← if callable then pure Str.empty else toStr cb replacement
  let mut found : Array Nat := #[]
  let mut pos := 0
  for _ in [0:hay.size + 2] do
    match findUnits hay needle pos with
    | none => break
    | some i =>
      found := found.push i
      if !all then break
      pos := i + max needle.size 1
      if pos > hay.size then break
  if found.isEmpty then return .str s
  let mut out : Array Nat := #[]
  let mut last := 0
  for i in found do
    let piece ← if callable then do
        let v ← cb.call replacement .undefined [.str pattern, Value.ofNat i, .str s]
        pure (← toStr cb v).units
      else pure (expand template hay i needle.size).units
    out := out ++ hay.extract last i ++ piece
    last := i + needle.size
  return .str (Str.ofUnits (out ++ hay.extract last hay.size))

/-- Pads a text to a length with a filler, before or after it. -/
def pad (cb : Callbacks) (s : Str) (args : List Value) (atStart : Bool) : Eval Value := do
  let target ← toLength cb (arg args 0)
  let filler ← match arg args 1 with
    | .undefined => pure (Str.ofString " ")
    | v => toStr cb v
  let len := s.length
  if target ≤ len || filler.isEmpty then return .str s
  let fill := filler.units
  let padding := Str.ofUnits ((Array.range (target - len)).map fun i => fill[i % fill.size]!)
  return .str (if atStart then padding ++ s else s ++ padding)

/-- Calls the method of a well-known symbol an argument has, if it has one. -/
def delegate (cb : Callbacks) (v : Value) (sym : Nat) (args : List Value) : Eval (Option Value) := do
  if v.isNullish then return none
  match ← getMethod cb v (symKey sym) with
  | some f => return some (← cb.call f v args)
  | none => return none

/-- The code points of a text as units, a lone surrogate counting as itself. -/
def isWellFormed (us : Array Nat) : Bool := Id.run do
  let mut i := 0
  for _ in [0:us.size] do
    if i ≥ us.size then break
    let u := us[i]!
    if Str.isHigh u then
      match us[i + 1]? with
      | some lo => if Str.isLow lo then i := i + 2 else return false
      | none => return false
    else if Str.isLow u then return false
    else i := i + 1
  return true

/-- The `String` constructor. -/
def construct (cb : Callbacks) (args : List Value) (newTarget : Option Value) : Eval Value := do
  let s ← match args, newTarget with
    | [], _ => pure Str.empty
    | .sym i :: _, none =>
      pure (Str.ofString "Symbol(" ++ ((← symbolDescription i).getD Str.empty) ++ Str.ofString ")")
    | v :: _, _ => toStr cb v
  match newTarget with
  | none => return .str s
  | some nt =>
    let i ← intr
    let proto ← match nt with
      | .obj n =>
        match ← get cb n (keyOf "prototype") with
        | .obj p => pure p
        | _ => pure i.stringProto
      | _ => pure i.stringProto
    let props := PropMap.ofList [(lengthKey, Property.fixed (Value.ofNat s.length))]
    return .obj (← alloc ⟨.boxed (.str s), props, some proto, true, #[]⟩)

/-- Runs a function of `String` or `String.prototype`. -/
def run (cb : Callbacks) (f : StringFn) (this : Value) (args : List Value) (newTarget : Option Value) :
    Eval Value := do
  let a0 := arg args 0
  let a1 := arg args 1
  match f with
  | .ctor => construct cb args newTarget
  | .fromCharCode =>
    let us ← args.mapM fun v => do pure ((← toUint32 cb v) % 65536)
    return .str (Str.ofUnitList us)
  | .fromCodePoint =>
    let mut us : Array Nat := #[]
    for v in args do
      let x ← toNumber cb v
      if x.isNaN || x < 0 || x > 1114111 || x.floor != x then
        throwRange ("Invalid code point " ++ (← toText cb v))
      let c := x.toUInt64.toNat
      if c ≥ 0x10000 then
        us := us.push (0xD800 + (c - 0x10000) / 0x400) |>.push (0xDC00 + (c - 0x10000) % 0x400)
      else us := us.push c
    return .str (Str.ofUnits us)
  | .raw =>
    let cooked ← toObject a0
    let raw ← toObject (← get cb cooked (keyOf "raw"))
    let len ← lengthOf cb raw
    let mut out := Str.empty
    for i in [0:len] do
      out := out ++ (← toStr cb (← get cb raw (Key.ofIndex i)))
      if i + 1 < len then
        match args[i + 1]? with
        | some v => out := out ++ (← toStr cb v)
        | none => pure ()
    return .str out
  | .match =>
    if this.isNullish then throwType "String.prototype.match called on null or undefined"
    match ← delegate cb a0 WellKnown.matchSym [this] with
    | some v => return v
    | none => RegExp.matchText cb (← toStr cb this) a0
  | .matchAll =>
    if this.isNullish then throwType "String.prototype.matchAll called on null or undefined"
    if let some (_, d) ← RegExp.regexpOf? a0 then
      if !d.compiled.flags.global then
        throwType "String.prototype.matchAll called with a non-global RegExp argument"
    match ← delegate cb a0 WellKnown.matchAll [this] with
    | some v => return v
    | none =>
      let s ← toStr cb this
      let (r, _) ← RegExp.ofValue cb a0 "g"
      RegExp.matchAllIterator cb r s
  | .replace | .replaceAll =>
    if this.isNullish then throwType "String.prototype.replace called on null or undefined"
    let all := match f with
      | .replaceAll => true
      | _ => false
    if all then
      if let some (_, d) ← RegExp.regexpOf? a0 then
        if !d.compiled.flags.global then
          throwType "replaceAll must be called with a global RegExp"
    match ← delegate cb a0 WellKnown.replace [this, a1] with
    | some v => return v
    | none => replaceBy cb (← toStr cb this) (← toStr cb a0) a1 all
  | .search =>
    if this.isNullish then throwType "String.prototype.search called on null or undefined"
    match ← delegate cb a0 WellKnown.search [this] with
    | some v => return v
    | none => RegExp.searchText cb (← toStr cb this) a0
  | .split =>
    if this.isNullish then throwType "String.prototype.split called on null or undefined"
    match ← delegate cb a0 WellKnown.split [this, a1] with
    | some v => return v
    | none =>
      let s ← toStr cb this
      let sep ← toStr cb a0
      splitBy s sep a1 cb
  | _ =>
  let name := match f with
    | .at => "at" | .charAt => "charAt" | .charCodeAt => "charCodeAt" | .codePointAt => "codePointAt"
    | .concat => "concat" | .endsWith => "endsWith" | .includes => "includes" | .indexOf => "indexOf"
    | .lastIndexOf => "lastIndexOf" | .localeCompare => "localeCompare" | .normalize => "normalize"
    | .padEnd => "padEnd" | .padStart => "padStart" | .repeat => "repeat" | .slice => "slice"
    | .startsWith => "startsWith" | .substr => "substr" | .substring => "substring"
    | .toLowerCase => "toLowerCase" | .toUpperCase => "toUpperCase" | .trim => "trim"
    | .trimEnd => "trimEnd" | .trimStart => "trimStart" | _ => "toString"
  match f with
  | .toString | .valueOf =>
    match this with
    | .str s => return .str s
    | .obj r =>
      match (← getObj r).kind with
      | .boxed (.str s) => return .str s
      | _ => throwType ("String.prototype." ++ name ++ " requires that 'this' be a String")
    | _ => throwType ("String.prototype." ++ name ++ " requires that 'this' be a String")
  | _ =>
  let s ← thisText cb this name
  let units := s.units
  let len := units.size
  match f with
  | .at =>
    let x ← toIntegerOrInf cb a0
    let k := if x < 0 then Float.ofNat len + x else x
    if k < 0 || k ≥ Float.ofNat len then return .undefined
    return .str (Str.ofUnits #[units[k.toUInt64.toNat]!])
  | .charAt =>
    let x ← toIntegerOrInf cb a0
    if x < 0 || x ≥ Float.ofNat len then return .str Str.empty
    return .str (Str.ofUnits #[units[x.toUInt64.toNat]!])
  | .charCodeAt =>
    let x ← toIntegerOrInf cb a0
    if x < 0 || x ≥ Float.ofNat len then return .num Number.nan
    return Value.ofNat units[x.toUInt64.toNat]!
  | .codePointAt =>
    let x ← toIntegerOrInf cb a0
    if x < 0 || x ≥ Float.ofNat len then return .undefined
    let i := x.toUInt64.toNat
    let u := units[i]!
    match units[i + 1]? with
    | some lo =>
      if Str.isHigh u && Str.isLow lo then return Value.ofNat (Str.pairPoint u lo)
      return Value.ofNat u
    | none => return Value.ofNat u
  | .concat =>
    let mut out := s
    for v in args do out := out ++ (← toStr cb v)
    return .str out
  | .endsWith | .includes | .startsWith =>
    if (← RegExp.regexpOf? a0).isSome then
      throwType ("First argument to String.prototype." ++ name ++ " must not be a regular expression")
    let needle := (← toStr cb a0).units
    match f with
    | .includes =>
      let start ← clampArg cb a1 len 0
      return .bool (findUnits units needle start).isSome
    | .startsWith =>
      let start ← clampArg cb a1 len 0
      return .bool (start + needle.size ≤ len && units.extract start (start + needle.size) == needle)
    | _ =>
      let stop ← clampArg cb a1 len len
      return .bool (stop ≥ needle.size && units.extract (stop - needle.size) stop == needle)
  | .indexOf =>
    let needle := (← toStr cb a0).units
    let start ← clampArg cb a1 len 0
    match findUnits units needle start with
    | some i => return Value.ofNat i
    | none => return .num (-1)
  | .lastIndexOf =>
    let needle := (← toStr cb a0).units
    let x ← toNumber cb a1
    let start ← if x.isNaN then pure len else clampArg cb a1 len len
    match findLastUnits units needle start with
    | some i => return Value.ofNat i
    | none => return .num (-1)
  | .localeCompare =>
    let other ← toStr cb a0
    return .num (Number.ofInt (Letters.collate s.lossy other.lossy))
  | .normalize =>
    let form ← if a0.isUndefined then pure "NFC" else toText cb a0
    if !(["NFC", "NFD", "NFKC", "NFKD"].contains form) then
      throwRange "The normalization form should be one of NFC, NFD, NFKC, NFKD"
    return Value.ofString s.lossy
  | .padEnd => pad cb s args false
  | .padStart => pad cb s args true
  | .repeat =>
    let x ← toIntegerOrInf cb a0
    if x < 0 || x.isInf then throwRange "Invalid count value"
    let n := x.toUInt64.toNat
    if n * len > 536870888 then throwRange "Invalid string length"
    return .str (Str.concat (List.replicate n s))
  | .slice =>
    let a ← if a0.isUndefined then pure 0 else pure (relativeIndex (← toIntegerOrInf cb a0) len)
    let b ← if a1.isUndefined then pure len else pure (relativeIndex (← toIntegerOrInf cb a1) len)
    return .str (if a < b then Str.ofUnits (units.extract a b) else Str.empty)
  | .substr =>
    let a ← if a0.isUndefined then pure 0 else pure (relativeIndex (← toIntegerOrInf cb a0) len)
    let n ← if a1.isUndefined then pure (len - a) else do
      let x ← toIntegerOrInf cb a1
      pure (if x ≤ 0 then 0 else min x.toUInt64.toNat (len - a))
    return .str (Str.ofUnits (units.extract a (a + n)))
  | .substring =>
    let a ← clampArg cb a0 len 0
    let b ← clampArg cb a1 len len
    return .str (Str.ofUnits (units.extract (min a b) (max a b)))
  | .toLowerCase => return Value.ofString (Casing.lowerText s.lossy)
  | .toUpperCase => return Value.ofString (Casing.upperText s.lossy)
  | .trim => return .str (trimmed s true true)
  | .trimEnd => return .str (trimmed s false true)
  | .trimStart => return .str (trimmed s true false)
  | .iterator =>
    return .obj (← alloc (Obj.ofKind (.stringIter s 0 false) (some (← intr).stringIterProto)))
  | .isWellFormed => return .bool (isWellFormed units)
  | .toWellFormed =>
    if isWellFormed units then return .str s
    return Value.ofString s.lossy
  | _ => return .undefined

end Strings

end Script

end Userland
