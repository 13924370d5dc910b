import Userland.Script.Operators
import Userland.Elementary.Trig

namespace Userland

/-! # Numbers, booleans, symbols and `Math`

`Number` converts to numbers and prints them in fixed, exponential and
precision forms and in other radixes; `BigInt` converts to big integers,
never from a number with a fraction, and prints them in any radix from 2 to
36; `Boolean` converts to booleans;
`Symbol` makes symbols, or finds them by key in the registry `Symbol.for`
shares. `Math` holds the functions of real analysis on doubles, computed by
the step-by-step algorithms of the elementary functions, with the engine's
own rounding (`round` goes half up, keeping negative zero) and its `hypot`,
which scales by the largest argument and sums with compensation.
-/

namespace Script

namespace Numbers

open Eval

/-- The number a value is, itself or boxed, for the methods of `Number.prototype`. -/
def thisNumber (this : Value) (method : String) : Eval Float := do
  match this with
  | .num x => return x
  | .obj r =>
    match (← getObj r).kind with
    | .boxed (.num x) => return x
    | _ => throwType ("Number.prototype." ++ method ++ " requires that 'this' be a Number")
  | _ => throwType ("Number.prototype." ++ method ++ " requires that 'this' be a Number")

/-- The prototype a constructed wrapper gets from `new.target`. -/
def protoOf (cb : Callbacks) (newTarget : Value) (fallback : Nat) : Eval Nat := do
  match newTarget with
  | .obj nt =>
    match ← get cb nt (keyOf "prototype") with
    | .obj p => return p
    | _ => return fallback
  | _ => return fallback

/-- A digits argument between bounds, or a range error. -/
def digitsArg (cb : Callbacks) (v : Value) (lo hi : Nat) (msg : String) : Eval Nat := do
  let d ← toIntegerOrInf cb v
  if d < Float.ofNat lo || d > Float.ofNat hi then throwRange msg
  return d.toUInt64.toNat

/-- Whether a double is an integer. -/
def isIntegral (x : Float) : Bool := !x.isNaN && !x.isInf && x.floor == x

/-- Runs a function of `Number` or `Number.prototype`. -/
def run (cb : Callbacks) (f : NumberFn) (this : Value) (args : List Value) (newTarget : Option Value) :
    Eval Value := do
  let a0 := arg args 0
  match f with
  | .ctor =>
    let x ← if args.isEmpty then pure 0 else
      match ← toNumeric cb a0 with
      | .big n => pure (Big.toFloat n)
      | .num x => pure x
      | _ => pure Number.nan
    match newTarget with
    | some nt =>
      let proto ← protoOf cb nt (← intr).numberProto
      return .obj (← alloc (Obj.ofKind (.boxed (.num x)) (some proto)))
    | none => return .num x
  | .isFinite =>
    match a0 with
    | .num x => return .bool (!x.isNaN && !x.isInf)
    | _ => return .bool false
  | .isInteger =>
    match a0 with
    | .num x => return .bool (isIntegral x)
    | _ => return .bool false
  | .isNaN =>
    match a0 with
    | .num x => return .bool x.isNaN
    | _ => return .bool false
  | .isSafeInteger =>
    match a0 with
    | .num x => return .bool (isIntegral x && x.abs ≤ 9007199254740991)
    | _ => return .bool false
  | .toExponential =>
    let x ← thisNumber this "toExponential"
    let d ← toIntegerOrInf cb a0
    if x.isNaN || x.isInf then return Value.ofString (Number.text x)
    if d < 0 || d > 100 then throwRange "toExponential() argument must be between 0 and 100"
    let digits := if a0.isUndefined then none else some d.toUInt64.toNat
    return Value.ofString (Number.toExponential x digits)
  | .toFixed =>
    let x ← thisNumber this "toFixed"
    let d ← digitsArg cb a0 0 100 "toFixed() digits argument must be between 0 and 100"
    return Value.ofString (Number.toFixed x d)
  | .toPrecision =>
    let x ← thisNumber this "toPrecision"
    if a0.isUndefined then return Value.ofString (Number.text x)
    let p ← toIntegerOrInf cb a0
    if x.isNaN || x.isInf then return Value.ofString (Number.text x)
    if p < 1 || p > 100 then throwRange "toPrecision() argument must be between 1 and 100"
    return Value.ofString (Number.toPrecision x p.toUInt64.toNat)
  | .toString =>
    let x ← thisNumber this "toString"
    let radix ← if a0.isUndefined then pure 10 else toIntegerOrInf cb a0
    if radix < 2 || radix > 36 then throwRange "toString() radix argument must be between 2 and 36"
    return Value.ofString (Number.radixText x radix.toUInt64.toNat)
  | .toLocaleString => return Value.ofString (Number.text (← thisNumber this "toLocaleString"))
  | .valueOf => return .num (← thisNumber this "valueOf")

/-- Runs a function of `Boolean` or `Boolean.prototype`. -/
def boolean (cb : Callbacks) (f : BooleanFn) (this : Value) (args : List Value) (newTarget : Option Value) :
    Eval Value := do
  let thisBool (method : String) : Eval Bool := do
    match this with
    | .bool b => return b
    | .obj r =>
      match (← getObj r).kind with
      | .boxed (.bool b) => return b
      | _ => throwType ("Boolean.prototype." ++ method ++ " requires that 'this' be a Boolean")
    | _ => throwType ("Boolean.prototype." ++ method ++ " requires that 'this' be a Boolean")
  match f with
  | .ctor =>
    let b := (arg args 0).truthy
    match newTarget with
    | some nt =>
      let proto ← protoOf cb nt (← intr).booleanProto
      return .obj (← alloc (Obj.ofKind (.boxed (.bool b)) (some proto)))
    | none => return .bool b
  | .toString => return Value.ofString (if ← thisBool "toString" then "true" else "false")
  | .valueOf => return .bool (← thisBool "valueOf")

/-- The symbol a value is, itself or boxed. -/
def thisSymbol (this : Value) (method : String) : Eval Nat := do
  match this with
  | .sym i => return i
  | .obj r =>
    match (← getObj r).kind with
    | .boxed (.sym i) => return i
    | _ => throwType ("Symbol.prototype." ++ method ++ " requires that 'this' be a Symbol")
  | _ => throwType ("Symbol.prototype." ++ method ++ " requires that 'this' be a Symbol")

/-- Runs a function of `Symbol` or `Symbol.prototype`. -/
def symbol (cb : Callbacks) (f : SymbolFn) (this : Value) (args : List Value) (newTarget : Option Value) :
    Eval Value := do
  let a0 := arg args 0
  match f with
  | .ctor =>
    if newTarget.isSome then throwType "Symbol is not a constructor"
    let desc ← if a0.isUndefined then pure none else pure (some (← toStr cb a0))
    return .sym (← newSymbol desc)
  | .for =>
    let key ← toStr cb a0
    match (← realm).registry.lookup key with
    | some i => return .sym i
    | none =>
      let i ← newSymbol (some key)
      modifyRealm fun s => { s with registry := (key, i) :: s.registry }
      return .sym i
  | .keyFor =>
    match a0 with
    | .sym i =>
      match (← realm).registry.find? (·.2 == i) with
      | some (k, _) => return .str k
      | none => return .undefined
    | _ => throwType (primitiveText a0 ++ " is not a symbol")
  | .toString =>
    let i ← thisSymbol this "toString"
    let d := (← symbolDescription i).getD Str.empty
    return .str (Str.ofString "Symbol(" ++ d ++ Str.ofString ")")
  | .valueOf => return .sym (← thisSymbol this "valueOf")
  | .description =>
    let i ← thisSymbol this "description"
    match ← symbolDescription i with
    | some d => return .str d
    | none => return .undefined
  | .toPrimitive => return .sym (← thisSymbol this "[Symbol.toPrimitive]")

/-! ## Big integers -/

/-- Converts a value to a big integer: booleans are 0 and 1, a text must name
one, and anything else is an error. -/
def toBigInt (cb : Callbacks) (v : Value) : Eval Int := do
  match ← toPrimitive cb v .number with
  | .big n => return n
  | .bool b => return if b then 1 else 0
  | .str s =>
    match Big.ofText s.text with
    | some n => return n
    | none => throwSyntax ("Cannot convert " ++ s.lossy ++ " to a BigInt")
  | .sym _ => throwType "Cannot convert Symbol to a BigInt"
  | p => throwType ("Cannot convert " ++ primitiveText p ++ " to a BigInt")

/-- The big integer a value is, itself or boxed, for the methods of `BigInt.prototype`. -/
def thisBigInt (this : Value) (method : String) : Eval Int := do
  match this with
  | .big n => return n
  | .obj r =>
    match (← getObj r).kind with
    | .boxed (.big n) => return n
    | _ => throwType ("BigInt.prototype." ++ method ++ " requires that 'this' be a BigInt")
  | _ => throwType ("BigInt.prototype." ++ method ++ " requires that 'this' be a BigInt")

/-- A count of bits for `BigInt.asIntN` and `BigInt.asUintN`: a whole number
from 0 to 2^53 - 1. -/
def bitsArg (cb : Callbacks) (v : Value) : Eval Nat := do
  let d ← toIntegerOrInf cb v
  if d < 0 || d > 9007199254740991 then throwRange "Invalid value: not (convertible to) a safe integer"
  return d.toUInt64.toNat

/-- Runs a function of `BigInt` or `BigInt.prototype`. -/
def bigint (cb : Callbacks) (f : BigIntFn) (this : Value) (args : List Value) (newTarget : Option Value) :
    Eval Value := do
  let a0 := arg args 0
  match f with
  | .ctor =>
    if newTarget.isSome then throwType "BigInt is not a constructor"
    if args.isEmpty then return .big 0
    match ← toPrimitive cb a0 .number with
    | .num x =>
      match Big.ofWholeFloat x with
      | some n => return .big n
      | none => throwRange ("Cannot convert " ++ Number.text x ++ " to a BigInt")
    | p => return .big (← toBigInt cb p)
  | .asIntN =>
    let bits ← bitsArg cb a0
    let n ← toBigInt cb (arg args 1)
    return .big (Big.asIntN bits n)
  | .asUintN =>
    let bits ← bitsArg cb a0
    let n ← toBigInt cb (arg args 1)
    return .big (Big.asUintN bits n)
  | .toString =>
    let n ← thisBigInt this "toString"
    let radix ← if (arg args 0).isUndefined then pure 10 else toIntegerOrInf cb a0
    if radix < 2 || radix > 36 then throwRange "toString() radix argument must be between 2 and 36"
    return Value.ofString (Big.text radix.toUInt64.toNat n)
  | .toLocaleString => return Value.ofString (toString (← thisBigInt this "toLocaleString"))
  | .valueOf => return .big (← thisBigInt this "valueOf")

/-! ## Math -/

/-- `Math.round`: half up, keeping negative zero. -/
def round (x : Float) : Float :=
  if x.isNaN || x.isInf then x
  else if x == 0 then x
  else
    let t := if x < 0 then -((-x).floor) else x.floor
    if x ≥ 0 then (if x - t ≥ 0.5 then t + 1 else t)
    else if t - x > 0.5 then t - 1
    else t

/-- `Math.hypot` over the arguments' numbers. -/
def hypot (xs : List Float) : Float := Id.run do
  let mut mx : Float := 0
  let mut nan := false
  let mut abs : Array Float := #[]
  for x in xs do
    if x.isNaN then nan := true
    else
      let a := x.abs
      if a > mx then mx := a
      abs := abs.push a
  if mx.isInf then return Number.infinity
  if nan then return Number.nan
  if mx == 0 then return 0
  let mut sum : Float := 0
  let mut comp : Float := 0
  for a in abs do
    let n := a / mx
    let summand := n * n - comp
    let pre := sum + summand
    comp := (pre - sum) - summand
    sum := pre
  return sum.sqrt * mx

/-- The larger of two doubles, zero above negative zero. -/
def maxOf (a b : Float) : Float :=
  if a > b then a else if b > a then b else if Number.signBit a then b else a

/-- The smaller of two doubles, negative zero below zero. -/
def minOf (a b : Float) : Float :=
  if a < b then a else if b < a then b else if Number.signBit a then a else b

/-- Truncates a double toward zero. -/
def trunc (x : Float) : Float :=
  if x.isNaN || x.isInf then x
  else if x < 0 then -((-x).floor) else x.floor

/-- The count of leading zero bits of a 32-bit unsigned integer. -/
def clz32 (n : Nat) : Nat := Id.run do
  let mut k := 0
  for i in [0:32] do
    if n / Nat.pow 2 (31 - i) % 2 == 1 then return k
    k := k + 1
  return 32

/-- The next pseudo-random number in [0, 1), from the realm's state. -/
def random : Eval Float := do
  let s := (← realm).random
  let s1 := s ^^^ (s <<< 13)
  let s2 := s1 ^^^ (s1 >>> 7)
  let s3 := s2 ^^^ (s2 <<< 17)
  modifyRealm fun r => { r with random := s3 }
  return Float.ofNat (s3 >>> 11).toNat / 9007199254740992

/-- Runs a function of `Math`. -/
def math (cb : Callbacks) (f : MathFn) (args : List Value) : Eval Value := do
  let one : Eval Float := toNumber cb (arg args 0)
  let num (x : Float) : Eval Value := pure (.num x)
  match f with
  | .abs => num (← one).abs
  | .acos => num (Elementary.acos (← one))
  | .acosh => num (Elementary.acosh (← one))
  | .asin => num (Elementary.asin (← one))
  | .asinh => num (Elementary.asinh (← one))
  | .atan => num (Elementary.atan (← one))
  | .atanh => num (Elementary.atanh (← one))
  | .atan2 =>
    let y ← one
    let x ← toNumber cb (arg args 1)
    num (Elementary.atan2 y x)
  | .cbrt => num (Elementary.cbrt (← one))
  | .ceil => num (← one).ceil
  | .clz32 => return Value.ofNat (clz32 (← toUint32 cb (arg args 0)))
  | .cos => num (Elementary.cos (← one))
  | .cosh => num (Elementary.cosh (← one))
  | .exp => num (Elementary.exp (← one))
  | .expm1 => num (Elementary.expm1 (← one))
  | .floor => num (← one).floor
  | .fround => num (← one).toFloat32.toFloat
  | .hypot => num (hypot (← args.mapM (toNumber cb)))
  | .imul =>
    let a ← toInt32 cb (arg args 0)
    let b ← toInt32 cb (arg args 1)
    num (int32Float (wrap32 (a * b)))
  | .log => num (Elementary.log (← one))
  | .log1p => num (Elementary.log1p (← one))
  | .log10 => num (Elementary.log10 (← one))
  | .log2 => num (Elementary.log2 (← one))
  | .max =>
    let xs ← args.mapM (toNumber cb)
    if xs.any Float.isNaN then num Number.nan
    else num (xs.foldl maxOf (-Number.infinity))
  | .min =>
    let xs ← args.mapM (toNumber cb)
    if xs.any Float.isNaN then num Number.nan
    else num (xs.foldl minOf Number.infinity)
  | .pow =>
    let x ← one
    let y ← toNumber cb (arg args 1)
    num (power x y)
  | .random => num (← random)
  | .round => num (round (← one))
  | .sign =>
    let x ← one
    num (if x.isNaN || x == 0 then x else if x > 0 then 1 else -1)
  | .sin => num (Elementary.sin (← one))
  | .sinh => num (Elementary.sinh (← one))
  | .sqrt => num (← one).sqrt
  | .tan => num (Elementary.tan (← one))
  | .tanh => num (Elementary.tanh (← one))
  | .trunc => num (trunc (← one))

end Numbers

end Script

end Userland
