import Userland.Script.Object
import Userland.Elementary.Exp

namespace Userland

/-! # Operators

What the operators of expressions compute. `+` adds numbers unless either
side is a string after conversion to a primitive, when it joins texts. The
other arithmetic operators convert both sides to numbers; the bitwise ones to
32-bit integers, the shifts taking their count modulo 32. Big integers meet
only big integers under these operators: a big integer and a number is a
type error. Comparisons compare
strings by their units and everything else as numbers, NaN comparing false.

`instanceof` asks the right side's `Symbol.hasInstance` when it has one, and
otherwise walks the left side's prototypes looking for the right side's
`prototype`; `in` asks whether the right side has the key.
-/

namespace Script

open Eval

/-- Whether a double is held as an integer: whole, finite, at most 2^53 in
size and not negative zero. -/
def isWhole (x : Float) : Bool :=
  !x.isNaN && !x.isInf && x.abs ≤ 9007199254740992.0 && x.floor == x && !(x == 0 && Number.signBit x)

/-- `x^y` for integers held as integers, when the power fits in 63 bits. -/
def wholePower (x y : Float) : Option Float :=
  let b := (Decimal.truncate x).getD 0
  let n := ((Decimal.truncate y).getD 0).toNat
  if b.natAbs == 1 then some (Number.ofInt (if b < 0 && n % 2 == 1 then -1 else 1))
  else if n ≥ 63 then none
  else
    let p := Int.pow b n
    if p.natAbs < Nat.pow 2 63 then some (Number.ofInt p) else none

/-- `x ** y`: exact for an integer base and a natural exponent whose power
fits in 63 bits; otherwise NaN for a power of ±1 to an infinite exponent or
of 1 to NaN, and the power of doubles. -/
def power (x y : Float) : Float :=
  let exact : Option Float :=
    if isWhole x && isWhole y && y ≥ 0 then
      if y == 0 then some 1 else if x == 0 then some 0 else wholePower x y
    else none
  match exact with
  | some v => v
  | none =>
    if x.abs == 1 && y.isInf then Number.nan
    else if x == 1 && y.isNaN then Number.nan
    else Elementary.pow x y

/-- An arithmetic operator on numbers. -/
def arithmetic (op : BinaryOp) (x y : Float) : Float :=
  match op with
  | .sub => x - y
  | .mul => x * y
  | .div => x / y
  | .rem => Number.rem x y
  | .pow => power x y
  | _ => x + y

/-- The float of a 32-bit signed integer. -/
def int32Float (n : Int) : Float := Number.ofInt n

/-- Wraps an integer into 32 signed bits. -/
def wrap32 (n : Int) : Int :=
  let m := n % 4294967296
  if m ≥ 2147483648 then m - 4294967296 else m

/-- A bitwise operator on numbers. -/
def bitwise (op : BinaryOp) (x y : Float) : Float :=
  let a := Number.toInt32 x
  let b := Number.toInt32 y
  let ua := Number.toUint32 x
  let count := Number.toUint32 y % 32
  let toBits (n : Int) : Nat := (n % 4294967296).toNat
  match op with
  | .bitAnd => int32Float (wrap32 (Int.ofNat (Nat.land (toBits a) (toBits b))))
  | .bitOr => int32Float (wrap32 (Int.ofNat (Nat.lor (toBits a) (toBits b))))
  | .bitXor => int32Float (wrap32 (Int.ofNat (Nat.xor (toBits a) (toBits b))))
  | .shl => int32Float (wrap32 (Int.ofNat ((toBits a * Nat.pow 2 count) % 4294967296)))
  | .shr => int32Float (Int.fdiv a (Nat.pow 2 count : Nat))
  | .ushr => Float.ofNat (ua / Nat.pow 2 count)
  | _ => 0

/-- `~x`. -/
def bitNot (x : Float) : Float := int32Float (wrap32 (-(Number.toInt32 x) - 1))

/-- The message of an operator given a big integer and a number. -/
def mixMessage : String := "Cannot mix BigInt and other types, use explicit conversions"

/-- The largest number of bits a big integer made by a shift or a power may have. -/
def bigBitLimit : Nat := Nat.pow 2 30

/-- `x ** y` for big integers: a negative exponent is a range error. -/
def bigPower (x y : Int) : Eval Int := do
  if y < 0 then throwRange "Exponent must be positive"
  if x.natAbs ≤ 1 then
    return if y == 0 then 1 else if x == -1 && y % 2 == 0 then 1 else x
  if y > bigBitLimit then throwRange "Maximum BigInt size exceeded"
  return Int.pow x y.toNat

/-- An arithmetic or bitwise operator on big integers. -/
def bigArithmetic (op : BinaryOp) (x y : Int) : Eval Int := do
  match op with
  | .sub => return x - y
  | .mul => return x * y
  | .div => if y == 0 then throwRange "Division by zero" else return Big.quot x y
  | .rem => if y == 0 then throwRange "Division by zero" else return Big.rem x y
  | .pow => bigPower x y
  | .bitAnd => return Big.land x y
  | .bitOr => return Big.lor x y
  | .bitXor => return Big.lxor x y
  | .shl | .shr =>
    let count := if op == .shl then y else -y
    if count > bigBitLimit then throwRange "Maximum BigInt size exceeded"
    return Big.shiftLeft x count
  | .ushr => throwType "BigInts have no unsigned right shift, use >> instead"
  | _ => return x + y

/-- An arithmetic or bitwise operator on numeric values: big integers with
big integers, numbers with numbers. -/
def numericOp (cb : Callbacks) (op : BinaryOp) (a b : Value) : Eval Value := do
  let x ← toNumeric cb a
  let y ← toNumeric cb b
  match x, y with
  | .big m, .big n => return .big (← bigArithmetic op m n)
  | .big _, _ | _, .big _ => throwType mixMessage
  | _, _ =>
    let x := match x with | .num v => v | _ => 0
    let y := match y with | .num v => v | _ => 0
    match op with
    | .bitAnd | .bitOr | .bitXor | .shl | .shr | .ushr => return .num (bitwise op x y)
    | _ => return .num (arithmetic op x y)

/-- Whether a method is the builtin `Function.prototype[Symbol.hasInstance]`,
which `instanceof` runs in place rather than calling. -/
def isBuiltinHasInstance (f : Value) : Eval Bool := do
  match f with
  | .obj r =>
    match (← getObj r).kind with
    | .func (.native (.function .hasInstance) _) => return true
    | _ => return false
  | _ => return false

/-- Whether a value is an instance of a callable object: through a bound
function to its target, else by the object's `prototype` among the value's
prototypes. -/
def hasInstanceBy (cb : Callbacks) : Nat → Value → Value → Eval Bool
  | 0, _, _ => return false
  | n + 1, c, v => do
    match c with
    | .obj cr =>
      let co ← getObj cr
      if !co.callable then return false
      match co.kind with
      | .func (.bound target _ _) =>
        match target with
        | .obj tr =>
          match ← getMethod cb target (symKey WellKnown.hasInstance) with
          | some h =>
            if ← isBuiltinHasInstance h then hasInstanceBy cb n target v
            else return (← cb.call h target [v]).truthy
          | none =>
            if !(← getObj tr).callable then
              throwType ("Expecting a function in instanceof check, but got " ++ (← toText cb target))
            hasInstanceBy cb n target v
        | _ => throwType ("Value is not an object: " ++ (← toText cb target))
      | _ =>
        match v with
        | .obj vr =>
          let proto ← get cb cr (keyOf "prototype")
          match proto with
          | .obj pr =>
            let rec walk : Nat → Nat → Eval Bool
              | 0, _ => return false
              | k + 1, r => do
                match ← getProto cb r with
                | some p => if p == pr then return true else walk k p
                | none => return false
            walk chainLimit vr
          | _ =>
            throwType ("Function has non-object prototype '" ++ (← toText cb proto) ++ "' in instanceof check")
        | _ => return false
    | _ => return false

/-- `OrdinaryHasInstance`: whether a value is an instance of a constructor. -/
def ordinaryHasInstance (cb : Callbacks) (c v : Value) : Eval Bool := hasInstanceBy cb 1000 c v

/-- `v instanceof c`. -/
def instanceOf (cb : Callbacks) (v c : Value) : Eval Bool := do
  match c with
  | .obj cr =>
    match ← getMethod cb c (symKey WellKnown.hasInstance) with
    | some h =>
      if ← isBuiltinHasInstance h then ordinaryHasInstance cb c v
      else return (← cb.call h c [v]).truthy
    | none =>
      if !(← getObj cr).callable then
        throwType ("Expecting a function in instanceof check, but got " ++ (← toText cb c))
      ordinaryHasInstance cb c v
  | _ => throwType ("Value is not an object: " ++ (← toText cb c))

/-- A binary operator on two values. -/
def binaryOp (cb : Callbacks) (op : BinaryOp) (a b : Value) : Eval Value := do
  match op with
  | .add =>
    match a, b with
    | .num x, .num y => return .num (x + y)
    | .str x, .str y => return .str (x ++ y)
    | .big x, .big y => return .big (x + y)
    | _, _ =>
      let pa ← toPrimitive cb a .default
      let pb ← toPrimitive cb b .default
      match pa, pb with
      | .str x, _ => return .str (x ++ (← primitiveStr pb))
      | _, .str y => return .str ((← primitiveStr pa) ++ y)
      | .big x, .big y => return .big (x + y)
      | .big _, _ | _, .big _ => throwType mixMessage
      | _, _ => return .num ((← primitiveNumber pa) + (← primitiveNumber pb))
  | .sub | .mul | .div | .rem | .pow =>
    match a, b with
    | .num x, .num y => return .num (arithmetic op x y)
    | _, _ => numericOp cb op a b
  | .bitAnd | .bitOr | .bitXor | .shl | .shr | .ushr =>
    match a, b with
    | .num x, .num y => return .num (bitwise op x y)
    | _, _ => numericOp cb op a b
  | .lt => return .bool ((← lessThan cb a b true).getD false)
  | .gt => return .bool ((← lessThan cb b a false).getD false)
  | .le =>
    match ← lessThan cb b a false with
    | some r => return .bool !r
    | none => return .bool false
  | .ge =>
    match ← lessThan cb a b true with
    | some r => return .bool !r
    | none => return .bool false
  | .eq => return .bool (← looseEq cb a b)
  | .ne => return .bool !(← looseEq cb a b)
  | .strictEq => return .bool (Value.strictEq a b)
  | .strictNe => return .bool !(Value.strictEq a b)
  | .instanceOf => return .bool (← instanceOf cb a b)
  | .isIn =>
    match b with
    | .obj r => return .bool (← has cb r (← toPropertyKey cb a))
    | _ => throwType ("Value is not an object: " ++ (← toText cb b))

/-- A unary operator other than `typeof` and `delete` on a value. -/
def unaryOp (cb : Callbacks) (op : UnaryOp) (v : Value) : Eval Value := do
  match op with
  | .neg =>
    match ← toNumeric cb v with
    | .big n => return .big (-n)
    | x => return .num (-(match x with | .num f => f | _ => 0))
  | .plus => return .num (← toNumber cb v)
  | .not => return .bool !v.truthy
  | .bitNot =>
    match ← toNumeric cb v with
    | .big n => return .big (Big.lnot n)
    | x => return .num (bitNot (match x with | .num f => f | _ => 0))
  | .void => return .undefined
  | .typeOf => return Value.ofString (← typeOf v)
  | .delete => return .bool true

end Script

end Userland
