import Userland.Script.Number

namespace Userland

/-! # Big integers

The arithmetic of big integers beyond what `Int` gives at once.

* The bitwise operators work on the two's complement of integers of any
  size: a negative `-(x + 1)` is the complement of `x`, so each operator
  reduces to one on natural numbers.
* Shifts multiply by a power of two, or divide by one rounding down.
* Division and remainder round toward zero, the remainder taking the sign
  of the dividend.
* `asIntN` and `asUintN` keep the lowest bits, read as signed or unsigned.
* A text names a big integer when, blanks trimmed, it is empty (zero), a
  decimal with an optional sign, or digits after a `0x`, `0o` or `0b` prefix.
* A big integer and a double compare exactly, NaN with nothing.
-/

namespace Script

namespace Big

/-- `a & b` in two's complement. -/
def land : Int → Int → Int
  | .ofNat x, .ofNat y => .ofNat (x &&& y)
  | .negSucc x, .ofNat y => .ofNat (y - (y &&& x))
  | .ofNat x, .negSucc y => .ofNat (x - (x &&& y))
  | .negSucc x, .negSucc y => .negSucc (x ||| y)

/-- `a | b` in two's complement. -/
def lor : Int → Int → Int
  | .ofNat x, .ofNat y => .ofNat (x ||| y)
  | .negSucc x, .ofNat y => .negSucc (x - (x &&& y))
  | .ofNat x, .negSucc y => .negSucc (y - (y &&& x))
  | .negSucc x, .negSucc y => .negSucc (x &&& y)

/-- `a ^ b` in two's complement. -/
def lxor : Int → Int → Int
  | .ofNat x, .ofNat y => .ofNat (x ^^^ y)
  | .negSucc x, .ofNat y => .negSucc (x ^^^ y)
  | .ofNat x, .negSucc y => .negSucc (x ^^^ y)
  | .negSucc x, .negSucc y => .ofNat (x ^^^ y)

/-- `~a`. -/
def lnot (a : Int) : Int := -a - 1

/-- `a << n`: a product with `2^n`, or for a negative `n` a quotient by
`2^-n` rounded down. -/
def shiftLeft (a n : Int) : Int :=
  if n ≥ 0 then a * Int.pow 2 n.toNat else Int.fdiv a (Int.pow 2 (-n).toNat)

/-- `a / b` rounded toward zero. -/
def quot (a b : Int) : Int := Int.tdiv a b

/-- `a % b` with the sign of `a`. -/
def rem (a b : Int) : Int := Int.tmod a b

/-- The lowest `bits` bits of an integer, as an unsigned integer. -/
def asUintN (bits : Nat) (a : Int) : Int := Int.emod a (Int.pow 2 bits)

/-- The lowest `bits` bits of an integer, as a signed integer. -/
def asIntN (bits : Nat) (a : Int) : Int :=
  if bits = 0 then 0
  else
    let m := asUintN bits a
    if m ≥ Int.pow 2 (bits - 1) then m - Int.pow 2 bits else m

/-- The digits of a natural number in a radix from 2 to 36, lowest first. -/
def digitsIn (radix : Nat) : Nat → Nat → List Char
  | 0, _ => []
  | fuel + 1, n =>
    let d := n % radix
    let c := if d < 10 then Char.ofNat ('0'.toNat + d) else Char.ofNat ('a'.toNat + d - 10)
    if n < radix then [c] else c :: digitsIn radix fuel (n / radix)

/-- The text of an integer in a radix from 2 to 36, with lower-case letters. -/
def text (radix : Nat) (a : Int) : String :=
  let ds := String.ofList (digitsIn (max radix 2) (a.natAbs + 1) a.natAbs).reverse
  if a < 0 then "-" ++ ds else ds

/-- The value of digits in a base, when there is at least one and all are digits of it. -/
def digitsOf (base : Nat) (ds : List Char) : Option Nat :=
  if !ds.isEmpty && ds.all (fun c => digitValue c < base) then some (digitsValue base ds) else none

/-- The integer a text names, blanks trimmed: none when it names none. -/
def ofText (s : String) : Option Int :=
  match Number.trimText s with
  | [] => some 0
  | '0' :: x :: rest =>
    if x = 'x' || x = 'X' then (digitsOf 16 rest).map Int.ofNat
    else if x = 'o' || x = 'O' then (digitsOf 8 rest).map Int.ofNat
    else if x = 'b' || x = 'B' then (digitsOf 2 rest).map Int.ofNat
    else (digitsOf 10 ('0' :: x :: rest)).map Int.ofNat
  | '-' :: rest => (digitsOf 10 rest).map fun n => -(n : Int)
  | '+' :: rest => (digitsOf 10 rest).map Int.ofNat
  | cs => (digitsOf 10 cs).map Int.ofNat

/-- Compares an integer with a double exactly: none when the double is NaN. -/
def compareFloat (a : Int) (x : Float) : Option Ordering :=
  if x.isNaN then none
  else if x.isInf then some (if x > 0 then .lt else .gt)
  else
    match Decimal.decode x with
    | none => none
    | some (sign, m, e) =>
      let v : Int := if sign then -(m : Int) else m
      -- compare a with v × 2^e, both sides scaled to integers
      if e ≥ 0 then some (compare a (v * Int.pow 2 e.toNat))
      else some (compare (a * Int.pow 2 (-e).toNat) v)

/-- The integer of a double that is a whole number. -/
def ofWholeFloat (x : Float) : Option Int :=
  if x.isNaN || x.isInf || x.floor != x then none else Decimal.truncate x

/-- The double nearest an integer. -/
def toFloat (a : Int) : Float := Number.ofInt a

end Big

end Script

end Userland
