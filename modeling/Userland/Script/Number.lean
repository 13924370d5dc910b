import Userland.Decimal.Shortest
import Userland.Script.Chars

namespace Userland

/-! # Script numbers

Numbers of scripts are doubles. Their text is the shortest decimal that reads
back as the same double: written out in full from 10^-7 up to below 10^21,
else as one digit, a point and the rest of the digits, and an exponent with
its sign (`1e+21`, `1.5e-7`). NaN, the infinities and zero are `NaN`,
`Infinity`, `-Infinity` and `0`.

Text is read as a number after trimming blanks: an empty text is 0, a text
with a base prefix (`0x`, `0o`, `0b`) is read in that base, and otherwise the
whole text must be a decimal literal, with an optional sign, or `Infinity`.
Anything else is NaN.
-/

namespace Script

namespace Number

/-- The value of a decimal literal `m × 10^e`, rounded to the nearest float. -/
def decimalFloat (m : Nat) (e : Int) : Float :=
  let digits := (toString m).length
  if m = 0 then 0
  else if e + digits > 330 then 1.0 / 0.0
  else if e + digits < -350 then 0
  else if e ≥ 0 then Float.ofScientific m false e.toNat
  else Float.ofScientific m true (-e).toNat

/-- A decimal literal at the front of characters: digits, a fraction and an
exponent, each optional but not all; its value and what follows it. -/
def decimalPrefix (cs : List Char) : Option (Float × List Char) :=
  let whole := cs.takeWhile Char.isDigit
  let rest := cs.drop whole.length
  let (frac, rest) := match rest with
    | '.' :: r => let f := r.takeWhile Char.isDigit; (f, r.drop f.length)
    | _ => ([], rest)
  if whole.isEmpty && frac.isEmpty then none
  else
    let (exp, rest) : Int × List Char := match rest with
      | e :: r =>
        if e = 'e' || e = 'E' then
          let (neg, r') := match r with
            | '-' :: r' => (true, r')
            | '+' :: r' => (false, r')
            | _ => (false, r)
          let ds := r'.takeWhile Char.isDigit
          if ds.isEmpty then (0, rest)
          else ((if neg then -1 else 1) * (digitsValue 10 ds : Int), r'.drop ds.length)
        else (0, rest)
      | [] => (0, rest)
    some (decimalFloat (digitsValue 10 (whole ++ frac)) (exp - frac.length), rest)

/-- Not a number. -/
def nan : Float := 0.0 / 0.0

/-- Positive infinity. -/
def infinity : Float := 1.0 / 0.0

/-- Whether a double is negative zero or below zero: its sign bit. -/
def signBit (x : Float) : Bool := x.toBits.toNat / Nat.pow 2 63 = 1

/-- `n` zeros. -/
def zeros (n : Nat) : String := String.ofList (List.replicate n '0')

/-- The text of a number. -/
def text (x : Float) : String :=
  if x.isNaN then "NaN"
  else if x.isInf then (if x > 0 then "Infinity" else "-Infinity")
  else if x == 0 then "0"
  else
    match Decimal.decode x with
    | none => "NaN"
    | some (sign, m, e) =>
      let (d, p) := Decimal.shortest m e
      let ds := toString d
      let k : Int := ds.length
      let n : Int := p + k
      let body :=
        if k ≤ n && n ≤ 21 then ds ++ zeros (n - k).toNat
        else if 0 < n && n ≤ 21 then
          String.ofList (ds.toList.take n.toNat) ++ "." ++ String.ofList (ds.toList.drop n.toNat)
        else if -6 < n && n ≤ 0 then "0." ++ zeros (-n).toNat ++ ds
        else
          let exp := n - 1
          let mark := if exp ≥ 0 then "e+" else "e-"
          let lead := String.ofList (ds.toList.take 1)
          let tail := String.ofList (ds.toList.drop 1)
          (if tail.isEmpty then lead else lead ++ "." ++ tail) ++ mark ++ toString exp.natAbs
      if sign && x != 0 then "-" ++ body else body

/-- The integer value of a finite double, truncated; 0 for NaN, and the ends of
the 64-bit range for the infinities. -/
def toInteger (x : Float) : Int :=
  if x.isNaN then 0
  else if x.isInf then (if x > 0 then Int.pow 2 63 - 1 else -(Int.pow 2 63))
  else (Decimal.truncate x).getD 0

/-- A 64-bit integer from a double, as the conversion of machine words does it:
truncated, and the lowest word when out of range. -/
def toWord (x : Float) : Int :=
  let n := toInteger x
  if n < -(Int.pow 2 63) || n ≥ Int.pow 2 63 then -(Int.pow 2 63) else n

/-- A double taken modulo 2^32, as an unsigned number, through its 64-bit
word: 0 for NaN, the infinities and whatever lies beyond 64 bits. -/
def toUint32 (x : Float) : Nat :=
  if x.isNaN || x.isInf then 0 else (toWord x % Int.pow 2 32).toNat

/-- A double taken modulo 2^32, as a signed number. -/
def toInt32 (x : Float) : Int :=
  let u := toUint32 x
  if u ≥ Nat.pow 2 31 then (u : Int) - Int.pow 2 32 else u

/-- The double nearest an integer. -/
def ofInt (n : Int) : Float :=
  if n ≥ 0 then Float.ofNat n.toNat else -(Float.ofNat n.natAbs)

/-- Blanks and line breaks that reading a number trims. -/
def isTrimmed (c : Char) : Bool := isBlank c || isLineBreak c

/-- Trims blanks and line breaks at both ends. -/
def trimText (s : String) : List Char :=
  ((s.toList.dropWhile isTrimmed).reverse.dropWhile isTrimmed).reverse

/-- A number from text, NaN when the text is no number. -/
def ofString (s : String) : Float :=
  let cs := trimText s
  if cs.isEmpty then 0
  else
    let radix (base : Nat) (ds : List Char) : Float :=
      if !ds.isEmpty && ds.all (fun c => ((hexValue c).map (fun v => decide (v < base))).getD false) then
        decimalFloat (digitsValue base ds) 0
      else nan
    match cs with
    | '0' :: x :: rest =>
      if x = 'x' || x = 'X' then radix 16 rest
      else if x = 'o' || x = 'O' then radix 8 rest
      else if x = 'b' || x = 'B' then radix 2 rest
      else signed cs
    | _ => signed cs
where
  /-- A decimal literal or `Infinity`, with an optional sign, filling the whole text. -/
  signed (cs : List Char) : Float :=
    let (neg, rest) := match cs with
      | '-' :: r => (true, r)
      | '+' :: r => (false, r)
      | _ => (false, cs)
    let value : Float :=
      if rest = "Infinity".toList then infinity
      else match decimalPrefix rest with
        | some (v, []) => v
        | _ => nan
    if neg then -value else value

/-- The longest decimal literal or `Infinity` at the front of a text, after
blanks, as a number; NaN when there is none. -/
def parseFloat (s : String) : Float :=
  let cs := s.toList.dropWhile isTrimmed
  let (neg, rest) := match cs with
    | '-' :: r => (true, r)
    | '+' :: r => (false, r)
    | _ => (false, cs)
  let value : Float :=
    if rest.take 8 = "Infinity".toList then infinity
    else match decimalPrefix rest with
      | some (v, _) => v
      | none => nan
  if neg then -value else value

/-- The value of digits in a base, read the way a 64-bit accumulator reads
them: exactly while the value fits in a signed 64-bit word, and from the digit
that would overflow it on, in doubles, each step multiplying and adding with
rounding. An exact value is the left side, a double the right. -/
def accumulate (base : Nat) (ds : List Nat) : Nat ⊕ Float :=
  let maxWord : Nat := Nat.pow 2 63 - 1
  let cutoff := maxWord / base + 1
  ds.foldl (fun acc v =>
    match acc with
    | .inl n =>
      if n ≥ cutoff then .inr (decimalFloat n 0 * decimalFloat base 0 + decimalFloat v 0)
      else if n * base + v > maxWord then .inr (decimalFloat (n * base) 0 + decimalFloat v 0)
      else .inl (n * base + v)
    | .inr x => .inr (x * decimalFloat base 0 + decimalFloat v 0)) (.inl 0)

/-- The integer at the front of a text in a base (2 to 36; 0 means 10, or 16
after a `0x` prefix), after blanks and a sign; NaN when no digit stands there
or the base is out of range. A negative zero reads as zero. -/
def parseInt (s : String) (base : Int) : Float :=
  let cs := s.toList.dropWhile isTrimmed
  let (neg, rest) := match cs with
    | '-' :: r => (true, r)
    | '+' :: r => (false, r)
    | _ => (false, cs)
  let hex := match rest with
    | '0' :: x :: _ => x = 'x' || x = 'X'
    | _ => false
  let (b, rest) : Int × List Char :=
    if base = 0 then (if hex then (16, rest.drop 2) else (10, rest))
    else if base = 16 && hex then (16, rest.drop 2)
    else (base, rest)
  if b < 2 || b > 36 then nan
  else
    let digitOf (c : Char) : Option Nat :=
      let v := if c.isDigit then some (c.toNat - '0'.toNat)
        else if 'a' ≤ c && c ≤ 'z' then some (c.toNat - 'a'.toNat + 10)
        else if 'A' ≤ c && c ≤ 'Z' then some (c.toNat - 'A'.toNat + 10)
        else none
      v.bind fun v => if v < b.toNat then some v else none
    let ds := (rest.takeWhile fun c => (digitOf c).isSome).map fun c => (digitOf c).getD 0
    if ds.isEmpty then nan
    else
      match accumulate b.toNat ds with
      | .inl n => if neg && n ≠ 0 then -decimalFloat n 0 else decimalFloat n 0
      | .inr x => if neg then -x else x

/-- The digit characters of the bases up to 36. -/
def digitChars : List Char := "0123456789abcdefghijklmnopqrstuvwxyz".toList

/-- The digits of a natural number in a base from 2 to 36. -/
def natDigits (base : Nat) (n : Nat) : String :=
  String.ofList (go n (n + 1) [])
where
  /-- Prepends the digits of `n`, lowest first; each step divides by the base. -/
  go (n fuel : Nat) (acc : List Char) : List Char :=
    match fuel with
    | 0 => acc
    | fuel + 1 =>
      let acc := digitChars.getD (n % base) '0' :: acc
      if n < base then acc else go (n / base) fuel acc

/-- A finite double as `m * 2^q` with `m` a natural number; the sign is dropped. -/
def binaryParts (x : Float) : Nat × Int :=
  let bits := x.toBits.toNat
  let e : Nat := bits / Nat.pow 2 52 % Nat.pow 2 11
  let f : Nat := bits % Nat.pow 2 52
  if e = 0 then (f, -1074) else (f + Nat.pow 2 52, (e : Int) - 1075)

/-- The digits after the point of a positive double with a fraction, in a
base. The fraction and the half-gaps to the neighbouring doubles are kept as
integers over a common power of two; digits are made one at a time, and the
last is settled as soon as the digits so far read back as the double, the
nearer of two candidates winning. -/
def fractionDigits (x : Float) (base : Nat) : String :=
  let bits := x.toBits.toNat
  let e : Nat := bits / Nat.pow 2 52 % Nat.pow 2 11
  let lowWord := bits % Nat.pow 2 32
  let even := lowWord % 2 = 0
  -- a power of two has a closer neighbour below, so the gap there is halved
  let special := bits % Nat.pow 2 52 = 0 && e ≥ 2
  let s2 : Nat := (if e = 0 then 1075 else 1076 - e) + (if special then 1 else 0)
  let scale := Nat.pow 2 s2
  let (m, q) := binaryParts (x - x.floor)
  let shift := q + s2
  let b := if shift ≥ 0 then m * Nat.pow 2 shift.toNat else m / Nat.pow 2 (-shift).toNat
  String.ofList (go scale even b 1 (if special then 2 else 1) 1100)
where
  /-- The next digits, from the rest `b` of the fraction and the gaps `lo`
  and `hi`, all over `scale`; at most `fuel` of them. -/
  go (scale : Nat) (even : Bool) (b lo hi : Nat) : Nat → List Char
    | 0 => []
    | fuel + 1 =>
      let b := b * base
      let digit := b / scale
      let b := b % scale
      let lo := lo * base
      let hi := hi * base
      let j := compare b lo
      let j1 := if scale ≤ hi then Ordering.gt else compare b (scale - hi)
      let char (d : Nat) : List Char := [digitChars.getD d '0']
      if j1 == .eq && even then char (if j == .gt then digit + 1 else digit)
      else if j == .lt || (j == .eq && even) then
        char (if j1 == .gt && 2 * b > scale then digit + 1 else digit)
      else if j1 == .gt then char (digit + 1)
      else char digit ++ go scale even b lo hi fuel

/-- The text of a number in a base from 2 to 36: the whole part's digits, with
a minus sign when it is not zero, then the shortest fraction that reads back
as the number. -/
def radixText (x : Float) (base : Nat) : String :=
  if base = 10 then text x
  else if x.isNaN then "NaN"
  else if x.isInf then (if x > 0 then "Infinity" else "-Infinity")
  else
    let a := x.abs
    let whole := a.floor
    let n := (Decimal.truncate whole).getD 0
    let intDigits := (if x < 0 && n ≠ 0 then "-" else "") ++ natDigits base n.natAbs
    if a == whole then intDigits else intDigits ++ "." ++ fractionDigits a base

/-- `x` with `places` decimals, rounded on its exact value with a half going
away from zero; zero has no sign, but a negative number that rounds to zero
keeps its minus; at 10^21 and beyond, its shortest text. -/
def toFixed (x : Float) (places : Nat) : String :=
  if x.isNaN then "NaN"
  else if x.abs ≥ 1e21 || x.isInf then text x
  else
    match Decimal.fixed x places with
    | none => text x
    | some (sign, n) =>
      let ds := toString n
      let ds := if ds.length ≤ places then zeros (places + 1 - ds.length) ++ ds else ds
      let cut := ds.length - places
      let body := if places = 0 then ds
        else String.ofList (ds.toList.take cut) ++ "." ++ String.ofList (ds.toList.drop cut)
      if sign && x != 0 then "-" ++ body else body

/-- `|x|` to `p` significant digits, rounded to the nearest with a tie going
up, as the language asks of `toPrecision` and `toExponential`: the `p` digits
as a number and the decimal exponent of the first; none for zero, the
infinities and NaN. -/
def significant (x : Float) (p : Nat) : Option (Nat × Int) :=
  match Decimal.decode x with
  | none => none
  | some (_, m, e) =>
    if m = 0 then none
    else
      let lead := Decimal.exponentOf m e - 1
      let (l, r) := Decimal.sides m e 1 (lead - p + 1)
      let q := l / r
      let rest := l % r
      let q := if 2 * rest ≥ r then q + 1 else q
      if q = Nat.pow 10 p then some (Nat.pow 10 (p - 1), lead + 1) else some (q, lead)

/-- Digits and an exponent in exponential form: the first digit, the others
after a point, and the signed exponent. -/
def exponential (ds : String) (e : Int) : String :=
  let mant := if ds.length ≤ 1 then ds else String.ofList (ds.toList.take 1) ++ "." ++ String.ofList (ds.toList.drop 1)
  mant ++ "e" ++ (if e ≥ 0 then "+" else "-") ++ toString e.natAbs

/-- The text of `toPrecision(p)`: `p` significant digits, in exponential
form when the exponent is below -6 or not below `p`, else positional. -/
def toPrecision (x : Float) (p : Nat) : String :=
  if x.isNaN || x.isInf then text x
  else
    let sign := if x < 0 then "-" else ""
    match significant x p with
    | none => "0" ++ (if p > 1 then "." ++ zeros (p - 1) else "")
    | some (q, e) =>
      let ds := toString q
      if e < -6 || e ≥ p then sign ++ exponential ds e
      else if e ≥ 0 then
        let k := e.toNat + 1
        sign ++ (if k ≥ ds.length then ds else String.ofList (ds.toList.take k) ++ "." ++ String.ofList (ds.toList.drop k))
      else sign ++ "0." ++ zeros ((-e).toNat - 1) ++ ds

/-- The text of `toExponential`: with `digits` after the point, or as many as
the shortest text of the number has when none is given. -/
def toExponential (x : Float) (digits : Option Nat) : String :=
  if x.isNaN || x.isInf then text x
  else
    let sign := if x < 0 then "-" else ""
    match digits with
    | some f =>
      match significant x (f + 1) with
      | none => "0" ++ (if f > 0 then "." ++ zeros f else "") ++ "e+0"
      | some (q, e) => sign ++ exponential (toString q) e
    | none =>
      match Decimal.decode x with
      | some (_, m, e) =>
        if m = 0 then "0e+0"
        else
          let (d, p) := Decimal.shortest m e
          let ds := toString d
          sign ++ exponential ds (p + ds.length - 1)
      | none => text x

/-- The remainder of a division truncated toward zero, with the sign of the
dividend, computed exactly: NaN when the dividend is infinite or the divisor
zero, the dividend itself when the divisor is infinite. -/
def rem (x y : Float) : Float :=
  if x.isNaN || y.isNaN || x.isInf || y == 0 then nan
  else if y.isInf || x == 0 then x
  else
    match Decimal.decode x, Decimal.decode y with
    | some (sx, mx, ex), some (_, my, ey) =>
      let e := min ex ey
      let X := mx * Nat.pow 2 (ex - e).toNat
      let Y := my * Nat.pow 2 (ey - e).toNat
      let r := Float.scaleB (Float.ofNat (X % Y)) e
      if sx then -r else r
    | _, _ => nan

end Number

end Script

end Userland
