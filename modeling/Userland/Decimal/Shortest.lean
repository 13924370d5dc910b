namespace Userland

/-! # Shortest decimal digits of a double

A finite double is `m × 2^e` exactly. The reals that round to it form an
interval around it: halfway to each neighbour, the ends included when `m` is
even (ties go to the even mantissa). The shortest decimal for the double is
the decimal with the fewest significant digits inside that interval; of two
with that many digits, the nearer to the double, and of two equally near, the
one whose last digit is even.

All comparisons here are exact, in natural numbers: a value `X × 2^E` is
compared with `d × 10^p` after multiplying both sides by the powers that make
them whole.
-/

namespace Decimal

/-- A finite double taken apart: its sign, and `m` and `e` with value `m × 2^e`;
none for infinities and NaN. -/
def decode (x : Float) : Option (Bool × Nat × Int) :=
  let bits := x.toBits.toNat
  let sign := bits / Nat.pow 2 63 = 1
  let field : Nat := (bits / Nat.pow 2 52) % 2048
  let frac : Nat := bits % Nat.pow 2 52
  if field = 2047 then none
  else if field = 0 then some (sign, frac, (-1074 : Int))
  else some (sign, frac + Nat.pow 2 52, (field : Int) - 1075)

/-- `2^E`'s and `10^p`'s parts that make `X × 2^E` and `d × 10^p` whole: the
two sides, each a natural number, in the same proportion as the values. -/
def sides (X : Nat) (E : Int) (d : Nat) (p : Int) : Nat × Nat :=
  (X * Nat.pow 2 E.toNat * Nat.pow 10 (-p).toNat, d * Nat.pow 10 p.toNat * Nat.pow 2 (-E).toNat)

/-- Compares `X × 2^E` with `d × 10^p`. -/
def compareScaled (X : Nat) (E : Int) (d : Nat) (p : Int) : Ordering :=
  let (l, r) := sides X E d p
  compare l r

/-- `⌊X × 2^E / 10^p⌋`. -/
def floorScaled (X : Nat) (E : Int) (p : Int) : Nat :=
  let (l, r) := sides X E 1 p
  l / r

/-- The decimal exponent `n` of a positive `X × 2^E`: `10^(n-1) ≤ X × 2^E < 10^n`. -/
def exponentOf (X : Nat) (E : Int) : Int :=
  let guess : Int := ((Nat.log2 X : Int) + E) * 30103 / 100000
  let fits (n : Int) : Bool :=
    compareScaled X E 1 (n - 1) != .lt && compareScaled X E 1 n == .lt
  match [guess - 1, guess, guess + 1, guess + 2, guess + 3].find? fits with
  | some n => n
  | none => guess + 1

/-- Drops trailing zeros of digits, raising the exponent of the last digit. -/
def trim (d : Nat) (p : Int) : Nat × Int :=
  go d p 20
where
  go (d : Nat) (p : Int) : Nat → Nat × Int
    | 0 => (d, p)
    | fuel + 1 => if d ≠ 0 && d % 10 = 0 then go (d / 10) (p + 1) fuel else (d, p)

/-- The shortest digits of a positive finite double `m × 2^e`, as `d` and `p`
with `d × 10^p` the decimal and no trailing zeros in `d`. -/
def shortest (m : Nat) (e : Int) : Nat × Int :=
  match wholeValue m e with
  | some v => trim v 0
  | none => nearest m e
where
  /-- The value of `m × 2^e` when it is a whole number below `2^53`: the
  doubles around it are whole numbers too, at most one away, so no decimal
  with fewer digits reads back to it. -/
  wholeValue (m : Nat) (e : Int) : Option Nat :=
    let v := if e ≥ 0 then some (m * Nat.pow 2 e.toNat)
      else if m % Nat.pow 2 (-e).toNat == 0 then some (m / Nat.pow 2 (-e).toNat) else none
    v.filter (· < Nat.pow 2 53)
  /-- The search of the shortest digits inside the interval of the double. -/
  nearest (m : Nat) (e : Int) : Nat × Int :=
    -- the value and the ends of its interval, as multiples of 2^(e-2)
    let narrow := m = Nat.pow 2 52 && e > -1074
    let V := 4 * m
    let E := e - 2
    let low := V - (if narrow then 1 else 2)
    let high := V + 2
    let closed := m % 2 = 0
    let n := exponentOf V E
    let inside (d : Nat) (p : Int) : Bool :=
      let lo := compareScaled low E d p
      let hi := compareScaled high E d p
      (if closed then lo != .gt else lo == .lt) && (if closed then hi != .lt else hi == .gt)
    let pick (k : Nat) : Option (Nat × Int) :=
      let p := n - k
      let d := floorScaled V E p
      match inside d p, inside (d + 1) p with
      | true, true =>
        -- the nearer of the two; a tie goes to the even one
        let (v, below) := sides V E d p
        let (_, above) := sides V E (d + 1) p
        let down := v - below
        let up := above - v
        if down < up then some (d, p)
        else if up < down then some (d + 1, p)
        else some (if d % 2 = 0 then d else d + 1, p)
      | true, false => some (d, p)
      | false, true => some (d + 1, p)
      | false, false => none
    match (List.range 17).findSome? fun i => pick (i + 1) with
    | some (d, p) => trim d p
    | none =>
      -- seventeen digits always suffice; the nearest seventeen are a fallback
      let p := n - 17
      trim (floorScaled V E p) p

/-- The decimal digits of a natural number. -/
def digits (n : Nat) : String := toString n

/-- `x` rounded to `places` decimals, a half going away from zero, as the
digits of `|x| × 10^places` and the sign; none for infinities and NaN. -/
def fixed (x : Float) (places : Nat) : Option (Bool × Nat) :=
  match decode x with
  | none => none
  | some (sign, m, e) =>
    if e ≥ 0 then some (sign, m * Nat.pow 2 e.toNat * Nat.pow 10 places)
    else
      let den := Nat.pow 2 (-e).toNat
      some (sign, (2 * m * Nat.pow 10 places + den) / (2 * den))

/-- The integer part of a finite double, truncated toward zero; none for
infinities and NaN. -/
def truncate (x : Float) : Option Int :=
  match decode x with
  | none => none
  | some (sign, m, e) =>
    let mag : Nat := if e ≥ 0 then m * Nat.pow 2 e.toNat else m / Nat.pow 2 (-e).toNat
    some (if sign then -(mag : Int) else mag)

/-- The shortest text of a double: positional when its leading digit's
exponent is from `lower` to below `upper`, otherwise one digit, the rest after
a point, and a signed exponent of at least `width` digits (`1e+21`, `1e-05`). -/
def shortestText (lower upper : Int) (width : Nat) (x : Float) : String :=
  if x.isNaN then "NaN"
  else if x.isInf then (if x > 0 then "+Inf" else "-Inf")
  else
    match decode x with
    | none => "NaN"
    | some (sign, m, e) =>
      let body :=
        if m = 0 then "0"
        else
          let (d, p) := shortest m e
          let ds := (toString d).toList
          let k : Int := ds.length
          let exp := p + k - 1
          let zeros (n : Nat) : List Char := List.replicate n '0'
          if exp < lower || exp ≥ upper then
            let tail := ds.drop 1
            let mant := if tail.isEmpty then ds.take 1 else ds.take 1 ++ '.' :: tail
            let digits := toString exp.natAbs
            let digits := String.ofList (List.replicate (width - digits.length) '0') ++ digits
            String.ofList mant ++ (if exp < 0 then "e-" else "e+") ++ digits
          else if p ≥ 0 then String.ofList (ds ++ zeros p.toNat)
          else if exp ≥ 0 then
            String.ofList (ds.take (exp.toNat + 1) ++ '.' :: ds.drop (exp.toNat + 1))
          else String.ofList ('0' :: '.' :: zeros ((-exp).toNat - 1) ++ ds)
      if sign then "-" ++ body else body

/-- The shortest text of a double, positional for leading exponents from -4 to 5. -/
def generalText (x : Float) : String := shortestText (-4) 6 2 x

/-- The shortest text of a double as a JSON number: positional for leading
exponents from -6 to 20, else with an exponent of as few digits as it needs. -/
def jsonText (x : Float) : String := shortestText (-6) 21 1 x

end Decimal

end Userland
