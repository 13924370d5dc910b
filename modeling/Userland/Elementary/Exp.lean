namespace Userland

/-! # Exponentials, logarithms and powers of doubles

The elementary functions a script's `Math` offers, computed step by step in
doubles, each operation rounded where the algorithm rounds it, so that every
result is the same double on every machine:

* `exp` reduces its argument by the nearest multiple of `ln 2` (the multiple
  rounded half to even), divides the rest by 16, sums a Taylor series of
  `e^r - 1`, squares it back four times and scales by the power of two;
* `log` splits the argument into a fraction near 1 and a power of two and
  uses the series of `log((1+s)/(1-s))`; it reads the exponent field as it
  stands, so a subnormal argument is taken as its fraction field over 2^-1022;
* `log2` and `log10` scale `log`; `log1p`, `expm1` and `cbrt` use the
  classic argument reductions with a correction for the rounding of `1 + x`,
  a rational kernel for `e^r - 1`, and a Newton step after a bit-level guess;
* `pow` takes the fractional part of the exponent through `exp` and `log` and
  the whole part by repeated squaring of the fraction, keeping the power of
  two apart until the end.
-/

namespace Elementary

/-- Not a number. -/
def nan : Float := 0.0 / 0.0

/-- Positive infinity. -/
def inf : Float := 1.0 / 0.0

/-- The raw word of a double. -/
def bitsOf (x : Float) : Nat := x.toBits.toNat

/-- The double with a raw word. -/
def ofBitsNat (n : Nat) : Float := Float.ofBits n.toUInt64

/-- Whether a double's sign bit is set (negative zero included). -/
def signBit (x : Float) : Bool := bitsOf x ≥ Nat.pow 2 63

/-- A double truncated toward zero, as an integer (for magnitudes below 2^64). -/
def truncInt (x : Float) : Int :=
  if x < 0 then -(((-x).toUInt64.toNat : Nat) : Int) else (x.toUInt64.toNat : Int)

/-- A double rounded to the nearest integer, ties to even (for magnitudes below 2^64). -/
def roundEven (x : Float) : Int :=
  let f := x.floor
  let r := truncInt f
  let d := x - f
  if d > 0.5 then r + 1
  else if d < 0.5 then r
  else if r % 2 == 0 then r else r + 1

/-- A double split into a fraction in [1/2, 1) and a power of two; zeros,
infinities and NaN come back whole with exponent 0. -/
def frexp (x : Float) : Float × Int :=
  if x == 0 || x.isNaN || x.isInf then (x, 0) else x.frExp

/-- `x × 2^e`. -/
def ldexp (x : Float) (e : Int) : Float := x.scaleB e

/-- The upper part of `ln 2`, with trailing zero bits. -/
def ln2Hi : Float := 6.93147180369123816490e-01

/-- The rest of `ln 2`. -/
def ln2Lo : Float := 1.90821492927058770002e-10

/-- `e^x`. The nearest multiple `k` of `ln 2` is taken out in two parts, the
rest `r` is divided by 16, the series of `e^(r/16) - 1` runs to its ninth
term, and four squarings `t ↦ (t + 2) t` give `e^r - 1`. Past the largest
argument the result is infinite, and a power of two below the normal range
scales in two steps. -/
def exp (x : Float) : Float :=
  if x.isNaN then x
  else if x.isInf then (if x > 0 then x else 0)
  else if x > 7.09782712893384e+02 then inf
  else
    let k := roundEven (1.4426950408889634073599246810018920 * x)
    let e := k + 1023
    if e < -52 then 0
    else
      let kf := Float.ofInt k
      let x0 := (x - 0.69314718055966295651160180568695068359375 * kf) -
        0.28235290563031577122588448175013436025525412068e-12 * kf
      let x0 := x0 * 0.0625
      let t := 2.4801587301587301587e-5 * x0
      let t := (t + 1.9841269841269841270e-4) * x0
      let t := (t + 1.3888888888888888889e-3) * x0
      let t := (t + 8.3333333333333333333e-3) * x0
      let t := (t + 4.1666666666666666667e-2) * x0
      let t := (t + 1.6666666666666666667e-1) * x0
      let t := (t + 0.5) * x0
      let t := (t + 1.0) * x0
      let t := (t + 2.0) * t
      let t := (t + 2.0) * t
      let t := (t + 2.0) * t
      let t := (t + 2.0) * t
      let t := t + 1.0
      if e ≤ 0 then t * ofBitsNat ((e + 1022).toNat * Nat.pow 2 52) * ofBitsNat (Nat.pow 2 52)
      else if e ≥ 2047 then inf
      else t * ofBitsNat (e.toNat * Nat.pow 2 52)

/-- `ln x`. The argument is `f × 2^k` with `f` in [1/2, 1) read from its
fields, moved to [√2/2, √2]; with `s = (f-1)/(f+1)` the logarithm of `f` is
`2s + 2s³/3 + …`, summed in two interleaved halves. -/
def log (x : Float) : Float :=
  let b := bitsOf x
  if b % Nat.pow 2 63 == 0 then -inf
  else if b ≥ Nat.pow 2 63 then nan
  else if b ≥ 0x7FF0000000000000 then x
  else
    let f1 := ofBitsNat (b % Nat.pow 2 52 + 0x3FE0000000000000)
    let k := Float.ofInt (((b / Nat.pow 2 52 % 2048 : Nat) : Int) - 1022)
    let (f1, k) := if f1 ≤ 7.07106781186547524400844362104849039e-01 then (f1 * 2, k - 1) else (f1, k)
    let f := f1 - 1
    let s := f / (2 + f)
    let s2 := s * s
    let s4 := s2 * s2
    let t1 := s2 * (((1.479819860511658591e-01 * s4 + 1.818357216161805012e-01) * s4 +
      2.857142874366239149e-01) * s4 + 6.666666666666735130e-01)
    let t2 := s4 * ((1.531383769920937332e-01 * s4 + 2.222219843214978396e-01) * s4 +
      3.999999999940941908e-01)
    let r := t1 + t2
    let hfsq := 0.5 * f * f
    k * ln2Hi - ((hfsq - (s * (hfsq + r) + k * ln2Lo)) - f)

/-- `log₂ x`: the exponent of the argument plus the logarithm of its fraction,
exact for powers of two. -/
def log2 (x : Float) : Float :=
  let (frac, e) := frexp x
  if frac == 0.5 then Float.ofInt (e - 1)
  else log frac * 1.4426950408889634 + Float.ofInt e

/-- `log₁₀ x`. -/
def log10 (x : Float) : Float := log x * 0.4342944819032518

/-- `ln (1 + x)`, accurate near 0: `1 + x` is split like the argument of
`log`, with a correction for the rounding of the sum. -/
def log1p (x : Float) : Float :=
  if x < -1 || x.isNaN then nan
  else if x == -1 then -inf
  else if x.isInf then inf
  else
    let absx := x.abs
    let lp1 := 6.666666666666735130e-01
    let lp2 := 3.999999999940941908e-01
    let lp3 := 2.857142874366239149e-01
    let lp4 := 2.222219843214978396e-01
    let lp5 := 1.818357216161805012e-01
    let lp6 := 1.531383769920937332e-01
    let lp7 := 1.479819860511658591e-01
    if absx < 4.142135623730950488017e-01 && absx < 1.0 / 536870912.0 then
      if absx < 1.0 / 18014398509481984.0 then x else x - x * x * 0.5
    else
      let near := absx < 4.142135623730950488017e-01 && x > -2.928932188134524755992e-01
      -- k, f, iu and the correction c
      let (k, f, iu, c) : Int × Float × Nat × Float :=
        if near then (0, x, 1, 0)
        else
          let (u, c) : Float × Float :=
            if absx < 9007199254740992.0 then
              let u := 1.0 + x
              let k := ((bitsOf u / Nat.pow 2 52 : Nat) : Int) - 1023
              let c := if k > 0 then 1.0 - (u - x) else x - (u - 1.0)
              (u, c / u)
            else (x, 0)
          let iu := bitsOf u
          let k := ((iu / Nat.pow 2 52 : Nat) : Int) - 1023
          let iu := iu % Nat.pow 2 52
          if iu < 0x0006a09e667f3bcd then
            (k, ofBitsNat (iu + 0x3ff0000000000000) - 1.0, iu, c)
          else
            (k + 1, ofBitsNat (iu + 0x3fe0000000000000) - 1.0, (0x0010000000000000 - iu) / 4, c)
      let kf := Float.ofInt k
      let hfsq := 0.5 * f * f
      if iu == 0 then
        if f == 0 then
          if k == 0 then 0
          else kf * ln2Hi + (c + kf * ln2Lo)
        else
          let r := hfsq * (1.0 - 0.66666666666666666 * f)
          if k == 0 then f - r
          else kf * ln2Hi - ((r - (kf * ln2Lo + c)) - f)
      else
        let s := f / (2.0 + f)
        let z := s * s
        let r := z * (lp1 + z * (lp2 + z * (lp3 + z * (lp4 + z * (lp5 + z * (lp6 + z * lp7))))))
        if k == 0 then f - (hfsq - s * (hfsq + r))
        else kf * ln2Hi - ((hfsq - (s * (hfsq + r) + (kf * ln2Lo + c))) - f)

/-- `e^x - 1`, accurate near 0: the argument is reduced by a multiple `k` of
`ln 2` and a rational approximation gives `e^r - 1`, scaled back by `2^k`
in the way that keeps the most bits for each range of `k`. -/
def expm1 (x : Float) : Float :=
  if (x.isInf && x > 0) || x.isNaN then x
  else if x.isInf then -1
  else
    let sign := x < 0
    let absx := x.abs
    if absx ≥ 3.88162421113569373274e+01 && sign then -1
    else if absx ≥ 3.88162421113569373274e+01 && absx ≥ 7.09782712893383973096e+02 then inf
    else if absx ≤ 3.46573590279972654709e-01 && absx < 1.0 / 18014398509481984.0 then x
    else
      let (k, x, c) : Int × Float × Float :=
        if absx > 3.46573590279972654709e-01 then
          let (hi, lo, k) : Float × Float × Int :=
            if absx < 1.03972077083991796413e+00 then
              if !sign then (x - ln2Hi, ln2Lo, 1) else (x + ln2Hi, -ln2Lo, -1)
            else
              let k := if !sign then truncInt (1.44269504088896338700e+00 * x + 0.5)
                else truncInt (1.44269504088896338700e+00 * x - 0.5)
              let t := Float.ofInt k
              (x - t * ln2Hi, t * ln2Lo, k)
          let x' := hi - lo
          (k, x', (hi - x') - lo)
        else (0, x, 0)
      let hfx := 0.5 * x
      let hxs := x * hfx
      let r1 := 1 + hxs * (-3.33333333333331316428e-02 + hxs * (1.58730158725481460165e-03 +
        hxs * (-7.93650757867487942473e-05 + hxs * (4.00821782732936239552e-06 +
        hxs * (-2.01099218183624371326e-07)))))
      let t := 3 - r1 * hfx
      let e := hxs * ((r1 - t) / (6.0 - x * t))
      if k == 0 then x - (x * e - hxs)
      else
        let e := x * (e - c) - c
        let e := e - hxs
        if k == -1 then 0.5 * (x - e) - 0.5
        else if k == 1 then
          if x < -0.25 then -2 * (e - (x + 0.5)) else 1 + 2 * (x - e)
        else if k ≤ -2 || k > 56 then
          let y := 1 - (e - x)
          let y := if k == 1024 then y * 2 * ofBitsNat (0x7fe * Nat.pow 2 52)
            else y * ofBitsNat ((0x3ff + k).toNat * Nat.pow 2 52)
          y - 1
        else if k < 20 then
          let t := ofBitsNat (0x3ff0000000000000 - 0x20000000000000 / Nat.pow 2 k.toNat)
          let y := t - (e - x)
          y * ofBitsNat ((0x3ff + k).toNat * Nat.pow 2 52)
        else
          let t := ofBitsNat ((0x3ff - k).toNat * Nat.pow 2 52)
          let y := x - (e + t)
          let y := y + 1
          y * ofBitsNat ((0x3ff + k).toNat * Nat.pow 2 52)

/-- The cube root: a first guess from the exponent field divided by three,
a rational step to 23 bits, a chop to 22 bits rounded up, and one Newton step. -/
def cbrt (x : Float) : Float :=
  if x == 0 || x.isNaN || x.isInf then x
  else
    let sign := x < 0
    let x := x.abs
    let t := if x < 2.22507385850720138309e-308 then
        let t := 18014398509481984.0 * x
        ofBitsNat (bitsOf t / 3 + 696219795 * Nat.pow 2 32)
      else ofBitsNat (bitsOf x / 3 + 715094163 * Nat.pow 2 32)
    let r := t * t / x
    let s := 5.42857142857142815906e-01 + r * t
    let t := t * (3.57142857142857150787e-01 +
      1.60714285714285720630e+00 / (s + 1.41428571428571436819e+00 + -7.05306122448979611050e-01 / s))
    let t := ofBitsNat ((bitsOf t / Nat.pow 2 30) * Nat.pow 2 30 + Nat.pow 2 30)
    let s := t * t
    let r := x / s
    let w := t + t
    let r := (r - t) / (w + r)
    let t := t + t * r
    if sign then -t else t

/-- Whether a double is an odd integer (below 2^53). -/
def isOddInt (x : Float) : Bool :=
  if x.abs ≥ 9007199254740992.0 then false
  else
    let i := truncInt x
    Float.ofInt i == x && i % 2 == 1

/-- `x^i` for a natural `i`, kept as a fraction and a separate power of two:
each step squares the fraction and doubles the exponent, bringing the fraction
back to [1/2, 1); a huge exponent is left for the final scaling. -/
def powerSteps : Nat → Nat → Float × Int → Float × Int → Float × Int
  | 0, _, acc, _ => acc
  | fuel + 1, i, (a1, ae), (x1, xe) =>
    if i == 0 then (a1, ae)
    else if xe < -4096 || 4096 < xe then (a1, ae + xe)
    else
      let (a1, ae) := if i % 2 == 1 then (a1 * x1, ae + xe) else (a1, ae)
      let x1' := x1 * x1
      let xe' := xe * 2
      let (x1', xe') := if x1' < 0.5 then (x1' + x1', xe' - 1) else (x1', xe')
      powerSteps fuel (i / 2) (a1, ae) (x1', xe')

/-- `x^y` for doubles, with the special values of the power function: a zero
or infinite base by the sign and parity of the exponent, an infinite exponent
by whether the base is below 1 in size. The fractional part of the exponent
(moved into (-1/2, 1/2]) goes through `exp` and `log`; the whole part is
repeated squaring. -/
def pow (x y : Float) : Float :=
  if y == 0 || x == 1 then 1
  else if y == 1 then x
  else if x.isNaN || y.isNaN then nan
  else if x == 0 then
    if y < 0 then (if signBit x && isOddInt y then -inf else inf)
    else (if signBit x && isOddInt y then x else 0)
  else if y.isInf then
    if x == -1 then 1
    else if (x.abs < 1) == (y > 0) then 0
    else inf
  else if x.isInf then
    if x < 0 then
      if y > 0 then (if isOddInt y then -inf else inf)
      else (if isOddInt y then -0.0 else 0)
    else if y < 0 then 0 else inf
  else if y == 0.5 then x.sqrt
  else if y == -0.5 then 1 / x.sqrt
  else
    let ay := y.abs
    let yi := ay.floor
    let yf := ay - yi
    if yf != 0 && x < 0 then nan
    else if yi ≥ 9223372036854775808.0 then
      if x == -1 then 1
      else if (x.abs < 1) == (y > 0) then 0
      else inf
    else
      let (yi, yf) := if yf != 0 && yf > 0.5 then (yi + 1, yf - 1) else (yi, yf)
      let a1 := if yf != 0 then exp (yf * log x) else 1.0
      let (a1, ae) := powerSteps 70 yi.toUInt64.toNat (a1, 0) (frexp x)
      let (a1, ae) := if y < 0 then (1 / a1, -ae) else (a1, ae)
      ldexp a1 ae

end Elementary

end Userland
