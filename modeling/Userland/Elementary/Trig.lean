import Userland.Elementary.Exp

namespace Userland

/-! # Circular and hyperbolic functions of doubles

The trigonometric functions reduce their argument to an octant of the
circle: below 2^29 by subtracting a multiple of π/4 taken in three parts;
above, by multiplying the mantissa with the bits of 4/π at the argument's
exponent, a product exact in the bits that matter. On the octant they sum
short polynomials for sine and cosine, or a rational function for tangent.

The inverse functions use the rational approximation of the arctangent on
[0, 0.66] and its reflections; arcsine and arccosine go through it, and
`atan2` picks the quadrant. The hyperbolic functions come from `exp`,
`expm1`, `log` and `log1p`, with a rational kernel for small arguments.

Every step is a rounded operation on doubles, in the order given.
-/

namespace Elementary

/-- π/4. -/
def piOver4 : Float := 0.7853981633974483

/-- π/2. -/
def piOver2 : Float := 1.5707963267948966

/-- π. -/
def pi : Float := 3.141592653589793

/-- The binary digits of 4/π in 64-bit words, most significant first: the
first word holds the integer part 1, the rest the bits after the point. -/
def piWords : Array Nat := #[
  0x0000000000000001, 0x45f306dc9c882a53, 0xf84eafa3ea69bb81, 0xb6c52b3278872083,
  0xfca2c757bd778ac3, 0x6e48dc74849ba5c0, 0x0c925dd413a32439, 0xfc3bd63962534e7d,
  0xd1046bea5d768909, 0xd338e04d68befc82, 0x7323ac7306a673e9, 0x3908bf177bf25076,
  0x3ff12fffbc0b301f, 0xde5e2316b414da3e, 0xda6cfd9e4f96136e, 0x9e8c7ecd3cbfd45a,
  0xea4f758fd7cbe2f6, 0x7a0e73ef14a525d4, 0xd7f6bf623f1aba10, 0xac06608df8f6d757]

/-- The argument at and above which the reduction multiplies by the bits of 4/π. -/
def reduceThreshold : Float := 536870912.0

/-- Reduces a large positive argument to an octant: the octant modulo 8 and
the offset in it, in radians. The mantissa times the three words of 4/π at
its exponent gives the octant in the top three bits and the fraction after
them, which is normalized into a double and scaled by π/4. -/
def trigReduce (x : Float) : Nat × Float :=
  if x < piOver4 then (0, x)
  else
    let b := bitsOf x
    let exp : Int := ((b / Nat.pow 2 52 % 2048 : Nat) : Int) - 1023 - 52
    let ix := b % Nat.pow 2 52 + Nat.pow 2 52
    let at61 := (exp + 61).toNat
    let digit := at61 / 64
    let shift := at61 % 64
    let w (i : Nat) : Nat := piWords.getD i 0
    let word (i : Nat) : Nat :=
      (w i * Nat.pow 2 shift) % Nat.pow 2 64 + (if shift == 0 then 0 else w (i + 1) / Nat.pow 2 (64 - shift))
    let z0 := word digit
    let z1 := word (digit + 1)
    let z2 := word (digit + 2)
    let z2hi := z2 * ix / Nat.pow 2 64
    let z1hi := z1 * ix / Nat.pow 2 64
    let z1lo := z1 * ix % Nat.pow 2 64
    let z0lo := z0 * ix % Nat.pow 2 64
    let lo := (z1lo + z2hi) % Nat.pow 2 64
    let carry := (z1lo + z2hi) / Nat.pow 2 64
    let hi := (z0lo + z1hi + carry) % Nat.pow 2 64
    let j := hi / Nat.pow 2 61
    let hi := (hi * 8 + lo / Nat.pow 2 61) % Nat.pow 2 64
    let lz := if hi == 0 then 64 else 63 - Nat.log2 hi
    let e := 1023 - (lz + 1)
    let hi := (hi * Nat.pow 2 (lz + 1)) % Nat.pow 2 64 + (if lz + 1 ≥ 64 then lo else lo / Nat.pow 2 (64 - (lz + 1)))
    let hi := hi / Nat.pow 2 12 + e * Nat.pow 2 52
    let z := ofBitsNat hi
    if j % 2 == 1 then ((j + 1) % 8, (z - 1) * piOver4) else (j, z * piOver4)

/-- Reduces a positive argument to an octant: the octant (even, before
taking it modulo 8) and the offset from its middle. -/
def octant (x : Float) : Nat × Float :=
  if x ≥ reduceThreshold then trigReduce x
  else
    let j := (x * 1.2732395447351628).toUInt64.toNat
    let y := Float.ofNat j
    let (j, y) := if j % 2 == 1 then (j + 1, y + 1) else (j, y)
    (j, ((x - y * 7.85398125648498535156e-1) - y * 3.77489470793079817668e-8) -
      y * 2.69515142907905952645e-15)

/-- The sine kernel on an octant: `z + z³ P(z²)`. -/
def sinKernel (z zz : Float) : Float :=
  z + z * zz * (((((1.58962301576546568060e-10 * zz + -2.50507477628578072866e-8) * zz +
    2.75573136213857245213e-6) * zz + -1.98412698295895385996e-4) * zz +
    8.33333333332211858878e-3) * zz + -1.66666666666666307295e-1)

/-- The cosine kernel on an octant: `1 - z²/2 + z⁴ Q(z²)`. -/
def cosKernel (zz : Float) : Float :=
  1.0 - 0.5 * zz + zz * zz * (((((-1.13585365213876817300e-11 * zz + 2.08757008419747316778e-9) * zz +
    -2.75573141792967388112e-7) * zz + 2.48015872888517045348e-5) * zz +
    -1.38888888888730564116e-3) * zz + 4.16666666666665929218e-2)

/-- The sine. -/
def sin (x : Float) : Float :=
  if x == 0 || x.isNaN then x
  else if x.isInf then nan
  else
    let sign := x < 0
    let (j, z) := octant x.abs
    let j := j % 8
    let (sign, j) := if j > 3 then (!sign, j - 4) else (sign, j)
    let zz := z * z
    let y := if j == 1 || j == 2 then cosKernel zz else sinKernel z zz
    if sign then -y else y

/-- The cosine. -/
def cos (x : Float) : Float :=
  if x.isNaN || x.isInf then nan
  else
    let (j, z) := octant x.abs
    let j := j % 8
    let (sign, j) := if j > 3 then (true, j - 4) else (false, j)
    let sign := if j > 1 then !sign else sign
    let zz := z * z
    let y := if j == 1 || j == 2 then sinKernel z zz else cosKernel zz
    if sign then -y else y

/-- The tangent: a rational function on the octant, its negative reciprocal
on the odd quadrants. -/
def tan (x : Float) : Float :=
  if x == 0 || x.isNaN then x
  else if x.isInf then nan
  else
    let sign := x < 0
    let (j, z) := octant x.abs
    let zz := z * z
    let y := if zz > 1e-14 then
        z + z * (zz * ((-1.30936939181383777646e4 * zz + 1.15351664838587416140e6) * zz +
          -1.79565251976484877988e7) /
          ((((zz + 1.36812963470692954678e4) * zz + -1.32089234440210967447e6) * zz +
            2.50083801823357915839e7) * zz + -5.38695755929454629881e7))
      else z
    let y := if j / 2 % 2 == 1 then -1 / y else y
    if sign then -y else y

/-- The arctangent kernel on [0, 0.66]. -/
def xatan (x : Float) : Float :=
  let z := x * x
  let z := z * ((((-8.750608600031904122785e-01 * z + -1.615753718733365076637e+01) * z +
    -7.500855792314704667340e+01) * z + -1.228866684490136173410e+02) * z +
    -6.485021904942025371773e+01) /
    (((((z + 2.485846490142306297962e+01) * z + 1.650270098316988542046e+02) * z +
      4.328810604912902668951e+02) * z + 4.853903996359136964868e+02) * z +
      1.945506571482613964425e+02)
  x * z + x

/-- The arctangent of a non-negative argument: the kernel directly, after
the reflection `π/2 - atan(1/x)` above tan(3π/8), or after `π/4 + atan((x-1)/(x+1))`
between. -/
def satan (x : Float) : Float :=
  if x ≤ 0.66 then xatan x
  else if x > 2.41421356237309504880 then piOver2 - xatan (1 / x) + 6.123233995736765886130e-17
  else piOver4 + xatan ((x - 1) / (x + 1)) + 0.5 * 6.123233995736765886130e-17

/-- The arctangent. -/
def atan (x : Float) : Float :=
  if x == 0 then x
  else if x > 0 then satan x
  else -satan (-x)

/-- The arcsine, through the arctangent of `x / √(1 - x²)`. -/
def asin (x : Float) : Float :=
  if x == 0 then x
  else
    let sign := x < 0
    let x := x.abs
    if x > 1 then nan
    else
      let temp := (1 - x * x).sqrt
      let temp := if x > 0.7 then piOver2 - satan (temp / x) else satan (x / temp)
      if sign then -temp else temp

/-- The arccosine, `π/2 - asin x`. -/
def acos (x : Float) : Float := piOver2 - asin x

/-- A double with the sign of another. -/
def copysign (x s : Float) : Float := if signBit s then -x.abs else x.abs

/-- The angle of the point `(x, y)`: zeros and infinities by their signs,
else the arctangent of `y / x` moved into the right quadrant. -/
def atan2 (y x : Float) : Float :=
  if y.isNaN || x.isNaN then nan
  else if y == 0 then
    if x ≥ 0 && !signBit x then copysign 0 y else copysign pi y
  else if x == 0 then copysign piOver2 y
  else if x.isInf then
    if x > 0 then (if y.isInf then copysign piOver4 y else copysign 0 y)
    else if y.isInf then copysign 2.356194490192345 y
    else copysign pi y
  else if y.isInf then copysign piOver2 y
  else
    let q := atan (y / x)
    if x < 0 then (if q ≤ 0 then q + pi else q - pi) else q

/-- The hyperbolic sine: a rational kernel up to 1/2, `(e^x - e^-x)/2` up
to 21, and `e^x / 2` beyond. -/
def sinh (x : Float) : Float :=
  let sign := x < 0
  let x := if sign then -x else x
  let temp :=
    if x > 21 then exp x * 0.5
    else if x > 0.5 then
      let ex := exp x
      (ex - 1 / ex) * 0.5
    else
      let sq := x * x
      let temp := (((-0.2630563213397497062819489000e+2 * sq + -0.2894211355989563807284660366e+4) * sq +
        -0.8991272022039509355398013511e+5) * sq + -0.6307673640497716991184787251e+6) * x
      temp / (((sq + -0.173678953558233699533450911e+3) * sq + 0.1521517378790019070696485176e+5) * sq +
        -0.6307673640497716991212077277e+6)
  if sign then -temp else temp

/-- The hyperbolic cosine. -/
def cosh (x : Float) : Float :=
  let x := x.abs
  if x > 21 then exp x * 0.5
  else
    let ex := exp x
    (ex + 1 / ex) * 0.5

/-- The hyperbolic tangent: ±1 far out, `1 - 2/(e^2x + 1)` from 0.625, and a
rational kernel below. -/
def tanh (x : Float) : Float :=
  let z := x.abs
  if z > 0.5 * 8.8029691931113054295988e+01 then (if x < 0 then -1 else 1)
  else if z ≥ 0.625 then
    let s := exp (2 * z)
    let z := 1 - 2 / (s + 1)
    if x < 0 then -z else z
  else if x == 0 then x
  else
    let s := x * x
    x + x * s * ((-9.64399179425052238628e-1 * s + -9.92877231001918586564e1) * s +
      -1.61468768441708447952e3) /
      (((s + 1.12811678491632931402e2) * s + 2.23548839060100448583e3) * s + 4.84406305325125486048e3)

/-- The inverse hyperbolic sine. -/
def asinh (x : Float) : Float :=
  if x.isNaN || x.isInf then x
  else
    let sign := x < 0
    let x := x.abs
    let temp :=
      if x > 268435456.0 then log x + 6.93147180559945286227e-01
      else if x > 2 then log (2 * x + 1 / ((x * x + 1).sqrt + x))
      else if x < 1.0 / 268435456.0 then x
      else log1p (x + x * x / (1 + (1 + x * x).sqrt))
    if sign then -temp else temp

/-- The inverse hyperbolic cosine. -/
def acosh (x : Float) : Float :=
  if x < 1 || x.isNaN then nan
  else if x == 1 then 0
  else if x ≥ 268435456.0 then log x + 0.6931471805599453
  else if x > 2 then log (2 * x - 1 / (x + (x * x - 1).sqrt))
  else
    let t := x - 1
    log1p (t + (2 * t + t * t).sqrt)

/-- The inverse hyperbolic tangent. -/
def atanh (x : Float) : Float :=
  if x < -1 || x > 1 || x.isNaN then nan
  else if x == 1 then inf
  else if x == -1 then -inf
  else
    let sign := x < 0
    let x := x.abs
    let temp :=
      if x < 1.0 / 268435456.0 then x
      else if x < 0.5 then
        let t := x + x
        0.5 * log1p (t + t * x / (1 - x))
      else 0.5 * log1p ((x + x) / (1 - x))
    if sign then -temp else temp

end Elementary

end Userland
