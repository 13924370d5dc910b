import Userland.Text.Integer
import Userland.Text.Utf8

namespace Userland

/-! # Durations

A duration is written as an optional sign and one or more numbers, each with
an optional fraction and a unit: `ns`, `us` (or with a micro sign), `ms`, `s`,
`m` or `h`, as in `1h30m` or `1.5s`. A lone `0` needs no unit. The value is a
count of nanoseconds that must fit a signed 64-bit word; a fraction's share is
computed in floating point and truncated.

Errors quote the whole text, with bytes that are not printable ASCII written as
`\x` escapes.
-/

namespace Duration

/-- Nanoseconds in each unit. -/
def unitNanos : String → Option Nat
  | "ns" => some 1
  | "us" => some 1000
  | "µs" => some 1000
  | "μs" => some 1000
  | "ms" => some 1000000
  | "s" => some 1000000000
  | "m" => some 60000000000
  | "h" => some 3600000000000
  | _ => none

/-- A text between double quotes, escaping quotes and backslashes, and writing
each byte of a character outside printable ASCII as `\x` and two hex digits. -/
def quote (s : String) : String :=
  let hex (b : UInt8) : String :=
    let d (k : Nat) : Char := "0123456789abcdef".toList.getD k '0'
    String.ofList ['\\', 'x', d (b.toNat / 16), d (b.toNat % 16)]
  "\"" ++ String.join (s.toList.map fun c =>
    if c.toNat ≥ 0x80 || c.toNat < 0x20 then String.join ((Utf8.encode c.toString).map hex)
    else if c = '"' || c = '\\' then "\\" ++ c.toString
    else c.toString) ++ "\""

/-- Whether a character may begin a number. -/
def isNumeral (c : Char) : Bool := c = '.' || c.isDigit

/-- The largest magnitude, 2^63. -/
def limit : Nat := 9223372036854775808

/-- Leading digits as a number, failing past 2^63. -/
def leadingInt (cs : List Char) : Option (Nat × List Char) :=
  let ds := cs.takeWhile Char.isDigit
  let v := ds.foldl (fun (acc : Option Nat) c => acc.bind fun x =>
    if x > limit / 10 then none
    else let y := x * 10 + (c.toNat - '0'.toNat); if y > limit then none else some y) (some 0)
  v.map fun x => (x, cs.drop ds.length)

/-- Leading fraction digits as a number and its scale, ignoring digits past overflow. -/
def leadingFraction (cs : List Char) : Nat × Float × List Char :=
  let ds := cs.takeWhile Char.isDigit
  let (x, scale, _) := ds.foldl (fun (x, scale, spilled) c =>
    if spilled then (x, scale, true)
    else if x > (limit - 1) / 10 then (x, scale, true)
    else
      let y := x * 10 + (c.toNat - '0'.toNat)
      if y > limit then (x, scale, true) else (y, scale * 10, false)) ((0 : Nat), (1 : Float), false)
  (x, scale, cs.drop ds.length)

/-- Reads the numbers and units after the sign, adding to `d`; at most `fuel` of them. -/
def parseTerms (given : String) : Nat → List Char → Nat → Except String Nat
  | 0, _, d => .ok d
  | _, [], d => .ok d
  | fuel + 1, cs, d =>
    let bad := "time: invalid duration " ++ quote given
    match cs with
    | c :: _ =>
      if !isNumeral c then .error bad
      else match leadingInt cs with
        | none => .error bad
        | some (v, rest) =>
          let pre := rest.length != cs.length
          let (f, scale, rest, post) := match rest with
            | '.' :: r => let (f, scale, r') := leadingFraction r; (f, scale, r', r'.length != r.length)
            | r => (0, 1, r, false)
          if !pre && !post then .error bad
          else
            let u := rest.takeWhile fun c => !isNumeral c
            let rest := rest.drop u.length
            if u.isEmpty then .error ("time: missing unit in duration " ++ quote given)
            else match unitNanos (String.ofList u) with
              | none => .error ("time: unknown unit " ++ quote (String.ofList u) ++ " in duration " ++ quote given)
              | some unit =>
                if v > limit / unit then .error bad
                else
                  let v := v * unit
                  let v := if f > 0 then v + (Float.ofNat f * (Float.ofNat unit / scale)).toUInt64.toNat else v
                  if v > limit then .error bad
                  else
                    let d := d + v
                    if d > limit then .error bad else parseTerms given fuel rest d
    | [] => .ok d

/-- The nanoseconds a duration text denotes. -/
def parse (s : String) : Except String Int :=
  let (neg, cs) := match s.toList with
    | '-' :: r => (true, r)
    | '+' :: r => (false, r)
    | r => (false, r)
  if cs = ['0'] then .ok 0
  else if cs.isEmpty then .error ("time: invalid duration " ++ quote s)
  else
    match parseTerms s (cs.length + 1) cs 0 with
    | .error e => .error e
    | .ok d =>
      if neg then .ok (-(d : Int))
      else if d > limit - 1 then .error ("time: invalid duration " ++ quote s)
      else .ok d

end Duration

end Userland
