namespace Userland

/-! # Instants and their RFC 3339 text

An instant is a count of seconds since 1970-01-01T00:00:00Z, the nanoseconds
within that second, and the zone offset it is shown in. Civil dates use the
proleptic Gregorian calendar (days are converted by the era-based method: an era
is 400 years of 146097 days).

The text form is `YYYY-MM-DDTHH:MM:SS`, then a point and the nanoseconds with
trailing zeros dropped (nothing when they are zero), then `Z` for offset zero or
`+hh:mm` / `-hh:mm`.
-/

/-- A point in time with the zone offset, in seconds, it is shown in. -/
structure Instant where
  seconds : Int
  nanos : Nat
  offset : Int
  deriving DecidableEq, Repr, Inhabited

namespace Instant

/-- The zero instant: the first second of year 1, in UTC. -/
def zero : Instant := ⟨-62135596800, 0, 0⟩

/-- Days since 1970-01-01 of a civil date. -/
def daysFromCivil (y m d : Int) : Int :=
  let y := if m ≤ 2 then y - 1 else y
  let era := (if y ≥ 0 then y else y - 399) / 400
  let yoe := y - era * 400
  let mp := (m + 9) % 12
  let doy := (153 * mp + 2) / 5 + d - 1
  let doe := yoe * 365 + yoe / 4 - yoe / 100 + doy
  era * 146097 + doe - 719468

/-- The civil date of a count of days since 1970-01-01. -/
def civilFromDays (z : Int) : Int × Int × Int :=
  let z := z + 719468
  let era := (if z ≥ 0 then z else z - 146096) / 146097
  let doe := z - era * 146097
  let yoe := (doe - doe / 1460 + doe / 36524 - doe / 146096) / 365
  let y := yoe + era * 400
  let doy := doe - (365 * yoe + yoe / 4 - yoe / 100)
  let mp := (5 * doy + 2) / 153
  let d := doy - (153 * mp + 2) / 5 + 1
  let m := if mp < 10 then mp + 3 else mp - 9
  (if m ≤ 2 then y + 1 else y, m, d)

/-- A number written with at least `w` digits, zeros in front. -/
def pad (w : Nat) (n : Nat) : String :=
  let s := toString n
  String.ofList (List.replicate (w - s.length) '0') ++ s

/-- A year with at least four digits and a minus sign before a negative one. -/
def yearText (y : Int) : String :=
  if y < 0 then "-" ++ pad 4 (-y).toNat else pad 4 y.toNat

/-- The nanoseconds as a fraction with trailing zeros dropped, or nothing for zero. -/
def fraction (n : Nat) : String :=
  if n = 0 then ""
  else
    let digits := (pad 9 n).toList.reverse.dropWhile (· = '0') |>.reverse
    "." ++ String.ofList digits

/-- The zone part: `Z` for offset zero, else a signed `hh:mm`. -/
def zoneText (offset : Int) : String :=
  if offset = 0 then "Z"
  else
    let a := offset.natAbs
    (if offset < 0 then "-" else "+") ++ pad 2 (a / 3600) ++ ":" ++ pad 2 (a / 60 % 60)

/-- The RFC 3339 text with nanoseconds. -/
def format (t : Instant) : String :=
  let wall := t.seconds + t.offset
  let days := wall.fdiv 86400
  let secs := (wall - days * 86400).toNat
  let (y, m, d) := civilFromDays days
  yearText y ++ "-" ++ pad 2 m.toNat ++ "-" ++ pad 2 d.toNat ++ "T" ++ pad 2 (secs / 3600) ++ ":" ++
    pad 2 (secs / 60 % 60) ++ ":" ++ pad 2 (secs % 60) ++ fraction t.nanos ++ zoneText t.offset

/-- The same instant shown in UTC. -/
def toUtc (t : Instant) : Instant := { t with offset := 0 }

/-- Whether a year is a leap year. -/
def isLeap (y : Int) : Bool := (y % 4 = 0 && y % 100 ≠ 0) || y % 400 = 0

/-- The number of days in a month of a year. -/
def monthDays (y m : Int) : Int :=
  if m = 2 then (if isLeap y then 29 else 28)
  else if m = 4 || m = 6 || m = 9 || m = 11 then 30 else 31

/-- The value of exactly `n` decimal digits at the front, and the rest. -/
def digits (n : Nat) (cs : List Char) : Option (Nat × List Char) :=
  let ds := cs.take n
  if ds.length = n && ds.all Char.isDigit then
    some (ds.foldl (fun acc c => acc * 10 + (c.toNat - '0'.toNat)) 0, cs.drop n)
  else none

/-- The value of one or two decimal digits at the front, and the rest. -/
def shortNumber (cs : List Char) : Option (Nat × List Char) :=
  match cs with
  | a :: b :: r =>
    if a.isDigit then
      if b.isDigit then some ((a.toNat - '0'.toNat) * 10 + (b.toNat - '0'.toNat), r)
      else some (a.toNat - '0'.toNat, b :: r)
    else none
  | [a] => if a.isDigit then some (a.toNat - '0'.toNat, []) else none
  | [] => none

/-- Reads an RFC 3339 text: date, `T`, time, an optional fraction of one or more
digits after a period or comma (digits past the ninth are dropped), and `Z` or
a signed `hh:mm` offset. The hour may have one digit; the offset may reach 24
hours or 60 minutes, as some writers put them; every other field is in range. -/
def parse? (s : String) : Option Instant := do
  let cs := s.toList
  let (y, cs) ← digits 4 cs
  let cs ← match cs with | '-' :: r => some r | _ => none
  let (mo, cs) ← digits 2 cs
  let cs ← match cs with | '-' :: r => some r | _ => none
  let (d, cs) ← digits 2 cs
  let cs ← match cs with | 'T' :: r => some r | _ => none
  let (h, cs) ← shortNumber cs
  let cs ← match cs with | ':' :: r => some r | _ => none
  let (mi, cs) ← digits 2 cs
  let cs ← match cs with | ':' :: r => some r | _ => none
  let (se, cs) ← digits 2 cs
  let (nanos, cs) ← match cs with
    | sep :: c :: r =>
      if (sep = '.' || sep = ',') && c.isDigit then
        let ds := c :: r.takeWhile Char.isDigit
        let nine := (ds ++ List.replicate 9 '0').take 9
        some (nine.foldl (fun acc c => acc * 10 + (c.toNat - '0'.toNat)) 0, r.dropWhile Char.isDigit)
      else some (0, sep :: c :: r)
    | r => some (0, r)
  let offset ← match cs with
    | ['Z'] => some (0 : Int)
    | [sg, a, b, ':', c, e] =>
      if (sg = '+' || sg = '-') then do
        let (oh, _) ← digits 2 [a, b]
        let (om, _) ← digits 2 [c, e]
        if oh ≤ 24 && om ≤ 60 then
          let v : Int := (oh * 3600 + om * 60 : Nat)
          some (if sg = '-' then -v else v)
        else none
      else none
    | _ => none
  if mo < 1 || mo > 12 || d < 1 || (d : Int) > monthDays y mo || h > 23 || mi > 59 || se > 59 then none
  let wall := daysFromCivil y mo d * 86400 + (h * 3600 + mi * 60 + se : Nat)
  return ⟨wall - offset, nanos, offset⟩

end Instant

end Userland
