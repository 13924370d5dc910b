import Userland.Script.Number

namespace Userland

/-! # Calendar: time values, dates and their texts

A time value counts milliseconds from 1970-01-01T00:00:00Z, on the proleptic
Gregorian calendar, with no leap seconds. Its day is the floor of its quotient
by the milliseconds of a day, and the civil date of a day is found by the
400-year cycle of 146097 days: a cycle starting on 1 March keeps the leap day
last, so that the month and day come from the day of that shifted year by one
division. Times beyond 8.64 × 10^15 milliseconds either side of the epoch are
not times at all.

Local time is universal time here: the offset is zero and the zone is named
`UTC`.

The texts are the ISO form `2006-01-02T15:04:05.000Z` (with a sign and six
digits for the year outside -9999 to 9999), the long form
`Mon Jan 02 2006 15:04:05 GMT+0000 (UTC)` and its date and time halves, the
mail form `Mon, 02 Jan 2006 15:04:05 GMT`, and the short forms
`01/02/2006, 15:04:05`. Reading accepts the ISO forms with any tail left off
(a date alone is universal time, and so is a time without an offset here),
`2006-01-02 15:04:05`, and the long and mail forms.
-/

namespace Script

namespace Calendar

/-- Milliseconds in a day. -/
def msPerDay : Int := 86400000

/-- The largest distance of a time value from the epoch. -/
def maxTime : Int := 8640000000000000

/-- The civil date of a day counted from 1970-01-01: year, month (1 to 12) and day (1 to 31). -/
def civil (days : Int) : Int × Nat × Nat :=
  let z := days + 719468
  let era := z / 146097
  let doe := z - era * 146097
  let yoe := (doe - doe / 1460 + doe / 36524 - doe / 146096) / 365
  let doy := doe - (365 * yoe + yoe / 4 - yoe / 100)
  let mp := (5 * doy + 2) / 153
  let d := doy - (153 * mp + 2) / 5 + 1
  let m := if mp < 10 then mp + 3 else mp - 9
  let y := yoe + era * 400
  (if m ≤ 2 then y + 1 else y, m.toNat, d.toNat)

/-- The day counted from 1970-01-01 of a civil date; the day may run past its month. -/
def daysFrom (year : Int) (month day : Nat) : Int :=
  let y := if month ≤ 2 then year - 1 else year
  let era := y / 400
  let yoe := y - era * 400
  let mp : Int := if month > 2 then month - 3 else month + 9
  let doy := (153 * mp + 2) / 5 + day - 1
  let doe := yoe * 365 + yoe / 4 - yoe / 100 + doy
  era * 146097 + doe - 719468

/-- Whether a year is a leap year. -/
def isLeap (y : Int) : Bool := y % 4 == 0 && (y % 100 != 0 || y % 400 == 0)

/-- The number of days of a month (1 to 12) in a year. -/
def monthDays (y : Int) (m : Nat) : Nat :=
  if m == 2 then (if isLeap y then 29 else 28)
  else if m == 4 || m == 6 || m == 9 || m == 11 then 30
  else 31

/-- The parts of a time value. -/
structure Fields where
  year : Int
  /-- The month, from 0 for January. -/
  month : Nat
  /-- The day of the month, from 1. -/
  day : Nat
  hour : Nat
  minute : Nat
  second : Nat
  millisecond : Nat
  /-- The day of the week, from 0 for Sunday. -/
  weekday : Nat

/-- The parts of a time value. -/
def fields (t : Int) : Fields :=
  let days := t / msPerDay
  let ms := (t % msPerDay).toNat
  let (y, m, d) := civil days
  ⟨y, m - 1, d, ms / 3600000, ms / 60000 % 60, ms / 1000 % 60, ms % 1000, ((days + 4) % 7).toNat⟩

/-- A field by its index: 0 year, 1 month, 2 day, 3 hour, 4 minute, 5 second,
6 millisecond, 7 day of the week. -/
def Fields.get (f : Fields) : Nat → Int
  | 0 => f.year
  | 1 => f.month
  | 2 => f.day
  | 3 => f.hour
  | 4 => f.minute
  | 5 => f.second
  | 6 => f.millisecond
  | _ => f.weekday

/-- The time value of a year, month (from 0, any whole number), day (any whole
number), hour, minute, second and millisecond, each counted on from the one
before as far as it runs. -/
def compose (year month day hour minute second ms : Int) : Int :=
  let y := year + month / 12
  let m := (month % 12).toNat + 1
  (daysFrom y m 1 + day - 1) * msPerDay + hour * 3600000 + minute * 60000 + second * 1000 + ms

/-- A time value as a number: NaN beyond the range of times. -/
def clip (t : Int) : Float :=
  if t.natAbs > maxTime.natAbs then Number.nan else Number.ofInt t

/-- A double as a whole number of milliseconds, if it is a time. -/
def ofFloat (x : Float) : Option Int :=
  if x.isNaN || x.isInf || x.abs > 8.64e15 then none else (Decimal.truncate x)

/-- The English names of the days of the week, from Sunday. -/
def weekdayNames : List String := ["Sun", "Mon", "Tue", "Wed", "Thu", "Fri", "Sat"]

/-- The English names of the months, from January. -/
def monthNames : List String :=
  ["Jan", "Feb", "Mar", "Apr", "May", "Jun", "Jul", "Aug", "Sep", "Oct", "Nov", "Dec"]

/-- A whole number in at least `width` digits, with a minus before the digits when negative. -/
def padded (width : Nat) (n : Int) : String :=
  let ds := toString n.natAbs
  (if n < 0 then "-" else "") ++ Number.zeros (width - ds.length) ++ ds

/-- The ISO form, with a signed six-digit year outside -9999 to 9999. -/
def isoText (t : Int) : String :=
  let f := fields t
  let year := if f.year < -9999 || f.year > 9999 then (if f.year < 0 then "-" else "+") ++ padded 6 f.year.natAbs
    else padded 4 f.year
  year ++ "-" ++ padded 2 (f.month + 1) ++ "-" ++ padded 2 f.day ++ "T" ++ padded 2 f.hour ++ ":" ++
    padded 2 f.minute ++ ":" ++ padded 2 f.second ++ "." ++ padded 3 f.millisecond ++ "Z"

/-- The date half of the long form: `Mon Jan 02 2006`. -/
def dateText (t : Int) : String :=
  let f := fields t
  weekdayNames.getD f.weekday "" ++ " " ++ monthNames.getD f.month "" ++ " " ++ padded 2 f.day ++ " " ++
    padded 4 f.year

/-- The time half of the long form: `15:04:05 GMT+0000 (UTC)`. -/
def timeText (t : Int) : String :=
  let f := fields t
  padded 2 f.hour ++ ":" ++ padded 2 f.minute ++ ":" ++ padded 2 f.second ++ " GMT+0000 (UTC)"

/-- The long form: `Mon Jan 02 2006 15:04:05 GMT+0000 (UTC)`. -/
def longText (t : Int) : String := dateText t ++ " " ++ timeText t

/-- The mail form: `Mon, 02 Jan 2006 15:04:05 GMT`. -/
def mailText (t : Int) : String :=
  let f := fields t
  weekdayNames.getD f.weekday "" ++ ", " ++ padded 2 f.day ++ " " ++ monthNames.getD f.month "" ++ " " ++
    padded 4 f.year ++ " " ++ padded 2 f.hour ++ ":" ++ padded 2 f.minute ++ ":" ++ padded 2 f.second ++ " GMT"

/-- The short date: `01/02/2006`. -/
def shortDateText (t : Int) : String :=
  let f := fields t
  padded 2 (f.month + 1) ++ "/" ++ padded 2 f.day ++ "/" ++ padded 4 f.year

/-- The short time: `15:04:05`. -/
def shortTimeText (t : Int) : String :=
  let f := fields t
  padded 2 f.hour ++ ":" ++ padded 2 f.minute ++ ":" ++ padded 2 f.second

/-! ## Reading dates -/

/-- Exactly `n` decimal digits at the front, as a number, and what follows. -/
def digitsN (n : Nat) (cs : List Char) : Option (Nat × List Char) :=
  let ds := cs.take n
  if ds.length == n && ds.all Char.isDigit then
    some (ds.foldl (fun v c => v * 10 + (c.toNat - '0'.toNat)) 0, cs.drop n)
  else none

/-- A character expected at the front, and what follows it. -/
def expect (c : Char) : List Char → Option (List Char)
  | d :: rest => if c == d then some rest else none
  | [] => none

/-- A year at the front: four digits, or a sign and six. -/
def yearPart (cs : List Char) : Option (Int × List Char) :=
  match cs with
  | '+' :: rest => (digitsN 6 rest).map fun (y, r) => ((y : Int), r)
  | '-' :: rest =>
    (digitsN 6 rest).bind fun (y, r) => if y == 0 then none else some (-(y : Int), r)
  | _ => (digitsN 4 cs).map fun (y, r) => ((y : Int), r)

/-- An offset from universal time at the front, in minutes: `Z`, or a sign and
hours and minutes with or without a colon. -/
def offsetPart (cs : List Char) : Option (Int × List Char) :=
  match cs with
  | 'Z' :: rest => some (0, rest)
  | s :: rest =>
    if s == '+' || s == '-' then do
      let (h, r) ← digitsN 2 rest
      let r := match r with
        | ':' :: more => more
        | _ => r
      let (m, r) ← digitsN 2 r
      if h > 23 || m > 59 then none
      let v : Int := h * 60 + m
      some (if s == '-' then -v else v, r)
    else none
  | [] => none

/-- The time of day at the front, after its `T` or blank: `HH:mm`, then
optionally `:ss` and `.sss`; the milliseconds since midnight. -/
def clockPart (cs : List Char) : Option (Nat × List Char) := do
  let (h, r) ← digitsN 2 cs
  let r ← expect ':' r
  let (m, r) ← digitsN 2 r
  let (s, r) ← match r with
    | ':' :: more => digitsN 2 more
    | _ => some (0, r)
  let (ms, r) ← match r with
    | '.' :: more =>
      let ds := more.takeWhile Char.isDigit
      if ds.isEmpty then none
      else
        let first3 := (ds ++ ['0', '0', '0']).take 3
        some (first3.foldl (fun v c => v * 10 + (c.toNat - '0'.toNat)) 0, more.drop ds.length)
    | _ => some (0, r)
  if h > 24 || m > 59 || s > 59 || (h == 24 && (m != 0 || s != 0 || ms != 0)) then none
  some (h * 3600000 + m * 60000 + s * 1000 + ms, r)

/-- A date in the ISO forms: a year, then optionally a month and a day, then
optionally a time and an offset. -/
def isoDate (cs : List Char) : Option Int := do
  let (y, r) ← yearPart cs
  let (mo, d, r) ← match r with
    | '-' :: more => do
      let (mo, r) ← digitsN 2 more
      match r with
      | '-' :: more =>
        let (d, r) ← digitsN 2 more
        some (mo, d, r)
      | _ => some (mo, 1, r)
    | _ => some (1, 1, r)
  if mo < 1 || mo > 12 || d < 1 || d > monthDays y mo then none
  let day := daysFrom y mo d
  match r with
  | [] => some (day * msPerDay)
  | sep :: rest =>
    if sep != 'T' && sep != 't' && sep != ' ' then none
    let (ms, r) ← clockPart rest
    let (off, r) ← match r with
      | [] => some (0, [])
      | _ => offsetPart r
    if !r.isEmpty then none
    some (day * msPerDay + ms - off * 60000)

/-- The month whose English name starts a text. -/
def monthOf (cs : List Char) : Option (Nat × List Char) :=
  let name := String.ofList (cs.take 3)
  (monthNames.idxOf? name).map fun i => (i + 1, cs.drop 3)

/-- A date in the long form (`Mon Jan 02 2006 15:04:05 GMT+0000 (UTC)`) or the
mail form (`Mon, 02 Jan 2006 15:04:05 GMT`). -/
def namedDate (cs : List Char) : Option Int := do
  let name := String.ofList (cs.take 3)
  if !weekdayNames.contains name then none
  let r := cs.drop 3
  let (mo, d, r) ← match r with
    | ',' :: ' ' :: more => do
      let (d, r) ← digitsN 2 more
      let r ← expect ' ' r
      let (mo, r) ← monthOf r
      some (mo, d, r)
    | ' ' :: more => do
      let (mo, r) ← monthOf more
      let r ← expect ' ' r
      let (d, r) ← digitsN 2 r
      some (mo, d, r)
    | _ => none
  let r ← expect ' ' r
  let (y, r) ← digitsN 4 r
  let r ← expect ' ' r
  let (ms, r) ← clockPart r
  if ms % 1000 != 0 || mo > 12 || d < 1 || d > monthDays y mo then none
  let (off, r) ← match r with
    | ' ' :: 'G' :: 'M' :: 'T' :: more =>
      match more with
      | [] => some (0, [])
      | _ => offsetPart more
    | _ => none
  let r := match r with
    | ' ' :: '(' :: more => if more.getLast? == some ')' then [] else r
    | _ => r
  if !r.isEmpty then none
  some (daysFrom y mo d * msPerDay + ms - off * 60000)

/-- The time value a text names, if it is a date in one of the forms read. -/
def parse (s : String) : Option Int :=
  let cs := s.toList
  let t := match isoDate cs with
    | some t => some t
    | none => namedDate cs
  t.bind fun t => if t.natAbs > maxTime.natAbs then none else some t

end Calendar

end Script

end Userland
