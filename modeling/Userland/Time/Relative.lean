import Userland.Time.Instant

namespace Userland

/-! # Relative times

How long ago, or how far ahead, a time is, in words: `now` within a second,
then seconds, minutes, hours, days, weeks, months (of 30 days) and years (of 12
such months), each counted down to whole units, and `a long while` beyond 37
years. The span between two times is capped at the range of a signed 64-bit
count of nanoseconds.
-/

namespace Instant

/-- Nanoseconds since 1970 in UTC. -/
def unixNanos (t : Instant) : Int := t.seconds * 1000000000 + t.nanos

end Instant

namespace Relative

/-- Nanoseconds in a second, a day and a year. -/
def second : Int := 1000000000
def day : Int := 86400 * second
def month : Int := 30 * day
def year : Int := 12 * month

/-- The largest span. -/
def maxSpan : Int := 9223372036854775807

/-- The steps of the scale: below each bound, the words, and the unit the count is in (0 for none). -/
def magnitudes : List (Int × String × Int) :=
  [(second, "now", second),
   (2 * second, "1 second %s", 0),
   (60 * second, "%d seconds %s", second),
   (120 * second, "1 minute %s", 0),
   (3600 * second, "%d minutes %s", 60 * second),
   (7200 * second, "1 hour %s", 0),
   (day, "%d hours %s", 3600 * second),
   (2 * day, "1 day %s", 0),
   (7 * day, "%d days %s", day),
   (14 * day, "1 week %s", 0),
   (month, "%d weeks %s", 7 * day),
   (2 * month, "1 month %s", 0),
   (year, "%d months %s", month),
   (18 * month, "1 year %s", 0),
   (2 * year, "2 years %s", 0),
   (37 * year, "%d years %s", year),
   (maxSpan, "a long while %s", 0)]

/-- Fills `%d` with the count and `%s` with the label. -/
def fill (fmt : String) (count : Int) (label : String) : String :=
  ((fmt.replace "%d" (toString count)).replace "%s" label)

/-- How `t` stands to `now` in words. -/
def describe (t now : Instant) : String :=
  let d := now.unixNanos - t.unixNanos
  let (label, span) := if d < 0 then ("from now", -d) else ("ago", d)
  let span := min span maxSpan
  let (_, fmt, unit) := (magnitudes.find? fun (bound, _, _) => bound > span).getD
    (maxSpan, "a long while %s", 0)
  fill fmt (if unit = 0 then 0 else span / unit) label

end Relative

end Userland
