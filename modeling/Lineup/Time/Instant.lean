/-
  Lineup.Time.Instant
  ───────────────────
  **POINTS IN TIME.**  An instant counts seconds from the start of 1970, and
  the nanoseconds behind the last of them.  Its text is that of RFC 3339, in
  universal time:

      2024-02-29T23:59:59.999999999+00:00

  The fraction has no, three, six or nine digits, as few as it needs.  Within a
  leap second the nanoseconds run on past a whole second.
-/
import Lineup.Text.Decimal

namespace Lineup

open Text

/-! ## §1. Dates. -/

/-- A day of the Gregorian calendar. -/
structure Date where
  /-- The year; 0 is the one before year 1. -/
  year : Int
  /-- The month, from 1. -/
  month : Nat
  /-- The day of the month, from 1. -/
  day : Nat
  deriving DecidableEq, Repr

namespace Date

/-- Days in a span of 400 years, after which the calendar repeats. -/
def daysPerCycle : Nat := 146097

/-- Days from the first of March of year 0 to the start of 1970. -/
def daysToEpoch : Nat := 719468

/-- Whole years among the first `n` days of a span of 400 years. Years start in
March, so a leap day is the last day of its year. -/
def yearOfCycle (n : Nat) : Nat := (n - n / 1460 + n / 36524 - n / 146096) / 365

/-- Days before the start of a year of the span. -/
def daysBefore (year : Nat) : Nat := 365 * year + year / 4 - year / 100

/-- The day so many days after the start of 1970. -/
def ofDays (days : Int) : Date :=
  let shifted := days + daysToEpoch
  let cycle := Int.fdiv shifted daysPerCycle
  let n := (Int.fmod shifted daysPerCycle).toNat
  let year := yearOfCycle n
  let inYear := n - daysBefore year
  -- every five months from March have 153 days
  let fromMarch := (5 * inYear + 2) / 153
  let month := if fromMarch < 10 then fromMarch + 3 else fromMarch - 9
  -- January and February belong to the next year
  { year := 400 * cycle + year + (if month ≤ 2 then 1 else 0)
    month := month
    day := inYear - (153 * fromMarch + 2) / 5 + 1 }

end Date

/-! ## §2. Instants. -/

/-- A point in time. -/
structure Instant where
  /-- Seconds from the start of 1970. -/
  seconds : Int
  /-- Nanoseconds behind that second; a whole second more in a leap second. -/
  nanos : Nat
  deriving DecidableEq, Repr

namespace Instant

/-- Seconds of a day. -/
def secondsPerDay : Nat := 86400

/-- Nanoseconds of a second. -/
def nanosPerSecond : Nat := 1000000000

/-- The day of an instant. -/
def date (t : Instant) : Date := .ofDays (Int.fdiv t.seconds secondsPerDay)

/-- The second of its day. -/
def secondOfDay (t : Instant) : Nat := (Int.fmod t.seconds secondsPerDay).toNat

/-- The first year that instants reach. -/
def minYear : Int := -262143

/-- The last year that instants reach. -/
def maxYear : Int := 262142

/-- The instant so many seconds and nanoseconds after the start of 1970. Only
the last second of a minute may be a leap second. -/
def ofUnix? (seconds : Int) (nanos : Nat) : Option Instant :=
  let t : Instant := ⟨seconds, nanos⟩
  if minYear ≤ t.date.year ∧ t.date.year ≤ maxYear
      ∧ (nanos < nanosPerSecond ∨ nanos < 2 * nanosPerSecond ∧ t.secondOfDay % 60 = 59) then
    some t
  else none

/-! ## §3. Text. -/

/-- A number with leading zeros, at least so many digits wide. -/
def padded (width n : Nat) : String :=
  String.ofList (List.replicate (width - (Nat.toDigits 10 n).length) '0' ++ Nat.toDigits 10 n)

/-- A year: four digits, and a sign when it is outside 0 to 9999. -/
def yearText (year : Int) : String :=
  (if year < 0 then "-" else if 9999 < year then "+" else "") ++ padded 4 year.natAbs

/-- A fraction of a second with no more digits than it needs, in groups of
three. -/
def fractionText (nanos : Nat) : String :=
  if nanos = 0 then ""
  else if nanos % 1000000 = 0 then "." ++ padded 3 (nanos / 1000000)
  else if nanos % 1000 = 0 then "." ++ padded 6 (nanos / 1000)
  else "." ++ padded 9 nanos

/-- The text of a date. -/
def dateText (d : Date) : String :=
  yearText d.year ++ "-" ++ padded 2 d.month ++ "-" ++ padded 2 d.day

/-- The text of an instant. -/
def rfc3339 (t : Instant) : String :=
  let leap := if nanosPerSecond ≤ t.nanos then 1 else 0
  dateText t.date ++ "T" ++ padded 2 (t.secondOfDay / 3600) ++ ":"
    ++ padded 2 (t.secondOfDay / 60 % 60) ++ ":" ++ padded 2 (t.secondOfDay % 60 + leap)
    ++ fractionText (t.nanos - leap * nanosPerSecond) ++ "+00:00"

end Instant

end Lineup
