import AlgebraDesk.Decimal.Fixed
import AlgebraDesk.Value.Number

/-!
# Time stamps

A moment is a number of seconds since the start of 1970, and is written as date and time of day.
Days are counted in eras of 400 years, each of which has the same number of days; a year is taken to
begin in March, so that the leap day is its last.

* `Date`          year, month and day;
* `Date.ofDays`   the date of a day counted from the start of 1970;
* `seconds`       the whole seconds of a moment, which is known to a microsecond;
* `timestamp`     the text of a moment; years have four digits.
-/

namespace AlgebraDesk.Log

structure Date where
  year : Int
  month : Nat
  day : Nat
  deriving DecidableEq, Repr

namespace Date

def daysPerEra : Nat := 146097

/-- Days from the first of March of year 0 to the start of 1970. -/
def epochDay : Int := 719468

/-- The year within an era, from the day within it. -/
def yearOfEra (day : Nat) : Nat := (day - day / 1460 + day / 36524 - day / 146096) / 365

def ofDays (days : Int) : Date :=
  let count := days + epochDay
  let era := count / daysPerEra
  let day := (count % daysPerEra).toNat
  let year := yearOfEra day
  let dayOfYear := day - (365 * year + year / 4 - year / 100)
  let march := (5 * dayOfYear + 2) / 153
  let month := if march < 10 then march + 3 else march - 9
  { year := year + era * 400 + (if month ≤ 2 then 1 else 0)
    month
    day := dayOfYear - (153 * march + 2) / 5 + 1 }

end Date

/-- A number with zeros in front. -/
def padded (width n : Nat) : String :=
  String.ofList (Decimal.padZeros width (Decimal.digits n))

def secondsPerDay : Int := 86400

/-- Moments that a clock can count. -/
def maxSeconds : Int := 9223372036854775807

def microsecondsPerSecond : Int := 1000000

/-- The fraction of a second is rounded to a microsecond before it is dropped. -/
def realSeconds (x : Float) : Except Fault Int :=
  match Double.truncate? x with
  | none => if x.isNaN then .error .badValue else .error .tooLarge
  | some whole =>
    let fraction := x - (Double.ofInt? whole).getD x
    let micros := (Double.round? (fraction * 1000000.0)).getD 0
    let carry : Int := if microsecondsPerSecond ≤ micros then 1 else if micros < 0 then -1 else 0
    .ok (whole + carry)

def seconds (v : Value) : Except Fault Int := do
  let n ← match ← v.asNumber with
    | .int n => .ok n
    | .real x => realSeconds x
  if maxSeconds < n || n < -maxSeconds - 1 then .error .tooLarge else return n

/-- The first moment with a time stamp: the second day of year 1. -/
def firstSecond : Int := -62135510400

/-- The first moment after the year 9999. -/
def endSecond : Int := 253402300800

def timestamp (v : Value) : Except Fault String := do
  let n ← seconds v
  if n < firstSecond || endSecond ≤ n then .error .badValue
  else
    let date := Date.ofDays (n / secondsPerDay)
    let time := (n % secondsPerDay).toNat
    return padded 4 date.year.toNat ++ "-" ++ padded 2 date.month ++ "-" ++ padded 2 date.day
      ++ "T" ++ padded 2 (time / 3600) ++ ":" ++ padded 2 (time / 60 % 60)
      ++ ":" ++ padded 2 (time % 60)

end AlgebraDesk.Log
