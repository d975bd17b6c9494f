import Datasheet.Binary64.Integral
import Datasheet.Binary64.Text

/-!
# Dates of worksheets

A worksheet gives a date as a serial: a number of days, counted from one of two
epochs (`Serial.instant?`). Serials below 60 count one day less, because the
older epoch is the day before 1899-12-31 and serial 60 a day that never was.
-/

namespace Datasheet

/-- A day of the Gregorian calendar, extended to all years. -/
structure Date where
  year : Int
  month : Nat
  day : Nat
deriving DecidableEq

namespace Date

/-- The day that is `n` days after 0000-03-01. Years are counted from March, so
that the leap day is the last of its year. -/
def ofDayNumber (n : Int) : Date :=
  let era := n / 146097
  let dayOfEra := (n % 146097).toNat
  let yearOfEra :=
    (dayOfEra - dayOfEra / 1460 + dayOfEra / 36524 - dayOfEra / 146096) / 365
  let dayOfYear := dayOfEra - (365 * yearOfEra + yearOfEra / 4 - yearOfEra / 100)
  let monthFromMarch := (5 * dayOfYear + 2) / 153
  let month := if monthFromMarch < 10 then monthFromMarch + 3 else monthFromMarch - 9
  { year := yearOfEra + era * 400 + if month ≤ 2 then 1 else 0
    month
    day := dayOfYear - (153 * monthFromMarch + 2) / 5 + 1 }

/-- The number of 1899-12-30. -/
def epochDay : Int := 693899

end Date

/-- A number with at least `width` digits. -/
def paddedNat (width n : Nat) : List Char :=
  let digits := Nat.toDigits 10 n
  List.replicate (width - digits.length) '0' ++ digits

/-- Years have four digits, or a sign if they need it. -/
def yearText (year : Int) : List Char :=
  let sign := if year < 0 then ['-'] else if 9999 < year then ['+'] else []
  sign ++ paddedNat 4 year.natAbs

inductive Epoch where
  | year1900
  | year1904
deriving DecidableEq

/-- Milliseconds in a day. -/
def dayMillis : Int := 86400000

/-- A date and a time of day. -/
structure Instant where
  date : Date
  second : Nat
deriving DecidableEq

namespace Instant

/-- Years that an instant may have. -/
def minYear : Int := -262143

def maxYear : Int := 262142

/-- The whole number nearest a number, kept within 64 bits; NaN counts as zero. -/
def wholeMillis (x : Binary64) : Int :=
  if x.isNaN then 0
  else if x.isInfinite then if x.negative then -Word.signedLimit else Word.signedLimit - 1
  else max (-Word.signedLimit) (min (Word.signedLimit - 1) x.roundAway.truncate)

/-- The instant of a serial, if the calendar reaches it. -/
def ofSerial? (epoch : Epoch) (serial : Binary64) : Option Instant :=
  let days := match epoch with
    | .year1900 => serial
    | .year1904 => serial.add (.ofNat 1462)
  let days := if days.lt (.ofNat 60) then days.add (.ofNat 1) else days
  let millis := wholeMillis (days.mul (.ofInt dayMillis))
  let date := Date.ofDayNumber (Date.epochDay + millis / dayMillis)
  if minYear ≤ date.year && date.year ≤ maxYear then
    some ⟨date, (millis % dayMillis / 1000).toNat⟩
  else none

/-- Date and time, separated by a space. -/
def text (t : Instant) : List Char :=
  yearText t.date.year ++ '-' :: paddedNat 2 t.date.month ++ '-' :: paddedNat 2 t.date.day
    ++ ' ' :: paddedNat 2 (t.second / 3600) ++ ':' :: paddedNat 2 (t.second / 60 % 60)
    ++ ':' :: paddedNat 2 (t.second % 60)

end Instant

end Datasheet
