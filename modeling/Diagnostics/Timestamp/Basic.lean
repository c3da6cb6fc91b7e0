import Diagnostics.Text.Basic
import Diagnostics.Number.Rounding

/-!
Times of day on calendar dates, as patches name them. Years count from 1 to 9999. Which date and which
time of day it is depends on how clocks are set.
-/
namespace Diagnostics

inductive TimeError where
  /-- A number does not fit into 64 bits. -/
  | tooLong
  /-- A number is greater than any of 32 bits. -/
  | tooGreat
  /-- A number is less than any of 32 bits. -/
  | tooSmall
  /-- A number of seconds does not fit into 64 bits. -/
  | beyondClock
  /-- A number of seconds is not a number. -/
  | undefined
  | year (year : Int)
  | month
  | day
  | hour
  | minute
  | second
  | microsecond
  deriving DecidableEq

/-- A number cannot be kept at all, whatever it counts. -/
def TimeError.isOverflow : TimeError → Bool
  | .tooLong | .tooGreat | .tooSmall | .beyondClock => true
  | _ => false

def TimeError.message : TimeError → Text
  | .tooLong => "Python int too large to convert to C long".toList
  | .tooGreat => "signed integer is greater than maximum".toList
  | .tooSmall => "signed integer is less than minimum".toList
  | .beyondClock => "timestamp out of range for platform time_t".toList
  | .undefined => "Invalid value NaN (not a number)".toList
  | .year n => "year ".toList ++ Number.integerText n ++ " is out of range".toList
  | .month => "month must be in 1..12".toList
  | .day => "day is out of range for month".toList
  | .hour => "hour must be in 0..23".toList
  | .minute => "minute must be in 0..59".toList
  | .second => "second must be in 0..59".toList
  | .microsecond => "microsecond must be in 0..999999".toList

def daysIn (year month : Nat) : Nat :=
  if month = 2 then
    if year % 4 = 0 ∧ (year % 100 ≠ 0 ∨ year % 400 = 0) then 29 else 28
  else if month = 4 ∨ month = 6 ∨ month = 9 ∨ month = 11 then 30
  else 31

/-- A second of some day. -/
structure Timestamp where
  year : Nat
  month : Nat
  day : Nat
  hour : Nat
  minute : Nat
  second : Nat
  deriving DecidableEq

namespace Timestamp

def twoDigits (n : Nat) : Text :=
  if n < 10 then '0' :: Number.numeral n else Number.numeral n

/-- Day, month and year, and the time of day. -/
def text (t : Timestamp) : Text :=
  twoDigits t.day ++ '/' :: twoDigits t.month ++ '/' :: Number.numeral t.year ++ ", ".toList ++
    twoDigits t.hour ++ ':' :: twoDigits t.minute ++ ':' :: twoDigits t.second

/-- The year, the month and the day of a day that is counted from the first of January 1970. Years
are counted from March here, so that the day that a leap year adds is the last one. -/
def dateOf (day : Int) : Int × Nat × Nat :=
  let shifted := day + 719468
  let era := Int.fdiv shifted 146097
  let dayOfEra := (shifted - era * 146097).toNat
  let yearOfEra := (dayOfEra - dayOfEra / 1460 + dayOfEra / 36524 - dayOfEra / 146096) / 365
  let dayOfYear := dayOfEra - (365 * yearOfEra + yearOfEra / 4 - yearOfEra / 100)
  let monthFromMarch := (5 * dayOfYear + 2) / 153
  let day := dayOfYear - (153 * monthFromMarch + 2) / 5 + 1
  let month := if monthFromMarch < 10 then monthFromMarch + 3 else monthFromMarch - 9
  (yearOfEra + era * 400 + (if month ≤ 2 then 1 else 0), month, day)

/-- The time of six numbers, or the first of them that does not fit. -/
def ofParts (year month day hour minute second : Int) : Except TimeError Timestamp :=
  if year < 1 ∨ 9999 < year then .error (.year year)
  else if month < 1 ∨ 12 < month then .error .month
  else if day < 1 ∨ daysIn year.toNat month.toNat < day then .error .day
  else if hour < 0 ∨ 23 < hour then .error .hour
  else if minute < 0 ∨ 59 < minute then .error .minute
  else if second < 0 ∨ 59 < second then .error .second
  else .ok ⟨year.toNat, month.toNat, day.toNat, hour.toNat, minute.toNat, second.toNat⟩

/-- The time that lies some seconds after the start of 1970. -/
def ofSeconds (seconds : Int) : Except TimeError Timestamp :=
  let (year, month, day) := dateOf (Int.fdiv seconds 86400)
  let rest := Int.fmod seconds 86400
  ofParts year month day (rest / 3600) (rest / 60 % 60) (rest % 60)

/-- The seconds that some nanoseconds make, as a floating point number. -/
def secondsOf (nanoseconds : Int) : Float :=
  Float.ofInt (Int.fdiv nanoseconds 1000000000) +
    1e-9 * Float.ofInt (Int.fmod nanoseconds 1000000000)

/-- The seconds that clocks are ahead, at each second that is counted from the start of 1970. -/
abbrev Zone := Int → Int

/-- What clocks show some nanoseconds after the start of 1970. They are taken as a floating point
number of seconds, rounded to microseconds, and then the fraction of a second is dropped. -/
def ofNanoseconds (zone : Zone) (nanoseconds : Int) : Except TimeError Timestamp :=
  let microseconds := Number.inUnits Number.roundQuotient 1000000 (secondsOf nanoseconds)
  let seconds := Int.fdiv microseconds 1000000
  ofSeconds (seconds + zone seconds)

end Timestamp

/-- A clock: what it shows now, and how it is set. -/
structure Clock where
  now : Timestamp
  zone : Timestamp.Zone

end Diagnostics
