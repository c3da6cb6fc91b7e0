import Diagnostics.Error
import Diagnostics.Files

/-!
Times out of values. Each number is read, and has to fit into its word, before any of them is looked
at as a year or a month; so a number that is too long is found before a month that does not exist.
-/
namespace Diagnostics
namespace Timestamp

/-- An integer of 32 bits, with a flag as zero or one. -/
def number : Value → Outcome Int
  | .integer n =>
    if n < -Nat.pow 2 63 ∨ Nat.pow 2 63 ≤ n then .error (.time .tooLong)
    else if Nat.pow 2 31 ≤ n then .error (.time .tooGreat)
    else if n < -Nat.pow 2 31 then .error (.time .tooSmall)
    else .ok n
  | .flag b => .ok (if b then 1 else 0)
  | _ => .error .wrongType

/-- A time out of numbers: year, month and day, and as much of the time of day as is given, down to
microseconds, which are not kept. -/
def ofNumbers : List Int → Outcome Timestamp
  | year :: month :: day :: rest =>
    match ofParts year month day (rest.getD 0 0) (rest.getD 1 0) (rest.getD 2 0) with
    | .error e => .error (.time e)
    | .ok time =>
      let microsecond := rest.getD 3 0
      if microsecond < 0 ∨ 999999 < microsecond then .error (.time .microsecond) else .ok time
  | _ => .error .wrongType

/-- A time out of the values of its numbers. A zone may stand behind the microseconds, but none is
known. -/
def ofValues (values : List Value) : Outcome Timestamp :=
  if 8 < values.length then .error .wrongType
  else do
    let time ← ofNumbers (← (values.take 7).mapM number)
    match values.drop 7 with
    | [] | [.null] => return time
    | _ => .error .wrongType

end Timestamp

/-- The nanoseconds from the start of 1970 on that a file time in seconds stands for. Seconds are
counted in 64 bits. -/
def File.time : Value → Outcome Int
  | .flag b => .ok (if b then 1000000000 else 0)
  | .integer n =>
    if n < -Nat.pow 2 63 ∨ Nat.pow 2 63 ≤ n then .error (.time .beyondClock) else .ok (n * 1000000000)
  | .real x =>
    if x != x then .error (.time .undefined)
    else if -9223372036854775808.0 ≤ x ∧ x < 9223372036854775808.0 then .ok (File.nanoseconds x)
    else .error (.time .beyondClock)
  | _ => .error .wrongType

end Diagnostics
