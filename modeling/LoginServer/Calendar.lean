import LoginServer.Text.Numeral

/-!
# Calendar times

A time to the second in the proleptic Gregorian calendar, with a year zero and
without leap seconds.
-/

namespace LoginServer

/-- The years that a timestamp can have. -/
def yearInRange (year : Int) : Bool :=
  -262143 ≤ year && year ≤ 262142

/-- Every fourth year is a leap year, of the centuries only every fourth. -/
def isLeapYear (year : Int) : Bool :=
  year % 4 = 0 && (year % 100 ≠ 0 || year % 400 = 0)

/-- The number of days of a month, counted from 1; zero if there is no such
month. -/
def daysInMonth (year : Int) : Nat → Nat
  | 2 => if isLeapYear year then 29 else 28
  | 4 | 6 | 9 | 11 => 30
  | 1 | 3 | 5 | 7 | 8 | 10 | 12 => 31
  | _ => 0

/-- A date and a time of day. -/
structure Timestamp where
  year : Int
  month : Nat
  day : Nat
  hour : Nat
  minute : Nat
  second : Nat
  deriving DecidableEq, Repr

namespace Timestamp

/-- The date and the time of day exist. -/
def Exists (time : Timestamp) : Prop :=
  yearInRange time.year = true ∧ 1 ≤ time.day
    ∧ time.day ≤ daysInMonth time.year time.month
    ∧ time.hour < 24 ∧ time.minute < 60 ∧ time.second < 60

instance (time : Timestamp) : Decidable time.Exists := by
  unfold Exists
  infer_instance

/-- A year has four digits at least; a sign stands before negative years and
before those of more than four digits. -/
def renderYear (year : Int) : String :=
  let digits := Text.padded 4 year.natAbs
  if year < 0 then "-" ++ digits
  else if 9999 < year then "+" ++ digits
  else digits

/-- The time as `dd/mm/yyyy hh:mm:ss`. -/
def render (time : Timestamp) : String :=
  Text.padded 2 time.day ++ "/" ++ Text.padded 2 time.month ++ "/"
    ++ renderYear time.year ++ " " ++ Text.padded 2 time.hour ++ ":"
    ++ Text.padded 2 time.minute ++ ":" ++ Text.padded 2 time.second

end Timestamp
end LoginServer
