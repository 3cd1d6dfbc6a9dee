import OutlineTables.Text.Basic

/-!
Dates of the proleptic Gregorian calendar and seconds since 1970-01-01 in universal time.
-/
namespace OutlineTables

/-- The first part of a date or clock time that is out of range. -/
inductive DateFault where
  | year (y : Nat)
  | month
  | day
  | hour
  | minute
deriving DecidableEq, Repr

def DateFault.message : DateFault → Text
  | year y => "year ".toList ++ Text.ofNat y ++ " is out of range".toList
  | month => "month must be in 1..12".toList
  | day => "day is out of range for month".toList
  | hour => "hour must be in 0..23".toList
  | minute => "minute must be in 0..59".toList

namespace Calendar

def isLeap (y : Nat) : Bool := y % 4 = 0 && (y % 100 ≠ 0 || y % 400 = 0)

def monthLength (y : Nat) : Nat → Nat
  | 2 => if isLeap y then 29 else 28
  | 4 | 6 | 9 | 11 => 30
  | _ => 31

/-- Days in the years 1 to `n`. -/
def daysInYears (n : Nat) : Nat := 365 * n + n / 4 - n / 100 + n / 400

/-- Days of year `y` in its first `m` months. -/
def daysInMonths (y : Nat) : Nat → Nat
  | 0 => 0
  | m + 1 => daysInMonths y m + monthLength y (m + 1)

/-- Days from 1970-01-01 to a date. -/
def dayNumber (y m d : Nat) : Int :=
  (daysInYears (y - 1) + daysInMonths y (m - 1) + d : Nat) - 719163

/-- The first part out of range, if there is one. -/
def fault? (y m d h mi : Nat) : Option DateFault :=
  if y < 1 ∨ 9999 < y then some (.year y)
  else if m < 1 ∨ 12 < m then some .month
  else if d < 1 ∨ monthLength y m < d then some .day
  else if 23 < h then some .hour
  else if 59 < mi then some .minute
  else none

/-- Seconds from 1970-01-01 to a minute of a valid date. -/
def seconds (y m d h mi : Nat) : Int :=
  86400 * dayNumber y m d + 3600 * h + 60 * mi

/-- The seconds of a date and time. The first day of the calendar has none, since the day before
it has no date. -/
def epoch (y m d h mi : Nat) : Except DateFault Int :=
  match fault? y m d h mi with
  | some f => .error f
  | none =>
    if y = 1 ∧ m = 1 ∧ d = 1 then .error (.year 0) else .ok (seconds y m d h mi)

end Calendar

end OutlineTables
