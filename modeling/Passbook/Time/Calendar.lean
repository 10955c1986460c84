/-! The proleptic Gregorian calendar: a date of the years from 1 on against the number of days since 1 January
of year 1. -/
namespace Passbook.Time

structure Date where
  year : Nat
  month : Nat
  day : Nat
deriving DecidableEq, Repr

def isLeap (year : Nat) : Bool := year % 4 == 0 && (year % 100 != 0 || year % 400 == 0)

def monthLengths (leap : Bool) : List Nat :=
  [31, if leap then 29 else 28, 31, 30, 31, 30, 31, 31, 30, 31, 30, 31]

def monthLength (year month : Nat) : Nat := (monthLengths (isLeap year)).getD (month - 1) 0

def daysBeforeYear (year : Nat) : Nat :=
  let past := year - 1
  365 * past + past / 4 - past / 100 + past / 400

def daysBeforeMonth (year month : Nat) : Nat := ((monthLengths (isLeap year)).take (month - 1)).foldr (· + ·) 0

namespace Date

def IsValid (d : Date) : Prop :=
  1 ≤ d.year ∧ 1 ≤ d.month ∧ d.month ≤ 12 ∧ 1 ≤ d.day ∧ d.day ≤ monthLength d.year d.month

instance (d : Date) : Decidable d.IsValid := by unfold IsValid; infer_instance

def dayNumber (d : Date) : Nat := daysBeforeYear d.year + daysBeforeMonth d.year d.month + (d.day - 1)

/-- The month that holds day `n` of a year, and the day's place in it, both from 1 on. -/
def locate (month : Nat) : List Nat → Nat → Nat × Nat
  | [], n => (month, n + 1)
  | length :: lengths, n => if n < length then (month, n + 1) else locate (month + 1) lengths (n - length)

/-- Splits off spans of 400, 100 and 4 years and single years; the last span of each kind may be a day longer than its
fellows, so its number is capped. -/
def ofDayNumber (n : Nat) : Date :=
  let era := n / 146097
  let inEra := n % 146097
  let century := min (inEra / 36524) 3
  let inCentury := inEra - 36524 * century
  let quad := inCentury / 1461
  let inQuad := inCentury % 1461
  let single := min (inQuad / 365) 3
  let inYear := inQuad - 365 * single
  let year := 400 * era + 100 * century + 4 * quad + single + 1
  let (month, day) := locate 1 (monthLengths (isLeap year)) inYear
  ⟨year, month, day⟩

end Date

/-- Days from Monday of the week of 1 January 1, which was a Monday: 0 for Monday. -/
def weekday (dayNumber : Nat) : Nat := dayNumber % 7

/-- Day number of the Monday of the first week of a year: the week that holds 4 January. It lies before the calendar's
start in no year, since year 1 begins on a Monday. -/
def firstMonday (year : Nat) : Nat :=
  let fourth := daysBeforeYear year + 3
  fourth - weekday fourth

/-- The date of a week and weekday counted from 1, for a week the year has. -/
def dateOfWeek? (year week day : Nat) : Option Date :=
  if week = 0 ∨ day = 0 ∨ 7 < day ∨ 53 < week then none
  else
    let n := firstMonday year + 7 * (week - 1) + (day - 1)
    if week = 53 ∧ firstMonday (year + 1) ≤ firstMonday year + 7 * 52 then none else some (Date.ofDayNumber n)

end Passbook.Time
