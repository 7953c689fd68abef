/-!
Days of the Gregorian calendar, and the weeks that number the days of a year from Monday on: the
first week of a year is the one with its first Thursday.
-/

namespace PageLayers.Calendar

structure Date where
  year : Nat
  month : Nat
  day : Nat
  deriving DecidableEq, Repr

def isLeap (year : Nat) : Bool := year % 4 = 0 && (year % 100 ≠ 0 || year % 400 = 0)

def monthLengths (year : Nat) : List Nat :=
  [31, if isLeap year then 29 else 28, 31, 30, 31, 30, 31, 31, 30, 31, 30, 31]

namespace Date

def isValid (d : Date) : Bool :=
  1 ≤ d.year && d.year ≤ 9999 && 1 ≤ d.month && d.month ≤ 12 && 1 ≤ d.day &&
    d.day ≤ (monthLengths d.year).getD (d.month - 1) 0

def before (a b : Date) : Bool :=
  a.year < b.year ||
    (a.year = b.year && (a.month < b.month || (a.month = b.month && a.day < b.day)))

end Date

def daysBefore (year : Nat) : Nat :=
  let y := year - 1
  y * 365 + y / 4 - y / 100 + y / 400

/-- The day with the given number of days of its year before it; `month` is the month that the first
    length belongs to. -/
def dayOfYear (year month : Nat) : List Nat → Nat → Date
  | [], n => ⟨year, month, n + 1⟩
  | length :: rest, n =>
    if n < length then ⟨year, month, n + 1⟩ else dayOfYear year (month + 1) rest (n - length)

def dayNear (year days : Nat) : Date :=
  let home :=
    if days < daysBefore year then year - 1
    else if daysBefore (year + 1) ≤ days then year + 1
    else year
  dayOfYear home 1 (monthLengths home) (days - daysBefore home)

def firstWeekday (year : Nat) : Nat := daysBefore year % 7

def hasLongYear (year : Nat) : Bool :=
  firstWeekday year = 3 || (firstWeekday year = 2 && isLeap year)

def daysBeforeFirstWeek (year : Nat) : Nat :=
  let first := daysBefore year
  if 3 < firstWeekday year then first + 7 - firstWeekday year else first - firstWeekday year

/-- The day of a week of a year; weeks and weekdays are counted from 1. -/
def dateOfWeek? (year week weekday : Nat) : Option Date :=
  if 1 ≤ year && 1 ≤ week && (week ≤ 52 || (week = 53 && hasLongYear year)) && 1 ≤ weekday &&
    weekday ≤ 7 then
    some (dayNear year (daysBeforeFirstWeek year + (week - 1) * 7 + (weekday - 1)))
  else none

end PageLayers.Calendar
