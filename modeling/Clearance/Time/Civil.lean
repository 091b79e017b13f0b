/-
# Civil dates

Dates of the Gregorian calendar, carried back before its introduction, and their count of days from
the first day of year 1. That day is a Monday, so the count modulo seven is the weekday with Sunday
as zero.
-/

namespace Clearance.Time

/-- A calendar date. -/
structure Date where
  year : Nat
  month : Nat
  day : Nat
deriving DecidableEq

/-- Every fourth year is a leap year, but of the centuries only every fourth. -/
def isLeap (year : Nat) : Bool := year % 4 == 0 && (year % 100 != 0 || year % 400 == 0)

/-- The lengths of the months of a year. -/
def monthLengths (leap : Bool) : List Nat :=
  [31, if leap then 29 else 28, 31, 30, 31, 30, 31, 31, 30, 31, 30, 31]

/-- The number of days of the years before one. -/
def daysBeforeYear (year : Nat) : Nat :=
  let y := year - 1
  y * 365 + y / 4 - y / 100 + y / 400

/-- The number of days of a year before one of its months. -/
def daysBeforeMonth (leap : Bool) (month : Nat) : Nat :=
  ((monthLengths leap).take (month - 1)).foldr (· + ·) 0

/-- Days from the first day of year 1, which counts as one. -/
def Date.ordinal (d : Date) : Nat :=
  daysBeforeYear d.year + daysBeforeMonth (isLeap d.year) d.month + d.day

/-- The month and day that a number of days after the first of January falls on. -/
def monthDay : (month rest : Nat) → List Nat → Nat × Nat
  | month, rest, [] => (month, rest + 1)
  | month, rest, length :: lengths =>
    if rest < length then (month, rest + 1) else monthDay (month + 1) (rest - length) lengths

/-- The date with a given ordinal. Four centuries, a century and four years have fixed lengths but
for a leap day at the end, which the two ends of a cycle would otherwise miss. -/
def Date.ofOrdinal (ordinal : Nat) : Date :=
  let n := ordinal - 1
  let cycles := n / 146097
  let n := n % 146097
  let centuries := min 3 (n / 36524)
  let n := n - centuries * 36524
  let quads := n / 1461
  let n := n % 1461
  let years := min 3 (n / 365)
  let n := n - years * 365
  let year := cycles * 400 + centuries * 100 + quads * 4 + years + 1
  let (month, day) := monthDay 1 n (monthLengths (isLeap year))
  ⟨year, month, day⟩

/-- Weekday of a date, with Sunday as zero. -/
def Date.weekday (d : Date) : Nat := d.ordinal % 7

end Clearance.Time
