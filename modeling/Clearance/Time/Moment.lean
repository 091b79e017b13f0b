/-
# Moments

A moment is a civil date and time of day, with or without an offset from universal time. A moment
without an offset counts as universal time. Its instant is a number of microseconds, in which
moments with different offsets can be compared.
-/

import Clearance.Time.Civil

namespace Clearance.Time

/-- Microseconds of a second and of a day. -/
def perSecond : Nat := 1000000

@[inherit_doc perSecond]
def perDay : Nat := 86400 * perSecond

/-- A date with a time of day. The offset from universal time is in microseconds. -/
structure Moment where
  date : Date
  hour : Nat
  minute : Nat
  second : Nat
  microsecond : Nat
  offset : Option Int := none
deriving DecidableEq

/-- Microseconds from midnight. -/
def Moment.ofDay (m : Moment) : Nat :=
  (m.hour * 3600 + m.minute * 60 + m.second) * perSecond + m.microsecond

/-- Microseconds of universal time, counted from the midnight before the first day of year 1, which
has ordinal one. -/
def Moment.instant (m : Moment) : Int :=
  (m.date.ordinal : Int) * perDay + m.ofDay - m.offset.getD 0

/-- The last ordinal of a date with a year of four digits. -/
def lastOrdinal : Nat := 3652059

/-- The moment of universal time at an instant, if its year is one of 1 to 9999. -/
def Moment.ofInstant? (instant : Int) : Option Moment :=
  let day := instant / (perDay : Int)
  if 1 ≤ day && day ≤ lastOrdinal then
    let rest := (instant % (perDay : Int)).toNat
    let seconds := rest / perSecond
    some {
      date := Date.ofOrdinal day.toNat
      hour := seconds / 3600
      minute := seconds / 60 % 60
      second := seconds % 60
      microsecond := rest % perSecond
      offset := some 0 }
  else none

/-- The same instant in universal time. A moment without an offset only gets one. -/
def Moment.universal? (m : Moment) : Option Moment :=
  match m.offset with
  | none => some { m with offset := some 0 }
  | some _ => Moment.ofInstant? m.instant

/-- A number with leading zeros up to a width. -/
def padded (width n : Nat) : String :=
  let digits := Nat.toDigits 10 n
  String.ofList (List.replicate (width - digits.length) '0' ++ digits)

/-- The year without padding, the date, the time of day and whole milliseconds of a moment of
universal time. -/
def Moment.stamp (m : Moment) : String :=
  s!"{m.date.year}-{padded 2 m.date.month}-{padded 2 m.date.day}T" ++
  s!"{padded 2 m.hour}:{padded 2 m.minute}:{padded 2 m.second}." ++
  s!"{padded 3 (m.microsecond / 1000)}Z"

/-- The timestamp of a moment: its instant in universal time, cut to milliseconds. -/
def Moment.timestamp? (m : Moment) : Option String := m.universal?.map Moment.stamp

/-- The weekday of a moment in universal time, as one digit with Sunday as zero. -/
def Moment.dayOfWeek? (m : Moment) : Option String :=
  m.universal?.map fun u => String.ofList (Nat.toDigits 10 u.date.weekday)

end Clearance.Time
