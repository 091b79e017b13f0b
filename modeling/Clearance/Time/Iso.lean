/-
# Moments as text

The written forms of a moment: the standard form with a chosen separator between date and time, and
the form that names its parts. Fractions and offsets are written only as far as they are not zero.
-/

import Clearance.Time.Moment

namespace Clearance.Time

/-- An offset with its sign; seconds and microseconds are left out when they are zero. -/
def offsetText (offset : Int) : String :=
  let n := offset.natAbs
  let seconds := n / perSecond
  let micros := n % perSecond
  (if offset < 0 then "-" else "+") ++ padded 2 (seconds / 3600) ++ ":" ++
  padded 2 (seconds / 60 % 60) ++
  (if seconds % 60 == 0 && micros == 0 then "" else ":" ++ padded 2 (seconds % 60)) ++
  (if micros == 0 then "" else "." ++ padded 6 micros)

/-- The standard form of a moment. -/
def Moment.iso (m : Moment) (separator : String) : String :=
  padded 4 m.date.year ++ "-" ++ padded 2 m.date.month ++ "-" ++ padded 2 m.date.day ++ separator ++
  padded 2 m.hour ++ ":" ++ padded 2 m.minute ++ ":" ++ padded 2 m.second ++
  (if m.microsecond == 0 then "" else "." ++ padded 6 m.microsecond) ++
  (m.offset.map offsetText).getD ""

/-- A span of time by its parts, days rounded down. -/
def spanText (micros : Int) : String :=
  let days := micros / (perDay : Int)
  let rest := (micros % (perDay : Int)).toNat
  let parts :=
    (if days == 0 then [] else [s!"days={days}"]) ++
    (if rest / perSecond == 0 then [] else [s!"seconds={rest / perSecond}"]) ++
    (if rest % perSecond == 0 then [] else [s!"microseconds={rest % perSecond}"])
  let body := if parts.isEmpty then "0" else ", ".intercalate parts
  "datetime.timedelta(" ++ body ++ ")"

/-- The parts of a moment by number; seconds and microseconds are left out when they and what
follows them are zero. -/
def Moment.parts (m : Moment) : String :=
  let numbers := [m.date.year, m.date.month, m.date.day, m.hour, m.minute] ++
    (if m.microsecond != 0 then [m.second, m.microsecond]
     else if m.second != 0 then [m.second] else [])
  let zone := match m.offset with
    | none => []
    | some 0 => ["tzinfo=datetime.timezone.utc"]
    | some offset => ["tzinfo=datetime.timezone(" ++ spanText offset ++ ")"]
  "datetime.datetime(" ++ ", ".intercalate (numbers.map toString ++ zone) ++ ")"

/-- Read exactly so many digits. -/
def digits? : (count : Nat) → List Char → Option (Nat × List Char)
  | 0, cs => some (0, cs)
  | count + 1, c :: rest =>
    if '0' ≤ c && c ≤ '9' then
      (digits? count rest).map fun (n, rest) => ((c.toNat - 48) * 10 ^ count + n, rest)
    else none
  | _ + 1, [] => none

/-- A number after a mark, or zero and the same text if the mark is not there. -/
def marked? (mark : Char) (cs : List Char) : Option (Nat × List Char) :=
  match cs with
  | c :: rest => if c == mark then digits? 2 rest else some (0, cs)
  | [] => some (0, [])

/-- A fraction of a second, cut to microseconds. -/
def fraction? : List Char → Option (Nat × List Char)
  | c :: rest =>
    if c == '.' || c == ',' then
      let digits := rest.takeWhile fun d => '0' ≤ d && d ≤ '9'
      if digits.isEmpty then none
      else
        let six := (digits ++ List.replicate 6 '0').take 6
        (digits? 6 six).map fun (n, _) => (n, rest.drop digits.length)
    else some (0, c :: rest)
  | [] => some (0, [])

/-- Hours, minutes, seconds and microseconds; all but the hours may be missing from the end. -/
def clock? (cs : List Char) : Option ((Nat × Nat × Nat × Nat) × List Char) := do
  let (hour, rest) ← digits? 2 cs
  let (minute, rest) ← marked? ':' rest
  let (second, rest) ← marked? ':' rest
  let (micro, rest) ← fraction? rest
  some ((hour, minute, second, micro), rest)

/-- An offset after the time of day, or nothing. -/
def offset? : List Char → Option (Option Int)
  | [] => some none
  | ['Z'] => some (some 0)
  | sign :: rest => do
    let ((hour, minute, second, micro), rest) ← clock? rest
    if !rest.isEmpty || 24 ≤ hour || 60 ≤ minute || 60 ≤ second then none
    else
      let n : Int := (hour * 3600 + minute * 60 + second) * perSecond + micro
      if sign == '+' then some (some n) else if sign == '-' then some (some (-n)) else none

/-- Read the standard form of a moment. The time of day may be missing. -/
def Moment.read? (s : String) : Option Moment := do
  let (year, rest) ← digits? 4 s.toList
  let (month, rest) ← (match rest with | '-' :: r => digits? 2 r | _ => none)
  let (day, rest) ← (match rest with | '-' :: r => digits? 2 r | _ => none)
  let date : Date := ⟨year, month, day⟩
  if year == 0 || month == 0 || 12 < month || day == 0 ||
      (monthLengths (isLeap year)).getD (month - 1) 0 < day then none
  else match rest with
    | [] => some ⟨date, 0, 0, 0, 0, none⟩
    | _ :: rest => do
      let ((hour, minute, second, micro), rest) ← clock? rest
      let offset ← offset? rest
      if 24 ≤ hour || 60 ≤ minute || 60 ≤ second then none
      else some ⟨date, hour, minute, second, micro, offset⟩

end Clearance.Time
