/-
# Time as attributes

The texts of a moment that become attributes of the environment. Both depend only on its instant, and
both fail for an instant whose universal time has no year of four digits.
-/

import Clearance.Failure

namespace Clearance.Time

/-- The fault of a moment beyond the calendar. -/
def beyondCalendar : Fault := .overflow "date value out of range"

/-- The timestamp of a moment. -/
def Moment.timestamp (m : Moment) : Except Fault String :=
  match m.timestamp? with
  | some s => .ok s
  | none => .error beyondCalendar

/-- The weekday of a moment. -/
def Moment.dayOfWeek (m : Moment) : Except Fault String :=
  match m.dayOfWeek? with
  | some s => .ok s
  | none => .error beyondCalendar

end Clearance.Time
