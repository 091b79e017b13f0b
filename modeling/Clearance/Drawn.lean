/-
# Drawn values

Identifiers and times that are drawn afresh. Where they are only shown, they are not told apart: each
is written as the same mark, and a duration counts as zero. Where things are found by an identifier,
it is drawn from a supply that never gives the same one twice.
-/

import Clearance.Time.Moment
import Clearance.Value.Basic

namespace Clearance.Drawn

/-- Any identifier that is only shown. -/
def id : String := "<uuid>"

/-- Any time that was drawn. -/
def time : String := "<time>"

/-- Any duration that was measured. -/
def duration : Value := .int 0

/-- What all identifiers of a supply begin with. -/
def stem : String := "00000000-0000-4000-8000-"

/-- The identifier of a number in a supply. -/
def identifier (n : Nat) : String := stem ++ Time.padded 12 n

end Clearance.Drawn
