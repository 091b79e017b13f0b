/-
# Values that cannot be spelled out

Not every value can be written. An integer may have too many digits, and sequences and dictionaries may
stand in each other so deeply that the writing runs out of calls. The first obstacle in the order of the
writing is the fault that comes of it.

The limit of a thousand is on all calls that are open at a time, also those from which a value is
written. How many are left for the writing is taken to be the same wherever it happens. Only examples
of what is nested too deeply depend on the number.
-/

import Clearance.Decimal.Reading
import Clearance.Failure

namespace Clearance

/-- What is said when the limit of calls is reached. -/
def depthMessage : String := "maximum recursion depth exceeded"

namespace Value

/-- How many calls are left for the writing of a value. -/
def room : Nat := 950

/-- What prevents an integer from being written. -/
def integerFault? (n : Int) : Option Fault :=
  if Decimal.isTooLong n then some (.badValue Decimal.tooLongToWrite) else none

/-- The fault of a value that is nested too deeply for its literal form. -/
def literalTooDeep : Fault := .tooDeep (depthMessage ++ " while getting the repr of an object")

mutual

/-- What prevents the literal form of a value from being written with a number of calls left. -/
def literalFault? : Nat → Value → Option Fault
  | 0, _ => some literalTooDeep
  | _ + 1, int n => integerFault? n
  | room + 1, list items => literalItemsFault? room items
  | room + 1, tuple items => literalItemsFault? room items
  | room + 1, set items => literalItemsFault? room items
  | room + 1, dict entries => literalEntriesFault? room entries
  | _ + 1, _ => none

/-- What prevents the literal forms of items from being written. -/
def literalItemsFault? : Nat → List Value → Option Fault
  | _, [] => none
  | room, item :: items => (literalFault? room item).or (literalItemsFault? room items)

/-- What prevents the literal forms of entries from being written. -/
def literalEntriesFault? : Nat → List (Value × Value) → Option Fault
  | _, [] => none
  | room, (key, value) :: entries =>
    ((literalFault? room key).or (literalFault? room value)).or (literalEntriesFault? room entries)

end

mutual

/-- What prevents the string form of a value from being written with a number of calls left. A sequence
takes three of them: for itself, for the joining and for the items. -/
def stringFault? : Nat → Value → Option Fault
  | _, int n => integerFault? n
  | room + 3, list items => stringItemsFault? room items
  | room + 3, tuple items => stringItemsFault? room items
  | room + 3, set items => stringItemsFault? room items
  | _, list _ => some (.tooDeep depthMessage)
  | _, tuple _ => some (.tooDeep depthMessage)
  | _, set _ => some (.tooDeep depthMessage)
  | room, dict entries => literalFault? room (dict entries)
  | _, _ => none

/-- What prevents the string forms of items from being written. -/
def stringItemsFault? : Nat → List Value → Option Fault
  | _, [] => none
  | room, item :: items => (stringFault? room item).or (stringItemsFault? room items)

end

/-- A value has a string form: nothing prevents it from being written. -/
def HasString (v : Value) : Prop := v.stringFault? room = none

instance (v : Value) : Decidable v.HasString :=
  decidable_of_iff ((v.stringFault? room).isNone = true) (by simp [HasString])

/-- The string form of a value, or what prevents it. -/
def spelled (v : Value) : Except Fault String :=
  match v.stringFault? room with
  | some fault => .error fault
  | none => .ok v.string

/-- What prevents the text of a value where a plain text is expected. -/
def plainFault? : Value → Option Fault
  | text _ | moment _ => none
  | v => literalFault? room v

/-- The text of a value where a plain text is expected, or what prevents it. -/
def plained (v : Value) : Except Fault String :=
  match v.plainFault? with
  | some fault => .error fault
  | none => .ok v.plain

end Value

end Clearance
