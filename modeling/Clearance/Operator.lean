/-
# Operators

The closed catalogue of comparisons between an attribute's value and the value that a condition
expects. Every comparison is one of string forms, or of the numbers that they spell. A comparison fails
if a value that it reads has no string form; where a number is asked for, a value whose digits are too
many just spells none. A search for a pattern also fails if the pattern asks for what is out of range or
has too many levels; a pattern that is merely malformed matches nothing.
-/

import Clearance.Pattern.Matcher
import Clearance.Value.Spelling

namespace Clearance

/-- A comparison between an actual and an expected value. -/
inductive Operator where
  | equals
  | notEquals
  | greaterThan
  | lessThan
  | contains
  | notContains
  | isIn
  | notIn
  | regex
  | present
  | absent
deriving DecidableEq, Repr

namespace Operator

/-- The name of an operator. -/
def name : Operator → String
  | equals => "equals"
  | notEquals => "not_equals"
  | greaterThan => "greater_than"
  | lessThan => "less_than"
  | contains => "contains"
  | notContains => "not_contains"
  | isIn => "in"
  | notIn => "not_in"
  | regex => "regex"
  | present => "exists"
  | absent => "not_exists"

/-- All operators. -/
def all : List Operator :=
  [equals, notEquals, greaterThan, lessThan, contains, notContains, isIn, notIn, regex, present,
    absent]

/-- Other names of operators. -/
def aliases : List (String × Operator) :=
  [("eq", equals), ("==", equals), ("ne", notEquals), ("!=", notEquals), ("gt", greaterThan),
    (">", greaterThan), ("lt", lessThan), ("<", lessThan), ("matches", regex)]

/-- The operator of a name or alias in lower case. -/
def ofName? (key : String) : Option Operator :=
  (aliases.lookup key).or (all.find? fun o => o.name == key)

/-- The operator that a text names, in any case and with blanks around it. -/
def parseText (s : String) : Option Operator := ofName? (Text.lower (Text.strip s))

/-- The operator that an optional text names. -/
def parse (name : Option String) : Option Operator := name.bind parseText

/-- The operator that a value names; null names none. -/
def parseValue : Value → Except Fault (Option Operator)
  | .null => .ok none
  | v => v.plained.map parseText

/-- Whether an operator ignores the expected value. -/
def isUnary : Operator → Bool
  | present | absent => true
  | _ => false

/-- The number that a text spells. An undefined number is none. -/
def readNumber? (s : String) : Option Float :=
  (Decimal.readFloat? (Text.strip s)).filter fun x => x == x

/-- The number that a value spells. Truth values are none, and so is a value that cannot be written
because of its digits. -/
def number? : Value → Except Fault (Option Float)
  | .bool _ => .ok none
  | v => (unlessBad v.spelled).map fun s => s.bind readNumber?

/-- The items that a value lists: those of a sequence, or the pieces of its string form between
commas. Blanks around an item do not count. -/
def items (v : Value) : Except Fault (List String) :=
  match v.items? with
  | some values => values.mapM fun item => item.spelled.map Text.strip
  | none => v.spelled.map fun s => (Text.split ',' s).map Text.strip

/-- Whether two values have the same string form. -/
def same (actual expected : Value) : Except Fault Bool := do
  let a ← actual.spelled
  let e ← expected.spelled
  return a == e

/-- Whether both values spell numbers in a relation. -/
def compare (relation : Float → Float → Bool) (actual expected : Value) : Except Fault Bool := do
  match ← number? actual, ← number? expected with
  | some a, some e => return relation a e
  | _, _ => return false

/-- Whether the expected string form stands inside the actual one. -/
def includes (actual expected : Value) : Except Fault Bool := do
  let e ← expected.spelled
  let a ← actual.spelled
  return Text.occursIn e.toList a.toList

/-- Whether the actual string form, without blanks around it, is one of the expected items. -/
def listed (actual expected : Value) : Except Fault Bool := do
  let a ← actual.spelled
  let listing ← items expected
  return listing.contains (Text.strip a)

/-- Whether a value is there and not empty. -/
def filled : Value → Except Fault Bool
  | .null => .ok false
  | v => v.spelled.map (· != "")

/-- The fault that a refused pattern is, if it is more than malformed. -/
def patternFault : Pattern.Refusal → Option Fault
  | .malformed => none
  | .repeatTooLarge => some (.overflow "the repetition number is too large")
  | .conflictingFlags => some (.badValue "ASCII and UNICODE flags are incompatible")
  | .tooLong digits => some (.badValue (Decimal.tooLongMessage digits))
  | .tooDeep => some (.tooDeep depthMessage)

/-- Whether the expected string form, read as a pattern, is found in the actual one. -/
def found (actual expected : Value) : Except Fault Bool := do
  let e ← expected.spelled
  match Pattern.read e with
  | .ok pattern => return pattern.foundIn (← actual.spelled)
  | .error refusal =>
    match patternFault refusal with
    | some fault => throw fault
    | none => return false

/-- Compare an actual with an expected value. -/
def apply (operator : Operator) (actual expected : Value) : Except Fault Bool :=
  match operator with
  | equals => same actual expected
  | notEquals => (same actual expected).map not
  | greaterThan => compare (fun a b => b < a) actual expected
  | lessThan => compare (fun a b => a < b) actual expected
  | contains => includes actual expected
  | notContains => (includes actual expected).map not
  | isIn => listed actual expected
  | notIn => (listed actual expected).map not
  | regex => found actual expected
  | present => filled actual
  | absent => (filled actual).map not

/-- Compare by an operator's name; an unknown name gives no answer. -/
def evaluate (name actual expected : Value) : Except Fault (Option Bool) := do
  match ← parseValue name with
  | none => return none
  | some operator => return some (← operator.apply actual expected)

end Operator

/-- How a rule is joined with the next one of its group. -/
inductive Connective where
  | and
  | or
deriving DecidableEq, Repr

namespace Connective

/-- The word for a connective. -/
def name : Connective → String
  | and => "AND"
  | or => "OR"

/-- The connective that a text names, in any case and with blanks around it. -/
def parseText (s : String) : Option Connective :=
  let key := Text.upper (Text.strip s)
  [and, or].find? fun c => c.name == key

/-- The connective that an optional text names; nothing and the empty text name the conjunction. -/
def parse : Option String → Option Connective
  | none => some and
  | some s => if s.isEmpty then some and else parseText s

/-- The connective that a value names; null and the empty text name the conjunction. -/
def parseValue : Value → Except Fault (Option Connective)
  | .null => .ok (some and)
  | .text s => .ok (parse (some s))
  | v => (unlessBad v.plained).map fun s => s.bind parseText

end Connective

end Clearance
