/-
# Values

The values that policies, attributes and callers bring along: what a structured document can hold,
and tuples, sets and moments beside it. A value has two texts. Its string form is what is stored and
compared; its literal form shows its kind and stands in traces and messages.
-/

import Clearance.Decimal.Format
import Clearance.Text.Pieces
import Clearance.Text.Quoted
import Clearance.Time.Iso

namespace Clearance

/-- A value of the kinds that conditions and contexts can hold. The entries of a dictionary keep the
order in which they were first written. -/
inductive Value where
  | null
  | bool (b : Bool)
  | int (n : Int)
  | float (x : Float)
  | text (s : String)
  | list (items : List Value)
  | tuple (items : List Value)
  | set (items : List Value)
  | moment (m : Time.Moment)
  | dict (entries : List (Value × Value))

instance : Inhabited Value := ⟨.null⟩

namespace Value

/-- The literal form of a truth value. -/
def boolLiteral (b : Bool) : String := if b then "True" else "False"

mutual

/-- The literal form of a value. -/
def literal : Value → String
  | null => "None"
  | bool b => boolLiteral b
  | int n => toString n
  | float x => Decimal.text x
  | text s => Text.quoted s
  | list items => "[" ++ literalItems items ++ "]"
  | tuple [item] => "(" ++ literal item ++ ",)"
  | tuple items => "(" ++ literalItems items ++ ")"
  | set [] => "set()"
  | set items => "\x7b" ++ literalItems items ++ "\x7d"
  | moment m => m.parts
  | dict entries => "\x7b" ++ literalEntries entries ++ "\x7d"

/-- The literal forms of items, separated by commas. -/
def literalItems : List Value → String
  | [] => ""
  | [item] => literal item
  | item :: items => literal item ++ ", " ++ literalItems items

/-- The literal forms of entries, separated by commas. -/
def literalEntries : List (Value × Value) → String
  | [] => ""
  | [(key, value)] => literal key ++ ": " ++ literal value
  | (key, value) :: entries => literal key ++ ": " ++ literal value ++ ", " ++ literalEntries entries

end

/-- The string form of a real number: an integral one is written out as an integer. -/
def floatString (x : Float) : String :=
  match Decimal.integer? x with
  | some n => toString n
  | none => Decimal.text x

mutual

/-- The string form of a value: nothing for null, words in lower case for truth values, and the
string forms of the items, separated by commas, for a sequence. Not every value can be written; this
is what it would be written as. -/
def string : Value → String
  | null => ""
  | bool b => if b then "true" else "false"
  | int n => toString n
  | float x => floatString x
  | text s => s
  | list items => stringItems items
  | tuple items => stringItems items
  | set items => stringItems items
  | moment m => m.iso "T"
  | dict entries => literal (dict entries)

/-- The string forms of items, separated by commas. -/
def stringItems : List Value → String
  | [] => ""
  | [item] => string item
  | item :: items => string item ++ "," ++ stringItems items

end

/-- The name of a value's kind, as recorded with context attributes. -/
def kindName : Value → String
  | null => "null"
  | bool _ => "boolean"
  | int _ | float _ => "number"
  | text _ => "string"
  | list _ | tuple _ | set _ => "array"
  | moment _ | dict _ => "object"

/-- The text that a value is turned into when a plain text is expected: the literal form for all
but texts and moments. -/
def plain : Value → String
  | text s => s
  | moment m => m.iso " "
  | v => literal v

/-- The items of a sequence. -/
def items? : Value → Option (List Value)
  | list items | tuple items | set items => some items
  | _ => none

/-- Whether a value counts as absent: null, false, zero, or nothing inside. -/
def isEmpty : Value → Bool
  | null => true
  | bool b => !b
  | int n => n == 0
  | float x => x == 0.0
  | text s => s.isEmpty
  | list items | tuple items | set items => items.isEmpty
  | moment _ => false
  | dict entries => entries.isEmpty

/-- A text, or null for none. -/
def ofOption : Option String → Value
  | none => null
  | some s => text s

/-- A dictionary with text keys. -/
def ofFields (fields : List (String × Value)) : Value :=
  dict (fields.map fun (name, value) => (text name, value))

end Value

end Clearance
