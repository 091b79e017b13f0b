/-
# Writing structured documents

A value on one line of plain characters: a blank after each comma and colon, everything outside
printable ASCII escaped by its code units. Sequences are arrays; what the format has no form for is
written as the text it is turned into.
-/

import Clearance.Value.Basic

namespace Clearance.Json

/-- One code unit by number. -/
def escapedUnit (n : Nat) : List Char := '\\' :: 'u' :: Text.hex 4 n

/-- One character of a string. -/
def writtenChar (c : Char) : List Char :=
  let n := c.toNat
  if c == '"' then ['\\', '"']
  else if c == '\\' then ['\\', '\\']
  else if c == '\n' then ['\\', 'n']
  else if c == '\r' then ['\\', 'r']
  else if c == '\t' then ['\\', 't']
  else if n == 8 then ['\\', 'b']
  else if n == 12 then ['\\', 'f']
  else if 32 ≤ n && n < 127 then [c]
  else if n < 0x10000 then escapedUnit n
  else
    let m := n - 0x10000
    escapedUnit (0xD800 + m / 0x400) ++ escapedUnit (0xDC00 + m % 0x400)

/-- A string in double quotes. -/
def writtenString (s : String) : String :=
  String.ofList ('"' :: s.toList.flatMap writtenChar ++ ['"'])

/-- A real number; the values that are no numbers are words. -/
def writtenFloat (x : Float) : String :=
  match Decimal.parts x with
  | .notANumber => "NaN"
  | .infinite negative => if negative then "-Infinity" else "Infinity"
  | _ => Decimal.text x

mutual

/-- A value on one line. -/
def write : Value → String
  | .null => "null"
  | .bool b => if b then "true" else "false"
  | .int n => toString n
  | .float x => writtenFloat x
  | .text s => writtenString s
  | .list items => "[" ++ writeItems items ++ "]"
  | .tuple items => "[" ++ writeItems items ++ "]"
  | .set items => writtenString (Value.literal (.set items))
  | .moment m => writtenString (m.iso " ")
  | .dict entries => "\x7b" ++ writeEntries entries ++ "\x7d"

/-- Items with commas between them. -/
def writeItems : List Value → String
  | [] => ""
  | [item] => write item
  | item :: items => write item ++ ", " ++ writeItems items

/-- Entries with commas between them; a key is written as a string. -/
def writeEntries : List (Value × Value) → String
  | [] => ""
  | [(key, value)] => writtenString key.plain ++ ": " ++ write value
  | (key, value) :: entries =>
    writtenString key.plain ++ ": " ++ write value ++ ", " ++ writeEntries entries

end

end Clearance.Json
