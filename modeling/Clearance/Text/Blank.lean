/-
# Blanks

The white space of every script together with the four separators U+001C to U+001F. Neither the
zero-width space nor the byte order mark is blank.
-/

namespace Clearance.Text

/-- White space and the separators of files, groups, records and units. -/
def isBlank (code : Nat) : Bool :=
  (9 ≤ code && code ≤ 13) || (28 ≤ code && code ≤ 32) || code == 0x85 || code == 0xA0 ||
  code == 0x1680 || (0x2000 ≤ code && code ≤ 0x200A) || code == 0x2028 || code == 0x2029 ||
  code == 0x202F || code == 0x205F || code == 0x3000

/-- Drop the characters of a class at the start of a text. -/
def dropStart (p : Nat → Bool) : List Char → List Char
  | [] => []
  | c :: rest => if p c.toNat then dropStart p rest else c :: rest

/-- Drop the characters of a class at both ends of a text. -/
def trim (p : Nat → Bool) (cs : List Char) : List Char :=
  (dropStart p (dropStart p cs).reverse).reverse

/-- A text without the blanks at its ends. -/
def strip (s : String) : String := String.ofList (trim isBlank s.toList)

end Clearance.Text
