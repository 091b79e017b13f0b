/-
# Reading numbers

A number may stand between blanks, be signed, use the decimal digits of any script, and have single
underscores between digits. A real number may have a point, an exponent, or be a word for infinity
or for an undefined value. Overflow is infinite.
-/

import Clearance.Decimal.Binary
import Clearance.Text.Blank
import Clearance.Text.Case
import Clearance.Text.Digit

namespace Clearance.Decimal

/-- Blanks around a number; the four separators of files, groups, records and units are none. -/
def isNumberBlank (code : Nat) : Bool := Text.isBlank code && !(28 ≤ code && code ≤ 31)

/-- Digits of any script as the ten of ASCII. -/
def plainDigit (c : Char) : Char :=
  match Text.digitValue? c.toNat with
  | some d => Char.ofNat (48 + d)
  | none => c

/-- Whether a character is an ASCII digit. -/
def isPlainDigit (c : Char) : Bool := '0' ≤ c && c ≤ '9'

/-- Drop underscores; each must have a digit on both sides. -/
def dropUnderscores (previous : Char) : List Char → Option (List Char)
  | [] => if previous == '_' then none else some []
  | c :: rest =>
    if c == '_' then
      if isPlainDigit previous then dropUnderscores c rest else none
    else if previous == '_' && !isPlainDigit c then none
    else (dropUnderscores c rest).map (c :: ·)

/-- The characters of a number: trimmed, with plain digits and no underscores. -/
def numberChars? (s : String) : Option (List Char) :=
  dropUnderscores ' ' ((Text.trim isNumberBlank s.toList).map plainDigit)

/-- The value of a list of plain digits. -/
def digitsValue (digits : List Char) : Nat :=
  digits.foldl (fun n c => 10 * n + (c.toNat - 48)) 0

/-- A sign, if there is one, and the rest; true is negative. -/
def signed : List Char → Bool × List Char
  | '-' :: rest => (true, rest)
  | '+' :: rest => (false, rest)
  | cs => (false, cs)

/-- Why a text is no integer. -/
inductive IntegerError where
  | malformed
  /-- More digits than are converted. -/
  | tooLong (digits : Nat)
deriving DecidableEq

/-- The most digits that are converted between text and integers. -/
def digitLimit : Nat := 4300

/-- What is said of a number with too many digits. -/
def tooLongMessage (digits : Nat) : String :=
  s!"Exceeds the limit ({digitLimit} digits) for integer string conversion: value has " ++
  s!"{digits} digits; use sys.set_int_max_str_digits() to increase the limit"

/-- What is said of an integer with too many digits to be written. -/
def tooLongToWrite : String :=
  s!"Exceeds the limit ({digitLimit} digits) for integer string conversion; " ++
  "use sys.set_int_max_str_digits() to increase the limit"

/-- Whether an integer has too many digits to be written. -/
def isTooLong (n : Int) : Bool := Nat.pow 10 digitLimit ≤ n.natAbs

/-- Read an integer. -/
def readInt (s : String) : Except IntegerError Int :=
  match numberChars? s with
  | none => .error .malformed
  | some cs =>
    let (negative, digits) := signed cs
    if digits.isEmpty || !digits.all isPlainDigit then .error .malformed
    else if digitLimit < digits.length then .error (.tooLong digits.length)
    else .ok (if negative then -(digitsValue digits : Int) else digitsValue digits)

/-- The number `digits * 10 ^ exponent`, rounded to the nearest. Far beyond the range the answer is
known without arithmetic. -/
def ofScaled (negative : Bool) (digits : Nat) (exponent : Int) : Float :=
  if digits == 0 then (if negative then -0.0 else 0.0)
  else
    let place := exponent + (Nat.toDigits 10 digits).length
    if 400 < place then ofRatio negative (Nat.pow 10 400) 1
    else if place < -400 then (if negative then -0.0 else 0.0)
    else if 0 ≤ exponent then ofRatio negative (digits * Nat.pow 10 exponent.toNat) 1
    else ofRatio negative digits (Nat.pow 10 (-exponent).toNat)

/-- The power of ten after the mark of an exponent. -/
def exponent? : List Char → Option Int
  | [] => some 0
  | c :: rest =>
    if c == 'e' || c == 'E' then
      let (negative, digits) := signed rest
      if digits.isEmpty || !digits.all isPlainDigit then none
      else some (if negative then -(digitsValue digits : Int) else digitsValue digits)
    else none

/-- Digits, an optional point with digits, an optional exponent; some digit stands before the
exponent. -/
def unsigned? (negative : Bool) (cs : List Char) : Option Float :=
  let whole := cs.takeWhile isPlainDigit
  let rest := cs.dropWhile isPlainDigit
  let (fraction, rest) := match rest with
    | '.' :: r => (r.takeWhile isPlainDigit, r.dropWhile isPlainDigit)
    | r => ([], r)
  if whole.isEmpty && fraction.isEmpty then none
  else (exponent? rest).map fun e =>
    ofScaled negative (digitsValue (whole ++ fraction)) (e - fraction.length)

/-- The words for infinity and for an undefined value, in lower case. -/
def word? (negative : Bool) (cs : List Char) : Option Float :=
  let name := cs.map fun c => Char.ofNat (if c.toNat < 128 then Text.lowerCode c.toNat else c.toNat)
  if name == "inf".toList || name == "infinity".toList then
    some (if negative then -(1.0 / 0.0) else 1.0 / 0.0)
  else if name == "nan".toList then some (0.0 / 0.0)
  else none

/-- Read a real number. -/
def readFloat? (s : String) : Option Float := do
  let cs ← numberChars? s
  let (negative, body) := signed cs
  (word? negative body).orElse fun _ => unsigned? negative body

end Clearance.Decimal
