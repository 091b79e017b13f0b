/-
# Plain scalars

What a word without quotes stands for in a block document: nothing, a truth value, an integer in one
of five notations, a real number, or itself. Words keep their meaning in three spellings only: lower
case, capitalized and upper case.
-/

import Clearance.Decimal.Reading
import Clearance.Value.Basic

namespace Clearance.Yaml

/-- The words for nothing. -/
def nullWords : List String := ["", "~", "null", "Null", "NULL"]

/-- The words for truth. -/
def trueWords : List String :=
  ["yes", "Yes", "YES", "true", "True", "TRUE", "on", "On", "ON"]

/-- The words for falsehood. -/
def falseWords : List String :=
  ["no", "No", "NO", "false", "False", "FALSE", "off", "Off", "OFF"]

/-- The value of a digit in a base of at most sixteen. -/
def digitIn? (base : Nat) (c : Char) : Option Nat :=
  let value :=
    if '0' ≤ c && c ≤ '9' then c.toNat - 48
    else if 'a' ≤ c && c ≤ 'f' then c.toNat - 87
    else if 'A' ≤ c && c ≤ 'F' then c.toNat - 55
    else 16
  if value < base then some value else none

/-- The value of digits in a base; underscores do not count. -/
def digitsIn? (base : Nat) (cs : List Char) : Option Nat :=
  (cs.filter (· != '_')).foldlM (fun n c => (digitIn? base c).map (n * base + ·)) 0

/-- The pieces of a number in base sixty, between colons; each but the first is below sixty. -/
def sixties? (cs : List Char) : Option Nat :=
  match Text.splitAt ':' cs with
  | first :: rest => do
    let start ← if first.all (· == '_') then none else digitsIn? 10 first
    rest.foldlM (fun n piece =>
      if 1 ≤ piece.length && piece.length ≤ 2 && !piece.contains '_' then
        (digitsIn? 10 piece).bind fun p => if p < 60 then some (n * 60 + p) else none
      else none) start
  | [] => none

/-- An integer without its sign: binary, octal, hexadecimal, decimal or in base sixty. -/
def unsignedInt? (cs : List Char) : Option Nat :=
  match cs with
  | [] => none
  | ['0'] => some 0
  | '0' :: 'b' :: rest => if rest.isEmpty then none else digitsIn? 2 rest
  | '0' :: 'x' :: rest => if rest.isEmpty then none else digitsIn? 16 rest
  | '0' :: rest => digitsIn? 8 rest
  | c :: _ =>
    if '1' ≤ c && c ≤ '9' then
      if cs.contains ':' then sixties? cs else digitsIn? 10 cs
    else none

/-- An integer. -/
def int? (cs : List Char) : Option Int :=
  let (negative, body) := Decimal.signed cs
  (unsignedInt? body).map fun n => if negative then -(n : Int) else n

/-- Whether an exponent may stand behind a fraction: a mark, a sign and digits, or nothing. -/
def isExponent : List Char → Bool
  | [] => true
  | c :: sign :: digits =>
    (c == 'e' || c == 'E') && (sign == '+' || sign == '-') && !digits.isEmpty &&
      digits.all Decimal.isPlainDigit
  | _ => false

/-- Whether a character may stand among digits. -/
def isDigitOrUnderscore (c : Char) : Bool := Decimal.isPlainDigit c || c == '_'

/-- A real number. It has a point; an exponent has a sign. -/
def float? (cs : List Char) : Option Float :=
  let (negative, body) := Decimal.signed cs
  let word := String.ofList body
  if word == ".inf" || word == ".Inf" || word == ".INF" then
    some (if negative then -(1.0 / 0.0) else 1.0 / 0.0)
  else if cs == body && (word == ".nan" || word == ".NaN" || word == ".NAN") then some (0.0 / 0.0)
  else
    let whole := body.takeWhile isDigitOrUnderscore
    match body.drop whole.length with
    | '.' :: rest =>
      let fraction := rest.takeWhile isDigitOrUnderscore
      let exponent := rest.drop fraction.length
      let starts := match whole, fraction with
        | c :: _, _ => Decimal.isPlainDigit c
        | [], c :: _ => Decimal.isPlainDigit c && cs == body
        | [], [] => false
      if starts && isExponent exponent then
        Decimal.unsigned? negative ((whole ++ '.' :: fraction ++ exponent).filter (· != '_'))
      else none
    | _ => none

/-- What a plain scalar stands for. -/
def resolve (cs : List Char) : Value :=
  let word := String.ofList cs
  if nullWords.contains word then .null
  else if trueWords.contains word then .bool true
  else if falseWords.contains word then .bool false
  else match int? cs with
    | some n => .int n
    | none =>
      match float? cs with
      | some x => .float x
      | none => .text word

end Clearance.Yaml
