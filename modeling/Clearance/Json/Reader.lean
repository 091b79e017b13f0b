/-
# Reading structured documents

A reader for the interchange format of nested arrays and objects. Beyond the standard it takes the
words `NaN`, `Infinity` and `-Infinity`. Of equal keys the last value wins and keeps the place of the
first. Each reader returns what it has not consumed, and a fault is located by how much was left.
-/

import Clearance.Decimal.Reading
import Clearance.Value.Basic

namespace Clearance.Json

/-- What can be wrong with a document. -/
inductive Cause where
  | byteOrderMark
  | value
  | name
  | colon
  | comma
  | unterminated
  | control
  | badEscape
  | unicodeEscape
  | extra
deriving DecidableEq

/-- What was expected or found, in words. -/
def Cause.message : Cause → String
  | byteOrderMark => "Unexpected UTF-8 BOM (decode using utf-8-sig)"
  | value => "Expecting value"
  | name => "Expecting property name enclosed in double quotes"
  | colon => "Expecting ':' delimiter"
  | comma => "Expecting ',' delimiter"
  | unterminated => "Unterminated string starting at"
  | control => "Invalid control character at"
  | badEscape => "Invalid \\escape"
  | unicodeEscape => "Invalid \\uXXXX escape"
  | extra => "Extra data"

/-- Why reading stops: a cause with the number of characters left, or a number with more digits than
are converted. -/
inductive Stop where
  | malformed (cause : Cause) (left : Nat)
  | tooLong (digits : Nat)
deriving DecidableEq

/-- A reader of a part of a document. -/
abbrev Reader (α : Type) := List Char → Except Stop (α × List Char)

/-- Stop where the given characters are left. -/
def stop {α : Type} (cause : Cause) (left : List Char) : Except Stop α :=
  .error (.malformed cause left.length)

/-- Spaces, tabs and line ends. -/
def isGap (c : Char) : Bool := c == ' ' || c == '\t' || c == '\n' || c == '\r'

/-- Skip the gap before the next sign. -/
def skipGap (cs : List Char) : List Char := cs.dropWhile isGap

/-- The value of a hexadecimal digit. -/
def hexValue? (c : Char) : Option Nat :=
  if '0' ≤ c && c ≤ '9' then some (c.toNat - 48)
  else if 'a' ≤ c && c ≤ 'f' then some (c.toNat - 87)
  else if 'A' ≤ c && c ≤ 'F' then some (c.toNat - 55)
  else none

/-- The value of four hexadecimal digits. -/
def hexUnit? (a b c d : Char) : Option Nat := do
  some ((((← hexValue? a) * 16 + (← hexValue? b)) * 16 + (← hexValue? c)) * 16 + (← hexValue? d))

/-- The character of a short escape. -/
def shortEscape? : Char → Option Char
  | '"' => some '"'
  | '\\' => some '\\'
  | '/' => some '/'
  | 'b' => some '\x08'
  | 'f' => some '\x0c'
  | 'n' => some '\n'
  | 'r' => some '\r'
  | 't' => some '\t'
  | _ => none

/-- The character of a code unit; half a pair alone is replaced. -/
def unitChar (n : Nat) : Char := if 0xD800 ≤ n && n < 0xE000 then '\ufffd' else Char.ofNat n

/-- The second half of a pair of code units, if the characters are an escape of one with something
behind it. -/
def lowHalf? : List Char → Except Stop (Option (Nat × List Char))
  | '\\' :: 'u' :: a :: b :: c :: d :: e :: rest =>
    match hexUnit? a b c d with
    | none => stop .unicodeEscape ('u' :: a :: b :: c :: d :: e :: rest)
    | some n => if 0xDC00 ≤ n && n < 0xE000 then .ok (some (n, e :: rest)) else .ok none
  | _ => .ok none

/-- The characters of a string up to its closing quote, last first. `opened` counts what was left at
the opening quote. -/
def stringFrom (opened : Nat) (fuel : Nat) (seen : List Char) : Reader (List Char)
  | [] => .error (.malformed .unterminated opened)
  | '"' :: rest => .ok (seen, rest)
  | ['\\'] => .error (.malformed .unterminated opened)
  | '\\' :: 'u' :: rest =>
    match fuel, rest with
    | fuel + 1, a :: b :: c :: d :: e :: more =>
      match hexUnit? a b c d with
      | none => stop .unicodeEscape ('u' :: rest)
      | some high =>
        if 0xD800 ≤ high && high < 0xDC00 then
          match lowHalf? (e :: more) with
          | .error problem => .error problem
          | .ok (some (low, after)) =>
            let code := 0x10000 + (high - 0xD800) * 0x400 + (low - 0xDC00)
            stringFrom opened fuel (Char.ofNat code :: seen) after
          | .ok none => stringFrom opened fuel (unitChar high :: seen) (e :: more)
        else stringFrom opened fuel (unitChar high :: seen) (e :: more)
    | _, _ => stop .unicodeEscape ('u' :: rest)
  | '\\' :: c :: rest =>
    match fuel, shortEscape? c with
    | fuel + 1, some e => stringFrom opened fuel (e :: seen) rest
    | _, _ => stop .badEscape ('\\' :: c :: rest)
  | c :: rest =>
    match fuel with
    | 0 => .error (.malformed .unterminated opened)
    | fuel + 1 =>
      if c.toNat ≤ 0x1F then stop .control (c :: rest) else stringFrom opened fuel (c :: seen) rest

/-- A string after its opening quote. -/
def readString : Reader String := fun cs =>
  (stringFrom (cs.length + 1) (cs.length + 1) [] cs).map fun (seen, rest) =>
    (String.ofList seen.reverse, rest)

/-- The fraction of a number: a point with a digit behind it. -/
def fractionPart : List Char → List Char × List Char
  | '.' :: d :: rest =>
    if Decimal.isPlainDigit d then
      ('.' :: d :: rest.takeWhile Decimal.isPlainDigit, rest.dropWhile Decimal.isPlainDigit)
    else ([], '.' :: d :: rest)
  | cs => ([], cs)

/-- The exponent of a number, if its mark has digits behind it. -/
def exponentPart : List Char → List Char × List Char
  | c :: rest =>
    if c == 'e' || c == 'E' then
      let (sign, digits) := match rest with
        | '+' :: r => (['+'], r)
        | '-' :: r => (['-'], r)
        | r => ([], r)
      let found := digits.takeWhile Decimal.isPlainDigit
      if found.isEmpty then ([], c :: rest)
      else (c :: sign ++ found, digits.dropWhile Decimal.isPlainDigit)
    else ([], c :: rest)
  | [] => ([], [])

/-- A number. A whole part of more than one digit does not start with zero; a fraction or an exponent
makes it a real number. -/
def readNumber : Reader Value := fun cs =>
  let (negative, body) := match cs with
    | '-' :: rest => (true, rest)
    | _ => (false, cs)
  let whole := match body with
    | '0' :: _ => ['0']
    | _ => body.takeWhile Decimal.isPlainDigit
  if whole.isEmpty then stop .value cs
  else
    let (fraction, rest) := fractionPart (body.drop whole.length)
    let (exponent, rest) := exponentPart rest
    if fraction.isEmpty && exponent.isEmpty then
      if Decimal.digitLimit < whole.length then .error (.tooLong whole.length)
      else
        let n := Decimal.digitsValue whole
        .ok (.int (if negative then -(n : Int) else n), rest)
    else
      let x := (Decimal.unsigned? negative (whole ++ fraction ++ exponent)).getD 0.0
      .ok (.float x, rest)

/-- The words that stand for values. -/
def words : List (List Char × Value) :=
  [("null".toList, .null), ("true".toList, .bool true), ("false".toList, .bool false),
    ("NaN".toList, .float (0.0 / 0.0)), ("Infinity".toList, .float (1.0 / 0.0)),
    ("-Infinity".toList, .float (-(1.0 / 0.0)))]

/-- Write an entry under a text key: an equal key keeps its place and loses its value. -/
def setEntry (key : String) (value : Value) : List (Value × Value) → List (Value × Value)
  | [] => [(.text key, value)]
  | (.text k, v) :: rest =>
    if k == key then (.text k, value) :: rest else (.text k, v) :: setEntry key value rest
  | entry :: rest => entry :: setEntry key value rest

mutual

/-- A value that starts at the first character. -/
def readValue (fuel : Nat) : Reader Value := fun cs =>
  match fuel, cs with
  | 0, _ => stop .value cs
  | _ + 1, '"' :: rest => (readString rest).map fun (s, rest) => (.text s, rest)
  | fuel + 1, '[' :: rest =>
    match skipGap rest with
    | ']' :: rest => .ok (.list [], rest)
    | rest => (readItems fuel rest).map fun (items, rest) => (.list items, rest)
  | fuel + 1, '\x7b' :: rest =>
    match skipGap rest with
    | '\x7d' :: rest => .ok (.dict [], rest)
    | rest => (readEntries fuel [] rest).map fun (entries, rest) => (.dict entries, rest)
  | _ + 1, _ =>
    match words.find? fun (word, _) => Text.startsWith word cs with
    | some (word, value) => .ok (value, cs.drop word.length)
    | none => readNumber cs

/-- The items of an array up to its closing bracket; there is at least one. -/
def readItems (fuel : Nat) : Reader (List Value) := fun cs =>
  match fuel with
  | 0 => stop .value cs
  | fuel + 1 =>
    match readValue fuel cs with
    | .error problem => .error problem
    | .ok (item, rest) =>
      match skipGap rest with
      | ']' :: rest => .ok ([item], rest)
      | ',' :: rest => (readItems fuel (skipGap rest)).map fun (items, rest) => (item :: items, rest)
      | rest => stop .comma rest

/-- The entries of an object up to its closing brace, after the ones read already. -/
def readEntries (fuel : Nat) (seen : List (Value × Value)) : Reader (List (Value × Value)) := fun cs =>
  match fuel, cs with
  | fuel + 1, '"' :: rest =>
    match readString rest with
    | .error problem => .error problem
    | .ok (key, rest) =>
      match skipGap rest with
      | ':' :: rest =>
        match readValue fuel (skipGap rest) with
        | .error problem => .error problem
        | .ok (value, rest) =>
          match skipGap rest with
          | '\x7d' :: rest => .ok (setEntry key value seen, rest)
          | ',' :: rest => readEntries fuel (setEntry key value seen) (skipGap rest)
          | rest => stop .comma rest
      | rest => stop .colon rest
  | _, _ => stop .name cs

end

/-- A whole document: one value with nothing but gaps around it. -/
def readDocument (cs : List Char) : Except Stop Value :=
  match readValue (2 * cs.length + 2) (skipGap cs) with
  | .error problem => .error problem
  | .ok (value, rest) =>
    match skipGap rest with
    | [] => .ok value
    | rest => stop .extra rest

/-- Read a document. A byte order mark in front is refused. -/
def read (s : String) : Except Stop Value :=
  match s.toList with
  | '\ufeff' :: rest => stop .byteOrderMark ('\ufeff' :: rest)
  | cs => readDocument cs

/-- Where in a text a number of characters are left: line and column from one, and the offset. -/
def location (s : String) (left : Nat) : Nat × Nat × Nat :=
  let cs := s.toList
  let offset := cs.length - left
  let before := cs.take offset
  let line := before.count '\n' + 1
  let column := (before.reverse.takeWhile (· != '\n')).length + 1
  (line, column, offset)

/-- What is said of a document that cannot be read. -/
def Stop.message (s : String) : Stop → String
  | .malformed cause left =>
    let (line, column, offset) := location s left
    s!"{cause.message}: line {line} column {column} (char {offset})"
  | .tooLong digits => Decimal.tooLongMessage digits

end Clearance.Json
