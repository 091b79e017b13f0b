/-
# Case

Full case mapping of texts and simple case mapping of single characters. A capital sigma that ends
a word is lowered to the final form; a dotted capital I is lowered to two characters.
-/

import Clearance.Text.CaseTable
import Clearance.Text.Word

namespace Clearance.Text

/-- Where a table of runs sends a code point. -/
def moveBy (runs : Array CaseRun) (code : Nat) : Nat :=
  match runs.find? fun r => r.first ≤ code && code ≤ r.last && (code - r.first) % r.step == 0 with
  | some r => (code + r.delta).toNat
  | none => code

/-- Simple lower case of a code point: one code point for one. -/
def lowerCode (code : Nat) : Nat :=
  if code < 128 then if 65 ≤ code && code ≤ 90 then code + 32 else code
  else if code == 0x130 then 0x69
  else moveBy lowerRuns code

/-- Simple upper case of a code point: one code point for one. -/
def upperCode (code : Nat) : Nat :=
  if code < 128 then if 97 ≤ code && code ≤ 122 then code - 32 else code
  else moveBy upperRuns code

/-- Whether case mapping changes a code point in either direction. -/
def isCased (code : Nat) : Bool :=
  lowerCode code != code || upperCode code != code ||
  upperSequences.any fun (source, _) => source == code

/-- Whether the nearest character that is not looked through is a cased one. -/
def meetsCased : List Char → Bool
  | [] => false
  | c :: rest =>
    if inRanges caseIgnorableRanges c.toNat then meetsCased rest else inRanges casedRanges c.toNat

/-- Lower case of one character, given what stands before it (nearest first) and after it. -/
def lowerChar (before : List Char) (c : Char) (after : List Char) : List Char :=
  if c.toNat == 0x130 then [Char.ofNat 0x69, Char.ofNat 0x307]
  else if c.toNat == 0x3A3 then
    if meetsCased before && !meetsCased after then [Char.ofNat 0x3C2] else [Char.ofNat 0x3C3]
  else [Char.ofNat (lowerCode c.toNat)]

/-- Lower case of a text, with what has been passed already. -/
def lowerFrom (before : List Char) : List Char → List Char
  | [] => []
  | c :: rest => lowerChar before c rest ++ lowerFrom (c :: before) rest

/-- Lower case of a text. -/
def lower (s : String) : String := String.ofList (lowerFrom [] s.toList)

/-- Upper case of one character. -/
def upperChar (c : Char) : List Char :=
  if c.toNat < 128 then [Char.ofNat (upperCode c.toNat)]
  else match upperSequences.find? fun (source, _) => source == c.toNat with
    | some (_, codes) => codes.map Char.ofNat
    | none => [Char.ofNat (upperCode c.toNat)]

/-- Upper case of a text. -/
def upper (s : String) : String := String.ofList (s.toList.flatMap upperChar)

end Clearance.Text
