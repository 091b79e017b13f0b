/-
# Characters under a pattern's options

Which characters a single character, a set or a class of a pattern stands for. Where case is ignored
a subject character is lowered and compared with the lowered forms, together with the other letters
that share an upper case.
-/

import Clearance.Pattern.Node
import Clearance.Text.Case
import Clearance.Text.Blank
import Clearance.Text.Digit

namespace Clearance.Pattern

/-- Lowered letters that have an upper case in common. -/
def sharedCapitals : List (List Nat) :=
  [[0x69, 0x131], [0x73, 0x17F], [0xB5, 0x3BC], [0x345, 0x3B9, 0x1FBE], [0x390, 0x1FD3],
    [0x3B0, 0x1FE3], [0x3B2, 0x3D0], [0x3B5, 0x3F5], [0x3B8, 0x3D1], [0x3BA, 0x3F0], [0x3C0, 0x3D6],
    [0x3C1, 0x3F1], [0x3C2, 0x3C3], [0x3C6, 0x3D5], [0x432, 0x1C80], [0x434, 0x1C81],
    [0x43E, 0x1C82], [0x441, 0x1C83], [0x442, 0x1C84, 0x1C85], [0x44A, 0x1C86], [0x463, 0x1C87],
    [0x1C88, 0xA64B], [0x1E61, 0x1E9B], [0xFB05, 0xFB06]]

/-- A lowered letter together with the ones that share its upper case. -/
def variants (lowered : Nat) : List Nat :=
  match sharedCapitals.find? (·.contains lowered) with
  | some family => family
  | none => [lowered]

/-- Lower case in the range of scripts that the options choose. -/
def Flags.lower (f : Flags) (code : Nat) : Nat :=
  if f.ascii then if 65 ≤ code && code ≤ 90 then code + 32 else code else Text.lowerCode code

/-- Whether a character has case in the range of scripts that the options choose. -/
def Flags.isCased (f : Flags) (code : Nat) : Bool :=
  if f.ascii then (65 ≤ code && code ≤ 90) || (97 ≤ code && code ≤ 122) else Text.isCased code

/-- The lowered forms that a pattern character stands for when case is ignored. -/
def Flags.targets (f : Flags) (code : Nat) : List Nat :=
  if f.ascii then [f.lower code] else variants (f.lower code)

/-- Whether a subject character is one of a class. -/
def Category.holds (f : Flags) (code : Nat) : Category → Bool
  | digit => if f.ascii then 48 ≤ code && code ≤ 57 else Text.isDigit code
  | blank => if f.ascii then code == 32 || (9 ≤ code && code ≤ 13) else Text.isBlank code
  | word => if f.ascii then code < 128 && Text.isWord code else Text.isWord code

/-- Whether a subject character is the given one. -/
def Flags.sameChar (f : Flags) (code subject : Nat) : Bool :=
  if f.ignoreCase && f.isCased code then (f.targets code).contains (f.lower subject)
  else subject == code

/-- The greatest code point of the basic plane. -/
def planeEnd : Nat := 0xFFFF

/-- Whether a run of the case table has a member between two code points. -/
def runMeets (low high : Nat) (r : Text.CaseRun) : Bool :=
  let start := if low ≤ r.first then r.first
    else r.first + (low - r.first + r.step - 1) / r.step * r.step
  start ≤ r.last && start ≤ high

/-- Whether a range holds a character with case. -/
def Flags.rangeIsCased (f : Flags) (low high : Nat) : Bool :=
  if f.ascii then (low ≤ 90 && 65 ≤ high) || (low ≤ 122 && 97 ≤ high)
  else Text.lowerRuns.any (runMeets low high) || Text.upperRuns.any (runMeets low high) ||
    Text.upperSequences.any (fun (code, _) => low ≤ code && code ≤ high) ||
    (low ≤ 0x130 && 0x130 ≤ high)

/-- Whether a range holds a character whose lower case is the given one. -/
def Flags.rangeLowers (f : Flags) (low high target : Nat) : Bool :=
  (low ≤ target && target ≤ high && f.lower target == target) ||
  (if f.ascii then 97 ≤ target && target ≤ 122 && low ≤ target - 32 && target - 32 ≤ high
   else
    Text.lowerRuns.any (fun r =>
      let source := (target - r.delta).toNat
      r.first ≤ source && source ≤ r.last && (source - r.first) % r.step == 0 &&
      low ≤ source && source ≤ high) ||
    (target == 0x69 && low ≤ 0x130 && 0x130 ≤ high))

/-- Whether case matters for a member of a set. Beyond the basic plane it always does. -/
def Item.isCased (f : Flags) : Item → Bool
  | code n => planeEnd < n || f.isCased n
  | range low high => planeEnd < high || f.rangeIsCased low high
  | category .. => false

/-- Whether a subject character is a member as it stands. -/
def Item.holds (f : Flags) (subject : Nat) : Item → Bool
  | code n => subject == n
  | range low high => low ≤ subject && subject ≤ high
  | category c negated => c.holds f subject != negated

/-- Whether a lowered subject character is a member when case is ignored. Single members beyond the
basic plane are compared as they stand. -/
def Item.holdsLowered (f : Flags) (lowered : Nat) : Item → Bool
  | code n => if planeEnd < n then lowered == n else (f.targets n).contains lowered
  | range low high =>
    ((if f.ascii then [lowered] else variants lowered).any
      (f.rangeLowers low (min high planeEnd))) ||
    (planeEnd < high && ((low ≤ lowered && lowered ≤ high) ||
      (low ≤ Text.upperCode lowered && Text.upperCode lowered ≤ high)))
  | category c negated => c.holds f lowered != negated

/-- Whether a subject character is in a set. -/
def Flags.inSet (f : Flags) (items : List Item) (subject : Nat) : Bool :=
  if f.ignoreCase && items.any (Item.isCased f) then items.any (Item.holdsLowered f (f.lower subject))
  else items.any (Item.holds f subject)

end Clearance.Pattern
