/-
# Numbers as given

A number in a configuration keeps the kind it was given: an integer, a real number, or a truth value
that counts as one or zero. Nothing else can be compared with a bound.

A span of time is a number that has a real number next to it. A number that is used as one may turn
out to be none; an integer can be too large.
-/

import Clearance.Failure

namespace Clearance

/-- A number of the kind it was given as. -/
inductive Number where
  | bool (b : Bool)
  | int (n : Int)
  | real (x : Float)

namespace Number

instance : Inhabited Number := ⟨.int 0⟩

/-- The number as a value. -/
def toValue : Number → Value
  | bool b => .bool b
  | int n => .int n
  | real x => .float x

/-- The text of a number. -/
def text (n : Number) : String := n.toValue.literal

/-- A value as a number; other kinds cannot be compared with one. -/
def ofValue : Value → Except Fault Number
  | .bool b => .ok (bool b)
  | .int n => .ok (int n)
  | .float x => .ok (real x)
  | _ => .error (.badKind "a number is needed for comparison")

/-- Whether a number is less than an integer. An undefined number is not. -/
def isBelow (bound : Int) : Number → Bool
  | bool b => (if b then 1 else 0) < bound
  | int n => n < bound
  | real x => x < Decimal.ofInt bound

/-- Whether a number is at most an integer. An undefined number is not. -/
def isAtMost (bound : Int) : Number → Bool
  | bool b => (if b then 1 else 0) ≤ bound
  | int n => n ≤ bound
  | real x => x ≤ Decimal.ofInt bound

/-- Whether a count reaches the number. No count reaches an undefined number. -/
def isReachedBy (count : Nat) : Number → Bool
  | bool b => (if b then 1 else 0) ≤ count
  | int n => n ≤ count
  | real x => x ≤ Decimal.ofInt count

/-- Whether there is a real number next to the number, infinite ones aside. Integers end halfway between
the largest real number and what would come after it. -/
def isSpan : Number → Bool
  | int n => n.natAbs < Nat.pow 2 1024 - Nat.pow 2 970
  | _ => true

theorem isSpan_of_lt {n : Nat} (h : n < UInt16.size) : (int n).isSpan = true := by
  have hbound : decide (UInt16.size ≤ Nat.pow 2 1024 - Nat.pow 2 970) = true := by decide +kernel
  rw [isSpan]
  exact decide_eq_true (Nat.lt_of_lt_of_le h (of_decide_eq_true hbound))

end Number

/-- A span of time. -/
structure Span where
  given : Number
  isSpan : given.isSpan = true

namespace Span

/-- A number as a span of time. -/
def of (n : Number) : Except Fault Span :=
  if h : n.isSpan = true then .ok ⟨n, h⟩
  else .error (.overflow "int too large to convert to float")

/-- Some whole seconds. -/
def seconds (n : UInt16) : Span where
  given := .int n.toNat
  isSpan := Number.isSpan_of_lt n.toNat_lt_size

/-- The nearest real number. -/
def toFloat (s : Span) : Float :=
  match s.given with
  | .bool b => if b then 1.0 else 0.0
  | .int n => Decimal.ofInt n
  | .real x => x

/-- Whether the span is over at once. -/
def isOver (s : Span) : Bool := s.given.isAtMost 0

end Span

end Clearance
