/-
# Binary fractions

The parts of a double-precision number as exact integers. A finite number is plus or minus
`mantissa * 2 ^ exponent`; everything said about decimal text is said of these two integers.
-/

namespace Clearance.Decimal

/-- A number as its sign and an exact magnitude, or one of the three values that have none. -/
inductive Parts where
  | finite (negative : Bool) (mantissa : Nat) (exponent : Int)
  | infinite (negative : Bool)
  | notANumber
deriving DecidableEq

/-- The exact parts of the number that a bit pattern stands for. -/
def Parts.ofBits (bits : UInt64) : Parts :=
  let n := bits.toNat
  let negative := n / Nat.pow 2 63 == 1
  let field : Nat := n / Nat.pow 2 52 % Nat.pow 2 11
  let fraction : Nat := n % Nat.pow 2 52
  if field == 2047 then if fraction == 0 then .infinite negative else .notANumber
  else if field == 0 then .finite negative fraction (-1074)
  else .finite negative (fraction + Nat.pow 2 52) ((field : Int) - 1075)

/-- The exact parts of a number. -/
def parts (x : Float) : Parts := Parts.ofBits x.toBits

/-- The integer that `mantissa * 2 ^ exponent` is, if it is one. -/
def integral? (mantissa : Nat) (exponent : Int) : Option Nat :=
  if 0 ≤ exponent then some (mantissa * Nat.pow 2 exponent.toNat)
  else
    let unit := Nat.pow 2 (-exponent).toNat
    if mantissa % unit == 0 then some (mantissa / unit) else none

/-- The integer value of a number that has one. -/
def integer? (x : Float) : Option Int :=
  match parts x with
  | .finite negative mantissa exponent =>
    (integral? mantissa exponent).map fun n => if negative then -(n : Int) else n
  | _ => none

/-- The bit pattern nearest to a ratio of integers, a tie going to the even mantissa. Values that
round beyond the largest finite number are infinite. -/
def nearestBits (numerator denominator : Nat) : UInt64 :=
  if numerator == 0 || denominator == 0 then 0
  else
    let scale := max (-1074) ((numerator.log2 : Int) - denominator.log2 - 53)
    let quotient (q : Int) : Nat × Nat :=
      let n := if 0 ≤ q then numerator else numerator * Nat.pow 2 (-q).toNat
      let d := if 0 ≤ q then denominator * Nat.pow 2 q.toNat else denominator
      let whole := n / d
      let twice := 2 * (n % d)
      (whole, if twice < d || (twice == d && whole % 2 == 0) then whole else whole + 1)
    let (q, m) :=
      let (whole, rounded) := quotient scale
      if whole < Nat.pow 2 53 then (scale, rounded) else (scale + 1, (quotient (scale + 1)).2)
    let (q, m) := if m == Nat.pow 2 53 then (q + 1, Nat.pow 2 52) else (q, m)
    if 971 < q then 0x7FF0000000000000
    else if m < Nat.pow 2 52 then m.toUInt64
    else ((q + 1075).toNat * Nat.pow 2 52 + (m - Nat.pow 2 52)).toUInt64

/-- The number nearest to plus or minus a ratio of integers. -/
def ofRatio (negative : Bool) (numerator denominator : Nat) : Float :=
  let x := Float.ofBits (nearestBits numerator denominator)
  if negative then -x else x

/-- The number nearest to an integer. -/
def ofInt (n : Int) : Float := ofRatio (n < 0) n.natAbs 1

end Clearance.Decimal
