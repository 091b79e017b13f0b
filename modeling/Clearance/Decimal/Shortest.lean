/-
# The shortest decimal

Among the decimals that read back as a given binary fraction, the one with the fewest digits; of
several with that many digits, the nearest to the fraction. Everything is exact arithmetic on
natural numbers, one grid of decimals after the other.
-/

import Clearance.Decimal.Binary

namespace Clearance.Decimal

/-- A positive decimal `digits * 10 ^ exponent`. -/
structure Scaled where
  digits : Nat
  exponent : Int
deriving DecidableEq

/-- The number of decimal digits of a natural number; zero has one. -/
def digitCount (n : Nat) : Nat := (Nat.toDigits 10 n).length

/-- The numbers that read back as `mantissa * 2 ^ exponent`, in quarters of the last binary place:
from `low` to `high`, ends included when the mantissa is even. Below a power of two the gap is only
half as wide. -/
structure Interval where
  low : Nat
  value : Nat
  high : Nat
  closed : Bool

/-- The interval of a fraction whose mantissa is positive. -/
def interval (mantissa : Nat) (exponent : Int) : Interval where
  low := if mantissa == Nat.pow 2 52 && exponent != -1074 then 4 * mantissa - 1 else 4 * mantissa - 2
  value := 4 * mantissa
  high := 4 * mantissa + 2
  closed := mantissa % 2 == 0

/-- The decimal of at most `count` digits for a fraction, if one lies in its interval. The fraction
is `value * up / down` and the grid's step is `10 ^ grid`. -/
def onGrid (i : Interval) (up down : Nat) (grid : Int) : Option Scaled :=
  let step := if 0 ≤ grid then Nat.pow 10 grid.toNat else 1
  let fine := if 0 ≤ grid then 1 else Nat.pow 10 (-grid).toNat
  -- A grid point `c` stands for `c * step / fine`; compare after clearing denominators.
  let unit := step * down
  let at_ (quarters : Nat) := quarters * up * fine
  let inside (c : Nat) :=
    if i.closed then at_ i.low ≤ c * unit && c * unit ≤ at_ i.high
    else at_ i.low < c * unit && c * unit < at_ i.high
  let below := at_ i.value / unit
  let above := below + 1
  match inside below, inside above with
  | true, true =>
    let left := at_ i.value - below * unit
    let right := above * unit - at_ i.value
    if left < right || (left == right && below % 2 == 0) then some ⟨below, grid⟩
    else some ⟨above, grid⟩
  | true, false => some ⟨below, grid⟩
  | false, true => some ⟨above, grid⟩
  | false, false => none

/-- Try grids of more and more digits. -/
def search (i : Interval) (up down : Nat) (top : Int) : (left count : Nat) → Scaled
  | 0, _ => ⟨0, 0⟩
  | left + 1, count =>
    match onGrid i up down (top - count) with
    | some d => d
    | none => search i up down top left (count + 1)

/-- Drop trailing zeros of the digits. -/
def dropZeros : (fuel : Nat) → Scaled → Scaled
  | 0, d => d
  | fuel + 1, d =>
    if d.digits != 0 && d.digits % 10 == 0 then dropZeros fuel ⟨d.digits / 10, d.exponent + 1⟩ else d

/-- The shortest decimal of a positive binary fraction; seventeen digits always suffice. -/
def shortest (mantissa : Nat) (exponent : Int) : Scaled :=
  let i := interval mantissa exponent
  let quarter := exponent - 2
  let up := if 0 ≤ quarter then Nat.pow 2 quarter.toNat else 1
  let down := if 0 ≤ quarter then 1 else Nat.pow 2 (-quarter).toNat
  let top : Int := (digitCount (i.value * up * Nat.pow 10 400 / down) : Int) - 400
  dropZeros 20 (search i up down top 17 1)

end Clearance.Decimal
