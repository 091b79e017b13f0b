/-
# Number text

How a number is written: the digits of its shortest decimal, positional while the point stands
between four places before the first digit and sixteen places after it, and with an exponent of at
least two digits otherwise.
-/

import Clearance.Decimal.Shortest

namespace Clearance.Decimal

/-- Digits with the point after the first `place` of them; outside the digits, zeros fill in. -/
def positional (digits : List Char) (place : Int) : List Char :=
  if place ≤ 0 then '0' :: '.' :: (List.replicate (-place).toNat '0' ++ digits)
  else
    let n := place.toNat
    if digits.length ≤ n then digits ++ List.replicate (n - digits.length) '0' ++ ['.', '0']
    else digits.take n ++ '.' :: digits.drop n

/-- One digit, the rest after a point, and the power of ten. -/
def scientific (digits : List Char) (power : Int) : List Char :=
  let size := Nat.toDigits 10 power.natAbs
  let whole := digits.take 1
  let rest := digits.drop 1
  whole ++ (if rest.isEmpty then [] else '.' :: rest) ++
    'e' :: (if power < 0 then '-' else '+') :: (if size.length < 2 then '0' :: size else size)

/-- The digits of a decimal, positional or with an exponent. -/
def Scaled.written (d : Scaled) : List Char :=
  let digits := Nat.toDigits 10 d.digits
  let place := d.exponent + digits.length
  if -4 < place && place ≤ 16 then positional digits place else scientific digits (place - 1)

/-- The text of a number: it always shows that it is not an integer by a point, an exponent or a
word. -/
def text (x : Float) : String :=
  match parts x with
  | .notANumber => "nan"
  | .infinite negative => if negative then "-inf" else "inf"
  | .finite negative mantissa exponent =>
    let body := if mantissa == 0 then ['0', '.', '0'] else (shortest mantissa exponent).written
    String.ofList (if negative then '-' :: body else body)

/-- The text of a number with a fixed count of places after the point, a half going to the even
neighbour. -/
def fixed (places : Nat) (x : Float) : String :=
  match parts x with
  | .notANumber => "nan"
  | .infinite negative => if negative then "-inf" else "inf"
  | .finite negative mantissa exponent =>
    let n := mantissa * Nat.pow 10 places * (if 0 ≤ exponent then Nat.pow 2 exponent.toNat else 1)
    let d := if 0 ≤ exponent then 1 else Nat.pow 2 (-exponent).toNat
    let whole := n / d
    let twice := 2 * (n % d)
    let rounded := if twice < d || (twice == d && whole % 2 == 0) then whole else whole + 1
    let digits := Nat.toDigits 10 rounded
    let digits := List.replicate (places + 1 - digits.length) '0' ++ digits
    let cut := digits.length - places
    let body := digits.take cut ++ (if places == 0 then [] else '.' :: digits.drop cut)
    String.ofList (if negative then '-' :: body else body)

end Clearance.Decimal
