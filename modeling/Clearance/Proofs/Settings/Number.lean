/-
# Numbers and their bounds

A number is refused when it is less than a bound, or when it is at most a bound. Of integers this is as
good as asking for the opposite, but an undefined number is neither refused nor within any bound. So
what is not refused is within the bound or undefined, and never both.
-/

import Clearance.Settings.Number
import Mathlib

namespace Clearance

/-! ## Real numbers -/

namespace Decimal

open Float.Model

theorem compare_swap (a b : UnpackedFloat) : b.compare a = (a.compare b).map Ordering.swap := by
  have hexponent (e f : Int) : compare f e = (compare e f).swap := Std.OrientedCmp.eq_swap
  have hmantissa (m n : Nat) : compare n m = (compare m n).swap := Std.OrientedCmp.eq_swap
  -- Only pairs of infinities and pairs of finite numbers of one sign need more than their cases.
  fun_cases UnpackedFloat.compare a b
  case case1 => cases b <;> rfl
  case case3 s t => cases s <;> cases t <;> rfl
  case case13 m e _ n f _ =>
    simp [UnpackedFloat.compare, hexponent e f, hmantissa m n, Ordering.swap_then]
  case case16 m e _ n f _ =>
    simp [UnpackedFloat.compare, hexponent e f, hmantissa m n, Ordering.swap_then]
  all_goals simp_all [UnpackedFloat.compare]

theorem compare_eq_none_iff (a b : UnpackedFloat) :
    a.compare b = none ↔ a.isNaN = true ∨ b.isNaN = true := by
  fun_cases UnpackedFloat.compare a b <;> simp_all [UnpackedFloat.isNaN]

/-- How two real numbers compare, if both are defined. -/
def comparison (x y : Float) : Option Ordering := x.toModel.unpack.compare y.toModel.unpack

variable {x y : Float}

theorem lt_iff_comparison : x < y ↔ comparison x y = some .lt := by
  have hlt : x < y ↔ (comparison x y == some .lt) = true := decide_eq_true_iff
  rw [hlt, beq_iff_eq]

theorem le_iff_comparison : x ≤ y ↔ comparison x y = some .lt ∨ comparison x y = some .eq := by
  have hle : x ≤ y ↔ (comparison x y).any Ordering.isLE = true := decide_eq_true_iff
  rw [hle]
  cases comparison x y with
  | none => simp
  | some o => cases o <;> simp

theorem comparison_eq_none_iff : comparison x y = none ↔ x.isNaN = true ∨ y.isNaN = true :=
  compare_eq_none_iff _ _

theorem comparison_eq_none_iff_left (hy : y.isNaN = false) :
    comparison x y = none ↔ x.isNaN = true := by
  rw [comparison_eq_none_iff, hy]
  exact or_iff_left Bool.false_ne_true

theorem comparison_swap (x y : Float) : comparison y x = (comparison x y).map Ordering.swap :=
  compare_swap _ _

/-- What is not less than a number is at least as great, unless one of them is undefined. -/
theorem not_lt_iff (hy : y.isNaN = false) : ¬x < y ↔ y ≤ x ∨ x.isNaN = true := by
  rw [lt_iff_comparison, le_iff_comparison, ← comparison_eq_none_iff_left hy, comparison_swap x y]
  cases comparison x y with
  | none => simp
  | some o => cases o <;> simp

/-- What is not at most a number is greater, unless one of them is undefined. -/
theorem not_le_iff (hy : y.isNaN = false) : ¬x ≤ y ↔ y < x ∨ x.isNaN = true := by
  rw [lt_iff_comparison, le_iff_comparison, ← comparison_eq_none_iff_left hy, comparison_swap x y]
  cases comparison x y with
  | none => simp
  | some o => cases o <;> simp

theorem not_le_of_isNaN (hx : x.isNaN = true) : ¬y ≤ x := by
  rw [le_iff_comparison, comparison_eq_none_iff.mpr (.inr hx)]
  simp

theorem not_lt_of_isNaN (hx : x.isNaN = true) : ¬y < x := by
  rw [lt_iff_comparison, comparison_eq_none_iff.mpr (.inr hx)]
  simp

end Decimal

/-! ## Numbers of any kind -/

namespace Number

variable {n : Number} {bound : Int}

/-- The number is the bound or greater. -/
def IsAtLeast (bound : Int) : Number → Prop
  | bool b => bound ≤ if b then 1 else 0
  | int n => bound ≤ n
  | real x => Decimal.ofInt bound ≤ x

/-- The number is greater than the bound. -/
def IsAbove (bound : Int) : Number → Prop
  | bool b => bound < if b then 1 else 0
  | int n => bound < n
  | real x => Decimal.ofInt bound < x

/-- The number is a real one that has no value. -/
def IsUndefined : Number → Prop
  | real x => x.isNaN = true
  | _ => False

theorem isBelow_eq_false_iff (hbound : (Decimal.ofInt bound).isNaN = false) :
    n.isBelow bound = false ↔ n.IsAtLeast bound ∨ n.IsUndefined := by
  cases n with
  | bool b => simp [isBelow, IsAtLeast, IsUndefined]
  | int n => simp [isBelow, IsAtLeast, IsUndefined]
  | real x => simpa [isBelow, IsAtLeast, IsUndefined] using Decimal.not_lt_iff hbound

theorem isAtMost_eq_false_iff (hbound : (Decimal.ofInt bound).isNaN = false) :
    n.isAtMost bound = false ↔ n.IsAbove bound ∨ n.IsUndefined := by
  cases n with
  | bool b => simp [isAtMost, IsAbove, IsUndefined]
  | int n => simp [isAtMost, IsAbove, IsUndefined]
  | real x => simpa [isAtMost, IsAbove, IsUndefined] using Decimal.not_le_iff hbound

theorem IsUndefined.not_isAtLeast (h : n.IsUndefined) : ¬n.IsAtLeast bound := by
  cases n with
  | real x => exact Decimal.not_le_of_isNaN h
  | _ => exact h.elim

theorem IsUndefined.not_isAbove (h : n.IsUndefined) : ¬n.IsAbove bound := by
  cases n with
  | real x => exact Decimal.not_lt_of_isNaN h
  | _ => exact h.elim

end Number

end Clearance
