/-
# What trimming leaves

Trimming a text takes characters of one class away at its ends. A character of another class is
never taken away, and a text that has no character of the class stays as it is. Nor does lower case
take a character away that it does not change. Blanks are of this kind, so a text that is some word in
lower case has no blank to take away.
-/

import Clearance.Text.Blank
import Clearance.Text.Case

namespace Clearance.Text

variable {p : Nat → Bool} {c : Char} {cs : List Char} {s : String}

/-- What holds of the character of every ASCII code holds of every ASCII character. -/
theorem forall_ascii {P : Char → Prop} (h : ∀ n < 128, P (Char.ofNat n)) {c : Char}
    (hc : c.toNat < 128) : P c := by
  have hcode := h c.toNat hc
  rwa [Char.ofNat_toNat] at hcode

theorem mem_dropStart_iff (hc : p c.toNat = false) : c ∈ dropStart p cs ↔ c ∈ cs := by
  induction cs with
  | nil => exact Iff.rfl
  | cons first rest ih =>
      rw [dropStart]
      split
      next hfirst =>
        have hne : c ≠ first := fun heq => by simp [← heq, hc] at hfirst
        rw [ih, List.mem_cons, or_iff_right hne]
      next => rfl

theorem dropStart_eq_self (h : ∀ c ∈ cs, p c.toNat = false) : dropStart p cs = cs := by
  cases cs with
  | nil => rfl
  | cons first rest => rw [dropStart, h first List.mem_cons_self, if_neg Bool.false_ne_true]

/-- Trimming keeps every character of another class. -/
theorem mem_trim_iff (hc : p c.toNat = false) : c ∈ trim p cs ↔ c ∈ cs := by
  rw [trim, List.mem_reverse, mem_dropStart_iff hc, List.mem_reverse, mem_dropStart_iff hc]

/-- Trimming leaves a text alone that has no character of the class. -/
theorem trim_eq_self (h : ∀ c ∈ cs, p c.toNat = false) : trim p cs = cs := by
  have hreverse : ∀ c ∈ cs.reverse, p c.toNat = false := by
    intro c hc
    apply h
    exact List.mem_reverse.mp hc
  rw [trim, dropStart_eq_self h, dropStart_eq_self hreverse, List.reverse_reverse]

theorem mem_strip_iff (hc : isBlank c.toNat = false) : c ∈ (strip s).toList ↔ c ∈ s.toList := by
  rw [strip, String.toList_ofList, mem_trim_iff hc]

theorem strip_eq_self (h : ∀ c ∈ s.toList, isBlank c.toNat = false) : strip s = s := by
  rw [strip, trim_eq_self h, String.ofList_toList]

/-! ## Case -/

/-- The code points of the blanks. -/
def blanks : List Nat :=
  List.range' 9 5 ++ List.range' 28 5 ++ [0x85, 0xA0, 0x1680] ++ List.range' 0x2000 11 ++
    [0x2028, 0x2029, 0x202F, 0x205F, 0x3000]

theorem mem_blanks_of_isBlank {code : Nat} (h : isBlank code = true) : code ∈ blanks := by
  simp only [isBlank, Bool.or_eq_true, Bool.and_eq_true, decide_eq_true_eq, beq_iff_eq] at h
  simp only [blanks, List.mem_append, List.mem_range'_1, List.mem_cons, List.not_mem_nil, or_false]
  omega

theorem lowerCode_of_isBlank {code : Nat} (h : isBlank code = true) : lowerCode code = code := by
  have hall : ∀ code ∈ blanks, lowerCode code = code := by decide +kernel
  exact hall code (mem_blanks_of_isBlank h)

theorem lowerChar_eq_self {c : Char} (hc : lowerCode c.toNat = c.toNat) (before after : List Char) :
    lowerChar before c after = [c] := by
  have hdotted : ¬(c.toNat == 0x130) = true := by
    intro heq
    rw [beq_iff_eq.mp heq] at hc
    exact absurd hc (by decide)
  have hsigma : ¬(c.toNat == 0x3A3) = true := by
    intro heq
    rw [beq_iff_eq.mp heq] at hc
    exact absurd hc (by decide +kernel)
  rw [lowerChar, if_neg hdotted, if_neg hsigma, hc, Char.ofNat_toNat]

theorem mem_lowerFrom (hc : lowerCode c.toNat = c.toNat) (h : c ∈ cs) (before : List Char) :
    c ∈ lowerFrom before cs := by
  induction cs generalizing before with
  | nil => cases h
  | cons first rest ih =>
      rw [lowerFrom, List.mem_append]
      rcases List.mem_cons.mp h with rfl | hrest
      · left
        rw [lowerChar_eq_self hc]
        exact List.mem_singleton_self c
      · right
        exact ih hrest (first :: before)

/-- Lower case keeps every character that it does not change. -/
theorem mem_lower (hc : lowerCode c.toNat = c.toNat) (h : c ∈ s.toList) : c ∈ (lower s).toList := by
  rw [lower, String.toList_ofList]
  exact mem_lowerFrom hc h []

/-- A text whose lower case has no blank is left alone. -/
theorem strip_eq_self_of_lower (h : ∀ c ∈ (lower s).toList, isBlank c.toNat = false) :
    strip s = s := by
  apply strip_eq_self
  intro c hc
  apply Bool.eq_false_iff.mpr
  intro hblank
  have hkept := h c (mem_lower (lowerCode_of_isBlank hblank) hc)
  rw [hblank] at hkept
  exact Bool.noConfusion hkept

end Clearance.Text
