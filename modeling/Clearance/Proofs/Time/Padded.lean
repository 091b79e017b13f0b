/-
# Numbers in fixed places

A number with leading zeros can be read back, and numbers that are written in as many places have the
order of their texts.
-/

import Mathlib.Data.Nat.Init
import Mathlib.Data.String.Basic
import Clearance.Time.Moment

namespace Clearance.Time

/-! ## The order of texts -/

/-- Of texts that begin with as many characters, these are compared first. -/
theorem append_lt_append_iff {a b : List Char} (h : a.length = b.length) (c d : List Char) :
    a ++ c < b ++ d ↔ a < b ∨ a = b ∧ c < d := by
  induction a generalizing b with
  | nil =>
      obtain rfl := List.eq_nil_of_length_eq_zero h.symm
      simp
  | cons x a ih =>
      cases b with
      | nil => cases h
      | cons y b =>
          have hrest := ih (Nat.succ.inj h)
          simp only [List.cons_append, List.cons_lt_cons_iff, hrest, List.cons.injEq]
          constructor
          · rintro (hless | ⟨hsame, hless | ⟨heq, hrest⟩⟩)
            · exact .inl (.inl hless)
            · exact .inl (.inr ⟨hsame, hless⟩)
            · exact .inr ⟨⟨hsame, heq⟩, hrest⟩
          · rintro ((hless | ⟨hsame, hless⟩) | ⟨⟨hsame, heq⟩, hrest⟩)
            · exact .inl hless
            · exact .inr ⟨hsame, .inl hless⟩
            · exact .inr ⟨hsame, .inr ⟨heq, hrest⟩⟩

/-- What texts have in common at their beginning does not count. -/
theorem prepend_lt_iff (s t u : String) : s ++ t < s ++ u ↔ t < u := by
  rw [String.lt_iff_toList_lt, String.toList_append, String.toList_append, append_lt_append_iff rfl,
    or_iff_right (List.lt_irrefl s.toList), and_iff_right rfl, ← String.lt_iff_toList_lt]

/-! ## Padded numbers -/

theorem ofDigitChars_padded (width n : Nat) :
    Nat.ofDigitChars 10 (padded width n).toList 0 = n := by
  rw [padded, String.toList_ofList, Nat.ofDigitChars_append, Nat.ofDigitChars_replicate_zero,
    Nat.mul_zero, Nat.ofDigitChars_toDigits (by decide) (by decide)]

theorem toList_padded_inj {width n n' : Nat} :
    (padded width n).toList = (padded width n').toList ↔ n = n' := by
  constructor
  · intro h
    rw [← ofDigitChars_padded width n, h, ofDigitChars_padded]
  · rintro rfl
    rfl

theorem length_padded {width n : Nat} (hwidth : 0 < width) (h : n < 10 ^ width) :
    (padded width n).toList.length = width := by
  have hle := (Nat.length_toDigits_le_iff (by decide) hwidth).mpr h
  simp only [padded, String.toList_ofList, List.length_append, List.length_replicate]
  omega

/-- The last place is that of the units. -/
theorem padded_succ {width : Nat} (hwidth : 0 < width) (n : Nat) :
    (padded (width + 1) n).toList = (padded width (n / 10)).toList ++ [Nat.digitChar (n % 10)] := by
  simp only [padded, String.toList_ofList]
  by_cases hless : n < 10
  · obtain ⟨w, rfl⟩ : ∃ w, width = w + 1 := ⟨width - 1, by omega⟩
    rw [Nat.toDigits_of_lt_base hless, Nat.div_eq_of_lt hless, Nat.mod_eq_of_lt hless,
      Nat.toDigits_zero]
    simp [List.replicate_succ']
  · rw [Nat.toDigits_of_base_le (by decide) (Nat.le_of_not_lt hless), List.length_append,
      List.length_singleton, Nat.add_sub_add_right, List.append_assoc]

/-- Numbers in as many places are in the order of their texts. -/
theorem toList_padded_lt_iff {width n n' : Nat} (hwidth : 0 < width) (h : n < 10 ^ width)
    (h' : n' < 10 ^ width) : (padded width n).toList < (padded width n').toList ↔ n < n' := by
  have hdigit : ∀ a < 10, ∀ b < 10, [Nat.digitChar a] < [Nat.digitChar b] ↔ a < b := by decide
  -- The places are taken from the units, since `n / 10` keeps one place less.
  induction width, hwidth using Nat.le_induction generalizing n n' with
  | base =>
      have hone : ∀ n < 10, (padded 1 n).toList = [Nat.digitChar n] := by decide
      rw [hone n h, hone n' h']
      exact hdigit n h n' h'
  | succ width hwidth ih =>
      have hten : n / 10 < 10 ^ width := Nat.div_lt_of_lt_mul (by rwa [← Nat.pow_succ'])
      have hten' : n' / 10 < 10 ^ width := Nat.div_lt_of_lt_mul (by rwa [← Nat.pow_succ'])
      have hlength : (padded width (n / 10)).toList.length =
          (padded width (n' / 10)).toList.length := by
        rw [length_padded hwidth hten, length_padded hwidth hten']
      have hless : (padded width (n / 10)).toList < (padded width (n' / 10)).toList ↔
        n / 10 < n' / 10 := ih hten hten'
      have hunits := hdigit _ (Nat.mod_lt n (by decide)) _ (Nat.mod_lt n' (by decide))
      rw [padded_succ hwidth, padded_succ hwidth, append_lt_append_iff hlength, hless,
        toList_padded_inj, hunits]
      omega

/-- Texts that begin with numbers in as many places are in the order of these first. -/
theorem padded_append_lt_iff {width n n' : Nat} (hwidth : 0 < width) (h : n < 10 ^ width)
    (h' : n' < 10 ^ width) (s t : String) :
    padded width n ++ s < padded width n' ++ t ↔ n < n' ∨ n = n' ∧ s < t := by
  have hlength : (padded width n).toList.length = (padded width n').toList.length := by
    rw [length_padded hwidth h, length_padded hwidth h']
  rw [String.lt_iff_toList_lt, String.toList_append, String.toList_append,
    append_lt_append_iff hlength, toList_padded_lt_iff hwidth h h', toList_padded_inj,
    ← String.lt_iff_toList_lt]

end Clearance.Time
