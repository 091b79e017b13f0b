/-
# Plain texts

Texts of printable ASCII, to which digits and the texts of all numbers belong. No such text has a
character that any reader takes for the end of a line.
-/

import Clearance.Decimal.Format
import Clearance.Text.Quoted

namespace Clearance.Text

/-! ## Line ends -/

/-- The characters that one reader or another takes for the end of a line. -/
def lineEnds : List Char :=
  ['\n', '\r', '\x0b', '\x0c', '\x1c', '\x1d', '\x1e', '\x85', '\u2028', '\u2029']

/-- Whether some reader finds more than one line in a text. -/
def HasLineEnd (s : String) : Prop := ∃ c ∈ s.toList, c ∈ lineEnds

instance (s : String) : Decidable (HasLineEnd s) := List.decidableBEx (· ∈ lineEnds) s.toList

@[simp]
theorem hasLineEnd_append {s t : String} : HasLineEnd (s ++ t) ↔ HasLineEnd s ∨ HasLineEnd t := by
  simp only [HasLineEnd, String.toList_append, List.mem_append, or_and_right, exists_or]

/-! ## Printable ASCII -/

/-- All characters are printable ASCII. -/
def IsPlain (cs : List Char) : Prop := ∀ c ∈ cs, 32 ≤ c.toNat ∧ c.toNat < 127

instance (cs : List Char) : Decidable (IsPlain cs) :=
  List.decidableBAll (fun c : Char => 32 ≤ c.toNat ∧ c.toNat < 127) cs

/-- A plain text stands on one line. -/
theorem not_hasLineEnd_of_isPlain {s : String} (h : IsPlain s.toList) : ¬HasLineEnd s := by
  rintro ⟨c, hc, hend⟩
  have hall : lineEnds.all (fun c => !(32 ≤ c.toNat && c.toNat < 127)) = true := by decide
  have hnot := List.all_eq_true.mp hall c hend
  simp [h c hc] at hnot

variable {cs ds : List Char}

@[simp]
theorem isPlain_nil : IsPlain [] := List.forall_mem_nil _

@[simp]
theorem isPlain_cons {c : Char} :
    IsPlain (c :: cs) ↔ (32 ≤ c.toNat ∧ c.toNat < 127) ∧ IsPlain cs := List.forall_mem_cons

@[simp]
theorem isPlain_append : IsPlain (cs ++ ds) ↔ IsPlain cs ∧ IsPlain ds := List.forall_mem_append

theorem IsPlain.of_subset (h : IsPlain ds) (hsub : cs ⊆ ds) : IsPlain cs :=
  fun c hc => h c (hsub hc)

theorem isPlain_flatMap {α : Type} {f : α → List Char} (h : ∀ a, IsPlain (f a)) (members : List α) :
    IsPlain (members.flatMap f) := by
  intro c hc
  obtain ⟨a, -, ha⟩ := List.mem_flatMap.mp hc
  exact h a c ha

theorem isPlain_zeros (n : Nat) : IsPlain (List.replicate n '0') := by
  intro c hc
  rw [List.eq_of_mem_replicate hc]
  decide

/-- The digits of a number, in a base that has digits for all remainders, are plain. -/
theorem isPlain_toDigits {base : Nat} (hone : 1 < base) (hbase : base ≤ 16) (n : Nat) :
    IsPlain (Nat.toDigits base n) := by
  have hdigit : ∀ n < 16, IsPlain [Nat.digitChar n] := by decide
  induction n using Nat.strongRecOn with
  | _ n ih =>
      by_cases hless : n < base
      · rw [Nat.toDigits_of_lt_base hless]
        exact hdigit n (by omega)
      · have hpositive : 0 < n := by omega
        rw [Nat.toDigits_of_base_le hone (by omega), isPlain_append]
        refine ⟨ih _ (Nat.div_lt_self hpositive hone), hdigit _ ?_⟩
        have hrest := Nat.mod_lt n (by omega : 0 < base)
        omega

theorem isPlain_hex (width n : Nat) : IsPlain (hex width n) := by
  rw [hex]
  exact isPlain_append.mpr ⟨isPlain_zeros _, isPlain_toDigits (by decide) (by decide) n⟩

/-! ## Numbers -/

/-- The decimal digits of a number are plain. -/
theorem isPlain_decimal (n : Nat) : IsPlain (Nat.toDigits 10 n) :=
  isPlain_toDigits (by decide) (by decide) n

theorem isPlain_int (n : Int) : IsPlain (toString n).toList := by
  rw [Int.toString_eq_repr, Int.repr_eq_if]
  split <;> simp only [Nat.repr_eq_ofList_toDigits, String.toList_append, String.toList_ofList]
  · exact isPlain_decimal _
  · exact isPlain_append.mpr ⟨by decide, isPlain_decimal _⟩

theorem isPlain_positional (h : IsPlain cs) (place : Int) : IsPlain (Decimal.positional cs place) := by
  simp only [Decimal.positional]
  split
  · simp [isPlain_zeros, h]
  · split
    · simp [isPlain_zeros, h]
    · refine isPlain_append.mpr ⟨h.of_subset (List.take_subset _ _), ?_⟩
      exact isPlain_cons.mpr ⟨by decide, h.of_subset (List.drop_subset _ _)⟩

theorem isPlain_scientific (h : IsPlain cs) (power : Int) : IsPlain (Decimal.scientific cs power) := by
  have hpoint : IsPlain (if (cs.drop 1).isEmpty then [] else '.' :: cs.drop 1) := by
    split
    · exact isPlain_nil
    · exact isPlain_cons.mpr ⟨by decide, h.of_subset (List.drop_subset _ _)⟩
  have hsign : IsPlain [if power < 0 then '-' else '+'] := by
    split <;> decide
  have hsize : IsPlain (if (Nat.toDigits 10 power.natAbs).length < 2
      then '0' :: Nat.toDigits 10 power.natAbs else Nat.toDigits 10 power.natAbs) := by
    split
    · exact isPlain_cons.mpr ⟨by decide, isPlain_decimal _⟩
    · exact isPlain_decimal _
  simp only [Decimal.scientific]
  refine isPlain_append.mpr ⟨isPlain_append.mpr ⟨h.of_subset (List.take_subset _ _), hpoint⟩, ?_⟩
  exact isPlain_cons.mpr ⟨by decide, isPlain_append.mpr ⟨hsign, hsize⟩⟩

theorem isPlain_written (d : Decimal.Scaled) : IsPlain d.written := by
  simp only [Decimal.Scaled.written]
  split
  · exact isPlain_positional (isPlain_decimal _) _
  · exact isPlain_scientific (isPlain_decimal _) _

/-- The text of every real number is plain. -/
theorem isPlain_text (x : Float) : IsPlain (Decimal.text x).toList := by
  rw [Decimal.text]
  cases Decimal.parts x with
  | notANumber => decide
  | infinite negative => cases negative <;> decide
  | finite negative mantissa exponent =>
      have hbody : IsPlain (if mantissa == 0 then ['0', '.', '0']
          else (Decimal.shortest mantissa exponent).written) := by
        split
        · decide
        · exact isPlain_written _
      dsimp only
      rw [String.toList_ofList]
      split
      · exact isPlain_cons.mpr ⟨by decide, hbody⟩
      · exact hbody

end Clearance.Text
