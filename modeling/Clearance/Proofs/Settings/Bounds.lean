/-
# Numbers of a configuration within their limits

Every number of a configuration has a limit, and a check that refuses it. The checks ask whether a
number is out of bounds, and an undefined number is not. So the configurations that are built, from a
value, a file or the environment, are those of which every number is within its limit or undefined,
and such a configuration is within its limits exactly if no number of it is undefined.
-/

import Clearance.Proofs.Settings.Number
import Clearance.Proofs.Settings.RoundTrip
import Clearance.Settings.Environment
import Clearance.Settings.File

namespace Clearance

/-! ## Limits -/

/-- A number with the bound that it must be at least, or above. -/
inductive Limit where
  | atLeast (bound : Int) (n : Number)
  | above (bound : Int) (n : Number)

namespace Limit

/-- The number that a limit is on. -/
def number : Limit → Number
  | atLeast _ n | above _ n => n

/-- The bound of a limit. -/
def bound : Limit → Int
  | atLeast b _ | above b _ => b

/-- The number is within the limit. -/
def Holds : Limit → Prop
  | atLeast b n => n.IsAtLeast b
  | above b n => n.IsAbove b

/-- Whether the check for the limit refuses the number. -/
def isRefused : Limit → Bool
  | atLeast b n => n.isBelow b
  | above b n => n.isAtMost b

/-- A check passes a number exactly if it is undefined or within the limit, and it is never both. -/
theorem isRefused_eq_false_iff {limit : Limit} (h : (Decimal.ofInt limit.bound).isNaN = false) :
    limit.isRefused = false ↔ (limit.Holds ↔ ¬limit.number.IsUndefined) := by
  have hpassed : limit.isRefused = false ↔ limit.Holds ∨ limit.number.IsUndefined := by
    cases limit with
    | atLeast b n => exact Number.isBelow_eq_false_iff h
    | above b n => exact Number.isAtMost_eq_false_iff h
  have hexclusive : limit.number.IsUndefined → ¬limit.Holds := by
    cases limit with
    | atLeast b n => exact Number.IsUndefined.not_isAtLeast
    | above b n => exact Number.IsUndefined.not_isAbove
  rw [hpassed]
  tauto

end Limit

namespace Settings

variable {s : Settings}

/-- The numbers of a configuration with their limits. -/
def limits (s : Settings) : List Limit :=
  [.atLeast 1 s.cache.maxSize, .above 0 s.cache.lifetime, .atLeast 1 s.batch.width,
    .atLeast 0 s.batch.pause, .atLeast 1 s.audit.queueSize, .atLeast 0 s.audit.shutdownTimeout,
    .atLeast 1024 s.logging.maxFileSize] ++ s.requestTimeout.toList.map (.above 0)

theorem forall_mem_limits_iff {p : Limit → Prop} : (∀ limit ∈ s.limits, p limit) ↔
    (p (.atLeast 1 s.cache.maxSize) ∧ p (.above 0 s.cache.lifetime)) ∧
      (p (.atLeast 1 s.batch.width) ∧ p (.atLeast 0 s.batch.pause)) ∧
        (p (.atLeast 1 s.audit.queueSize) ∧ p (.atLeast 0 s.audit.shutdownTimeout)) ∧
          p (.atLeast 1024 s.logging.maxFileSize) ∧
            ∀ n ∈ s.requestTimeout, p (.above 0 n) := by
  simp [limits, and_assoc]

theorem isNaN_bound_of_mem_limits : ∀ limit ∈ s.limits, (Decimal.ofInt limit.bound).isNaN = false := by
  have hzero : (Decimal.ofInt 0).isNaN = false := by decide
  have hone : (Decimal.ofInt 1).isNaN = false := by decide
  have hsize : (Decimal.ofInt 1024).isNaN = false := by decide
  rw [forall_mem_limits_iff]
  exact ⟨⟨hone, hzero⟩, ⟨hone, hzero⟩, ⟨hone, hzero⟩, hsize, fun _ _ => hzero⟩

theorem isAccepted_iff : s.IsAccepted ↔ ∀ limit ∈ s.limits, limit.isRefused = false := by
  rw [forall_mem_limits_iff]
  constructor
  · rintro ⟨⟨hmaxSize, hlifetime⟩, ⟨hwidth, hpause⟩, ⟨hqueueSize, hshutdown⟩, ⟨hmaxFileSize⟩, htimeout⟩
    exact ⟨⟨hmaxSize, hlifetime⟩, ⟨hwidth, hpause⟩, ⟨hqueueSize, hshutdown⟩, hmaxFileSize, htimeout⟩
  · rintro ⟨⟨hmaxSize, hlifetime⟩, ⟨hwidth, hpause⟩, ⟨hqueueSize, hshutdown⟩, hmaxFileSize, htimeout⟩
    exact ⟨⟨hmaxSize, hlifetime⟩, ⟨hwidth, hpause⟩, ⟨hqueueSize, hshutdown⟩, ⟨hmaxFileSize⟩, htimeout⟩

/-! ## What is built -/

/-- A configuration is what a value, the environment or a file gives. -/
inductive IsBuilt (s : Settings) : Prop
  | value {data : Value} (h : ofValue data = .ok s)
  | environment {common : String} {environment : List (String × String)}
      (h : ofEnvironment common environment = .ok s)
  | file {name : String} {contents : Option String} (h : ofFile name contents = .ok s)

theorem isAccepted_of_ofEntries {entries : List (Value × Value)} (h : ofEntries entries = .ok s) :
    s.IsAccepted :=
  (ofEntries_eq_ok_iff.mp h).2.2

theorem isAccepted_of_ofValue {data : Value} (h : ofValue data = .ok s) : s.IsAccepted := by
  revert h
  fun_cases ofValue data
  case case1 => exact isAccepted_of_ofEntries
  case case2 => exact isAccepted_of_ofEntries
  case case3 =>
    intro h
    obtain ⟨entries, -, hentries⟩ := bind_eq_ok_iff.mp h
    exact isAccepted_of_ofEntries hentries
  case case4 => exact nofun

theorem isAccepted_of_ofFile {name : String} {contents : Option String}
    (h : ofFile name contents = .ok s) : s.IsAccepted := by
  cases contents with
  | none => cases h
  | some source =>
      simp only [ofFile] at h
      split at h
      next =>
        split at h
        next => exact isAccepted_of_ofValue h
        next => cases h
      next => cases h

theorem IsBuilt.isAccepted (h : IsBuilt s) : s.IsAccepted := by
  cases h with
  | value h => exact isAccepted_of_ofValue h
  | environment h =>
      obtain ⟨found, -, hfound⟩ := bind_eq_ok_iff.mp h
      exact isAccepted_of_ofEntries hfound
  | file h => exact isAccepted_of_ofFile h

/-- The level and the form of the log have one of the known names. -/
structure HasKnownNames (s : Settings) : Prop where
  level : s.logging.level.name ∈ ["DEBUG", "INFO", "WARNING", "ERROR", "CRITICAL"]
  format : s.logging.format.name ∈ ["json", "text"]

/-- Names are known and every number is within its limit. -/
structure IsWithinBounds (s : Settings) : Prop extends HasKnownNames s where
  limits : ∀ limit ∈ s.limits, limit.Holds

/-- Names are known and every number is within its limit, unless it is undefined. -/
structure IsChecked (s : Settings) : Prop extends HasKnownNames s where
  limits : ∀ limit ∈ s.limits, (limit.Holds ↔ ¬limit.number.IsUndefined)

theorem hasKnownNames (s : Settings) : s.HasKnownNames where
  level := by cases s.logging.level <;> decide
  format := by cases s.logging.format <;> decide

/-- What has been checked is within its bounds as far as its numbers are defined. -/
theorem IsChecked.isWithinBounds_iff (h : s.IsChecked) :
    s.IsWithinBounds ↔ ∀ limit ∈ s.limits, ¬limit.number.IsUndefined := by
  constructor
  · intro hbounds limit hlimit
    exact (h.limits limit hlimit).mp (hbounds.limits limit hlimit)
  · intro hdefined
    exact ⟨h.toHasKnownNames, fun limit hlimit => (h.limits limit hlimit).mpr (hdefined limit hlimit)⟩

/-- The configurations that are built are the ones whose defined numbers are within their limits. -/
theorem isBuilt_iff_isChecked (s : Settings) : IsBuilt s ↔ IsChecked s := by
  have hlimits : s.IsAccepted ↔ ∀ limit ∈ s.limits, (limit.Holds ↔ ¬limit.number.IsUndefined) := by
    rw [isAccepted_iff]
    exact forall₂_congr fun limit hlimit =>
      Limit.isRefused_eq_false_iff (isNaN_bound_of_mem_limits limit hlimit)
  constructor
  · intro h
    exact ⟨hasKnownNames s, hlimits.mp h.isAccepted⟩
  · intro h
    exact .value (ofValue_toValue (hlimits.mpr h.limits))

/-- A configuration whose cache has an undefined lifetime. -/
def timelessSettings : Settings := { cache := { lifetime := .real (0.0 / 0.0) } }

theorem isUndefined_timeless : timelessSettings.cache.lifetime.IsUndefined := by
  change (0.0 / 0.0 : Float).isNaN = true
  decide

theorem timeless_mem_limits : .above 0 timelessSettings.cache.lifetime ∈ timelessSettings.limits := by
  simp [limits]

theorem timelessSettings_isChecked : timelessSettings.IsChecked ∧
    ∃ limit ∈ timelessSettings.limits, limit.number.IsUndefined := by
  have hbuilt : ofEnvironment "ABAC_" [("ABAC_CACHE_TTL_SECONDS", "nan")] = .ok timelessSettings :=
    rfl
  refine ⟨(isBuilt_iff_isChecked timelessSettings).mp (.environment hbuilt), ?_⟩
  exact ⟨_, timeless_mem_limits, isUndefined_timeless⟩

/-- The environment can give a lifetime that is not positive. -/
theorem timelessSettings_escapes :
    ofEnvironment "ABAC_" [("ABAC_CACHE_TTL_SECONDS", "nan")] = .ok timelessSettings ∧
      ¬timelessSettings.IsWithinBounds := by
  refine ⟨rfl, ?_⟩
  intro hbounds
  have hlifetime := hbounds.limits _ timeless_mem_limits
  exact isUndefined_timeless.not_isAbove hlifetime

end Settings

end Clearance
