/-
# The calendar

The dates that exist, in their order, each followed by the next. The count of days goes up by one from
each date to the next, so it has the order of the dates and tells them apart, and so does the weekday
go up by one. Every count of one or more is that of a date.
-/

import Mathlib.Tactic.MkIffOfInductiveProp
import Clearance.Proofs.Time.Civil

namespace Clearance.Time

/-! ## Months and years -/

/-- The number of days of a month. -/
def monthLength (leap : Bool) (month : Nat) : Nat := (monthLengths leap).getD (month - 1) 0

/-- The days before a month and those of the month are the days before the next one. -/
theorem daysBeforeMonth_succ (leap : Bool) :
    ∀ month < 12, daysBeforeMonth leap (month + 1 + 1) =
      daysBeforeMonth leap (month + 1) + monthLength leap (month + 1) := by
  cases leap <;> decide

theorem daysBeforeMonth_thirteen (leap : Bool) :
    daysBeforeMonth leap 13 = 365 + leap.toNat := by
  cases leap <;> decide

theorem isLeap_iff {year : Nat} :
    isLeap year = true ↔ year % 4 = 0 ∧ (year % 100 ≠ 0 ∨ year % 400 = 0) := by
  simp [isLeap]

/-- A year has 365 days, and one more if it is a leap year. -/
theorem daysBeforeYear_succ {year : Nat} (h : 1 ≤ year) :
    daysBeforeYear (year + 1) = daysBeforeYear year + 365 + (isLeap year).toNat := by
  have hfours : year / 4 = (year - 1) / 4 + if year % 4 = 0 then 1 else 0 := by
    split <;> omega
  have hcenturies : year / 100 = (year - 1) / 100 + if year % 100 = 0 then 1 else 0 := by
    split <;> omega
  have hcycles : year / 400 = (year - 1) / 400 + if year % 400 = 0 then 1 else 0 := by
    split <;> omega
  have hleap : (isLeap year).toNat + (if year % 100 = 0 then 1 else 0) =
      (if year % 4 = 0 then 1 else 0) + if year % 400 = 0 then 1 else 0 := by
    have hcentury : year % 100 = 0 → year % 4 = 0 := by omega
    have hcycle : year % 400 = 0 → year % 100 = 0 := by omega
    by_cases hfour : year % 4 = 0 <;> by_cases hundred : year % 100 = 0 <;>
      by_cases hfourHundred : year % 400 = 0 <;> simp_all [isLeap]
  have hless : (year - 1) / 100 ≤ (year - 1) / 4 := by omega
  simp only [daysBeforeYear, Nat.add_sub_cancel]
  omega

theorem daysBeforeYear_mono {year year' : Nat} (h : year ≤ year') :
    daysBeforeYear year ≤ daysBeforeYear year' := by
  induction h with
  | refl => exact Nat.le_refl _
  | @step later _ ih =>
      refine Nat.le_trans ih ?_
      cases later with
      | zero => decide
      | succ n =>
          rw [daysBeforeYear_succ (Nat.le_add_left 1 n)]
          omega

/-! ## Dates -/

namespace Date

/-- A date exists: its year has the month, and the month has the day. -/
@[mk_iff]
structure IsValid (d : Date) : Prop where
  year_pos : 1 ≤ d.year
  month_pos : 1 ≤ d.month
  month_le : d.month ≤ 12
  day_pos : 1 ≤ d.day
  day_le : d.day ≤ monthLength (isLeap d.year) d.month

instance (d : Date) : Decidable d.IsValid := decidable_of_iff' _ d.isValid_iff

/-- A date comes before another one. -/
def IsBefore (d d' : Date) : Prop :=
  d.year < d'.year ∨
    d.year = d'.year ∧ (d.month < d'.month ∨ d.month = d'.month ∧ d.day < d'.day)

/-- The date of the day after. -/
def next (d : Date) : Date :=
  if d.day < monthLength (isLeap d.year) d.month then { d with day := d.day + 1 }
  else if d.month < 12 then { d with month := d.month + 1, day := 1 }
  else { year := d.year + 1, month := 1, day := 1 }

variable {d d' : Date}

theorem one_le_monthLength (leap : Bool) : ∀ month < 12, 1 ≤ monthLength leap (month + 1) := by
  cases leap <;> decide

/-- The day after a date is a date. -/
theorem IsValid.next (h : d.IsValid) : d.next.IsValid := by
  obtain ⟨hyear, hmonth, hmonth', hday, hday'⟩ := h
  rw [Date.next]
  split
  case isTrue hless => exact ⟨hyear, hmonth, hmonth', Nat.le_add_left 1 d.day, hless⟩
  case isFalse =>
    split
    case isTrue hless =>
      exact ⟨hyear, Nat.le_add_left 1 d.month, hless, Nat.le_refl 1,
        one_le_monthLength _ d.month hless⟩
    case isFalse =>
      have hjanuary : 1 ≤ 12 := by decide
      exact ⟨Nat.le_add_left 1 d.year, Nat.le_refl 1, hjanuary, Nat.le_refl 1,
        one_le_monthLength _ 0 (by decide)⟩

/-- The days of a year before the day after a month's last. -/
theorem daysBeforeMonth_add_le (leap : Bool) {month month' : Nat} (hpos : 1 ≤ month)
    (hless : month < month') (hle : month' ≤ 13) :
    daysBeforeMonth leap month + monthLength leap month ≤ daysBeforeMonth leap month' := by
  obtain ⟨m, rfl⟩ : ∃ m, month = m + 1 := ⟨month - 1, by omega⟩
  rw [← daysBeforeMonth_succ leap m (by omega)]
  have hmono : ∀ m ≤ 13, ∀ m' ≤ m, daysBeforeMonth leap m' ≤ daysBeforeMonth leap m := by
    cases leap <;> decide
  exact hmono month' hle (m + 1 + 1) hless

/-- The day after a date has the next count. -/
theorem IsValid.ordinal_next (h : d.IsValid) : d.next.ordinal = d.ordinal + 1 := by
  obtain ⟨hyear, hmonth, hmonth', hday, hday'⟩ := h
  obtain ⟨m, hm⟩ : ∃ m, d.month = m + 1 := ⟨d.month - 1, by omega⟩
  have hmonths := daysBeforeMonth_succ (isLeap d.year) m (by omega)
  simp only [Date.next, ordinal]
  split
  case isTrue hless =>
    dsimp only
    omega
  case isFalse hlast =>
    split
    case isTrue hless =>
      simp only [hm] at hlast hday' ⊢
      omega
    case isFalse hdecember =>
      obtain rfl : m = 11 := by omega
      have hyears := daysBeforeYear_succ hyear
      have hdays := daysBeforeMonth_thirteen (isLeap d.year)
      have hfirst : daysBeforeMonth (isLeap (d.year + 1)) 1 = 0 := rfl
      simp only [hm, Nat.reduceAdd] at hlast hday' hmonths hfirst ⊢
      omega

theorem weekday_next (h : d.IsValid) : d.next.weekday = (d.weekday + 1) % 7 := by
  rw [weekday, weekday, h.ordinal_next]
  omega

/-- The days of a year up to a date are no more than the year has. -/
theorem IsValid.days_le (h : d.IsValid) :
    daysBeforeMonth (isLeap d.year) d.month + d.day ≤ 365 + (isLeap d.year).toNat := by
  have hmonth :=
    daysBeforeMonth_add_le (isLeap d.year) h.month_pos (Nat.lt_succ_of_le h.month_le) (Nat.le_refl 13)
  have hlast := h.day_le
  rw [daysBeforeMonth_thirteen] at hmonth
  omega

/-- An earlier date has a lower count. -/
theorem IsBefore.ordinal_lt (hbefore : d.IsBefore d') (h : d.IsValid) (h' : d'.IsValid) :
    d.ordinal < d'.ordinal := by
  have hday := h.day_le
  have hday' := h'.day_pos
  simp only [ordinal]
  rcases hbefore with hyear | ⟨hyear, hmonth | ⟨hmonth, hless⟩⟩
  · have hdays := h.days_le
    have hyears := daysBeforeYear_succ h.year_pos
    have hmono := daysBeforeYear_mono (show d.year + 1 ≤ d'.year from hyear)
    omega
  · have hmonths := daysBeforeMonth_add_le (isLeap d.year) h.month_pos hmonth
      (Nat.le_succ_of_le h'.month_le)
    rw [← hyear]
    omega
  · rw [← hyear, ← hmonth]
    omega

theorem isBefore_trichotomy (d d' : Date) : d.IsBefore d' ∨ d = d' ∨ d'.IsBefore d := by
  obtain ⟨year, month, day⟩ := d
  obtain ⟨year', month', day'⟩ := d'
  simp only [IsBefore, mk.injEq]
  omega

/-- Dates are in the order of their counts. -/
theorem ordinal_lt_iff (h : d.IsValid) (h' : d'.IsValid) :
    d.ordinal < d'.ordinal ↔ d.IsBefore d' := by
  refine ⟨fun hless => ?_, fun hbefore => hbefore.ordinal_lt h h'⟩
  rcases isBefore_trichotomy d d' with hbefore | rfl | hafter
  · exact hbefore
  · exact absurd hless (Nat.lt_irrefl _)
  · exact absurd hless (Nat.lt_asymm (hafter.ordinal_lt h' h))

/-- The count tells dates apart. -/
theorem eq_of_ordinal_eq (h : d.IsValid) (h' : d'.IsValid) (heq : d.ordinal = d'.ordinal) :
    d = d' := by
  rcases isBefore_trichotomy d d' with hbefore | hsame | hafter
  · exact absurd heq (Nat.ne_of_lt (hbefore.ordinal_lt h h'))
  · exact hsame
  · exact absurd heq.symm (Nat.ne_of_lt (hafter.ordinal_lt h' h))

end Date

/-! ## The date at a count -/

/-- Within the months that are left, a day falls into one of them. -/
theorem monthDay_isValid (lengths : List Nat) (month rest : Nat)
    (h : rest < lengths.foldr (· + ·) 0) :
    month ≤ (monthDay month rest lengths).1 ∧
      (monthDay month rest lengths).1 < month + lengths.length ∧
      1 ≤ (monthDay month rest lengths).2 ∧
      (monthDay month rest lengths).2 ≤
        lengths.getD ((monthDay month rest lengths).1 - month) 0 := by
  induction lengths generalizing month rest with
  | nil => exact absurd h (Nat.not_lt_zero rest)
  | cons length lengths ih =>
      rw [List.foldr_cons] at h
      rw [monthDay]
      split
      case isTrue hless =>
        simp only [Nat.sub_self, List.getD_cons_zero, List.length_cons]
        omega
      case isFalse hmore =>
        obtain ⟨hle, hlt, hpos, hday⟩ := ih (month + 1) (rest - length) (by omega)
        have hone : (monthDay (month + 1) (rest - length) lengths).1 - month =
            (monthDay (month + 1) (rest - length) lengths).1 - (month + 1) + 1 := by omega
        rw [hone, List.getD_cons_succ, List.length_cons]
        exact ⟨by omega, by omega, hpos, hday⟩

/-- Only a leap year has a day left after 365 days. -/
theorem isLeap_of_day_left {n cycles centuries quads years : Nat}
    (hcenturies : centuries = min 3 (n / 36524))
    (hquads : quads = (n - centuries * 36524) / 1461)
    (hyears : years = min 3 ((n - centuries * 36524) % 1461 / 365)) (hn : n < 146097)
    (hrest : 365 ≤ (n - centuries * 36524) % 1461 - years * 365) :
    isLeap (cycles * 400 + centuries * 100 + quads * 4 + years + 1) = true := by
  rw [isLeap_iff]
  omega

/-- At every count there is a date. -/
theorem isValid_ofOrdinal (n : Nat) : (Date.ofOrdinal n).IsValid := by
  simp only [Date.ofOrdinal]
  generalize hcycles : (n - 1) / 146097 = cycles
  generalize hcenturies : min 3 ((n - 1) % 146097 / 36524) = centuries
  generalize hquads : ((n - 1) % 146097 - centuries * 36524) / 1461 = quads
  generalize hyears : min 3 (((n - 1) % 146097 - centuries * 36524) % 1461 / 365) = years
  generalize hrest : ((n - 1) % 146097 - centuries * 36524) % 1461 - years * 365 = rest
  -- The year counts are cut off at three, so a day after 365 is left only where a cycle of years ends,
  -- and it must be shown to end in a leap year before the count is forgotten.
  have hleap : 365 ≤ rest →
      isLeap (cycles * 400 + centuries * 100 + quads * 4 + years + 1) = true := by
    intro hday
    exact isLeap_of_day_left hcenturies.symm hquads.symm hyears.symm
      (Nat.mod_lt _ (by decide)) (hrest ▸ hday)
  have hbound : rest ≤ 365 := by omega
  generalize hyear : cycles * 400 + centuries * 100 + quads * 4 + years + 1 = year at hleap
  have hdays : rest < (monthLengths (isLeap year)).foldr (· + ·) 0 := by
    cases hcase : isLeap year with
    | true => exact Nat.lt_of_le_of_lt hbound (by decide)
    | false =>
        have hless : rest < 365 := by
          apply Nat.lt_of_not_le
          intro hday
          rw [hleap hday] at hcase
          cases hcase
        exact Nat.lt_of_lt_of_le hless (by decide)
  obtain ⟨hpos, hlt, hday, hday'⟩ := monthDay_isValid (monthLengths (isLeap year)) 1 rest hdays
  refine ⟨?_, hpos, Nat.le_of_lt_succ hlt, hday, hday'⟩
  rw [← hyear]
  exact Nat.le_add_left 1 _

end Clearance.Time
