/-
# Days and dates

Counting the days to a date and finding the date at a count undo each other, so a moment that is
carried to universal time stays at its instant. The count is taken apart from the longest cycle of
the calendar to the shortest; each part is as long as the days of its years say.
-/

import Clearance.Time.Moment

namespace Clearance.Time

/-- The days before a month and the day of it that a number of days falls on are that number again. -/
theorem monthDay_days (lengths : List Nat) (month rest : Nat) :
    month ≤ (monthDay month rest lengths).1 ∧
      (lengths.take ((monthDay month rest lengths).1 - month)).foldr (· + ·) 0 +
        (monthDay month rest lengths).2 = rest + 1 := by
  induction lengths generalizing month rest with
  | nil => simp [monthDay]
  | cons length lengths ih =>
      rw [monthDay]
      split
      · simp
      · obtain ⟨hle, hdays⟩ := ih (month + 1) (rest - length)
        have hone : (monthDay (month + 1) (rest - length) lengths).1 - month =
            (monthDay (month + 1) (rest - length) lengths).1 - (month + 1) + 1 := by omega
        refine ⟨by omega, ?_⟩
        rw [hone, List.take_succ_cons, List.foldr_cons]
        omega

/-- The years before a year, told by cycles of four centuries, centuries, cycles of four years and
years, have as many days as these. -/
theorem daysBeforeYear_eq (cycles : Nat) {centuries quads years : Nat} (hcenturies : centuries ≤ 3)
    (hquads : quads ≤ 24) (hyears : years ≤ 3) :
    daysBeforeYear (cycles * 400 + centuries * 100 + quads * 4 + years + 1) =
      cycles * 146097 + centuries * 36524 + quads * 1461 + years * 365 := by
  simp only [daysBeforeYear]
  omega

/-- The date at a count of days has that count. -/
theorem ordinal_ofOrdinal {n : Nat} (h : 1 ≤ n) : (Date.ofOrdinal n).ordinal = n := by
  simp only [Date.ofOrdinal, Date.ordinal]
  generalize hcycles : (n - 1) / 146097 = cycles
  generalize hcenturies : min 3 ((n - 1) % 146097 / 36524) = centuries
  generalize hquads : ((n - 1) % 146097 - centuries * 36524) / 1461 = quads
  generalize hyears : min 3 (((n - 1) % 146097 - centuries * 36524) % 1461 / 365) = years
  generalize hrest : ((n - 1) % 146097 - centuries * 36524) % 1461 - years * 365 = rest
  have hquarter : quads ≤ 24 := by omega
  have hdays := daysBeforeYear_eq cycles (by omega : centuries ≤ 3) hquarter
    (by omega : years ≤ 3)
  rw [hdays]
  generalize isLeap _ = leap
  obtain ⟨-, hmonth⟩ := monthDay_days (monthLengths leap) 1 rest
  rw [daysBeforeMonth]
  omega

/-- The moment at an instant is at that instant. -/
theorem instant_of_ofInstant? {instant : Int} {m : Moment} (h : Moment.ofInstant? instant = some m) :
    m.instant = instant := by
  simp only [Moment.ofInstant?] at h
  split at h
  case isFalse => cases h
  case isTrue hday =>
    obtain ⟨hfirst, -⟩ := Bool.and_eq_true_iff.mp hday
    have hpositive : 1 ≤ (instant / (perDay : Int)).toNat := by
      have := of_decide_eq_true hfirst
      omega
    obtain rfl := Option.some.inj h
    simp only [Moment.instant, Moment.ofDay, ordinal_ofOrdinal hpositive, Option.getD_some]
    simp only [perDay, perSecond] at hpositive ⊢
    omega

/-- Universal time is another way to tell the same instant; without an offset, a moment is in universal
time already. -/
theorem instant_of_universal? {m u : Moment} (h : m.universal? = some u) :
    u.instant = m.instant := by
  rw [Moment.universal?] at h
  cases hoffset : m.offset with
  | none =>
      rw [hoffset] at h
      obtain rfl := Option.some.inj h
      simp [Moment.instant, Moment.ofDay, hoffset]
  | some offset =>
      rw [hoffset] at h
      exact instant_of_ofInstant? h

end Clearance.Time
