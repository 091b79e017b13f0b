/-
# Time stamps

The stamp of a moment is its civil date and time of day in universal time, in whole milliseconds. All
of its numbers stand in fixed places, from the greatest unit to the least, so stamps are in the order of
the milliseconds that they tell. The weekday is that of the date in the stamp. So both attributes of
time depend on nothing but the instant.
-/

import Clearance.Attribute.Clock
import Clearance.Proofs.Time.Calendar
import Clearance.Proofs.Time.Padded

namespace Clearance.Time

/-! ## Civil times -/

/-- A date and a time of day in whole milliseconds. -/
structure CivilTime where
  date : Date
  hour : Nat
  minute : Nat
  second : Nat
  millisecond : Nat

namespace CivilTime

/-- The date and the time of day exist, and the year has four digits. -/
structure IsValid (t : CivilTime) : Prop where
  date : t.date.IsValid
  year : 1000 ≤ t.date.year ∧ t.date.year ≤ 9999
  hour : t.hour < 24
  minute : t.minute < 60
  second : t.second < 60
  millisecond : t.millisecond < 1000

/-- A civil time comes before another one: the greater unit counts before the lesser. -/
def IsBefore (t t' : CivilTime) : Prop :=
  t.date.IsBefore t'.date ∨ t.date = t'.date ∧
    (t.hour < t'.hour ∨ t.hour = t'.hour ∧ (t.minute < t'.minute ∨ t.minute = t'.minute ∧
      (t.second < t'.second ∨ t.second = t'.second ∧ t.millisecond < t'.millisecond)))

/-- Milliseconds from midnight. -/
def ofDay (t : CivilTime) : Nat :=
  (t.hour * 3600 + t.minute * 60 + t.second) * 1000 + t.millisecond

/-- Milliseconds, counted as instants are. -/
def millis (t : CivilTime) : Nat := t.date.ordinal * 86400000 + t.ofDay

/-- The standard form, with all numbers in fixed places. -/
def text (t : CivilTime) : String :=
  padded 4 t.date.year ++ "-" ++ padded 2 t.date.month ++ "-" ++ padded 2 t.date.day ++ "T" ++
    padded 2 t.hour ++ ":" ++ padded 2 t.minute ++ ":" ++ padded 2 t.second ++ "." ++
    padded 3 t.millisecond ++ "Z"

variable {t t' : CivilTime}

/-- The time of day is less than a day. -/
theorem IsValid.ofDay_lt (h : t.IsValid) : t.ofDay < 86400000 := by
  have hhour := h.hour
  have hminute := h.minute
  have hsecond := h.second
  have hmillisecond := h.millisecond
  rw [ofDay]
  omega

/-- On a day, the greater unit counts before the lesser. -/
theorem ofDay_lt_iff (h : t.IsValid) (h' : t'.IsValid) :
    t.ofDay < t'.ofDay ↔ t.hour < t'.hour ∨ t.hour = t'.hour ∧ (t.minute < t'.minute ∨
      t.minute = t'.minute ∧ (t.second < t'.second ∨
        t.second = t'.second ∧ t.millisecond < t'.millisecond)) := by
  have hminute := h.minute
  have hminute' := h'.minute
  have hsecond := h.second
  have hsecond' := h'.second
  have hmillisecond := h.millisecond
  have hmillisecond' := h'.millisecond
  rw [ofDay, ofDay]
  omega

/-- Every number fits into its places. -/
theorem IsValid.fits (h : t.IsValid) :
    t.date.year < 10 ^ 4 ∧ t.date.month < 10 ^ 2 ∧ t.date.day < 10 ^ 2 ∧ t.hour < 10 ^ 2 ∧
      t.minute < 10 ^ 2 ∧ t.second < 10 ^ 2 ∧ t.millisecond < 10 ^ 3 := by
  obtain ⟨hdate, ⟨-, hyear⟩, hhour, hminute, hsecond, hmillisecond⟩ := h
  have hmonth := hdate.month_le
  have hday := hdate.day_le
  have hlength : ∀ month ≤ 12, monthLength (isLeap t.date.year) month ≤ 31 := by
    cases isLeap t.date.year <;> decide
  have hlong := hlength t.date.month hmonth
  omega

/-- Civil times are in the order of their texts. -/
theorem text_lt_iff_isBefore (h : t.IsValid) (h' : t'.IsValid) :
    t.text < t'.text ↔ t.IsBefore t' := by
  obtain ⟨hyear, hmonth, hday, hhour, hminute, hsecond, hmillisecond⟩ := h.fits
  obtain ⟨hyear', hmonth', hday', hhour', hminute', hsecond', hmillisecond'⟩ := h'.fits
  have hlast : ¬("Z" : String) < "Z" := by decide
  have hdate : t.date = t'.date ↔ t.date.year = t'.date.year ∧ t.date.month = t'.date.month ∧
      t.date.day = t'.date.day := by
    cases t.date
    cases t'.date
    rw [Date.mk.injEq]
  simp only [text, String.append_assoc]
  rw [padded_append_lt_iff (by decide) hyear hyear', prepend_lt_iff,
    padded_append_lt_iff (by decide) hmonth hmonth', prepend_lt_iff,
    padded_append_lt_iff (by decide) hday hday', prepend_lt_iff,
    padded_append_lt_iff (by decide) hhour hhour', prepend_lt_iff,
    padded_append_lt_iff (by decide) hminute hminute', prepend_lt_iff,
    padded_append_lt_iff (by decide) hsecond hsecond', prepend_lt_iff,
    padded_append_lt_iff (by decide) hmillisecond hmillisecond', IsBefore, hdate,
    Date.IsBefore]
  simp only [hlast, and_false, or_false, and_or_left, and_assoc, or_assoc]

/-- A later date has more milliseconds at any time of day. -/
theorem millis_lt_of_isBefore (h : t.IsValid) (h' : t'.IsValid) (hdate : t.date.IsBefore t'.date) :
    t.millis < t'.millis := by
  have hordinal := hdate.ordinal_lt h.date h'.date
  have hofDay := h.ofDay_lt
  rw [millis, millis]
  omega

/-- Civil times are in the order of their milliseconds, too. -/
theorem millis_lt_iff_isBefore (h : t.IsValid) (h' : t'.IsValid) :
    t.millis < t'.millis ↔ t.IsBefore t' := by
  rw [IsBefore]
  rcases Date.isBefore_trichotomy t.date t'.date with hless | hsame | hmore
  · simp only [hless, true_or, iff_true]
    exact millis_lt_of_isBefore h h' hless
  · have hnot : ¬t'.date.IsBefore t'.date := fun hbefore =>
      Nat.lt_irrefl _ (hbefore.ordinal_lt h'.date h'.date)
    rw [← ofDay_lt_iff h h', hsame, or_iff_right hnot, and_iff_right rfl, millis, millis, hsame,
      Nat.add_lt_add_iff_left]
  · have hafter := millis_lt_of_isBefore h' h hmore
    refine iff_of_false (Nat.lt_asymm hafter) ?_
    rintro (hless | ⟨hsame, -⟩)
    · exact Nat.lt_asymm (hless.ordinal_lt h.date h'.date) (hmore.ordinal_lt h'.date h.date)
    · rw [hsame] at hmore
      exact Nat.lt_irrefl _ (hmore.ordinal_lt h'.date h'.date)

theorem text_lt_iff (h : t.IsValid) (h' : t'.IsValid) : t.text < t'.text ↔ t.millis < t'.millis := by
  rw [text_lt_iff_isBefore h h', millis_lt_iff_isBefore h h']

/-- The date at so many milliseconds. -/
theorem IsValid.ordinal_eq (h : t.IsValid) : t.date.ordinal = t.millis / 86400000 := by
  have hofDay := h.ofDay_lt
  simp only [millis]
  omega

/-- The milliseconds tell civil times apart. -/
theorem eq_of_millis_eq (h : t.IsValid) (h' : t'.IsValid) (heq : t.millis = t'.millis) : t = t' := by
  have hdate : t.date = t'.date := by
    apply Date.eq_of_ordinal_eq h.date h'.date
    rw [h.ordinal_eq, h'.ordinal_eq, heq]
  have hofDay : t.ofDay = t'.ofDay := by
    rw [millis, millis, hdate] at heq
    exact Nat.add_left_cancel heq
  obtain ⟨date, hour, minute, second, millisecond⟩ := t
  obtain ⟨date', hour', minute', second', millisecond'⟩ := t'
  obtain ⟨-, -, hhour, hminute, hsecond, hmillisecond⟩ := h
  obtain ⟨-, -, hhour', hminute', hsecond', hmillisecond'⟩ := h'
  dsimp only at *
  subst hdate
  simp only [ofDay, mk.injEq, true_and] at hofDay ⊢
  omega

theorem text_eq_iff (h : t.IsValid) (h' : t'.IsValid) : t.text = t'.text ↔ t.millis = t'.millis := by
  constructor
  · intro heq
    have hless := text_lt_iff h h'
    have hmore := text_lt_iff h' h
    rw [heq] at hless hmore
    have hnotLess := mt hless.mpr (String.lt_irrefl t'.text)
    have hnotMore := mt hmore.mpr (String.lt_irrefl t'.text)
    omega
  · intro heq
    rw [eq_of_millis_eq h h' heq]

end CivilTime

/-! ## Moments -/

/-- A number of four digits needs no zeros before it. -/
theorem repr_eq_padded {n : Nat} (hle : 1000 ≤ n) (hlt : n ≤ 9999) : n.repr = padded 4 n := by
  have hfour : (Nat.toDigits 10 n).length ≤ 4 :=
    (Nat.length_toDigits_le_iff (by decide) (by decide)).mpr (Nat.lt_succ_of_le hlt)
  have hthree : ¬(Nat.toDigits 10 n).length ≤ 3 := fun hshort =>
    Nat.not_lt_of_le hle ((Nat.length_toDigits_le_iff (by decide) (by decide)).mp hshort)
  have hlength : 4 - (Nat.toDigits 10 n).length = 0 := by omega
  rw [padded, hlength, List.replicate_zero, List.nil_append, Nat.repr_eq_ofList_toDigits]

namespace Moment

/-- The date and the time of day exist. -/
@[mk_iff]
structure IsValid (m : Moment) : Prop where
  date : m.date.IsValid
  hour : m.hour < 24
  minute : m.minute < 60
  second : m.second < 60
  microsecond : m.microsecond < 1000000

/-- The instant at which a year begins. -/
def yearStart (year : Nat) : Int := ((⟨year, 1, 1⟩ : Date).ordinal : Int) * perDay

instance (m : Moment) : Decidable m.IsValid := decidable_of_iff' _ m.isValid_iff

/-- A moment whose universal time has a year of four digits. -/
@[mk_iff]
structure IsTellable (m : Moment) : Prop where
  isValid : m.IsValid
  first : yearStart 1000 ≤ m.instant
  last : m.instant < yearStart 10000

instance (m : Moment) : Decidable m.IsTellable := decidable_of_iff' _ m.isTellable_iff

/-- The civil time of a moment, cut to whole milliseconds. -/
def civil (m : Moment) : CivilTime where
  date := m.date
  hour := m.hour
  minute := m.minute
  second := m.second
  millisecond := m.microsecond / 1000

/-- A civil time is that of a moment in universal time, and both attributes of time are its texts. -/
structure IsToldBy (m : Moment) (t : CivilTime) : Prop where
  isValid : t.IsValid
  millis_eq : (t.millis : Int) = m.instant / 1000
  timestamp_eq : m.timestamp = .ok t.text
  dayOfWeek_eq : m.dayOfWeek = .ok (toString t.date.weekday)

variable {m m' u : Moment} {t t' : CivilTime}

theorem IsValid.ofDay_lt (h : m.IsValid) : m.ofDay < perDay := by
  have hhour := h.hour
  have hminute := h.minute
  have hsecond := h.second
  have hmicrosecond := h.microsecond
  simp only [ofDay, perDay, perSecond]
  omega

theorem instant_of_offset_zero (hoffset : u.offset = some 0) :
    u.instant = ((u.date.ordinal * perDay + u.ofDay : Nat) : Int) := by
  rw [instant, hoffset, Option.getD_some, Int.sub_zero, Int.natCast_add, Int.natCast_mul]

theorem ofDay_civil (m : Moment) : m.civil.ofDay = m.ofDay / 1000 := by
  simp only [CivilTime.ofDay, civil, ofDay, perSecond]
  omega

/-- Of a moment in universal time, the civil time is the instant. -/
theorem millis_civil (hoffset : u.offset = some 0) : (u.civil.millis : Int) = u.instant / 1000 := by
  have hday : (u.date.ordinal * perDay + u.ofDay) / 1000 =
      u.date.ordinal * 86400000 + u.ofDay / 1000 := by
    simp only [perDay, perSecond]
    omega
  rw [instant_of_offset_zero hoffset, CivilTime.millis, ofDay_civil, civil, ← hday, Int.natCast_ediv]
  rfl

/-- A year has four digits if universal time does not leave these years. -/
theorem IsTellable.year_bounds (h : u.IsTellable) (hoffset : u.offset = some 0) :
    1000 ≤ u.date.year ∧ u.date.year ≤ 9999 := by
  have hdate := h.isValid.date
  have hofDay := h.isValid.ofDay_lt
  have hfirst := h.first
  have hlast := h.last
  rw [instant_of_offset_zero hoffset, yearStart, ← Int.natCast_mul] at hfirst hlast
  have hmillennium : (⟨1000, 1, 1⟩ : Date).IsValid := by decide
  have hend : (⟨10000, 1, 1⟩ : Date).IsValid := by decide
  have hnotBefore : ¬u.date.IsBefore ⟨1000, 1, 1⟩ := by
    rw [← Date.ordinal_lt_iff hdate hmillennium, Nat.not_lt]
    refine Nat.le_of_lt_succ (Nat.lt_of_mul_lt_mul_right (a := perDay) ?_)
    rw [Nat.succ_mul]
    omega
  have hbefore : u.date.IsBefore ⟨10000, 1, 1⟩ := by
    rw [← Date.ordinal_lt_iff hdate hend]
    refine Nat.lt_of_mul_lt_mul_right (a := perDay) ?_
    omega
  have hmonth := hdate.month_pos
  have hday := hdate.day_pos
  simp only [Date.IsBefore] at hnotBefore hbefore
  omega

theorem IsTellable.civil_isValid (h : u.IsTellable) (hoffset : u.offset = some 0) :
    u.civil.IsValid where
  date := h.isValid.date
  year := h.year_bounds hoffset
  hour := h.isValid.hour
  minute := h.isValid.minute
  second := h.isValid.second
  millisecond := Nat.div_lt_of_lt_mul h.isValid.microsecond

theorem stamp_eq (h : u.IsTellable) (hoffset : u.offset = some 0) : u.stamp = u.civil.text := by
  obtain ⟨hle, hlt⟩ := h.year_bounds hoffset
  simp only [stamp, CivilTime.text, civil, toString, repr_eq_padded hle hlt,
    String.append_assoc]

/-- A moment at an instant exists. -/
theorem isValid_of_ofInstant? {instant : Int} (h : ofInstant? instant = some u) :
    u.IsValid ∧ u.offset = some 0 := by
  simp only [ofInstant?] at h
  split at h
  case isFalse => cases h
  case isTrue =>
    obtain rfl := Option.some.inj h
    refine ⟨⟨isValid_ofOrdinal _, ?_, ?_, ?_, ?_⟩, rfl⟩
    all_goals
      simp only [perDay, perSecond]
      omega

theorem exists_ofInstant? {instant : Int} (hfirst : yearStart 1000 ≤ instant)
    (hlast : instant < yearStart 10000) : ∃ u, ofInstant? instant = some u := by
  have hpos : (0 : Int) < perDay := by decide
  have hone : 1 * (perDay : Int) ≤ yearStart 1000 := by decide
  have hend : yearStart 10000 = (lastOrdinal + 1 : Int) * perDay := by decide
  have hle : 1 ≤ instant / (perDay : Int) :=
    (Int.le_ediv_iff_mul_le hpos).mpr (Int.le_trans hone hfirst)
  have hlt : instant / (perDay : Int) ≤ lastOrdinal :=
    Int.lt_add_one_iff.mp ((Int.ediv_lt_iff_lt_mul hpos).mpr (hend ▸ hlast))
  simp only [ofInstant?, hle, hlt, decide_true, Bool.and_self, if_true]
  exact ⟨_, rfl⟩

/-- Years of four digits are within the calendar. -/
theorem IsTellable.exists_universal? (h : m.IsTellable) :
    ∃ u, m.universal? = some u ∧ u.IsTellable ∧ u.offset = some 0 ∧ u.instant = m.instant := by
  obtain ⟨u, hu, hvalid, hoffset⟩ :
      ∃ u, m.universal? = some u ∧ u.IsValid ∧ u.offset = some 0 := by
    rw [universal?]
    cases m.offset with
    | none =>
        obtain ⟨hdate, hhour, hminute, hsecond, hmicrosecond⟩ := h.isValid
        exact ⟨_, rfl, ⟨hdate, hhour, hminute, hsecond, hmicrosecond⟩, rfl⟩
    | some offset =>
        obtain ⟨u, hu⟩ := exists_ofInstant? h.first h.last
        exact ⟨u, hu, isValid_of_ofInstant? hu⟩
  have hinstant := instant_of_universal? hu
  exact ⟨u, hu, ⟨hvalid, hinstant.symm ▸ h.first, hinstant.symm ▸ h.last⟩, hoffset, hinstant⟩

/-- The texts of a moment are those of its civil time in universal time. -/
theorem IsTellable.exists_isToldBy (h : m.IsTellable) : ∃ t, m.IsToldBy t := by
  obtain ⟨u, hu, hvalid, hoffset, hinstant⟩ := h.exists_universal?
  refine ⟨u.civil, hvalid.civil_isValid hoffset, ?_, ?_, ?_⟩
  · rw [millis_civil hoffset, hinstant]
  · rw [timestamp, timestamp?, hu, Option.map_some, stamp_eq hvalid hoffset]
  · rw [dayOfWeek, dayOfWeek?, hu, Option.map_some, ← Nat.repr_eq_ofList_toDigits]
    rfl

/-- Only one civil time is told at an instant. -/
theorem IsToldBy.civil_eq (h : m.IsToldBy t) (h' : m'.IsToldBy t') (hinstant : m.instant = m'.instant) :
    t = t' := by
  apply CivilTime.eq_of_millis_eq h.isValid h'.isValid
  have hmillis := h.millis_eq
  have hmillis' := h'.millis_eq
  rw [hinstant] at hmillis
  omega

/-- The civil date is the day of universal time. -/
theorem IsToldBy.ordinal_eq (h : m.IsToldBy t) : (t.date.ordinal : Int) = m.instant / perDay := by
  have hday : m.instant / perDay = m.instant / 1000 / 86400000 := by
    rw [Int.ediv_ediv_of_nonneg (by decide)]
    rfl
  rw [h.isValid.ordinal_eq, Int.natCast_ediv, h.millis_eq, hday]
  rfl

/-- The dates of one day and of the day after follow each other. -/
theorem IsToldBy.date_next (h : m.IsToldBy t) (h' : m'.IsToldBy t')
    (hday : m'.instant / perDay = m.instant / perDay + 1) : t'.date = t.date.next := by
  have hdate := h.isValid.date
  apply Date.eq_of_ordinal_eq h'.isValid.date hdate.next
  have hordinal := h.ordinal_eq
  have hordinal' := h'.ordinal_eq
  rw [hdate.ordinal_next]
  omega

/-- The attributes of time depend on the instant only. The timestamp is the civil time of the instant in
universal time, cut to whole milliseconds, and timestamps are in the order of the milliseconds. The
weekday is that of the same civil date, and the next day has the next one. -/
theorem tells_instant (h : m.IsTellable) (h' : m'.IsTellable) :
    ∃ t t', m.IsToldBy t ∧ m'.IsToldBy t' ∧
      (m.instant = m'.instant → m.timestamp = m'.timestamp ∧ m.dayOfWeek = m'.dayOfWeek) ∧
      (t.text < t'.text ↔ m.instant / 1000 < m'.instant / 1000) ∧
      (t.text = t'.text ↔ m.instant / 1000 = m'.instant / 1000) ∧
      (m'.instant / perDay = m.instant / perDay + 1 →
        t'.date = t.date.next ∧ t'.date.weekday = (t.date.weekday + 1) % 7) := by
  obtain ⟨t, ht⟩ := h.exists_isToldBy
  obtain ⟨t', ht'⟩ := h'.exists_isToldBy
  refine ⟨t, t', ht, ht', fun hinstant => ?_, ?_, ?_, fun hday => ?_⟩
  · obtain rfl := ht.civil_eq ht' hinstant
    exact ⟨ht.timestamp_eq.trans ht'.timestamp_eq.symm,
      ht.dayOfWeek_eq.trans ht'.dayOfWeek_eq.symm⟩
  · rw [CivilTime.text_lt_iff ht.isValid ht'.isValid, ← ht.millis_eq, ← ht'.millis_eq, Int.ofNat_lt]
  · rw [CivilTime.text_eq_iff ht.isValid ht'.isValid, ← ht.millis_eq, ← ht'.millis_eq, Int.natCast_inj]
  · have hnext := ht.date_next ht' hday
    exact ⟨hnext, hnext ▸ Date.weekday_next ht.isValid.date⟩

/-- The last half hour of a leap day, without an offset. -/
def leapEvening : Moment := ⟨⟨2024, 2, 29⟩, 23, 30, 0, 999, none⟩

/-- The evening of the same date five hours to the west, where the leap day is over in universal
time. -/
def leapWest : Moment := ⟨⟨2024, 2, 29⟩, 19, 45, 0, 0, some (-18000000000)⟩

theorem leapWest_tells_next_day :
    leapEvening.IsTellable ∧ leapWest.IsTellable ∧ leapEvening.date = leapWest.date ∧
      leapWest.instant / perDay = leapEvening.instant / perDay + 1 ∧
      leapEvening.timestamp = .ok "2024-02-29T23:30:00.000Z" ∧
      leapWest.timestamp = .ok "2024-03-01T00:45:00.000Z" ∧
      leapEvening.dayOfWeek = .ok "4" ∧ leapWest.dayOfWeek = .ok "5" ∧
      ∃ t t', leapEvening.IsToldBy t ∧ leapWest.IsToldBy t' ∧ t.text < t'.text ∧
        t'.date = t.date.next ∧ t'.date.weekday = (t.date.weekday + 1) % 7 := by
  have hevening : leapEvening.IsTellable := by decide
  have hwest : leapWest.IsTellable := by decide
  have hday : leapWest.instant / perDay = leapEvening.instant / perDay + 1 := by decide
  obtain ⟨t, t', ht, ht', -, hless, -, hnext⟩ := tells_instant hevening hwest
  exact ⟨hevening, hwest, rfl, hday, rfl, rfl, rfl, rfl,
    t, t', ht, ht', hless.mpr (by decide), hnext hday⟩

end Moment

end Clearance.Time
