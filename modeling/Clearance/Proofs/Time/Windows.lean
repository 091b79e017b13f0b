/-
# Windows in universal time

A window whose bounds are put in universal time contains the same moments, whether they are told in
universal time or not: what counts is the instant.
-/

import Clearance.Directory.Basic
import Clearance.Proofs.Time.Civil

namespace Clearance

namespace Window

variable {w u : Window} {now moment : Time.Moment}

/-- A window with its bounds in universal time, if they have one. -/
def universal? (w : Window) : Option Window := do
  let first ← w.first.mapM Time.Moment.universal?
  let last ← w.last.mapM Time.Moment.universal?
  return ⟨first, last⟩

/-- A bound in universal time is another way to tell the same instant. -/
theorem all_instant_of_mapM_universal? {b b' : Option Time.Moment}
    (h : b.mapM Time.Moment.universal? = some b') (test : Int → Bool) :
    (b'.all fun m => test m.instant) = b.all fun m => test m.instant := by
  cases b with
  | none =>
      obtain rfl := Option.some.inj h
      rfl
  | some m =>
      rw [Option.mapM_some] at h
      obtain ⟨m', hm', rfl⟩ := Option.map_eq_some_iff.mp h
      simp only [Option.all_some, Time.instant_of_universal? hm']

theorem contains_of_universal? (h : w.universal? = some u) (hnow : now.universal? = some moment) :
    u.contains moment = w.contains now := by
  obtain ⟨first, hfirst, h⟩ := Option.bind_eq_some_iff.mp h
  obtain ⟨last, hlast, h⟩ := Option.bind_eq_some_iff.mp h
  obtain rfl := Option.some.inj h
  have hbegun := all_instant_of_mapM_universal? hfirst fun instant => instant ≤ now.instant
  have hnotOver := all_instant_of_mapM_universal? hlast fun instant => now.instant ≤ instant
  rw [contains, contains, Time.instant_of_universal? hnow, hbegun, hnotOver]

end Window

end Clearance
