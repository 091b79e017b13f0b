/-
# What a batch leaves alone

A batch asks nothing but what its requests ask. So what each of these questions leaves alone, and
what goes on around the batch leaves alone, the whole batch leaves alone, in whatever order the
requests of a chunk come along and wherever time runs out.
-/

import Clearance.Authorization.Batch
import Clearance.Proofs.Process.Pool

namespace Clearance

variable {ω : Type} {h : Handler ω} {holds : ω → Prop} {asks : Question → Prop}
  {trusts : (q : Question) → q.Answer → Prop} {w : ω}

/-- What goes on around a batch keeps an invariant of the world. -/
structure Pace.Keeps (pace : Pace ω) (holds : ω → Prop) : Prop where
  runOut : ∀ w, holds w → holds (pace.runOut w)
  meanwhile : ∀ w, holds w → holds (pace.meanwhile w)
  pause : ∀ w, holds w → holds (pace.pause w)
  drop : ∀ q w, holds w → holds (pace.drop q w)

namespace Batch

variable {pace : Pace ω}

theorem dropAll_holds (hpace : pace.Keeps holds) (pool : List (Process Result)) (hw : holds w) :
    holds (dropAll pace pool w) := by
  simp only [dropAll]
  induction pool.filterMap Process.question? generalizing w with
  | nil => exact hw
  | cons q rest ih => exact ih (hpace.drop q w hw)

theorem advance_holds (hh : Process.Honours h holds asks trusts) (course : Course)
    {pool : List (Process Result)} (hpool : ∀ p ∈ pool, p.Obeys asks trusts fun _ => True)
    (hw : holds w) : holds (advance h course pool w).2 := by
  obtain ⟨hfollowed, hholds⟩ := Process.follow_obeys hh course.turns hpool hw
  rw [advance]
  dsimp only
  split
  · exact hholds
  · exact Process.settle_holds hh hfollowed hholds

/-- The processes that are not replaced are done. -/
theorem replace_obeys {late : String → Process Result}
    (hlate : ∀ id, (late id).Obeys asks trusts fun _ => True) (ids : List String)
    (pool : List (Process Result)) :
    ∀ p ∈ replace late ids pool, p.Obeys asks trusts fun _ => True := by
  simp only [replace]
  induction ids generalizing pool with
  | nil =>
      intro p hp
      cases hp
  | cons id rest ih =>
      cases pool with
      | nil =>
          intro p hp
          cases hp
      | cons p pool =>
          rw [List.zipWith_cons_cons, List.forall_mem_cons]
          refine ⟨?_, ih pool⟩
          cases p with
          | done a => exact .done trivial
          | wait q next => exact hlate id

variable {start late : String → Process Result}

theorem chunk_holds (hh : Process.Honours h holds asks trusts) (hpace : pace.Keeps holds)
    (hstart : ∀ id, (start id).Obeys asks trusts fun _ => True)
    (hlate : ∀ id, (late id).Obeys asks trusts fun _ => True) (course : Course)
    (ids : List String) (hw : holds w) : holds (chunk h pace course start late ids w).2 := by
  have hall : ∀ f : String → Process Result, (∀ id, (f id).Obeys asks trusts fun _ => True) →
      ∀ p ∈ ids.map f, p.Obeys asks trusts fun _ => True := by
    intro f hf p hp
    obtain ⟨id, _, rfl⟩ := List.mem_map.mp hp
    exact hf id
  have hadvanced := hpace.meanwhile _
    (advance_holds hh course (hall start hstart) (hpace.meanwhile w hw))
  rw [chunk]
  split
  · exact Process.settle_holds hh (hall late hlate) hw
  · dsimp only
    split
    · exact hadvanced
    · have hdropped := dropAll_holds hpace (advance h course (ids.map start) (pace.meanwhile w)).1
        hadvanced
      split
      · exact Process.settle_holds hh (replace_obeys hlate ids _) (hpace.runOut _ hdropped)
      · exact hdropped

theorem work_holds (hh : Process.Honours h holds asks trusts) (hpace : pace.Keeps holds)
    (hstart : ∀ id, (start id).Obeys asks trusts fun _ => True)
    (hlate : ∀ id, (late id).Obeys asks trusts fun _ => True) (n : Nat)
    (rest : List (List String)) (hw : holds w) : holds (work h pace start late n rest w).2 := by
  induction rest generalizing n w with
  | nil => exact hw
  | cons ids rest ih =>
      have hchunk := chunk_holds hh hpace hstart hlate (pace.course n) ids hw
      rw [work]
      dsimp only
      rcases hresults : chunk h pace (pace.course n) start late ids w with ⟨_ | results, w'⟩
      · rw [hresults] at hchunk
        exact hchunk
      · rw [hresults] at hchunk
        apply ih
        split
        · exact hchunk
        · exact hpace.pause w' hchunk

end Batch

/-- What the requests of a batch leave alone, the batch leaves alone. -/
theorem authorizeMany_holds {pace : Pace ω} (hh : Process.Honours h holds asks trusts)
    (hpace : pace.Keeps holds) (s : Settings)
    (hauthorize : ∀ r limit, (authorize s r limit).Obeys asks trusts fun _ => True)
    (hannounce : ∀ r result, (Authorization.announce r result).Obeys asks trusts fun _ => True)
    (width : Nat) (subject action : Option String) (resources : List String)
    (context : List (String × Value)) (hw : holds w) :
    holds (authorizeMany h pace s width subject action resources context w).2 := by
  have hlate : ∀ id, (Batch.late subject action id).Obeys asks trusts fun _ => True :=
    fun id => (hannounce _ _).bind fun _ _ => .done trivial
  exact Batch.work_holds hh hpace (fun id => hauthorize _ none) hlate 0 _ hw

end Clearance
