/-
# Pools of processes

When several processes take turns in a world that honours their contract, each of them still keeps it,
and the invariant of the world holds all the time, in whatever order they get their turns.
-/

import Clearance.Proofs.Process.Contract

namespace Clearance

namespace Process

variable {α ω : Type} {asks : Question → Prop} {trusts : (q : Question) → q.Answer → Prop}
  {ends : α → Prop} {h : Handler ω} {holds : ω → Prop} {p : Process α} {pool : List (Process α)}
  {w : ω}

/-- One question leaves the rest of a contract to be kept. -/
theorem Obeys.step (hp : Obeys asks trusts ends p) (hh : Honours h holds asks trusts)
    (hw : holds w) : Obeys asks trusts ends (p.step h w).1 ∧ holds (p.step h w).2 := by
  cases hp with
  | done hends => exact ⟨.done hends, hw⟩
  | @wait q next hasks hnext =>
      obtain ⟨hholds, htrusts⟩ := hh q w hw hasks
      simp only [Process.step]
      rcases hq : h q w with ⟨_ | a, w'⟩
      · rw [hq] at hholds
        exact ⟨.wait hasks hnext, hholds⟩
      · rw [hq] at hholds htrusts
        exact ⟨hnext a (htrusts a rfl), hholds⟩

/-- Processes that take turns keep their contracts. -/
theorem follow_obeys (hh : Honours h holds asks trusts) (turns : List Nat)
    (hpool : ∀ p ∈ pool, Obeys asks trusts ends p) (hw : holds w) :
    (∀ p ∈ (follow h turns pool w).1, Obeys asks trusts ends p) ∧
      holds (follow h turns pool w).2 := by
  induction turns generalizing pool w with
  | nil => exact ⟨hpool, hw⟩
  | cons turn turns ih =>
      simp only [follow]
      cases hturn : pool[turn]? with
      | none => exact ih hpool hw
      | some p =>
          obtain ⟨hstep, hholds⟩ := (hpool p (List.mem_of_getElem? hturn)).step hh hw
          refine ih (fun q hq => ?_) hholds
          rcases List.mem_or_eq_of_mem_set hq with hq | rfl
          · exact hpool q hq
          · exact hstep

/-- Processes that run one after the other keep the invariant of their world. -/
theorem settle_holds (hh : Honours h holds asks trusts)
    (hpool : ∀ p ∈ pool, Obeys asks trusts ends p) (hw : holds w) : holds (settle h pool w).2 := by
  induction pool generalizing w with
  | nil => exact hw
  | cons p rest ih =>
      have hrun := ((hpool p List.mem_cons_self).run hh hw).1
      exact ih (fun q hq => hpool q (List.mem_cons_of_mem p hq)) hrun

end Process

end Clearance
