/-
# Processes under an oracle

An oracle answers every question in one way, or not at all. What a process comes to under an oracle is
settled before it begins. A world that never contradicts the oracle changes nothing about that: whenever
a process gets its turn there, it is one step further on the way to the same result. So processes that
take turns come to what each of them comes to alone.
-/

import Clearance.Process.Run

namespace Clearance

namespace Process

variable {α β ω : Type}

/-- What a process comes to under an oracle, unless it asks what the oracle leaves open. -/
def foretold (oracle : (q : Question) → Option q.Answer) : Process α → Option α
  | done a => some a
  | wait q next => (oracle q).bind fun a => (next a).foretold oracle

/-- As long as an invariant holds, a world answers nothing but what an oracle says, and the invariant is
kept. It may leave questions without an answer. -/
structure Respects (h : Handler ω) (holds : ω → Prop)
    (oracle : (q : Question) → Option q.Answer) : Prop where
  stays : ∀ q w, holds w → holds (h q w).2
  tells : ∀ q w a, holds w → (h q w).1 = some a → oracle q = some a

/-- As long as an invariant holds, a world answers what an oracle says, and the invariant is kept. -/
structure Obliges (h : Handler ω) (holds : ω → Prop)
    (oracle : (q : Question) → Option q.Answer) : Prop where
  stays : ∀ q w, holds w → holds (h q w).2
  tells : ∀ q w, holds w → (h q w).1 = oracle q

variable {h : Handler ω} {holds : ω → Prop} {oracle : (q : Question) → Option q.Answer}

theorem Obliges.respects (hh : Obliges h holds oracle) : Respects h holds oracle where
  stays := hh.stays
  tells := fun q w _ hw ha => (hh.tells q w hw).symm.trans ha

theorem foretold_of_result?_eq_some {p : Process α} {a : α} (hp : p.result? = some a) :
    p.foretold oracle = some a := by
  cases p with
  | done b => exact hp
  | wait q next => cases hp

/-- An oracle that leaves nothing open foretells something of every process. -/
theorem exists_foretold_eq_some (horacle : ∀ q, ∃ a, oracle q = some a) (p : Process α) :
    ∃ a, p.foretold oracle = some a := by
  induction p with
  | done a => exact ⟨a, rfl⟩
  | wait q next ih =>
      obtain ⟨answer, hanswer⟩ := horacle q
      obtain ⟨a, ha⟩ := ih answer
      refine ⟨a, ?_⟩
      rw [foretold, hanswer]
      exact ha

/-! ## One process -/

/-- A step changes nothing about what a process comes to. -/
theorem foretold_step (hh : Respects h holds oracle) (p : Process α) {w : ω} (hw : holds w) :
    (p.step h w).1.foretold oracle = p.foretold oracle ∧ holds (p.step h w).2 := by
  cases p with
  | done a => exact ⟨rfl, hw⟩
  | wait q next =>
      have hstays := hh.stays q w hw
      have htells := fun a => hh.tells q w a hw
      simp only [step]
      rcases hq : h q w with ⟨_ | a, w'⟩
      · rw [hq] at hstays
        exact ⟨rfl, hstays⟩
      · rw [hq] at hstays htells
        refine ⟨?_, hstays⟩
        rw [foretold, htells a rfl]
        rfl

/-- A run changes nothing about what a process comes to. -/
theorem foretold_run (hh : Respects h holds oracle) (p : Process α) {w : ω} (hw : holds w) :
    (p.run h w).1.foretold oracle = p.foretold oracle ∧ holds (p.run h w).2 := by
  induction p generalizing w with
  | done a => exact ⟨rfl, hw⟩
  | wait q next ih =>
      have hstays := hh.stays q w hw
      have htells := fun a => hh.tells q w a hw
      simp only [run]
      rcases hq : h q w with ⟨_ | a, w'⟩
      · rw [hq] at hstays
        exact ⟨rfl, hstays⟩
      · rw [hq] at hstays htells
        obtain ⟨hforetold, hholds⟩ := ih a hstays
        refine ⟨?_, hholds⟩
        rw [foretold, htells a rfl]
        exact hforetold

/-- Where every answer of the oracle is given, a run comes to what is foretold. -/
theorem result?_run (hh : Obliges h holds oracle) (p : Process α) {w : ω} (hw : holds w) :
    (p.run h w).1.result? = p.foretold oracle := by
  induction p generalizing w with
  | done a => rfl
  | wait q next ih =>
      have hstays := hh.stays q w hw
      have htells := hh.tells q w hw
      simp only [run]
      rcases hq : h q w with ⟨_ | a, w'⟩
      · rw [hq] at htells
        rw [foretold, ← htells]
        rfl
      · rw [hq] at hstays htells
        rw [foretold, ← htells]
        exact ih a hstays

/-! ## Pools -/

/-- Taking turns changes nothing about what the processes of a pool come to. -/
theorem foretold_follow (hh : Respects h holds oracle) (turns : List Nat) (pool : List (Process α))
    {w : ω} (hw : holds w) :
    (follow h turns pool w).1.map (foretold oracle) = pool.map (foretold oracle) ∧
      holds (follow h turns pool w).2 := by
  induction turns generalizing pool w with
  | nil => exact ⟨rfl, hw⟩
  | cons turn turns ih =>
      simp only [follow]
      cases hturn : pool[turn]? with
      | none => exact ih pool hw
      | some p =>
          obtain ⟨hstep, hholds⟩ := foretold_step hh p hw
          obtain ⟨hrest, hholds'⟩ := ih (pool.set turn (p.step h w).1) hholds
          refine ⟨hrest.trans ?_, hholds'⟩
          rw [List.map_set, hstep]
          -- The process that got its turn comes to the same as before.
          apply List.ext_getElem?
          intro i
          rw [List.getElem?_set]
          split
          case isFalse => rfl
          case isTrue hi =>
            subst hi
            rw [List.getElem?_map, hturn]
            obtain ⟨hlength, -⟩ := List.getElem?_eq_some_iff.mp hturn
            simp [hlength]

theorem length_follow (turns : List Nat) (pool : List (Process α)) (w : ω) :
    (follow h turns pool w).1.length = pool.length := by
  induction turns generalizing pool w with
  | nil => rfl
  | cons turn turns ih =>
      simp only [follow]
      split
      · exact ih pool w
      · rw [ih, List.length_set]

/-- Running one after the other changes nothing about what the processes of a pool come to. -/
theorem foretold_settle (hh : Respects h holds oracle) (pool : List (Process α)) {w : ω}
    (hw : holds w) :
    (settle h pool w).1.map (foretold oracle) = pool.map (foretold oracle) ∧
      holds (settle h pool w).2 := by
  induction pool generalizing w with
  | nil => exact ⟨rfl, hw⟩
  | cons p rest ih =>
      obtain ⟨hrun, hholds⟩ := foretold_run hh p hw
      obtain ⟨hrest, hholds'⟩ := ih hholds
      simp only [settle, List.map_cons]
      rw [hrun, hrest]
      exact ⟨rfl, hholds'⟩

/-- Where every answer of the oracle is given, the processes of a pool come to what is foretold. -/
theorem result?_settle (hh : Obliges h holds oracle) (pool : List (Process α)) {w : ω}
    (hw : holds w) : (settle h pool w).1.map result? = pool.map (foretold oracle) := by
  induction pool generalizing w with
  | nil => rfl
  | cons p rest ih =>
      obtain ⟨-, hholds⟩ := foretold_run hh.respects p hw
      simp only [settle, List.map_cons]
      rw [result?_run hh p hw, ih hholds]

end Process

end Clearance
