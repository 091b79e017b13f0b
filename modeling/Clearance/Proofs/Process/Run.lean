/-
# Runs of processes

A run of a process in sequence with another is a run of the first, and of the second if the first one
ends. What a run asked and what it was told is its list of exchanges. The exchanges say what happened
between a process and its world without any look at the world, so they serve as the vocabulary for
statements about calls that fail and about things that were not done.
-/

import Clearance.Process.Run

namespace Clearance

namespace Process

variable {α β γ ω : Type}

theorem bind_done (p : Process α) : p >>= done = p := by
  induction p with
  | done a => rfl
  | wait q next ih =>
      rw [wait_bind]
      exact congrArg (wait q) (funext ih)

theorem bind_bind (p : Process α) (f : α → Process β) (g : β → Process γ) :
    p >>= f >>= g = p >>= fun a => f a >>= g := by
  induction p with
  | done a => rfl
  | wait q next ih =>
      simp only [wait_bind]
      exact congrArg (wait q) (funext ih)

instance : LawfulMonad Process :=
  LawfulMonad.mk' Process bind_done (fun _ _ => rfl) bind_bind

/-- A run of a sequence. -/
theorem run_bind (h : Handler ω) (p : Process α) (f : α → Process β) (w : ω) :
    (p >>= f).run h w =
      match p.run h w with
      | (done a, w) => (f a).run h w
      | (wait q next, w) => (wait q fun a => next a >>= f, w) := by
  induction p generalizing w with
  | done a => rfl
  | wait q next ih =>
      simp only [wait_bind, run]
      rcases h q w with ⟨_ | a, w⟩
      · rfl
      · exact ih a w

/-- A run whose first part ends goes on with the second part. -/
theorem run_bind_of_done {h : Handler ω} {p : Process α} {w w' : ω} {a : α}
    (hrun : p.run h w = (done a, w')) (f : α → Process β) :
    (p >>= f).run h w = (f a).run h w' := by
  rw [run_bind, hrun]

end Process

/-- A question with the answer that it got. -/
structure Exchange where
  question : Question
  answer : question.Answer

/-- A call to the store that failed. -/
def Exchange.failed (call : StoreCall) (fault : Fault) : Exchange := ⟨.ask call, .error fault⟩

/-- A call to the store that was answered. -/
def Exchange.answered (call : StoreCall) (a : call.Answer) : Exchange := ⟨.ask call, .ok a⟩

namespace Process

variable {α β ω : Type}

/-- What a run asks and what it is told, in order. -/
def exchanges (h : Handler ω) : Process α → ω → List Exchange
  | done _, _ => []
  | wait q next, w =>
    match h q w with
    | (some a, w) => ⟨q, a⟩ :: (next a).exchanges h w
    | (none, _) => []

/-- The exchanges of a sequence are those of its parts. -/
theorem exchanges_bind (h : Handler ω) (p : Process α) (f : α → Process β) (w : ω) :
    (p >>= f).exchanges h w =
      p.exchanges h w ++
        match p.run h w with
        | (done a, w) => (f a).exchanges h w
        | (wait .., _) => [] := by
  induction p generalizing w with
  | done a => rfl
  | wait q next ih =>
      simp only [wait_bind, run, exchanges]
      rcases h q w with ⟨_ | a, w⟩
      · rfl
      · exact congrArg (⟨q, a⟩ :: ·) (ih a w)

theorem exchanges_bind_of_done {h : Handler ω} {p : Process α} {w w' : ω} {a : α}
    (hrun : p.run h w = (done a, w')) (f : α → Process β) :
    (p >>= f).exchanges h w = p.exchanges h w ++ (f a).exchanges h w' := by
  rw [exchanges_bind, hrun]

/-- What every question of a run leaves alone, the run leaves alone. -/
theorem run_preserves {h : Handler ω} {p : Process α} {w w' : ω} {a : α} {allowed : Question → Prop}
    (holds : ω → Prop) (hstep : ∀ q w, allowed q → holds w → holds (h q w).2)
    (hrun : p.run h w = (done a, w')) (hasks : ∀ x ∈ p.exchanges h w, allowed x.question)
    (hw : holds w) : holds w' := by
  induction p generalizing w with
  | done b =>
      cases hrun
      exact hw
  | wait q next ih =>
      simp only [run, exchanges] at hrun hasks
      rcases hq : h q w with ⟨_ | answer, w₁⟩
      · rw [hq] at hrun
        cases hrun
      · rw [hq] at hrun hasks
        have hallowed := hasks _ List.mem_cons_self
        have hnext := hstep q w hallowed hw
        rw [hq] at hnext
        exact ih answer hrun (fun x hx => hasks x (List.mem_cons_of_mem _ hx)) hnext

/-- No call to the store fails in a run. -/
def Unfailing (h : Handler ω) (p : Process α) (w : ω) : Prop :=
  ∀ call fault, Exchange.failed call fault ∉ p.exchanges h w

theorem Unfailing.left {h : Handler ω} {p : Process α} {f : α → Process β} {w : ω}
    (hp : Unfailing h (p >>= f) w) : Unfailing h p w := by
  intro call fault hx
  apply hp call fault
  rw [exchanges_bind]
  exact List.mem_append_left _ hx

theorem Unfailing.right {h : Handler ω} {p : Process α} {f : α → Process β} {w w' : ω} {a : α}
    (hp : Unfailing h (p >>= f) w) (hrun : p.run h w = (done a, w')) : Unfailing h (f a) w' := by
  intro call fault hx
  apply hp call fault
  rw [exchanges_bind_of_done hrun]
  exact List.mem_append_right _ hx

end Process

end Clearance
