/-
# Contracts of processes

What a process does, whatever world it runs in: it asks only certain questions, and as long as it is
told nothing that it must not be told, it ends with a certain result. A contract is kept step by step,
so the contract of a sequence follows from those of its parts. A world that keeps its side of the
contract can rely on the other.
-/

import Clearance.Proofs.Process.Run

namespace Clearance

namespace Process

variable {α β ω : Type} {asks asks' : Question → Prop}
  {trusts trusts' : (q : Question) → q.Answer → Prop} {ends ends' : α → Prop} {ends₂ : β → Prop}

/-- A process asks only some questions, and ends in some results when its answers can be trusted. -/
inductive Obeys (asks : Question → Prop) (trusts : (q : Question) → q.Answer → Prop)
    (ends : α → Prop) : Process α → Prop
  | done {a : α} (hends : ends a) : Obeys asks trusts ends (done a)
  | wait {q : Question} {next : q.Answer → Process α} (hasks : asks q)
      (hnext : ∀ a, trusts q a → Obeys asks trusts ends (next a)) :
      Obeys asks trusts ends (wait q next)

theorem Obeys.bind {p : Process α} {f : α → Process β} (hp : Obeys asks trusts ends p)
    (hf : ∀ a, ends a → Obeys asks trusts ends₂ (f a)) :
    Obeys asks trusts ends₂ (p >>= f) := by
  induction hp with
  | done hends => exact hf _ hends
  | wait hasks _ ih => exact .wait hasks ih

/-- Every process keeps the contract that promises nothing. -/
theorem Obeys.nothing (p : Process α) : Obeys (fun _ => True) trusts (fun _ => True) p := by
  induction p with
  | done a => exact .done trivial
  | wait q next ih => exact .wait trivial fun a _ => ih a

/-- A contract may ask more and promise less. -/
theorem Obeys.mono {p : Process α} (hp : Obeys asks trusts ends p)
    (hasks : ∀ q, asks q → asks' q) (htrusts : ∀ q a, trusts' q a → trusts q a)
    (hends : ∀ a, ends a → ends' a) : Obeys asks' trusts' ends' p := by
  induction hp with
  | done h => exact .done (hends _ h)
  | wait h _ ih => exact .wait (hasks _ h) fun a ha => ih a (htrusts _ a ha)

/-- A contract may promise less about the result. -/
theorem Obeys.ending {p : Process α} (hp : Obeys asks trusts ends p) (h : ∀ a, ends a → ends' a) :
    Obeys asks trusts ends' p :=
  hp.mono (fun _ h => h) (fun _ _ h => h) h

/-- A time limit changes the questions only where the store is called. -/
theorem Obeys.within {p : Process α} (limit : Span) (hp : Obeys asks trusts ends p)
    (hasks : ∀ call, asks (.ask call) → asks (.askWithin limit call))
    (htrusts : ∀ call a, trusts (.askWithin limit call) (some a) → trusts (.ask call) a) :
    Obeys asks trusts (fun a => ∀ b, a = some b → ends b) (p.within limit) := by
  induction hp with
  | done h => exact .done fun b hb => by cases hb; exact h
  | @wait q next h _ ih =>
      cases q with
      | ask call =>
          rw [Process.within]
          refine .wait (hasks call h) fun a ha => ?_
          cases a with
          | none => exact .done fun b hb => by cases hb
          | some a => exact ih a (htrusts call a ha)
      | _ => exact .wait h ih

section Worlds

variable {h : Handler ω} {holds : ω → Prop}

/-- A world keeps its side of a contract: the questions of the contract leave an invariant of the
world alone, and under the invariant the answers can be trusted. -/
def Honours (h : Handler ω) (holds : ω → Prop) (asks : Question → Prop)
    (trusts : (q : Question) → q.Answer → Prop) : Prop :=
  ∀ q w, holds w → asks q → holds (h q w).2 ∧ ∀ a, (h q w).1 = some a → trusts q a

/-- What a run comes to in a world that honours the contract. -/
theorem Obeys.run {p : Process α} {w : ω} (hp : Obeys asks trusts ends p)
    (hh : Honours h holds asks trusts) (hw : holds w) :
    holds (p.run h w).2 ∧ ∀ a, (p.run h w).1 = .done a → ends a := by
  induction hp generalizing w with
  | done hends => exact ⟨hw, fun a ha => by cases ha; exact hends⟩
  | @wait q next hasks _ ih =>
      obtain ⟨hholds, htrusts⟩ := hh q w hw hasks
      simp only [Process.run]
      rcases hq : h q w with ⟨_ | a, w'⟩
      · rw [hq] at hholds
        exact ⟨hholds, fun a ha => by cases ha⟩
      · rw [hq] at hholds htrusts
        exact ih a (htrusts a rfl) hholds

/-- Every exchange of a run in a world that honours the contract is one of the contract. -/
theorem Obeys.exchanges {p : Process α} {w : ω} (hp : Obeys asks trusts ends p)
    (hh : Honours h holds asks trusts) (hw : holds w) :
    ∀ x ∈ p.exchanges h w, asks x.question ∧ trusts x.question x.answer := by
  induction hp generalizing w with
  | done _ => simp [Process.exchanges]
  | @wait q next hasks _ ih =>
      obtain ⟨hholds, htrusts⟩ := hh q w hw hasks
      simp only [Process.exchanges]
      rcases hq : h q w with ⟨_ | a, w'⟩
      · simp
      · rw [hq] at hholds htrusts
        intro x hx
        rcases List.mem_cons.mp hx with rfl | hx
        · exact ⟨hasks, htrusts a rfl⟩
        · exact ih a (htrusts a rfl) hholds x hx

/-- Whatever is answered, a process asks only the questions of its contract. -/
theorem Obeys.asks_of_mem {p : Process α} {w : ω} {x : Exchange}
    (hp : Obeys asks (fun _ _ => True) ends p) (hx : x ∈ p.exchanges h w) : asks x.question := by
  have hh : Honours h (fun _ => True) asks fun _ _ => True := fun _ _ _ _ =>
    ⟨trivial, fun _ _ => trivial⟩
  exact (hp.exchanges hh trivial x hx).1

/-- A process asks only some questions and ends in one result, whatever it is told. -/
def EndsIn (asks : Question → Prop) (a : α) (p : Process α) : Prop :=
  Obeys asks (fun _ _ => True) (· = a) p

theorem EndsIn.done (a : α) : EndsIn asks a (Process.done a) := Obeys.done rfl

theorem EndsIn.wait {q : Question} {next : q.Answer → Process α} {a : α} (hq : asks q)
    (hnext : ∀ answer, EndsIn asks a (next answer)) : EndsIn asks a (Process.wait q next) :=
  Obeys.wait hq fun answer _ => hnext answer

theorem EndsIn.bind {p : Process α} {f : α → Process β} {a : α} {b : β} (hp : EndsIn asks a p)
    (hf : EndsIn asks b (f a)) : EndsIn asks b (p >>= f) :=
  Obeys.bind hp fun _ ha => by rw [ha]; exact hf

theorem EndsIn.mono {p : Process α} {a : α} (hp : EndsIn asks a p) (h : ∀ q, asks q → asks' q) :
    EndsIn asks' a p :=
  Obeys.mono hp h (fun _ _ h => h) fun _ h => h

/-- A time limit means nothing to a process that does not call the store. -/
theorem EndsIn.within {p : Process α} {a : α} (limit : Span) (hp : EndsIn asks a p)
    (hasks : ∀ call, ¬asks (.ask call)) : EndsIn asks (some a) (p.within limit) := by
  induction hp with
  | done h =>
      subst h
      exact .done _
  | @wait q next hq _ ih =>
      cases q with
      | ask call => exact (hasks call hq).elim
      | _ => exact .wait hq fun answer => ih answer trivial

/-- Worlds that answer the questions of a contract alike come to the same. -/
theorem EndsIn.run_congr {p : Process α} {a : α} {h' : Handler ω} (hp : EndsIn asks a p)
    (hsame : ∀ q w, asks q → h' q w = h q w) (w : ω) : p.run h' w = p.run h w := by
  induction hp generalizing w with
  | done _ => rfl
  | @wait q next hq _ ih =>
      simp only [Process.run]
      rw [hsame q w hq]
      rcases h q w with ⟨_ | answer, w'⟩
      · rfl
      · exact ih answer trivial w'

/-- A process ends in a world that answers all its questions. -/
theorem EndsIn.run {p : Process α} {a : α} (hp : EndsIn asks a p)
    (hanswers : ∀ q w, asks q → ∃ answer, (h q w).1 = some answer) (w : ω) :
    ∃ w', p.run h w = (Process.done a, w') := by
  induction hp generalizing w with
  | done heq =>
      subst heq
      exact ⟨w, rfl⟩
  | @wait q next hq _ ih =>
      obtain ⟨answer, hanswer⟩ := hanswers q w hq
      obtain ⟨w', hrun⟩ := ih answer trivial (h q w).2
      refine ⟨w', ?_⟩
      rw [Process.run]
      rcases hw : h q w with ⟨reply, w₁⟩
      rw [hw] at hanswer hrun
      obtain rfl : reply = some answer := hanswer
      exact hrun

end Worlds

end Process

end Clearance
