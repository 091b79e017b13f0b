/-
# Transcripts

What a process was told so far determines what is left of it, whatever goes on in its world between two
of its questions. So a process that takes turns with others is followed by its transcript: the exchanges
that it had, in order. What is true of every transcript is true in every world and in every order of
turns.
-/

import Clearance.Proofs.Process.Attempt

namespace Clearance

namespace Process

variable {α β ω : Type} {p r : Process α} {xs ys : List Exchange}

theorem result?_eq_some_iff {a : α} : p.result? = some a ↔ p = done a := by
  cases p with
  | done b => simp [result?]
  | wait q next => simp [result?]

/-- After some exchanges a process leaves another one to be done. -/
inductive Leaves : Process α → List Exchange → Process α → Prop
  | nil (p : Process α) : Leaves p [] p
  | cons {q : Question} {next : q.Answer → Process α} {a : q.Answer} {xs : List Exchange}
      {r : Process α} (h : Leaves (next a) xs r) : Leaves (wait q next) (⟨q, a⟩ :: xs) r

/-- A run leaves what it stops at, after its exchanges. -/
theorem leaves_run (h : Handler ω) (p : Process α) (w : ω) :
    Leaves p (p.exchanges h w) (p.run h w).1 := by
  induction p generalizing w with
  | done a => exact .nil _
  | wait q next ih =>
      rw [exchanges, run]
      rcases h q w with ⟨_ | a, w'⟩
      · exact .nil _
      · exact .cons (ih a w')

/-- What a process is told when it has its question answered, if it is told anything. -/
def exchange? (h : Handler ω) : Process α → ω → Option Exchange
  | done _, _ => none
  | wait q _, w => (h q w).1.map fun a => ⟨q, a⟩

namespace Leaves

theorem snoc {q : Question} {next : q.Answer → Process α} (h : Leaves p xs (wait q next))
    (a : q.Answer) : Leaves p (xs ++ [⟨q, a⟩]) (next a) := by
  generalize hr : wait q next = r at h
  induction h with
  | nil p =>
      subst hr
      exact .cons (.nil _)
  | cons _ ih => exact .cons (ih hr)

/-- A turn adds to the transcript what the process was told. -/
theorem step (hp : Leaves p xs r) (h : Handler ω) (w : ω) :
    Leaves p (xs ++ (r.exchange? h w).toList) (r.step h w).1 := by
  cases r with
  | done a => simpa [exchange?, Process.step] using hp
  | wait q next =>
      simp only [exchange?, Process.step]
      rcases h q w with ⟨_ | a, w'⟩
      · simpa using hp
      · exact hp.snoc a

/-- A process that is done is told nothing more. -/
theorem eq_nil_of_done {a : α} (h : Leaves p xs (done a)) (hmore : Leaves p (xs ++ ys) r) :
    ys = [] := by
  generalize hd : done a = d at h
  induction h with
  | nil p =>
      subst hd
      cases hmore with
      | nil _ => rfl
  | cons _ ih =>
      cases hmore with
      | cons hmore => exact ih hmore hd

/-- A process asks only the questions of its contract. -/
theorem asks {asks : Question → Prop} {ends : α → Prop} (hp : Leaves p xs r)
    (hobeys : Obeys asks (fun _ _ => True) ends p) : ∀ x ∈ xs, asks x.question := by
  induction hp with
  | nil p => simp
  | cons _ ih =>
      cases hobeys with
      | wait hasks hnext =>
          intro x hx
          rcases List.mem_cons.mp hx with rfl | hx
          · exact hasks
          · exact ih (hnext _ trivial) x hx

/-- A transcript of a sequence stops in its first part, or the first part ended. -/
theorem of_bind {p : Process α} {f : α → Process β} {r : Process β} (h : Leaves (p >>= f) xs r) :
    (∃ r', Leaves p xs r' ∧ r = r' >>= f) ∨
      ∃ a ys zs, xs = ys ++ zs ∧ Leaves p ys (done a) ∧ Leaves (f a) zs r := by
  induction p generalizing xs with
  | done a => exact .inr ⟨a, [], xs, rfl, .nil _, h⟩
  | wait q next ih =>
      rw [wait_bind] at h
      cases h with
      | nil _ => exact .inl ⟨wait q next, .nil _, rfl⟩
      | cons h =>
          rcases ih _ h with ⟨r', hfirst, hr⟩ | ⟨a, ys, zs, rfl, hfirst, hsecond⟩
          · exact .inl ⟨r', .cons hfirst, hr⟩
          · exact .inr ⟨a, _ :: ys, zs, rfl, .cons hfirst, hsecond⟩

end Leaves

end Process

/-! ## Transcripts of attempts -/

namespace Attempt

open Process

variable {α β : Type} {p : Attempt α} {f : α → Attempt β} {xs : List Exchange} {a : α} {b : β}

/-- After some exchanges an attempt has come to a value. -/
def Reaches (p : Attempt α) (xs : List Exchange) (a : α) : Prop := p.run.Leaves xs (.done (.ok a))

theorem reaches_ofExcept {outcome : Except Fault α}
    (h : Reaches (ExceptT.mk (Process.done outcome)) xs a) : outcome = .ok a ∧ xs = [] := by
  cases h with
  | nil _ => exact ⟨rfl, rfl⟩

theorem reaches_pure {c : α} (h : Reaches (pure c) xs a) : c = a ∧ xs = [] := by
  obtain ⟨hvalue, hxs⟩ := reaches_ofExcept h
  exact ⟨Except.ok.inj hvalue, hxs⟩

theorem reaches_pose {q : Question} {a : q.Answer} (h : Reaches (Attempt.pose q) xs a) :
    xs = [⟨q, a⟩] := by
  cases h with
  | cons h =>
      cases h with
      | nil _ => rfl

theorem reaches_call {c : StoreCall} {a : c.Answer} (h : Reaches (Attempt.call c) xs a) :
    xs = [Exchange.answered c a] := by
  cases h with
  | cons h =>
      cases h with
      | nil _ => rfl

/-- A sequence comes to a value when both of its parts have. -/
theorem reaches_bind (h : Reaches (p >>= f) xs b) :
    ∃ a ys zs, xs = ys ++ zs ∧ Reaches p ys a ∧ Reaches (f a) zs b := by
  simp only [Reaches] at h
  rw [run_bind_eq] at h
  rcases h.of_bind with ⟨r, hfirst, hr⟩ | ⟨outcome, ys, zs, rfl, hfirst, hsecond⟩
  · rcases r with (fault | a) | ⟨q, next⟩
    · cases hr
    · have hsecond : (f a).run = .done (.ok b) := hr.symm
      refine ⟨a, xs, [], (List.append_nil xs).symm, hfirst, ?_⟩
      simp only [Reaches]
      rw [hsecond]
      exact .nil _
    · cases hr
  · cases outcome with
    | error fault => cases hsecond
    | ok a => exact ⟨a, ys, zs, rfl, hfirst, hsecond⟩

theorem reaches_framed {frame : String → Failure} (h : Reaches (p.framed frame) xs a) :
    Reaches p xs a := by
  simp only [Reaches] at h
  rw [run_framed_eq] at h
  rcases h.of_bind with ⟨r, hfirst, hr⟩ | ⟨outcome, ys, zs, rfl, hfirst, hsecond⟩
  · rcases r with (fault | c) | ⟨q, next⟩
    · cases hr
    · cases hr
      exact hfirst
    · cases hr
  · cases outcome with
    | error fault => cases hsecond
    | ok c =>
        cases hsecond with
        | nil _ =>
            rw [List.append_nil]
            exact hfirst

/-- An exchange of a sequence is one of its first part, or the first part has come to a value. -/
theorem mem_of_leaves_bind {r : Process (Except Fault β)} {x : Exchange}
    (h : (p >>= f).run.Leaves xs r) (hx : x ∈ xs) :
    (∃ r' ys, ys <+: xs ∧ p.run.Leaves ys r' ∧ x ∈ ys) ∨
      ∃ a ys zs, xs = ys ++ zs ∧ Reaches p ys a ∧ (f a).run.Leaves zs r ∧ x ∈ zs := by
  rw [run_bind_eq] at h
  rcases h.of_bind with ⟨r', hfirst, -⟩ | ⟨outcome, ys, zs, rfl, hfirst, hsecond⟩
  · exact .inl ⟨r', xs, List.prefix_rfl, hfirst, hx⟩
  · rcases List.mem_append.mp hx with hx | hx
    · exact .inl ⟨_, ys, List.prefix_append ys zs, hfirst, hx⟩
    · cases outcome with
      | error fault =>
          cases hsecond with
          | nil _ => cases hx
      | ok a => exact .inr ⟨a, ys, zs, rfl, hfirst, hsecond, hx⟩

/-- An attempt asks only questions of its kinds. -/
theorem Asks.of_leaves {kinds : Question → Bool} {r : Process (Except Fault α)} {x : Exchange}
    (hp : Asks kinds p) (h : p.run.Leaves xs r) (hx : x ∈ xs) : kinds x.question :=
  h.asks hp x hx

end Attempt

end Clearance
