/-
# Processes that are watched

Some of the questions of a process are only meant for somebody who watches it. There are two sides to
that. What the process says to the watcher depends on what it was told before, and is put together from
what its parts say. What the watcher answers, if anything, makes no difference to where a process ends
that does not heed it: then the same process with another watcher ends alike, although it may have gone
another way through the questions that are meant for the watcher.
-/

import Clearance.Proofs.Process.Attempt

namespace Clearance

namespace Process

variable {α β γ δ ω ω' : Type}

/-! ## What is said -/

/-- When a process ends, its result and what it said until then, in order, are related. -/
def Says (tells : Question → Option γ) : (said : α → List γ → Prop) → Process α → Prop
  | said, done a => said a []
  | said, wait q next => ∀ answer, Says tells (fun a xs => said a ((tells q).toList ++ xs)) (next answer)

section Says

variable {tells : Question → Option γ} {said said' : α → List γ → Prop}

theorem Says.done {a : α} (h : said a []) : (Process.done a).Says tells said := h

theorem Says.wait {q : Question} {next : q.Answer → Process α}
    (hnext : ∀ answer, (next answer).Says tells fun a xs => said a ((tells q).toList ++ xs)) :
    (Process.wait q next).Says tells said := hnext

theorem Says.mono {p : Process α} (hp : p.Says tells said) (h : ∀ a xs, said a xs → said' a xs) :
    p.Says tells said' := by
  induction p generalizing said said' with
  | done a => exact h a [] hp
  | wait q next ih => exact fun answer => ih answer (hp answer) fun a xs => h a _

/-- A sequence says what its first part says, and then what comes after that. -/
theorem Says.bind {said : β → List γ → Prop} {p : Process α} {f : α → Process β}
    (hp : p.Says tells fun a xs => (f a).Says tells fun b ys => said b (xs ++ ys)) :
    (p >>= f).Says tells said := by
  induction p generalizing said with
  | done a => exact hp
  | wait q next ih =>
      intro answer
      refine ih answer (Says.mono (hp answer) fun a xs hf => ?_)
      simpa only [List.append_assoc] using hf

/-- A process says nothing if none of its questions does. -/
theorem Says.of_obeys {asks : Question → Prop} {ends : α → Prop} {p : Process α}
    (hp : p.Obeys asks (fun _ _ => True) ends) (hasks : ∀ q, asks q → tells q = none) :
    p.Says tells fun a xs => ends a ∧ xs = [] := by
  induction hp with
  | done hends => exact ⟨hends, rfl⟩
  | @wait q next hq _ ih =>
      intro answer
      rw [hasks q hq]
      exact ih answer trivial

/-- What was said in a run that ended is found in its exchanges. -/
theorem Says.run {p : Process α} (hp : p.Says tells said) {h : Handler ω} {w w' : ω} {a : α}
    (hrun : p.run h w = (Process.done a, w')) :
    said a ((p.exchanges h w).filterMap fun x => tells x.question) := by
  induction p generalizing w said with
  | done b =>
      cases hrun
      exact hp
  | wait q next ih =>
      simp only [Process.run, exchanges] at hrun ⊢
      rcases hq : h q w with ⟨_ | answer, w₁⟩
      · rw [hq] at hrun
        cases hrun
      · rw [hq] at hrun
        have hrest := ih answer (hp answer) hrun
        dsimp only
        rw [List.filterMap_cons]
        dsimp only
        cases htells : tells q with
        | none =>
            rw [htells] at hrest
            exact hrest
        | some c =>
            rw [htells] at hrest
            exact hrest

end Says

/-! ## What is not heeded -/

/-- Two processes end alike if they are told the same, whatever their watchers tell either of them. -/
inductive Heedless (watched : Question → Prop) (ends : α → β → Prop) :
    Process α → Process β → Prop
  | done {a : α} {b : β} (h : ends a b) : Heedless watched ends (done a) (done b)
  | wait {q : Question} {next : q.Answer → Process α} {next' : q.Answer → Process β}
      (hq : ¬watched q) (hnext : ∀ a, Heedless watched ends (next a) (next' a)) :
      Heedless watched ends (wait q next) (wait q next')
  | left {q : Question} {next : q.Answer → Process α} {p' : Process β} (hq : watched q)
      (hnext : ∀ a, Heedless watched ends (next a) p') : Heedless watched ends (wait q next) p'
  | right {p : Process α} {q : Question} {next' : q.Answer → Process β} (hq : watched q)
      (hnext : ∀ a, Heedless watched ends p (next' a)) : Heedless watched ends p (wait q next')

/-- Two worlds answer the same, apart from what is meant for their watchers; that is always answered, and
changes nothing else. -/
structure WatchedAlike (h : Handler ω) (h' : Handler ω') (watched : Question → Prop)
    (alike : ω → ω' → Prop) : Prop where
  answer_eq : ∀ {q w w'}, alike w w' → ¬watched q → (h q w).1 = (h' q w').1
  stays : ∀ {q w w'}, alike w w' → ¬watched q → alike (h q w).2 (h' q w').2
  left : ∀ {q w w'}, alike w w' → watched q → (∃ a, (h q w).1 = some a) ∧ alike (h q w).2 w'
  right : ∀ {q w w'}, alike w w' → watched q → (∃ a, (h' q w').1 = some a) ∧ alike w (h' q w').2

namespace Heedless

variable {watched : Question → Prop} {ends : α → β → Prop} {p : Process α} {p' : Process β}

theorem mono {ends' : α → β → Prop} (hp : Heedless watched ends p p')
    (h : ∀ a b, ends a b → ends' a b) : Heedless watched ends' p p' := by
  induction hp with
  | done hends => exact .done (h _ _ hends)
  | wait hq _ ih => exact .wait hq ih
  | left hq _ ih => exact .left hq ih
  | right hq _ ih => exact .right hq ih

theorem bind {ends' : γ → δ → Prop} {f : α → Process γ} {f' : β → Process δ}
    (hp : Heedless watched ends p p')
    (hf : ∀ a b, ends a b → Heedless watched ends' (f a) (f' b)) :
    Heedless watched ends' (p >>= f) (p' >>= f') := by
  induction hp with
  | done hends => exact hf _ _ hends
  | wait hq _ ih => exact .wait hq ih
  | left hq _ ih => exact .left hq ih
  | right hq _ ih => exact .right hq ih

/-- A process does not heed watchers who can answer in one way only. -/
theorem of_obeys {asks : Question → Prop} {ends : α → Prop}
    (hp : p.Obeys asks (fun _ _ => True) ends)
    (hasks : ∀ q, asks q → watched q → Subsingleton q.Answer) :
    Heedless watched (· = ·) p p := by
  induction hp with
  | done _ => exact .done rfl
  | @wait q next hq _ ih =>
      by_cases hwatched : watched q
      · have hanswers := hasks q hq hwatched
        refine .left hwatched fun a => .right hwatched fun a' => ?_
        rw [hanswers.elim a a']
        exact ih a' trivial
      · exact .wait hwatched fun a => ih a trivial

/-- Processes that only speak to their watchers go their own ways. -/
theorem of_endsIn {asks : Question → Prop} {a : α} {b : β} (hp : p.EndsIn asks a)
    (hp' : p'.EndsIn asks b) (hasks : ∀ q, asks q → watched q) (hends : ends a b) :
    Heedless watched ends p p' := by
  induction hp with
  | done ha =>
      subst ha
      induction hp' with
      | done hb =>
          subst hb
          exact .done hends
      | wait hq _ ih => exact .right (hasks _ hq) fun answer => ih answer trivial
  | wait hq _ ih => exact .left (hasks _ hq) fun answer => ih answer trivial

/-- A run that ends is not kept from ending, and ends alike, when somebody else watches. -/
theorem run {h : Handler ω} {h' : Handler ω'} {alike : ω → ω' → Prop}
    (hp : Heedless watched ends p p') (hworlds : WatchedAlike h h' watched alike) {w w₁ : ω}
    {w' : ω'} {a : α} (hw : alike w w') (hrun : p.run h w = (Process.done a, w₁)) :
    ∃ b w₁', p'.run h' w' = (Process.done b, w₁') ∧ ends a b ∧ alike w₁ w₁' := by
  induction hp generalizing w w' with
  | @done a₀ b hends =>
      cases hrun
      exact ⟨b, w', rfl, hends, hw⟩
  | @wait q next next' hq _ ih =>
      have hanswer := hworlds.answer_eq hw hq
      have hstays := hworlds.stays hw hq
      simp only [Process.run] at hrun ⊢
      rcases hleft : h q w with ⟨answer, w₂⟩
      rcases hright : h' q w' with ⟨answer', w₂'⟩
      rw [hleft, hright] at hanswer hstays
      obtain rfl : answer = answer' := hanswer
      rw [hleft] at hrun
      cases answer with
      | none => cases hrun
      | some answer => exact ih answer hstays hrun
  | @left q next p' hq _ ih =>
      obtain ⟨⟨answer, hanswer⟩, hstays⟩ := hworlds.left hw hq
      simp only [Process.run] at hrun
      rcases hleft : h q w with ⟨reply, w₂⟩
      rw [hleft] at hanswer hstays hrun
      obtain rfl : reply = some answer := hanswer
      exact ih answer hstays hrun
  | @right p q next' hq _ ih =>
      obtain ⟨⟨answer, hanswer⟩, hstays⟩ := hworlds.right hw hq
      simp only [Process.run]
      rcases hright : h' q w' with ⟨reply, w₂'⟩
      rw [hright] at hanswer hstays
      obtain rfl : reply = some answer := hanswer
      exact ih answer hstays hrun

end Heedless

end Process

/-! ## Attempts that are watched -/

namespace Attempt

variable {α β γ : Type} {watched : Question → Prop}

section Says

variable {tells : Question → Option γ} {kinds : Question → Bool} {p : Attempt α}

theorem Asks.says_nothing (hp : Asks kinds p) (hkinds : ∀ q, kinds q → tells q = none) :
    Process.Says tells (fun _ xs => xs = []) p.run :=
  Process.Says.mono (.of_obeys hp hkinds) fun _ _ h => h.2

/-- After a part that says nothing, all is said by what comes after it. -/
theorem Asks.says_bind {said : Except Fault β → List γ → Prop} {f : α → Attempt β}
    (hp : Asks kinds p) (hkinds : ∀ q, kinds q → tells q = none)
    (hf : ∀ a, Process.Says tells said (f a).run) (hfault : ∀ fault, said (.error fault) []) :
    Process.Says tells said (p >>= f).run := by
  rw [run_bind_eq]
  refine .bind ((hp.says_nothing hkinds).mono fun outcome xs h => ?_)
  subst h
  cases outcome with
  | ok a => exact hf a
  | error fault => exact hfault fault

end Says

/-- Two attempts have the same value, or both have none. -/
inductive EndLike : Except Fault α → Except Fault α → Prop
  | ok (a : α) : EndLike (.ok a) (.ok a)
  | error (fault fault' : Fault) : EndLike (.error fault) (.error fault')

theorem EndLike.refl (outcome : Except Fault α) : EndLike outcome outcome := by
  cases outcome with
  | ok a => exact .ok a
  | error fault => exact .error fault fault

/-- The value of an attempt does not depend on what watchers answer. Its fault may do so. -/
def IsHeedless (watched : Question → Prop) (p : Attempt α) : Prop :=
  Process.Heedless watched EndLike p.run p.run

theorem IsHeedless.isCompositional (watched : Question → Prop) :
    IsCompositional (IsHeedless watched) where
  ofExcept := fun outcome => .done (.refl outcome)
  bind := by
    intro α β p f hp hf
    simp only [IsHeedless]
    rw [run_bind_eq]
    refine Process.Heedless.bind hp fun outcome outcome' hends => ?_
    cases hends with
    | ok a => exact hf a
    | error fault fault' => exact .done (.error fault fault')

theorem IsHeedless.of_asks {kinds : Question → Bool} {p : Attempt α} (hp : Asks kinds p)
    (hkinds : ∀ q, kinds q → watched q → Subsingleton q.Answer) : IsHeedless watched p :=
  Process.Heedless.mono (.of_obeys hp hkinds) fun outcome _ h => h ▸ .refl outcome

end Attempt

end Clearance
