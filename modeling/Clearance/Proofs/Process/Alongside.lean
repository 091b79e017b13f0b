/-
# Processes side by side

Two processes go side by side as long as they ask the same questions; what they note may differ. They do
so whatever they are told, provided that it can be trusted, until a relation holds between what is left
of them. In two worlds that answer alike, the processes come to what their rests come to.

This is how statements on two runs are proved: the runs are compared question by question, and what
must be known of the answers is a contract, as for a single run.
-/

import Clearance.Proofs.Process.Attempt

namespace Clearance

namespace Process

variable {α β γ δ ω : Type} {trusts : (q : Question) → q.Answer → Prop}
  {parts : Process α → Process β → Prop} {parts' : Process γ → Process δ → Prop}
  {p : Process α} {p' : Process β}

/-- Two processes ask the same questions, apart from what they note, until their rests are related. -/
inductive Alongside (trusts : (q : Question) → q.Answer → Prop)
    (parts : Process α → Process β → Prop) : Process α → Process β → Prop
  | part {p : Process α} {p' : Process β} (h : parts p p') : Alongside trusts parts p p'
  | wait {q : Question} {next : q.Answer → Process α} {next' : q.Answer → Process β}
      (hnext : ∀ a, trusts q a → Alongside trusts parts (next a) (next' a)) :
      Alongside trusts parts (wait q next) (wait q next')
  | note {entries entries' : List TraceEntry} {next : Unit → Process α} {next' : Unit → Process β}
      (hnext : Alongside trusts parts (next ()) (next' ())) :
      Alongside trusts parts (wait (.note entries) next) (wait (.note entries') next')

/-- Two processes are done, with related results. -/
inductive Meet (ends : α → β → Prop) : Process α → Process β → Prop
  | intro {a : α} {b : β} (h : ends a b) : Meet ends (done a) (done b)

namespace Alongside

theorem bind {f : α → Process γ} {f' : β → Process δ} (hp : Alongside trusts parts p p')
    (hparts : ∀ q q', parts q q' → Alongside trusts parts' (q >>= f) (q' >>= f')) :
    Alongside trusts parts' (p >>= f) (p' >>= f') := by
  induction hp with
  | part h => exact hparts _ _ h
  | wait _ ih => exact .wait ih
  | note _ ih => exact .note ih

/-- The rests may be related in a weaker way. -/
theorem mono {parts₂ : Process α → Process β → Prop} (hp : Alongside trusts parts p p')
    (h : ∀ q q', parts q q' → parts₂ q q') : Alongside trusts parts₂ p p' := by
  induction hp with
  | part hpart => exact .part (h _ _ hpart)
  | wait _ ih => exact .wait ih
  | note _ ih => exact .note ih

/-- Where two processes meet, what comes after them goes on. -/
theorem bindMeet {ends : α → β → Prop} {f : α → Process γ} {f' : β → Process δ}
    (hp : Alongside trusts (Meet ends) p p')
    (hf : ∀ a b, ends a b → Alongside trusts parts' (f a) (f' b)) :
    Alongside trusts parts' (p >>= f) (p' >>= f') := by
  refine hp.bind fun q q' hmeet => ?_
  cases hmeet with
  | intro h => exact hf _ _ h

/-- A process goes alongside itself. -/
theorem refl {ends : α → α → Prop} (hends : ∀ a, ends a a) (p : Process α) :
    Alongside trusts (Meet ends) p p := by
  induction p with
  | done a => exact .part (.intro (hends a))
  | wait q next ih => exact .wait fun a _ => ih a

/-- Both results are known to be as the contract of the process says. -/
theorem of_obeys {asks : Question → Prop} {ends : α → Prop} (hp : Obeys asks trusts ends p) :
    Alongside trusts (Meet fun a b => a = b ∧ ends a) p p := by
  induction hp with
  | done h => exact .part (.intro ⟨rfl, h⟩)
  | wait _ _ ih => exact .wait ih

/-- Under a time limit the store is called in another way, and each call may be the last one. -/
theorem within {parts' : Process (Option α) → Process (Option β) → Prop} (limit : Span)
    (hp : Alongside trusts parts p p')
    (htrusts : ∀ call a, trusts (.askWithin limit call) (some a) → trusts (.ask call) a)
    (hparts : ∀ q q', parts q q' → parts' (q.within limit) (q'.within limit))
    (hover : parts' (done none) (done none)) :
    Alongside trusts parts' (p.within limit) (p'.within limit) := by
  induction hp with
  | part h => exact .part (hparts _ _ h)
  | @wait q next next' _ ih =>
      cases q with
      | ask call =>
          rw [Process.within, Process.within]
          refine .wait fun a ha => ?_
          cases a with
          | none => exact .part hover
          | some a => exact ih a (htrusts call a ha)
      | _ => exact .wait ih
  | note _ ih => exact .note ih

end Alongside

/-! ## Worlds that answer alike -/

/-- Related worlds give the same answers, which can be trusted, and stay related; it does not matter
what they are told to note. -/
structure Agrees (h : Handler ω) (alike : ω → ω → Prop) (trusts : (q : Question) → q.Answer → Prop) :
    Prop where
  answer_eq : ∀ q w w', alike w w' → (h q w).1 = (h q w').1
  stays : ∀ q w w', alike w w' → alike (h q w).2 (h q w').2
  trusts : ∀ q w w', alike w w' → ∀ a, (h q w).1 = some a → trusts q a
  notes : ∀ entries w, (h (.note entries) w).1 = some ()
  stays_noting : ∀ entries entries' w w', alike w w' →
    alike (h (.note entries) w).2 (h (.note entries') w').2

section Agreeing

variable {h : Handler ω} {alike : ω → ω → Prop} {w w' : ω}

/-- Related worlds give one answer to a question, if they give any. -/
theorem Agrees.answer (hagrees : Agrees h alike trusts) (hw : alike w w') (q : Question) :
    ∃ answer w₁ w₁', h q w = (answer, w₁) ∧ h q w' = (answer, w₁') ∧ alike w₁ w₁' ∧
      ∀ a, answer = some a → trusts q a :=
  ⟨(h q w).1, (h q w).2, (h q w').2, rfl, Prod.ext (hagrees.answer_eq q w w' hw).symm rfl,
    hagrees.stays q w w' hw, hagrees.trusts q w w' hw⟩

/-- Related worlds take in what they are told to note. -/
theorem Agrees.noted (hagrees : Agrees h alike trusts) (hw : alike w w')
    (entries entries' : List TraceEntry) :
    ∃ w₁ w₁', h (.note entries) w = (some (), w₁) ∧ h (.note entries') w' = (some (), w₁') ∧
      alike w₁ w₁' :=
  ⟨(h (.note entries) w).2, (h (.note entries') w').2, Prod.ext (hagrees.notes entries w) rfl,
    Prod.ext (hagrees.notes entries' w') rfl, hagrees.stays_noting entries entries' w w' hw⟩

/-- Worlds that answer alike keep their side of every contract that trusts what they answer. -/
theorem Agrees.honours (hagrees : Agrees h alike trusts) :
    Honours h (fun w => alike w w) (fun _ => True) trusts := fun q w hw _ =>
  ⟨hagrees.stays q w w hw, hagrees.trusts q w w hw⟩

/-- In worlds that answer alike, two processes have the same result if their rests have. -/
theorem Alongside.result?_run {p p' : Process α} {parts : Process α → Process α → Prop}
    (hp : Alongside trusts parts p p') (hagrees : Agrees h alike trusts)
    (hparts : ∀ q q' w w', parts q q' → alike w w' →
      (q.run h w).1.result? = (q'.run h w').1.result?)
    (hw : alike w w') : (p.run h w).1.result? = (p'.run h w').1.result? := by
  induction hp generalizing w w' with
  | part hpart => exact hparts _ _ _ _ hpart hw
  | @wait q next next' _ ih =>
      obtain ⟨answer, w₁, w₁', hq, hq', hstays, htrusts⟩ := hagrees.answer hw q
      simp only [Process.run, hq, hq']
      cases answer with
      | none => rfl
      | some a => exact ih a (htrusts a rfl) hstays
  | @note entries entries' next next' _ ih =>
      obtain ⟨w₁, w₁', hq, hq', hstays⟩ := hagrees.noted hw entries entries'
      simp only [Process.run, hq, hq']
      exact ih hstays

/-- In worlds that answer alike, a process that has its question answered goes on in one way. -/
theorem step_fst_eq (p : Process α) (hagrees : Agrees h alike trusts) (hw : alike w w') :
    (p.step h w).1 = (p.step h w').1 := by
  cases p with
  | done a => rfl
  | wait q next =>
      obtain ⟨answer, w₁, w₁', hq, hq', -, -⟩ := hagrees.answer hw q
      simp only [step, hq, hq']
      cases answer <;> rfl

/-- In worlds that answer alike, two processes that have their questions answered stay side by side, if
their rests stay related. -/
theorem Alongside.step {p p' : Process α} {parts : Process α → Process α → Prop}
    (hp : Alongside trusts parts p p') (hagrees : Agrees h alike trusts)
    (hparts : ∀ q q' w w', parts q q' → alike w w' →
      parts (q.step h w).1 (q'.step h w').1 ∧ alike (q.step h w).2 (q'.step h w').2)
    (hw : alike w w') :
    Alongside trusts parts (p.step h w).1 (p'.step h w').1 ∧
      alike (p.step h w).2 (p'.step h w').2 := by
  cases hp with
  | part hpart =>
      obtain ⟨hnext, hstays⟩ := hparts _ _ _ _ hpart hw
      exact ⟨.part hnext, hstays⟩
  | @wait q next next' hnext =>
      obtain ⟨answer, w₁, w₁', hq, hq', hstays, htrusts⟩ := hagrees.answer hw q
      simp only [Process.step, hq, hq']
      cases answer with
      | none => exact ⟨.wait hnext, hstays⟩
      | some a => exact ⟨hnext a (htrusts a rfl), hstays⟩
  | @note entries entries' next next' hnext =>
      obtain ⟨w₁, w₁', hq, hq', hstays⟩ := hagrees.noted hw entries entries'
      simp only [Process.step, hq, hq']
      exact ⟨hnext, hstays⟩

end Agreeing

end Process

/-! ## Attempts side by side -/

namespace Attempt

variable {α β γ δ : Type} {trusts : (q : Question) → q.Answer → Prop}

/-- Two attempts end in the same fault, or in related values. -/
inductive EndAlike (ends : α → β → Prop) : Except Fault α → Except Fault β → Prop
  | ok {a : α} {b : β} (h : ends a b) : EndAlike ends (.ok a) (.ok b)
  | error (fault : Fault) : EndAlike ends (.error fault) (.error fault)

theorem EndAlike.refl {ends : α → α → Prop} (hends : ∀ a, ends a a) (outcome : Except Fault α) :
    EndAlike ends outcome outcome := by
  cases outcome with
  | ok a => exact .ok (hends a)
  | error fault => exact .error fault

/-- Two attempts that end in the same fault or in one value end in one way. -/
theorem EndAlike.eq {outcome outcome' : Except Fault α} (h : EndAlike Eq outcome outcome') :
    outcome = outcome' := by
  cases h with
  | ok h => rw [h]
  | error fault => rfl

/-- Two attempts go side by side until both end. -/
def Alongside (trusts : (q : Question) → q.Answer → Prop) (ends : α → β → Prop) (p : Attempt α)
    (p' : Attempt β) : Prop :=
  Process.Alongside trusts (Process.Meet (EndAlike ends)) p.run p'.run

/-- What comes after two attempts that yield values goes on. -/
theorem Alongside.bindRun {ends : α → β → Prop}
    {parts : Process (Except Fault γ) → Process (Except Fault δ) → Prop} {p : Attempt α}
    {p' : Attempt β} {f : α → Attempt γ} {f' : β → Attempt δ} (hp : Alongside trusts ends p p')
    (hf : ∀ a b, ends a b → Process.Alongside trusts parts (f a).run (f' b).run)
    (hfault : ∀ fault, parts (.done (.error fault)) (.done (.error fault))) :
    Process.Alongside trusts parts (p >>= f).run (p' >>= f').run := by
  rw [run_bind_eq, run_bind_eq]
  refine Process.Alongside.bindMeet hp fun outcome outcome' houtcome => ?_
  cases houtcome with
  | ok h => exact hf _ _ h
  | error fault => exact .part (hfault fault)

theorem Alongside.bind {ends : α → β → Prop} {ends' : γ → δ → Prop} {p : Attempt α}
    {p' : Attempt β} {f : α → Attempt γ} {f' : β → Attempt δ} (hp : Alongside trusts ends p p')
    (hf : ∀ a b, ends a b → Alongside trusts ends' (f a) (f' b)) :
    Alongside trusts ends' (p >>= f) (p' >>= f') :=
  hp.bindRun hf fun fault => .intro (.error fault)

theorem Alongside.pure {ends : α → β → Prop} {a : α} {b : β} (h : ends a b) :
    Alongside trusts ends (Pure.pure a) (Pure.pure b) :=
  .part (.intro (.ok h))

theorem Alongside.ofExcept {ends : α → β → Prop} {outcome : Except Fault α}
    {outcome' : Except Fault β} (h : EndAlike ends outcome outcome') :
    Alongside trusts ends (ExceptT.mk (Process.done outcome)) (ExceptT.mk (Process.done outcome')) :=
  .part (.intro h)

theorem Alongside.note (entry entry' : TraceEntry) :
    Alongside trusts (fun _ _ => True) (Attempt.note entry) (Attempt.note entry') :=
  Process.Alongside.note (.part (.intro (.ok trivial)))

theorem Alongside.refl (p : Attempt α) : Alongside trusts Eq p p :=
  Process.Alongside.refl (EndAlike.refl fun _ => rfl) p.run

/-- Both values are known to be as the contract of the attempt says. -/
theorem Alongside.of_obeys {asks : Question → Prop} {ends : α → Prop} {p : Attempt α}
    (hp : Obeys asks trusts ends p) : Alongside trusts (fun a b => a = b ∧ ends a) p p := by
  refine (Process.Alongside.of_obeys hp).mono fun q q' hmeet => ?_
  cases hmeet with
  | @intro outcome outcome' h =>
      obtain ⟨rfl, hends⟩ := h
      cases outcome with
      | ok a => exact .intro (.ok ⟨rfl, hends a rfl⟩)
      | error fault => exact .intro (.error fault)

end Attempt

end Clearance
