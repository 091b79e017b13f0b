/-
# Worlds that answer alike

No answer depends on the trace or on the events, so two worlds that differ in nothing else give the
same answers, whatever either is told to note. As long as the store of a world is qualified, so are
all conditions that are answered.
-/

import Clearance.Proofs.Process.Alongside
import Clearance.Proofs.Store.Qualified
import Clearance.Service.World

namespace Clearance

namespace World

variable {σ : Type} {store : Store σ} {w w' : World σ}

/-! ## What was said -/

/-- A world without what was said in it. -/
def silent (w : World σ) : World σ := { w with events := [], trace := [] }

/-- What something in a world comes to does not depend on what was said there. -/
def IsDeaf {α : Type} (f : World σ → α × World σ) : Prop :=
  ∀ w, (f w.silent).1 = (f w).1 ∧ (f w.silent).2.silent = (f w).2.silent

theorem IsDeaf.eq {α : Type} {f : World σ → α × World σ} (hf : IsDeaf f)
    (h : w.silent = w'.silent) : (f w).1 = (f w').1 ∧ (f w).2.silent = (f w').2.silent := by
  obtain ⟨hanswer, hworld⟩ := hf w
  obtain ⟨hanswer', hworld'⟩ := hf w'
  rw [h] at hanswer hworld
  exact ⟨hanswer.symm.trans hanswer', hworld.symm.trans hworld'⟩

theorem serve_eq_of_silent_eq (h : w.silent = w'.silent) :
    (w.serve store).silent = (w'.serve store).silent := by
  have hserve : ∀ w : World σ, (w.silent.serve store).silent = (w.serve store).silent := by
    intro w
    simp only [serve]
    cases haudit : w.audit <;> simp [silent, haudit, note]
  rw [← hserve w, h, hserve w']

theorem call_isDeaf (store : Store σ) (c : StoreCall) : IsDeaf fun w : World σ => w.call store c := by
  intro w
  unfold call
  dsimp only
  by_cases hslow : store.isSlow c w.store
  · have hslow' : store.isSlow c w.silent.store := hslow
    rw [if_pos hslow, if_pos hslow']
    exact ⟨rfl, serve_eq_of_silent_eq rfl⟩
  · have hslow' : ¬store.isSlow c w.silent.store := hslow
    rw [if_neg hslow, if_neg hslow']
    exact ⟨rfl, rfl⟩

theorem expire_isDeaf (store : Store σ) (limit : Span) (c : StoreCall) :
    IsDeaf fun w : World σ => w.expire store limit c := by
  intro w
  unfold expire
  dsimp only [silent]
  split <;> exact ⟨rfl, rfl⟩

/-- No answer depends on what was said. -/
theorem handler_isDeaf (q : Question) : IsDeaf (handler store q) := by
  intro w
  cases q with
  | time => exact ⟨rfl, rfl⟩
  | note entries => exact ⟨rfl, rfl⟩
  | remember key m => exact ⟨rfl, rfl⟩
  | lookUp key =>
      simp only [handler]
      cases hcache : w.cache <;> simp [silent, hcache]
  | ask c =>
      obtain ⟨hreply, hworld⟩ := call_isDeaf store c w
      exact ⟨congrArg outcome hreply, hworld⟩
  | askWithin limit c =>
      obtain ⟨hreply, hworld⟩ := call_isDeaf store c w
      obtain ⟨hover, hexpired⟩ := (expire_isDeaf store limit c).eq hworld
      simp only [handler]
      dsimp only at hreply hover hexpired
      rw [hreply]
      cases outcome (w.call store c).1 with
      | some answer => exact ⟨rfl, hworld⟩
      | none => exact ⟨by rw [hover], hexpired⟩
  | submit record =>
      simp only [handler]
      cases haudit : w.audit <;> simp [silent, haudit, note]
  | announce subject facts =>
      simp only [handler, report]
      cases hlogger : w.logger <;> cases hfault : w.loggerFault <;> simp [silent, hlogger, hfault]
  | reject policy problems =>
      simp only [handler, report]
      cases hlogger : w.logger <;> cases hfault : w.violationFault <;>
        simp [silent, hlogger, hfault]

/-- Two worlds that differ only in what was said answer alike. -/
theorem agrees_of_silent_eq (store : Store σ) :
    Process.Agrees (handler store) (fun w w' => w.silent = w'.silent) fun _ _ => True where
  answer_eq := fun q _ _ hw => ((handler_isDeaf q).eq hw).1
  stays := fun q _ _ hw => ((handler_isDeaf q).eq hw).2
  trusts := fun _ _ _ _ _ _ => trivial
  notes := fun _ _ => rfl
  stays_noting := fun _ _ _ _ hw => hw

/-! ## What is answered -/

variable {s : σ}

theorem reaches_serve (h : store.Reaches s w.store) : store.Reaches s (w.serve store).store := by
  simp only [serve]
  cases w.audit with
  | none => exact h
  | some audit => exact h.work audit

theorem reaches_call (h : store.Reaches s w.store) (c : StoreCall) :
    store.Reaches s (w.call store c).2.store := by
  have hasked := h.ask c
  rw [call]
  dsimp only
  split
  · exact reaches_serve hasked
  · exact hasked

/-- A question does nothing to the store of a world but what stores go through. -/
theorem reaches_handler (h : store.Reaches s w.store) (q : Question) :
    store.Reaches s (handler store q w).2.store := by
  cases q with
  | ask c => exact reaches_call h c
  | askWithin limit c =>
      have hcalled := reaches_call h c
      simp only [handler, expire]
      split
      · exact hcalled
      · split
        · exact hcalled
        · exact hcalled.abandon c
  | lookUp key =>
      simp only [handler]
      split <;> exact h
  | submit record =>
      simp only [handler]
      split <;> exact h
  | announce subject facts =>
      simp only [handler, report]
      split
      · exact h
      · split <;> exact h
  | reject policy problems =>
      simp only [handler, report]
      split
      · exact h
      · split <;> exact h
  | _ => exact h

end World

/-- Whatever a store goes through, what it answers fits the calls. -/
def Store.AnswersFit {σ : Type} (store : Store σ) (s : σ)
    (fits : (call : StoreCall) → call.Answer → Prop) : Prop :=
  ∀ s', store.Reaches s s' → ∀ (call : StoreCall) (a : call.Answer),
    (store.ask call s').1 = .answered a → fits call a

/-- What a question is answered fits, if it is about a call that was answered. -/
def Question.AnswerFits (fits : (call : StoreCall) → call.Answer → Prop) :
    (q : Question) → q.Answer → Prop
  | .ask call, answer => ∀ a, answer = .ok a → fits call a
  | .askWithin _ call, answer => ∀ a, answer = some (.ok a) → fits call a
  | _, _ => True

/-- The conditions that a question is answered by are qualified. -/
def Question.IsQualified : (q : Question) → q.Answer → Prop
  | .ask call, answer => ∀ a, answer = .ok a → call.IsQualified a
  | .askWithin _ call, answer => ∀ a, answer = some (.ok a) → call.IsQualified a
  | _, _ => True

namespace World

variable {σ : Type} {store : Store σ} {w : World σ} {s : σ}
  {fits : (call : StoreCall) → call.Answer → Prop}

/-- What a call comes to is what the store answers. -/
theorem fits_of_outcome (hs : store.AnswersFit s fits) (hw : store.Reaches s w.store)
    {c : StoreCall} {a : c.Answer} (h : outcome (w.call store c).1 = some (.ok a)) : fits c a := by
  apply hs w.store hw c a
  have hreply : (w.call store c).1 = (store.ask c w.store).1 ∨ (w.call store c).1 = .held := by
    rw [call]
    dsimp only
    split
    · split
      · exact .inr rfl
      · exact .inl rfl
    · exact .inl rfl
  rcases hreply with hreply | hreply
  · rw [hreply] at h
    cases hasked : (store.ask c w.store).1 with
    | answered b =>
        rw [hasked] at h
        cases h
        rfl
    | failed fault =>
        rw [hasked] at h
        cases h
    | held =>
        rw [hasked] at h
        cases h
  · rw [hreply] at h
    cases h

/-- Two worlds that differ only in what was said answer alike, and what they answer fits if what their
store answers does. -/
theorem agrees_of_answersFit (hs : store.AnswersFit s fits) :
    Process.Agrees (handler store)
      (fun w w' => w.silent = w'.silent ∧ store.Reaches s w.store) (Question.AnswerFits fits) where
  answer_eq := fun q _ _ hw => ((handler_isDeaf q).eq hw.1).1
  stays := fun q _ _ hw => ⟨((handler_isDeaf q).eq hw.1).2, reaches_handler hw.2 q⟩
  notes := fun _ _ => rfl
  stays_noting := fun _ _ _ _ hw => hw
  trusts := by
    intro q w w' hw answer hanswer
    cases q with
    | ask c =>
        intro a ha
        rw [ha] at hanswer
        exact fits_of_outcome hs hw.2 hanswer
    | askWithin limit c =>
        intro a ha
        rw [ha] at hanswer
        simp only [handler] at hanswer
        split at hanswer
        · rename_i reply hreply
          cases hanswer
          exact fits_of_outcome hs hw.2 hreply
        · split at hanswer <;> cases hanswer
    | _ => trivial

/-- Over a qualified store, the conditions that are answered are qualified. -/
theorem agrees_of_isQualified (hs : store.IsQualified s) :
    Process.Agrees (handler store)
      (fun w w' => w.silent = w'.silent ∧ store.Reaches s w.store) Question.IsQualified := by
  have hqualified : Question.IsQualified = Question.AnswerFits StoreCall.IsQualified := by
    funext q answer
    cases q <;> rfl
  rw [hqualified]
  exact agrees_of_answersFit hs

end World

end Clearance
