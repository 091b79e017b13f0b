/-
# Worlds over steady stores

Over a steady store and without a cache, no answer depends on what happened before: a question gets
the answer that it got at the beginning. The only thing that changes with time is how long a held call
is waited for. A deadline that comes first leaves the call without an answer, and never with another
one.
-/

import Clearance.Proofs.Process.Oracle
import Clearance.Proofs.Service.Likeness
import Clearance.Proofs.Service.World
import Clearance.Proofs.Store.Steady

namespace Clearance

namespace World

variable {σ : Type} {store : Store σ} {w w' : World σ}

/-- Nobody else is served in a world: it has no cache, no deadline, and waits for its answers. -/
structure IsAlone (w : World σ) : Prop where
  cache_eq : w.cache = none
  remaining_eq : w.remaining = none
  isHasty_eq : w.isHasty = false

/-- A world came out of another one, and has no cache either; the clock and the log are the same. -/
structure IsLike (store : Store σ) (w w' : World σ) : Prop where
  reaches : store.Reaches w.store w'.store
  cache_eq : w'.cache = none
  isHasty_eq : w'.isHasty = false
  now_eq : w'.now = w.now
  logger_eq : w'.logger = w.logger
  loggerFault_eq : w'.loggerFault = w.loggerFault
  violationFault_eq : w'.violationFault = w.violationFault

theorem IsAlone.isLike (hw : w.IsAlone) (store : Store σ) : IsLike store w w :=
  ⟨.refl, hw.cache_eq, hw.isHasty_eq, rfl, rfl, rfl, rfl⟩

/-- What a world answers as long as it is alone. -/
def oracle (store : Store σ) (w : World σ) (q : Question) : Option q.Answer := (handler store q w).1

/-! ## What questions leave alone -/

theorem remaining_serve (store : Store σ) (w : World σ) : (w.serve store).remaining = w.remaining :=
  congrArg Surroundings.remaining (surroundings_serve store w)

theorem remaining_call (store : Store σ) (w : World σ) (c : StoreCall) :
    (w.call store c).2.remaining = w.remaining :=
  congrArg Surroundings.remaining (surroundings_call store w c)

theorem remaining_handler (store : Store σ) (q : Question) (w : World σ) :
    (handler store q w).2.remaining = w.remaining :=
  congrArg Surroundings.remaining (surroundings_handler store w q)

theorem isHasty_call (store : Store σ) (w : World σ) (c : StoreCall) :
    (w.call store c).2.isHasty = w.isHasty :=
  congrArg Surroundings.isHasty (surroundings_call store w c)

theorem isHasty_handler (store : Store σ) (q : Question) (w : World σ) :
    (handler store q w).2.isHasty = w.isHasty :=
  congrArg Surroundings.isHasty (surroundings_handler store w q)

namespace IsLike

/-- What has the same surroundings and came out of the same world is like it, too. -/
theorem of_surroundings {w'' : World σ} (hw : IsLike store w w')
    (h : w''.surroundings = w'.surroundings) (hreaches : store.Reaches w.store w''.store)
    (hcache : w''.cache = none) : IsLike store w w'' where
  reaches := hreaches
  cache_eq := hcache
  isHasty_eq := (congrArg Surroundings.isHasty h).trans hw.isHasty_eq
  now_eq := (congrArg Surroundings.now h).trans hw.now_eq
  logger_eq := (congrArg Surroundings.logger h).trans hw.logger_eq
  loggerFault_eq := (congrArg Surroundings.loggerFault h).trans hw.loggerFault_eq
  violationFault_eq := (congrArg Surroundings.violationFault h).trans hw.violationFault_eq

theorem serve (hw : IsLike store w w') : IsLike store w (w'.serve store) :=
  hw.of_surroundings (surroundings_serve store w') (reaches_serve hw.reaches)
    ((serve_cache store w').trans hw.cache_eq)

theorem drop (hw : IsLike store w w') (q : Question) : IsLike store w (w'.drop store q) := by
  cases q with
  | ask c => exact hw.of_surroundings rfl (hw.reaches.abandon c) hw.cache_eq
  | askWithin limit c => exact hw.of_surroundings rfl (hw.reaches.abandon c) hw.cache_eq
  | _ => exact hw

/-- No question makes a world a different one. -/
theorem handler (hw : IsLike store w w') (q : Question) :
    IsLike store w (World.handler store q w').2 :=
  hw.of_surroundings (surroundings_handler store w' q) (reaches_handler hw.reaches q)
    (cache_handler_of_eq_none store w' hw.cache_eq q)

end IsLike

/-! ## What questions are answered -/

/-- Who waits for an answer gets the reply of the store. -/
theorem reply_call (hw : w.isHasty = false) (c : StoreCall) :
    (w.call store c).1 = (store.ask c w.store).1 := by
  simp only [call, note, hw]
  split <;> rfl

theorem reply_call_eq (hsteady : store.IsSteady w.store) (halone : w.IsAlone)
    (hw : IsLike store w w') (c : StoreCall) : (w'.call store c).1 = (w.call store c).1 := by
  rw [reply_call hw.isHasty_eq, reply_call halone.isHasty_eq]
  exact hsteady w'.store hw.reaches c

/-- A call that is held in time is given up when its limit is over, unless a deadline comes first. -/
theorem isOver_expire (hw : w.isHasty = false) (limit : Span) (c : StoreCall) :
    (w.expire store limit c).1 = !w.remaining.any (· < limit.toFloat) := by
  simp only [expire, hw, Bool.false_or]
  split
  case isTrue h => rw [h]; rfl
  case isFalse h => rw [Bool.not_eq_true _ |>.mp h]; rfl

/-- A world over a steady store answers what it would answer at the beginning. If there is a deadline,
it may leave a question without an answer. -/
theorem answer_eq_or_eq_none (hsteady : store.IsSteady w.store) (halone : w.IsAlone)
    (hw : IsLike store w w') (q : Question) :
    (handler store q w').1 = oracle store w q ∨
      w'.remaining ≠ none ∧ (handler store q w').1 = none := by
  cases q with
  | ask c => exact .inl (congrArg outcome (reply_call_eq hsteady halone hw c))
  | askWithin limit c =>
      have hreply := reply_call_eq hsteady halone hw c
      have hwaits := (isHasty_call store w' c).trans hw.isHasty_eq
      have hwaits₀ := (isHasty_call store w c).trans halone.isHasty_eq
      simp only [oracle, handler]
      rw [hreply]
      cases hout : outcome (w.call store c).1 with
      | some answer => exact .inl rfl
      | none =>
          dsimp only
          rw [isOver_expire hwaits, isOver_expire hwaits₀, remaining_call, remaining_call,
            halone.remaining_eq]
          cases hdeadline : w'.remaining with
          | none => exact .inl rfl
          | some left =>
              by_cases hleft : left < limit.toFloat
              · exact .inr ⟨Option.some_ne_none left, by simp [hleft]⟩
              · exact .inl (by simp [hleft])
  | time => exact .inl (congrArg some hw.now_eq)
  | lookUp key =>
      left
      simp only [oracle, handler, hw.cache_eq, halone.cache_eq]
  | submit record =>
      left
      rw [oracle, handler_submit, handler_submit]
  | announce subject facts =>
      left
      simp only [oracle, handler, hw.logger_eq, hw.loggerFault_eq]
      split
      · rfl
      · rfl
  | reject policy problems =>
      left
      simp only [oracle, handler, hw.logger_eq, hw.violationFault_eq]
      split
      · rfl
      · rfl
  | _ => exact .inl rfl

/-- Who waits is answered everything by a store that holds no call. -/
theorem exists_answer (hw : w.isHasty = false) (hprompt : store.IsPrompt w.store) (q : Question) :
    ∃ a, (handler store q w).1 = some a := by
  have hreply : ∀ c, ∃ answer, outcome (w.call store c).1 = some answer := by
    intro c
    have hheld := hprompt c
    rw [reply_call hw]
    cases hask : (store.ask c w.store).1 with
    | answered a => exact ⟨.ok a, rfl⟩
    | failed fault => exact ⟨.error fault, rfl⟩
    | held => exact absurd hask hheld
  cases q with
  | ask c => exact hreply c
  | askWithin limit c =>
      obtain ⟨answer, hanswer⟩ := hreply c
      exact ⟨some answer, by simp only [handler, hanswer]⟩
  | lookUp key =>
      simp only [handler]
      split <;> exact ⟨_, rfl⟩
  | submit record => exact ⟨(), handler_submit store w record⟩
  | announce subject facts =>
      obtain ⟨a, ha, -⟩ := handler_report store w (q := .announce subject facts) rfl
      exact ⟨a, ha⟩
  | reject policy problems =>
      simp only [handler]
      split <;> exact ⟨_, rfl⟩
  | time => exact ⟨w.now, rfl⟩
  | remember key m => exact ⟨(), rfl⟩
  | note entries => exact ⟨(), rfl⟩

/-- A world that is alone over a store that holds no call answers everything. -/
theorem exists_oracle_eq_some (halone : w.IsAlone) (hprompt : store.IsPrompt w.store)
    (q : Question) : ∃ a, oracle store w q = some a :=
  exists_answer halone.isHasty_eq hprompt q

/-- What is made of a report does not depend on the store. -/
theorem handler_report_eq (store other : Store σ) (q : Question) (w : World σ) (hq : q.isReport) :
    handler other q w = handler store q w := by
  cases q with
  | note entries => rfl
  | announce subject facts => rfl
  | _ => cases hq

/-- With a deadline, a world over a steady store answers nothing but what it would answer alone. -/
theorem respects_oracle (hsteady : store.IsSteady w.store) (halone : w.IsAlone) :
    Process.Respects (handler store) (IsLike store w) (oracle store w) where
  stays := fun q _ hw => hw.handler q
  tells := by
    intro q w' a hw ha
    rcases answer_eq_or_eq_none hsteady halone hw q with heq | ⟨-, hnone⟩
    · rw [← heq]
      exact ha
    · rw [hnone] at ha
      cases ha

/-- Without a deadline, a world over a steady store answers all that it would answer alone. -/
theorem obliges_oracle (hsteady : store.IsSteady w.store) (halone : w.IsAlone) :
    Process.Obliges (handler store) (fun w' => IsLike store w w' ∧ w'.remaining = none)
      (oracle store w) where
  stays := fun q w' hw => ⟨hw.1.handler q, (remaining_handler store q w').trans hw.2⟩
  tells := by
    intro q w' hw
    rcases answer_eq_or_eq_none hsteady halone hw.1 q with heq | ⟨hdeadline, -⟩
    · exact heq
    · exact absurd hw.2 hdeadline

/-! ## Worlds that wait -/

/-- A world over a store that came out of a state by being asked and by writing records. Its answers are
waited for. -/
structure IsServed (store : Store σ) (s : σ) (w : World σ) : Prop where
  reaches : store.Reaches s w.store
  isHasty_eq : w.isHasty = false

variable {s : σ}

theorem IsServed.handler (hw : IsServed store s w) (q : Question) :
    IsServed store s (World.handler store q w).2 :=
  ⟨reaches_handler hw.reaches q, (isHasty_handler store q w).trans hw.isHasty_eq⟩

end World

/-- Whatever a store goes through, it holds no call. -/
def Store.StaysPrompt {σ : Type} (store : Store σ) (s : σ) : Prop :=
  ∀ s', store.Reaches s s' → store.IsPrompt s'

/-- A steady store goes on to hold no call if it holds none now. -/
theorem Store.IsPrompt.staysPrompt {σ : Type} {store : Store σ} {s : σ} (hprompt : store.IsPrompt s)
    (hsteady : store.IsSteady s) : store.StaysPrompt s := by
  intro s' hreaches call
  rw [hsteady s' hreaches call]
  exact hprompt call

namespace World

variable {σ : Type} {store : Store σ} {s : σ} {w : World σ}

/-- Who waits gets to the end of every process. -/
theorem IsServed.run {α : Type} (hw : IsServed store s w) (hprompt : store.StaysPrompt s)
    (p : Process α) : ∃ a w', p.run (World.handler store) w = (.done a, w') := by
  induction p generalizing w with
  | done a => exact ⟨a, w, rfl⟩
  | wait q next ih =>
      obtain ⟨answer, hanswer⟩ := exists_answer hw.isHasty_eq (hprompt w.store hw.reaches) q
      obtain ⟨a, w', hrun⟩ := ih answer (hw.handler q)
      refine ⟨a, w', ?_⟩
      rw [Process.run, show World.handler store q w = (some answer, _) from Prod.ext hanswer rfl]
      exact hrun

end World

end Clearance
