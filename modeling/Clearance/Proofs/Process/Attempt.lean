/-
# Runs of attempts

An attempt that yields a value goes on with it; one that ends in a fault is over. Of an attempt that
calls the store it matters what it makes of a call that fails: it ends at once, with a fault that
depends on the call.
-/

import Clearance.Proofs.Process.Contract

namespace Clearance

/-- A fault in a frame: a failure of the library stays as it is, and any other fault becomes one in
the words of the frame. -/
def Fault.framed (frame : String → Failure) : Fault → Fault
  | failure f => failure f
  | fault => failure (frame fault.message)

namespace Attempt

variable {α β ω : Type}

theorem run_bind_eq (p : Attempt α) (f : α → Attempt β) :
    (p >>= f).run = p.run >>= fun outcome =>
      match outcome with
      | .ok a => (f a).run
      | .error fault => .done (.error fault) := by
  rw [ExceptT.run_bind]
  congr 1
  funext outcome
  cases outcome <;> rfl

theorem run_framed_eq (frame : String → Failure) (p : Attempt α) :
    (p.framed frame).run = p.run >>= fun outcome =>
      match outcome with
      | .ok a => .done (.ok a)
      | .error fault => .done (.error (fault.framed frame)) := by
  simp only [framed]
  show p.run >>= _ = _
  congr 1
  funext outcome
  rcases outcome with fault | a
  · cases fault <;> rfl
  · rfl

/-! ## Attempts that yield a value -/

/-- The run of an attempt ends in a value. -/
def Yields (h : Handler ω) (p : Attempt α) (w : ω) (a : α) (w' : ω) : Prop :=
  p.run.run h w = (.done (.ok a), w')

section Yields

variable {h : Handler ω} {p : Attempt α} {f : α → Attempt β} {w w' w'' : ω} {a : α} {b : β}

theorem Yields.pure (a : α) (w : ω) : Yields h (Pure.pure a : Attempt α) w a w := rfl

/-- After a part that yields a value, a sequence goes on with it. -/
theorem Yields.run_bind (hp : Yields h p w a w') (f : α → Attempt β) :
    (p >>= f).run.run h w = (f a).run.run h w' := by
  rw [run_bind_eq, Process.run_bind_of_done hp]

theorem Yields.bind (hp : Yields h p w a w') (hf : Yields h (f a) w' b w'') :
    Yields h (p >>= f) w b w'' :=
  (hp.run_bind f).trans hf

theorem Yields.ofExcept {outcome : Except Fault α} (houtcome : outcome = .ok a) (w : ω) :
    Yields h (ExceptT.mk (Process.done outcome)) w a w := by
  rw [houtcome]
  rfl

theorem yields_pure {b : α} : Yields h (Pure.pure b : Attempt α) w a w' ↔ a = b ∧ w' = w := by
  constructor
  · intro hyields
    cases hyields
    exact ⟨rfl, rfl⟩
  · rintro ⟨rfl, rfl⟩
    rfl

theorem yields_ofExcept {outcome : Except Fault α} :
    Yields h (ExceptT.mk (Process.done outcome)) w a w' ↔ outcome = .ok a ∧ w' = w := by
  constructor
  · intro hyields
    cases hyields
    exact ⟨rfl, rfl⟩
  · rintro ⟨rfl, rfl⟩
    rfl

theorem Yields.framed (hp : Yields h p w a w') (frame : String → Failure) :
    Yields h (p.framed frame) w a w' := by
  simp only [Yields] at hp ⊢
  rw [run_framed_eq, Process.run_bind_of_done hp]
  rfl

theorem Yields.pose {q : Question} {answer : q.Answer} (hq : h q w = (some answer, w')) :
    Yields h (Attempt.pose q) w answer w' := by
  simp only [Yields]
  show Process.run h (.wait q fun a => .done (Except.ok a)) w = _
  rw [Process.run, hq]
  rfl

theorem yields_pose {q : Question} {answer : q.Answer} :
    Yields h (Attempt.pose q) w answer w' ↔ h q w = (some answer, w') := by
  refine ⟨fun hyields => ?_, .pose⟩
  simp only [Yields] at hyields
  change Process.run h (.wait q fun a => .done (Except.ok a)) w = _ at hyields
  rw [Process.run] at hyields
  rcases hq : h q w with ⟨_ | a, w₁⟩
  · rw [hq] at hyields
    cases hyields
  · rw [hq] at hyields
    cases hyields
    rfl

/-- The exchanges of a sequence: those of its first part, and those of what comes after it if the
first part yields a value. -/
theorem mem_exchanges_bind {x : Exchange} :
    x ∈ (p >>= f).run.exchanges h w ↔
      x ∈ p.run.exchanges h w ∨
        ∃ a w', Yields h p w a w' ∧ x ∈ (f a).run.exchanges h w' := by
  rw [run_bind_eq, Process.exchanges_bind, List.mem_append]
  simp only [Yields]
  rcases hrun : p.run.run h w with ⟨⟨fault | a⟩ | ⟨q, next⟩, w'⟩
  · simp [Process.exchanges]
  · refine or_congr_right ⟨fun hx => ⟨a, w', rfl, hx⟩, ?_⟩
    rintro ⟨b, w'', heq, hx⟩
    cases heq
    exact hx
  · simp

theorem exchanges_framed (frame : String → Failure) :
    (p.framed frame).run.exchanges h w = p.run.exchanges h w := by
  rw [run_framed_eq, Process.exchanges_bind]
  rcases p.run.run h w with ⟨⟨fault | a⟩ | ⟨q, next⟩, w'⟩ <;> simp [Process.exchanges]

theorem yields_bind {b : β} :
    Yields h (p >>= f) w b w'' ↔ ∃ a w', Yields h p w a w' ∧ Yields h (f a) w' b w'' := by
  constructor
  · intro hyields
    simp only [Yields] at hyields
    rw [run_bind_eq, Process.run_bind] at hyields
    rcases hrun : p.run.run h w with ⟨⟨fault | a⟩ | ⟨q, next⟩, w'⟩
    · rw [hrun] at hyields
      cases hyields
    · rw [hrun] at hyields
      exact ⟨a, w', hrun, hyields⟩
    · rw [hrun] at hyields
      cases hyields
  · rintro ⟨a, w', hfirst, hsecond⟩
    exact hfirst.bind hsecond

theorem yields_framed {frame : String → Failure} :
    Yields h (p.framed frame) w a w' ↔ Yields h p w a w' := by
  simp only [Yields]
  rw [run_framed_eq, Process.run_bind]
  rcases p.run.run h w with ⟨⟨fault | b⟩ | ⟨q, next⟩, w₁⟩ <;> simp [Process.run]

/-- If no call fails in a sequence, none fails in its first part. -/
theorem unfailing_left (hcalls : Process.Unfailing h (p >>= f).run w) :
    Process.Unfailing h p.run w := by
  rw [run_bind_eq] at hcalls
  exact hcalls.left

/-- If no call fails in a sequence, none fails in what comes after a part that yields a value. -/
theorem Yields.unfailing_right (hp : Yields h p w a w')
    (hcalls : Process.Unfailing h (p >>= f).run w) : Process.Unfailing h (f a).run w' := by
  rw [run_bind_eq] at hcalls
  exact hcalls.right hp

end Yields

/-! ## Attempts that need an answer -/

/-- A call has to be answered before an attempt can yield a value. -/
def Awaits (c : StoreCall) (p : Attempt α) : Prop :=
  ∀ (ω : Type) (h : Handler ω) (w w' : ω) (a : α), Yields h p w a w' →
    ∃ answer, Exchange.answered c answer ∈ p.run.exchanges h w

section Awaits

variable {c : StoreCall}

theorem Awaits.call : Awaits c (Attempt.call c) := by
  intro ω h w w' a hyields
  simp only [Yields] at hyields
  change Process.run h (.wait (.ask c) .done) w = _ at hyields
  show ∃ answer, _ ∈ Process.exchanges h (.wait (.ask c) .done) w
  rw [Process.run] at hyields
  rw [Process.exchanges]
  rcases hq : h (.ask c) w with ⟨_ | reply, w₁⟩
  · rw [hq] at hyields
    cases hyields
  · rw [hq] at hyields
    cases hyields
    exact ⟨a, List.mem_cons_self⟩

/-- What the first part of a sequence needs, the sequence needs. -/
theorem Awaits.left {p : Attempt α} {f : α → Attempt β} (hp : Awaits c p) :
    Awaits c (p >>= f) := by
  intro ω h w w' b hyields
  obtain ⟨a, w₁, hfirst, _⟩ := yields_bind.mp hyields
  obtain ⟨answer, hx⟩ := hp ω h w w₁ a hfirst
  exact ⟨answer, mem_exchanges_bind.mpr (.inl hx)⟩

/-- What the second part of a sequence needs, the sequence needs. -/
theorem Awaits.right {p : Attempt α} {f : α → Attempt β} (hf : ∀ a, Awaits c (f a)) :
    Awaits c (p >>= f) := by
  intro ω h w w' b hyields
  obtain ⟨a, w₁, hfirst, hsecond⟩ := yields_bind.mp hyields
  obtain ⟨answer, hx⟩ := hf a ω h w₁ w' b hsecond
  exact ⟨answer, mem_exchanges_bind.mpr (.inr ⟨a, w₁, hfirst, hx⟩)⟩

theorem Awaits.framed {p : Attempt α} (hp : Awaits c p) (frame : String → Failure) :
    Awaits c (p.framed frame) := by
  intro ω h w w' a hyields
  rw [exchanges_framed]
  exact hp ω h w w' a (yields_framed.mp hyields)

end Awaits

/-! ## Attempts that end with a failed call -/

/-- When a call fails, an attempt is over, and its fault is related to the one of the call. -/
inductive FailsBy (leads : StoreCall → Fault → Fault → Prop) : Process (Except Fault α) → Prop
  | done (outcome : Except Fault α) : FailsBy leads (.done outcome)
  | ask {call : StoreCall} {next : (Question.ask call).Answer → Process (Except Fault α)}
      (hfailed : ∀ fault, ∃ fault', leads call fault fault' ∧ next (.error fault) = .done (.error fault'))
      (hanswered : ∀ a, FailsBy leads (next (.ok a))) : FailsBy leads (.wait (.ask call) next)
  | wait {q : Question} {next : q.Answer → Process (Except Fault α)} (hq : ∀ call, q ≠ .ask call)
      (hnext : ∀ a, FailsBy leads (next a)) : FailsBy leads (.wait q next)

section FailsBy

variable {leads leads' : StoreCall → Fault → Fault → Prop}

theorem FailsBy.mono {p : Process (Except Fault α)} (hp : FailsBy leads p)
    (h : ∀ call fault fault', leads call fault fault' → leads' call fault fault') :
    FailsBy leads' p := by
  induction hp with
  | done outcome => exact .done outcome
  | ask hfailed _ ih =>
      refine .ask (fun fault => ?_) ih
      obtain ⟨fault', hleads, hnext⟩ := hfailed fault
      exact ⟨fault', h _ _ _ hleads, hnext⟩
  | wait hq _ ih => exact .wait hq ih

/-- A sequence fails by what its parts fail by. -/
theorem FailsBy.bind {p : Attempt α} {f : α → Attempt β} (hp : FailsBy leads p.run)
    (hf : ∀ a, FailsBy leads (f a).run) : FailsBy leads (p >>= f).run := by
  rw [run_bind_eq]
  generalize p.run = process at hp
  induction hp with
  | done outcome =>
      cases outcome with
      | ok a => exact hf a
      | error fault => exact .done _
  | ask hfailed _ ih =>
      refine .ask (fun fault => ?_) ih
      obtain ⟨fault', hleads, hnext⟩ := hfailed fault
      refine ⟨fault', hleads, ?_⟩
      rw [hnext]
      rfl
  | wait hq _ ih => exact .wait hq ih

/-- A frame changes the faults that an attempt fails by. -/
theorem FailsBy.framed {p : Attempt α} (hp : FailsBy leads p.run) (frame : String → Failure)
    (h : ∀ call fault fault', leads call fault fault' → leads' call fault (fault'.framed frame)) :
    FailsBy leads' (p.framed frame).run := by
  rw [run_framed_eq]
  generalize p.run = process at hp
  induction hp with
  | done outcome => cases outcome <;> exact .done _
  | ask hfailed _ ih =>
      refine .ask (fun fault => ?_) ih
      obtain ⟨fault', hleads, hnext⟩ := hfailed fault
      refine ⟨fault'.framed frame, h _ _ _ hleads, ?_⟩
      rw [hnext]
      rfl
  | wait hq _ ih => exact .wait hq ih

/-- A fault of some calls is passed on as it is. -/
def Passes (calls : StoreCall → Prop) (call : StoreCall) (fault fault' : Fault) : Prop :=
  calls call ∧ fault' = fault

/-- A fault of a call is passed on in one of the frames of the call. -/
def PassesIn (frames : StoreCall → (String → Failure) → Prop) (call : StoreCall)
    (fault fault' : Fault) : Prop :=
  ∃ frame, frames call frame ∧ fault' = fault.framed frame

/-- Calls in a frame. -/
theorem FailsBy.inFrame {calls : StoreCall → Prop} {p : Attempt α}
    (hp : FailsBy (Passes calls) p.run) {frames : StoreCall → (String → Failure) → Prop}
    {frame : String → Failure} (h : ∀ call, calls call → frames call frame) :
    FailsBy (PassesIn frames) (p.framed frame).run := by
  refine hp.framed frame fun call fault fault' hpasses => ?_
  obtain ⟨hcall, rfl⟩ := hpasses
  exact ⟨frame, h call hcall, rfl⟩

theorem FailsBy.pure (a : α) : FailsBy leads (Pure.pure a : Attempt α).run := .done _

theorem FailsBy.pose {q : Question} (hq : ∀ call, q ≠ .ask call) :
    FailsBy leads (Attempt.pose q).run :=
  .wait hq fun _ => .done _

theorem FailsBy.call {calls : StoreCall → Prop} {c : StoreCall} (hc : calls c) :
    FailsBy (Passes calls) (Attempt.call c).run :=
  .ask (fun fault => ⟨fault, ⟨hc, rfl⟩, rfl⟩) fun _ => .done _

/-- Where the store is not called, no call fails. -/
theorem FailsBy.of_obeys {p : Process (Except Fault α)} {asks : Question → Prop}
    {ends : Except Fault α → Prop} (hp : p.Obeys asks (fun _ _ => True) ends)
    (hasks : ∀ call, ¬asks (.ask call)) : FailsBy leads p := by
  induction hp with
  | @done outcome _ => exact .done outcome
  | @wait q next hq _ ih =>
      refine .wait (fun call hcall => ?_) fun a => ih a trivial
      subst hcall
      exact hasks call hq

/-- A run in which a call fails ends in the fault that the attempt makes of it. -/
theorem FailsBy.run {p : Process (Except Fault α)} (hp : FailsBy leads p) {h : Handler ω} {w : ω}
    {call : StoreCall} {fault : Fault} (hx : Exchange.failed call fault ∈ p.exchanges h w) :
    ∃ fault' w', leads call fault fault' ∧ p.run h w = (.done (.error fault'), w') := by
  induction hp generalizing w with
  | done outcome => cases hx
  | @ask c next hfailed _ ih =>
      simp only [Process.exchanges, Process.run] at hx ⊢
      rcases hq : h (.ask c) w with ⟨_ | reply, w'⟩
      · rw [hq] at hx
        cases hx
      · rw [hq] at hx
        rcases reply with fault₀ | a
        · obtain ⟨fault', hleads, hnext⟩ := hfailed fault₀
          dsimp only at hx
          rw [hnext] at hx
          have heq := List.mem_singleton.mp hx
          cases heq
          refine ⟨fault', w', hleads, ?_⟩
          dsimp only
          rw [hnext]
          rfl
        · rcases List.mem_cons.mp hx with heq | hx
          · cases heq
          · exact ih a hx
  | @wait q next hq₀ _ ih =>
      simp only [Process.exchanges, Process.run] at hx ⊢
      rcases hq : h q w with ⟨_ | a, w'⟩
      · rw [hq] at hx
        cases hx
      · rw [hq] at hx
        rcases List.mem_cons.mp hx with heq | hx
        · exact absurd (congrArg Exchange.question heq).symm (hq₀ call)
        · exact ih a hx

/-- An attempt that yields a value has met no failed call. -/
theorem FailsBy.not_mem_of_yields {p : Attempt α} (hp : FailsBy leads p.run) {h : Handler ω}
    {w w' : ω} {a : α} (hyields : Yields h p w a w') (call : StoreCall) (fault : Fault) :
    Exchange.failed call fault ∉ p.run.exchanges h w := by
  intro hx
  obtain ⟨fault', w₁, _, hrun⟩ := hp.run hx
  simp only [Yields] at hyields
  rw [hyields] at hrun
  cases hrun

end FailsBy

/-! ## Contracts of attempts -/

/-- An attempt keeps a contract when its process does; it promises nothing about faults. -/
def Obeys (asks : Question → Prop) (trusts : (q : Question) → q.Answer → Prop) (ends : α → Prop)
    (p : Attempt α) : Prop :=
  Process.Obeys asks trusts (fun outcome => ∀ a, outcome = .ok a → ends a) p.run

section Obeys

variable {asks : Question → Prop} {trusts : (q : Question) → q.Answer → Prop} {ends : α → Prop}
  {ends' : β → Prop}

theorem Obeys.nothing (p : Attempt α) : Obeys (fun _ => True) trusts (fun _ => True) p :=
  Process.Obeys.mono (.nothing p.run) (fun _ h => h) (fun _ _ h => h) fun _ _ _ _ => trivial

/-- A contract may promise less about the value. -/
theorem Obeys.ending {ends₂ : α → Prop} {p : Attempt α} (hp : Obeys asks trusts ends p)
    (h : ∀ a, ends a → ends₂ a) : Obeys asks trusts ends₂ p :=
  Process.Obeys.ending hp fun _ houtcome a ha => h a (houtcome a ha)

theorem Obeys.pure {a : α} (h : ends a) : Obeys asks trusts ends (Pure.pure a) :=
  .done fun _ ha => by cases ha; exact h

theorem Obeys.ofExcept {outcome : Except Fault α} (h : ∀ a, outcome = .ok a → ends a) :
    Obeys asks trusts ends (ExceptT.mk (Process.done outcome)) :=
  .done h

theorem Obeys.bind {p : Attempt α} {f : α → Attempt β} (hp : Obeys asks trusts ends p)
    (hf : ∀ a, ends a → Obeys asks trusts ends' (f a)) : Obeys asks trusts ends' (p >>= f) := by
  simp only [Obeys]
  rw [run_bind_eq]
  refine Process.Obeys.bind hp fun outcome houtcome => ?_
  cases outcome with
  | ok a => exact hf a (houtcome a rfl)
  | error fault => exact .done fun _ hb => by cases hb

theorem Obeys.framed {p : Attempt α} (hp : Obeys asks trusts ends p) (frame : String → Failure) :
    Obeys asks trusts ends (p.framed frame) := by
  simp only [Obeys]
  rw [run_framed_eq]
  refine Process.Obeys.bind hp fun outcome houtcome => ?_
  cases outcome with
  | ok a => exact .done houtcome
  | error fault => exact .done fun _ hb => by cases hb

theorem Obeys.pose {q : Question} (hq : asks q) : Obeys asks trusts (trusts q) (Attempt.pose q) :=
  .wait hq fun _ ha => .done fun _ hb => by cases hb; exact ha

theorem Obeys.call {c : StoreCall} (hc : asks (.ask c)) :
    Obeys asks trusts (fun a => trusts (.ask c) (.ok a)) (Attempt.call c) :=
  .wait hc fun _ ha => .done fun _ hb => by cases hb; exact ha

/-- A question and what comes after it. -/
theorem Obeys.poseBind {q : Question} {f : q.Answer → Attempt β} (hq : asks q)
    (hf : ∀ a, trusts q a → Obeys asks trusts ends' (f a)) :
    Obeys asks trusts ends' (Attempt.pose q >>= f) :=
  (Obeys.pose hq).bind hf

end Obeys

/-- An attempt asks only questions of some kinds, whatever it is told. -/
def Asks (kinds : Question → Bool) (p : Attempt α) : Prop :=
  Obeys (fun q => kinds q) (fun _ _ => True) (fun _ => True) p

section Asks

variable {kinds kinds' : Question → Bool}

theorem Asks.pure (a : α) : Asks kinds (Pure.pure a : Attempt α) := Obeys.pure trivial

theorem Asks.ofExcept (outcome : Except Fault α) : Asks kinds (ExceptT.mk (Process.done outcome)) :=
  Obeys.ofExcept fun _ _ => trivial

theorem Asks.pose {q : Question} (hq : kinds q) : Asks kinds (Attempt.pose q) := Obeys.pose hq

theorem Asks.call {c : StoreCall} (hc : kinds (.ask c)) : Asks kinds (Attempt.call c) :=
  Obeys.call hc

theorem Asks.bind {p : Attempt α} {f : α → Attempt β} (hp : Asks kinds p)
    (hf : ∀ a, Asks kinds (f a)) : Asks kinds (p >>= f) :=
  Obeys.bind hp fun a _ => hf a

theorem Asks.framed {p : Attempt α} (hp : Asks kinds p) (frame : String → Failure) :
    Asks kinds (p.framed frame) :=
  Obeys.framed hp frame

theorem Asks.mono {p : Attempt α} (hp : Asks kinds p) (h : ∀ q, kinds q → kinds' q) :
    Asks kinds' p :=
  Process.Obeys.mono hp h (fun _ _ h => h) fun _ h => h

theorem Asks.of_mem {p : Attempt α} (hp : Asks kinds p) {h : Handler ω} {w : ω} {x : Exchange}
    (hx : x ∈ p.run.exchanges h w) : kinds x.question :=
  Process.Obeys.asks_of_mem hp hx

end Asks

/-! ## Statements that go by parts -/

/-- A statement on attempts is true of an attempt that asks nothing, and of a sequence when it is true
of its parts. -/
structure IsCompositional (holds : ∀ {α : Type}, Attempt α → Prop) : Prop where
  ofExcept : ∀ {α : Type} (outcome : Except Fault α), holds (ExceptT.mk (Process.done outcome))
  bind : ∀ {α β : Type} {p : Attempt α} {f : α → Attempt β},
    holds p → (∀ a, holds (f a)) → holds (p >>= f)

theorem IsCompositional.pure {holds : ∀ {α : Type}, Attempt α → Prop} (h : IsCompositional holds)
    (a : α) : holds (Pure.pure a : Attempt α) :=
  h.ofExcept (.ok a)

theorem Asks.isCompositional (kinds : Question → Bool) : IsCompositional (Asks kinds) where
  ofExcept := .ofExcept
  bind := .bind

theorem FailsBy.isCompositional (leads : StoreCall → Fault → Fault → Prop) :
    IsCompositional fun p => FailsBy leads p.run where
  ofExcept := .done
  bind := .bind

end Attempt

end Clearance
