/-
# Gathering comes to an end

Where answers are waited for and the store has one to each of its look-ups, gathering yields a map:
the stored part is found or looked up, and at a time of the calendar the request's own part is written
over it, if the context can be written. It does not matter what the answers are, or whether they change
from one look-up to the next.
-/

import Clearance.Proofs.Attribute.Gathering
import Clearance.Proofs.Authorization.Answering
import Clearance.Proofs.Service.Steady

namespace Clearance

variable {σ : Type} {store : Store σ} {s : σ}

/-- Whatever a store goes through, it has an answer to a call. -/
def Store.Answers (store : Store σ) (s : σ) (call : StoreCall) : Prop :=
  ∀ s', store.Reaches s s' → ∃ a, (store.ask call s').1 = .answered a

namespace World

open Attempt

/-- From every world that waits for answers, an attempt gets to a value in such a world. -/
def Succeeds {α : Type} (store : Store σ) (s : σ) (p : Attempt α) : Prop :=
  ∀ w, IsServed store s w → ∃ a w', Yields (handler store) p w a w' ∧ IsServed store s w'

namespace Succeeds

variable {α β : Type}

theorem pure (a : α) : Succeeds store s (Pure.pure a : Attempt α) :=
  fun w hw => ⟨a, w, .pure a w, hw⟩

theorem bind {p : Attempt α} {f : α → Attempt β} (hp : Succeeds store s p)
    (hf : ∀ a, Succeeds store s (f a)) : Succeeds store s (p >>= f) := by
  intro w hw
  obtain ⟨a, w₁, hfirst, hw₁⟩ := hp w hw
  obtain ⟨b, w₂, hsecond, hw₂⟩ := hf a w₁ hw₁
  exact ⟨b, w₂, hfirst.bind hsecond, hw₂⟩

theorem framed {p : Attempt α} (hp : Succeeds store s p) (frame : String → Failure) :
    Succeeds store s (p.framed frame) := by
  intro w hw
  obtain ⟨a, w', hyields, hw'⟩ := hp w hw
  exact ⟨a, w', hyields.framed frame, hw'⟩

theorem pose {q : Question} (hq : ∀ w : World σ, ∃ a, (handler store q w).1 = some a) :
    Succeeds store s (Attempt.pose q) := by
  intro w hw
  obtain ⟨a, ha⟩ := hq w
  exact ⟨a, _, .pose (Prod.ext ha rfl), hw.handler q⟩

theorem call {c : StoreCall} (hc : store.Answers s c) : Succeeds store s (Attempt.call c) := by
  intro w hw
  obtain ⟨a, ha⟩ := hc w.store hw.reaches
  have hreply : (handler store (.ask c) w).1 = some (.ok a) := by
    show outcome (w.call store c).1 = _
    rw [reply_call hw.isHasty_eq, ha]
    rfl
  refine ⟨a, (w.call store c).2, ?_, hw.handler (.ask c)⟩
  show Process.run (handler store) (.wait (.ask c) .done) w = _
  rw [Process.run, show handler store (.ask c) w = (some (.ok a), _) from Prod.ext hreply rfl]
  rfl

end Succeeds

variable {subject action : String} {resource : Option String} {now : Time.Moment}

theorem succeeds_lookUps
    (h : ∀ c ∈ Gathering.calls subject action resource now, store.Answers s c) :
    Succeeds store s (Gathering.lookUps subject action resource now) := by
  have hcall : ∀ c ∈ Gathering.calls subject action resource now,
      Succeeds store s (Attempt.call c) := fun c hc => .call (h c hc)
  have hresource : Succeeds store s (Gathering.resourceLookUps resource) := by
    simp only [Gathering.resourceLookUps]
    cases hgiven : Gathering.given? resource with
    | none => exact .pure _
    | some r =>
        exact (hcall _ (by simp [Gathering.calls, hgiven])).bind fun _ =>
          (hcall _ (by simp [Gathering.calls, hgiven])).bind fun _ => .pure _
  rw [Gathering.lookUps_eq]
  exact (hcall _ (by simp [Gathering.calls])).bind fun _ =>
    (hcall _ (by simp [Gathering.calls])).bind fun _ => hresource.bind fun _ =>
    (hcall _ (by simp [Gathering.calls])).bind fun _ =>
    (hcall _ (by simp [Gathering.calls])).bind fun _ => .pure _

theorem succeeds_stored
    (h : ∀ c ∈ Gathering.calls subject action resource now, store.Answers s c)
    (roleOverrides : Bool) :
    Succeeds store s (Gathering.stored roleOverrides subject action resource now) := by
  have hlookUp : ∀ key, Succeeds store s (Attempt.pose (.lookUp key)) := fun key => .pose fun w => by
    simp only [handler]
    split <;> exact ⟨_, rfl⟩
  refine (hlookUp _).bind fun found => ?_
  cases found with
  | some m => exact (Succeeds.pose fun _ => ⟨(), rfl⟩).bind fun _ => .pure m
  | none =>
      exact ((succeeds_lookUps h).framed _).bind fun _ =>
        (Succeeds.pose fun _ => ⟨(), rfl⟩).bind fun _ => .pure _

end World

/-- Where answers are waited for and there is one to each look-up, a map is gathered, unless the time is
beyond the calendar or the context cannot be written. -/
theorem Service.exists_gather {service : Service σ} {w : World σ} {subject action : String}
    {resource : Option String} (hwaits : w.isHasty = false)
    (hanswers : ∀ c ∈ Gathering.calls subject action resource w.now,
      service.store.Answers w.store c)
    (hnow : w.now.universal?.isSome) (resourceType : Option String)
    {context : List (String × Value)} (hcontext : Value.HaveStrings context) :
    ∃ m, (service.gather subject action resource resourceType context w).1 = some (.ok m) := by
  obtain ⟨stored, w₁, hstored, -⟩ := World.succeeds_stored hanswers
    service.settings.doesRoleOverride w ⟨.refl, hwaits⟩
  obtain ⟨m, hm⟩ := stored.exists_forRequest hnow resourceType hcontext
  obtain ⟨w', hyields⟩ := gather_yields.mpr ⟨stored, w₁, hstored, hm⟩
  exact ⟨m, congrArg Prod.fst (service.attempt_of_yields hyields)⟩

/-- A directory has an answer to each call, unless it was made to fail. -/
theorem Directory.answers {d : Directory} (hd : d.failing = []) (call : StoreCall) :
    Directory.store.Answers d call := by
  intro d' hreaches
  have hd' : d'.failing = [] := (congrArg failing (unrecorded_of_reaches hreaches)).trans hd
  refine ⟨d'.answer call, ?_⟩
  show (if d'.failing.contains call.name then Reply.failed (.failure (refusal call))
    else .answered (d'.answer call)) = _
  rw [hd']
  rfl

end Clearance
