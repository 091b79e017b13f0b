/-
# What is gathered from a directory

A directory answers a call out of its content or refuses it, whatever it was asked before. So what a
request gathers without a cache is a function of the content and the request: the answers in the
order of the calls, up to the first refusal. Of the time of the request it depends only on which
values of the environment are valid then, and of the resource only on its name.
-/

import Clearance.Proofs.Attribute.Gathering
import Clearance.Proofs.Directory.Loading

namespace Clearance

namespace Directory

variable {α β : Type} {d d' : Directory}

/-! ## Replies -/

/-- What a call comes to. -/
def reply (d : Directory) (c : StoreCall) : Except Fault c.Answer :=
  if d.failing.contains c.name then .error (.failure (refusal c)) else .ok (d.answer c)

theorem reply_eq_of_content_eq (h : d'.content = d.content) (c : StoreCall) :
    d'.reply c = d.reply c := by
  have hfailing : d'.content.failing = d.content.failing := congrArg failing h
  change d'.failing = d.failing at hfailing
  simp only [reply]
  rw [hfailing, answer_eq_of_content_eq h]

/-- An attempt comes to an outcome in every world with a directory of some content, and leaves the
cache as it is. -/
def Gives (d : Directory) (p : Attempt α) (outcome : Except Fault α) : Prop :=
  ∀ w : World Directory, w.store.content = d.content →
    ∃ w', p.run.run (World.handler store) w = (.done outcome, w') ∧ w'.cache = w.cache

namespace Gives

theorem pure (a : α) : d.Gives (Pure.pure a : Attempt α) (.ok a) := fun w _ => ⟨w, rfl, rfl⟩

theorem call (c : StoreCall) : d.Gives (Attempt.call c) (d.reply c) := by
  intro w hw
  refine ⟨(World.handler store (.ask c) w).2, ?_, World.call_cache store w c⟩
  show Process.run (World.handler store) (.wait (.ask c) .done) w = _
  rw [Process.run, handler_ask, ← reply_eq_of_content_eq hw]
  rfl

/-- A sequence ends with the first fault of its parts. -/
theorem bind {p : Attempt α} {f : α → Attempt β} {outcome : Except Fault α}
    {g : α → Except Fault β} (hp : d.Gives p outcome) (hf : ∀ a, d.Gives (f a) (g a)) :
    d.Gives (p >>= f) (outcome >>= g) := by
  intro w hw
  obtain ⟨w₁, hfirst, hcache⟩ := hp w hw
  have hw₁ : w₁.store.content = d.content := by
    rw [← hw, ← run_content p.run w, hfirst]
  rw [Attempt.run_bind_eq, Process.run_bind_of_done hfirst]
  cases outcome with
  | error fault => exact ⟨w₁, rfl, hcache⟩
  | ok a =>
      obtain ⟨w₂, hsecond, hcache'⟩ := hf a w₁ hw₁
      exact ⟨w₂, hsecond, hcache'.trans hcache⟩

theorem framed {p : Attempt α} {outcome : Except Fault α} (hp : d.Gives p outcome)
    (frame : String → Failure) :
    d.Gives (p.framed frame) (outcome.mapError (Fault.framed frame)) := by
  intro w hw
  obtain ⟨w', hrun, hcache⟩ := hp w hw
  refine ⟨w', ?_, hcache⟩
  rw [Attempt.run_framed_eq, Process.run_bind_of_done hrun]
  cases outcome <;> rfl

end Gives

/-! ## The stored part of a map -/

/-- What a directory has on the resource of a request. -/
def foundOfResource (d : Directory) (resource : Option String) :
    Except Fault (List Attribute × Option String) :=
  match Gathering.given? resource with
  | none => .ok ([], none)
  | some r => do
    let attributes ← d.reply (.resourceAttributes r)
    let owner ← d.reply (.resourceOwner r)
    return (attributes, owner)

/-- What a directory has on a request. -/
def found (d : Directory) (subject action : String) (resource : Option String)
    (now : Time.Moment) : Except Fault Lookups := do
  let own ← d.reply (.subjectAttributes subject)
  let role ← d.reply (.roleAttributes subject)
  let ofResource ← d.foundOfResource resource
  let actionAttributes ← d.reply (.actionAttributes action)
  let environment ← d.reply (.environmentAttributes now)
  return ⟨own, role, ofResource.1, ofResource.2, actionAttributes, environment⟩

theorem lookUps_gives (d : Directory) (subject action : String) (resource : Option String)
    (now : Time.Moment) :
    d.Gives (Gathering.lookUps subject action resource now) (d.found subject action resource now) := by
  have hresource : d.Gives (Gathering.resourceLookUps resource) (d.foundOfResource resource) := by
    simp only [Gathering.resourceLookUps, foundOfResource]
    cases Gathering.given? resource with
    | none => exact .pure _
    | some r => exact .bind (.call _) fun _ => .bind (.call _) fun _ => .pure _
  rw [Gathering.lookUps_eq]
  exact .bind (.call _) fun _ => .bind (.call _) fun _ => .bind hresource fun _ =>
    .bind (.call _) fun _ => .bind (.call _) fun _ => .pure _

/-- Of the resource of a request it matters only what it names. -/
theorem found_eq_of_given?_eq (d : Directory) (subject action : String)
    {resource resource' : Option String} (now : Time.Moment)
    (h : Gathering.given? resource = Gathering.given? resource') :
    d.found subject action resource now = d.found subject action resource' now := by
  have hresource : d.foundOfResource resource = d.foundOfResource resource' := by
    simp only [foundOfResource]
    rw [h]
  simp only [found]
  rw [hresource]

/-- The values of the environment are valid at all times. -/
def IsTimeless (d : Directory) : Prop := ∀ e ∈ d.environment, e.window = {}

theorem IsTimeless.found_eq (hd : d.IsTimeless) (subject action : String)
    (resource : Option String) (now now' : Time.Moment) :
    d.found subject action resource now = d.found subject action resource now' := by
  have hvalid : ∀ now, (d.environment.filter fun e => e.window.contains now) = d.environment := by
    intro now
    refine List.filter_eq_self.mpr fun e he => ?_
    rw [hd e he]
    rfl
  have hreply : d.reply (.environmentAttributes now) = d.reply (.environmentAttributes now') := by
    have hrefusal : refusal (.environmentAttributes now) = refusal (.environmentAttributes now') := rfl
    simp only [reply, answer, hvalid, StoreCall.name, hrefusal]
  simp only [found]
  rw [hreply]

end Directory

end Clearance
