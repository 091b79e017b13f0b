/-
# What every gathered map is like

A map that is gathered may be found in the cache or looked up, and it may have a context with any keys
written over it. It is keyed in every case; the attributes of the environment stand behind all others;
the name of the action and the time are there; and a key refers to the attribute that stands under it,
unless the name of the attribute is empty. Only stored parts are ever kept for later, so a map that is
found in the cache has nothing of the time, the context or the type of a resource of another request.
-/

import Clearance.Proofs.Attribute.Order
import Clearance.Proofs.Attribute.Referring
import Clearance.Proofs.Directory.Loading
import Clearance.Proofs.Service.Gathering
import Clearance.Proofs.Service.Life

namespace Clearance

open Attempt

namespace AttributeMap

/-- What a map of a request is like. -/
structure IsRepresentative (m : AttributeMap) : Prop extends m.IsKeyed where
  environment_last : m.entries.Pairwise fun e later =>
    e.2.category = Category.environment.name → later.2.category = Category.environment.name
  has_actionName : m.has "action.action_name"
  has_currentTime : m.has "environment.current_time"
  has_dayOfWeek : m.has "environment.day_of_week"
  resolves : ∀ e ∈ m.entries, e.2.name ≠ "" →
    ∀ strict, m.resolve strict (some e.1) = .found e.2

/-- A map is the stored part of the map of some request. -/
def IsStored (m : AttributeMap) : Prop :=
  ∃ (l : Lookups) (roleOverrides : Bool) (subject action : String),
    m = l.toMap roleOverrides subject action

theorem coversStored_isStored : CoversStored IsStored :=
  fun l roleOverrides subject action => ⟨l, roleOverrides, subject, action, rfl⟩

theorem IsWritten.environment_last {m : AttributeMap} {front back : List (Category × String)}
    (h : m.IsWritten (front ++ back)) (hm : m.IsKeyed)
    (hfront : ∀ name ∈ front, name.1 ≠ .environment)
    (hback : ∀ name ∈ back, name.1 = .environment) :
    m.entries.Pairwise fun e later =>
      e.2.category = Category.environment.name → later.2.category = Category.environment.name := by
  obtain ⟨before, after, hentries, -, -, hbefore, hafter⟩ := h.exists_split hm hfront hback
  rw [hentries, List.pairwise_append]
  have hsorted : after.Pairwise fun e later =>
      e.2.category = Category.environment.name → later.2.category = Category.environment.name :=
    List.pairwise_iff_forall_sublist.mpr fun hsub _ => hafter _ (hsub.subset (by simp))
  have hnone : before.Pairwise fun e later =>
      e.2.category = Category.environment.name → later.2.category = Category.environment.name :=
    List.pairwise_iff_forall_sublist.mpr fun hsub henvironment =>
      absurd henvironment (hbefore _ (hsub.subset (by simp)))
  exact ⟨hnone, hsorted, fun _ _ later hlater _ => hafter later hlater⟩

/-- Whatever the stored part of some request is, the own part of a request makes it a map of this
kind. -/
theorem IsStored.isRepresentative {stored m : AttributeMap} (hstored : stored.IsStored)
    {now : Time.Moment} {resourceType : Option String} {context : List (String × Value)}
    (h : stored.forRequest now resourceType context = .ok m) : m.IsRepresentative := by
  obtain ⟨l, roleOverrides, subject, action, rfl⟩ := hstored
  have hm : m.IsKeyed := (l.isKeyed_toMap roleOverrides subject action).forRequest h
  have hwritten := Lookups.isWritten_forRequest h
  have hhas : ∀ name ∈ l.storedNames ++ typeNames resourceType ++ l.environmentNames context,
      m.has (nameKey name) := fun name hname => has_iff.mpr (hwritten.mem_keys_iff.mpr hname)
  have hfront : ∀ name ∈ l.storedNames ++ typeNames resourceType, name.1 ≠ .environment := by
    intro name hname
    rcases List.mem_append.mp hname with hname | hname
    · exact l.category_of_mem_storedNames name hname
    · exact Lookups.category_of_mem_typeNames resourceType name hname
  refine ⟨hm, hwritten.environment_last hm hfront (l.category_of_mem_environmentNames context),
    hhas (.action, "action_name") ?_, hhas (.environment, "current_time") ?_,
    hhas (.environment, "day_of_week") ?_, fun e he => hm.resolve_key he⟩
  · simp [Lookups.storedNames]
  · simp [Lookups.environmentNames]
  · simp [Lookups.environmentNames]

end AttributeMap

/-- **Representation.** Wherever a service lives, a map that it gathers is keyed, ends with the
environment, has the name of the action and the time, and has each attribute for what its key refers
to. Where answers are waited for and the store has some to the look-ups of the request, there is such a
map at every time of the calendar for a context that can be written. -/
theorem Service.gather_isRepresentative {σ : Type} {service : Service σ} {w : World σ}
    (hw : service.Lives w) (subject action : String) (resource resourceType : Option String)
    (context : List (String × Value)) :
    (∀ m, (service.gather subject action resource resourceType context w).1 = some (.ok m) →
      m.IsRepresentative) ∧
    (w.isHasty = false → w.now.universal?.isSome → Value.HaveStrings context →
      (∀ c ∈ Gathering.calls subject action resource w.now, service.store.Answers w.store c) →
      ∃ m, (service.gather subject action resource resourceType context w).1 = some (.ok m)) := by
  constructor
  · intro m hm
    obtain ⟨w', hyields⟩ := service.yields_of_attempt_eq_some hm
    obtain ⟨stored, hstored, hwhole⟩ := stored_of_gather_yields
      (hw.remembers AttributeMap.coversStored_isStored) AttributeMap.coversStored_isStored hyields
    exact hstored.isRepresentative hwhole
  · exact fun hwaits hnow hcontext hanswers =>
      exists_gather hwaits hanswers hnow resourceType hcontext

namespace Directory

/-- A reader who is known, in a building that closes. -/
def closingLibrary : Directory :=
  (({} : Directory).assignSubject "ann" "clearance" "number" (.int 2)).2.assignEnvironment
    "closing" "string" (.text "soon") {} |>.2

/-- A service that keeps maps for later. -/
def keepingService : Service Directory := service { cache := { enabled := .bool true } }

/-- The world of that service after a first request. -/
def servedOnce : World Directory :=
  (keepingService.gather "ann" "read" none none []
    (Service.begin keepingService.settings rfl closingLibrary readingWorld.now 0.0 false)).2

/-- A context that is meant to get in the way does not. -/
theorem closingLibrary_isRepresentative :
    ∃ m, (keepingService.gather "ann" "read" none (some "book")
        [("subject.clearance", .int 9), ("", .text "empty")] servedOnce).1 = some (.ok m) ∧
      m.IsRepresentative := by
  have hw : keepingService.Lives servedOnce := .gather (.begin ..) ..
  obtain ⟨hrepresentative, hexists⟩ := Service.gather_isRepresentative hw "ann" "read" none
    (some "book") [("subject.clearance", .int 9), ("", .text "empty")]
  obtain ⟨m, hm⟩ := hexists (by decide +kernel) (by decide +kernel)
    (by decide +kernel) fun c _ => answers (by decide +kernel) c
  exact ⟨m, hm, hrepresentative m hm⟩

end Directory

end Clearance
