/-
# What is loaded from a directory

As long as none of its calls fails, a directory answers out of its content, and answering changes the
content in nothing. So the policies that are loaded are those that stand in the directory: they are
active, they have conditions, and they come by descending priority with ties in the order of the
directory. The rules and targets that are looked up again for each of them are its own.
-/

import Clearance.Policy.Loading
import Clearance.Proofs.Directory.Keyed
import Clearance.Proofs.Policy.Order
import Clearance.Proofs.Process.Attempt
import Clearance.Service.Basic

namespace Clearance

namespace Directory

/-- An authorizer over a directory. -/
def service (s : Settings) : Service Directory := ⟨s, store⟩

/-- A directory without the record of its calls. -/
def content (d : Directory) : Directory := { d with calls := [] }

theorem answer_eq_of_content_eq {d d' : Directory} (h : d'.content = d.content) (c : StoreCall) :
    d'.answer c = d.answer c := by
  have hcontent : ∀ d : Directory, d.content.answer c = d.answer c := by
    intro d
    cases c <;> rfl
  rw [← hcontent d', h, hcontent d]

/-- The policies that can decide something: the active ones with conditions. -/
def standing (d : Directory) : List Policy :=
  (Ordered.values d.policies).filter fun p => p.isActive && !p.isEmpty

/-! ## Questions to a world with a directory -/

/-- A directory answers at once, or refuses. -/
theorem handler_ask (c : StoreCall) (w : World Directory) :
    World.handler store (.ask c) w =
      (some (if w.store.failing.contains c.name then .error (.failure (refusal c))
        else .ok (w.store.answer c)),
      { w with store := w.store.enter c.name, trace := w.trace ++ [] }) := by
  show (World.outcome (w.call store c).1, (w.call store c).2) = _
  have hcall : w.call store c =
      (if w.store.failing.contains c.name then .failed (.failure (refusal c))
        else .answered (w.store.answer c),
      { w with store := w.store.enter c.name, trace := w.trace ++ [] }) := rfl
  rw [hcall]
  split <;> rfl

/-- No question changes the content of a directory. -/
theorem handler_content (q : Question) (w : World Directory) :
    (World.handler store q w).2.store.content = w.store.content := by
  cases q with
  | time => rfl
  | remember key m => rfl
  | note entries => rfl
  | ask c => rfl
  | lookUp key =>
      simp only [World.handler]
      split <;> rfl
  | askWithin limit c =>
      simp only [World.handler]
      split
      · rfl
      · simp only [World.expire]
        split <;> rfl
  | submit record =>
      simp only [World.handler]
      split <;> rfl
  | announce subject facts =>
      simp only [World.handler]
      split
      · rfl
      · simp only [World.report]
        split <;> rfl
  | reject policy problems =>
      simp only [World.handler, World.report]
      split
      · rfl
      · split <;> rfl

/-- No process changes the content of a directory. -/
theorem run_content {α : Type} (p : Process α) (w : World Directory) :
    (p.run (World.handler store) w).2.store.content = w.store.content := by
  induction p generalizing w with
  | done a => rfl
  | wait q next ih =>
      have hq := handler_content q w
      simp only [Process.run]
      rcases hw : World.handler store q w with ⟨_ | answer, w'⟩
      · rw [hw] at hq
        exact hq
      · rw [hw] at hq
        exact (ih answer w').trans hq

/-- No call fails in a directory where none is made to fail. -/
theorem unfailing_of_failing_eq_nil {α : Type} (p : Process α) {w : World Directory}
    (h : w.store.failing = []) : Process.Unfailing (World.handler store) p w := by
  induction p generalizing w with
  | done a =>
      intro call fault hx
      cases hx
  | wait q next ih =>
      intro call fault hx
      have hcontent := handler_content q w
      rw [Process.exchanges] at hx
      rcases hw : World.handler store q w with ⟨_ | answer, w'⟩
      · rw [hw] at hx
        cases hx
      · rw [hw] at hx hcontent
        have hfailing : w'.store.failing = [] := (congrArg failing hcontent).trans h
        rcases List.mem_cons.mp hx with hhead | hx
        · cases hhead
          rw [handler_ask, h] at hw
          cases hw
        · exact ih answer hfailing call fault hx

theorem yields_content {α : Type} {p : Attempt α} {w w' : World Directory} {a : α}
    (h : p.Yields (World.handler store) w a w') : w'.store.content = w.store.content := by
  have hcontent := run_content p.run w
  simp only [Attempt.Yields] at h
  rw [h] at hcontent
  exact hcontent

/-! ## Attempts that a directory serves -/

/-- An attempt comes to a value in every world with a directory of some content, as long as no call
fails. -/
def Serves {α : Type} (d : Directory) (p : Attempt α) (a : α) : Prop :=
  ∀ w : World Directory, w.store.content = d.content →
    Process.Unfailing (World.handler store) p.run w →
    ∃ w', p.Yields (World.handler store) w a w'

namespace Serves

variable {α β : Type} {d : Directory}

theorem pure (a : α) : d.Serves (Pure.pure a : Attempt α) a := fun w _ _ => ⟨w, .pure a w⟩

theorem bind {p : Attempt α} {f : α → Attempt β} {a : α} {b : β} (hp : d.Serves p a)
    (hf : d.Serves (f a) b) : d.Serves (p >>= f) b := by
  intro w hw hcalls
  obtain ⟨w₁, hfirst⟩ := hp w hw (Attempt.unfailing_left hcalls)
  have hw₁ : w₁.store.content = d.content := (yields_content hfirst).trans hw
  obtain ⟨w₂, hsecond⟩ := hf w₁ hw₁ (hfirst.unfailing_right hcalls)
  exact ⟨w₂, hfirst.bind hsecond⟩

theorem framed {p : Attempt α} {a : α} (hp : d.Serves p a) (frame : String → Failure) :
    d.Serves (p.framed frame) a := by
  intro w hw hcalls
  rw [Attempt.run_framed_eq] at hcalls
  obtain ⟨w', hyields⟩ := hp w hw hcalls.left
  exact ⟨w', hyields.framed frame⟩

theorem call (c : StoreCall) : d.Serves (Attempt.call c) (d.answer c) := by
  intro w hw hcalls
  have hask := handler_ask c w
  by_cases hfailing : w.store.failing.contains c.name
  · rw [if_pos hfailing] at hask
    refine absurd ?_ (hcalls c (.failure (refusal c)))
    show _ ∈ Process.exchanges (World.handler store) (.wait (.ask c) .done) w
    rw [Process.exchanges, hask]
    exact List.mem_cons_self
  · rw [if_neg hfailing, answer_eq_of_content_eq hw] at hask
    refine ⟨(World.handler store (.ask c) w).2, ?_⟩
    show Process.run (World.handler store) (.wait (.ask c) .done) w = _
    rw [Process.run, hask]
    rfl

theorem note (entry : TraceEntry) : d.Serves (Attempt.note entry) () := fun _ _ _ =>
  ⟨_, .pose rfl⟩

end Serves

/-! ## Loading -/

/-- A policy with the conditions that the directory holds for its identifier. -/
def attached (d : Directory) (p : Policy) : Policy :=
  { p with rules := d.answer (.rules p.id), targets := d.answer (.targets p.id) }

theorem attach_serves (d : Directory) (p : Policy) : d.Serves (Loading.attach p) (d.attached p) :=
  ((Serves.call (.rules p.id)).bind ((Serves.call (.targets p.id)).bind (.pure (d.attached p)))).framed _

/-- Of the candidates, the active ones are selected that turn out to have conditions. -/
theorem select_serves (d : Directory) (candidates : List Policy) :
    d.Serves (Loading.select false candidates)
      (((candidates.filter Policy.isActive).map d.attached).filter fun p => !p.isEmpty) := by
  induction candidates with
  | nil => exact .pure []
  | cons p rest ih =>
      rw [Loading.select]
      by_cases hactive : p.isActive
      · rw [List.filter_cons_of_pos hactive, List.map_cons]
        simp only [hactive, Bool.not_true, Bool.false_eq_true, if_false]
        refine (d.attach_serves p).bind ?_
        by_cases hempty : (d.attached p).isEmpty
        · rw [List.filter_cons_of_neg (by simp [hempty]), if_pos hempty]
          exact (Serves.note _).bind ih
        · rw [List.filter_cons_of_pos (by simp [hempty]), if_neg hempty]
          exact ih.bind (.pure (d.attached p :: _))
      · rw [List.filter_cons_of_neg hactive]
        simp only [hactive, Bool.not_false, if_true]
        exact ih

/-- In a keyed directory, looking the conditions of a policy up gives back the policy. -/
theorem IsKeyed.attached_bare {d : Directory} (hd : d.IsKeyed) {p : Policy}
    (hp : p ∈ Ordered.values d.policies) :
    d.attached { p with rules := [], targets := [] } = p := by
  simp only [attached, answer, hd.get?_id hp, Option.map_some, Option.getD_some]

/-- The active policies of a keyed directory get back the conditions that they come without. -/
theorem IsKeyed.map_attached_activePolicies {d : Directory} (hd : d.IsKeyed) :
    (d.activePolicies.filter Policy.isActive).map d.attached =
      ((Ordered.values d.policies).filter Policy.isActive).mergeSort
        fun p q => q.priority ≤ p.priority := by
  have hmem : ∀ p ∈ ((Ordered.values d.policies).filter Policy.isActive).mergeSort
      (fun p q => q.priority ≤ p.priority), p ∈ Ordered.values d.policies ∧ p.isActive := by
    intro p hp
    rw [List.mem_mergeSort] at hp
    exact List.mem_filter.mp hp
  simp only [activePolicies]
  rw [List.filter_map, List.map_map]
  have hall : (((Ordered.values d.policies).filter Policy.isActive).mergeSort
      fun p q => q.priority ≤ p.priority).filter
        (Policy.isActive ∘ fun p => { p with rules := [], targets := [] }) =
      ((Ordered.values d.policies).filter Policy.isActive).mergeSort
        fun p q => q.priority ≤ p.priority :=
    List.filter_eq_self.mpr fun p hp => (hmem p hp).2
  rw [hall]
  exact (List.map_congr_left fun p hp => hd.attached_bare (hmem p hp).1).trans (List.map_id _)

/-- From a keyed directory, the standing policies are loaded in the order of their priorities. -/
theorem IsKeyed.load_serves {d : Directory} (hd : d.IsKeyed) {ps : List Policy}
    (hps : IsRankingOf Policy.priority d.standing ps) : d.Serves (load false) ps := by
  have hloaded : ps = ((d.activePolicies.filter Policy.isActive).map d.attached).filter
      fun p => !p.isEmpty := by
    rw [hd.map_attached_activePolicies]
    apply hps.unique
    have hranked := (isRankingOf_mergeSort Policy.priority
      ((Ordered.values d.policies).filter Policy.isActive)).filter fun p => !p.isEmpty
    rw [List.filter_filter] at hranked
    have hstanding : d.standing = (Ordered.values d.policies).filter
        fun p => !p.isEmpty && p.isActive := by
      simp only [standing]
      congr 1
      funext p
      exact Bool.and_comm _ _
    rw [hstanding]
    exact hranked
  rw [hloaded]
  exact ((Serves.call .activePolicies).framed _).bind
    ((d.select_serves _).bind ((Serves.note _).bind (.pure _)))

/-! ## A directory to try things on -/

/-- Two policies of one priority that apply to reading, and a third without conditions. -/
def readingRoom : Directory :=
  (((({} : Directory).putPolicy {
    id := "1", name := "readers", effect := .permit, priority := 5
    rules := [{ reference := some "action.action_name", operator := some "equals"
                value := .text "read" }] }).putPolicy {
    id := "2", name := "closed", effect := .deny, priority := 5
    targets := [{ type := some "action", name := some "action_name", operator := some "equals"
                  value := .text "read" }] }).putPolicy {
    id := "3", name := "empty", effect := .deny, priority := 9 })

/-- A world in which that directory is asked. -/
def readingWorld : World Directory where
  store := readingRoom
  now := ⟨⟨2024, 1, 15⟩, 9, 30, 0, 0, none⟩
  seconds := 0.0

/-- The attributes that are gathered there for a request to read. -/
def readingMap : AttributeMap :=
  (({} : AttributeMap).addAction "read").addTime "2024-01-15T09:30:00.000Z" "1"

end Directory

end Clearance
