/-
# What is private to a request

The context of a request and the type of its resource are written over what is stored, and never get
into the cache. So two runs of traffic that differ only in them go side by side: all the time the caches
are the same, and a request that is the same in both runs comes to the same map.
-/

import Clearance.Proofs.Attribute.Gathering
import Clearance.Proofs.Directory.Loading
import Clearance.Proofs.Service.Likeness
import Clearance.Proofs.Service.Traffic
import Mathlib.Data.List.Forall2

namespace Clearance

open Attempt

/-! ## Twins -/

/-- A process has nothing left to do but to take notes. -/
def Process.IsOver {α : Type} (p : Process α) : Prop :=
  ∃ a, p.EndsIn (fun q => ∃ entries, q = .note entries) a

theorem Process.IsOver.done {α : Type} (a : α) : (Process.done a).IsOver := ⟨a, .done a⟩

/-- What is left to be noted changes nothing that matters to other requests. -/
theorem Process.IsOver.step {α σ : Type} {p : Process α} (hp : p.IsOver) (store : Store σ)
    (w : World σ) :
    (p.step (World.handler store) w).1.IsOver ∧
      (p.step (World.handler store) w).2.silent = w.silent := by
  obtain ⟨a, hends⟩ := hp
  cases hends with
  | done h => exact ⟨.done _, rfl⟩
  | wait hq hnext =>
      obtain ⟨entries, rfl⟩ := hq
      exact ⟨⟨a, hnext () trivial⟩, rfl⟩

namespace Gathering

/-- Two requests are the same but for the context and the type of the resource. -/
structure Inquiry.IsTwin (q q' : Inquiry) : Prop where
  subject : q.subject = q'.subject
  action : q.action = q'.action
  resource : q.resource = q'.resource

theorem Inquiry.IsTwin.refl (q : Inquiry) : q.IsTwin q := ⟨rfl, rfl, rfl⟩

/-- Two processes of requests ask the same questions until both are over. One of them may end in a fault
where the other one has still to note that it is over. -/
abbrev InStep (p p' : Process (Except Fault AttributeMap)) : Prop :=
  Process.Alongside (fun _ _ => True) (fun q q' => q.IsOver ∧ q'.IsOver) p p'

theorem InStep.refl (p : Process (Except Fault AttributeMap)) : InStep p p := by
  have hmeet : Process.Alongside (fun _ _ => True) (Process.Meet Eq) p p := .refl (fun _ => rfl) p
  refine hmeet.mono fun q q' h => ?_
  cases h with
  | intro h => exact ⟨.done _, .done _⟩

/-- Once the stored part of a map is there, a request is over. -/
theorem isOver_write (outcome : Except Fault AttributeMap) (subject : String) :
    (do
      let m ← (ExceptT.mk (Process.done outcome) : Attempt AttributeMap)
      Attempt.note (entry s!"Gathered {m.size} attributes for subject {subject}")
      return m).run.IsOver := by
  cases outcome with
  | error fault => exact .done _
  | ok m => exact ⟨.ok m, .wait ⟨_, rfl⟩ fun _ => .done _⟩

/-- Twins are gathered for in the same way. -/
theorem Inquiry.IsTwin.inStep {q q' : Inquiry} (h : q.IsTwin q') (roleOverrides : Bool) :
    InStep (q.process roleOverrides) (q'.process roleOverrides) := by
  simp only [process]
  rw [h.subject, h.action, h.resource]
  refine Alongside.bindRun (.refl _) ?_ fun fault => ⟨.done _, .done _⟩
  rintro now _ rfl
  refine Alongside.bindRun (.refl _) ?_ fun fault => ⟨.done _, .done _⟩
  rintro stored _ rfl
  exact .part ⟨isOver_write _ q'.subject, isOver_write _ q'.subject⟩

/-- Two requests under way have been told the same; if they are the same, so is what is left of them. -/
structure Errand.IsTwin (e e' : Errand) : Prop where
  inquiry : e.inquiry.IsTwin e'.inquiry
  rest : InStep e.rest e'.rest
  same : e.inquiry = e'.inquiry → e.rest = e'.rest

theorem Errand.IsTwin.refl (e : Errand) : e.IsTwin e := ⟨.refl _, .refl _, fun _ => rfl⟩

end Gathering

/-- The same happens, or requests begin that are twins. -/
inductive Happening.IsTwin {σ : Type} : Happening σ → Happening σ → Prop
  | begin {q q' : Gathering.Inquiry} (h : q.IsTwin q') : IsTwin (.begin q) (.begin q')
  | refl (happening : Happening σ) : IsTwin happening happening

namespace World

variable {σ : Type}

theorem invalidate_isDeaf (subject resource : Option String) :
    IsDeaf fun w : World σ => Service.invalidate subject resource w := by
  intro w
  simp only [Service.invalidate]
  cases hcache : w.cache <;> simp [silent, hcache, note]

end World

section Lists

variable {α β : Type} {R : α → β → Prop} {l : List α} {l' : List β}

theorem rel_getElem? (h : List.Forall₂ R l l') (n : Nat) : Option.Rel R l[n]? l'[n]? := by
  induction h generalizing n with
  | nil => exact .none
  | cons hab _ ih =>
      cases n with
      | zero => exact .some hab
      | succ n => exact ih n

theorem forall₂_set (h : List.Forall₂ R l l') (n : Nat) {a : α} {b : β} (hab : R a b) :
    List.Forall₂ R (l.set n a) (l'.set n b) := by
  induction h generalizing n with
  | nil => exact .nil
  | cons hhead htail ih =>
      cases n with
      | zero => exact .cons hab htail
      | succ n => exact .cons hhead (ih n)

end Lists

namespace Traffic

variable {σ : Type} {service : Service σ} {t t' : Traffic σ}

/-- Two runs of traffic differ only in what belongs to single requests, and in what was said. -/
structure IsTwin (t t' : Traffic σ) : Prop where
  world : t.world.silent = t'.world.silent
  errands : List.Forall₂ Gathering.Errand.IsTwin t.errands t'.errands

theorem IsTwin.refl (t : Traffic σ) : t.IsTwin t where
  world := rfl
  errands := List.forall₂_same.mpr fun e _ => .refl e

/-- One turn: both requests have the same question answered, in the same way. -/
theorem IsTwin.proceed (h : t.IsTwin t') (turn : Nat) :
    (t.proceed service turn).IsTwin (t'.proceed service turn) := by
  have hturn := rel_getElem? h.errands turn
  simp only [Traffic.proceed]
  cases he : t.errands[turn]? with
  | none =>
      rw [he] at hturn
      cases he' : t'.errands[turn]? with
      | none => exact h
      | some e' =>
          rw [he'] at hturn
          cases hturn
  | some e =>
      rw [he] at hturn
      cases he' : t'.errands[turn]? with
      | none =>
          rw [he'] at hturn
          cases hturn
      | some e' =>
          rw [he'] at hturn
          cases hturn with
          | some htwin =>
              have hagrees := World.agrees_of_silent_eq service.store
              obtain ⟨hrest, hworld⟩ := htwin.rest.step hagrees
                (fun q q' w w' hover hw => by
                  obtain ⟨hnext, hstays⟩ := hover.1.step service.store w
                  obtain ⟨hnext', hstays'⟩ := hover.2.step service.store w'
                  exact ⟨⟨hnext, hnext'⟩, hstays.trans (hw.trans hstays'.symm)⟩) h.world
              refine ⟨hworld, forall₂_set h.errands turn ⟨htwin.inquiry, hrest, fun hsame => ?_⟩⟩
              -- The same is asked of worlds that answer alike.
              rw [htwin.same hsame]
              exact e'.rest.step_fst_eq hagrees h.world

/-- Twins stay twins when the same happens, or twins begin. -/
theorem IsTwin.after (h : t.IsTwin t') {happening happening' : Happening σ}
    (hh : happening.IsTwin happening') :
    (t.after service happening).IsTwin (t'.after service happening') := by
  cases hh with
  | @begin q q' hq =>
      refine ⟨h.world, List.rel_append h.errands (.cons ?_ .nil)⟩
      exact ⟨hq, hq.inStep _, fun hsame => congrArg (Gathering.Inquiry.process _) hsame⟩
  | refl =>
      cases happening with
      | begin q =>
          exact ⟨h.world, List.rel_append h.errands (.cons ⟨.refl q, .refl _, fun _ => rfl⟩ .nil)⟩
      | proceed turn => exact h.proceed turn
      | invalidate subject resource =>
          exact ⟨((World.invalidate_isDeaf subject resource).eq h.world).2, h.errands⟩
      | change f =>
          exact ⟨congrArg (fun w : World σ => { w with store := f w.store }) h.world, h.errands⟩
      | pass now seconds =>
          exact ⟨congrArg (fun w : World σ => { w with now := now, seconds := seconds }) h.world,
            h.errands⟩

theorem IsTwin.run (h : t.IsTwin t') {happenings happenings' : List (Happening σ)}
    (hh : List.Forall₂ Happening.IsTwin happenings happenings') :
    (t.run service happenings).IsTwin (t'.run service happenings') := by
  induction hh generalizing t t' with
  | nil => exact h
  | cons hhappening _ ih => exact ih (h.after hhappening)

/-- **What belongs to a request stays with it.** Of two runs of traffic that differ only in the
contexts of requests and in the types of their resources, the caches are the same at all times, and a
request that is the same in both is at the same point: it is still under way in both, or has come to the
same map or fault. -/
theorem run_isPrivate (service : Service σ) (t : Traffic σ)
    {happenings happenings' : List (Happening σ)}
    (h : List.Forall₂ Happening.IsTwin happenings happenings') :
    (∀ n, (t.run service (happenings.take n)).world.cache =
      (t.run service (happenings'.take n)).world.cache) ∧
    List.Forall₂
      (fun e e' => e.inquiry.IsTwin e'.inquiry ∧ (e.inquiry = e'.inquiry → e.rest = e'.rest))
      (t.run service happenings).errands (t.run service happenings').errands := by
  constructor
  · intro n
    have hworld : (t.run service (happenings.take n)).world.silent =
        (t.run service (happenings'.take n)).world.silent :=
      ((IsTwin.refl t).run (List.forall₂_take n h)).world
    exact (congrArg World.cache hworld :)
  · exact ((IsTwin.refl t).run h).errands.imp fun e e' htwin => ⟨htwin.inquiry, htwin.same⟩

end Traffic

namespace Directory

/-- Somebody reads in a context, and afterwards reads again without one. The second map is found in
the cache. -/
def readTwice (resourceType : Option String) (context : List (String × Value)) :
    List (Happening Directory) :=
  .begin { subject := "ann", action := "read", resourceType := resourceType, context := context } ::
    List.replicate 8 (.proceed 0) ++
  .begin { subject := "ann", action := "read" } :: List.replicate 4 (.proceed 1)

/-- The reading room with a cache. -/
def cachedRoom : Traffic Directory where
  world := { readingWorld with cache := some { maxSize := .int 2, lifetime := .seconds 60 } }

theorem cachedRoom_isPrivate :
    let first := readTwice (some "document") [("ip", .text "10.0.0.1")]
    let second := readTwice none []
    ((cachedRoom.run (service {}) first).errands.map fun e => e.rest.result?.isSome) =
        [true, true] ∧
      (∀ n, (cachedRoom.run (service {}) (first.take n)).world.cache =
        (cachedRoom.run (service {}) (second.take n)).world.cache) ∧
      List.Forall₂
        (fun e e' => e.inquiry.IsTwin e'.inquiry ∧ (e.inquiry = e'.inquiry → e.rest = e'.rest))
        (cachedRoom.run (service {}) first).errands
        (cachedRoom.run (service {}) second).errands := by
  intro first second
  have htwins : List.Forall₂ Happening.IsTwin first second :=
    .cons (.begin ⟨rfl, rfl, rfl⟩) (List.forall₂_same.mpr fun _ _ => .refl _)
  exact ⟨by decide +kernel, Traffic.run_isPrivate (service {}) cachedRoom htwins⟩

end Directory

end Clearance
