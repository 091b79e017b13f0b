/-
# How policies are loaded

Loading asks the store for the active policies and then for the conditions of one after the other. The
first call that fails ends it. It keeps no map and hands no record in.
-/

import Clearance.Policy.Loading
import Clearance.Proofs.Process.Attempt
import Clearance.Proofs.Service.World

namespace Clearance

open Attempt

/-- A policy with problems is rejected, and then there is a fault. -/
theorem Loading.check_of_parts {holds : ∀ {α : Type}, Attempt α → Prop}
    (hparts : IsCompositional holds)
    (hreject : ∀ policy problems, holds (Attempt.pose (.reject policy problems))) (p : Policy) :
    holds (Loading.check p) := by
  simp only [Loading.check]
  split
  · refine hparts.bind (hreject _ _) fun message => ?_
    cases message with
    | none => exact hparts.ofExcept _
    | some message => exact hparts.ofExcept _
  · exact hparts.pure ()

/-- What is true of the parts of loading, and of sequences by their parts, is true of loading. -/
theorem load_of_parts {holds : ∀ {α : Type}, Attempt α → Prop} (hparts : IsCompositional holds)
    (hnote : ∀ entry, holds (Attempt.note entry)) (hcheck : ∀ p, holds (Loading.check p))
    (hcandidates : holds ((Attempt.call .activePolicies).framed Loading.failure))
    (hattach : ∀ p, holds (Loading.attach p)) (validate : Bool) : holds (load validate) := by
  have hselect : ∀ candidates, holds (Loading.select validate candidates) := by
    intro candidates
    induction candidates with
    | nil => exact hparts.pure []
    | cons p rest ih =>
        rw [Loading.select]
        split
        · exact ih
        · refine hparts.bind (hattach p) fun attached => ?_
          split
          · exact hparts.bind (hnote _) fun _ => ih
          · have hrest : holds (do return attached :: (← Loading.select validate rest)) :=
              hparts.bind ih fun _ => hparts.pure _
            split
            · exact hparts.bind (hcheck attached) fun _ => hrest
            · exact hrest
  exact hparts.bind hcandidates fun candidates => hparts.bind (hselect candidates) fun _ =>
    hparts.bind (hnote _) fun _ => hparts.pure _

/-- Loading keeps nothing and hands nothing in. -/
theorem load_asks (validate : Bool) : Asks Question.isPassive (load validate) := by
  apply load_of_parts (Asks.isCompositional Question.isPassive)
  · exact fun _ => .pose rfl
  · exact Loading.check_of_parts (Asks.isCompositional Question.isPassive) fun _ _ => .pose rfl
  · exact .framed (.call rfl) _
  · intro p
    exact .framed (.bind (.call rfl) fun _ => .bind (.call rfl) fun _ => .pure _) _

/-- The frames of the calls for policies. -/
inductive Loading.IsFrameOf : StoreCall → (String → Failure) → Prop
  | policies : IsFrameOf .activePolicies failure
  | rules (p : Policy) : IsFrameOf (.rules p.id) (conditionFailure p)
  | targets (p : Policy) : IsFrameOf (.targets p.id) (conditionFailure p)

/-- The fault of a call for policies is passed on as a failure to load them. -/
theorem load_failsBy (validate : Bool) :
    FailsBy (PassesIn Loading.IsFrameOf) (load validate).run := by
  apply load_of_parts (FailsBy.isCompositional (PassesIn Loading.IsFrameOf))
  · exact fun _ => .pose nofun
  · exact Loading.check_of_parts (FailsBy.isCompositional (PassesIn Loading.IsFrameOf))
      fun _ _ => .pose nofun
  · have hcall : FailsBy (Passes fun call => call = .activePolicies)
        (Attempt.call .activePolicies).run := .call rfl
    refine hcall.inFrame fun call hcall => ?_
    subst hcall
    exact .policies
  · intro p
    have hconditions : FailsBy (Passes fun call => call = .rules p.id ∨ call = .targets p.id) (do
        let rules ← Attempt.call (.rules p.id)
        let targets ← Attempt.call (.targets p.id)
        return { p with rules := rules, targets := targets } : Attempt Policy).run :=
      .bind (.call (.inl rfl)) fun _ => .bind (.call (.inr rfl)) fun _ => .pure _
    refine hconditions.inFrame fun call hcall => ?_
    rcases hcall with rfl | rfl
    · exact .rules p
    · exact .targets p

end Clearance
