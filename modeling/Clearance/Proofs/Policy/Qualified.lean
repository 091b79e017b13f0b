/-
# Qualified policies

A policy is qualified when none of its conditions is about the environment: each rule refers to a
category by name, each target has a type that stands for one, and that category is the subject, the
resource or the action. On maps that agree outside of the environment, such policies come to the same
ruling, with the same evaluations and the same faults.
-/

import Clearance.Authorization.Judging
import Clearance.Proofs.Attribute.Referring
import Clearance.Proofs.Ordered

namespace Clearance

/-- A rule refers to an attribute of a named category, which is not the environment. -/
def Rule.IsQualified (r : Rule) : Prop :=
  ∃ c name, c ≠ Category.environment ∧
    Reference.ofString (r.reference.getD "") = .qualified c.name name

/-- The type of a target stands for a category, which is not the environment. -/
def Target.IsQualified (t : Target) : Prop :=
  ∃ c, c ≠ Category.environment ∧ normalizeCategory t.type = c.name

/-- All conditions of a policy are qualified. -/
structure Policy.IsQualified (p : Policy) : Prop where
  rules : ∀ r ∈ p.rules, r.IsQualified
  targets : ∀ t ∈ p.targets, t.IsQualified

variable {m m' : AttributeMap} {strict : Bool}

/-! ## Conditions -/

theorem Rule.IsQualified.outcome_eq {r : Rule} (hr : r.IsQualified) (hm : m.Agrees m') :
    r.outcome strict m = r.outcome strict m' := by
  obtain ⟨c, name, hc, href⟩ := hr
  simp only [Rule.outcome, AttributeMap.resolve]
  rw [href]
  simp only [hm.findQualified (normalizeCategory_name c) hc]

theorem Target.IsQualified.outcome_eq {t : Target} (ht : t.IsQualified) (hm : m.Agrees m') :
    t.outcome m = t.outcome m' := by
  obtain ⟨c, hc, htype⟩ := ht
  simp only [Target.outcome]
  cases t.name with
  | some name => simp only [hm.findQualified htype hc]
  | none => simp only [htype, hm c hc]

theorem verdicts_congr {α : Type} {judge judge' : α → Except Fault Bool} {members : List α}
    (h : ∀ a ∈ members, judge a = judge' a) : verdicts judge members = verdicts judge' members := by
  induction members with
  | nil => rfl
  | cons a rest ih =>
      rw [verdicts, verdicts, h a List.mem_cons_self, ih fun b hb => h b (List.mem_cons_of_mem a hb)]

theorem targetsHold_eq_of_agrees {targets : List Target} (htargets : ∀ t ∈ targets, t.IsQualified)
    (hm : m.Agrees m') : targetsHold targets m = targetsHold targets m' := by
  simp only [targetsHold]
  rw [verdicts_congr fun t ht => congrArg Outcome.verdict ((htargets t ht).outcome_eq hm)]

theorem groupHolds_eq_of_outcome_eq {strict' : Bool} {rules : List Rule}
    (h : ∀ r ∈ rules, r.outcome strict m = r.outcome strict' m') :
    groupHolds strict m rules = groupHolds strict' m' rules := by
  simp only [groupHolds]
  rw [verdicts_congr fun r hr => congrArg Outcome.verdict (h r hr)]

/-- Whether rules hold depends on their outcomes only. -/
theorem rulesHold_eq_of_outcome_eq {strict' : Bool} {rules : List Rule}
    (h : ∀ r ∈ rules, r.outcome strict m = r.outcome strict' m') :
    rulesHold strict m rules = rulesHold strict' m' rules := by
  have hgroups : ∀ g ∈ ruleGroups rules, groupHolds strict m g.2 = groupHolds strict' m' g.2 := by
    intro g hg
    apply groupHolds_eq_of_outcome_eq
    intro r hr
    exact h r (Ordered.mem_of_mem_groupBy hg hr)
  simp only [rulesHold]
  rw [verdicts_congr hgroups]

theorem rulesHold_eq_of_agrees {rules : List Rule} (hrules : ∀ r ∈ rules, r.IsQualified)
    (hm : m.Agrees m') : rulesHold strict m rules = rulesHold strict m' rules :=
  rulesHold_eq_of_outcome_eq fun r hr => (hrules r hr).outcome_eq hm

/-! ## Policies -/

theorem Policy.IsQualified.evaluate_eq {p : Policy} (hp : p.IsQualified) (hm : m.Agrees m') :
    p.evaluate strict m = p.evaluate strict m' := by
  simp only [Policy.evaluate]
  rw [targetsHold_eq_of_agrees hp.targets hm, rulesHold_eq_of_agrees hp.rules hm]

theorem judge_eq_of_agrees {policies : List Policy} (hpolicies : ∀ p ∈ policies, p.IsQualified)
    (hm : m.Agrees m') : judge strict m policies = judge strict m' policies := by
  induction policies with
  | nil => rfl
  | cons p rest ih =>
      have hp : p.evaluate strict m = p.evaluate strict m' :=
        (hpolicies p List.mem_cons_self).evaluate_eq hm
      rw [judge, judge, hp, ih fun q hq => hpolicies q (List.mem_cons_of_mem p hq)]

/-- Qualified policies come to the same ruling on maps that agree outside of the environment. -/
theorem rule_eq_of_agrees {policies : List Policy} (hpolicies : ∀ p ∈ policies, p.IsQualified)
    (hm : m.Agrees m') : rule strict m policies = rule strict m' policies := by
  simp only [rule]
  rw [judge_eq_of_agrees hpolicies hm]

end Clearance
