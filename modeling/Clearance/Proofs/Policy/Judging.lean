/-
# What judging comes to

Judging is described without faults: a policy applies when all its targets hold, and it decides
something when its rules hold too. As long as no comparison fails, judging yields exactly the
evaluations of the policies that apply, in order. When the policies are given in the order of their
priorities and no two share an identifier, the first one that decides something wins.
-/

import Clearance.Authorization.Judging
import Clearance.Proofs.Policy.Ranking
import Mathlib.Data.List.Nodup

namespace Clearance

/-- Whether a verdict was reached and is positive. -/
def isTrue : Except Fault Bool → Bool
  | .ok holds => holds
  | .error _ => false

/-- Whether a target holds on a map. -/
def Target.holds (t : Target) (m : AttributeMap) : Bool := isTrue (t.outcome m).verdict

/-- Whether all targets of a policy hold on a map. -/
def Policy.applies (p : Policy) (m : AttributeMap) : Bool := p.targets.all (·.holds m)

/-- Whether the rules of a policy evaluate to truth on a map. -/
def Policy.holds (p : Policy) (strict : Bool) (m : AttributeMap) : Bool :=
  isTrue (rulesHold strict m p.rules)

/-- The evaluation of a policy that applies. -/
def Policy.evaluation (p : Policy) (strict : Bool) (m : AttributeMap) : Evaluation where
  policyId := p.id
  policyName := p.name
  effect := p.effect
  isMatch := p.holds strict m
  priority := p.priority
  reason := some (ruleReason (p.holds strict m))

/-- The first policy that applies and whose rules hold. -/
def decider (strict : Bool) (m : AttributeMap) (policies : List Policy) : Option Policy :=
  policies.find? fun p => p.applies m && p.holds strict m

/-! ## Verdicts and evaluations -/

theorem ok_of_isOk {α : Type} {outcome : Except Fault α} (h : outcome.isOk = true) :
    ∃ a, outcome = .ok a := by
  cases outcome with
  | ok a => exact ⟨a, rfl⟩
  | error fault => cases h

theorem verdicts_eq_of_ok {α : Type} {judge : α → Except Fault Bool} {members : List α}
    {all : List Bool} (h : verdicts judge members = .ok all) :
    all = members.map fun a => isTrue (judge a) := by
  induction members generalizing all with
  | nil =>
      cases h
      rfl
  | cons a rest ih =>
      simp only [verdicts] at h
      rcases hjudge : judge a with fault | holds
      · rw [hjudge] at h
        cases h
      · rcases hrest : verdicts judge rest with fault | more
        · rw [hjudge, hrest] at h
          cases h
        · rw [hjudge, hrest] at h
          cases h
          rw [ih hrest, List.map_cons, hjudge]
          rfl

theorem targetsHold_eq_of_ok {targets : List Target} {m : AttributeMap} {holds : Bool}
    (h : targetsHold targets m = .ok holds) : holds = targets.all (·.holds m) := by
  simp only [targetsHold] at h
  rcases hall : verdicts (fun t : Target => (t.outcome m).verdict) targets with fault | all
  · rw [hall] at h
    cases h
  · rw [hall] at h
    cases h
    rw [verdicts_eq_of_ok hall]
    exact List.all_map

/-- A policy that is evaluated without a fault has an evaluation exactly when it applies. -/
theorem Policy.evaluate_eq_of_ok {p : Policy} {strict : Bool} {m : AttributeMap}
    {e : Option Evaluation} (h : p.evaluate strict m = .ok e) :
    e = if p.applies m then some (p.evaluation strict m) else none := by
  simp only [Policy.evaluate] at h
  rcases htargets : targetsHold p.targets m with fault | applies
  · rw [htargets] at h
    cases h
  · have happlies : applies = p.applies m := targetsHold_eq_of_ok htargets
    rw [htargets] at h
    cases applies with
    | false =>
        cases h
        rw [← happlies]
        rfl
    | true =>
        rcases hrules : rulesHold strict m p.rules with fault | holds
        · rw [hrules] at h
          cases h
        · rw [hrules] at h
          cases h
          rw [← happlies, if_pos rfl, Policy.evaluation, Policy.holds, hrules]
          rfl

/-- Judging without a fault yields the evaluations of the policies that apply, in order. -/
theorem judge_eq_of_evaluate_ok {strict : Bool} {m : AttributeMap} {policies : List Policy}
    (h : ∀ p ∈ policies, ∃ e, p.evaluate strict m = .ok e) :
    judge strict m policies =
      .ok ((policies.filter (·.applies m)).map (·.evaluation strict m)) := by
  induction policies with
  | nil => rfl
  | cons p rest ih =>
      obtain ⟨e, he⟩ := h p List.mem_cons_self
      have hrest := ih fun q hq => h q (List.mem_cons_of_mem p hq)
      have hshape := Policy.evaluate_eq_of_ok he
      rw [judge, he]
      by_cases happlies : p.applies m
      · have hfilter : (p :: rest).filter (·.applies m) = p :: rest.filter (·.applies m) :=
          List.filter_cons_of_pos happlies
        rw [if_pos happlies] at hshape
        rw [hshape, hrest, hfilter, List.map_cons]
        rfl
      · have hfilter : (p :: rest).filter (·.applies m) = rest.filter (·.applies m) :=
          List.filter_cons_of_neg happlies
        rw [if_neg happlies] at hshape
        rw [hshape, hfilter]
        exact hrest

theorem rule_eq_of_evaluate_ok {strict : Bool} {m : AttributeMap} {policies : List Policy}
    (h : ∀ p ∈ policies, ∃ e, p.evaluate strict m = .ok e) :
    rule strict m policies =
      .ok (resolve ((policies.filter (·.applies m)).map (·.evaluation strict m)) policies,
        (policies.filter (·.applies m)).map (·.evaluation strict m)) := by
  rw [rule, judge_eq_of_evaluate_ok h]
  rfl

/-! ## Ranks -/

/-- The rank of an evaluation is the priority of its policy when identifiers are not shared. -/
theorem Policy.rank_evaluation {policies : List Policy} {p : Policy} (strict : Bool)
    (m : AttributeMap) (hids : (policies.map Policy.id).Nodup) (hp : p ∈ policies) :
    (p.evaluation strict m).rank policies = p.priority := by
  rw [Evaluation.rank_eq_effectivePriority, Evaluation.effectivePriority]
  cases hfind : policies.reverse.find? fun q => q.id = (p.evaluation strict m).policyId with
  | none =>
      have hother := List.find?_eq_none.mp hfind p (List.mem_reverse.mpr hp)
      exact absurd (decide_eq_true rfl) hother
  | some q =>
      have hid : q.id = (p.evaluation strict m).policyId := by simpa using List.find?_some hfind
      have hq : q ∈ policies := List.mem_reverse.mp (List.mem_of_find?_eq_some hfind)
      obtain rfl : q = p := List.inj_on_of_nodup_map hids hq hp hid
      rfl

theorem highest_eq_head? {rank : Evaluation → Int} {evaluations : List Evaluation}
    (h : evaluations.Pairwise fun e e' => rank e' ≤ rank e) :
    highest rank evaluations = evaluations.head? := by
  have hranked : IsRankingOf rank evaluations evaluations := ⟨h, fun _ => rfl⟩
  exact hranked.head?_eq_highest.symm

/-! ## Rulings -/

/-- Evaluations always come to a decision. -/
theorem resolve_ne_indeterminate (evaluations : List Evaluation) (policies : List Policy) :
    (resolve evaluations policies).decision ≠ .indeterminate := by
  intro h
  simp only [resolve] at h
  split at h
  next => cases h
  next =>
    split at h
    next => cases h
    next winner _ =>
      cases heffect : winner.effect with
      | permit =>
          rw [heffect] at h
          cases h
      | deny =>
          rw [heffect] at h
          cases h

theorem isEmpty_evaluations (strict : Bool) (m : AttributeMap) (policies : List Policy) :
    ((policies.filter (·.applies m)).map (·.evaluation strict m)).isEmpty =
      !policies.any (·.applies m) := by
  rw [List.isEmpty_map]
  induction policies with
  | nil => rfl
  | cons p rest ih =>
      rw [List.filter_cons, List.any_cons]
      cases p.applies m with
      | true => rfl
      | false => simpa using ih

/-- A policy that decides something applies. -/
theorem any_applies_of_decider {strict : Bool} {m : AttributeMap} {policies : List Policy}
    {p : Policy} (h : decider strict m policies = some p) : policies.any (·.applies m) = true := by
  have hp := List.find?_some h
  rw [Bool.and_eq_true] at hp
  exact List.any_eq_true.mpr ⟨p, List.mem_of_find?_eq_some h, hp.1⟩

/-- Of policies in the order of their priorities, the first one that decides something has the
highest evaluation. -/
theorem highest_evaluations {strict : Bool} {m : AttributeMap} {policies : List Policy}
    (hids : (policies.map Policy.id).Nodup)
    (hdesc : policies.Pairwise fun p q => q.priority ≤ p.priority) :
    highest (Evaluation.rank policies)
        (((policies.filter (·.applies m)).map (·.evaluation strict m)).filter
          Evaluation.isMatch) =
      (decider strict m policies).map (·.evaluation strict m) := by
  have hmatching : ((policies.filter (·.applies m)).map (·.evaluation strict m)).filter
      Evaluation.isMatch =
        (policies.filter fun p => p.applies m && p.holds strict m).map
          (·.evaluation strict m) := by
    rw [List.filter_map, List.filter_filter]
    congr 2
    funext p
    exact Bool.and_comm _ _
  have hranked : ((policies.filter fun p => p.applies m && p.holds strict m).map
      (·.evaluation strict m)).Pairwise
        fun e e' => e'.rank policies ≤ e.rank policies := by
    rw [List.pairwise_map]
    refine (hdesc.filter _).imp_of_mem ?_
    intro p q hp hq hle
    rw [Policy.rank_evaluation strict m hids (List.mem_filter.mp hp).1,
      Policy.rank_evaluation strict m hids (List.mem_filter.mp hq).1]
    exact hle
  rw [hmatching, highest_eq_head? hranked, List.head?_map, List.head?_filter]
  rfl

/-- The ruling on policies in the order of their priorities: the first one that decides something
wins. -/
theorem resolve_evaluations {strict : Bool} {m : AttributeMap} {policies : List Policy}
    (hids : (policies.map Policy.id).Nodup)
    (hdesc : policies.Pairwise fun p q => q.priority ≤ p.priority) :
    resolve ((policies.filter (·.applies m)).map (·.evaluation strict m)) policies =
      match decider strict m policies with
      | some p => ⟨p.effect.decision, (p.evaluation strict m).reasonText⟩
      | none =>
        if policies.any (·.applies m) then ⟨.deny, "No matching policies found"⟩
        else ⟨.notApplicable, "No applicable policies found"⟩ := by
  simp only [resolve]
  rw [highest_evaluations hids hdesc, isEmpty_evaluations]
  cases hdecider : decider strict m policies with
  | some p =>
      rw [any_applies_of_decider hdecider]
      rfl
  | none => cases policies.any (·.applies m) <;> rfl

end Clearance
