/-
# What a valid policy is spared

A policy without problems is one whose operators and connectives are all known and whose conditions
all name an attribute. Validation reads operators and connectives as evaluation does, and looks at
every target and every rule. So no evaluation of a valid policy, on whatever map, meets an operator or
a connective that is not known.
-/

import Clearance.Policy.Rules
import Clearance.Policy.Targeting
import Clearance.Policy.Validation

namespace Clearance

/-! ## Problems -/

/-- The operator of a target is known, and it names an attribute. -/
structure Target.IsValid (t : Target) : Prop where
  operator : ∃ o, Operator.parse t.operator = some o
  name : Text.isMissing t.name = false

/-- The operator and the connective of a rule are known, and it names an attribute. -/
structure Rule.IsValid (r : Rule) : Prop where
  operator : ∃ o, Operator.parse r.operator = some o
  connective : ∃ c, Connective.parse r.connective = some c
  name : Text.isMissing r.reference = false

theorem operatorProblems_eq_nil_iff {label : String} {operator : Option String} :
    operatorProblems label operator = [] ↔ ∃ o, Operator.parse operator = some o := by
  rw [operatorProblems]
  cases Operator.parse operator <;> simp

theorem nameProblems_eq_nil_iff {label : String} {name : Option String} :
    nameProblems label name = [] ↔ Text.isMissing name = false := by
  rw [nameProblems]
  cases Text.isMissing name <;> simp

theorem Target.problems_eq_nil_iff {t : Target} (index : Nat) :
    t.problems index = [] ↔ t.IsValid := by
  simp only [problems, List.append_eq_nil_iff, operatorProblems_eq_nil_iff, nameProblems_eq_nil_iff]
  exact ⟨fun ⟨hoperator, hname⟩ => ⟨hoperator, hname⟩, fun h => ⟨h.operator, h.name⟩⟩

theorem Rule.problems_eq_nil_iff {r : Rule} (index : Nat) : r.problems index = [] ↔ r.IsValid := by
  simp only [problems, List.append_eq_nil_iff, operatorProblems_eq_nil_iff, nameProblems_eq_nil_iff]
  constructor
  · rintro ⟨⟨hoperator, hconnective⟩, hname⟩
    refine ⟨hoperator, ?_, hname⟩
    cases hparse : Connective.parse r.connective with
    | none =>
        rw [hparse] at hconnective
        cases hconnective
    | some c => exact ⟨c, rfl⟩
  · rintro ⟨hoperator, ⟨c, hparse⟩, hname⟩
    rw [hparse]
    exact ⟨⟨hoperator, rfl⟩, hname⟩

/-- What is asked of numbered members is asked of each member. -/
theorem forall_mem_numbered {α : Type} {members : List α} {holds : α → Prop} :
    (∀ x ∈ numbered members, holds x.2) ↔ ∀ a ∈ members, holds a := by
  have hmembers : (numbered members).map (·.2) = members := by
    rw [numbered, List.map_map]
    exact List.zipIdx_map_fst 0 members
  have hmap : (∀ a ∈ (numbered members).map (·.2), holds a) ↔ ∀ x ∈ numbered members, holds x.2 :=
    List.forall_mem_map
  rw [← hmap, hmembers]

/-- A policy has no problems exactly if all its targets and all its rules are valid. -/
theorem Policy.problems_eq_nil_iff {p : Policy} :
    p.problems = [] ↔ (∀ t ∈ p.targets, t.IsValid) ∧ ∀ r ∈ p.rules, r.IsValid := by
  simp only [problems, List.append_eq_nil_iff, List.flatMap_eq_nil_iff, Target.problems_eq_nil_iff,
    Rule.problems_eq_nil_iff]
  exact and_congr forall_mem_numbered forall_mem_numbered

/-! ## Evaluations -/

/-- On whatever map the conditions of a policy are evaluated, all operators and connectives are
known. -/
structure Policy.IsUnderstood (p : Policy) : Prop where
  targets : ∀ t ∈ p.targets, ∀ m, t.outcome m ≠ .unknownOperator
  rules : ∀ r ∈ p.rules, ∀ strict m, r.outcome strict m ≠ .unknownOperator
  connectives : ∀ r ∈ p.rules, Connective.parse r.connective ≠ none

theorem Outcome.ofComparison_ne_unknownOperator {operator : Option String}
    (h : ∃ o, Operator.parse operator = some o) (a : Attribute) (expected : Value) :
    ofComparison operator a expected ≠ .unknownOperator := by
  obtain ⟨o, ho⟩ := h
  simp only [ofComparison, ho]
  cases o.apply (.text a.value) expected <;> exact Outcome.noConfusion

theorem Target.IsValid.outcome_ne {t : Target} (h : t.IsValid) (m : AttributeMap) :
    t.outcome m ≠ .unknownOperator := by
  rw [Target.outcome]
  cases t.name with
  | some name =>
      dsimp only
      cases m.findQualified t.type name with
      | some a => exact Outcome.ofComparison_ne_unknownOperator h.operator a t.value
      | none => exact Outcome.noConfusion
  | none =>
      dsimp only
      cases m.get? (attributeKey (normalizeCategory t.type) "None") with
      | some a => exact Outcome.ofComparison_ne_unknownOperator h.operator a t.value
      | none => exact Outcome.noConfusion

theorem Rule.IsValid.outcome_ne {r : Rule} (h : r.IsValid) (strict : Bool) (m : AttributeMap) :
    r.outcome strict m ≠ .unknownOperator := by
  rw [Rule.outcome]
  cases m.resolve strict r.reference with
  | missing => exact Outcome.noConfusion
  | ambiguous name categories => exact Outcome.noConfusion
  | found a => exact Outcome.ofComparison_ne_unknownOperator h.operator a r.value

/-- A policy without problems is understood wherever it is evaluated. -/
theorem Policy.isUnderstood_of_problems_eq_nil {p : Policy} (h : p.problems = []) :
    p.IsUnderstood := by
  obtain ⟨htargets, hrules⟩ := Policy.problems_eq_nil_iff.mp h
  constructor
  · intro t ht
    exact (htargets t ht).outcome_ne
  · intro r hr
    exact (hrules r hr).outcome_ne
  · intro r hr
    obtain ⟨c, hc⟩ := (hrules r hr).connective
    rw [hc]
    exact Option.some_ne_none c

end Clearance
