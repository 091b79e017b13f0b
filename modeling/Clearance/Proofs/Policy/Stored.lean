/-
# Stored conditions

What a database tells of the conditions that it was given: the expected value in string form, and of
a rule's reference the name without its category. On maps that keep each attribute under its own key,
stored conditions come to the same as the given ones. A membership must bring its sequence back from
the string form, and a name that lost its category must not be found in another one.
-/

import Clearance.Policy.Rules
import Clearance.Policy.Targeting
import Clearance.Proofs.Operator
import Clearance.Proofs.Policy.Qualified

namespace Clearance

/-- The name of a reference without its category. -/
def Reference.name : Reference → String
  | qualified _ name => name
  | bare name => name

/-- A rule as a database tells it. -/
def Rule.stored (r : Rule) : Rule where
  reference := r.reference.map fun s => (Reference.ofString s).name
  operator := r.operator
  value := .text r.value.string
  connective := r.connective
  group := r.group

/-- A target as a database tells it. -/
def Target.stored (t : Target) : Target where
  type := t.type
  name := t.name
  operator := t.operator
  value := .text t.value.string

/-- A rule can do without the category of its reference: the name is no qualified reference itself,
and the map has no attribute of that name, as it is or in the stored style, in another category. -/
def Rule.IsUnshadowed (m : AttributeMap) (r : Rule) : Prop :=
  ∀ c name, Reference.ofString (r.reference.getD "") = .qualified c name →
    Reference.ofString name = .bare name ∧
      ∀ a ∈ m.toList, a.name = name ∨ a.name = snakeCase name → a.category = c

variable {m : AttributeMap} {strict : Bool}

/-! ## One condition -/

theorem Outcome.ofComparison_text_string {operator : Option String} {v : Value}
    (hv : v.HasString) (hjoins : Operator.Joins operator v) (a : Attribute) :
    Outcome.ofComparison operator a (.text v.string) = Outcome.ofComparison operator a v := by
  simp only [Outcome.ofComparison]
  cases ho : Operator.parse operator with
  | none => rfl
  | some o =>
      have happly := Operator.apply_text_string (.text a.value) hv (hjoins o ho)
      simp only [happly]

/-- A stored rule refers to the attribute that the given rule refers to. -/
theorem Rule.IsUnshadowed.resolve_stored {r : Rule} (hm : m.IsKeyed) (hr : r.IsUnshadowed m) :
    m.resolve strict r.stored.reference = m.resolve strict r.reference := by
  cases href : r.reference with
  | none =>
      simp only [Rule.stored, href]
      rfl
  | some s =>
      simp only [Rule.stored, href, Option.map_some]
      cases hs : Reference.ofString s with
      | bare name =>
          have hname : name = s := eq_of_ofString_bare hs
          rw [Reference.name, hname]
      | qualified category name =>
          obtain ⟨c, rfl⟩ := category_of_ofString hs
          obtain ⟨hbare, honly⟩ := hr c.name name (by rw [href]; exact hs)
          exact hm.resolve_bare hs hbare honly strict

/-- The stored form of a rule has the outcome of the given one. -/
theorem Rule.outcome_stored {r : Rule} (hm : m.IsKeyed) (hr : r.IsUnshadowed m)
    (hvalue : r.value.HasString) (hjoins : Operator.Joins r.operator r.value) :
    r.stored.outcome strict m = r.outcome strict m := by
  simp only [Rule.outcome]
  rw [hr.resolve_stored hm]
  cases m.resolve strict r.reference with
  | missing => rfl
  | ambiguous name categories => rfl
  | found a => exact Outcome.ofComparison_text_string hvalue hjoins a

/-- The stored form of a target has the outcome of the given one. -/
theorem Target.outcome_stored {t : Target} (hvalue : t.value.HasString)
    (hjoins : Operator.Joins t.operator t.value) (m : AttributeMap) : t.stored.outcome m = t.outcome m := by
  have hcomparison : ∀ a, Outcome.ofComparison t.stored.operator a t.stored.value =
      Outcome.ofComparison t.operator a t.value :=
    Outcome.ofComparison_text_string hvalue hjoins
  simp only [Target.outcome, hcomparison]
  rfl

/-! ## All conditions of a policy -/

theorem verdicts_map {α β : Type} (f : β → α) (judge : α → Except Fault Bool) (members : List β) :
    verdicts judge (members.map f) = verdicts (fun b => judge (f b)) members := by
  induction members with
  | nil => rfl
  | cons b rest ih => rw [List.map_cons, verdicts, verdicts, ih]

/-- Stored targets hold if the given ones do, with the same faults. -/
theorem targetsHold_stored {targets : List Target}
    (htargets : ∀ t ∈ targets, t.value.HasString ∧ Operator.Joins t.operator t.value)
    (m : AttributeMap) :
    targetsHold (targets.map Target.stored) m = targetsHold targets m := by
  have hverdicts : ∀ t ∈ targets, (t.stored.outcome m).verdict = (t.outcome m).verdict :=
    fun t ht => congrArg Outcome.verdict (Target.outcome_stored (htargets t ht).1 (htargets t ht).2 m)
  simp only [targetsHold]
  rw [verdicts_map, verdicts_congr hverdicts]

theorem groupHolds_stored {rules : List Rule}
    (hrules : ∀ r ∈ rules, r.stored.outcome strict m = r.outcome strict m) :
    groupHolds strict m (rules.map Rule.stored) = groupHolds strict m rules := by
  have hverdicts : ∀ r ∈ rules,
      (r.stored.outcome strict m).verdict = (r.outcome strict m).verdict :=
    fun r hr => congrArg Outcome.verdict (hrules r hr)
  have hjoints : (rules.map Rule.stored).map Rule.joint = rules.map Rule.joint := by
    rw [List.map_map]
    rfl
  simp only [groupHolds]
  rw [verdicts_map, verdicts_congr hverdicts, hjoints]

/-- Stored rules fall into the same groups. -/
theorem ruleGroups_stored (rules : List Rule) :
    ruleGroups (rules.map Rule.stored) =
      (ruleGroups rules).map fun g => (g.1, g.2.map Rule.stored) :=
  Ordered.groupBy_map Rule.stored Rule.groupId rules

/-- Stored rules hold if the given ones do, with the same faults. -/
theorem rulesHold_stored {rules : List Rule} (hm : m.IsKeyed)
    (hrules : ∀ r ∈ rules,
      r.IsUnshadowed m ∧ r.value.HasString ∧ Operator.Joins r.operator r.value) :
    rulesHold strict m (rules.map Rule.stored) = rulesHold strict m rules := by
  have hgroups : ∀ g ∈ ruleGroups rules,
      groupHolds strict m (g.2.map Rule.stored) = groupHolds strict m g.2 := by
    intro g hg
    apply groupHolds_stored
    intro r hr
    obtain ⟨hreference, hvalue, hjoins⟩ := hrules r (Ordered.mem_of_mem_groupBy hg hr)
    exact Rule.outcome_stored hm hreference hvalue hjoins
  simp only [rulesHold]
  rw [ruleGroups_stored, verdicts_map, verdicts_congr hgroups]

end Clearance
