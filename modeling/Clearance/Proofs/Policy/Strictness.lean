/-
# Strict references

In strict mode a bare name that several attributes have stands for none of them; apart from that it
stands for what it does in the other mode. So whatever contributes truth in strict mode does so in the
other mode, and joining keeps this: rules that hold in strict mode hold in the other mode. Where no
bare name stands for several attributes, there is no difference between the modes.
-/

import Clearance.Proofs.Policy.Groups

namespace Clearance

variable {m : AttributeMap} {r : Rule} {rules : List Rule}

/-! ## References -/

/-- What is found in strict mode is found in the other mode. -/
theorem AttributeMap.resolve_of_strict {ref : Option String} {a : Attribute}
    (h : m.resolve true ref = .found a) : m.resolve false ref = .found a := by
  rw [resolve] at h ⊢
  cases hreference : Reference.ofString (ref.getD "") with
  | qualified category name =>
      rw [hreference] at h
      exact h
  | bare name =>
      rw [hreference] at h
      rcases hcandidates : m.candidates name with _ | ⟨first, _ | ⟨second, rest⟩⟩
      · simp only [hcandidates] at h
        cases h
      · simp only [hcandidates] at h ⊢
        exact h
      · simp only [hcandidates] at h
        cases h

/-- If a rule refers to a bare name, there is at most one attribute that the name can stand for. -/
def Rule.IsUnambiguous (m : AttributeMap) (r : Rule) : Prop :=
  ∀ name, Reference.ofString (r.reference.getD "") = .bare name → (m.candidates name).length ≤ 1

/-- Both modes resolve a reference that is not ambiguous in the same way. -/
theorem Rule.IsUnambiguous.resolve_eq (hr : r.IsUnambiguous m) :
    m.resolve true r.reference = m.resolve false r.reference := by
  rw [AttributeMap.resolve, AttributeMap.resolve]
  cases hreference : Reference.ofString (r.reference.getD "") with
  | qualified category name => rfl
  | bare name =>
      have hlength := hr name hreference
      rcases hcandidates : m.candidates name with _ | ⟨first, _ | ⟨second, rest⟩⟩
      · simp only [hcandidates]
      · simp only [hcandidates]
      · rw [hcandidates] at hlength
        simp at hlength

/-! ## Rules -/

theorem Rule.Contributes.of_strict (h : r.Contributes true m) : r.Contributes false m := by
  obtain ⟨a, o, hfound, hparse, hholds⟩ := h
  exact ⟨a, o, AttributeMap.resolve_of_strict hfound, hparse, hholds⟩

/-- Strict mode makes fewer comparisons, so that it cannot bring about a failing one. -/
theorem Rule.IsUnfailing.strict (h : r.IsUnfailing false m) : r.IsUnfailing true m := by
  intro a o fault hfound
  exact h a o fault (AttributeMap.resolve_of_strict hfound)

theorem Rule.IsUnambiguous.outcome_eq (hr : r.IsUnambiguous m) :
    r.outcome true m = r.outcome false m := by
  rw [Rule.outcome, Rule.outcome, hr.resolve_eq]

/-- Groups that are met in strict mode are met in the other mode. -/
theorem GroupsAreMet.of_strict (h : GroupsAreMet true m rules) : GroupsAreMet false m rules := by
  intro g hg
  apply (h g hg).mono
  intro r hcontributes
  exact hcontributes.of_strict

/-- Strict mode only takes matches away: if no comparison fails, the rules have an answer in both
modes, and they hold in the other mode if they hold in strict mode. If no rule refers to a bare name
that several attributes have, both modes give the same answer. -/
theorem rulesHold_of_strict (m : AttributeMap) (rules : List Rule) :
    ((∀ r ∈ rules, r.IsUnfailing false m) →
      ∃ strictly loosely, rulesHold true m rules = .ok strictly ∧
        rulesHold false m rules = .ok loosely ∧ (strictly = true → loosely = true)) ∧
    ((∀ r ∈ rules, r.IsUnambiguous m) → rulesHold true m rules = rulesHold false m rules) := by
  classical
  constructor
  · intro h
    have hstrict : ∀ r ∈ rules, r.IsUnfailing true m := fun r hr => (h r hr).strict
    exists decide (GroupsAreMet true m rules), decide (GroupsAreMet false m rules)
    constructor
    · exact (rulesHold_eq_ok_iff hstrict).mpr decide_eq_true_iff
    constructor
    · exact (rulesHold_eq_ok_iff h).mpr decide_eq_true_iff
    · simp only [decide_eq_true_iff]
      exact GroupsAreMet.of_strict
  · intro h
    apply rulesHold_eq_of_outcome_eq
    intro r hr
    exact (h r hr).outcome_eq

/-! ## One name in two categories -/

/-- A clerk of the sales department asks for a contract of the legal department. -/
def clerkAtContract : AttributeMap where
  entries := [("subject.department", ⟨"1", "department", "string", "subject", "sales"⟩),
    ("resource.department", ⟨"2", "department", "string", "resource", "legal"⟩),
    ("subject.clearance", ⟨"3", "clearance", "number", "subject", "2"⟩)]

/-- Whatever department it is, it must be the sales department. -/
def departmentRule : Rule where
  reference := some "department"
  operator := some "equals"
  value := .text "sales"
  connective := some "and"

/-- The clearance must be one of the higher ones. -/
def clearanceRule : Rule where
  reference := some "clearance"
  operator := some "in"
  value := .list [.int 2, .int 3]

/-- It depends on the mode which department is meant, but not which clearance. -/
theorem clerkAtContract_strict :
    (∀ r ∈ [departmentRule, clearanceRule], r.IsUnfailing false clerkAtContract) ∧
    rulesHold true clerkAtContract [departmentRule, clearanceRule] = .ok false ∧
    rulesHold false clerkAtContract [departmentRule, clearanceRule] = .ok true ∧
    (∀ r ∈ [clearanceRule], r.IsUnambiguous clerkAtContract) ∧
    rulesHold true clerkAtContract [clearanceRule] =
      rulesHold false clerkAtContract [clearanceRule] := by
  have hunfailing : ∀ r ∈ [departmentRule, clearanceRule], r.IsUnfailing false clerkAtContract := by
    simp only [Rule.isUnfailing_iff]
    decide +kernel
  have hunambiguous : ∀ r ∈ [clearanceRule], r.IsUnambiguous clerkAtContract := by
    intro r hr name hname
    obtain rfl := List.mem_singleton.mp hr
    rw [eq_of_ofString_bare hname]
    decide +kernel
  obtain ⟨strictly, loosely, hstrictly, hloosely, -⟩ := (rulesHold_of_strict _ _).1 hunfailing
  have hrefused : rulesHold true clerkAtContract [departmentRule, clearanceRule] = .ok false :=
    eq_ok_of_toOption (by decide +kernel)
  have hpassed : rulesHold false clerkAtContract [departmentRule, clearanceRule] = .ok true :=
    eq_ok_of_toOption (by decide +kernel)
  obtain rfl : strictly = false := Except.ok.inj (hstrictly.symm.trans hrefused)
  obtain rfl : loosely = true := Except.ok.inj (hloosely.symm.trans hpassed)
  have hsame := (rulesHold_of_strict _ _).2 hunambiguous
  exact ⟨hunfailing, hstrictly, hloosely, hunambiguous, hsame⟩

end Clearance
