/-
# Targets as rules

A target names its attribute by a type and a name, a rule by one text. The two are looked up in the
same way if the text is the type, a point and the name: no text that normalizes to a category has a
point in it, so the first point is the one in between, whatever points the name has. A target and the
rule that restates it come to the same on every map, in strict mode too, and fail with the same fault.
-/

import Clearance.Policy.Rules
import Clearance.Policy.Targeting
import Clearance.Proofs.Attribute.Referring

namespace Clearance

/-- A rule puts the condition of a target: it refers to the key of the target as it is written, and it
has the same operator and the same value. Its connective and its group are its own. -/
structure Rule.Restates (r : Rule) (t : Target) : Prop where
  reference : r.reference = some t.key
  operator : r.operator = t.operator
  value : r.value = t.value

variable {t : Target} {r : Rule} {c : Category} {name : String}

/-- The key of a target refers to its name in the category that its type normalizes to. -/
theorem Target.ofString_key (htype : normalizeCategory t.type = c.name) (hname : t.name = some name)
    (hne : name ≠ "") : Reference.ofString t.key = .qualified c.name name := by
  cases hsome : t.type with
  | none =>
      rw [hsome] at htype
      cases c <;> exact absurd htype (by decide)
  | some type =>
      rw [hsome] at htype
      have hkey : t.key = attributeKey type name := by
        rw [Target.key, hsome, hname]
        rfl
      rw [hkey]
      exact Reference.ofString_of_normalizeCategory htype hne

/-- A category that is normalized already is looked up like the text that it comes from. -/
theorem AttributeMap.findQualified_of_normalizeCategory {type : Option String}
    (htype : normalizeCategory type = c.name) (m : AttributeMap) (name : String) :
    m.findQualified (some c.name) name = m.findQualified type name := by
  simp only [findQualified, htype, normalizeCategory_name]

/-- A target comes to the same as a rule that restates it. -/
theorem Rule.Restates.outcome_eq (hr : r.Restates t) (htype : normalizeCategory t.type = c.name)
    (hname : t.name = some name) (hne : name ≠ "") (strict : Bool) (m : AttributeMap) :
    t.outcome m = r.outcome strict m := by
  have href : Reference.ofString (r.reference.getD "") = .qualified c.name name := by
    rw [hr.reference, Option.getD_some]
    exact Target.ofString_key htype hname hne
  simp only [Target.outcome, Rule.outcome, AttributeMap.resolve]
  rw [hname, href, hr.operator, hr.value]
  simp only [AttributeMap.findQualified_of_normalizeCategory htype]
  cases m.findQualified t.type name with
  | none => rfl
  | some a => rfl

theorem targetsHold_singleton (t : Target) (m : AttributeMap) :
    targetsHold [t] m = (t.outcome m).verdict := by
  simp only [targetsHold, verdicts]
  cases (t.outcome m).verdict with
  | error fault => rfl
  | ok holds => exact congrArg Except.ok (Bool.and_true holds)

theorem groupHolds_singleton (strict : Bool) (m : AttributeMap) (r : Rule) :
    groupHolds strict m [r] = (r.outcome strict m).verdict := by
  simp only [groupHolds, verdicts]
  cases (r.outcome strict m).verdict with
  | error fault => rfl
  | ok holds => rfl

theorem rulesHold_singleton (strict : Bool) (m : AttributeMap) (r : Rule) :
    rulesHold strict m [r] = (r.outcome strict m).verdict := by
  have hgroups : ruleGroups [r] = [(r.groupId, [r])] := by
    simp [ruleGroups, Ordered.groupBy, Ordered.distinct]
  simp only [rulesHold, hgroups, verdicts, groupHolds_singleton]
  cases (r.outcome strict m).verdict with
  | error fault => rfl
  | ok holds => exact congrArg Except.ok (Bool.and_true holds)

/-- A target is a qualified rule: on every map, in strict mode or not, it holds where the rule that
restates it does. -/
theorem targetsHold_eq_rulesHold (htype : normalizeCategory t.type = c.name)
    (hname : t.name = some name) (hne : name ≠ "") (hr : r.Restates t) (strict : Bool)
    (m : AttributeMap) : targetsHold [t] m = rulesHold strict m [r] := by
  rw [targetsHold_singleton, rulesHold_singleton, hr.outcome_eq htype hname hne]

/-- A target by an alias with blanks, and by a name with a point and a capital. -/
def wardTarget : Target where
  type := some " Role "
  name := some "homeWard.id"
  operator := some "=="
  value := .int 7

/-- The rule that restates it, in a group of its own. -/
def wardRule : Rule where
  reference := some " Role .homeWard.id"
  operator := some "=="
  value := .int 7
  connective := some "or"
  group := some "wards"

/-- What is stored for it. -/
def wardMap : AttributeMap := ({} : AttributeMap).insert ⟨"a1", "home_ward.id", "number", "subject", "7"⟩

theorem wardTarget_holds_as_wardRule :
    targetsHold [wardTarget] wardMap = rulesHold true wardMap [wardRule] ∧
      targetsHold [wardTarget] wardMap = .ok true := by
  constructor
  · have htype : normalizeCategory wardTarget.type = Category.subject.name := by decide +kernel
    exact targetsHold_eq_rulesHold htype rfl (by decide) ⟨by decide, rfl, rfl⟩ true wardMap
  · exact eq_ok_of_toOption (by decide +kernel)

end Clearance
