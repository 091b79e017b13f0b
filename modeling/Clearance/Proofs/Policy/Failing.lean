/-
# What a bad condition does

A condition can be bad in many ways: what it is about is not there, its operator is not known, what it
puts in an order spells no number, or the pattern it searches for is refused. A bad condition does not
hold, and mostly that is all. But a search for a pattern that is refused for more than its form breaks:
where an answer should be, there is a fault, and it takes along the other conditions of the policy and
the policies beside it.
-/

import Clearance.Proofs.Operator
import Clearance.Proofs.Pattern.Refusing
import Clearance.Proofs.Policy.Groups

namespace Clearance

/-! ## One condition -/

/-- A condition on a map: the attribute that it is about, if it is there, and what is asked of it. -/
structure Condition where
  attribute? : Option Attribute
  operator : Option String
  value : Value

namespace Condition

/-- Whether a condition holds, or the fault that prevents an answer. -/
def verdict (c : Condition) : Except Fault Bool :=
  match c.attribute? with
  | none => .ok false
  | some a => (Outcome.ofComparison c.operator a c.value).verdict

/-- A condition is met: its attribute is there, its operator is known, and the comparison holds. -/
def IsMet (c : Condition) : Prop :=
  ∃ a o, c.attribute? = some a ∧ Operator.parse c.operator = some o ∧
    o.apply (.text a.value) c.value = .ok true

/-- A condition breaks with a fault: its attribute is there, its operator is known, and the comparison
with the expected value is refused. -/
structure Breaks (c : Condition) (fault : Fault) : Prop where
  isFound : c.attribute?.isSome
  isRefused : ∃ o, Operator.parse c.operator = some o ∧ o.IsRefused c.value fault

end Condition

namespace Condition

variable {c : Condition} {fault : Fault}

end Condition

/-! ## Lists of conditions -/

/-- Going through members comes to the fault of one that breaks, or none of them breaks and it comes to
what they mean. -/
def AnswersUnless {α β : Type} (breaks : α → Fault → Prop) (means : β → Prop) (members : List α) :
    Except Fault β → Prop
  | .error fault => ∃ a ∈ members, breaks a fault
  | .ok b => (∀ a ∈ members, ∀ fault, ¬ breaks a fault) ∧ means b

section Lists

variable {α β γ : Type} {breaks : α → Fault → Prop} {members : List α}

theorem AnswersUnless.map {means : β → Prop} {means' : γ → Prop} {outcome : Except Fault β}
    (h : AnswersUnless breaks means members outcome) {f : β → γ}
    (hf : ∀ b, means b → means' (f b)) :
    AnswersUnless breaks means' members (outcome.map f) := by
  cases outcome with
  | error fault => exact h
  | ok b => exact ⟨h.1, hf b h.2⟩

end Lists

/-! ## Rules -/

/-- The condition of a rule. -/
def Rule.condition (r : Rule) (strict : Bool) (m : AttributeMap) : Condition :=
  ⟨(m.resolve strict r.reference).attribute?, r.operator, r.value⟩

section Rules

variable {strict : Bool} {m : AttributeMap} {r : Rule} {rules : List Rule}

end Rules

/-! ## Targets -/

/-- The attribute that a target names. Without a name it is the one stored under that absence. -/
def Target.attribute? (t : Target) (m : AttributeMap) : Option Attribute :=
  match t.name with
  | some name => m.findQualified t.type name
  | none => m.get? (attributeKey (normalizeCategory t.type) "None")

/-- The condition of a target. -/
def Target.condition (t : Target) (m : AttributeMap) : Condition :=
  ⟨t.attribute? m, t.operator, t.value⟩

/-- A target breaks if its condition does, and also if it names nothing that is there. -/
def Target.Breaks (t : Target) (m : AttributeMap) (fault : Fault) : Prop :=
  (t.condition m).Breaks fault ∨
    (t.name = none ∧ t.attribute? m = none ∧ fault = namelessTarget)

section Targets

variable {m : AttributeMap} {t : Target} {fault : Fault}

theorem Target.outcome_eq (t : Target) (m : AttributeMap) :
    t.outcome m = match t.attribute? m, t.name with
      | some a, _ => .ofComparison t.operator a t.value
      | none, some _ => .unresolved
      | none, none => .failed namelessTarget := by
  simp only [Target.outcome, Target.attribute?]
  cases t.name with
  | none =>
      dsimp only
      cases m.get? (attributeKey (normalizeCategory t.type) "None") <;> rfl
  | some name =>
      dsimp only
      cases m.findQualified t.type name <;> rfl

end Targets

/-! ## Policies -/

/-- A policy breaks: one of its targets does, or its targets are all met and one of its rules does. -/
def Policy.Breaks (p : Policy) (strict : Bool) (m : AttributeMap) (fault : Fault) : Prop :=
  (∃ t ∈ p.targets, t.Breaks m fault) ∨
    ((∀ t ∈ p.targets, (t.condition m).IsMet) ∧ ∃ r ∈ p.rules, (r.condition strict m).Breaks fault)

section Policies

variable {strict : Bool} {m : AttributeMap} {p : Policy} {fault : Fault}

end Policies

/-! ## A count that is too large -/

end Clearance
