/-
# Policies

A policy permits or denies. Its targets say which requests it applies to, its rules when it matches.
The conditions of both are kept as they were written: names may be unknown, and then the condition
does not hold.
-/

import Clearance.Failure
import Clearance.Operator

namespace Clearance

/-- What a matching policy asserts. -/
inductive Effect where
  | permit
  | deny
deriving DecidableEq, Repr

/-- The word for an effect. -/
def Effect.name : Effect → String
  | permit => "permit"
  | deny => "deny"

/-- The effect of a word. -/
def Effect.ofName (name : String) : Except Fault Effect :=
  match [Effect.permit, .deny].find? fun e => e.name == name with
  | some e => .ok e
  | none => .error (notOneOf "PolicyEffect" (.text name))

/-- The effect of a word in any case. -/
def Effect.parse (word : String) : Except Fault Effect := Effect.ofName (Text.lower word)

/-- The answer to a request. -/
inductive Decision where
  | permit
  | deny
  | notApplicable
  | indeterminate
deriving DecidableEq, Repr

/-- The word for a decision. -/
def Decision.name : Decision → String
  | permit => "permit"
  | deny => "deny"
  | notApplicable => "not_applicable"
  | indeterminate => "indeterminate"

/-- The decision of a word. -/
def Decision.ofName (name : String) : Except Fault Decision :=
  match [Decision.permit, .deny, .notApplicable, .indeterminate].find? fun d => d.name == name with
  | some d => .ok d
  | none => .error (notOneOf "Decision" (.text name))

/-- The decision that a matching policy of an effect leads to. -/
def Effect.decision : Effect → Decision
  | permit => .permit
  | deny => .deny

/-- A condition on which requests a policy applies to. -/
structure Target where
  type : Option String := none
  name : Option String := none
  operator : Option String := none
  value : Value := .null
  id : Option String := none

/-- The words for an absent text. -/
def orNone (s : Option String) : String := s.getD "None"

/-- The key that a target names, as it is written. -/
def Target.key (t : Target) : String := orNone t.type ++ "." ++ orNone t.name

/-- A condition on when a policy matches. The connective joins it with the next rule of its group. -/
structure Rule where
  reference : Option String := none
  operator : Option String := none
  value : Value := .null
  connective : Option String := none
  group : Option String := none
  id : Option String := none

/-- The group of a rule; without one it is in the default group. -/
def Rule.groupId (r : Rule) : String :=
  match r.group with
  | some g => if g.isEmpty then "default" else g
  | none => "default"

/-- A policy. -/
structure Policy where
  id : String
  name : String
  effect : Effect
  priority : Int := 0
  isActive : Bool := true
  setId : Option String := none
  description : Option String := none
  rules : List Rule := []
  targets : List Target := []

/-- A policy without conditions is never considered. -/
def Policy.isEmpty (p : Policy) : Bool := p.rules.isEmpty && p.targets.isEmpty

/-- The fields of a rule. -/
def Rule.toValue (r : Rule) : Value :=
  .ofFields [("attribute_name", .ofOption r.reference), ("operator", .ofOption r.operator),
    ("value", r.value), ("logical_operator", .ofOption r.connective),
    ("group_id", .ofOption r.group)]

/-- The fields of a target. -/
def Target.toValue (t : Target) : Value :=
  .ofFields [("target_type", .ofOption t.type), ("attribute_name", .ofOption t.name),
    ("operator", .ofOption t.operator), ("value", t.value)]

/-- The fields of a policy. -/
def Policy.toValue (p : Policy) : Value :=
  .ofFields [("id", .text p.id), ("name", .text p.name), ("effect", .text p.effect.name),
    ("priority", .int p.priority), ("is_active", .bool p.isActive),
    ("policy_set_id", .ofOption p.setId), ("description", .ofOption p.description),
    ("rules", .list (p.rules.map Rule.toValue)), ("targets", .list (p.targets.map Target.toValue))]

/-- What came of a policy that applies to a request. -/
structure Evaluation where
  policyId : String
  policyName : String
  effect : Effect
  isMatch : Bool
  priority : Int := 0
  reason : Option String := none

/-- The summary of an evaluation that is kept with records. -/
def Evaluation.toValue (e : Evaluation) : Value :=
  .ofFields [("id", .text e.policyId), ("name", .text e.policyName),
    ("effect", .text e.effect.name), ("matches", .bool e.isMatch)]

end Clearance
