/-
# Validation

The problems that would keep parts of a policy from ever holding: unknown operators and connectives,
and conditions that name no attribute. A policy without problems is valid.
-/

import Clearance.Policy.Condition

namespace Clearance

/-- A problem with an operator. -/
def operatorProblems (label : String) (operator : Option String) : List String :=
  match Operator.parse operator with
  | some _ => []
  | none => [s!"{label}: unknown operator {Text.quotedOrNone operator}"]

/-- A problem with the name of an attribute. -/
def nameProblems (label : String) (name : Option String) : List String :=
  if Text.isMissing name then [s!"{label}: missing attribute name"] else []

/-- The problems of a target. -/
def Target.problems (index : Nat) (t : Target) : List String :=
  let label := s!"target {index}"
  operatorProblems label t.operator ++ nameProblems label t.name

/-- The problems of a rule. -/
def Rule.problems (index : Nat) (r : Rule) : List String :=
  let label := s!"rule {index}"
  let connective := match Connective.parse r.connective with
    | some _ => []
    | none => [s!"{label}: unknown logical operator {Text.quotedOrNone r.connective}"]
  operatorProblems label r.operator ++ connective ++ nameProblems label r.reference

/-- The problems of a policy, targets before rules. -/
def Policy.problems (p : Policy) : List String :=
  (numbered p.targets).flatMap (fun (index, t) => t.problems index) ++
  (numbered p.rules).flatMap fun (index, r) => r.problems index

end Clearance
