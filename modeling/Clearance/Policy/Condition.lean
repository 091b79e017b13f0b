/-
# Conditions

What comes of one condition, a target or a rule, on an attribute map. The outcome tells why a
condition does not hold; its trace entry and whether it holds are both read off the outcome.
-/

import Clearance.Attribute.Reference
import Clearance.Policy.Basic
import Clearance.Trace

namespace Clearance

/-- What comes of a condition. -/
inductive Outcome where
  | unresolved
  /-- A bare reference to several attributes, in strict mode. -/
  | ambiguous (name : String) (categories : List String)
  | unknownOperator
  | compared (operator : Operator) (actual : String) (holds : Bool)
  | failed (fault : Fault)

/-- Whether the condition holds, or the fault that prevents an answer. -/
def Outcome.verdict : Outcome → Except Fault Bool
  | compared _ _ holds => .ok holds
  | failed fault => .error fault
  | _ => .ok false

/-- Compare an attribute by an operator that may be unknown. -/
def Outcome.ofComparison (operator : Option String) (a : Attribute) (expected : Value) : Outcome :=
  match Operator.parse operator with
  | none => .unknownOperator
  | some o =>
    match o.apply (.text a.value) expected with
    | .ok holds => .compared o a.value holds
    | .error fault => .failed fault

/-- The entry for a comparison that was made. -/
def comparisonMessage (label : String) (operator : Operator) (actual : String) (expected : Value)
    (holds : Bool) : String :=
  s!"{label}: {Text.quoted actual} {operator.name} {expected.literal} = {Value.boolLiteral holds}"

/-- Judge all members of a list, up to the first fault. -/
def verdicts {α : Type} (judge : α → Except Fault Bool) : List α → Except Fault (List Bool)
  | [] => .ok []
  | a :: rest =>
    match judge a with
    | .error fault => .error fault
    | .ok holds => (verdicts judge rest).map (holds :: ·)

/-- Members of a list with their numbers, counted from one. -/
def numbered {α : Type} (members : List α) : List (Nat × α) :=
  members.zipIdx.map fun (a, i) => (i + 1, a)

end Clearance
