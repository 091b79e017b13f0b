/-
# Targeting

A policy applies to a request when all its targets hold. Every target is evaluated, also after one
that does not hold, so that the trace shows each; only a fault ends the evaluation.
-/

import Clearance.Policy.Condition

namespace Clearance

/-- What is said when a target names no attribute and none is stored under that absence. -/
def namelessTarget : Fault :=
  .badKind "expected string or bytes-like object, got 'NoneType'"

/-- What comes of a target. -/
def Target.outcome (t : Target) (m : AttributeMap) : Outcome :=
  match t.name with
  | some name =>
    match m.findQualified t.type name with
    | some a => .ofComparison t.operator a t.value
    | none => .unresolved
  | none =>
    match m.get? (attributeKey (normalizeCategory t.type) "None") with
    | some a => .ofComparison t.operator a t.value
    | none => .failed namelessTarget

/-- Whether all targets hold. -/
def targetsHold (targets : List Target) (m : AttributeMap) : Except Fault Bool :=
  (verdicts (fun t : Target => (t.outcome m).verdict) targets).map fun holds => holds.all id

/-- The message for a target. -/
def Target.message (t : Target) (index : Nat) : Outcome → Option String
  | .unresolved | .ambiguous .. => some s!"Target {index}: attribute {t.key} not found"
  | .unknownOperator => some s!"Target {index}: unknown operator {Text.quotedOrNone t.operator}"
  | .compared o actual holds => some (comparisonMessage s!"Target {index}" o actual t.value holds)
  | .failed _ => none

/-- The trace of an evaluation of targets, up to the first fault. -/
def targetTrace (m : AttributeMap) : List (Nat × Target) → List TraceEntry
  | [] => []
  | (index, t) :: rest =>
    match t.message index (t.outcome m) with
    | none => []
    | some message => ⟨.targets, .debug, message⟩ :: targetTrace m rest

end Clearance
