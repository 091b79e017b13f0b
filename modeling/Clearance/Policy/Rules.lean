/-
# Rules

The rules of a policy are divided into groups, and the policy matches when every group holds. Inside
a group the rules are joined one after the other, each by the connective of the rule before it; the
first is joined to truth by a conjunction. No rule is skipped, whatever came before it.
-/

import Clearance.Policy.Condition

namespace Clearance

/-- What comes of a rule. -/
def Rule.outcome (r : Rule) (strict : Bool) (m : AttributeMap) : Outcome :=
  match m.resolve strict r.reference with
  | .missing => .unresolved
  | .ambiguous name categories => .ambiguous name categories
  | .found a => .ofComparison r.operator a r.value

/-- How a rule is joined with the next one; an unknown connective counts as a conjunction. -/
def Rule.joint (r : Rule) : Connective := (Connective.parse r.connective).getD .and

/-- Join one more truth value. -/
def Connective.join : Connective → Bool → Bool → Bool
  | and, a, b => a && b
  | or, a, b => a || b

/-- Join truth values, each with the connective to the next one, to what came before. -/
def joinAll (soFar : Bool) (pending : Connective) : List (Bool × Connective) → Bool
  | [] => soFar
  | (holds, next) :: rest => joinAll (pending.join soFar holds) next rest

/-- The groups of rules in the order of their first members. -/
def ruleGroups (rules : List Rule) : List (String × List Rule) := Ordered.groupBy Rule.groupId rules

/-- Whether a group of rules holds. -/
def groupHolds (strict : Bool) (m : AttributeMap) (rules : List Rule) : Except Fault Bool :=
  (verdicts (fun r : Rule => (r.outcome strict m).verdict) rules).map fun all =>
    joinAll true .and (all.zip (rules.map Rule.joint))

/-- Whether every group of rules holds. -/
def rulesHold (strict : Bool) (m : AttributeMap) (rules : List Rule) : Except Fault Bool :=
  (verdicts (fun g : String × List Rule => groupHolds strict m g.2) (ruleGroups rules)).map fun all =>
    all.all id

/-- Why a policy matches or does not. -/
def ruleReason (holds : Bool) : String :=
  if holds then "All rule conditions met" else "One or more rule conditions failed"

/-- The messages for a rule that was evaluated, or nothing after a fault. An ambiguity is reported
before the condition is. -/
def Rule.entries (r : Rule) (index : Nat) : Outcome → Option (List TraceEntry)
  | .unresolved => some [⟨.rules, .debug, missing⟩]
  | .ambiguous name categories =>
    some ((Resolution.ambiguous name categories).trace ++ [⟨.rules, .debug, missing⟩])
  | .unknownOperator =>
    some [⟨.rules, .debug, s!"Rule {index}: unknown operator {Text.quotedOrNone r.operator}"⟩]
  | .compared o actual holds =>
    some [⟨.rules, .debug, comparisonMessage s!"Rule {index}" o actual r.value holds⟩]
  | .failed _ => none
where
  missing := s!"Rule {index}: attribute {Text.quotedOrNone r.reference} not found"

/-- The entry for a connective that is not known. -/
def Rule.connectiveEntries (r : Rule) (index : Nat) : List TraceEntry :=
  match Connective.parse r.connective with
  | some _ => []
  | none =>
    [⟨.rules, .warning,
      s!"Rule {index}: unknown logical operator {Text.quotedOrNone r.connective}, using AND"⟩]

/-- The entries for the rules of a group, and whether they were all evaluated. -/
def groupTrace (strict : Bool) (m : AttributeMap) : List (Nat × Rule) → List TraceEntry × Bool
  | [] => ([], true)
  | (index, r) :: rest =>
    match r.entries index (r.outcome strict m) with
    | none => ([], false)
    | some entries =>
      let (more, complete) := groupTrace strict m rest
      (entries ++ r.connectiveEntries index ++ more, complete)

/-- The entries for groups of rules, up to the first fault. -/
def groupsTrace (strict : Bool) (m : AttributeMap) : List (String × List Rule) → List TraceEntry
  | [] => []
  | (id, rules) :: rest =>
    let (entries, _) := groupTrace strict m (numbered rules)
    match groupHolds strict m rules with
    | .error _ => entries
    | .ok holds =>
      let summary :=
        s!"Rule group {Text.quoted id} ({rules.length} rules): {Value.boolLiteral holds}"
      entries ++ ⟨.rules, .debug, summary⟩ :: groupsTrace strict m rest

/-- The trace of an evaluation of rules. -/
def ruleTrace (strict : Bool) (m : AttributeMap) (rules : List Rule) : List TraceEntry :=
  groupsTrace strict m (ruleGroups rules)

end Clearance
