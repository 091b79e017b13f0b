/-
# Judging

What comes of the loaded policies on the map of a request: an evaluation for each policy that applies,
up to the first fault. The trace tells the same story.
-/

import Clearance.Policy.Ranking
import Clearance.Policy.Rules
import Clearance.Policy.Targeting

namespace Clearance

/-- The evaluation of a policy, or nothing if it does not apply. -/
def Policy.evaluate (p : Policy) (strict : Bool) (m : AttributeMap) :
    Except Fault (Option Evaluation) := do
  if ← targetsHold p.targets m then
    let holds ← rulesHold strict m p.rules
    return some ⟨p.id, p.name, p.effect, holds, p.priority, some (ruleReason holds)⟩
  else return none

/-- The evaluations of the policies that apply, in order. -/
def judge (strict : Bool) (m : AttributeMap) : List Policy → Except Fault (List Evaluation)
  | [] => return []
  | p :: rest => do
    match ← p.evaluate strict m with
    | some e => return e :: (← judge strict m rest)
    | none => judge strict m rest

/-- The ruling of policies on a map, with the evaluations that it rests on. -/
def rule (strict : Bool) (m : AttributeMap) (policies : List Policy) :
    Except Fault (Ruling × List Evaluation) := do
  let evaluations ← judge strict m policies
  return (resolve evaluations policies, evaluations)

/-- An entry on a policy. -/
def policyEntry (message : String) : TraceEntry := ⟨.authorizer, .debug, message⟩

/-- The entries for the evaluation of a policy. -/
def Policy.trace (p : Policy) (strict : Bool) (m : AttributeMap) : List TraceEntry :=
  targetTrace m (numbered p.targets) ++
  match targetsHold p.targets m with
  | .error _ => []
  | .ok false => [policyEntry s!"Policy {p.name} not applicable"]
  | .ok true =>
    ruleTrace strict m p.rules ++
    match rulesHold strict m p.rules with
    | .error _ => []
    | .ok holds =>
      [policyEntry s!"Policy {p.name} evaluated: matches={Value.boolLiteral holds}"]

/-- The entries for the evaluation of policies, up to the first fault. -/
def judgeTrace (strict : Bool) (m : AttributeMap) : List Policy → List TraceEntry
  | [] => []
  | p :: rest =>
    match p.evaluate strict m with
    | .error _ => p.trace strict m
    | .ok _ => p.trace strict m ++ judgeTrace strict m rest

end Clearance
