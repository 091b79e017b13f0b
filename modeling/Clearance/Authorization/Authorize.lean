/-
# Authorization

How a request is answered. Its attributes are gathered, the policies are loaded and judged, and a
record is submitted if a resource was addressed. Whatever goes wrong on the way, there is a result:
what cannot be decided is indeterminate and says why. Every result is announced.
-/

import Clearance.Attribute.Gathering
import Clearance.Authorization.Judging
import Clearance.Policy.Loading

namespace Clearance

/-- An identifier that a request cannot do without. -/
def required (id : Option String) (field : String) : Except Fault String :=
  match id with
  | some s =>
    if (Text.strip s).isEmpty then .error (.failure (missing field)) else .ok s
  | none => .error (.failure (missing field))
where
  missing (field : String) : Failure := .invalidRequest (field ++ " is required") field

/-- The record of a decision on a resource. -/
def Record.of (subject resource action : String) (result : Result) (evaluations : List Evaluation)
    (context : List (String × Value)) : Record where
  subject := subject
  resource := resource
  action := action
  decision := result.decision
  applied := evaluations.map Evaluation.toValue
  context := context

/-- The result that a ruling comes to. -/
def Result.ofRuling (ruling : Ruling) (evaluations : List Evaluation) : Result :=
  ⟨ruling.decision, ruling.reason, evaluations.map Evaluation.policyName⟩

/-- The result without a decision. -/
def Result.indeterminate (reason : String) : Result := ⟨.indeterminate, reason, []⟩

namespace Authorization

/-- Decide a request. -/
def evaluate (s : Settings) (r : Request) : Attempt Result := do
  let subject ← ExceptT.mk (Process.done (required r.subject "subject_id"))
  let action ← ExceptT.mk (Process.done (required r.action "action_name"))
  let m ← gather s.doesRoleOverride subject action r.resource r.resourceType r.context
  let policies ← load s.doesValidate
  Attempt.pose (.note (judgeTrace s.isStrict m policies))
  let (ruling, evaluations) ← ExceptT.mk (Process.done (rule s.isStrict m policies))
  let result := Result.ofRuling ruling evaluations
  match Gathering.given? r.resource with
  | some resource =>
    Attempt.pose (.submit (.of subject resource action result evaluations r.context))
  | none => pure ()
  return result

/-- What is said when a time limit is over. -/
def timedOut : String := "Authorization timed out"

/-- What is said of the resources that a batch did not get to in time. -/
def deadlineExceeded : String := "Authorization deadline exceeded"

/-- Leave an entry in the trace. -/
def note (level : TraceLevel) (message : String) : Process Unit :=
  Process.pose (.note [⟨.authorizer, level, message⟩])

/-- The result of an attempt, whatever it ended in. -/
def conclude (r : Request) : Except Fault Result → Process Result
  | .ok result => return result
  | .error fault => do
    note .error
      s!"Authorization failed for subject {Text.quotedOrNone r.subject}: {fault.message}"
    return .indeterminate ("Authorization error: " ++ fault.message)

/-- The result when a time limit is over. -/
def giveUp (r : Request) (limit : Number) : Process Result := do
  note .warning
    s!"Authorization for subject {Text.quotedOrNone r.subject} timed out after {limit.text}s"
  return .indeterminate timedOut

/-- The result of a request, within a time limit if there is one. A limit that is not positive is over
before anything is asked, and one that is no span of time is a fault. -/
def decide (s : Settings) (r : Request) : Option Number → Process Result
  | none => do conclude r (← (evaluate s r).run)
  | some limit =>
    if limit.isAtMost 0 then giveUp r limit
    else
      match Span.of limit with
      | .error fault => conclude r (.error fault)
      | .ok span => do
        match ← ((evaluate s r).run).within span with
        | some outcome => conclude r outcome
        | none => giveUp r limit

/-- Tell those who watch about a result. -/
def announce (r : Request) (result : Result) : Process Unit := do
  let facts : DecisionFacts := {
    resource := r.resource
    action := r.action
    decision := result.decision.name
    reason := some result.reason
    applied := result.applied.map .text
    duration := Drawn.duration }
  match ← Process.pose (.announce r.subject facts) with
  | none => pure ()
  | some message => note .error ("Failed to log authorization decision: " ++ message)

/-- The time limit of a request: its own, or the one of the settings. -/
def limitOf (s : Settings) (own : Option Number) : Option Number := own <|> s.requestTimeout

end Authorization

open Authorization in
/-- Answer a request. -/
def authorize (s : Settings) (r : Request) (limit : Option Number) : Process Result := do
  let result ← decide s r (limitOf s limit)
  announce r result
  return result

end Clearance
