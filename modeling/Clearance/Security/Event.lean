/-
# Security events

What is told to those who watch over access: decisions and rejected policies. An event has a type and
a severity; those of a decision follow from the decision. An event is written on one line, as a
document with all its fields or as its message alone.
-/

import Clearance.Drawn
import Clearance.Json.Printer
import Clearance.Policy.Basic

namespace Clearance

/-- The types of security events. -/
inductive EventType where
  | authorization
  | accessDenied
  | authorizationError
  | policyValidation
  | auditEvent
deriving DecidableEq, Repr

/-- The word for a type. -/
def EventType.name : EventType → String
  | authorization => "authorization"
  | accessDenied => "access_denied"
  | authorizationError => "authorization_error"
  | policyValidation => "policy_validation"
  | auditEvent => "audit_event"

/-- The type of a word. -/
def EventType.ofName (name : String) : Except Fault EventType :=
  match [authorization, accessDenied, authorizationError, policyValidation, auditEvent].find?
      fun t => t.name == name with
  | some t => .ok t
  | none => .error (notOneOf "SecurityEventType" (.text name))

/-- How severe an event is. -/
inductive Severity where
  | low
  | medium
  | high
  | critical
deriving DecidableEq, Repr

/-- The word for a severity. -/
def Severity.name : Severity → String
  | low => "low"
  | medium => "medium"
  | high => "high"
  | critical => "critical"

/-- The severity of a word. -/
def Severity.ofName (name : String) : Except Fault Severity :=
  match [low, medium, high, critical].find? fun s => s.name == name with
  | some s => .ok s
  | none => .error (notOneOf "SecurityEventSeverity" (.text name))

/-- What an event on a decision adds. The duration is null if none was measured. -/
structure DecisionFacts where
  resource : Option String := none
  action : Option String := none
  decision : String := "deny"
  reason : Option String := none
  applied : List Value := []
  duration : Value := .null

/-- A security event. -/
structure SecurityEvent where
  type : EventType := .auditEvent
  severity : Severity := .low
  source : String := "abac_authz"
  user : Option String := none
  message : String := ""
  details : List (String × Value) := []
  correlation : Option String := none
  facts : Option DecisionFacts := none

namespace SecurityEvent

/-- An event on a decision: what could not be decided is an error of high severity, a denial is of
medium severity, and all else keeps its type and is of low severity. -/
def ofDecision (base : SecurityEvent) (facts : DecisionFacts) : SecurityEvent :=
  let event := { base with facts := some facts }
  if facts.decision == "indeterminate" then
    { event with type := .authorizationError, severity := .high }
  else if facts.decision == "deny" then { event with type := .accessDenied, severity := .medium }
  else { event with severity := .low }

/-- The text of an optional identifier in a message. -/
def idText (id : Option String) : String := id.getD "None"

/-- The event on a request that was decided. -/
def authorization (base : SecurityEvent) (subject : Option String) (facts : DecisionFacts) :
    SecurityEvent :=
  let target := match facts.resource with
    | some r => if r.isEmpty then idText facts.action else r ++ ":" ++ idText facts.action
    | none => idText facts.action
  let message := s!"Authorization {facts.decision} for subject {idText subject} on {target}"
  ofDecision { base with user := subject, message := message } facts

/-- The event on a policy that was rejected when it was loaded. -/
def violation (policy : String) (problems : List Value) (severity : Severity) : SecurityEvent where
  type := .policyValidation
  severity := severity
  message := "Policy rejected: " ++ policy
  details := [("policy_name", .text policy), ("problems", .list problems)]

/-- The fields of an event. -/
def toValue (e : SecurityEvent) : Value :=
  let base := [("event_id", Value.text Drawn.id), ("timestamp", .text Drawn.time),
    ("event_type", .text e.type.name), ("severity", .text e.severity.name),
    ("source", .text e.source), ("user_id", .ofOption e.user), ("message", .text e.message),
    ("details", .ofFields e.details), ("correlation_id", .ofOption e.correlation)]
  .ofFields <| match e.facts with
    | none => base
    | some f => base ++ [("resource", .ofOption f.resource), ("action", .ofOption f.action),
      ("decision", .text f.decision), ("reason", .ofOption f.reason),
      ("applied_policies", .list f.applied), ("processing_time_ms", f.duration)]

/-- An event as a document on one line. -/
def document (e : SecurityEvent) : String := Json.write e.toValue

end SecurityEvent

end Clearance
