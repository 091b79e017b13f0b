/-
# Requests, results and records

A request asks whether a subject may perform an action, on a resource or on none. A result answers
it. A record keeps an answer that addressed a resource.
-/

import Clearance.Policy.Ranking

namespace Clearance

/-- A request as a caller brings it; an identifier may be missing. -/
structure Request where
  subject : Option String := none
  action : Option String := none
  resource : Option String := none
  resourceType : Option String := none
  context : List (String × Value) := []

/-- The fields of a request. -/
def Request.toValue (r : Request) : Value :=
  .ofFields [("subject_id", .ofOption r.subject), ("action_name", .ofOption r.action),
    ("resource_id", .ofOption r.resource), ("resource_type", .ofOption r.resourceType),
    ("context", .ofFields r.context)]

/-- The answer to a request, with the names of the policies that applied. -/
structure Result where
  decision : Decision
  reason : String
  applied : List String := []
deriving DecidableEq

/-- Whether access is given. -/
def Result.permitted (r : Result) : Bool := r.decision == .permit

/-- The fields of a result that took a time in milliseconds. -/
def Result.toValue (r : Result) (elapsed : Float) : Value :=
  .ofFields [("decision", .text r.decision.name), ("reason", .text r.reason),
    ("applied_policies", .list (r.applied.map .text)), ("processing_time_ms", .float elapsed)]

/-- What is kept of a decision on a resource. -/
structure Record where
  subject : String
  resource : String
  action : String
  decision : Decision
  applied : List Value := []
  context : List (String × Value) := []

/-- The fields of a record. -/
def Record.toValue (r : Record) : Value :=
  .ofFields [("subject_id", .text r.subject), ("resource_id", .text r.resource),
    ("action_name", .text r.action), ("decision", .text r.decision.name),
    ("applied_policies", .list r.applied), ("request_context", .ofFields r.context)]

end Clearance
