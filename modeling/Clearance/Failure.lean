/-
# Failures

What can go wrong, as values. A failure is one of the library's own, with a kind, a code and details
for structured logs. A fault is a failure or something that went wrong outside: in a conversion, in a
comparison, in a store.
-/

import Clearance.Ordered
import Clearance.Value.Basic

namespace Clearance

/-- The kinds of failures. -/
inductive FailureKind where
  | general
  | configuration
  | invalidRequest
  | attributeStore
  | policyStore
  | policyValidation
  | audit
  | timeout
deriving DecidableEq, Repr

/-- The name under which a kind of failure is reported. -/
def FailureKind.name : FailureKind → String
  | general => "ABACError"
  | configuration => "ConfigurationError"
  | invalidRequest => "InvalidRequestError"
  | attributeStore => "AttributeStoreError"
  | policyStore => "PolicyStoreError"
  | policyValidation => "PolicyValidationError"
  | audit => "AuditError"
  | timeout => "AuthorizationTimeoutError"

/-- The facts that a kind of failure is reported with. -/
def FailureKind.facts : FailureKind → List String
  | general => []
  | configuration => ["config_key"]
  | invalidRequest => ["field"]
  | attributeStore => ["operation", "subject_id", "resource_id"]
  | policyStore => ["policy_id"]
  | policyValidation => ["policy_name", "problems"]
  | audit => ["record_id"]
  | timeout => ["timeout"]

/-- The kinds of failures in the order of their declaration. -/
def FailureKind.all : List FailureKind :=
  [general, configuration, invalidRequest, attributeStore, policyStore, policyValidation, audit,
    timeout]

/-- A failure of the library. -/
structure Failure where
  kind : FailureKind
  message : String
  code : String
  details : List (String × Value) := []
  cause : Option String := none

namespace Failure

/-- Whether a detail is worth keeping: it is not empty, or it is a time limit that was given. -/
def isKept (kind : FailureKind) (value : Value) : Bool :=
  match kind, value with
  | .timeout, .null => false
  | .timeout, _ => true
  | _, value => !value.isEmpty

/-- A failure with its facts, those that are kept written over the details. An empty code is the name
of the kind. -/
def build (kind : FailureKind) (message : String) (facts : List (String × Value))
    (code : Option String) (details : List (String × Value)) (cause : Option String) : Failure where
  kind := kind
  message := message
  code := match code with
    | some c => if c.isEmpty then kind.name else c
    | none => kind.name
  details := (facts.filter fun fact => isKept kind fact.2).foldl
    (fun all fact => Ordered.set fact.1 fact.2 all) details
  cause := cause

/-- A failure with nothing but its message and facts. -/
def of (kind : FailureKind) (message : String) (facts : List (String × Value)) : Failure :=
  build kind message facts none [] none

/-- A rejected configuration, with the key that is at fault. -/
def configuration (message : String) (key : Option String) : Failure :=
  of .configuration message [("config_key", .ofOption key)]

/-- A request without one of its identifiers. -/
def invalidRequest (message field : String) : Failure :=
  of .invalidRequest message [("field", .text field)]

/-- A failed attribute lookup or change. -/
def attributeStore (message operation : String) (subject resource : Option String) : Failure :=
  of .attributeStore message [("operation", .text operation), ("subject_id", .ofOption subject),
    ("resource_id", .ofOption resource)]

/-- A failed policy lookup or change. -/
def policyStore (message : String) (policy : Option String) : Failure :=
  of .policyStore message [("policy_id", .ofOption policy)]

/-- A policy whose conditions cannot all be evaluated. -/
def policyValidation (message policy : String) (problems : List String) : Failure :=
  of .policyValidation message
    [("policy_name", .text policy), ("problems", .list (problems.map .text))]

/-- The fields of a failure in a structured log. -/
def toFields (f : Failure) : List (String × Value) :=
  [("error_type", .text f.kind.name), ("error_code", .text f.code), ("message", .text f.message),
    ("details", .ofFields f.details), ("cause", .ofOption f.cause)]

end Failure

/-- Something that went wrong: a failure of the library, or a fault outside of it. -/
inductive Fault where
  | failure (f : Failure)
  /-- A text or a number outside of the values that are expected. -/
  | badValue (message : String)
  /-- A number beyond the range that can be handled. -/
  | overflow (message : String)
  /-- Values of kinds that do not go together. -/
  | badKind (message : String)
  /-- Nothing where a value is needed. -/
  | absent (message : String)
  /-- Something nested more deeply than can be gone through. -/
  | tooDeep (message : String)
  /-- Anything that a store or a logger reports in its own words. -/
  | other (message : String)

/-- The words of a fault. -/
def Fault.message : Fault → String
  | failure f => f.message
  | badValue m | overflow m | badKind m | absent m | tooDeep m | other m => m

theorem eq_ok_of_toOption {α : Type} {outcome : Except Fault α} {a : α}
    (h : outcome.toOption = some a) : outcome = .ok a := by
  cases outcome with
  | error fault => cases h
  | ok b =>
      cases h
      rfl

/-- An outcome in which a bad value counts as nothing. -/
def unlessBad {α : Type} : Except Fault α → Except Fault (Option α)
  | .ok a => .ok (some a)
  | .error (.badValue _) => .ok none
  | .error fault => .error fault

/-- What is said of a value that is none of the members of a closed list. -/
def notOneOf (list : String) (value : Value) : Fault :=
  .badValue s!"{value.literal} is not a valid {list}"

end Clearance
