/-
# Stores

What an authorizer asks of the places where attributes and policies are kept. A store answers a call,
fails on it, or holds it without an answer; it is told when nobody waits for a held call any longer.
A store also writes the records of decisions.
-/

import Clearance.Attribute.Basic
import Clearance.Audit.Dispatcher
import Clearance.Policy.Basic
import Clearance.Request

namespace Clearance

/-- A call to a store. -/
inductive StoreCall where
  | subjectAttributes (subject : String)
  | roleAttributes (subject : String)
  | resourceAttributes (resource : String)
  | resourceOwner (resource : String)
  | actionAttributes (action : String)
  | environmentAttributes (now : Time.Moment)
  | activePolicies
  | rules (policy : String)
  | targets (policy : String)
deriving DecidableEq

namespace StoreCall

/-- What a call is answered by. -/
abbrev Answer : StoreCall → Type
  | resourceOwner _ => Option String
  | activePolicies => List Policy
  | rules _ => List Rule
  | targets _ => List Target
  | _ => List Attribute

/-- The name that a call is reported under. -/
def name : StoreCall → String
  | subjectAttributes _ => "get_subject_attributes"
  | roleAttributes _ => "get_role_attributes"
  | resourceAttributes _ => "get_resource_attributes"
  | resourceOwner _ => "get_resource_owner"
  | actionAttributes _ => "get_action_attributes"
  | environmentAttributes _ => "get_environment_attributes"
  | activePolicies => "get_active_policies"
  | rules _ => "get_rules_for_policy"
  | targets _ => "get_targets_for_policy"

/-- Whether a call is for policies and not for attributes. -/
def isForPolicies : StoreCall → Bool
  | activePolicies | rules _ | targets _ => true
  | _ => false

/-- The answer with nothing in it. -/
def nothing : (call : StoreCall) → call.Answer
  | resourceOwner _ => none
  | activePolicies | rules _ | targets _ => []
  | subjectAttributes _ | roleAttributes _ | resourceAttributes _ | actionAttributes _
  | environmentAttributes _ => []

end StoreCall

/-- What comes of a call. -/
inductive Reply (α : Type) where
  | answered (a : α)
  | failed (fault : Fault)
  /-- There is no answer for the time being. -/
  | held

/-- The name that the writing of a record is reported under. -/
def recordCallName : String := "record_access_request"

/-- A store with a state of its own. -/
structure Store (σ : Type) where
  ask : (call : StoreCall) → σ → Reply call.Answer × List TraceEntry × σ
  write : Sink Record σ
  /-- Whether a caller has to wait for the answer to a call. -/
  isSlow : StoreCall → σ → Bool := fun _ _ => false
  /-- Nobody waits for a call any longer that the store holds. -/
  abandon : StoreCall → σ → σ := fun _ s => s

end Clearance
