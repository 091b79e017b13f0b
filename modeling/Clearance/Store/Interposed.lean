/-
# Interposed answers

A store with some of its calls intercepted: they fail, get answers that were laid down, or are held.
It behaves like the store behind it for all other calls.
-/

import Clearance.Store.Call

namespace Clearance

/-- Answers that are given whatever a call is about. -/
structure Canned where
  attributes : List Attribute := []
  owner : Option String := none
  policies : List Policy := []
  rules : List Rule := []
  targets : List Target := []

/-- The laid-down answer to a call. -/
def Canned.answer (c : Canned) : (call : StoreCall) → call.Answer
  | .resourceOwner _ => c.owner
  | .activePolicies => c.policies
  | .rules _ => c.rules
  | .targets _ => c.targets
  | .subjectAttributes _ | .roleAttributes _ | .resourceAttributes _ | .actionAttributes _
  | .environmentAttributes _ => c.attributes

/-- A store behind intercepted calls. The resources of held calls that were given up are kept, one for
each call. -/
structure Interposed (σ : Type) where
  inner : σ
  intercept : (call : StoreCall) → Option (Reply call.Answer) := fun _ => none
  /-- What becomes of every record, if that was laid down. -/
  recording : Option SinkReply := none
  abandoned : List String := []

namespace Interposed

variable {σ : Type}

/-- Intercept the calls of a name. -/
def replace (s : Interposed σ) (name : String) (reply : (call : StoreCall) → Reply call.Answer) :
    Interposed σ :=
  { s with intercept := fun call =>
    if call.name == name then some (reply call) else s.intercept call }

/-- Lay down what becomes of records, if that is the name of their writing. -/
def record (s : Interposed σ) (name : String) (reply : SinkReply) : Interposed σ :=
  if name == recordCallName then { s with recording := some reply } else s

/-- Make the calls of a name fail. -/
def breakCall (s : Interposed σ) (name message : String) : Interposed σ :=
  (s.record name (.failed message)).replace name fun _ => .failed (.other message)

/-- Lay down the answer to the calls of a name. A record that is answered so is not kept. -/
def can (s : Interposed σ) (name : String) (canned : Canned) : Interposed σ :=
  (s.record name .written).replace name fun call => .answered (canned.answer call)

/-- Whether a call is for the attributes of one of some resources. -/
def concerns (resources : List String) : StoreCall → Bool
  | .resourceAttributes r => resources.contains r
  | _ => false

/-- Hold the calls for the attributes of some resources. -/
def slow (s : Interposed σ) (resources : List String) : Interposed σ :=
  { s with intercept := fun call =>
    if concerns resources call then some .held else s.intercept call }

/-- Remember the resource of a call that was given up. -/
def abandon (call : StoreCall) (s : Interposed σ) : Interposed σ :=
  match call with
  | .resourceAttributes r =>
    { s with abandoned := s.abandoned ++ [r] }
  | _ => s

/-- A store with intercepted calls. -/
def store (inner : Store σ) : Store (Interposed σ) where
  ask := fun call s =>
    match s.intercept call with
    | some reply => (reply, [], s)
    | none =>
      let (reply, entries, state) := inner.ask call s.inner
      (reply, entries, { s with inner := state })
  write := fun record s =>
    match s.recording with
    | some reply => (reply, [], s)
    | none =>
      let (reply, entries, state) := inner.write record s.inner
      (reply, entries, { s with inner := state })
  isSlow := fun call s => (s.intercept call).isNone && inner.isSlow call s.inner
  abandon := fun call s => abandon call { s with inner := inner.abandon call s.inner }

end Interposed

end Clearance
