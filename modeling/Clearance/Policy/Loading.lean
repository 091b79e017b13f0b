/-
# Loading policies

The policies that a request is judged by: the active ones in the order of the store, with their rules
and targets, but without those that have neither. On request each policy is validated, and the first
one with problems ends the loading.
-/

import Clearance.Policy.Validation
import Clearance.Process.Basic

namespace Clearance

namespace Loading

/-- An entry of the trace. -/
def entry (message : String) : TraceEntry := ⟨.policies, .debug, message⟩

/-- The failure of the look-up of the policies. -/
def failure (message : String) : Failure := .policyStore ("Failed to load policies: " ++ message) none

/-- The failure of the look-up of one policy's conditions. -/
def conditionFailure (p : Policy) (message : String) : Failure :=
  .policyStore s!"Failed to load rules and targets for policy {p.name}: {message}" (some p.id)

/-- A policy with the conditions that are stored for it. -/
def attach (p : Policy) : Attempt Policy :=
  Attempt.framed (conditionFailure p) do
    let rules ← Attempt.call (.rules p.id)
    let targets ← Attempt.call (.targets p.id)
    return { p with rules := rules, targets := targets }

/-- The failure of a policy with problems. -/
def invalid (p : Policy) : Failure :=
  .policyValidation (s!"Policy {p.name} is invalid: " ++ Text.joined "; " p.problems) p.name
    p.problems

/-- Refuse a policy with problems, and tell those who watch. If that goes wrong, this is what is
reported. -/
def check (p : Policy) : Attempt Unit := do
  if !p.problems.isEmpty then
    match ← Attempt.pose (.reject p.name p.problems) with
    | some message => throw (.other message)
    | none => throw (.failure (invalid p))

/-- The policies of a list that are to be considered. -/
def select (validate : Bool) : List Policy → Attempt (List Policy)
  | [] => return []
  | p :: rest => do
    if !p.isActive then select validate rest
    else
      let p ← attach p
      if p.isEmpty then
        Attempt.note (entry s!"Skipping policy {p.name}: no rules and no targets")
        select validate rest
      else
        if validate then check p
        return p :: (← select validate rest)

end Loading

/-- Load the policies that a request is judged by. -/
def load (validate : Bool) : Attempt (List Policy) := do
  let candidates ← (Attempt.call .activePolicies).framed Loading.failure
  let policies ← Loading.select validate candidates
  Attempt.note (Loading.entry s!"Loaded {policies.length} candidate policies")
  return policies

end Clearance
