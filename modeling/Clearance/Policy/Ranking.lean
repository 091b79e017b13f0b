/-
# Ranking

How the evaluations of the applicable policies come to one decision: the matching policy of the
highest priority decides, and of several the one that was evaluated first.
-/

import Clearance.Policy.Basic

namespace Clearance

/-- The priority of the last policy of an id, or else the evaluation's own. -/
def Evaluation.rank (policies : List Policy) (e : Evaluation) : Int :=
  policies.foldl (fun rank p => if p.id == e.policyId then p.priority else rank) e.priority

/-- The first evaluation of the highest rank. -/
def highest (rank : Evaluation → Int) : List Evaluation → Option Evaluation
  | [] => none
  | e :: rest =>
    match highest rank rest with
    | none => some e
    | some other => if rank e < rank other then some other else some e

/-- A decision with its reason. -/
structure Ruling where
  decision : Decision
  reason : String
deriving DecidableEq

/-- The reason that names the deciding policy. -/
def Evaluation.reasonText (e : Evaluation) : String :=
  (match e.effect with | .permit => "Permitted" | .deny => "Denied") ++
    " by highest priority policy: " ++ e.policyName

/-- The ruling on evaluations. Without any, no policy applies; without a match, access is denied. -/
def resolve (evaluations : List Evaluation) (policies : List Policy) : Ruling :=
  if evaluations.isEmpty then ⟨.notApplicable, "No applicable policies found"⟩
  else
    match highest (Evaluation.rank policies) (evaluations.filter Evaluation.isMatch) with
    | none => ⟨.deny, "No matching policies found"⟩
    | some winner => ⟨winner.effect.decision, winner.reasonText⟩

end Clearance
