/-
# How an answer comes about

Without a time limit, a request is evaluated, the outcome is turned into a result, and the result is
announced. Whatever the outcome, there is a result. Turning and announcing ask nothing but reports, so
they end in every world and leave its store, its cache and its audit as they are.
-/

import Clearance.Proofs.Process.Attempt
import Clearance.Proofs.Service.World
import Clearance.Service.Basic

namespace Clearance

/-! ## Identifiers -/

/-- Whether an identifier is missing, or there is nothing in it but blanks. -/
def isBlank (id : Option String) : Bool := id.all fun s => (Text.strip s).isEmpty

/-- A request names a subject and an action. -/
structure Request.Names (r : Request) (subject action : String) : Prop where
  subject_eq : r.subject = some subject
  action_eq : r.action = some action
  subject_not_blank : isBlank r.subject = false
  action_not_blank : isBlank r.action = false

/-- The field that a request lacks first. -/
def Request.lacking (r : Request) : String := if isBlank r.subject then "subject_id" else "action_name"

theorem required_of_isBlank {id : Option String} (h : isBlank id) (field : String) :
    required id field = .error (.failure (required.missing field)) := by
  cases id with
  | none => rfl
  | some s => exact if_pos h

theorem required_of_not_isBlank {id : Option String} {s : String} (hid : id = some s)
    (h : isBlank id = false) (field : String) : required id field = .ok s := by
  subst hid
  have hstrip : ¬(Text.strip s).isEmpty := by
    intro hempty
    have hblank : isBlank (some s) = true := hempty
    rw [h] at hblank
    cases hblank
  exact if_neg hstrip

/-- A request names a subject and an action, or one of them is blank. -/
theorem Request.names_or_isBlank (r : Request) :
    (∃ subject action, r.Names subject action) ∨ isBlank r.subject ∨ isBlank r.action := by
  have hsome : ∀ id : Option String, isBlank id = false → ∃ s, id = some s := by
    intro id hid
    cases id with
    | none => cases hid
    | some s => exact ⟨s, rfl⟩
  cases hsubject : isBlank r.subject with
  | true => exact .inr (.inl rfl)
  | false =>
      cases haction : isBlank r.action with
      | true => exact .inr (.inr rfl)
      | false =>
          obtain ⟨subject, hs⟩ := hsome _ hsubject
          obtain ⟨action, ha⟩ := hsome _ haction
          exact .inl ⟨subject, action, hs, ha, hsubject, haction⟩

/-! ## Evaluations -/

namespace Authorization

/-- What an evaluation does with a map and some policies. -/
def judgeOn (s : Settings) (r : Request) (subject action : String) (m : AttributeMap)
    (policies : List Policy) : Attempt Result := do
  Attempt.pose (.note (judgeTrace s.isStrict m policies))
  let (ruling, evaluations) ← ExceptT.mk (Process.done (rule s.isStrict m policies))
  let result := Result.ofRuling ruling evaluations
  match Gathering.given? r.resource with
  | some resource =>
    Attempt.pose (.submit (.of subject resource action result evaluations r.context))
  | none => pure ()
  return result

/-- The request of a subject for an action is evaluated in three stages. -/
theorem evaluate_of_names {s : Settings} {r : Request} {subject action : String}
    (hr : r.Names subject action) :
    evaluate s r =
      gather s.doesRoleOverride subject action r.resource r.resourceType r.context >>= fun m =>
        load s.doesValidate >>= judgeOn s r subject action m := by
  simp only [evaluate]
  rw [required_of_not_isBlank hr.subject_eq hr.subject_not_blank,
    required_of_not_isBlank hr.action_eq hr.action_not_blank]
  rfl

/-- A request without a subject or an action is not evaluated at all. -/
theorem evaluate_of_isBlank (s : Settings) {r : Request}
    (hr : isBlank r.subject ∨ isBlank r.action) :
    (evaluate s r).run = .done (.error (.failure (required.missing r.lacking))) := by
  simp only [evaluate, Request.lacking]
  cases hsubject : isBlank r.subject with
  | true =>
      rw [required_of_isBlank hsubject]
      rfl
  | false =>
      have haction : isBlank r.action := by
        rw [hsubject] at hr
        simpa using hr
      obtain ⟨subject, hs⟩ : ∃ subject, r.subject = some subject := by
        cases hid : r.subject with
        | none =>
            rw [hid] at hsubject
            cases hsubject
        | some subject => exact ⟨subject, rfl⟩
      rw [required_of_not_isBlank hs hsubject, required_of_isBlank haction]
      rfl

end Authorization

/-! ## Results -/

namespace Authorization

/-- The result that an outcome is turned into. -/
def concluded : Except Fault Result → Result
  | .ok result => result
  | .error fault => .indeterminate ("Authorization error: " ++ fault.message)

/-- What is done with the outcome of an evaluation. -/
def finish (r : Request) (outcome : Except Fault Result) : Process Result := do
  let result ← conclude r outcome
  announce r result
  return result

/-- A request without a time limit is evaluated, and its outcome finished. -/
theorem authorize_of_limitOf_eq_none {s : Settings} {limit : Option Number} (r : Request)
    (h : limitOf s limit = none) :
    authorize s r limit = (evaluate s r).run >>= finish r := by
  simp only [authorize, decide]
  rw [h]
  exact Process.bind_bind _ _ _

theorem conclude_endsIn (r : Request) (outcome : Except Fault Result) :
    (conclude r outcome).EndsIn (fun q => q.isReport) (concluded outcome) := by
  cases outcome with
  | ok result => exact .done result
  | error fault => exact .wait rfl fun _ => .done _

theorem announce_endsIn (r : Request) (result : Result) :
    (announce r result).EndsIn (fun q => q.isReport) () := by
  refine .wait rfl fun fault => ?_
  cases fault with
  | none => exact .done ()
  | some message => exact .wait rfl fun _ => .done ()

/-- Whatever the outcome of an evaluation, it is finished with a result. -/
theorem finish_endsIn (r : Request) (outcome : Except Fault Result) :
    (finish r outcome).EndsIn (fun q => q.isReport) (concluded outcome) :=
  (conclude_endsIn r outcome).bind ((announce_endsIn r (concluded outcome)).bind (.done _))

/-- What some policies on a map come to. -/
def outcomeOn (s : Settings) (m : AttributeMap) (policies : List Policy) : Except Fault Result :=
  (rule s.isStrict m policies).map fun (ruling, evaluations) => .ofRuling ruling evaluations

/-- Once the policies are loaded, there is nothing left but to tell what they come to. -/
theorem judgeOn_endsIn (s : Settings) (r : Request) (subject action : String) (m : AttributeMap)
    (policies : List Policy) :
    (judgeOn s r subject action m policies).run.EndsIn (fun q => q.isTelling)
      (outcomeOn s m policies) := by
  simp only [judgeOn, outcomeOn]
  refine .wait rfl fun _ => ?_
  cases rule s.isStrict m policies with
  | error fault => exact .done _
  | ok ruled =>
      cases hgiven : Gathering.given? r.resource with
      | none => exact .done _
      | some resource => exact .wait rfl fun _ => .done _

end Authorization

namespace Service

variable {σ : Type} (service : Service σ)

/-- A process that has a result was run to its end. -/
theorem done_of_run_eq_some {α : Type} {p : Process α} {w : World σ} {a : α}
    (h : (service.run p w).1 = some a) :
    ∃ w', p.run (World.handler service.store) w = (.done a, w') := by
  simp only [run] at h
  rcases hp : p.run (World.handler service.store) w with ⟨b | ⟨q, next⟩, w'⟩
  · rw [hp] at h
    cases h
    exact ⟨w', rfl⟩
  · rw [hp] at h
    cases h

/-- An attempt that has a value for a result yields it. -/
theorem yields_of_attempt_eq_some {α : Type} {p : Attempt α} {w : World σ} {a : α}
    (h : (service.attempt p w).1 = some (.ok a)) :
    ∃ w', p.Yields (World.handler service.store) w a w' :=
  service.done_of_run_eq_some h

theorem run_of_done {α : Type} {p : Process α} {w w' : World σ} {a : α}
    (h : p.run (World.handler service.store) w = (.done a, w')) :
    service.run p w = (some a, w') := by
  simp only [run]
  rw [h]
  rfl

theorem attempt_of_yields {α : Type} {p : Attempt α} {w w' : World σ} {a : α}
    (h : p.Yields (World.handler service.store) w a w') :
    service.attempt p w = (some (.ok a), w') :=
  service.run_of_done h

/-- Without a time limit, answering a request is one run. -/
theorem authorize_of_run {r : Request} {w w' : World σ} {result : Result}
    (hlimit : service.settings.requestTimeout = none)
    (h : (Clearance.authorize service.settings r none).run (World.handler service.store) w =
      (.done result, w')) :
    service.authorize r none w = (some result, w') := by
  have hnone : Authorization.limitOf service.settings none = none := hlimit
  simp only [authorize, hnone, Option.isSome_none, Bool.false_eq_true, if_false]
  rw [service.run_of_done h]

theorem run_of_authorize {r : Request} {w w' : World σ} {result : Result}
    (hlimit : service.settings.requestTimeout = none)
    (h : service.authorize r none w = (some result, w')) :
    (Clearance.authorize service.settings r none).run (World.handler service.store) w =
      (.done result, w') := by
  have hnone : Authorization.limitOf service.settings none = none := hlimit
  simp only [authorize, hnone, Option.isSome_none, Bool.false_eq_true, if_false] at h
  obtain ⟨w₁, hrun⟩ := service.done_of_run_eq_some (congrArg Prod.fst h)
  rw [service.run_of_done hrun] at h
  cases h
  exact hrun

/-- A request whose evaluation comes to an outcome is answered. -/
theorem authorize_of_evaluate {r : Request} {w w' : World σ} {outcome : Except Fault Result}
    (hlimit : service.settings.requestTimeout = none)
    (h : (Authorization.evaluate service.settings r).run.run (World.handler service.store) w =
      (.done outcome, w')) :
    ∃ w'', service.authorize r none w = (some (Authorization.concluded outcome), w'') ∧
      (Clearance.authorize service.settings r none).exchanges (World.handler service.store) w =
        (Authorization.evaluate service.settings r).run.exchanges (World.handler service.store) w ++
          (Authorization.finish r outcome).exchanges (World.handler service.store) w' ∧
      w''.store = w'.store ∧ w''.cache = w'.cache ∧ w''.audit = w'.audit := by
  have hnone : Authorization.limitOf service.settings none = none := hlimit
  have hshape := Authorization.authorize_of_limitOf_eq_none r hnone
  obtain ⟨w'', hrun, hsame⟩ :=
    World.run_of_reports service.store w' (Authorization.finish_endsIn r outcome)
  refine ⟨w'', ?_, ?_, hsame⟩
  · have hwhole : (Clearance.authorize service.settings r none).run
        (World.handler service.store) w = (.done (Authorization.concluded outcome), w'') := by
      rw [hshape, Process.run_bind_of_done h, hrun]
    exact service.authorize_of_run hlimit hwhole
  · rw [hshape, Process.exchanges_bind_of_done h]

end Service

end Clearance
