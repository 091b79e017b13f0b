/-
# What is recorded of an answer

Whatever a request comes to, its result is announced, once and in the words of the result. If there is a
decision on a resource, one record of it is handed in, and else none. Handing in is a part of the
evaluation and announcing comes after it, so it has to be seen that no result is made up in between that
is not the one on record.

Nobody who is told has a say in the matter: the decision, and the policies that it is based on, are the
same whatever becomes of the record and whoever listens to the announcement.
-/

import Clearance.Proofs.Authorization.FailingClosed
import Clearance.Proofs.Policy.Judging
import Clearance.Proofs.Service.Watchers

namespace Clearance

open Attempt

/-! ## Announcements and records -/

/-- The facts of a result. -/
def Result.facts (result : Result) (r : Request) : DecisionFacts where
  resource := r.resource
  action := r.action
  decision := result.decision.name
  reason := some result.reason
  applied := result.applied.map .text
  duration := Drawn.duration

/-- The value of a field. -/
def Value.field? (name : String) : Value → Option Value
  | .dict entries => (entries.find? fun e =>
      match e.1 with
      | .text key => key == name
      | _ => false).map Prod.snd
  | _ => none

/-- A record tells of a result: whose request it was and for what, what was decided, and the policies
that applied, by their names and in their order. -/
structure Record.TellsOf (record : Record) (r : Request) (result : Result) : Prop where
  subject_eq : r.subject = some record.subject
  action_eq : r.action = some record.action
  resource_eq : r.resource = some record.resource
  context_eq : record.context = r.context
  decision_eq : record.decision = result.decision
  applied_eq : record.applied.map (Value.field? "name") =
    result.applied.map fun name => some (.text name)

/-- The records that there have to be of a result: one if there is a decision on a resource. -/
structure Request.IsRecordedBy (r : Request) (result : Result) (records : List Record) : Prop where
  of_decided : (Gathering.given? r.resource).isSome → result.decision ≠ .indeterminate →
    ∃ record, records = [record] ∧ record.TellsOf r result
  of_not_decided : Gathering.given? r.resource = none ∨ result.decision = .indeterminate →
    records = []

theorem Record.of_tellsOf {r : Request} {subject resource action : String}
    (hr : r.Names subject action) (hgiven : Gathering.given? r.resource = some resource)
    (ruling : Ruling) (evaluations : List Evaluation) :
    (Record.of subject resource action (.ofRuling ruling evaluations) evaluations
      r.context).TellsOf r (.ofRuling ruling evaluations) where
  subject_eq := hr.subject_eq
  action_eq := hr.action_eq
  resource_eq := (Option.filter_eq_some_iff.mp hgiven).1
  context_eq := rfl
  decision_eq := rfl
  applied_eq := by
    simp only [Record.of, Result.ofRuling, List.map_map]
    exact List.map_congr_left fun e _ => rfl

theorem rule_ne_indeterminate {strict : Bool} {m : AttributeMap} {policies : List Policy}
    {ruling : Ruling} {evaluations : List Evaluation}
    (h : rule strict m policies = .ok (ruling, evaluations)) : ruling.decision ≠ .indeterminate := by
  simp only [rule] at h
  cases hjudge : judge strict m policies with
  | error fault =>
      rw [hjudge] at h
      cases h
  | ok judged =>
      rw [hjudge] at h
      cases h
      exact resolve_ne_indeterminate _ policies

namespace Authorization

variable {s : Settings} {r : Request} {subject action : String}

/-! ## What an evaluation hands in -/

theorem isRecordedBy_error (r : Request) (fault : Fault) :
    r.IsRecordedBy (concluded (.error fault)) [] where
  of_decided := fun _ hdecision => absurd rfl hdecision
  of_not_decided := fun _ => rfl

/-- Judging hands a record of its outcome in, if there is to be one. -/
theorem judgeOn_hands_in (hr : r.Names subject action) (m : AttributeMap) (policies : List Policy) :
    (judgeOn s r subject action m policies).run.Says Question.handedIn?
      fun outcome records => r.IsRecordedBy (concluded outcome) records := by
  simp only [judgeOn]
  refine .wait fun _ => ?_
  cases hrule : rule s.isStrict m policies with
  | error fault => exact .done (isRecordedBy_error r fault)
  | ok ruled =>
      obtain ⟨ruling, evaluations⟩ := ruled
      have hdecided := rule_ne_indeterminate hrule
      cases hgiven : Gathering.given? r.resource with
      | none =>
          refine .done ⟨fun hsome => ?_, fun _ => rfl⟩
          rw [hgiven] at hsome
          cases hsome
      | some resource =>
          refine .wait fun _ => .done ⟨fun _ _ => ?_, fun hnot => ?_⟩
          · exact ⟨_, rfl, Record.of_tellsOf hr hgiven ruling evaluations⟩
          · rw [hgiven] at hnot
            exact absurd (hnot.resolve_left (Option.some_ne_none resource)) hdecided

/-- An evaluation hands a record of its outcome in, if there is to be one. -/
theorem evaluate_hands_in (s : Settings) (r : Request) :
    (evaluate s r).run.Says Question.handedIn?
      fun outcome records => r.IsRecordedBy (concluded outcome) records := by
  have hquiet : ∀ q : Question, (!q.isHandingIn) = true → q.handedIn? = none := by
    intro q hq
    cases q with
    | submit record => cases hq
    | _ => rfl
  rcases r.names_or_isBlank with ⟨subject, action, hr⟩ | hblank
  · rw [evaluate_of_names hr]
    have hload : ∀ m, (load s.doesValidate >>= judgeOn s r subject action m).run.Says
        Question.handedIn? fun outcome records => r.IsRecordedBy (concluded outcome) records :=
      fun m => (load_asks _).of_isPassive.2.says_bind hquiet (judgeOn_hands_in hr m)
        (isRecordedBy_error r)
    exact gather_asks.says_bind hquiet hload (isRecordedBy_error r)
  · rw [evaluate_of_isBlank s hblank]
    exact .done (isRecordedBy_error r _)

/-- All that is handed in for a request is a record of its result, if there is to be one. -/
theorem authorize_hands_in (hlimit : limitOf s none = none) :
    (authorize s r none).Says Question.handedIn? r.IsRecordedBy := by
  rw [authorize_of_limitOf_eq_none r hlimit]
  refine .bind ((evaluate_hands_in s r).mono fun outcome records hrecords => ?_)
  have hfinish : (finish r outcome).Says Question.handedIn?
      fun result records => result = concluded outcome ∧ records = [] := by
    refine .of_obeys (finish_endsIn r outcome) fun q hq => ?_
    cases q with
    | submit record => cases hq
    | _ => rfl
  refine hfinish.mono fun result more h => ?_
  obtain ⟨rfl, rfl⟩ := h
  rwa [List.append_nil]

/-! ## What is announced -/

theorem evaluate_of_parts {holds : ∀ {α : Type}, Attempt α → Prop} (hparts : IsCompositional holds)
    (hgather : ∀ subject action,
      holds (gather s.doesRoleOverride subject action r.resource r.resourceType r.context))
    (hload : holds (load s.doesValidate)) (hnote : ∀ entries, holds (Attempt.pose (.note entries)))
    (hsubmit : ∀ record, holds (Attempt.pose (.submit record))) : holds (evaluate s r) := by
  refine hparts.bind (hparts.ofExcept _) fun subject => hparts.bind (hparts.ofExcept _) fun action =>
    hparts.bind (hgather subject action) fun m => hparts.bind hload fun policies =>
    hparts.bind (hnote _) fun _ => hparts.bind (hparts.ofExcept _) fun ruled => ?_
  dsimp only
  split
  · exact hparts.bind (hsubmit _) fun _ => hparts.pure _
  · exact hparts.pure _

/-- Gathering says nothing to the log of security events. -/
theorem gather_asks_unlogged (subject action : String) :
    Asks (fun q => !q.isLogged)
      (gather s.doesRoleOverride subject action r.resource r.resourceType r.context) := by
  have hparts := Asks.isCompositional fun q => !q.isLogged
  refine gather_of_parts hparts (fun q _ _ hq => .pose (by rw [hq]; rfl)) fun now => ?_
  exact (Gathering.lookUps_of_parts hparts fun call _ => .call rfl).framed _

/-- An evaluation announces nothing. -/
theorem evaluate_asks : Asks (fun q => q.announced?.isNone) (evaluate s r) := by
  have hparts := Asks.isCompositional fun q => q.announced?.isNone
  refine evaluate_of_parts hparts (fun subject action => ?_) ?_ (fun _ => .pose rfl) fun _ => .pose rfl
  · refine (gather_asks_unlogged subject action).mono fun q hq => ?_
    cases q with
    | announce subject facts => cases hq
    | _ => rfl
  · refine load_of_parts hparts (fun _ => .pose rfl) ?_ (.framed (.call rfl) _) ?_ _
    · exact Loading.check_of_parts hparts fun _ _ => .pose rfl
    · exact fun p => .framed (.bind (.call rfl) fun _ => .bind (.call rfl) fun _ => .pure _) _

theorem conclude_announces (r : Request) (outcome : Except Fault Result) :
    (conclude r outcome).Says Question.announced? fun _ announced => announced = [] := by
  cases outcome with
  | ok result => exact .done rfl
  | error fault => exact .wait fun _ => .done rfl

theorem announce_announces (r : Request) (result : Result) :
    (announce r result).Says Question.announced?
      fun _ announced => announced = [(r.subject, result.facts r)] := by
  refine .wait fun message => ?_
  cases message with
  | none => exact .done rfl
  | some message => exact .wait fun _ => .done rfl

/-- All that is announced of a request is its result. -/
theorem authorize_announces (hlimit : limitOf s none = none) :
    (authorize s r none).Says Question.announced?
      fun result announced => announced = [(r.subject, result.facts r)] := by
  have hfinish : ∀ outcome, (finish r outcome).Says Question.announced?
      fun result announced => announced = [(r.subject, result.facts r)] := by
    intro outcome
    refine .bind ((conclude_announces r outcome).mono fun result _ h => ?_)
    subst h
    refine .bind ((announce_announces r result).mono fun _ _ h => ?_)
    subst h
    exact .done rfl
  have hevaluate : (evaluate s r).run.Says Question.announced? fun _ announced => announced = [] :=
    evaluate_asks.says_nothing fun q hq => Option.isNone_iff_eq_none.mp hq
  rw [authorize_of_limitOf_eq_none r hlimit]
  refine .bind (hevaluate.mono fun outcome _ h => ?_)
  subst h
  exact hfinish outcome

/-! ## What is not heeded -/

/-- A policy with problems is rejected whatever the log makes of it. -/
theorem check_isHeedless (p : Policy) :
    IsHeedless (fun q => q.isForWatchers) (Loading.check p) := by
  simp only [Loading.check]
  split
  · refine .left rfl fun message => .right rfl fun message' => ?_
    cases message <;> cases message' <;> exact .done (.error _ _)
  · exact .done (.ok ())

/-- What an evaluation comes to, if it comes to a decision, does not depend on those who watch. -/
theorem evaluate_isHeedless : IsHeedless (fun q => q.isForWatchers) (evaluate s r) := by
  have hunlogged : ∀ {α : Type} {p : Attempt α}, Asks (fun q => !q.isLogged) p →
      IsHeedless (fun q => q.isForWatchers) p := by
    intro α p hp
    refine .of_asks hp fun q hq hwatched => ?_
    cases q with
    | note entries => exact inferInstanceAs (Subsingleton Unit)
    | submit record => exact inferInstanceAs (Subsingleton Unit)
    | announce subject facts => cases hq
    | reject policy problems => cases hq
    | _ => cases hwatched
  have hparts := IsHeedless.isCompositional fun q => q.isForWatchers
  refine evaluate_of_parts hparts
    (fun subject action => hunlogged (gather_asks_unlogged subject action)) ?_
    (fun _ => hunlogged (.pose rfl)) fun _ => hunlogged (.pose rfl)
  refine load_of_parts hparts (fun _ => hunlogged (.pose rfl)) check_isHeedless ?_ ?_ _
  · exact hunlogged (.framed (.call rfl) _)
  · exact fun p => hunlogged (.framed (.bind (.call rfl) fun _ => .bind (.call rfl) fun _ => .pure _) _)

/-- The decision on a request, and the policies that it is based on, do not depend on those who watch. -/
theorem authorize_heedless (hlimit : limitOf s none = none) :
    Process.Heedless (fun q => q.isForWatchers)
      (fun a b : Result => b.decision = a.decision ∧ b.applied = a.applied)
      (authorize s r none) (authorize s r none) := by
  rw [authorize_of_limitOf_eq_none r hlimit]
  refine Process.Heedless.bind evaluate_isHeedless fun outcome outcome' hends => ?_
  refine .of_endsIn (finish_endsIn r outcome) (finish_endsIn r outcome') (fun q hq => ?_) ?_
  · rw [Question.isForWatchers, Question.isTelling_of_isReport q hq, Bool.true_or]
  · cases hends with
    | ok result => exact ⟨rfl, rfl⟩
    | error fault fault' => exact ⟨rfl, rfl⟩

end Authorization

/-! ## Answers and what is recorded of them -/

namespace Service

variable {σ : Type} (service : Service σ) (r : Request) (w : World σ)

/-- What is announced of a request. -/
def announced : List (Option String × DecisionFacts) :=
  (service.exchanges r w).filterMap fun x => x.question.announced?

/-- The records that are handed in for a request. -/
def handedIn : List Record := (service.exchanges r w).filterMap fun x => x.question.handedIn?

/-- What is recorded of the answer to a request is what was answered. -/
structure Records : Prop where
  /-- There is an answer, unless the store holds a call. -/
  answers : w.isHasty = false → service.store.StaysPrompt w.store →
    ∃ result w', service.authorize r none w = (some result, w')
  /-- It is announced once, and nothing else is. -/
  announces : ∀ result w', service.authorize r none w = (some result, w') →
    service.announced r w = [(r.subject, result.facts r)]
  /-- A record of it is handed in if it is a decision on a resource, and else none. -/
  hands_in : ∀ result w', service.authorize r none w = (some result, w') →
    r.IsRecordedBy result (service.handedIn r w)
  /-- If there is an audit, it gets what is handed in, although it may refuse it. -/
  counts : ∀ result w', service.authorize r none w = (some result, w') → w.audit.isSome →
    w'.submissions = w.submissions + (service.handedIn r w).length
  /-- With other watchers, or none, the decision is the same, and so are the policies that applied. -/
  is_not_swayed : ∀ result w', service.authorize r none w = (some result, w') →
    ∀ {τ : Type} {other : Store τ} {alike : σ → τ → Prop} {v : World τ},
      service.store.RepliesAlike other alike → w.DiffersInWatchers alike v →
        ∃ result' v', Service.authorize ⟨service.settings, other⟩ r none v = (some result', v') ∧
          result'.decision = result.decision ∧ result'.applied = result.applied

variable {service r w}

/-- **What is recorded is what was answered.** Over every store and in every world, the answer to a
request is announced once, as it is; a record of it is handed in once if it is a decision on a resource,
and never otherwise; and neither an audit, whatever becomes of its records, nor a log that fails has a
say in the decision. -/
theorem authorize_records (hlimit : service.settings.requestTimeout = none) :
    service.Records r w where
  answers := by
    intro hwaits hprompt
    have hserved : World.IsServed service.store w.store w := ⟨.refl, hwaits⟩
    obtain ⟨result, w', hrun⟩ :=
      hserved.run hprompt (Clearance.authorize service.settings r none)
    exact ⟨result, w', service.authorize_of_run hlimit hrun⟩
  announces := fun result w' h =>
    (Authorization.authorize_announces hlimit).run (service.run_of_authorize hlimit h)
  hands_in := fun result w' h =>
    (Authorization.authorize_hands_in hlimit).run (service.run_of_authorize hlimit h)
  counts := fun result w' h haudit =>
    World.submissions_run service.store haudit (service.run_of_authorize hlimit h)
  is_not_swayed := by
    intro result w' h τ other alike v hstores hw
    obtain ⟨result', v', hrun, hsame, -⟩ := (Authorization.authorize_heedless (r := r) hlimit).run
      (World.DiffersInWatchers.watchedAlike hstores) hw (service.run_of_authorize hlimit h)
    exact ⟨result', v', Service.authorize_of_run ⟨service.settings, other⟩ hlimit hrun, hsame⟩

end Service

/-! ## A door with two policies -/

/-- A store that gives one answer to each kind of call, and loses its records. -/
def Canned.store (c : Canned) : Store Unit where
  ask := fun call s => (.answered (c.answer call), [], s)
  write := fun _ s => (.written, [], s)

/-- Two policies of one priority that apply to reading. -/
def twoPolicies : Canned where
  policies := [{ id := "1", name := "readers", effect := .permit, priority := 5 },
    { id := "2", name := "closed", effect := .deny, priority := 5 }]
  rules := [{ reference := some "action.action_name", operator := some "equals"
              value := .text "read" }]

/-- The request to read what is behind a door. -/
def doorRequest : Request := { subject := some "ann", action := some "read", resource := some "door" }

/-- A sink that keeps all records. -/
def keepingSink : Sink Record (List Record) :=
  fun record records => (.written, [], records ++ [record])

/-- A sink that fails on every record. -/
def failingSink : Sink Record Unit := fun _ s => (.failed "disk full", [], s)

/-- A service whose records are kept. -/
def keptService : Service (Unit × List Record) := ⟨{}, twoPolicies.store.withSink keepingSink⟩

/-- The same service without any luck with its records. -/
def lossyService : Service (Unit × Unit) := ⟨{}, twoPolicies.store.withSink failingSink⟩

/-- A world in which the service is watched. -/
def keptWorld : World (Unit × List Record) where
  store := ((), [])
  now := ⟨⟨2024, 1, 15⟩, 9, 30, 0, 0, none⟩
  seconds := 0.0
  audit := some { capacity := .int 10, shutdownTimeout := .seconds 5 }
  logger := some {}

/-- The same world with a full queue, a sink that fails and a log that fails. -/
def lossyWorld : World (Unit × Unit) where
  store := ((), ())
  now := ⟨⟨2024, 1, 15⟩, 9, 30, 0, 0, none⟩
  seconds := 0.0
  audit := some {
    capacity := .int 1
    shutdownTimeout := .seconds 5
    queue := some [{ subject := "bob", resource := "door", action := "read", decision := .deny }]
    worker := .waiting }
  logger := some {}
  loggerFault := some "disk full"

/-- The first of the policies opens the door, on record as in the answer; with nothing on record it does
so, too. -/
theorem keptWorld_records :
    ∃ result w', keptService.authorize doorRequest none keptWorld = (some result, w') ∧
      result.decision = .permit ∧ result.applied = ["readers", "closed"] ∧
      keptService.announced doorRequest keptWorld = [(some "ann", result.facts doorRequest)] ∧
      (∃ record, keptService.handedIn doorRequest keptWorld = [record] ∧
        record.TellsOf doorRequest result) ∧
      w'.submissions = 1 ∧
      ∃ result' v', lossyService.authorize doorRequest none lossyWorld = (some result', v') ∧
        result'.decision = .permit ∧ result'.applied = ["readers", "closed"] := by
  have hrecords : keptService.Records doorRequest keptWorld := Service.authorize_records rfl
  have hdecision : (keptService.authorize doorRequest none keptWorld).1.map
      (fun result => (result.decision, result.applied)) = some (.permit, ["readers", "closed"]) := by
    decide +kernel
  obtain ⟨result, hresult, hpair⟩ := Option.map_eq_some_iff.mp hdecision
  obtain ⟨hpermit, happlied⟩ := Prod.mk.inj hpair
  have hanswer : keptService.authorize doorRequest none keptWorld =
      (some result, (keptService.authorize doorRequest none keptWorld).2) := Prod.ext hresult rfl
  have hdecided : result.decision ≠ .indeterminate := by
    rw [hpermit]
    exact nofun
  have hhanded := (hrecords.hands_in _ _ hanswer).of_decided rfl hdecided
  obtain ⟨record, hrecord, htells⟩ := hhanded
  have hcount := hrecords.counts _ _ hanswer rfl
  rw [hrecord] at hcount
  have hstores : keptService.store.RepliesAlike lossyService.store fun s t => s.1 = t.1 :=
    twoPolicies.store.withSink_repliesAlike keepingSink failingSink
  have hworlds : World.DiffersInWatchers (fun s t => s.1 = t.1) keptWorld lossyWorld :=
    ⟨rfl, rfl, rfl, rfl, rfl, rfl, rfl⟩
  obtain ⟨result', v', hanswer', hdecision', happlied'⟩ :=
    hrecords.is_not_swayed _ _ hanswer hstores hworlds
  exact ⟨result, _, hanswer, hpermit, happlied, hrecords.announces _ _ hanswer,
    ⟨record, hrecord, htells⟩, hcount, result', v', hanswer', hdecision'.trans hpermit,
    happlied'.trans happlied⟩

end Clearance
