/-
# Who decides a request

A request is decided by the standing policies of the directory on the gathered attributes: the first
one, by descending priority with ties in the order of the directory, whose targets and rules hold. The
statement follows a request from the call of the authorizer to the result that is returned; it takes
for granted only that no call to the directory fails and that no comparison does.
-/

import Clearance.Proofs.Authorization.Answering
import Clearance.Proofs.Directory.Loading
import Clearance.Proofs.Policy.Judging

namespace Clearance

/-- A result is what some policies come to on a map: the first of them that applies and whose rules
hold decides; the names of those that apply are kept. -/
structure Result.IsDecidedBy (result : Result) (strict : Bool) (m : AttributeMap)
    (ps : List Policy) : Prop where
  permit_iff : result.decision = .permit ↔
    ∃ p, decider strict m ps = some p ∧ p.effect = .permit
  deny_iff : (result.decision = .deny ∧
      ∃ name, result.reason = "Denied by highest priority policy: " ++ name) ↔
    ∃ p, decider strict m ps = some p ∧ p.effect = .deny
  reason_eq : ∀ p, decider strict m ps = some p →
    result.reason = (match p.effect with | .permit => "Permitted" | .deny => "Denied") ++
      " by highest priority policy: " ++ p.name
  /-- Some policy applies, and none decides. -/
  unmatched : decider strict m ps = none → ps.any (·.applies m) = true →
    result.decision = .deny ∧ result.reason = "No matching policies found"
  inapplicable : ps.any (·.applies m) = false → result.decision = .notApplicable
  applied_eq : result.applied = (ps.filter (·.applies m)).map Policy.name

section Ruling

variable {strict : Bool} {m : AttributeMap} {ps : List Policy}

theorem map_policyName_evaluation (applying : List Policy) :
    (applying.map (·.evaluation strict m)).map Evaluation.policyName =
      applying.map Policy.name := by
  rw [List.map_map]
  rfl

/-- What is said when nothing matches cannot be mistaken for what is said of a policy that denies. -/
theorem noMatch_ne_denied (name : String) :
    "No matching policies found" ≠ "Denied by highest priority policy: " ++ name := by
  intro h
  have hfirst := congrArg (fun s : String => s.toList.head?) h
  simp [String.toList_append] at hfirst

/-- A policy that decides makes a result of its effect, in words that name it. -/
theorem isDecidedBy_of_decider {p : Policy} (hdecider : decider strict m ps = some p) :
    Result.IsDecidedBy ⟨p.effect.decision, (p.evaluation strict m).reasonText,
      (ps.filter (·.applies m)).map Policy.name⟩ strict m ps where
  permit_iff := by
    rw [hdecider]
    cases heffect : p.effect <;> simp [heffect, Effect.decision]
  deny_iff := by
    rw [hdecider]
    cases heffect : p.effect with
    | permit => simp [heffect, Effect.decision]
    | deny =>
        refine ⟨fun _ => ⟨p, rfl, heffect⟩, fun _ => ⟨rfl, p.name, ?_⟩⟩
        simp only [Evaluation.reasonText, Policy.evaluation, heffect]
        rfl
  reason_eq := by
    intro q hq
    rw [hdecider] at hq
    cases hq
    rfl
  unmatched := by
    intro hnone
    rw [hdecider] at hnone
    cases hnone
  inapplicable := by
    intro hany
    rw [any_applies_of_decider hdecider] at hany
    cases hany
  applied_eq := rfl

/-- Without a policy that decides, it matters only whether some policy applies. -/
theorem isDecidedBy_of_no_decider (hdecider : decider strict m ps = none) {ruling : Ruling}
    (hruling : ruling = if ps.any (·.applies m) then ⟨.deny, "No matching policies found"⟩
      else ⟨.notApplicable, "No applicable policies found"⟩) :
    Result.IsDecidedBy ⟨ruling.decision, ruling.reason,
      (ps.filter (·.applies m)).map Policy.name⟩ strict m ps where
  permit_iff := by
    rw [hdecider, hruling]
    cases ps.any (·.applies m) <;> simp
  deny_iff := by
    rw [hdecider, hruling]
    cases ps.any (·.applies m) <;> simp [noMatch_ne_denied]
  reason_eq := by
    intro p hp
    rw [hdecider] at hp
    cases hp
  unmatched := by
    intro _ hany
    rw [hruling, hany]
    exact ⟨rfl, rfl⟩
  inapplicable := by
    intro hany
    rw [hruling, hany]
    rfl
  applied_eq := rfl

/-- Policies in the order of their priorities are ruled by the first that decides. -/
theorem isDecidedBy_ofRuling (hids : (ps.map Policy.id).Nodup)
    (hdesc : ps.Pairwise fun p q => q.priority ≤ p.priority) :
    (Result.ofRuling
        (resolve ((ps.filter (·.applies m)).map (·.evaluation strict m)) ps)
        ((ps.filter (·.applies m)).map (·.evaluation strict m))).IsDecidedBy strict m ps := by
  simp only [Result.ofRuling]
  rw [map_policyName_evaluation, resolve_evaluations hids hdesc]
  cases hdecider : decider strict m ps with
  | some p => exact isDecidedBy_of_decider hdecider
  | none => exact isDecidedBy_of_no_decider hdecider rfl

end Ruling

namespace Authorization

/-- Judging without a fault comes to the result of the ruling, whether a record is handed in or not. -/
theorem judgeOn_yields {σ : Type} (store : Store σ) {s : Settings} (r : Request)
    (subject action : String) {m : AttributeMap} {ps : List Policy} {ruling : Ruling}
    {evaluations : List Evaluation} (w : World σ)
    (hrule : rule s.isStrict m ps = .ok (ruling, evaluations)) :
    ∃ w', (judgeOn s r subject action m ps).Yields (World.handler store) w
      (Result.ofRuling ruling evaluations) w' := by
  obtain ⟨w', hrun⟩ := (judgeOn_endsIn s r subject action m ps).run (World.handler_telling store) w
  rw [outcomeOn, hrule] at hrun
  exact ⟨w', hrun⟩

end Authorization

namespace Directory

variable {d : Directory} {ps : List Policy}

/-- Policies in the order of their priorities are the standing ones, rearranged. -/
theorem IsKeyed.nodup_ids_of_isRankingOf (hd : d.IsKeyed)
    (hps : IsRankingOf Policy.priority d.standing ps) : (ps.map Policy.id).Nodup := by
  have hsorted := isRankingOf_mergeSort Policy.priority d.standing
  rw [hps.unique hsorted]
  have hperm := (List.mergeSort_perm d.standing fun p q => q.priority ≤ p.priority).map Policy.id
  rw [hperm.nodup_iff]
  exact hd.nodup_ids.sublist (List.filter_sublist.map Policy.id)

end Directory

/-- A request gets the result of the ruling of the standing policies, in the order of their priorities, on
the gathered map. -/
theorem Directory.authorize_ofRuling {s : Settings} {r : Request} {subject action : String}
    {w : World Directory} {m : AttributeMap} {ps : List Policy} {ruling : Ruling}
    {evaluations : List Evaluation}
    (hlimit : s.requestTimeout = none) (hvalidate : s.doesValidate = false)
    (hkeyed : w.store.IsKeyed) (hr : r.Names subject action)
    (hcalls : Process.Unfailing (World.handler store) (authorize s r none) w)
    (hm : ((service s).gather subject action r.resource r.resourceType r.context w).1 =
      some (.ok m))
    (hps : IsRankingOf Policy.priority w.store.standing ps)
    (hrule : rule s.isStrict m ps = .ok (ruling, evaluations)) :
    ∃ w', (service s).authorize r none w = (some (Result.ofRuling ruling evaluations), w') := by
  obtain ⟨w₁, hgather⟩ : ∃ w₁, (gather s.doesRoleOverride subject action r.resource r.resourceType
      r.context).Yields (World.handler store) w m w₁ := (service s).yields_of_attempt_eq_some hm
  have hnone : Authorization.limitOf s none = none := hlimit
  rw [Authorization.authorize_of_limitOf_eq_none r hnone] at hcalls
  have hevaluate := hcalls.left
  rw [Authorization.evaluate_of_names hr] at hevaluate
  have hloading := hgather.unfailing_right hevaluate
  have hserves := hkeyed.load_serves hps
  rw [← hvalidate] at hserves
  obtain ⟨w₂, hload⟩ := hserves w₁ (yields_content hgather) (Attempt.unfailing_left hloading)
  obtain ⟨w₃, hjudge⟩ := Authorization.judgeOn_yields store r subject action w₂ hrule
  have heval := hgather.bind (f := fun m =>
    load s.doesValidate >>= Authorization.judgeOn s r subject action m) (hload.bind hjudge)
  rw [← Authorization.evaluate_of_names hr] at heval
  obtain ⟨w', hanswer, _⟩ := (service s).authorize_of_evaluate hlimit heval
  exact ⟨w', hanswer⟩

/-- **Who decides.** On a directory whose calls do not fail, and without a time limit or validation, a
request that names its subject and its action has a result; and when the comparisons of the standing
policies on the gathered attributes do not fail, those policies decide it in the order of their
priorities. -/
theorem Directory.authorize_isDecidedBy {s : Settings} {r : Request} {subject action : String}
    {w : World Directory} {m : AttributeMap} {ps : List Policy}
    (hlimit : s.requestTimeout = none) (hvalidate : s.doesValidate = false)
    (hkeyed : w.store.IsKeyed) (hr : r.Names subject action)
    (hcalls : Process.Unfailing (World.handler store) (authorize s r none) w)
    (hm : ((service s).gather subject action r.resource r.resourceType r.context w).1 =
      some (.ok m))
    (hps : IsRankingOf Policy.priority w.store.standing ps)
    (hcompare : ∀ p ∈ ps, ∃ e, p.evaluate s.isStrict m = .ok e) :
    ∃ result w', (service s).authorize r none w = (some result, w') ∧
      result.IsDecidedBy s.isStrict m ps := by
  obtain ⟨w', hanswer⟩ := Directory.authorize_ofRuling hlimit hvalidate hkeyed hr hcalls hm hps
    (rule_eq_of_evaluate_ok hcompare)
  refine ⟨_, w', hanswer, ?_⟩
  exact isDecidedBy_ofRuling (hkeyed.nodup_ids_of_isRankingOf hps) hps.descending

/-- Of two policies of one priority that match, the one that was kept first decides. -/
theorem Directory.readingRoom_isDecidedBy_readers :
    ∃ result w', (service {}).authorize { subject := some "ann", action := some "read" } none
        readingWorld = (some result, w') ∧
      result.IsDecidedBy false readingMap readingRoom.standing ∧
      result.reason = "Permitted by highest priority policy: readers" := by
  have hkeyed : readingWorld.store.IsKeyed := (((Seeded.empty.policy _).policy _).policy _).isKeyed
  have hnames : Request.Names { subject := some "ann", action := some "read" } "ann" "read" :=
    ⟨rfl, rfl, by decide +kernel, by decide +kernel⟩
  have hcalls : Process.Unfailing (World.handler store)
      (authorize {} { subject := some "ann", action := some "read" } none) readingWorld :=
    unfailing_of_failing_eq_nil _ (by decide +kernel)
  have hm : ((service {}).gather "ann" "read" none none [] readingWorld).1 =
      some (.ok readingMap) := rfl
  have hps : IsRankingOf Policy.priority readingWorld.store.standing readingRoom.standing :=
    ⟨by decide +kernel, fun _ => rfl⟩
  have hcompare : ∀ p ∈ readingRoom.standing, ∃ e, p.evaluate (Settings.isStrict {}) readingMap = .ok e := by
    have hall : readingRoom.standing.all fun p => (p.evaluate (Settings.isStrict {}) readingMap).isOk := by
      decide +kernel
    exact fun p hp => ok_of_isOk (List.all_eq_true.mp hall p hp)
  obtain ⟨result, w', hanswer, hdecided⟩ := @authorize_isDecidedBy {}
    { subject := some "ann", action := some "read" } "ann" "read" readingWorld readingMap
    readingRoom.standing rfl (by decide +kernel) hkeyed hnames hcalls hm hps hcompare
  have hdecider : (decider false readingMap readingRoom.standing).map
      (fun p => (p.name, p.effect)) = some ("readers", .permit) := by
    decide +kernel
  obtain ⟨p, hp, hpair⟩ := Option.map_eq_some_iff.mp hdecider
  obtain ⟨hname, heffect⟩ := Prod.mk.inj hpair
  refine ⟨result, w', hanswer, hdecided, ?_⟩
  rw [hdecided.reason_eq p hp, heffect, hname]
  decide

end Clearance
