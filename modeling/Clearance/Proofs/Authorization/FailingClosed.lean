/-
# Failing closed

Whichever call to the store fails in a request, and whenever it does, the request is answered without a
decision. The evaluation ends with the call: no record is handed in after it, and no map was kept
before it unless every attribute of the request had been looked up. A request without a subject or an
action does not even get to its first call.

The fault of a call is passed on in the words of the place where it was met. That place is a frame, and
there are three of them: the attributes, the list of policies, and the conditions of one policy.
-/

import Clearance.Proofs.Attribute.Gathering
import Clearance.Proofs.Authorization.Answering
import Clearance.Proofs.Directory.Loading
import Clearance.Proofs.Policy.Loading

namespace Clearance

open Attempt

/-- The frames in which the faults of the calls of a request are passed on. -/
inductive IsFrameOf (r : Request) : StoreCall → (String → Failure) → Prop
  | attributes {call : StoreCall} {subject : String} (hcall : call.isForPolicies = false)
      (hsubject : r.subject = some subject) :
      IsFrameOf r call (Gathering.failure subject r.resource)
  | policies {call : StoreCall} {frame : String → Failure} (hcall : Loading.IsFrameOf call frame) :
      IsFrameOf r call frame

namespace Authorization

variable {s : Settings} {r : Request} {subject action : String}

theorem evaluate_failsBy (hr : r.Names subject action) :
    FailsBy (PassesIn (IsFrameOf r)) (evaluate s r).run := by
  have hjudge : ∀ m ps, FailsBy (PassesIn (IsFrameOf r)) (judgeOn s r subject action m ps).run :=
    fun m ps => .of_obeys (judgeOn_endsIn s r subject action m ps) nofun
  rw [evaluate_of_names hr]
  refine .bind (gather_failsBy.mono ?_) fun m => .bind ((load_failsBy _).mono ?_) (hjudge m)
  · rintro call fault fault' ⟨frame, ⟨hcall, rfl⟩, rfl⟩
    exact ⟨_, .attributes hcall hr.subject_eq, rfl⟩
  · rintro call fault fault' ⟨frame, hframe, rfl⟩
    exact ⟨frame, .policies hframe, rfl⟩

section Exchanges

variable {ω : Type} {h : Handler ω} {w : ω} {call : StoreCall} {fault : Fault} {x : Exchange}

/-- In an evaluation in which a call fails, no record is handed in. -/
theorem evaluate_hands_nothing_in (hr : r.Names subject action)
    (hfailed : Exchange.failed call fault ∈ (evaluate s r).run.exchanges h w)
    (hx : x ∈ (evaluate s r).run.exchanges h w) : x.question.isHandingIn = false := by
  rw [evaluate_of_names hr] at hfailed hx
  rcases mem_exchanges_bind.mp hx with hx | ⟨m, w₁, hm, hx⟩
  · simpa using gather_asks.of_mem hx
  · rcases mem_exchanges_bind.mp hx with hx | ⟨ps, w₂, hps, hx⟩
    · simpa using (load_asks _).of_isPassive.2.of_mem hx
    · -- Here gathering and loading have succeeded, and what comes after them calls nothing.
      exfalso
      rcases mem_exchanges_bind.mp hfailed with hfailed | ⟨m', w₁', hm', hfailed⟩
      · exact gather_failsBy.not_mem_of_yields hm call fault hfailed
      · cases hm.symm.trans hm'
        rcases mem_exchanges_bind.mp hfailed with hfailed | ⟨ps', w₂', hps', hfailed⟩
        · exact (load_failsBy _).not_mem_of_yields hps call fault hfailed
        · cases (judgeOn_endsIn s r subject action m ps').asks_of_mem hfailed

/-- In an evaluation a map is kept only after every attribute was looked up. -/
theorem evaluate_keeps (hr : r.Names subject action)
    (hx : x ∈ (evaluate s r).run.exchanges h w) (hkeeps : x.question.isKeeping) :
    ∃ now, ∀ call ∈ Gathering.calls subject action r.resource now, ∃ answer,
      Exchange.answered call answer ∈ (evaluate s r).run.exchanges h w := by
  rw [evaluate_of_names hr] at hx ⊢
  rcases mem_exchanges_bind.mp hx with hx | ⟨m, w₁, _, hx⟩
  · obtain ⟨now, hall⟩ := gather_keeps hx hkeeps
    refine ⟨now, fun call hcall => ?_⟩
    obtain ⟨answer, ha⟩ := hall call hcall
    exact ⟨answer, mem_exchanges_bind.mpr (.inl ha)⟩
  · rcases mem_exchanges_bind.mp hx with hx | ⟨ps, w₂, _, hx⟩
    · exact (Asks.not_keeping hx hkeeps (load_asks _).of_isPassive.1).elim
    · have htelling := (judgeOn_endsIn s r subject action m ps).asks_of_mem hx
      rw [Question.isKeeping_of_isTelling htelling] at hkeeps
      cases hkeeps

end Exchanges

end Authorization

/-! ## Answers without a decision -/

/-- What is asked for a request, and what is answered. -/
def Service.exchanges {σ : Type} (service : Service σ) (r : Request) (w : World σ) :
    List Exchange :=
  (Clearance.authorize service.settings r none).exchanges (World.handler service.store) w

/-- How a request is answered when a call fails, and when there is nothing to call for. -/
structure Service.FailsClosed {σ : Type} (service : Service σ) (r : Request) (w : World σ) :
    Prop where
  /-- The fault of the call is the reason, nothing is handed in, and the cache has no new entry unless
  all attributes were looked up. -/
  of_failed : ∀ call fault, Exchange.failed call fault ∈ service.exchanges r w →
    ∃ frame w', IsFrameOf r call frame ∧
      service.authorize r none w =
        (some (.indeterminate ("Authorization error: " ++ (fault.framed frame).message)), w') ∧
      (∀ x ∈ service.exchanges r w, x.question.isHandingIn = false) ∧ w'.submissions = w.submissions ∧
      ((∀ e ∈ w'.remembered, e ∈ w.remembered) ∨
        ∃ subject action now, r.Names subject action ∧
          ∀ call ∈ Gathering.calls subject action r.resource now, ∃ answer,
            Exchange.answered call answer ∈ service.exchanges r w)
  /-- Without a subject or an action, nothing happens but that the result is reported. -/
  of_isBlank : isBlank r.subject ∨ isBlank r.action →
    ∃ w', service.authorize r none w =
        (some (.indeterminate ("Authorization error: " ++ (r.lacking ++ " is required"))), w') ∧
      (∀ x ∈ service.exchanges r w, x.question.isReport) ∧ w'.store = w.store ∧ w'.cache = w.cache ∧
      w'.audit = w.audit

namespace Service

variable {σ : Type} {service : Service σ} {r : Request} {w : World σ}

theorem authorize_of_isBlank (hlimit : service.settings.requestTimeout = none)
    (hr : isBlank r.subject ∨ isBlank r.action) :
    ∃ w', service.authorize r none w =
        (some (.indeterminate ("Authorization error: " ++ (r.lacking ++ " is required"))), w') ∧
      (∀ x ∈ service.exchanges r w, x.question.isReport) ∧
      w'.store = w.store ∧ w'.cache = w.cache ∧ w'.audit = w.audit := by
  have hevaluate := Authorization.evaluate_of_isBlank service.settings hr
  have hrun : (Authorization.evaluate service.settings r).run.run (World.handler service.store) w =
      (.done (.error (.failure (required.missing r.lacking))), w) := by
    rw [hevaluate]
    rfl
  obtain ⟨w', hanswer, hexchanges, hsame⟩ := service.authorize_of_evaluate hlimit hrun
  refine ⟨w', hanswer, ?_, hsame⟩
  rw [exchanges, hexchanges, hevaluate]
  exact fun x hx => (Authorization.finish_endsIn r _).asks_of_mem hx

/-- A call that fails is one of the evaluation of a request that names a subject and an action. -/
theorem failed_mem_evaluate (hlimit : service.settings.requestTimeout = none) {call : StoreCall}
    {fault : Fault}
    (hfailed : Exchange.failed call fault ∈ service.exchanges r w) :
    (∃ subject action, r.Names subject action) ∧
      Exchange.failed call fault ∈ (Authorization.evaluate service.settings r).run.exchanges
        (World.handler service.store) w := by
  have hnone : Authorization.limitOf service.settings none = none := hlimit
  have hmem : Exchange.failed call fault ∈ (Authorization.evaluate service.settings r).run.exchanges
      (World.handler service.store) w := by
    rw [exchanges, Authorization.authorize_of_limitOf_eq_none r hnone, Process.exchanges_bind,
      List.mem_append] at hfailed
    rcases hfailed with hfailed | hfailed
    · exact hfailed
    · rcases hrun : (Authorization.evaluate service.settings r).run.run
        (World.handler service.store) w with ⟨outcome | ⟨q, next⟩, w₁⟩
      · rw [hrun] at hfailed
        cases (Authorization.finish_endsIn r outcome).asks_of_mem hfailed
      · rw [hrun] at hfailed
        cases hfailed
  refine ⟨?_, hmem⟩
  rcases r.names_or_isBlank with hnames | hblank
  · exact hnames
  · rw [Authorization.evaluate_of_isBlank _ hblank] at hmem
    cases hmem

/-- **Failing closed.** Whichever call to the store fails in the run of a request, and whatever the
store and the cache hold, the answer is no decision; nothing is handed in, and nothing is kept of
attributes that were not all looked up. -/
theorem authorize_failsClosed (hlimit : service.settings.requestTimeout = none) :
    service.FailsClosed r w where
  of_isBlank := authorize_of_isBlank hlimit
  of_failed := by
    intro call fault hfailed
    obtain ⟨⟨subject, action, hr⟩, hmem⟩ := failed_mem_evaluate hlimit hfailed
    obtain ⟨fault', w₁, ⟨frame, hframe, rfl⟩, hrun⟩ := (Authorization.evaluate_failsBy hr).run hmem
    have hnothing := fun x hx => Authorization.evaluate_hands_nothing_in (x := x) hr hmem hx
    obtain ⟨w', hanswer, hexchanges, _, hcache, haudit⟩ :=
      service.authorize_of_evaluate hlimit hrun
    rw [exchanges, hexchanges]
    refine ⟨frame, w', hframe, hanswer, ?_, ?_, ?_⟩
    · intro x hx
      rcases List.mem_append.mp hx with hx | hx
      · exact hnothing x hx
      · exact Question.isHandingIn_of_isReport ((Authorization.finish_endsIn r _).asks_of_mem hx)
    · have hsubmissions := World.submissions_of_run hrun hnothing
      simp only [World.submissions] at hsubmissions ⊢
      rw [haudit, hsubmissions]
    · have hsame : w'.remembered = w₁.remembered := by
        simp only [World.remembered]
        rw [hcache]
      rw [hsame]
      by_cases hkeeps : ∃ x ∈ (Authorization.evaluate service.settings r).run.exchanges
          (World.handler service.store) w, x.question.isKeeping = true
      · obtain ⟨x, hx, hkeeps⟩ := hkeeps
        obtain ⟨now, hall⟩ := Authorization.evaluate_keeps hr hx hkeeps
        refine .inr ⟨subject, action, now, hr, fun call hcall => ?_⟩
        obtain ⟨answer, ha⟩ := hall call hcall
        exact ⟨answer, List.mem_append_left _ ha⟩
      · left
        apply World.mem_remembered_of_run hrun
        intro x hx
        exact Bool.eq_false_iff.mpr fun hkeeping => hkeeps ⟨x, hx, hkeeping⟩

end Service

/-- A world in which the policies cannot be had, and maps are cached. -/
def Directory.lockedWorld : World Directory where
  store := { readingRoom with failing := ["get_active_policies"] }
  now := readingWorld.now
  seconds := 0.0
  cache := some { maxSize := .int 10, lifetime := .seconds 60 }

/-- A request to read is not answered there, although all its attributes can be looked up. -/
theorem Directory.lockedWorld_failsClosed :
    ∃ w', (service {}).authorize { subject := some "ann", action := some "read" } none lockedWorld =
        (some (.indeterminate "Authorization error: get_active_policies failed"), w') ∧
      w'.submissions = 0 := by
  have hfailed : Exchange.failed .activePolicies (.failure (refusal .activePolicies)) ∈
      (service {}).exchanges { subject := some "ann", action := some "read" } lockedWorld :=
    List.mem_of_getElem? (i := 8) rfl
  have hclosed : (service {}).FailsClosed { subject := some "ann", action := some "read" }
      lockedWorld := Service.authorize_failsClosed rfl
  obtain ⟨frame, w', _, hanswer, _, hsubmissions, _⟩ := hclosed.of_failed _ _ hfailed
  exact ⟨w', hanswer, hsubmissions⟩

end Clearance
