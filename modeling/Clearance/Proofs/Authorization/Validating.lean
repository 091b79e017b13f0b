/-
# Validating policies

What a store offers are its active policies with the conditions that it answers for them, without those
that have none. A service loads what its store offers, and if it validates, it is stopped by the first
policy with a problem. So a request is answered without a decision as soon as one offered policy has a
problem. If none has, a service that validates and one that does not go side by side: no check ever
stops the first, and nothing that is evaluated is unknown to the second.
-/

import Clearance.Proofs.Authorization.Answering
import Clearance.Proofs.Directory.Loading
import Clearance.Proofs.Policy.Validation
import Clearance.Proofs.Service.Steady

namespace Clearance

open Attempt

/-! ## What a store offers -/

namespace Store

variable {σ : Type} (store : Store σ) (s : σ)

/-- A store answers a call. -/
def Gives (call : StoreCall) (a : call.Answer) : Prop := (store.ask call s).1 = .answered a

/-- A candidate becomes a policy with the conditions that the store answers for it. -/
def Completes (candidate p : Policy) : Prop :=
  ∃ rules targets, store.Gives s (.rules candidate.id) rules ∧
    store.Gives s (.targets candidate.id) targets ∧
    p = { candidate with rules := rules, targets := targets }

/-- A policy that one of the candidates becomes, which is active and turns out to have conditions. -/
def OffersOf (candidates : List Policy) (p : Policy) : Prop :=
  ∃ candidate ∈ candidates, candidate.isActive = true ∧ store.Completes s candidate p ∧
    p.isEmpty = false

/-- A store offers a policy for consideration. -/
def Offers (p : Policy) : Prop :=
  ∃ candidates, store.Gives s .activePolicies candidates ∧ store.OffersOf s candidates p

variable {store s} {candidate p attached : Policy} {rest : List Policy}

/-- As a store gives one answer to a call, a candidate becomes one policy. -/
theorem Completes.eq (h : store.Completes s candidate p)
    (hattached : store.Completes s candidate attached) : p = attached := by
  obtain ⟨rules, targets, hrules, htargets, rfl⟩ := h
  obtain ⟨rules', targets', hrules', htargets', rfl⟩ := hattached
  obtain rfl := Reply.answered.inj (hrules.symm.trans hrules')
  obtain rfl := Reply.answered.inj (htargets.symm.trans htargets')
  rfl

theorem offersOf_cons_of_not_isActive (hactive : ¬candidate.isActive = true) :
    store.OffersOf s (candidate :: rest) p ↔ store.OffersOf s rest p := by
  simp only [OffersOf, List.exists_mem_cons_iff]
  exact or_iff_right fun h => hactive h.1

theorem offersOf_cons_of_completes (hactive : candidate.isActive = true)
    (hattached : store.Completes s candidate attached) :
    store.OffersOf s (candidate :: rest) p ↔
      (p = attached ∧ attached.isEmpty = false) ∨ store.OffersOf s rest p := by
  simp only [OffersOf, List.exists_mem_cons_iff]
  apply or_congr_left
  constructor
  · rintro ⟨-, hp, hempty⟩
    obtain rfl := hp.eq hattached
    exact ⟨rfl, hempty⟩
  · rintro ⟨rfl, hempty⟩
    exact ⟨hactive, hattached, hempty⟩

/-- A steady store offers what it offered at the beginning. -/
theorem IsSteady.answersFit (hsteady : store.IsSteady s) :
    store.AnswersFit s (store.Gives s) := by
  intro s' hreaches call a ha
  rw [hsteady s' hreaches call] at ha
  exact ha

end Store

/-! ## What is loaded -/

section Loading

variable {σ : Type} {store : Store σ} {s : σ} {validate : Bool}

/-- Policies are those that are offered, and none of them has a problem if they were validated. -/
structure IsSelection (validate : Bool) (isOffered : Policy → Prop) (ps : List Policy) : Prop where
  mem_iff : ∀ p, p ∈ ps ↔ isOffered p
  problems_eq_nil : validate = true → ∀ p ∈ ps, p.problems = []

theorem IsSelection.congr {isOffered isOffered' : Policy → Prop} {ps : List Policy}
    (h : IsSelection validate isOffered ps) (hiff : ∀ p, isOffered' p ↔ isOffered p) :
    IsSelection validate isOffered' ps :=
  ⟨fun p => (h.mem_iff p).trans (hiff p).symm, h.problems_eq_nil⟩

theorem IsSelection.cons {isOffered isOffered' : Policy → Prop} {p : Policy} {ps : List Policy}
    (h : IsSelection validate isOffered ps) (hiff : ∀ q, isOffered' q ↔ q = p ∨ isOffered q)
    (hp : validate = true → p.problems = []) : IsSelection validate isOffered' (p :: ps) where
  mem_iff := fun q => by rw [List.mem_cons, hiff, h.mem_iff]
  problems_eq_nil := fun hvalidate =>
    List.forall_mem_cons.mpr ⟨hp hvalidate, h.problems_eq_nil hvalidate⟩

/-- A contract in which the answers to calls are those of a store, and everything may be asked. -/
abbrev Told {α : Type} (store : Store σ) (s : σ) (ends : α → Prop) (p : Attempt α) : Prop :=
  Obeys (fun _ => True) (Question.AnswerFits (store.Gives s)) ends p

theorem Loading.candidates_told :
    Told store s (store.Gives s .activePolicies)
      ((Attempt.call .activePolicies).framed Loading.failure) := by
  apply Obeys.framed
  exact Obeys.ending (.call trivial) fun candidates h => h candidates rfl

theorem Loading.attach_told (candidate : Policy) :
    Told store s (store.Completes s candidate) (Loading.attach candidate) := by
  apply Obeys.framed
  refine .bind (.call trivial) fun rules hrules => ?_
  refine .bind (.call trivial) fun targets htargets => ?_
  exact .pure ⟨rules, targets, hrules rules rfl, htargets targets rfl, rfl⟩

theorem Loading.check_of_problems_eq_nil {p : Policy} (hp : p.problems = []) :
    Loading.check p = Pure.pure () := by
  simp only [Loading.check, hp]
  rfl

/-- A check that is passed has found no problem. -/
theorem Loading.check_told (p : Policy) :
    Told store s (fun _ => p.problems = []) (Loading.check p) := by
  by_cases hp : p.problems = []
  · rw [check_of_problems_eq_nil hp]
    exact .pure hp
  · have hfound : (!p.problems.isEmpty) = true := by simpa using hp
    rw [check, if_pos hfound]
    apply Obeys.poseBind trivial
    intro answer _
    cases answer <;> exact .ofExcept nofun

theorem Loading.select_told (validate : Bool) (candidates : List Policy) :
    Told store s (IsSelection validate (store.OffersOf s candidates))
      (Loading.select validate candidates) := by
  induction candidates with
  | nil =>
      apply Obeys.pure
      exact ⟨fun p => by simp [Store.OffersOf], fun _ => List.forall_mem_nil _⟩
  | cons candidate rest ih =>
      rw [Loading.select]
      by_cases hactive : candidate.isActive = true
      · rw [if_neg (by simp [hactive])]
        apply (Loading.attach_told candidate).bind
        intro attached hattached
        have hiff : ∀ p, store.OffersOf s (candidate :: rest) p ↔
            (p = attached ∧ attached.isEmpty = false) ∨ store.OffersOf s rest p :=
          fun _ => Store.offersOf_cons_of_completes hactive hattached
        by_cases hempty : attached.isEmpty = true
        · rw [if_pos hempty]
          apply Obeys.bind (.nothing _)
          intro _ _
          apply ih.ending
          intro ps hps
          exact hps.congr fun p => (hiff p).trans (or_iff_right (by simp [hempty]))
        · rw [if_neg hempty]
          have hrest : (validate = true → attached.problems = []) →
              Told store s (IsSelection validate (store.OffersOf s (candidate :: rest)))
                (do return attached :: (← Loading.select validate rest)) := by
            intro hproblems
            apply ih.bind
            intro ps hps
            exact .pure (hps.cons (fun p => by simpa [hempty] using hiff p) hproblems)
          cases validate with
          | true =>
              rw [if_pos rfl]
              apply (Loading.check_told attached).bind
              intro _ hproblems
              exact hrest fun _ => hproblems
          | false => exact hrest fun h => absurd h Bool.false_ne_true
      · rw [if_pos (by simp [hactive])]
        apply ih.ending
        intro ps hps
        exact hps.congr fun p => Store.offersOf_cons_of_not_isActive hactive

/-- What is loaded is what the store offers. -/
theorem load_told (validate : Bool) :
    Told store s (IsSelection validate (store.Offers s)) (load validate) := by
  apply Loading.candidates_told.bind
  intro candidates hgives
  apply (Loading.select_told validate candidates).bind
  intro ps hps
  apply Obeys.bind (.nothing _)
  intro _ _
  refine .pure (hps.congr fun p => ⟨?_, fun hp => ⟨candidates, hgives, hp⟩⟩)
  rintro ⟨candidates', hgives', hp⟩
  obtain rfl := Reply.answered.inj (hgives.symm.trans hgives')
  exact hp

end Loading

/-! ## Refusing to decide -/

namespace Authorization

variable {σ : Type} {store : Store σ} {s : σ} {settings : Settings} {p : Policy}

/-- Where validation finds a problem, no evaluation yields a result. -/
theorem evaluate_told (hvalidate : settings.doesValidate = true) (hoffered : store.Offers s p)
    (hproblems : p.problems ≠ []) (r : Request) :
    Told store s (fun _ => False) (evaluate settings r) := by
  rcases r.names_or_isBlank with ⟨subject, action, hr⟩ | hblank
  · rw [evaluate_of_names hr]
    apply Obeys.bind (.nothing _)
    intro m _
    apply (load_told settings.doesValidate).bind
    intro ps hps
    have hp : p.problems = [] := hps.problems_eq_nil hvalidate p ((hps.mem_iff p).mpr hoffered)
    exact absurd hp hproblems
  · simp only [Told, Obeys]
    rw [evaluate_of_isBlank settings hblank]
    apply Process.Obeys.done
    intro a h
    cases h

/-- An outcome without a result is concluded without a decision. -/
theorem conclude_indeterminate {outcome : Except Fault Result} (r : Request)
    {trusts : (q : Question) → q.Answer → Prop} (h : ∀ result, outcome ≠ .ok result) :
    Process.Obeys (fun _ => True) trusts (fun result => result.decision = .indeterminate)
      (conclude r outcome) := by
  cases outcome with
  | ok result => exact absurd rfl (h result)
  | error fault => exact .wait trivial fun _ _ => .done rfl

theorem giveUp_indeterminate (r : Request) (limit : Number) {trusts : (q : Question) → q.Answer → Prop} :
    Process.Obeys (fun _ => True) trusts (fun result => result.decision = .indeterminate)
      (giveUp r limit) :=
  .wait trivial fun _ _ => .done rfl

/-- Where validation finds a problem, nothing is decided, in time or out of time. -/
theorem decide_indeterminate (hvalidate : settings.doesValidate = true) (hoffered : store.Offers s p)
    (hproblems : p.problems ≠ []) (r : Request) (limit : Option Number) :
    Process.Obeys (fun _ => True) (Question.AnswerFits (store.Gives s))
      (fun result => result.decision = .indeterminate) (decide settings r limit) := by
  have hevaluate := evaluate_told hvalidate hoffered hproblems r
  simp only [decide]
  cases limit with
  | none =>
      apply Process.Obeys.bind hevaluate
      intro outcome houtcome
      exact conclude_indeterminate r houtcome
  | some limit =>
      dsimp only
      by_cases hover : limit.isAtMost 0
      · rw [if_pos hover]
        exact giveUp_indeterminate r limit
      · rw [if_neg hover]
        cases Span.of limit with
        | error fault =>
            apply conclude_indeterminate r
            intro result hresult
            cases hresult
        | ok span =>
            have hwithin := hevaluate.within span (fun _ _ => trivial)
              fun _ _ h a ha => h a (congrArg some ha)
            apply hwithin.bind
            intro outcome? houtcome
            cases outcome? with
            | some outcome => exact conclude_indeterminate r (houtcome outcome rfl)
            | none => exact giveUp_indeterminate r limit

theorem authorize_indeterminate (hvalidate : settings.doesValidate = true) (hoffered : store.Offers s p)
    (hproblems : p.problems ≠ []) (r : Request) (limit : Option Number) :
    Process.Obeys (fun _ => True) (Question.AnswerFits (store.Gives s))
      (fun result => result.decision = .indeterminate) (authorize settings r limit) := by
  apply (decide_indeterminate hvalidate hoffered hproblems r (limitOf settings limit)).bind
  intro result hresult
  apply Process.Obeys.bind (.nothing (announce r result))
  intro _ _
  exact .done hresult

end Authorization

/-! ## Two services side by side -/

section Alongside

variable {σ : Type} {store : Store σ} {s : σ}

/-- Candidates without problems are selected whether they are validated or not. -/
theorem Loading.select_alongside (candidates : List Policy)
    (h : ∀ p, store.OffersOf s candidates p → p.problems = []) :
    Alongside (Question.AnswerFits (store.Gives s)) Eq (Loading.select true candidates)
      (Loading.select false candidates) := by
  induction candidates with
  | nil => exact .refl _
  | cons candidate rest ih =>
      rw [Loading.select, Loading.select]
      by_cases hactive : candidate.isActive = true
      · rw [if_neg (by simp [hactive]), if_neg (by simp [hactive])]
        have htold : Told store s (store.Completes s candidate) (Loading.attach candidate) :=
          Loading.attach_told candidate
        apply (Alongside.of_obeys htold).bind
        rintro attached _ ⟨rfl, hattached⟩
        have hiff : ∀ p, store.OffersOf s (candidate :: rest) p ↔
            (p = attached ∧ attached.isEmpty = false) ∨ store.OffersOf s rest p :=
          fun _ => Store.offersOf_cons_of_completes hactive hattached
        have hrest := ih fun p hp => h p ((hiff p).mpr (.inr hp))
        by_cases hempty : attached.isEmpty = true
        · rw [if_pos hempty, if_pos hempty]
          exact .bind (.note _ _) fun _ _ _ => hrest
        · rw [if_neg hempty, if_neg hempty, if_pos rfl, if_neg Bool.false_ne_true]
          have hproblems : attached.problems = [] :=
            h attached ((hiff attached).mpr (.inl ⟨rfl, by simpa using hempty⟩))
          rw [Loading.check_of_problems_eq_nil hproblems]
          apply hrest.bind
          rintro ps _ rfl
          exact .refl _
      · rw [if_pos (by simp [hactive]), if_pos (by simp [hactive])]
        exact ih fun p hp => h p ((Store.offersOf_cons_of_not_isActive hactive).mpr hp)

/-- Policies without problems are loaded whether they are validated or not. -/
theorem load_alongside (h : ∀ p, store.Offers s p → p.problems = []) :
    Alongside (Question.AnswerFits (store.Gives s)) Eq (load true) (load false) := by
  apply (Alongside.of_obeys Loading.candidates_told).bind
  rintro candidates _ ⟨rfl, hgives⟩
  apply (Loading.select_alongside candidates fun p hp => h p ⟨candidates, hgives, hp⟩).bind
  rintro ps _ rfl
  exact .refl _

end Alongside

/-- The settings with validation on or off. -/
def Settings.validating (settings : Settings) (on : Bool) : Settings :=
  { settings with validateOperators := .bool on }

namespace Authorization

variable {σ : Type} {store : Store σ} {s : σ}

/-- A request is evaluated with validation alongside itself without. -/
theorem evaluate_alongside_validating (h : ∀ p, store.Offers s p → p.problems = [])
    (settings : Settings) (r : Request) :
    Alongside (Question.AnswerFits (store.Gives s)) Eq (evaluate (settings.validating true) r)
      (evaluate (settings.validating false) r) := by
  rcases r.names_or_isBlank with ⟨subject, action, hr⟩ | hblank
  · rw [evaluate_of_names hr, evaluate_of_names hr]
    apply Alongside.bind (.refl _)
    rintro m _ rfl
    apply (load_alongside h).bind
    rintro ps _ rfl
    exact .refl (judgeOn settings r subject action m ps)
  · simp only [Alongside]
    rw [evaluate_of_isBlank _ hblank, evaluate_of_isBlank _ hblank]
    exact .part (.intro (.error _))

/-- A request is decided with validation alongside itself without, with a time limit or without. -/
theorem decide_alongside_validating (h : ∀ p, store.Offers s p → p.problems = [])
    (settings : Settings) (r : Request) (limit : Option Number) :
    Process.Alongside (Question.AnswerFits (store.Gives s)) (Process.Meet Eq)
      (decide (settings.validating true) r limit) (decide (settings.validating false) r limit) := by
  have hevaluate := evaluate_alongside_validating h settings r
  simp only [decide]
  cases limit with
  | none =>
      apply Process.Alongside.bindMeet hevaluate
      rintro outcome outcome' houtcome
      obtain rfl := houtcome.eq
      exact .refl (fun _ => rfl) _
  | some limit =>
      dsimp only
      by_cases hover : limit.isAtMost 0
      · rw [if_pos hover, if_pos hover]
        exact .refl (fun _ => rfl) _
      · rw [if_neg hover, if_neg hover]
        cases Span.of limit with
        | error fault => exact .refl (fun _ => rfl) _
        | ok span =>
            have hwithin : Process.Alongside (Question.AnswerFits (store.Gives s)) (Process.Meet Eq)
                ((evaluate (settings.validating true) r).run.within span)
                ((evaluate (settings.validating false) r).run.within span) := by
              apply hevaluate.within span
              · exact fun _ _ h a ha => h a (congrArg some ha)
              · rintro _ _ ⟨houtcome⟩
                exact .intro (congrArg some houtcome.eq)
              · exact .intro rfl
            apply hwithin.bindMeet
            rintro outcome? _ rfl
            exact .refl (fun _ => rfl) _

/-- A request is answered with validation alongside itself without. -/
theorem authorize_alongside_validating (h : ∀ p, store.Offers s p → p.problems = [])
    (settings : Settings) (r : Request) (limit : Option Number) :
    Process.Alongside (Question.AnswerFits (store.Gives s)) (Process.Meet Eq)
      (authorize (settings.validating true) r limit)
      (authorize (settings.validating false) r limit) := by
  apply (decide_alongside_validating h settings r (limitOf settings limit)).bindMeet
  rintro result _ rfl
  exact .refl (fun _ => rfl) _

end Authorization

/-! ## Services -/

namespace Service

variable {σ : Type} {service : Service σ} {w : World σ}

/-- A service with validation on or off. -/
def validating (service : Service σ) (on : Bool) : Service σ :=
  { service with settings := service.settings.validating on }

/-- The world in which a request gets going. Where its time is limited, the audit goes first. -/
def ready (service : Service σ) (limit : Option Number) (w : World σ) : World σ :=
  if (Authorization.limitOf service.settings limit).isSome then w.serve service.store else w

theorem authorize_fst (r : Request) (limit : Option Number) :
    (service.authorize r limit w).1 =
      ((Clearance.authorize service.settings r limit).run (World.handler service.store)
        (service.ready limit w)).1.result? := rfl

/-- A request gets going in a world that waits for answers if it is made in one. -/
theorem isServed_ready (hw : w.isHasty = false) (limit : Option Number) :
    World.IsServed service.store w.store (service.ready limit w) := by
  rw [ready]
  split
  · constructor
    · exact World.reaches_serve .refl
    · exact (congrArg World.Surroundings.isHasty (World.surroundings_serve service.store w)).trans hw
  · exact ⟨.refl, hw⟩

/-- **Validation.** Over a steady store that holds no call, a service that validates answers a request
without a decision if the store offers a policy with a problem. If no policy has a problem that is
offered, it answers as it does without validation, and what it loads for an evaluation, at any time, is
understood. -/
theorem authorize_of_validating (hsteady : service.store.IsSteady w.store)
    (hprompt : service.store.IsPrompt w.store) (hw : w.isHasty = false) (r : Request)
    (limit : Option Number) :
    ((∃ p, service.store.Offers w.store p ∧ p.problems ≠ []) →
      ∃ result, ((service.validating true).authorize r limit w).1 = some result ∧
        result.decision = .indeterminate) ∧
    ((∀ p, service.store.Offers w.store p → p.problems = []) →
      (∃ result, ((service.validating true).authorize r limit w).1 = some result ∧
        ((service.validating false).authorize r limit w).1 = some result) ∧
      ∀ on w' ps, service.store.Reaches w.store w'.store →
        ((service.validating on).load w').1 = some (.ok ps) → ∀ p ∈ ps, p.IsUnderstood) := by
  have hready : World.IsServed service.store w.store (service.ready limit w) :=
    isServed_ready hw limit
  have hagrees := World.agrees_of_answersFit hsteady.answersFit
  have hends := fun on => hready.run (hprompt.staysPrompt hsteady)
    (Clearance.authorize (service.validating on).settings r limit)
  obtain ⟨result, w₁, hrun⟩ := hends true
  have hanswer : ((service.validating true).authorize r limit w).1 = some result := by
    rw [authorize_fst]
    exact congrArg (fun run => run.1.result?) hrun
  constructor
  · rintro ⟨p, hoffered, hproblems⟩
    have hvalidate : (service.validating true).settings.doesValidate = true := rfl
    have hobeys := Authorization.authorize_indeterminate hvalidate hoffered hproblems r limit
    have hkept := hobeys.run hagrees.honours ⟨rfl, hready.reaches⟩
    exact ⟨result, hanswer, hkept.2 result (congrArg Prod.fst hrun)⟩
  · intro h
    constructor
    · refine ⟨result, hanswer, ?_⟩
      rw [← hanswer, authorize_fst, authorize_fst]
      have halongside := Authorization.authorize_alongside_validating h service.settings r limit
      refine (halongside.result?_run hagrees ?_ ⟨rfl, hready.reaches⟩).symm
      rintro _ _ _ _ ⟨rfl⟩ _
      rfl
    · intro on w' ps hreaches hload p hp
      apply Policy.isUnderstood_of_problems_eq_nil
      apply h
      obtain ⟨w'', hyields⟩ := (service.validating on).yields_of_attempt_eq_some hload
      have hloaded := (load_told (service.validating on).settings.doesValidate).run hagrees.honours
        ⟨rfl, hreaches⟩
      exact ((hloaded.2 _ (congrArg Prod.fst hyields) ps rfl).mem_iff p).mp hp

end Service

/-! ## Directories -/

namespace Directory

variable {d : Directory} {p : Policy}

theorem gives_iff (hfailing : d.failing = []) {call : StoreCall} {a : call.Answer} :
    store.Gives d call a ↔ a = d.answer call := by
  have hask : (store.ask call d).1 = .answered (d.answer call) := by
    show (if d.failing.contains call.name then Reply.failed (.failure (refusal call))
      else .answered (d.answer call)) = _
    rw [hfailing]
    rfl
  rw [Store.Gives, hask, Reply.answered.injEq, eq_comm]

theorem completes_iff (hfailing : d.failing = []) {candidate : Policy} :
    store.Completes d candidate p ↔ p = d.attached candidate := by
  simp only [Store.Completes, gives_iff hfailing]
  constructor
  · rintro ⟨rules, targets, rfl, rfl, rfl⟩
    rfl
  · rintro rfl
    exact ⟨_, _, rfl, rfl, rfl⟩

/-- A keyed directory that fails on no call offers its standing policies. -/
theorem IsKeyed.offers_iff (hd : d.IsKeyed) (hfailing : d.failing = []) :
    store.Offers d p ↔ p ∈ d.standing := by
  have hoffers : store.Offers d p ↔
      p ∈ (d.activePolicies.filter Policy.isActive).map d.attached ∧ p.isEmpty = false := by
    simp only [Store.Offers, Store.OffersOf, gives_iff hfailing, completes_iff hfailing,
      exists_eq_left, List.mem_map, List.mem_filter]
    constructor
    · rintro ⟨candidate, hmem, hactive, rfl, hempty⟩
      exact ⟨⟨candidate, ⟨hmem, hactive⟩, rfl⟩, hempty⟩
    · rintro ⟨⟨candidate, ⟨hmem, hactive⟩, rfl⟩, hempty⟩
      exact ⟨candidate, hmem, hactive, rfl, hempty⟩
  rw [hoffers, hd.map_attached_activePolicies, List.mem_mergeSort, standing, List.mem_filter,
    List.mem_filter, Bool.and_eq_true, Bool.not_eq_true', and_assoc]

/-- A policy with an operator that nobody knows. -/
def strayPolicy : Policy where
  id := "4"
  name := "stray"
  effect := .permit
  rules := [{ reference := some "action.action_name", operator := some "resembles"
              value := .text "read" }]

/-- In the reading room it makes no difference whether policies are validated; with the stray policy
among them, nothing is decided any more. -/
theorem readingRoom_authorize_of_validating :
    (∃ result, (((service {}).validating true).authorize
        { subject := some "ann", action := some "read" } none
        { readingWorld with store := readingRoom.putPolicy strayPolicy }).1 = some result ∧
      result.decision = .indeterminate) ∧
    ∃ result, (((service {}).validating true).authorize
        { subject := some "ann", action := some "read" } none readingWorld).1 = some result ∧
      (((service {}).validating false).authorize
        { subject := some "ann", action := some "read" } none readingWorld).1 = some result := by
  have hkeyed : readingRoom.IsKeyed := (((Seeded.empty.policy _).policy _).policy _).isKeyed
  constructor
  · apply (Service.authorize_of_validating (isSteady _) (isPrompt _) rfl _ none).1
    refine ⟨strayPolicy, ?_, by decide +kernel⟩
    apply ((hkeyed.putPolicy strayPolicy).offers_iff rfl).mpr
    exact List.mem_of_getElem? (i := 2) rfl
  · apply ((Service.authorize_of_validating (isSteady _) (isPrompt _) rfl _ none).2 _).1
    have hvalid : readingRoom.standing.all (fun p => p.problems.isEmpty) = true := by
      decide +kernel
    intro p hp
    have hstanding := (hkeyed.offers_iff rfl).mp hp
    exact List.isEmpty_iff.mp (List.all_eq_true.mp hvalid p hstanding)

end Directory

end Clearance
