/-
# The context of a request and qualified policies

Policies whose conditions are all about the subject, the resource or the action cannot be swayed by
the context. Two requests that differ only in their contexts go side by side: they ask the same
questions, gather maps that agree outside of the environment, load the same policies, and so come to
the same result. What they note on the way and the records that they hand in at the end may differ;
nothing that is asked after that depends on it.
-/

import Clearance.Proofs.Attribute.Gathering
import Clearance.Proofs.Authorization.Deciding
import Clearance.Proofs.Service.Likeness

namespace Clearance

open Attempt

/-! ## What is loaded -/

/-- When qualified conditions are answered, qualified policies are loaded. -/
theorem load_obeys (validate : Bool) :
    Obeys (fun _ => True) Question.IsQualified (fun ps => ∀ p ∈ ps, p.IsQualified)
      (load validate) := by
  have hattach : ∀ p, Obeys (fun _ => True) Question.IsQualified Policy.IsQualified
      (Loading.attach p) := by
    intro p
    refine Obeys.framed ?_ _
    refine .bind (.call trivial) fun rules hrules => .bind (.call trivial) fun targets htargets => ?_
    exact .pure ⟨hrules rules rfl, htargets targets rfl⟩
  have hselect : ∀ candidates, Obeys (fun _ => True) Question.IsQualified
      (fun ps => ∀ p ∈ ps, p.IsQualified) (Loading.select validate candidates) := by
    intro candidates
    induction candidates with
    | nil => exact .pure nofun
    | cons p rest ih =>
        rw [Loading.select]
        split
        · exact ih
        · refine .bind (hattach p) fun attached hattached => ?_
          have hrest : Obeys (fun _ => True) Question.IsQualified
              (fun ps => ∀ p ∈ ps, p.IsQualified)
              (do return attached :: (← Loading.select validate rest)) := by
            refine .bind ih fun ps hps => .pure fun q hq => ?_
            rcases List.mem_cons.mp hq with rfl | hq
            · exact hattached
            · exact hps q hq
          split
          · exact .bind (.nothing _) fun _ _ => ih
          · split
            · exact .bind (.nothing _) fun _ _ => hrest
            · exact hrest
  exact .bind (.nothing _) fun _ _ => .bind (hselect _) fun ps hps => .bind (.nothing _)
    fun _ _ => .pure hps

/-! ## Two contexts side by side -/

section Gather

variable {trusts : (q : Question) → q.Answer → Prop} {context context' : List (String × Value)}

theorem AttributeMap.forRequest_agrees (stored : AttributeMap) (now : Time.Moment)
    (resourceType : Option String)
    (h : Value.contextFault? context = Value.contextFault? context') :
    EndAlike Agrees (stored.forRequest now resourceType context)
      (stored.forRequest now resourceType context') := by
  rw [forRequest_eq_bind, forRequest_eq_bind _ _ _ context']
  cases stored.forRequest now resourceType [] with
  | error fault => exact .error fault
  | ok m =>
      show EndAlike Agrees (m.addContext context) (m.addContext context')
      rw [addContext_eq, addContext_eq, ← h]
      cases Value.contextFault? context with
      | some fault => exact .error fault
      | none =>
          exact .ok ((m.agrees_withContext context).symm.trans (m.agrees_withContext context'))

/-- Gathering with two contexts that are written alike comes to maps that agree outside of the
environment. -/
theorem gather_alongside (roleOverrides : Bool) (subject action : String)
    (resource resourceType : Option String)
    (h : Value.contextFault? context = Value.contextFault? context') :
    Alongside trusts AttributeMap.Agrees
      (gather roleOverrides subject action resource resourceType context)
      (gather roleOverrides subject action resource resourceType context') := by
  refine .bind (.refl _) ?_
  rintro now _ rfl
  refine .bind (.refl _) ?_
  rintro stored _ rfl
  refine .bind (.ofExcept (stored.forRequest_agrees now resourceType h)) fun m m' hm => ?_
  exact .bind (.note _ _) fun _ _ _ => .pure hm

end Gather

/-- Two processes have nothing left to do but to tell, and end in one result. -/
def Process.Settle {α : Type} (p p' : Process α) : Prop :=
  ∃ a, p.EndsIn (fun q => q.isTelling) a ∧ p'.EndsIn (fun q => q.isTelling) a

theorem Process.Settle.bind {α β : Type} {p p' : Process α} {f f' : α → Process β}
    (hp : Settle p p') (hf : ∀ a, Settle (f a) (f' a)) : Settle (p >>= f) (p' >>= f') := by
  obtain ⟨a, hfirst, hfirst'⟩ := hp
  obtain ⟨b, hsecond, hsecond'⟩ := hf a
  exact ⟨b, hfirst.bind hsecond, hfirst'.bind hsecond'⟩

theorem Process.Settle.within {α : Type} {p p' : Process α} (hp : Settle p p') (limit : Span) :
    Settle (p.within limit) (p'.within limit) := by
  obtain ⟨a, hends, hends'⟩ := hp
  exact ⟨some a, hends.within limit nofun, hends'.within limit nofun⟩

theorem Process.Settle.done {α : Type} (a : α) : Settle (Process.done a) (Process.done a) :=
  ⟨a, .done a, .done a⟩

namespace Authorization

variable (s : Settings) (r : Request) {context context' : List (String × Value)}

/-- A request is evaluated alongside itself in another context. -/
theorem evaluate_alongside (h : Value.contextFault? context = Value.contextFault? context') :
    Process.Alongside Question.IsQualified Process.Settle
      (evaluate s { r with context := context }).run
      (evaluate s { r with context := context' }).run := by
  rcases r.names_or_isBlank with ⟨subject, action, hr⟩ | hblank
  · have hnames : ∀ c, Request.Names { r with context := c } subject action := fun _ =>
      ⟨hr.subject_eq, hr.action_eq, hr.subject_not_blank, hr.action_not_blank⟩
    rw [evaluate_of_names (hnames context), evaluate_of_names (hnames context')]
    refine (gather_alongside _ _ _ _ _ h).bindRun (fun m m' hm => ?_)
      fun fault => .done _
    refine (Alongside.of_obeys (load_obeys s.doesValidate)).bindRun ?_ fun fault => .done _
    rintro ps _ ⟨rfl, hps⟩
    refine .part ⟨outcomeOn s m ps, judgeOn_endsIn .., ?_⟩
    have houtcome : outcomeOn s m ps = outcomeOn s m' ps := by
      simp only [outcomeOn]
      rw [rule_eq_of_agrees hps hm]
    rw [houtcome]
    exact judgeOn_endsIn ..
  · have hlacking : ∀ c, (evaluate s { r with context := c }).run =
        .done (.error (.failure (required.missing r.lacking))) := fun _ =>
      evaluate_of_isBlank s hblank
    rw [hlacking, hlacking]
    exact .part (.done _)

/-- An outcome is concluded in the same way whatever the context is. -/
theorem conclude_settle (context context' : List (String × Value)) (outcome : Except Fault Result) :
    Process.Settle (conclude { r with context := context } outcome)
      (conclude { r with context := context' } outcome) := by
  have hends := fun c =>
    (conclude_endsIn { r with context := c } outcome).mono Question.isTelling_of_isReport
  exact ⟨concluded outcome, hends context, hends context'⟩

theorem announce_settle (context context' : List (String × Value)) (result : Result) :
    Process.Settle (announce { r with context := context } result)
      (announce { r with context := context' } result) := by
  have hends := fun c =>
    (announce_endsIn { r with context := c } result).mono Question.isTelling_of_isReport
  exact ⟨(), hends context, hends context'⟩

theorem giveUp_settle (context context' : List (String × Value)) (limit : Number) :
    Process.Settle (giveUp { r with context := context } limit)
      (giveUp { r with context := context' } limit) :=
  ⟨.indeterminate timedOut, .wait rfl fun _ => .done _, .wait rfl fun _ => .done _⟩

/-- A request is decided alongside itself in another context, with a time limit or without. -/
theorem decide_alongside (h : Value.contextFault? context = Value.contextFault? context')
    (limit : Option Number) :
    Process.Alongside Question.IsQualified Process.Settle
      (decide s { r with context := context } limit)
      (decide s { r with context := context' } limit) := by
  have hevaluate := evaluate_alongside s r h
  simp only [decide]
  cases limit with
  | none =>
      refine hevaluate.bind fun p p' hsettle => .part (hsettle.bind fun outcome => ?_)
      exact conclude_settle r context context' outcome
  | some limit =>
      dsimp only
      by_cases hover : limit.isAtMost 0
      · rw [if_pos hover, if_pos hover]
        exact .part (giveUp_settle r context context' limit)
      · rw [if_neg hover, if_neg hover]
        cases Span.of limit with
        | error fault => exact .part (conclude_settle r context context' (.error fault))
        | ok span =>
            have hwithin := hevaluate.within span (fun _ _ h a ha => h a (congrArg some ha))
              (fun p p' hsettle => hsettle.within span) (.done none)
            refine hwithin.bind fun p p' hsettle => .part (hsettle.bind fun outcome => ?_)
            cases outcome with
            | some outcome => exact conclude_settle r context context' outcome
            | none => exact giveUp_settle r context context' limit

/-- A request is answered alongside itself in another context. -/
theorem authorize_alongside (h : Value.contextFault? context = Value.contextFault? context')
    (limit : Option Number) :
    Process.Alongside Question.IsQualified Process.Settle
      (authorize s { r with context := context } limit)
      (authorize s { r with context := context' } limit) := by
  refine (decide_alongside s r h (limitOf s limit)).bind fun p p' hsettle => ?_
  exact .part (hsettle.bind fun result =>
    (announce_settle r context context' result).bind fun _ => .done result)

end Authorization

namespace Service

variable {σ : Type} {service : Service σ} {w w' : World σ}

/-- In worlds that differ in nothing but what was said, processes that go side by side until they have
only to tell their result have the same result. -/
theorem run_eq_of_alongside {α : Type} {p p' : Process α}
    (hp : p.Alongside Question.IsQualified Process.Settle p') {s : σ}
    (hs : service.store.IsQualified s) (hreaches : service.store.Reaches s w.store)
    (hw : w.silent = w'.silent) : (service.run p w).1 = (service.run p' w').1 := by
  refine hp.result?_run (World.agrees_of_isQualified hs) ?_ ⟨hw, hreaches⟩
  rintro q q' w₁ w₁' ⟨a, hends, hends'⟩ _
  obtain ⟨w₂, hrun⟩ := hends.run (World.handler_telling service.store) w₁
  obtain ⟨w₂', hrun'⟩ := hends'.run (World.handler_telling service.store) w₁'
  rw [hrun, hrun']

/-- **Noninterference.** Over a store of qualified policies, two requests that differ only in their
contexts have the same result, with the same decision, reason and applied policies, if both contexts
can be written or the same thing prevents it: whatever the settings, the time limit and the cached maps
are, and whatever was said in the world before. -/
theorem authorize_context (hs : service.store.IsQualified w.store) (hw : w.silent = w'.silent)
    (r : Request) (limit : Option Number) {context context' : List (String × Value)}
    (hcontext : Value.contextFault? context = Value.contextFault? context') :
    (service.authorize { r with context := context } limit w).1 =
      (service.authorize { r with context := context' } limit w').1 := by
  have halongside := Authorization.authorize_alongside service.settings r hcontext limit
  unfold authorize
  dsimp only
  by_cases hlimit : (Authorization.limitOf service.settings limit).isSome
  · simp only [hlimit, if_true]
    exact run_eq_of_alongside halongside hs (World.reaches_serve .refl)
      (World.serve_eq_of_silent_eq hw)
  · simp only [hlimit, Bool.false_eq_true, if_false]
    exact run_eq_of_alongside halongside hs .refl hw

end Service

namespace Directory

theorem readingRoom_isQualified : readingRoom.IsQualified := by
  have hrule : Reference.ofString "action.action_name" =
      .qualified Category.action.name "action_name" := by
    decide +kernel
  have hreaders : Policy.IsQualified {
      id := "1", name := "readers", effect := .permit, priority := 5
      rules := [{ reference := some "action.action_name", operator := some "equals"
                  value := .text "read" }] } := by
    refine ⟨fun r hr => ?_, nofun⟩
    obtain rfl := List.mem_singleton.mp hr
    exact ⟨.action, "action_name", nofun, hrule⟩
  have hclosed : Policy.IsQualified {
      id := "2", name := "closed", effect := .deny, priority := 5
      targets := [{ type := some "action", name := some "action_name", operator := some "equals"
                    value := .text "read" }] } := by
    refine ⟨nofun, fun t ht => ?_⟩
    obtain rfl := List.mem_singleton.mp ht
    exact ⟨.action, nofun, normalizeCategory_name .action⟩
  exact ((IsQualified.empty.putPolicy hreaders).putPolicy hclosed).putPolicy ⟨nofun, nofun⟩

/-- Who is not allowed to write cannot write by calling it reading in the context. -/
theorem readingRoom_authorize_context :
    ((service {}).authorize { subject := some "ann", action := some "write" } none readingWorld).1 =
      ((service {}).authorize { subject := some "ann", action := some "write"
                                context := [("action.action_name", .text "read"),
                                  ("action_name", .text "read")] } none readingWorld).1 :=
  Service.authorize_context readingRoom_isQualified.store rfl
    { subject := some "ann", action := some "write" } none rfl

/-- A dictionary inside many lists, with many lists inside. -/
def deepValue : Value := .nested 290 (.dict [(.text "a", .nested 130 (.list []))])

/-- Who may read may not when a value of the context cannot be written. -/
theorem readingRoom_context_unwritten :
    store.IsQualified readingRoom ∧
      ((service {}).authorize { subject := some "ann", action := some "read" } none
        readingWorld).1 =
        some ⟨.permit, "Permitted by highest priority policy: readers", ["readers", "closed"]⟩ ∧
      ((service {}).authorize { subject := some "ann", action := some "read"
                                context := [("n", deepValue)] } none readingWorld).1 =
        some ⟨.indeterminate, "Authorization error: maximum recursion depth exceeded " ++
          "while getting the repr of an object", []⟩ := by
  refine ⟨readingRoom_isQualified.store, ?_, by decide +kernel⟩
  have hkeyed : readingWorld.store.IsKeyed := (((Seeded.empty.policy _).policy _).policy _).isKeyed
  have hnames : Request.Names { subject := some "ann", action := some "read" } "ann" "read" :=
    ⟨rfl, rfl, by decide +kernel, by decide +kernel⟩
  have hcalls : Process.Unfailing (World.handler store)
      (authorize {} { subject := some "ann", action := some "read" } none) readingWorld :=
    unfailing_of_failing_eq_nil _ (by decide +kernel)
  have hps : IsRankingOf Policy.priority readingWorld.store.standing readingRoom.standing :=
    ⟨by decide +kernel, fun _ => rfl⟩
  have hrule : rule (Settings.isStrict {}) readingMap readingRoom.standing =
      .ok (⟨.permit, "Permitted by highest priority policy: readers"⟩,
        [⟨"1", "readers", .permit, true, 5, some (ruleReason true)⟩,
          ⟨"2", "closed", .deny, true, 5, some (ruleReason true)⟩]) := rfl
  obtain ⟨w', hanswer⟩ := authorize_ofRuling (m := readingMap) rfl (by decide +kernel) hkeyed hnames
    hcalls rfl hps hrule
  exact congrArg Prod.fst hanswer

end Directory

end Clearance
