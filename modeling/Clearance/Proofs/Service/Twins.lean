/-
# Maps over twin stores

A store that answers each call about attributes in one way gives a request one map, as long as none is
found in a cache. Twin stores tell the same in each answer, so the maps over them have the same keys
and the same values, whatever each of them has been through since they were filled.
-/

import Clearance.Proofs.Attribute.Gathering
import Clearance.Proofs.Authorization.Answering
import Clearance.Proofs.Service.Steady
import Clearance.Proofs.Store.Twins
import Mathlib.Logic.Equiv.Basic

namespace Clearance

/-! ## Looking up over a steady store -/

/-- What is looked up where each call has one answer. -/
def Lookups.ofAnswers (answer : (call : StoreCall) → call.Answer) (subject action : String)
    (resource : Option String) (now : Time.Moment) : Lookups where
  subject := answer (.subjectAttributes subject)
  role := answer (.roleAttributes subject)
  resource := match Gathering.given? resource with
    | none => []
    | some r => answer (.resourceAttributes r)
  owner := match Gathering.given? resource with
    | none => none
    | some r => answer (.resourceOwner r)
  action := answer (.actionAttributes action)
  environment := answer (.environmentAttributes now)

namespace World

open Attempt

variable {σ : Type} {store : Store σ} {s : σ} {w w' : World σ}
  {answer : (call : StoreCall) → call.Answer}

/-- A steady store gives the answer that it gave at the beginning. -/
theorem IsServed.yields_call (hw : IsServed store s w) (hsteady : store.IsSteady s) {c : StoreCall}
    (hanswer : (store.ask c s).1 = .answered (answer c)) :
    ∃ w', Yields (World.handler store) (Attempt.call c) w (answer c) w' ∧ IsServed store s w' := by
  refine ⟨(w.call store c).2, ?_, hw.handler (.ask c)⟩
  have hreply : (World.handler store (.ask c) w).1 = some (.ok (answer c)) := by
    show outcome (w.call store c).1 = _
    rw [reply_call hw.isHasty_eq, hsteady w.store hw.reaches c, hanswer]
    rfl
  show Process.run (World.handler store) (.wait (.ask c) .done) w = _
  rw [Process.run, show World.handler store (.ask c) w = (some (.ok (answer c)), _) from
    Prod.ext hreply rfl]
  rfl

variable {subject action : String} {resource resourceType : Option String} {now : Time.Moment}

theorem IsServed.yields_lookUps (hw : IsServed store s w) (hsteady : store.IsSteady s)
    (hanswers : ∀ c ∈ Gathering.calls subject action resource now,
      (store.ask c s).1 = .answered (answer c)) :
    ∃ w', Yields (World.handler store) (Gathering.lookUps subject action resource now) w
      (.ofAnswers answer subject action resource now) w' := by
  have hcall : ∀ {w}, IsServed store s w → ∀ c ∈ Gathering.calls subject action resource now,
      ∃ w', Yields (World.handler store) (Attempt.call c) w (answer c) w' ∧ IsServed store s w' :=
    fun hw c hc => hw.yields_call hsteady (hanswers c hc)
  have hresource : ∀ {w}, IsServed store s w → ∃ w',
      Yields (World.handler store) (Gathering.resourceLookUps resource) w
        ((Lookups.ofAnswers answer subject action resource now).resource,
          (Lookups.ofAnswers answer subject action resource now).owner) w' ∧
      IsServed store s w' := by
    intro w hw
    simp only [Gathering.resourceLookUps, Lookups.ofAnswers]
    cases hgiven : Gathering.given? resource with
    | none => exact ⟨w, .pure _ _, hw⟩
    | some r =>
        obtain ⟨w₁, hattributes, hw₁⟩ :=
          hcall hw (.resourceAttributes r) (by simp [Gathering.calls, hgiven])
        obtain ⟨w₂, howner, hw₂⟩ :=
          hcall hw₁ (.resourceOwner r) (by simp [Gathering.calls, hgiven])
        exact ⟨w₂, hattributes.bind (howner.bind (.pure _ _)), hw₂⟩
  obtain ⟨w₁, hown, hw₁⟩ := hcall hw (.subjectAttributes subject) (by simp [Gathering.calls])
  obtain ⟨w₂, hrole, hw₂⟩ := hcall hw₁ (.roleAttributes subject) (by simp [Gathering.calls])
  obtain ⟨w₃, hof, hw₃⟩ := hresource hw₂
  obtain ⟨w₄, haction, hw₄⟩ := hcall hw₃ (.actionAttributes action) (by simp [Gathering.calls])
  obtain ⟨w₅, henvironment, -⟩ :=
    hcall hw₄ (.environmentAttributes now) (by simp [Gathering.calls])
  rw [Gathering.lookUps_eq]
  exact ⟨w₅, hown.bind <| hrole.bind <| hof.bind <| haction.bind <| henvironment.bind <|
    .pure _ _⟩

/-- Nothing is found where nothing is remembered. -/
theorem yields_lookUp_none (hempty : w.remembered = []) (hw : IsServed store s w) (key : CacheKey) :
    ∃ w', Yields (World.handler store) (Attempt.pose (.lookUp key)) w none w' ∧ IsServed store s w' := by
  have hfound : (World.handler store (.lookUp key) w).1 = some none := by
    have hanswer : ∃ found, (World.handler store (.lookUp key) w).1 = some found := by
      simp only [handler]
      split <;> exact ⟨_, rfl⟩
    obtain ⟨_ | m, hfound⟩ := hanswer
    · exact hfound
    · obtain ⟨e, he, -⟩ := mem_remembered_of_lookUp store w hfound
      rw [hempty] at he
      cases he
  exact ⟨(World.handler store (.lookUp key) w).2, .pose (Prod.ext hfound rfl), hw.handler _⟩

/-- The stored part of a map is looked up, and remembered. -/
theorem IsServed.yields_stored (hw : IsServed store s w) (hempty : w.remembered = [])
    (hsteady : store.IsSteady s)
    (hanswers : ∀ c ∈ Gathering.calls subject action resource now,
      (store.ask c s).1 = .answered (answer c)) (roleOverrides : Bool) :
    ∃ w', Yields (World.handler store)
      (Gathering.stored roleOverrides subject action resource now) w
      ((Lookups.ofAnswers answer subject action resource now).toMap roleOverrides subject action)
      w' := by
  obtain ⟨w₁, hfound, hw₁⟩ := yields_lookUp_none hempty hw (.of subject resource action)
  obtain ⟨w₂, hlooked⟩ := hw₁.yields_lookUps hsteady hanswers
  exact ⟨_, hfound.bind <| (hlooked.framed _).bind <| (Yields.pose rfl).bind <| .pure _ _⟩

end World

/-! ## Maps over twins -/

/-- Nothing is remembered in a world that shows a time, over a store that came out of a state. -/
structure World.IsFresh {σ : Type} (store : Store σ) (s : σ) (now : Time.Moment) (w : World σ) :
    Prop extends World.IsServed store s w where
  remembered_eq : w.remembered = []
  now_eq : w.now = now

theorem World.isFresh_begin {σ : Type} (store : Store σ) {settings : Settings}
    (htimed : settings.isTimed = true) (s : σ) (now : Time.Moment) (seconds : Float)
    (hasAudit : Bool) : (Service.begin settings htimed s now seconds hasAudit).IsFresh store s now := by
  refine ⟨⟨.refl, rfl⟩, ?_, rfl⟩
  simp only [World.remembered, Service.begin]
  split <;> rfl

/-- A service gathers what its store answers, and writes the request's own part over it. -/
theorem Service.gather_of_isFresh {σ : Type} {service : Service σ} {s : σ} {w : World σ}
    {now : Time.Moment} (hw : w.IsFresh service.store s now) (hsteady : service.store.IsSteady s)
    (answer : (call : StoreCall) → call.Answer) {subject action : String}
    {resource resourceType : Option String} {context : List (String × Value)}
    (hanswers : ∀ c ∈ Gathering.calls subject action resource now,
      (service.store.ask c s).1 = .answered (answer c)) {m : AttributeMap}
    (hm : ((Lookups.ofAnswers answer subject action resource now).toMap
      service.settings.doesRoleOverride subject action).forRequest now resourceType context =
        .ok m) :
    (service.gather subject action resource resourceType context w).1 = some (.ok m) := by
  obtain ⟨w', hstored⟩ := hw.toIsServed.yields_stored hw.remembered_eq hsteady hanswers
    service.settings.doesRoleOverride
  obtain rfl := hw.now_eq
  obtain ⟨w', hyields⟩ := gather_yields.mpr ⟨_, w', hstored, hm⟩
  exact congrArg Prod.fst (service.attempt_of_yields hyields)

/-- No map is gathered at a time that has no universal time, or with a context that cannot be written. -/
theorem Service.gather_ne {σ : Type} {service : Service σ} {w : World σ}
    {context : List (String × Value)}
    (h : w.now.universal? = none ∨ ¬ Value.HaveStrings context) (subject action : String)
    (resource resourceType : Option String) (m : AttributeMap) :
    (service.gather subject action resource resourceType context w).1 ≠ some (.ok m) := by
  intro hgathered
  obtain ⟨_, _, _, hm⟩ := gather_yields.mp (service.yields_of_attempt_eq_some hgathered)
  obtain ⟨timestamp, -, htimestamp, -, hcontext, -⟩ := AttributeMap.forRequest_eq_ok.mp hm
  rcases h with hnow | hunwritten
  · simp only [Time.Moment.timestamp, Time.Moment.timestamp?, hnow, Option.map_none] at htimestamp
    cases htimestamp
  · exact hunwritten hcontext

theorem Gathering.callFault?_of_mem_calls {subject action : String} {resource : Option String}
    {now : Time.Moment} (hnow : now.universal?.isSome) :
    ∀ c ∈ calls subject action resource now, Database.callFault? c = none := by
  intro c hc
  cases c with
  | environmentAttributes moment =>
      obtain rfl : moment = now := by
        cases hgiven : given? resource <;> simpa [calls, hgiven] using hc
      exact Database.callFault?_environment.mpr hnow
  | _ => rfl

section Twins

variable {ρ : String ↪ String} {given : List EnvironmentDraft} {d : Directory} {db : Database}
  {t : Tables} {now : Time.Moment}

/-- What is looked up over twins tells the same. -/
theorem AreTwins.tellsSame_ofAnswers (htwins : AreTwins ρ given d db t)
    (hnow : now.universal?.isSome) (subject action : String) (resource : Option String) :
    (Lookups.ofAnswers d.answer subject action resource now).TellsSame
      (.ofAnswers (Database.answer t) subject action resource now) where
  subject := htwins.tellsSame_answer (.subjectAttributes subject) rfl
  role := htwins.tellsSame_answer (.roleAttributes subject) rfl
  resource := by
    simp only [Lookups.ofAnswers]
    cases Gathering.given? resource with
    | none => exact fun _ => rfl
    | some r => exact htwins.tellsSame_answer (.resourceAttributes r) rfl
  owner := by
    simp only [Lookups.ofAnswers]
    cases Gathering.given? resource with
    | none => rfl
    | some r => exact htwins.tellsSame_answer (.resourceOwner r) rfl
  action := htwins.tellsSame_answer (.actionAttributes action) rfl
  environment := htwins.tellsSame_answer (.environmentAttributes now)
    (Database.callFault?_environment.mpr hnow)

/-- **Twin maps.** A directory and a database are filled with the same by one history, in which roles
may be known by other identifiers. Whatever the stores have been asked since, and whatever they have
recorded, a request gets a map over each of them, if the role overrides: the two maps have the same
keys, and the same value under each. Only at the ends of the calendar, where the time of the request has
no universal time, and with a context that cannot be written, neither store gets a map. -/
theorem AreFilledAlike.gather_tellsSame (h : AreFilledAlike ρ given d db) {settings : Settings}
    (hoverride : settings.doesRoleOverride = true) {w : World Directory}
    (hw : w.IsFresh Directory.store d now) {w' : World Database}
    (hw' : w'.IsFresh Database.store db now) (subject action : String)
    (resource resourceType : Option String) (context : List (String × Value)) :
    (now.universal?.isSome → Value.HaveStrings context → ∃ m m' : AttributeMap,
      ((⟨settings, Directory.store⟩ : Service Directory).gather subject action resource resourceType
        context w).1 = some (.ok m) ∧
      ((⟨settings, Database.store⟩ : Service Database).gather subject action resource resourceType
        context w').1 = some (.ok m') ∧
      m.TellsSame m') ∧
    (now.universal? = none ∨ ¬ Value.HaveStrings context → ∀ m : AttributeMap,
      ((⟨settings, Directory.store⟩ : Service Directory).gather subject action resource resourceType
        context w).1 ≠ some (.ok m) ∧
      ((⟨settings, Database.store⟩ : Service Database).gather subject action resource resourceType
        context w').1 ≠ some (.ok m)) := by
  constructor
  · intro hnow hcontext
    obtain ⟨t, htwins⟩ := h.areTwins
    have hstored := (htwins.tellsSame_ofAnswers hnow subject action resource).toMap subject action
    obtain ⟨m, hm⟩ := AttributeMap.exists_forRequest hnow
      ((Lookups.ofAnswers d.answer subject action resource now).toMap true subject action)
      resourceType hcontext
    rcases hstored.forRequest now resourceType context with
      ⟨whole, m', hwhole, hm', hsame⟩ | ⟨fault, hfault, -⟩
    · refine ⟨whole, m', ?_, ?_, hsame⟩
      · refine Service.gather_of_isFresh hw d.isSteady d.answer
          (fun c _ => htwins.ask_directory c) ?_
        rw [hoverride]
        exact hwhole
      · refine Service.gather_of_isFresh hw' db.isSteady (Database.answer t)
          (fun c hc => htwins.ask_database (Gathering.callFault?_of_mem_calls hnow c hc)) ?_
        rw [hoverride]
        exact hm'
    · rw [hm] at hfault
      cases hfault
  · intro hnone m
    exact ⟨Service.gather_ne (hw.now_eq ▸ hnone) _ _ _ _ m,
      Service.gather_ne (hw'.now_eq ▸ hnone) _ _ _ _ m⟩

/-! ### Two stores filled with the same -/

open Database in
/-- A database with a role, a subject that has it, and what both were assigned; the subject got one value
in the place of another. -/
def staffed : Database :=
  let db := (inMemory.createRole (some "staff") none).2.2
  let db := (db.createUser (some "Ann") (some (Drawn.identifier 0)) none (some "ann")).2.2
  let db := (db.assign ⟨.role, Drawn.identifier 0⟩ "clearance" (.int 2)).2.2
  let db := (db.assign ⟨.subject, "ann"⟩ "floor" (.int 4)).2.2
  (db.assign ⟨.subject, "ann"⟩ "floor" (.int 5)).2.2

/-- The same in a directory, where the role is known by its name. -/
def staffedTwin : Directory :=
  let d := ({} : Directory).addRole "staff" (some "staff")
  let d := d.addSubject "ann" (some "staff")
  let d := (d.give ⟨.role, "staff"⟩ "clearance" "number" (.int 2)).2
  let d := (d.give ⟨.subject, "ann"⟩ "floor" "number" (.int 4)).2
  (d.give ⟨.subject, "ann"⟩ "floor" "number" (.int 5)).2

/-- The role by its name. -/
def byName : String ↪ String := (Equiv.swap (Drawn.identifier 0) "staff").toEmbedding

theorem areFilledAlike_staffed : AreFilledAlike byName [] staffedTwin staffed := by
  have hname : byName (Drawn.identifier 0) = "staff" := Equiv.swap_apply_left _ _
  have hholder : (⟨.role, Drawn.identifier 0⟩ : Holder).renamed byName = ⟨.role, "staff"⟩ :=
    congrArg (Holder.mk .role) hname
  have hempty := AreFilledAlike.begin (ρ := byName) Database.tables?_inMemory
  have hrole := hempty.role (some "staff") none (some "staff")
    (eq_ok_of_toOption (a := Drawn.identifier 0)
      (by rw [Database.inMemory_eq]; decide +kernel))
  have hsubject := hrole.subject (some "Ann") (some (Drawn.identifier 0)) none (some "ann")
    (eq_ok_of_toOption (a := "ann") (by rw [Database.inMemory_eq]; decide +kernel))
  have hclearance := hsubject.assign ⟨.role, Drawn.identifier 0⟩ "clearance" "number" (.int 2)
    (eq_ok_of_toOption (by rw [Database.inMemory_eq]; decide +kernel))
  have hfloor := hclearance.assign ⟨.subject, "ann"⟩ "floor" "number" (.int 4)
    (eq_ok_of_toOption (by rw [Database.inMemory_eq]; decide +kernel))
  have hfloor' := hfloor.assign ⟨.subject, "ann"⟩ "floor" "number" (.int 5)
    (eq_ok_of_toOption (by rw [Database.inMemory_eq]; decide +kernel))
  rw [hholder, hname, Option.map_some, hname] at hfloor'
  exact hfloor'

theorem gather_tellsSame_staffed :
    ∃ m m' : AttributeMap,
      ((⟨{}, Directory.store⟩ : Service Directory).gather "ann" "read" none none []
        (Service.begin {} rfl staffedTwin endOfWinter 0.0 false)).1 = some (.ok m) ∧
      ((⟨{}, Database.store⟩ : Service Database).gather "ann" "read" none none []
        (Service.begin {} rfl staffed endOfWinter 0.0 false)).1 = some (.ok m') ∧
      m.TellsSame m' :=
  (areFilledAlike_staffed.gather_tellsSame (by decide) (World.isFresh_begin _ _ _ _ _ _)
    (World.isFresh_begin _ _ _ _ _ _) "ann" "read" none none []).1
    (by decide : endOfWinter.universal?.isSome) Value.haveStrings_nil

end Twins

end Clearance
