/-
# Twin stores

A directory and a database are filled alike when the same roles, subjects, resources and actions are
made in both and the same attributes are assigned, one after the other, and the database takes each of
them. Only roles are known by other identifiers, since the database draws them.

Each step is told twice, once for either store, and keeps what the stores have in common: holders have
the same role, the same owner and the same last values, and the values of the environment stand in the
same order with the same windows. So they answer the same, as far as names and values go.
-/

import Clearance.Proofs.Database.Filling
import Clearance.Proofs.Database.Meaning
import Clearance.Proofs.Directory.Holding
import Mathlib.Logic.Embedding.Basic

namespace Clearance

/-- A value that is assigned to the environment for a window of time. -/
structure EnvironmentDraft where
  name : String
  value : String
  window : Window := {}

/-- A directory and a database come out of one history, in which nothing was refused. The identifier
that a role has in the directory belongs to the one that the database has drawn for it. -/
inductive AreFilledAlike (ρ : String ↪ String) : List EnvironmentDraft → Directory → Database → Prop
  | begin {db : Database} (h : db.tables? = some {}) : AreFilledAlike ρ [] {} db
  | role {given : List EnvironmentDraft} {d : Directory} {db : Database}
      (h : AreFilledAlike ρ given d db) (name description word : Option String) {id : String}
      (hok : (db.createRole name description).1 = .ok id) :
      AreFilledAlike ρ given (d.addRole (ρ id) word) (db.createRole name description).2.2
  | subject {given : List EnvironmentDraft} {d : Directory} {db : Database}
      (h : AreFilledAlike ρ given d db) (name role email id : Option String) {subject : String}
      (hok : (db.createUser name role email id).1 = .ok subject) :
      AreFilledAlike ρ given (d.addSubject subject (role.map ρ))
        (db.createUser name role email id).2.2
  | resource {given : List EnvironmentDraft} {d : Directory} {db : Database}
      (h : AreFilledAlike ρ given d db) (resource : String) (name type owner : Option String)
      {id : String}
      (hok : (db.createResource (some resource) name type owner).1 = .ok id) :
      AreFilledAlike ρ given (d.addResource resource type owner)
        (db.createResource (some resource) name type owner).2.2
  | action {given : List EnvironmentDraft} {d : Directory} {db : Database}
      (h : AreFilledAlike ρ given d db) (action : String) (description : Option String) {id : String}
      (hok : (db.createAction (some action) description).1 = .ok id) :
      AreFilledAlike ρ given (d.addAction action) (db.createAction (some action) description).2.2
  | assign {given : List EnvironmentDraft} {d : Directory} {db : Database}
      (h : AreFilledAlike ρ given d db) (x : Holder) (name type : String) (value : Value)
      (hok : (db.assign x name value).1 = .ok ()) :
      AreFilledAlike ρ given (d.give (x.renamed ρ) name type value).2 (db.assign x name value).2.2
  | environment {given : List EnvironmentDraft} {d : Directory} {db : Database}
      (h : AreFilledAlike ρ given d db) (name type : String) (value : Value) (w : Window)
      (hok : (db.assignEnvironment (some name) value w.first w.last).1 = .ok ()) :
      AreFilledAlike ρ (given ++ [⟨name, value.string, w⟩])
        (d.assignEnvironment name type value w).2
        (db.assignEnvironment (some name) value w.first w.last).2.2

/-! ## What a history keeps -/

/-- A value of a directory is what a draft said. -/
structure EnvironmentDraft.IsHeld (draft : EnvironmentDraft) (e : EnvironmentValue) : Prop where
  name_eq : e.definition.name = draft.name
  value_eq : e.value = draft.value
  window_eq : e.window = draft.window

/-- A row of a database is what a draft said, with its window in universal time. -/
structure EnvironmentDraft.IsKept (draft : EnvironmentDraft) (t : Tables) (row : EnvironmentRow) :
    Prop where
  definition : ∃ a ∈ t.definitions, a.id = row.definition ∧ a.name = draft.name
  value_eq : row.value = draft.value
  window : draft.window.universal? = some ⟨row.first, row.last⟩

theorem EnvironmentDraft.IsKept.mono {draft : EnvironmentDraft} {t t' : Tables} {row : EnvironmentRow}
    (h : draft.IsKept t row) (hsub : t.definitions ⊆ t'.definitions) : draft.IsKept t' row := by
  obtain ⟨a, ha, hid, hname⟩ := h.definition
  exact ⟨⟨a, hsub ha, hid, hname⟩, h.value_eq, h.window⟩

/-- A directory and the tables of a database hold the same. -/
structure AreTwins (ρ : String ↪ String) (given : List EnvironmentDraft) (d : Directory)
    (db : Database) (t : Tables) : Prop where
  tables : db.tables? = some t
  directoryIsTidy : d.IsTidy
  tablesAreTidy : t.IsTidy db.drawn
  failing : d.failing = []
  holdings : Holdings.IsTwin ρ d.holdings t.holdings
  held : List.Forall₂ EnvironmentDraft.IsHeld given d.environment
  kept : List.Forall₂ (fun draft row => draft.IsKept t row) given t.environment

namespace AreTwins

variable {ρ : String ↪ String} {given : List EnvironmentDraft} {d d' : Directory}
  {db db' : Database} {t : Tables} {h h' : Holdings}

/-- Twins that are filled with the same stay twins. -/
theorem fill (htwins : AreTwins ρ given d db t) (hd : d.Fills h d.environment d')
    (hdb : db.Fills t h' t.environment db') (hsame : Holdings.IsTwin ρ h h') :
    ∃ t', AreTwins ρ given d' db' t' := by
  obtain ⟨t', htables, hfills⟩ := hdb
  refine ⟨t', htables, hd.tidy, hfills.tidy, ?_, ?_, ?_, ?_⟩
  · rw [hd.failing]
    exact htwins.failing
  · rw [hd.holdings, hfills.holdings]
    exact hsame
  · rw [hd.environment]
    exact htwins.held
  · rw [hfills.environment]
    exact htwins.kept.imp fun _ _ hrow => hrow.mono hfills.subset

/-- Twins whose environment is assigned the same stay twins. -/
theorem assignEnvironment (htwins : AreTwins ρ given d db t) {name : String} {value : Value}
    {w : Window} (hok : (db.assignEnvironment (some name) value w.first w.last).1 = .ok ())
    (type : String) :
    ∃ t', AreTwins ρ (given ++ [⟨name, value.string, w⟩])
      (d.assignEnvironment name type value w).2
      (db.assignEnvironment (some name) value w.first w.last).2.2 t' := by
  obtain ⟨e, hname, hd⟩ := htwins.directoryIsTidy.fills_assignEnvironment name type
    (Database.hasString_of_assignEnvironment htwins.tables hok) w
  obtain ⟨u, t', a, hu, htables, ha, hname', hdb⟩ :=
    Database.fills_assignEnvironment htwins.tables htwins.tablesAreTidy hok
  refine ⟨t', htables, hd.tidy, hdb.tidy, ?_, ?_, ?_, ?_⟩
  · rw [hd.failing]
    exact htwins.failing
  · rw [hd.holdings, hdb.holdings]
    exact htwins.holdings
  · rw [hd.environment]
    exact List.rel_append htwins.held (.cons ⟨hname, rfl, rfl⟩ .nil)
  · rw [hdb.environment]
    have hold := htwins.kept.imp fun _ _ (hrow : EnvironmentDraft.IsKept _ t _) => hrow.mono hdb.subset
    exact List.rel_append hold (.cons ⟨⟨a, ha, rfl, hname'⟩, rfl, hu⟩ .nil)

end AreTwins

/-- Stores that are filled alike are twins. -/
theorem AreFilledAlike.areTwins {ρ : String ↪ String} {given : List EnvironmentDraft} {d : Directory}
    {db : Database} (h : AreFilledAlike ρ given d db) : ∃ t, AreTwins ρ given d db t := by
  induction h with
  | begin h =>
      exact ⟨{}, h, .empty, .empty _, rfl, ⟨fun _ => rfl, fun _ => rfl, by
        rintro ⟨kind, id⟩ n
        cases kind <;> rfl⟩, .nil, .nil⟩
  | @role given d db _ name description word id hok ih =>
      obtain ⟨t, ht⟩ := ih
      have hd := ht.directoryIsTidy.fills_of_holdsAs (.addRole d (ρ id) word)
      rw [Directory.holdings_addRole] at hd
      exact ht.fill hd (Database.fills_createRole ht.tables ht.tablesAreTidy hok) ht.holdings
  | @subject given d db _ name role email id subject hok ih =>
      obtain ⟨t, ht⟩ := ih
      have hd := ht.directoryIsTidy.fills_of_holdsAs (.addSubject d subject (role.map ρ))
      rw [Directory.holdings_addSubject] at hd
      exact ht.fill hd (Database.fills_createUser ht.tables ht.tablesAreTidy hok)
        (ht.holdings.setRole subject role)
  | @resource given d db _ resource name type owner id hok ih =>
      obtain ⟨t, ht⟩ := ih
      have hd := ht.directoryIsTidy.fills_of_holdsAs (.addResource d resource type owner)
      rw [Directory.holdings_addResource] at hd
      exact ht.fill hd (Database.fills_createResource ht.tables ht.tablesAreTidy hok)
        (ht.holdings.setOwner resource owner)
  | @action given d db _ action description id hok ih =>
      obtain ⟨t, ht⟩ := ih
      have hd := ht.directoryIsTidy.fills_of_holdsAs (.addAction d action)
      rw [Directory.holdings_addAction] at hd
      exact ht.fill hd (Database.fills_createAction ht.tables ht.tablesAreTidy hok) ht.holdings
  | @assign given d db _ x name type value hok ih =>
      obtain ⟨t, ht⟩ := ih
      obtain ⟨hvalue, hfills⟩ := Database.fills_assign ht.tables ht.tablesAreTidy hok
      exact ht.fill (ht.directoryIsTidy.fills_give (x.renamed ρ) name type hvalue) hfills
        (ht.holdings.give ρ.injective x name value.string)
  | environment _ name type value w hok ih =>
      obtain ⟨t, ht⟩ := ih
      exact ht.assignEnvironment hok type

/-! ## The environment -/

/-- What is to be told of the environment at a moment: the drafts whose windows contain it, in the order
in which they were given. -/
def EnvironmentDraft.toldAt (now : Time.Moment) (given : List EnvironmentDraft) :
    List (String × String) :=
  (given.filter fun draft => draft.window.contains now).map fun draft => (draft.name, draft.value)

section Environment

variable {ρ : String ↪ String} {given : List EnvironmentDraft} {d : Directory} {db : Database}
  {t : Tables} {drawn : Nat} {now moment : Time.Moment}

open EnvironmentDraft

theorem Directory.told_environment (h : List.Forall₂ IsHeld given d.environment)
    (now : Time.Moment) :
    (d.answer (.environmentAttributes now)).map Attribute.told = toldAt now given := by
  simp only [answer, toldAt]
  generalize d.environment = environment at h
  induction h with
  | nil => rfl
  | @cons draft e given environment hheld _ ih =>
      rw [List.filter_cons, List.filter_cons, hheld.window_eq]
      split
      · rw [List.map_cons, List.map_cons, List.map_cons, ih, ← hheld.name_eq, ← hheld.value_eq]
        rfl
      · exact ih

/-- Tables are asked in universal time about windows in universal time. -/
theorem Tables.told_environment (ht : t.IsSound drawn)
    (h : List.Forall₂ (fun draft row => IsKept draft t row) given t.environment)
    (hnow : now.universal? = some moment) :
    (t.environmentAttributes moment).map Attribute.told = toldAt now given := by
  simp only [environmentAttributes, toldAt]
  generalize t.environment = environment at h
  induction h with
  | nil => rfl
  | @cons draft row given environment hkept _ ih =>
      have hvalid : EnvironmentRow.isValid row moment = draft.window.contains now :=
        Window.contains_of_universal? hkept.window hnow
      obtain ⟨a, ha, hid, hname⟩ := hkept.definition
      have hfound : t.definitionOf? row.definition = some a := hid ▸ ht.definitionOf?_of_mem ha
      rw [List.filter_cons, List.filter_cons, hvalid]
      split
      · rw [List.filterMap_cons, hfound, Option.map_some, List.map_cons, List.map_cons, ih, ← hname,
          ← hkept.value_eq]
        rfl
      · exact ih

end Environment

/-! ## Answers -/

/-- The environment can be asked for at a moment that has a universal time. -/
theorem Database.callFault?_environment {now : Time.Moment} :
    callFault? (.environmentAttributes now) = none ↔ now.universal?.isSome := by
  simp [callFault?, Option.isSome_iff_ne_none]

/-- Two answers to a call tell the same: of each name the last value, or the same owner. Of calls for
policies nothing is said. -/
def StoreCall.TellsSame : (call : StoreCall) → call.Answer → call.Answer → Prop
  | .subjectAttributes _, found, found' => ∀ n, lastValue n found = lastValue n found'
  | .roleAttributes _, found, found' => ∀ n, lastValue n found = lastValue n found'
  | .resourceAttributes _, found, found' => ∀ n, lastValue n found = lastValue n found'
  | .resourceOwner _, owner, owner' => owner = owner'
  | .actionAttributes _, found, found' => ∀ n, lastValue n found = lastValue n found'
  | .environmentAttributes _, found, found' => ∀ n, lastValue n found = lastValue n found'
  | _, _, _ => True

namespace AreTwins

variable {ρ : String ↪ String} {given : List EnvironmentDraft} {d : Directory} {db : Database}
  {t : Tables}

theorem told_environment (htwins : AreTwins ρ given d db t) {now : Time.Moment}
    (hnow : now.universal?.isSome) :
    (Database.answer t (.environmentAttributes now)).map Attribute.told =
      EnvironmentDraft.toldAt now given := by
  obtain ⟨moment, hmoment⟩ := Option.isSome_iff_exists.mp hnow
  simp only [Database.answer, hmoment, Option.getD_some]
  exact Tables.told_environment htwins.tablesAreTidy.sound htwins.kept hmoment

theorem ask_directory (htwins : AreTwins ρ given d db t) (call : StoreCall) :
    (Directory.ask call d).1 = .answered (d.answer call) := by
  simp [Directory.ask, htwins.failing]

theorem ask_database (htwins : AreTwins ρ given d db t) {call : StoreCall}
    (hcall : Database.callFault? call = none) :
    (Database.ask call db).1 = .answered (Database.answer t call) := by
  rw [Database.ask_of_tables? htwins.tables hcall]

/-- Twins answer each call about attributes that can be put to a database, and tell the same. -/
theorem tellsSame_answer (htwins : AreTwins ρ given d db t) (call : StoreCall)
    (hcall : Database.callFault? call = none) :
    call.TellsSame (d.answer call) (Database.answer t call) := by
  have hvalue := htwins.holdings.value?
  cases call with
  | subjectAttributes subject => exact hvalue ⟨.subject, subject⟩
  | roleAttributes subject =>
      intro n
      have hrole : d.roleOf subject = (t.roleOf subject).map ρ := htwins.holdings.roleOf subject
      simp only [Directory.answer, Database.answer, Tables.roleAttributes]
      rw [hrole, ← Tables.roleOf]
      cases t.roleOf subject with
      | none => rfl
      | some role => exact hvalue ⟨.role, role⟩ n
  | resourceAttributes resource =>
      have hfound : t.resourceAttributes resource = t.attributesOf ⟨.resource, resource⟩ := by
        simp only [Tables.resourceAttributes, Tables.attributesOf, Tables.rowId?]
        cases t.resource? resource <;> rfl
      simp only [Database.answer, hfound]
      exact hvalue ⟨.resource, resource⟩
  | resourceOwner resource => exact htwins.holdings.ownerOf resource
  | actionAttributes action =>
      have hfound : t.actionAttributes action = t.attributesOf ⟨.action, action⟩ := by
        simp only [Tables.actionAttributes, Tables.attributesOf, Tables.rowId?]
        cases t.action? action <;> rfl
      simp only [Database.answer, hfound]
      exact hvalue ⟨.action, action⟩
  | environmentAttributes now =>
      refine lastValue_eq_of_told_eq ?_
      rw [Directory.told_environment htwins.held,
        htwins.told_environment (Database.callFault?_environment.mp hcall)]
  | _ => trivial

end AreTwins

/-! ## Windows of validity -/

theorem EnvironmentDraft.toldAt_concat (now : Time.Moment) (given : List EnvironmentDraft)
    (draft : EnvironmentDraft) :
    toldAt now (given ++ [draft]) =
      toldAt now given ++ if draft.window.contains now then [(draft.name, draft.value)] else [] := by
  rw [toldAt, List.filter_append, List.map_append, List.filter_singleton]
  cases draft.window.contains now <;> rfl

/-- **Windows of validity.** Stores that were filled alike are assigned a value of the environment, for
a window with any bounds or none, each with any offset or none, as long as the bounds stay in the
calendar in universal time. Both stores take it exactly if it has a string form, and from then on they
tell the same of the environment at every moment: what was told there before, and the new value exactly
if the moment lies in the window. -/
theorem AreFilledAlike.environment_agrees {ρ : String ↪ String} {given : List EnvironmentDraft}
    {d : Directory} {db : Database} (h : AreFilledAlike ρ given d db) (name type : String)
    (value : Value) {w : Window} (hw : w.universal?.isSome) {now : Time.Moment}
    (hnow : now.universal?.isSome) :
    ((d.assignEnvironment name type value w).1 = .ok () ↔ value.HasString) ∧
    ((db.assignEnvironment (some name) value w.first w.last).1 = .ok () ↔ value.HasString) ∧
    (value.HasString →
      ∃ found found',
        (Directory.ask (.environmentAttributes now) (d.assignEnvironment name type value w).2).1 =
          .answered found ∧
        (Database.ask (.environmentAttributes now)
          (db.assignEnvironment (some name) value w.first w.last).2.2).1 = .answered found' ∧
        found.map Attribute.told = EnvironmentDraft.toldAt now given ++
          (if w.contains now then [(name, value.string)] else []) ∧
        found'.map Attribute.told = found.map Attribute.told) := by
  obtain ⟨t, htwins⟩ := h.areTwins
  have htaken : value.HasString → (db.assignEnvironment (some name) value w.first w.last).1 = .ok () :=
    fun hvalue => Database.assignEnvironment_eq_ok htwins.tables htwins.tablesAreTidy name hvalue hw
  refine ⟨Directory.writing_eq_ok_iff,
    ⟨Database.hasString_of_assignEnvironment htwins.tables, htaken⟩, fun hvalue => ?_⟩
  have hok := htaken hvalue
  obtain ⟨t', hassigned⟩ := htwins.assignEnvironment hok type
  have htold := Directory.told_environment hassigned.held now
  refine ⟨_, _, hassigned.ask_directory _,
    hassigned.ask_database (Database.callFault?_environment.mpr hnow), ?_, ?_⟩
  · rw [htold, EnvironmentDraft.toldAt_concat]
  · rw [htold, hassigned.told_environment hnow]

/-- A window that begins before midnight in the west, on the last day of a year, and ends with the first
moment of March. -/
def winter : Window where
  first := some ⟨⟨2023, 12, 31⟩, 23, 30, 0, 0, some (-3600000000)⟩
  last := some ⟨⟨2024, 3, 1⟩, 0, 0, 0, 0, none⟩

/-- The end of winter in the east, where it is morning already. -/
def endOfWinter : Time.Moment := ⟨⟨2024, 3, 1⟩, 5, 30, 0, 0, some 19800000000⟩

theorem environment_agrees_at_endOfWinter :
    (Database.inMemory.assignEnvironment (some "season") (.text "winter") winter.first
        winter.last).1 = .ok () ∧
      ∃ found found',
        (Directory.ask (.environmentAttributes endOfWinter)
          (({} : Directory).assignEnvironment "season" "string" (.text "winter") winter).2).1 =
          .answered found ∧
        (Database.ask (.environmentAttributes endOfWinter) (Database.inMemory.assignEnvironment
          (some "season") (.text "winter") winter.first winter.last).2.2).1 = .answered found' ∧
        found.map Attribute.told = [("season", "winter")] ∧
        found'.map Attribute.told = [("season", "winter")] := by
  obtain ⟨-, htaken, htells⟩ :=
    (AreFilledAlike.begin (ρ := .refl String) Database.tables?_inMemory).environment_agrees "season"
      "string" (.text "winter") (by decide : winter.universal?.isSome)
      (by decide : endOfWinter.universal?.isSome)
  obtain ⟨found, found', hask, hask', htold, hsame⟩ := htells (Value.hasString_text _)
  have hwinter : winter.contains endOfWinter = true := by decide
  rw [hwinter] at htold
  exact ⟨htaken.mpr (Value.hasString_text _), found, found', hask, hask', htold, hsame.trans htold⟩

end Clearance
