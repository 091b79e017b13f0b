/-
# The catalogue of definitions

A database is a catalogue: no name is defined twice in a category, what is assigned or stored refers to
a definition that is there, and the conditions of a policy are numbered in their order. Calls that fail
leave the tables as they were, and calls that succeed add definitions, values of definitions that are
there, and conditions for a policy that had none. So every database that operations lead to is a
catalogue.
-/

import Clearance.Proofs.Database.Learning
import Clearance.Proofs.Database.Meaning

namespace Clearance

open Script

/-! ## Catalogued tables -/

/-- The rows of each owner have the places from zero on, in the order in which they stand. -/
def ArePlaced {ρ : Type} (owner : ρ → String) (place : ρ → Nat) (rows : List ρ) : Prop :=
  ∀ own, (rows.filter fun row => owner row == own).map place =
    List.range (rows.filter fun row => owner row == own).length

/-- Rows of an owner that had none may stand behind all others, if they have their places. -/
theorem ArePlaced.append {ρ : Type} {owner : ρ → String} {place : ρ → Nat} {old rows : List ρ}
    {own : String} (hold : ArePlaced owner place old) (hnew : ∀ row ∈ old, owner row ≠ own)
    (hrows : ∀ row ∈ rows, owner row = own) (hplaces : rows.map place = List.range rows.length) :
    ArePlaced owner place (old ++ rows) := by
  intro other
  rw [List.filter_append]
  by_cases hother : own = other
  · subst hother
    rw [List.filter_eq_nil_iff.mpr fun row hrow => by simpa using hnew row hrow,
      List.filter_eq_self.mpr fun row hrow => by simpa using hrows row hrow, List.nil_append]
    exact hplaces
  · have hnone : rows.filter (fun row => owner row == other) = [] :=
      List.filter_eq_nil_iff.mpr fun row hrow => by simpa [hrows row hrow] using hother
    rw [hnone, List.append_nil]
    exact hold other

/-- No two definitions have the same name and category, every value, rule and target refers to one,
and the conditions of each policy have the places from zero on. -/
structure Tables.IsCatalogued (t : Tables) : Prop where
  unique : t.keys.Nodup
  values : ∀ k, ∀ row ∈ t.rowsOf k, t.HasDefinition row.definition
  environment : ∀ row ∈ t.environment, t.HasDefinition row.definition
  rules : ∀ row ∈ t.rules, t.HasDefinition row.definition
  targets : ∀ row ∈ t.targets, t.HasDefinition row.definition
  rulePlaces : ArePlaced RuleRow.policy RuleRow.position t.rules
  targetPlaces : ArePlaced TargetRow.policy TargetRow.position t.targets

namespace Tables.IsCatalogued

variable {t t' : Tables} {needs : List Need}

theorem empty : ({} : Tables).IsCatalogued where
  unique := List.nodup_nil
  values k row hrow := by cases k <;> cases hrow
  environment := nofun
  rules := nofun
  targets := nofun
  rulePlaces _ := rfl
  targetPlaces _ := rfl

theorem of_learns (ht : t.IsCatalogued) (h : t.Learns needs t')
    (hrules : ∀ row ∈ t'.rules, row ∈ t.rules ∨ t'.HasDefinition row.definition)
    (htargets : ∀ row ∈ t'.targets, row ∈ t.targets ∨ t'.HasDefinition row.definition)
    (hrulePlaces : ArePlaced RuleRow.policy RuleRow.position t'.rules)
    (htargetPlaces : ArePlaced TargetRow.policy TargetRow.position t'.targets) :
    t'.IsCatalogued where
  unique := h.keys ▸ Need.nodup_foldl_meet ht.unique needs
  values k row hrow := (h.values k row hrow).elim
    (fun hold => (ht.values k row hold).mono h.definitions.subset) id
  environment row hrow := (h.environment row hrow).elim
    (fun hold => (ht.environment row hold).mono h.definitions.subset) id
  rules row hrow := (hrules row hrow).elim
    (fun hold => (ht.rules row hold).mono h.definitions.subset) id
  targets row hrow := (htargets row hrow).elim
    (fun hold => (ht.targets row hold).mono h.definitions.subset) id
  rulePlaces := hrulePlaces
  targetPlaces := htargetPlaces

/-- Tables that learn something, with the same rules and targets, stay catalogued. -/
theorem of_unchanged (ht : t.IsCatalogued) (h : t.Learns needs t') (hrules : t'.rules = t.rules)
    (htargets : t'.targets = t.targets) : t'.IsCatalogued :=
  ht.of_learns h (fun _ hrow => .inl (hrules ▸ hrow)) (fun _ hrow => .inl (htargets ▸ hrow))
    (hrules ▸ ht.rulePlaces) (htargets ▸ ht.targetPlaces)

/-- Records of accesses do not matter. -/
theorem withAccesses (ht : t.IsCatalogued) (accesses : List AccessRow) :
    ({ t with accesses := accesses } : Tables).IsCatalogued :=
  ht.of_unchanged ((Tables.Learns.refl t).of_eq rfl (fun k => by cases k <;> rfl) rfl) rfl rfl

end Tables.IsCatalogued

namespace Session

variable {s : Session} {policy : String} {position : Nat}

theorem TellsRule.placed {r : Rule} {row : RuleRow} (h : s.TellsRule policy position r (some row)) :
    (row.policy = policy ∧ row.position = position) ∧ s.tables.HasDefinition row.definition := by
  obtain ⟨definition, ⟨d, hd, hid, -⟩, -, hrow⟩ := h
  obtain ⟨operator, -, rfl⟩ := Option.map_eq_some_iff.mp hrow.symm
  exact ⟨⟨rfl, rfl⟩, d, hd, hid⟩

theorem TellsTarget.placed {t : Target} {row : TargetRow}
    (h : s.TellsTarget policy position t (some row)) :
    (row.policy = policy ∧ row.position = position) ∧ s.tables.HasDefinition row.definition := by
  obtain ⟨definition, type, category, ⟨d, hd, hid, -⟩, -, -, -, hrow⟩ := h
  obtain ⟨operator, -, rfl⟩ := Option.map_eq_some_iff.mp hrow.symm
  exact ⟨⟨rfl, rfl⟩, d, hd, hid⟩

end Session

namespace Database

variable {db : Database} {t t' : Tables} {a : Administration} {answer : Option String}

/-- The tables of a database are catalogued, if there are any. -/
def IsCatalogued (db : Database) : Prop := ∀ t, db.tables? = some t → t.IsCatalogued

theorem IsCatalogued.of_tables? (h : db.tables? = some t) (ht : t.IsCatalogued) :
    db.IsCatalogued := by
  intro t' ht'
  rw [← Option.some.inj (h.symm.trans ht')]
  exact ht

/-- A policy that was stored is the only one with its identifier, so its conditions have their places
in the order in which they were given. -/
theorem IsCatalogued.createPolicy {draft : PolicyDraft} (hsound : t.IsSound db.drawn)
    (ht : db.tables? = some t) (hcatalogued : t.IsCatalogued)
    (hok : ((Administration.createPolicy draft).perform db).1 = .ok answer) :
    ((Administration.createPolicy draft).perform db).2.2.IsCatalogued := by
  obtain ⟨s, rules, targets, htables, hlearns, hrules, htargets, htellRules, htellTargets⟩ :=
    Administration.createPolicy_learns ht hok
  obtain ⟨hrulePolicy, hrulePlaces⟩ := placed_of_forall₂ (htellRules.imp fun _ _ h => h.placed.1)
  obtain ⟨htargetPolicy, htargetPlaces⟩ :=
    placed_of_forall₂ (htellTargets.imp fun _ _ h => h.placed.1)
  refine .of_tables? htables (hcatalogued.of_learns hlearns ?_ ?_ ?_ ?_)
  · rw [hrules]
    exact fun row hrow => (List.mem_append.mp hrow).imp_right
      (forall_mem_of_forall₂ (htellRules.imp fun _ _ h => h.placed.2) row)
  · rw [htargets]
    exact fun row hrow => (List.mem_append.mp hrow).imp_right
      (forall_mem_of_forall₂ (htellTargets.imp fun _ _ h => h.placed.2) row)
  · rw [hrules]
    exact hcatalogued.rulePlaces.append
      (fun row hrow => hsound.rules row hrow db.drawn (Nat.le_refl _)) hrulePolicy hrulePlaces
  · rw [htargets]
    exact hcatalogued.targetPlaces.append
      (fun row hrow => hsound.targets row hrow db.drawn (Nat.le_refl _)) htargetPolicy htargetPlaces

/-- Every call keeps the tables catalogued, whether it succeeds or fails. -/
theorem IsCatalogued.perform (hdb : db.IsCatalogued) (hsound : db.IsSound) (a : Administration) :
    (a.perform db).2.2.IsCatalogued := by
  cases hok : (a.perform db).1 with
  | error fault =>
      obtain ⟨drawn, -, heq⟩ := perform_of_error hok
      rw [heq]
      exact hdb
  | ok answer =>
      obtain ⟨t, ht⟩ := Administration.exists_tables_of_perform hok
      rcases a.looksFirst_cases with hfirst |
        ⟨name, category, type, description, validValues, rfl⟩ | ⟨draft, rfl⟩
      · obtain ⟨t', htables, hlearns, hrules, htargets⟩ := hfirst.learns ht hok
        exact IsCatalogued.of_tables? htables ((hdb t ht).of_unchanged hlearns hrules htargets)
      · obtain ⟨t', htables, hlearns, hrules, htargets⟩ :=
          Administration.createAttribute_learns ht hok
        exact IsCatalogued.of_tables? htables ((hdb t ht).of_unchanged hlearns hrules htargets)
      · exact IsCatalogued.createPolicy (hsound t ht) ht (hdb t ht) hok

theorem IsCatalogued.inherited {db' : Database} (hdb : db.IsCatalogued) (h : db'.Inherits db) :
    db'.IsCatalogued := by
  intro t ht
  rcases h.2 t ht with rfl | hkept
  · exact .empty
  · exact hdb t hkept

theorem IsCatalogued.write (hdb : db.IsCatalogued) (record : Record) :
    (write record db).2.2.IsCatalogued := by
  intro t' ht'
  rw [tables?_write, Option.map_eq_some_iff] at ht'
  obtain ⟨t, ht, rfl⟩ := ht'
  exact (hdb t ht).withAccesses _

theorem tables?_records (db : Database) (subject : Option String) :
    (db.records subject).2.2.tables? = db.tables? := by
  cases ht : db.tables? with
  | none =>
      rw [records, (transact_of_tables?_eq_none ht _ _ _ _).2]
      exact ht
  | some t =>
      have hexecute : execute (do return (← tables).accessesOf subject)
          { tables := t, drawn := db.drawn } =
          (.ok (t.accessesOf subject), { tables := t, drawn := db.drawn }) := rfl
      rw [records, (transact_of_tables? ht _ _ _ _).2, run_eq, execute_bind, hexecute]
      dsimp only
      rw [execute_bind, execute_flush_of_settled]
      rfl

/-- Every database that operations lead to has catalogued tables. -/
theorem IsReached.isCatalogued (h : db.IsReached) : db.IsCatalogued := by
  induction h with
  | ofUrl url => exact nofun
  | setUp _ createTables ih => exact ih.inherited (setUp_inherits _ createTables)
  | createTables _ ih => exact ih.inherited (createTables_inherits _)
  | dropTables _ ih => exact ih.inherited (dropTables_inherits _)
  | ask _ call ih => exact (ask_leaves call _).symm ▸ ih
  | write _ record ih => exact ih.write record
  | records _ subject ih =>
      intro t ht
      rw [tables?_records] at ht
      exact ih t ht
  | createAttribute h name category type description validValues ih =>
      exact ih.perform h.isSound (.createAttribute name category type description validValues)
  | createRole h name description ih => exact ih.perform h.isSound (.createRole name description)
  | createUser h name role email id ih => exact ih.perform h.isSound (.createUser name role email id)
  | createResource h resource name type owner ih =>
      exact ih.perform h.isSound (.createResource resource name type owner)
  | createAction h name description ih => exact ih.perform h.isSound (.createAction name description)
  | assignUser h user name value ih => exact ih.perform h.isSound (.assignUser user name value)
  | assignRole h role name value ih => exact ih.perform h.isSound (.assignRole role name value)
  | assignResource h resource name value ih =>
      exact ih.perform h.isSound (.assignResource resource name value)
  | assignAction h action name value ih =>
      exact ih.perform h.isSound (.assignAction action name value)
  | assignEnvironment h name value first last ih =>
      exact ih.perform h.isSound (.assignEnvironment name value first last)
  | createPolicySet h name description priority ih =>
      exact ih.perform h.isSound (.createPolicySet name description priority)
  | createPolicy h draft ih => exact ih.perform h.isSound (.createPolicy draft)
  | setPolicyActive h policy isActive ih =>
      exact ih.perform h.isSound (.setPolicyActive policy isActive)

/-- **Definitions stay unique and are referred to.** Every database that operations lead to, failed ones
among them, is a catalogue. No call but one that defines an attribute outright fails because a definition
is there already. A call that succeeds meets its needs one after another: what is there is used, and what
is not there is defined behind all others. And the conditions of a policy that is made are read back in
the order in which they were given. -/
theorem IsReached.keeps_catalogue (h : db.IsReached) :
    (∀ t, db.tables? = some t → t.IsCatalogued) ∧
    (∀ a : Administration, a.isDefinition = false → ∀ fault, (a.perform db).1 = .error fault →
      fault.message ≠ duplicateReport a.operation) ∧
    (∀ (a : Administration) answer, (a.perform db).1 = .ok answer →
      ∃ t t', db.tables? = some t ∧ (a.perform db).2.2.tables? = some t' ∧
        t.definitions <+: t'.definitions ∧ t'.keys = a.needs.foldl Need.meet t.keys ∧
        ∀ need ∈ a.needs, need.isMet t'.keys = true) ∧
    ∀ draft id, (db.createPolicy draft).1 = .ok id →
      ∃ t', (db.createPolicy draft).2.2.tables? = some t' ∧
        t'.rulesOf id = draft.rules.map Rule.stored ∧
        t'.targetsOf id = draft.targets.map Target.stored := by
  refine ⟨h.isCatalogued, fun a ha fault hfault => Administration.perform_message_ne ha hfault, ?_,
    fun draft id hok => readBack_createPolicy h.isSound hok⟩
  intro a answer hok
  obtain ⟨t, t', ht, ht', hlearns⟩ := Administration.perform_learns hok
  refine ⟨t, t', ht, ht', hlearns.definitions, hlearns.keys, fun need hneed => ?_⟩
  rw [hlearns.keys]
  exact Need.isMet_foldl_meet (.inr hneed)

/-- Somebody has a clearance. -/
def withClearance : Database := (inMemory.assignUser (some "ann") (some "clearance") (.int 3)).2.2

/-- A policy whose conditions name the same attributes in several ways. -/
def crowdedPolicy : PolicyDraft where
  name := some "crowded"
  effect := .text "permit"
  rules := [
    { reference := some "resource.owner", operator := some "exists" },
    { reference := some "owner", operator := some "exists" },
    { reference := some "badge", operator := some "exists" },
    { reference := some "user.badge", operator := some "exists" },
    { reference := some "subject.owner", operator := some "exists" },
    { reference := some "clearance", operator := some ">", value := .int 2 }]
  targets := [
    { type := some "Role", name := some "badge", operator := some "equals", value := .text "b" },
    { type := some "action", name := some "name", operator := some "equals", value := .text "read" },
    { type := some "action", name := some "name", operator := some "equals", value := .text "scan" }]

theorem createPolicy_crowdedPolicy :
    (withClearance.createPolicy crowdedPolicy).1 = .ok (Drawn.identifier 1) := by
  apply eq_ok_of_toOption
  rw [withClearance, inMemory_eq]
  decide +kernel

theorem keys_withClearance :
    withClearance.tables?.map Tables.keys = some [("clearance", .subject)] := by
  rw [withClearance, inMemory_eq]
  decide +kernel

theorem needs_crowdedPolicy : (Administration.createPolicy crowdedPolicy).needs =
    [.inCategory "owner" .resource, .anywhere "owner", .anywhere "badge",
      .inCategory "badge" .subject, .inCategory "owner" .subject, .anywhere "clearance",
      .inCategory "badge" .subject, .inCategory "name" .action, .inCategory "name" .action] := by
  decide +kernel

/-- The owner of a resource, a badge, the owner of a subject and the name of an action are defined, each
once: the bare owner is that of the resource, and the clearance is there. -/
theorem crowdedPolicy_keeps_catalogue :
    withClearance.IsReached ∧ ∃ t, (withClearance.createPolicy crowdedPolicy).2.2.tables? = some t ∧
      t.IsCatalogued ∧
      t.keys = [("clearance", .subject), ("owner", .resource), ("badge", .subject),
        ("owner", .subject), ("name", .action)] ∧
      t.rulesOf (Drawn.identifier 1) = crowdedPolicy.rules.map Rule.stored ∧
      t.targetsOf (Drawn.identifier 1) = crowdedPolicy.targets.map Target.stored := by
  have hreached : withClearance.IsReached := .assignUser isReached_inMemory _ _ _
  obtain ⟨-, -, hlearns, hreadBack⟩ := hreached.keeps_catalogue
  obtain ⟨hcatalogued, -⟩ := (hreached.createPolicy crowdedPolicy).keeps_catalogue
  have hok : ((Administration.createPolicy crowdedPolicy).perform withClearance).1 =
      .ok (some (Drawn.identifier 1)) := by
    rw [Administration.perform, Change.answering, createPolicy_crowdedPolicy]
    rfl
  obtain ⟨t, t', ht, ht', -, hkeys, -⟩ := hlearns _ _ hok
  obtain ⟨t'', ht'', hrules, htargets⟩ := hreadBack crowdedPolicy _ createPolicy_crowdedPolicy
  obtain rfl : t' = t'' := Option.some.inj (ht'.symm.trans ht'')
  refine ⟨hreached, t', ht'', hcatalogued t' ht'', ?_, hrules, htargets⟩
  have hbefore := keys_withClearance
  rw [ht, Option.map_some] at hbefore
  rw [hkeys, Option.some.inj hbefore, needs_crowdedPolicy]
  decide

end Database

end Clearance
