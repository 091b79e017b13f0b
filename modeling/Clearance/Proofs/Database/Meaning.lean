/-
# What a stored policy means

A policy that a database has taken is answered in its stored form, and on every map of attributes
the stored form means what was given: the targets hold on the same requests, and so do the rules, in
strict mode and outside of it. What the stored form leaves out must not matter for that. The items of
a sequence can be told apart in its string form only if there are any and none has a comma in it, and
a name that lost its category must not be found in another one.
-/

import Clearance.Proofs.Database.Storing

namespace Clearance.Database

variable {db : Database} {draft : PolicyDraft} {id : String}

/-- The conditions of a policy that was made are read back in their stored forms, in the order in which
they were given. -/
theorem readBack_createPolicy (hdb : db.IsSound) (h : (db.createPolicy draft).1 = .ok id) :
    ∃ t, (db.createPolicy draft).2.2.tables? = some t ∧
      t.rulesOf id = draft.rules.map Rule.stored ∧
      t.targetsOf id = draft.targets.map Target.stored := by
  obtain ⟨t, effect, s, ht, -, hexecute, htables⟩ := exists_execute_of_createPolicy h
  exact ⟨s.tables, htables, readBack_storePolicy (hdb t ht) hexecute⟩

/-- A policy that was made has values with string forms. -/
theorem hasString_of_createPolicy (h : (db.createPolicy draft).1 = .ok id) :
    (∀ r ∈ draft.rules, r.value.HasString) ∧ ∀ t ∈ draft.targets, t.value.HasString := by
  obtain ⟨t, effect, s, -, -, hexecute, -⟩ := exists_execute_of_createPolicy h
  exact hasString_of_storePolicy hexecute

/-- A policy that was made is answered by the stored forms of its conditions. -/
theorem answered_of_createPolicy (hdb : db.IsSound)
    (h : (db.createPolicy draft).1 = .ok id) :
    (ask (.rules id) (db.createPolicy draft).2.2).1 =
        .answered (draft.rules.map Rule.stored) ∧
      (ask (.targets id) (db.createPolicy draft).2.2).1 =
        .answered (draft.targets.map Target.stored) := by
  obtain ⟨t, ht, hrules, htargets⟩ := readBack_createPolicy hdb h
  rw [ask_of_tables? ht rfl, ask_of_tables? ht rfl, ← hrules, ← htargets]
  exact ⟨rfl, rfl⟩

/-! ## A database in memory -/

/-- A database in memory that was set up with its tables. -/
def inMemory : Database := ((ofUrl (some "sqlite://")).setUp true).2.2

theorem isReached_inMemory : inMemory.IsReached := .setUp (.ofUrl _) true

theorem parts?_inMemory : parts? "sqlite://" = some ("sqlite", "") := by
  have hsplit : "sqlite://".splitOn "://" = ["sqlite", ""] := by
    rw [String.splitOn, if_neg (by decide)]
    -- Six letters do not match the separator, three characters do, and then the address ends.
    iterate 6 rw [String.splitOnAux, if_neg (by decide +kernel), if_neg (by decide +kernel)]
    iterate 2
      rw [String.splitOnAux, if_neg (by decide +kernel), if_pos (by decide +kernel)]
      dsimp only
      rw [if_neg (by decide +kernel)]
    rw [String.splitOnAux, if_neg (by decide +kernel), if_pos (by decide +kernel)]
    dsimp only
    rw [if_pos (by decide +kernel), String.splitOnAux, if_pos (by decide +kernel)]
    decide +kernel
  rw [parts?, hsplit]
  rfl

theorem inMemory_eq :
    inMemory = { url := "sqlite://", engine := .connected (some {}), isInitialized := true } := by
  have hurl : (ofUrl (some "sqlite://")).url = "sqlite://" := rfl
  have hfault : engineFault? "sqlite://" = none := by
    rw [engineFault?, parts?_inMemory]
    rfl
  have hpath : path "sqlite://" = "" := by
    rw [path, parts?_inMemory]
    rfl
  simp only [inMemory, setUp, hurl, hfault, hpath]
  rfl

theorem tables?_inMemory : inMemory.tables? = some {} := by
  rw [inMemory_eq]
  rfl

/-- A policy for members of the staff with some clearance. -/
def staffPolicy : PolicyDraft where
  name := some "staff"
  effect := .text "permit"
  rules := [
    { reference := some "subject.role", operator := some "equals", value := .text "staff" },
    { reference := some "clearance", operator := some "in", value := .list [.int 2, .int 3] }]
  targets := [
    { type := some "action", name := some "name", operator := some "==", value := .text "read" }]

/-- A member of the staff reads. -/
def staffRequest : AttributeMap :=
  (({} : AttributeMap).insert ⟨"r", "role", "string", "subject", "staff"⟩).insert
    ⟨"c", "clearance", "string", "subject", "3"⟩ |>.insert ⟨"n", "name", "string", "action", "read"⟩

theorem isKeyed_staffRequest : staffRequest.IsKeyed :=
  .insert (c := .action) (.insert (c := .subject) (.insert (c := .subject) .empty rfl) rfl) rfl

theorem createPolicy_staffPolicy :
    (inMemory.createPolicy staffPolicy).1 = .ok (Drawn.identifier 0) := by
  apply eq_ok_of_toOption
  rw [inMemory_eq]
  decide +kernel

/-- A policy for requests whose value is among none. They are given as a tuple. -/
def nobodyPolicy : PolicyDraft where
  name := some "nobody"
  effect := .text "permit"
  rules := [{ reference := some "x", operator := some "in", value := .tuple [] }]

/-- A request with an empty value. -/
def blankRequest : AttributeMap :=
  ({} : AttributeMap).insert ⟨"x", "x", "string", "environment", ""⟩

theorem createPolicy_nobodyPolicy :
    (inMemory.createPolicy nobodyPolicy).1 = .ok (Drawn.identifier 0) := by
  apply eq_ok_of_toOption
  rw [inMemory_eq]
  decide +kernel

/-! ## Meaning -/

/-- **Storing keeps the meaning of a policy.** Whatever a database has been through, the rules and
targets that it answers for a policy that it has just made hold on a map of attributes exactly if
the given ones do, and end in the same faults. -/
theorem createPolicy_keeps_meaning (hdb : db.IsReached) (h : (db.createPolicy draft).1 = .ok id) :
    ∃ rules targets,
      (ask (.rules id) (db.createPolicy draft).2.2).1 = .answered rules ∧
      (ask (.targets id) (db.createPolicy draft).2.2).1 = .answered targets ∧
      ∀ m : AttributeMap, m.IsKeyed →
        ((∀ t ∈ draft.targets, Operator.Joins t.operator t.value) →
          targetsHold targets m = targetsHold draft.targets m) ∧
        ((∀ r ∈ draft.rules, r.IsUnshadowed m ∧ Operator.Joins r.operator r.value) →
          ∀ strict, rulesHold strict m rules = rulesHold strict m draft.rules) := by
  obtain ⟨hrules, htargets⟩ := answered_of_createPolicy hdb.isSound h
  obtain ⟨hruleValues, htargetValues⟩ := hasString_of_createPolicy h
  refine ⟨_, _, hrules, htargets, fun m hm => ⟨?_, ?_⟩⟩
  · intro hjoins
    exact targetsHold_stored (fun t ht => ⟨htargetValues t ht, hjoins t ht⟩) m
  · intro hkept strict
    apply rulesHold_stored hm
    intro r hr
    obtain ⟨hunshadowed, hjoins⟩ := hkept r hr
    exact ⟨hunshadowed, hruleValues r hr, hjoins⟩

theorem staffPolicy_keeps_meaning :
    (∀ t ∈ staffPolicy.targets, Operator.Joins t.operator t.value) ∧
      (∀ r ∈ staffPolicy.rules,
        r.IsUnshadowed staffRequest ∧ Operator.Joins r.operator r.value) ∧
      ∃ rules targets,
        (ask (.rules (Drawn.identifier 0)) (inMemory.createPolicy staffPolicy).2.2).1 =
          .answered rules ∧
        (ask (.targets (Drawn.identifier 0)) (inMemory.createPolicy staffPolicy).2.2).1 =
          .answered targets ∧
        targetsHold targets staffRequest = .ok true ∧
        rulesHold true staffRequest rules = .ok true := by
  have htargets : ∀ t ∈ staffPolicy.targets, Operator.Joins t.operator t.value := by
    intro t ht o _ _ items hitems
    obtain rfl := List.mem_singleton.mp ht
    cases hitems
  have hrules : ∀ r ∈ staffPolicy.rules,
      r.IsUnshadowed staffRequest ∧ Operator.Joins r.operator r.value := by
    intro r hr
    rcases List.mem_pair.mp hr with rfl | rfl
    · refine ⟨fun c name href => ?_, fun o _ _ items hitems => by cases hitems⟩
      have hrole : Reference.ofString "subject.role" = .qualified "subject" "role" := by
        decide +kernel
      cases hrole.symm.trans href
      decide +kernel
    · refine ⟨fun c name href => ?_, fun o _ _ items hitems => ?_⟩
      · have hbare : Reference.ofString "clearance" = .bare "clearance" := by decide +kernel
        cases hbare.symm.trans href
      · cases hitems
        exact ⟨List.cons_ne_nil _ _, by decide⟩
  obtain ⟨rules, targets, hruleAnswer, htargetAnswer, hmeaning⟩ :=
    createPolicy_keeps_meaning isReached_inMemory createPolicy_staffPolicy
  obtain ⟨htargetsHold, hrulesHold⟩ := hmeaning staffRequest isKeyed_staffRequest
  refine ⟨htargets, hrules, rules, targets, hruleAnswer, htargetAnswer, ?_, ?_⟩
  · rw [htargetsHold htargets]
    rfl
  · rw [hrulesHold hrules true]
    exact eq_ok_of_toOption (by decide +kernel)

/-- The string form of an empty tuple lists one empty item, so a value that is one of none when the
policy is given is one of its items when the policy is read back. -/
theorem nobodyPolicy_changes_meaning :
    inMemory.IsReached ∧
      (inMemory.createPolicy nobodyPolicy).1 = .ok (Drawn.identifier 0) ∧
      blankRequest.IsKeyed ∧ nobodyPolicy.targets = [] ∧
      (∀ r ∈ nobodyPolicy.rules,
        r.IsUnshadowed blankRequest ∧ ∀ items, r.value ≠ .list items) ∧
      ∃ rules,
        (ask (.rules (Drawn.identifier 0)) (inMemory.createPolicy nobodyPolicy).2.2).1 =
          .answered rules ∧
        rulesHold false blankRequest rules = .ok true ∧
        rulesHold false blankRequest nobodyPolicy.rules = .ok false := by
  have hanswer :=
    (answered_of_createPolicy isReached_inMemory.isSound createPolicy_nobodyPolicy).1
  refine ⟨isReached_inMemory, createPolicy_nobodyPolicy, .insert (c := .environment) .empty rfl,
    rfl, ?_, _, hanswer, rfl, rfl⟩
  intro r hr
  obtain rfl := List.mem_singleton.mp hr
  refine ⟨fun c name href => ?_, fun items hitems => by cases hitems⟩
  have hbare : Reference.ofString "x" = .bare "x" := by decide +kernel
  cases hbare.symm.trans href

end Clearance.Database
