/-
# Identifiers of rows

Each definition has an identifier of its own, and no identifier that stands in the tables is drawn
again. Every change of the tables keeps this, whether it is committed or rolled back, so it holds of
every database that the operations lead to.
-/

import Clearance.Proofs.Database.Script
import Clearance.Proofs.Store.Qualified
import Clearance.Proofs.Time.Padded
import Mathlib.Data.List.Nodup

namespace Clearance

/-! ## Identifiers that were drawn -/

namespace Drawn

/-- A supply never gives the same identifier twice. -/
theorem identifier_inj {n k : Nat} : identifier n = identifier k ↔ n = k := by
  constructor
  · intro h
    have hchars := congrArg String.toList h
    simp only [identifier, String.toList_append] at hchars
    exact Time.toList_padded_inj.mp (List.append_cancel_left hchars)
  · rintro rfl
    rfl

/-- An identifier that is not drawn any more. -/
def IsSpent (drawn : Nat) (id : String) : Prop := ∀ n, drawn ≤ n → id ≠ identifier n

theorem IsSpent.mono {drawn drawn' : Nat} {id : String} (h : IsSpent drawn id)
    (hle : drawn ≤ drawn') : IsSpent drawn' id :=
  fun n hn => h n (Nat.le_trans hle hn)

theorem isSpent_identifier (n : Nat) : IsSpent (n + 1) (identifier n) := by
  intro k hk heq
  have hn : n = k := identifier_inj.mp heq
  omega

end Drawn

/-- Each definition has an identifier of its own, and none that stands in the tables is drawn
again. -/
structure Tables.IsSound (t : Tables) (drawn : Nat) : Prop where
  nodup : (t.definitions.map (·.id)).Nodup
  definitions : ∀ d ∈ t.definitions, Drawn.IsSpent drawn d.id
  rules : ∀ row ∈ t.rules, Drawn.IsSpent drawn row.policy
  targets : ∀ row ∈ t.targets, Drawn.IsSpent drawn row.policy

namespace Tables.IsSound

variable {t : Tables} {drawn drawn' : Nat}

theorem empty (drawn : Nat) : ({} : Tables).IsSound drawn where
  nodup := List.nodup_nil
  definitions := nofun
  rules := nofun
  targets := nofun

theorem mono (ht : t.IsSound drawn) (hle : drawn ≤ drawn') : t.IsSound drawn' where
  nodup := ht.nodup
  definitions d hd := (ht.definitions d hd).mono hle
  rules row hrow := (ht.rules row hrow).mono hle
  targets row hrow := (ht.targets row hrow).mono hle

/-- A definition is found by its identifier. -/
theorem definitionOf?_of_mem (ht : t.IsSound drawn) {d : AttributeDefinition}
    (hd : d ∈ t.definitions) : t.definitionOf? d.id = some d := by
  rw [definitionOf?]
  cases hfound : t.definitions.find? fun e => e.id == d.id with
  | none => exact absurd (beq_self_eq_true d.id) (List.find?_eq_none.mp hfound d hd)
  | some e =>
      have he : e ∈ t.definitions := List.mem_of_find?_eq_some hfound
      have hid : e.id = d.id := by simpa using List.find?_some hfound
      rw [List.inj_on_of_nodup_map ht.nodup he hd hid]

end Tables.IsSound

/-- A change of other tables than those of definitions, rules and targets. -/
def Tables.IsElsewhere (f : Tables → Tables) : Prop :=
  ∀ t, (f t).definitions = t.definitions ∧ (f t).rules = t.rules ∧ (f t).targets = t.targets

/-- A session in which at least so many identifiers were drawn, and in which no identifier that
stands in the tables or in a row that waits is drawn again. -/
structure Session.IsSound (low : Nat) (s : Session) : Prop where
  low_le : low ≤ s.drawn
  nodup : (s.tables.definitions.map (·.id)).Nodup
  definitions : ∀ d ∈ s.tables.definitions, Drawn.IsSpent s.drawn d.id
  rules : ∀ row, some row ∈ s.allRules → Drawn.IsSpent s.drawn row.policy
  targets : ∀ row, some row ∈ s.allTargets → Drawn.IsSpent s.drawn row.policy

namespace Session.IsSound

variable {low low' : Nat} {s s' : Session}

theorem begin {t : Tables} {drawn : Nat} (ht : t.IsSound drawn) :
    ({ tables := t, drawn := drawn } : Session).IsSound drawn where
  low_le := Nat.le_refl _
  nodup := ht.nodup
  definitions := ht.definitions
  rules row hrow := ht.rules row (by simpa [allRules] using hrow)
  targets row hrow := ht.targets row (by simpa [allTargets] using hrow)

theorem tables (hs : s.IsSound low) : s.tables.IsSound s.drawn where
  nodup := hs.nodup
  definitions := hs.definitions
  rules row hrow := hs.rules row (List.mem_append_left _ (List.mem_map_of_mem hrow))
  targets row hrow := hs.targets row (List.mem_append_left _ (List.mem_map_of_mem hrow))

theorem mono (hs : s.IsSound low) (hle : low' ≤ low) : s.IsSound low' :=
  { hs with low_le := Nat.le_trans hle hs.low_le }

/-- A row may be added if its policy has an identifier that was drawn. What stands in the other
tables does not matter, nor does it which rows wait. -/
theorem of_rows (hs : s.IsSound low) (hdrawn : s'.drawn = s.drawn)
    (hdefinitions : s'.tables.definitions = s.tables.definitions)
    (hrules : ∀ row, some row ∈ s'.allRules →
      some row ∈ s.allRules ∨ Drawn.IsSpent low row.policy)
    (htargets : ∀ row, some row ∈ s'.allTargets →
      some row ∈ s.allTargets ∨ Drawn.IsSpent low row.policy) : s'.IsSound low where
  low_le := hdrawn ▸ hs.low_le
  nodup := hdefinitions ▸ hs.nodup
  definitions := hdefinitions ▸ hdrawn ▸ hs.definitions
  rules row hrow := by
    rw [hdrawn]
    rcases hrules row hrow with hold | hnew
    · exact hs.rules row hold
    · exact hnew.mono hs.low_le
  targets row hrow := by
    rw [hdrawn]
    rcases htargets row hrow with hold | hnew
    · exact hs.targets row hold
    · exact hnew.mono hs.low_le

theorem of_subset (hs : s.IsSound low) (hdrawn : s'.drawn = s.drawn)
    (hdefinitions : s'.tables.definitions = s.tables.definitions)
    (hrules : s'.allRules ⊆ s.allRules) (htargets : s'.allTargets ⊆ s.allTargets) :
    s'.IsSound low :=
  hs.of_rows hdrawn hdefinitions (fun _ hrow => .inl (hrules hrow))
    fun _ hrow => .inl (htargets hrow)

theorem draw (hs : s.IsSound low) :
    ({ s with drawn := s.drawn + 1 } : Session).IsSound (s.drawn + 1) where
  low_le := Nat.le_refl _
  nodup := hs.nodup
  definitions d hd := (hs.definitions d hd).mono (Nat.le_succ _)
  rules row hrow := (hs.rules row hrow).mono (Nat.le_succ _)
  targets row hrow := (hs.targets row hrow).mono (Nat.le_succ _)

/-- A new definition has the identifier that is drawn for it. -/
theorem define (hs : s.IsSound low) (name type : String) (category : Category)
    (description validValues : Option String) :
    ({ s with
      drawn := s.drawn + 1
      tables := { s.tables with definitions := s.tables.definitions ++
        [⟨Drawn.identifier s.drawn, name, type, category, description, validValues⟩] } } :
      Session).IsSound low where
  low_le := Nat.le_succ_of_le hs.low_le
  nodup := by
    rw [List.map_append, List.map_singleton, List.nodup_append]
    refine ⟨hs.nodup, List.nodup_singleton _, ?_⟩
    intro id hid id' hid' heq
    obtain ⟨d, hd, rfl⟩ := List.mem_map.mp hid
    exact hs.definitions d hd s.drawn (Nat.le_refl _) (heq.trans (List.mem_singleton.mp hid'))
  definitions := by
    intro d hd
    rcases List.mem_append.mp hd with hold | hnew
    · exact (hs.definitions d hold).mono (Nat.le_succ _)
    · rw [List.mem_singleton.mp hnew]
      exact Drawn.isSpent_identifier s.drawn
  rules row hrow := (hs.rules row hrow).mono (Nat.le_succ _)
  targets row hrow := (hs.targets row hrow).mono (Nat.le_succ _)

theorem addRule (hs : s.IsSound low) {row : Option RuleRow}
    (hrow : ∀ r, row = some r → Drawn.IsSpent low r.policy) :
    ({ s with rules := s.rules ++ [row] } : Session).IsSound low := by
  refine hs.of_rows rfl rfl (fun r hr => ?_) fun _ => .inl
  rw [allRules, ← List.append_assoc] at hr
  exact (List.mem_append.mp hr).imp_right fun hnew => hrow r (List.mem_singleton.mp hnew).symm

theorem addTarget (hs : s.IsSound low) {row : Option TargetRow}
    (hrow : ∀ r, row = some r → Drawn.IsSpent low r.policy) :
    ({ s with targets := s.targets ++ [row] } : Session).IsSound low := by
  refine hs.of_rows rfl rfl (fun _ => .inl) fun r hr => ?_
  rw [allTargets, ← List.append_assoc] at hr
  exact (List.mem_append.mp hr).imp_right fun hnew => hrow r (List.mem_singleton.mp hnew).symm

end Session.IsSound

/-! ## Scripts -/

namespace Script

variable {α : Type} {low : Nat}

theorem keeps_draw : draw.Keeps (Session.IsSound low) :=
  fun _ hs => hs.draw.mono (Nat.le_succ_of_le hs.low_le)

/-- What follows upon a drawn identifier may count on it being spent. -/
theorem keeps_draw_bind {f : String → Script α}
    (hf : ∀ n, low ≤ n → (f (Drawn.identifier n)).Keeps (Session.IsSound (n + 1))) :
    (draw >>= f).Keeps (Session.IsSound low) := by
  intro s hs
  rw [execute_bind, execute_draw]
  exact (hf s.drawn hs.low_le _ hs.draw).mono (Nat.le_succ_of_le hs.low_le)

theorem keeps_flush : flush.Keeps (Session.IsSound low) := by
  intro s hs
  rcases flush_cases s with
    ⟨rules, targets, hrules, htargets, hflush⟩ | ⟨abort, hflush | ⟨rules, hrules, hflush⟩⟩
  · rw [hflush]
    exact hs.of_subset rfl rfl (Session.allRules_written hrules ▸ List.Subset.refl _)
      (Session.allTargets_written htargets ▸ List.Subset.refl _)
  · rw [hflush]
    exact hs
  · -- The rules were written and wait still; they are the same rows.
    rw [hflush]
    refine hs.of_subset rfl rfl ?_ (List.Subset.refl _)
    simp [Session.allRules, hrules]

theorem keeps_change {f : Tables → Tables} (hf : Tables.IsElsewhere f) :
    (change f).Keeps (Session.IsSound low) := by
  intro s hs
  obtain ⟨hdefinitions, hrules, htargets⟩ := hf s.tables
  refine hs.of_subset rfl hdefinitions ?_ ?_
  · rw [execute_change, Session.allRules, hrules]
    exact List.Subset.refl _
  · rw [execute_change, Session.allTargets, htargets]
    exact List.Subset.refl _

/-- A row with a name that must be there and must not be taken. -/
theorem keeps_insert (column columns : String) (name : Option String)
    (isTaken : String → Tables → Bool) {f : String → Tables → Tables}
    (hf : ∀ name, Tables.IsElsewhere (f name)) (id : String) :
    (do
      let name ← notNull column name
      unique columns (isTaken name (← tables))
      change (f name)
      return id : Script String).Keeps (Session.IsSound low) :=
  .bind (.notNull column name) fun name => .bind .tables fun t =>
    .bind (.unique columns (isTaken name t)) fun _ => .bind (keeps_change (hf name)) fun _ =>
    .pure id

theorem keeps_define (name : Option String) (category : Category) (type : String)
    (description validValues : Option String) :
    (define name category type description validValues).Keeps (Session.IsSound low) := by
  -- The parts alone do not tell that the drawn identifier is still new when the row is added.
  intro s hs
  cases name with
  | none => exact hs.draw.mono (Nat.le_succ_of_le hs.low_le)
  | some name =>
      by_cases htaken : (s.tables.definition? name category).isSome = true
      · rw [execute_define_of_taken htaken]
        exact hs.draw.mono (Nat.le_succ_of_le hs.low_le)
      · rw [execute_define_of_free htaken]
        have hflush : (flush >>= fun _ => pure (Drawn.identifier s.drawn)).Keeps
            (Session.IsSound low) := .bind keeps_flush fun _ => .pure _
        exact hflush _ (hs.define name type category description validValues)

theorem keeps_definition (name : Option String) (category : Category) :
    (definition name category).Keeps (Session.IsSound low) := by
  refine .bind .tables fun t => ?_
  cases name.bind fun n => t.definition? n category with
  | some d => exact .pure d.id
  | none => exact keeps_define name category "string" none none

theorem keeps_ruleDefinition (reference : Option String) :
    (ruleDefinition reference).Keeps (Session.IsSound low) := by
  cases reference with
  | none => exact .throw _
  | some reference =>
      simp only [ruleDefinition]
      cases Reference.ofString reference with
      | qualified category name => exact keeps_definition _ _
      | bare name =>
          refine .bind .tables fun t => ?_
          cases t.definitionNamed? name with
          | some d => exact .pure d.id
          | none => exact keeps_definition _ _

theorem keeps_targetCategory (type : Option String) :
    (targetCategory type).Keeps (Session.IsSound low) := by
  cases type with
  | none => exact .throw _
  | some type =>
      simp only [targetCategory]
      cases targetCategory? type with
      | some category => exact .pure _
      | none => exact .throw _

theorem keeps_addRule {policy : String} (hpolicy : Drawn.IsSpent low policy) (position : Nat)
    (r : Rule) : (addRule policy position r).Keeps (Session.IsSound low) := by
  refine .bind (keeps_ruleDefinition _) fun definition => .bind (.spelled _)
    fun value s hs => hs.addRule fun row hrow => ?_
  obtain ⟨operator, _, rfl⟩ := Option.map_eq_some_iff.mp hrow
  exact hpolicy

theorem keeps_addTarget {policy : String} (hpolicy : Drawn.IsSpent low policy) (position : Nat)
    (t : Target) : (addTarget policy position t).Keeps (Session.IsSound low) := by
  refine .bind (keeps_targetCategory _) fun found => .bind (keeps_definition _ _)
    fun definition => .bind (.spelled _) fun value s hs => hs.addTarget fun row hrow => ?_
  obtain ⟨operator, _, rfl⟩ := Option.map_eq_some_iff.mp hrow
  exact hpolicy

/-- What a script leaves is sound, whether it is committed or rolled back. -/
theorem isSound_run {t : Tables} {drawn : Nat} (ht : t.IsSound drawn) {script : Script α}
    (hscript : ∀ {low}, script.Keeps (Session.IsSound low)) :
    (script.run t drawn).2.1.IsSound (script.run t drawn).2.2 := by
  have hwhole : (do let a ← script; flush; return a : Script α).Keeps (Session.IsSound drawn) :=
    .bind hscript fun a => .bind keeps_flush fun _ => .pure a
  have hlast := hwhole _ (Session.IsSound.begin ht)
  rw [run_eq]
  rcases hexecute : execute (do let a ← script; flush; return a)
    { tables := t, drawn := drawn } with ⟨abort | a, s⟩
  · rw [hexecute] at hlast
    exact ht.mono hlast.low_le
  · rw [hexecute] at hlast
    exact hlast.tables

end Script

/-! ## Databases -/

open Script

namespace Database

variable {db db' : Database} {α : Type} {low : Nat}

/-- The tables of a database are sound, if there are any. -/
def IsSound (db : Database) : Prop := ∀ t, db.tables? = some t → t.IsSound db.drawn

theorem keeps_resourceType (name : String) :
    (resourceType name).Keeps (Session.IsSound low) := by
  refine .bind .tables fun t => ?_
  cases t.resourceTypes.find? fun row => row.name == name with
  | some row => exact .pure row.id
  | none =>
      refine .bind keeps_draw fun id => .bind (keeps_change ?_) fun _ => .pure id
      exact fun _ => ⟨rfl, rfl, rfl⟩

theorem keeps_insertAction (name description : Option String) :
    (insertAction name description).Keeps (Session.IsSound low) := by
  refine .bind keeps_draw fun id => ?_
  apply keeps_insert
  exact fun _ _ => ⟨rfl, rfl, rfl⟩

theorem keeps_storePolicy (draft : PolicyDraft) (effect : Effect) :
    (storePolicy draft effect).Keeps (Session.IsSound low) := by
  refine keeps_draw_bind fun n _ => ?_
  have hpolicy := Drawn.isSpent_identifier n
  refine .bind (.fitting _) fun _ => .bind (.notNull _ _) fun _ => .bind (keeps_change ?_) fun _ =>
    .bind (.eachFrom (keeps_addRule hpolicy) 0 _) fun _ =>
    .bind (.eachFrom (keeps_addTarget hpolicy) 0 _) fun _ => .pure _
  exact fun _ => ⟨rfl, rfl, rfl⟩

/-- A database draws the next identifiers of another one, and has the tables of that one or empty
ones, if it has any. -/
def Inherits (db' db : Database) : Prop :=
  db'.drawn = db.drawn ∧ ∀ t, db'.tables? = some t → t = {} ∨ db.tables? = some t

/-- Tables that are made where there are none are empty. -/
theorem eq_empty_or_of_getD {kept : Option Tables} {t : Tables} (h : some (kept.getD {}) = some t) :
    t = {} ∨ kept = some t := by
  cases kept with
  | none => exact .inl (Option.some.inj h).symm
  | some t' => exact .inr h

theorem setUp_inherits (db : Database) (createTables : Bool) :
    (db.setUp createTables).2.2.Inherits db := by
  have hkept : ∀ t, (if isInMemory (path db.url) then none else db.tables?) = some t →
      t = {} ∨ db.tables? = some t := by
    split
    · exact nofun
    · exact fun _ => .inr
  simp only [Database.setUp]
  generalize (if isInMemory (path db.url) then none else db.tables?) = kept at hkept
  cases engineFault? db.url with
  | some text => exact ⟨rfl, fun _ => .inr⟩
  | none =>
      dsimp only
      split
      · exact ⟨rfl, nofun⟩
      · cases canOpen (path db.url) with
        | false => exact ⟨rfl, nofun⟩
        | true =>
            cases createTables with
            | false => exact ⟨rfl, hkept⟩
            | true => exact ⟨rfl, fun t ht => (eq_empty_or_of_getD ht).elim .inl (hkept t)⟩

theorem createTables_inherits (db : Database) : db.createTables.2.2.Inherits db := by
  simp only [Database.createTables]
  cases hengine : db.engine with
  | absent => exact ⟨rfl, fun _ => .inr⟩
  | unreachable => exact ⟨rfl, fun _ => .inr⟩
  | connected tables =>
      refine ⟨rfl, fun t ht => ?_⟩
      rw [tables?, hengine]
      exact eq_empty_or_of_getD ht

theorem dropTables_inherits (db : Database) : db.dropTables.2.2.Inherits db := by
  simp only [Database.dropTables]
  cases db.engine with
  | absent => exact ⟨rfl, fun _ => .inr⟩
  | unreachable => exact ⟨rfl, fun _ => .inr⟩
  | connected tables => exact ⟨rfl, nofun⟩

namespace IsSound

theorem transact (hdb : db.IsSound) {script : Script α}
    (hscript : ∀ {low}, script.Keeps (Session.IsSound low)) (operation : String)
    (frame : String → Failure) (missing : String) :
    (db.transact operation frame missing script).2.2.IsSound := by
  cases ht : db.tables? with
  | none =>
      rw [(transact_of_tables?_eq_none ht operation frame missing script).2]
      exact hdb
  | some t =>
      rw [(transact_of_tables? ht operation frame missing script).2]
      rintro _ ⟨⟩
      exact isSound_run (hdb t ht) hscript

theorem ofUrl (url : Option String) : (Database.ofUrl url).IsSound := nofun

theorem inherited (hdb : db.IsSound) (h : db'.Inherits db) : db'.IsSound := by
  intro t ht
  rw [h.1]
  rcases h.2 t ht with rfl | hkept
  · exact .empty db.drawn
  · exact hdb t hkept

theorem write (hdb : db.IsSound) (record : Record) :
    (Database.write record db).2.2.IsSound := by
  have hafter : (Database.write record db).2.2 = (db.transact recordCallName
      (fun message => .of .audit message []) (Statement.noSuchTable "resources")
      (change fun t => { t with accesses := t.accesses ++ [accessRow t record] })).2.2 := by
    simp only [Database.write]
    split
    · rfl
    · rfl
  rw [hafter]
  refine hdb.transact (keeps_change ?_) _ _ _
  exact fun _ => ⟨rfl, rfl, rfl⟩

theorem records (hdb : db.IsSound) (subject : Option String) :
    (db.records subject).2.2.IsSound :=
  hdb.transact (.bind .tables fun t => .pure (t.accessesOf subject)) _ _ _

theorem createAttribute (hdb : db.IsSound) (name : Option String) (category type : String)
    (description validValues : Option String) :
    (db.createAttribute name category type description validValues).2.2.IsSound := by
  simp only [Database.createAttribute]
  cases Category.ofName category with
  | error fault => exact hdb
  | ok category => exact hdb.transact (keeps_define _ _ _ _ _) _ _ _

theorem createRole (hdb : db.IsSound) (name description : Option String) :
    (db.createRole name description).2.2.IsSound := by
  apply hdb.transact
  refine .bind keeps_draw fun id => ?_
  apply keeps_insert
  exact fun _ _ => ⟨rfl, rfl, rfl⟩

theorem createUser (hdb : db.IsSound) (name role email id : Option String) :
    (db.createUser name role email id).2.2.IsSound := by
  apply hdb.transact
  cases id with
  | some id =>
      refine .bind (.pure id) fun id => ?_
      apply keeps_insert
      exact fun _ _ => ⟨rfl, rfl, rfl⟩
  | none =>
      refine .bind keeps_draw fun id => ?_
      apply keeps_insert
      exact fun _ _ => ⟨rfl, rfl, rfl⟩

theorem createResource (hdb : db.IsSound) (resource name type owner : Option String) :
    (db.createResource resource name type owner).2.2.IsSound := by
  apply hdb.transact
  refine .bind (.optionMapM keeps_resourceType _) fun typeId => .bind keeps_draw fun id =>
    .bind (.notNull _ _) fun resource => ?_
  apply keeps_insert
  exact fun _ _ => ⟨rfl, rfl, rfl⟩

theorem createAction (hdb : db.IsSound) (name description : Option String) :
    (db.createAction name description).2.2.IsSound :=
  hdb.transact (keeps_insertAction name description) _ _ _

theorem assignUser (hdb : db.IsSound) (user name : Option String) (value : Value) :
    (db.assignUser user name value).2.2.IsSound := by
  apply hdb.transact
  refine .bind (keeps_definition _ _) fun _ => .bind (.spelled _) fun _ =>
    .bind (.notNull _ _) fun _ => keeps_change ?_
  exact fun _ => ⟨rfl, rfl, rfl⟩

theorem assignRole (hdb : db.IsSound) (role name : Option String) (value : Value) :
    (db.assignRole role name value).2.2.IsSound := by
  apply hdb.transact
  refine .bind (keeps_definition _ _) fun _ => .bind (.spelled _) fun _ =>
    .bind (.notNull _ _) fun _ => keeps_change ?_
  exact fun _ => ⟨rfl, rfl, rfl⟩

theorem assignResource (hdb : db.IsSound) (resource name : Option String) (value : Value) :
    (db.assignResource resource name value).2.2.IsSound := by
  apply hdb.transact
  refine .bind .tables fun t => ?_
  cases resource.bind t.resource? with
  | none => exact .throw _
  | some row =>
      refine .bind (keeps_definition _ _) fun _ => .bind (.spelled _) fun _ => keeps_change ?_
      exact fun _ => ⟨rfl, rfl, rfl⟩

theorem assignAction (hdb : db.IsSound) (action name : Option String) (value : Value) :
    (db.assignAction action name value).2.2.IsSound := by
  apply hdb.transact
  refine .bind .tables fun t => ?_
  cases action.bind t.action? with
  | some row =>
      refine .bind (.pure row.id) fun _ => .bind (keeps_definition _ _) fun _ =>
        .bind (.spelled _) fun _ => keeps_change ?_
      exact fun _ => ⟨rfl, rfl, rfl⟩
  | none =>
      refine .bind (keeps_insertAction _ _) fun _ => .bind (keeps_definition _ _) fun _ =>
        .bind (.spelled _) fun _ => keeps_change ?_
      exact fun _ => ⟨rfl, rfl, rfl⟩

theorem assignEnvironment (hdb : db.IsSound) (name : Option String) (value : Value)
    (first last : Option Time.Moment) :
    (db.assignEnvironment name value first last).2.2.IsSound := by
  apply hdb.transact
  refine .bind (keeps_definition _ _) fun _ => .bind (.spelled _) fun _ =>
    .bind (.optionMapM .universal _) fun _ => .bind (.optionMapM .universal _) fun _ =>
    keeps_change ?_
  exact fun _ => ⟨rfl, rfl, rfl⟩

theorem createPolicySet (hdb : db.IsSound) (name description : Option String) (priority : Int) :
    (db.createPolicySet name description priority).2.2.IsSound := by
  apply hdb.transact
  refine .bind keeps_draw fun id => .bind (.fitting _) fun _ => .bind (.notNull _ _) fun _ =>
    .bind (keeps_change ?_) fun _ => .pure id
  exact fun _ => ⟨rfl, rfl, rfl⟩

theorem createPolicy (hdb : db.IsSound) (draft : PolicyDraft) :
    (db.createPolicy draft).2.2.IsSound := by
  simp only [Database.createPolicy]
  cases PolicyDraft.effect? draft with
  | error fault => exact hdb
  | ok effect => exact hdb.transact (keeps_storePolicy draft effect) _ _ _

theorem setPolicyActive (hdb : db.IsSound) (policy : Option String) (isActive : Bool) :
    (db.setPolicyActive policy isActive).2.2.IsSound := by
  apply hdb.transact
  refine .bind .tables fun t => ?_
  cases policy.filter fun id => t.policies.any (·.id == id) with
  | none => exact .throw _
  | some id =>
      apply keeps_change
      exact fun _ => ⟨rfl, rfl, rfl⟩

end IsSound

/-- The databases that operations lead to, from one that is not set up yet. -/
inductive IsReached : Database → Prop
  | ofUrl (url : Option String) : IsReached (ofUrl url)
  | setUp {db : Database} (h : IsReached db) (createTables : Bool) :
      IsReached (db.setUp createTables).2.2
  | createTables {db : Database} (h : IsReached db) : IsReached db.createTables.2.2
  | dropTables {db : Database} (h : IsReached db) : IsReached db.dropTables.2.2
  | ask {db : Database} (h : IsReached db) (call : StoreCall) : IsReached (ask call db).2.2
  | write {db : Database} (h : IsReached db) (record : Record) : IsReached (write record db).2.2
  | records {db : Database} (h : IsReached db) (subject : Option String) :
      IsReached (db.records subject).2.2
  | createAttribute {db : Database} (h : IsReached db) (name : Option String)
      (category type : String) (description validValues : Option String) :
      IsReached (db.createAttribute name category type description validValues).2.2
  | createRole {db : Database} (h : IsReached db) (name description : Option String) :
      IsReached (db.createRole name description).2.2
  | createUser {db : Database} (h : IsReached db) (name role email id : Option String) :
      IsReached (db.createUser name role email id).2.2
  | createResource {db : Database} (h : IsReached db) (resource name type owner : Option String) :
      IsReached (db.createResource resource name type owner).2.2
  | createAction {db : Database} (h : IsReached db) (name description : Option String) :
      IsReached (db.createAction name description).2.2
  | assignUser {db : Database} (h : IsReached db) (user name : Option String) (value : Value) :
      IsReached (db.assignUser user name value).2.2
  | assignRole {db : Database} (h : IsReached db) (role name : Option String) (value : Value) :
      IsReached (db.assignRole role name value).2.2
  | assignResource {db : Database} (h : IsReached db) (resource name : Option String)
      (value : Value) : IsReached (db.assignResource resource name value).2.2
  | assignAction {db : Database} (h : IsReached db) (action name : Option String)
      (value : Value) : IsReached (db.assignAction action name value).2.2
  | assignEnvironment {db : Database} (h : IsReached db) (name : Option String) (value : Value)
      (first last : Option Time.Moment) :
      IsReached (db.assignEnvironment name value first last).2.2
  | createPolicySet {db : Database} (h : IsReached db) (name description : Option String)
      (priority : Int) : IsReached (db.createPolicySet name description priority).2.2
  | createPolicy {db : Database} (h : IsReached db) (draft : PolicyDraft) :
      IsReached (db.createPolicy draft).2.2
  | setPolicyActive {db : Database} (h : IsReached db) (policy : Option String)
      (isActive : Bool) : IsReached (db.setPolicyActive policy isActive).2.2

/-- Every database that operations lead to has sound tables. -/
theorem IsReached.isSound (h : db.IsReached) : db.IsSound := by
  induction h with
  | ofUrl url => exact .ofUrl url
  | setUp _ createTables ih => exact ih.inherited (setUp_inherits _ createTables)
  | createTables _ ih => exact ih.inherited (createTables_inherits _)
  | dropTables _ ih => exact ih.inherited (dropTables_inherits _)
  | ask _ call ih => exact (ask_leaves call _).symm ▸ ih
  | write _ record ih => exact ih.write record
  | records _ subject ih => exact ih.records subject
  | createAttribute _ name category type description validValues ih =>
      exact ih.createAttribute name category type description validValues
  | createRole _ name description ih => exact ih.createRole name description
  | createUser _ name role email id ih => exact ih.createUser name role email id
  | createResource _ resource name type owner ih => exact ih.createResource resource name type owner
  | createAction _ name description ih => exact ih.createAction name description
  | assignUser _ user name value ih => exact ih.assignUser user name value
  | assignRole _ role name value ih => exact ih.assignRole role name value
  | assignResource _ resource name value ih => exact ih.assignResource resource name value
  | assignAction _ action name value ih => exact ih.assignAction action name value
  | assignEnvironment _ name value first last ih => exact ih.assignEnvironment name value first last
  | createPolicySet _ name description priority ih =>
      exact ih.createPolicySet name description priority
  | createPolicy _ draft ih => exact ih.createPolicy draft
  | setPolicyActive _ policy isActive ih => exact ih.setPolicyActive policy isActive

end Database

end Clearance
