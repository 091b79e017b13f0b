/-
# What calls need

Each call that changes a database needs certain definitions, in a certain order. If it succeeds, the
tables have learned just these. All calls but one look for what they need before they define it, so they
can fail for many reasons but not for a definition that is there already.
-/

import Clearance.Proofs.Database.Defining

namespace Clearance

open Script

/-! ## Transactions -/

namespace Database

variable {α : Type} {db : Database} {t : Tables} {operation missing : String}
  {frame : String → Failure} {script : Script α}

/-- A transaction that fails does not report a definition that is there already, if its script is not
aborted for one. -/
theorem message_ne_duplicateReport (hframe : ∀ message, (frame message).message = message)
    (hmissing : missing ≠ duplicate) {Q : Tables → α → Session → Prop}
    (hscript : ∀ t, EndsIn (Q t) (execute (do let a ← script; flush; return a)
      { tables := t, drawn := db.drawn })) {fault : Fault}
    (h : (db.transact operation frame missing script).1 = .error fault) :
    fault.message ≠ duplicateReport operation := by
  have hreported : ∀ text, text ≠ duplicate →
      (Fault.failure (frame s!"Database error during {operation}: {text}")).message ≠
        duplicateReport operation := by
    intro text htext heq
    exact htext ((String.append_right_inj _).mp ((hframe _).symm.trans heq))
  cases ht : db.tables? with
  | none =>
      simp only [transact, ht] at h
      cases h
      exact hreported missing hmissing
  | some t =>
      have hend := hscript t
      simp only [transact, ht, run_eq] at h
      generalize execute (do let a ← script; flush; return a) { tables := t, drawn := db.drawn } =
        result at hend h
      cases hend with
      | ok _ => cases h
      | @error abort s hother =>
          cases abort with
          | reported text =>
              cases h
              exact hreported text hother
          | fault f =>
              cases h
              exact hother operation

end Database

/-! ## Calls -/

namespace Administration

open Database

/-- What a call is reported as. -/
def operation : Administration → String
  | createAttribute .. => "create_attribute"
  | createRole .. => "create_role"
  | createUser .. => "create_user"
  | createResource .. => "create_resource"
  | createAction .. => "create_action"
  | assignUser .. => "assign_user_attribute"
  | assignRole .. => "assign_role_attribute"
  | assignResource .. => "assign_resource_attribute"
  | assignAction .. => "assign_action_attribute"
  | assignEnvironment .. => "assign_environment_attribute"
  | createPolicySet .. => "create_policy_set"
  | createPolicy .. => "create_policy"
  | setPolicyActive .. => "set_policy_active"

/-- Whether a call defines an attribute outright. -/
def isDefinition : Administration → Bool
  | createAttribute .. => true
  | _ => false

/-- The definitions that a call needs, in the order in which it comes to them. -/
def needs : Administration → List Need
  | createAttribute name category .. =>
    match Category.ofName? category with
    | some category => category.needs name
    | none => []
  | assignUser _ name _ => Category.subject.needs name
  | assignRole _ name _ => Category.subject.needs name
  | assignResource _ name _ => Category.resource.needs name
  | assignAction _ name _ => Category.action.needs name
  | assignEnvironment name .. => Category.environment.needs name
  | createPolicy draft => draft.rules.flatMap Rule.needs ++ draft.targets.flatMap Target.needs
  | _ => []

/-- A call is a transaction of a script that looks for what it needs before it defines it, and that
stores no conditions. -/
def LooksFirst (a : Administration) : Prop :=
  ∃ (α : Type) (script : Script α),
    (∃ frame missing answer,
      (∀ db : Database, a.perform db =
        Change.answering answer (db.transact a.operation frame missing script)) ∧
      (∀ message, (frame message).message = message) ∧ missing ≠ duplicate) ∧
    ∀ t rules targets, Leads (Session.Follows t [] rules targets) script fun _ s =>
      s.Follows t a.needs rules targets

theorem noSuchTable_ne_duplicate (table : String) : Statement.noSuchTable table ≠ duplicate :=
  ne_duplicate_of_start (by decide +kernel) table

namespace LooksFirst

variable {a : Administration} {α : Type} {script : Script α} {answer : α → Option String}
  {table : String}

theorem of_changeAttributes {subject resource : Option String}
    (hperform : ∀ db : Database, a.perform db = Change.answering answer
      (db.changeAttributes a.operation subject resource table script))
    (hleads : ∀ t rules targets, Leads (Session.Follows t [] rules targets) script fun _ s =>
      s.Follows t a.needs rules targets) : a.LooksFirst :=
  ⟨α, script, ⟨_, _, _, hperform, fun _ => rfl, noSuchTable_ne_duplicate table⟩, hleads⟩

theorem of_changePolicies {policy : Option String}
    (hperform : ∀ db : Database, a.perform db = Change.answering answer
      (db.changePolicies a.operation policy table script))
    (hleads : ∀ t rules targets, Leads (Session.Follows t [] rules targets) script fun _ s =>
      s.Follows t a.needs rules targets) : a.LooksFirst :=
  ⟨α, script, ⟨_, _, _, hperform, fun _ => rfl, noSuchTable_ne_duplicate table⟩, hleads⟩

end LooksFirst

/-! ### Roles, subjects, resources, actions and sets -/

section Elsewhere

variable {t : Tables} {needs : List Need} {rules : List (Option RuleRow)}
  {targets : List (Option TargetRow)}

/-- A row is added elsewhere, with a name that must be there and must not be taken. -/
theorem leads_insert {column columns : String}
    (hcolumns : columns ≠ "attributes.name, attributes.category") (name : Option String)
    (isTaken : String → Tables → Bool) {f : String → Tables → Tables}
    (hf : ∀ name t, (f name t).SharesValues t) (id : String) :
    Leads (Session.Follows t needs rules targets)
      (do
        let name ← notNull column name
        unique columns (isTaken name (← tables))
        change (f name)
        return id)
      fun _ => Session.Follows t needs rules targets :=
  .bind (.notNull column name) fun name => .bind .tables fun t =>
    .bind (.unique hcolumns (isTaken name t)) fun _ => .bind (leads_elsewhere (hf name)) fun _ =>
    .pure fun _ hs => hs

theorem leads_insertAction (name description : Option String) :
    Leads (Session.Follows t needs rules targets) (insertAction name description) fun _ =>
      Session.Follows t needs rules targets := by
  refine .bind leads_draw fun id => ?_
  apply leads_insert (by decide)
  exact fun _ _ => ⟨rfl, fun k => by cases k <;> rfl, rfl, rfl, rfl⟩

theorem leads_resourceType (name : String) :
    Leads (Session.Follows t needs rules targets) (resourceType name) fun _ =>
      Session.Follows t needs rules targets := by
  refine .bind .tables fun t => ?_
  cases t.resourceTypes.find? fun row => row.name == name with
  | some row => exact .pure fun _ hs => hs
  | none =>
      refine .bind leads_draw fun id => .bind (leads_elsewhere ?_) fun _ => .pure fun _ hs => hs
      exact fun _ => ⟨rfl, fun k => by cases k <;> rfl, rfl, rfl, rfl⟩

end Elsewhere

theorem createRole_looksFirst (name description : Option String) :
    (createRole name description).LooksFirst := by
  refine .of_changeAttributes (fun _ => rfl) fun t _ _ => ?_
  refine .bind leads_draw fun id => ?_
  apply leads_insert (by decide)
  exact fun _ _ => ⟨rfl, fun k => by cases k <;> rfl, rfl, rfl, rfl⟩

theorem createUser_looksFirst (name role email id : Option String) :
    (createUser name role email id).LooksFirst := by
  refine .of_changeAttributes (fun _ => rfl) fun t _ _ => ?_
  cases id with
  | some id =>
      refine .bind (Q := fun _ => Session.Follows t [] _ _) (.pure fun _ hs => hs) fun id => ?_
      apply leads_insert (by decide)
      exact fun _ _ => ⟨rfl, fun k => by cases k <;> rfl, rfl, rfl, rfl⟩
  | none =>
      refine .bind leads_draw fun id => ?_
      apply leads_insert (by decide)
      exact fun _ _ => ⟨rfl, fun k => by cases k <;> rfl, rfl, rfl, rfl⟩

theorem createResource_looksFirst (resource name type owner : Option String) :
    (createResource resource name type owner).LooksFirst := by
  refine .of_changeAttributes (fun _ => rfl) fun t _ _ => ?_
  refine .bind (.optionMapM leads_resourceType _) fun typeId => .bind leads_draw fun id =>
    .bind (.notNull _ _) fun resource => ?_
  apply leads_insert (by decide)
  exact fun _ _ => ⟨rfl, fun k => by cases k <;> rfl, rfl, rfl, rfl⟩

theorem createAction_looksFirst (name description : Option String) :
    (createAction name description).LooksFirst :=
  .of_changeAttributes (fun _ => rfl) fun _ _ _ => leads_insertAction name description

theorem createPolicySet_looksFirst (name description : Option String) (priority : Int) :
    (createPolicySet name description priority).LooksFirst := by
  refine .of_changePolicies (fun _ => rfl) fun t _ _ => ?_
  refine .bind leads_draw fun id => .bind (.fitting _) fun _ => .bind (.notNull _ _) fun _ =>
    .bind (leads_elsewhere ?_) fun _ => .pure fun _ hs => hs
  exact fun _ => ⟨rfl, fun k => by cases k <;> rfl, rfl, rfl, rfl⟩

theorem setPolicyActive_looksFirst (policy : Option String) (isActive : Bool) :
    (setPolicyActive policy isActive).LooksFirst := by
  refine .of_changePolicies (fun _ => rfl) fun t _ _ => ?_
  refine .bind .tables fun t => ?_
  cases policy.filter fun id => t.policies.any (·.id == id) with
  | none =>
      have hhead : "Unknown policy: ".toList.head? = some 'U' := by decide
      exact .throw (Abort.isOther_fault (Text.head?_append hhead _) (by decide))
  | some id =>
      apply leads_elsewhere
      exact fun _ => ⟨rfl, fun k => by cases k <;> rfl, rfl, rfl, rfl⟩

/-! ### Assignments -/

section Assigning

variable {t : Tables} {needs : List Need} {rules : List (Option RuleRow)}
  {targets : List (Option TargetRow)}

/-- A value is written for a holder under a definition that is there. -/
theorem leads_give {definition : String} (k : HolderKind) (holder value : String) :
    Leads (fun s => s.Follows t needs rules targets ∧ s.tables.HasDefinition definition)
      (change fun t => t.withRows k (t.rowsOf k ++ [⟨holder, definition, value⟩]))
      fun _ => Session.Follows t needs rules targets := by
  refine .change fun s hs => ⟨hs.1.learns.give hs.2 k holder value, ?_, ?_⟩
  · rw [← hs.1.rules]
    cases k <;> rfl
  · rw [← hs.1.targets]
    cases k <;> rfl

end Assigning

theorem assignUser_looksFirst (user name : Option String) (value : Value) :
    (assignUser user name value).LooksFirst := by
  refine .of_changeAttributes (fun _ => rfl) fun t _ _ => ?_
  exact .bind (leads_definition name .subject) fun _ => .bind (.spelled value) fun text =>
    .bind (.notNull _ _) fun user => leads_give .subject user text

theorem assignRole_looksFirst (role name : Option String) (value : Value) :
    (assignRole role name value).LooksFirst := by
  refine .of_changeAttributes (fun _ => rfl) fun t _ _ => ?_
  exact .bind (leads_definition name .subject) fun _ => .bind (.spelled value) fun text =>
    .bind (.notNull _ _) fun role => leads_give .role role text

theorem assignResource_looksFirst (resource name : Option String) (value : Value) :
    (assignResource resource name value).LooksFirst := by
  refine .of_changeAttributes (fun _ => rfl) fun t _ _ => ?_
  refine .bind .tables fun t => ?_
  cases resource.bind t.resource? with
  | none =>
      have hhead : "Unknown resource: ".toList.head? = some 'U' := by decide
      exact .throw (Abort.isOther_fault (Text.head?_append hhead _) (by decide))
  | some row =>
      exact .bind (leads_definition name .resource) fun _ => .bind (.spelled value) fun text =>
        leads_give .resource row.id text

theorem assignAction_looksFirst (action name : Option String) (value : Value) :
    (assignAction action name value).LooksFirst := by
  refine .of_changeAttributes (fun _ => rfl) fun t _ _ => ?_
  refine .bind .tables fun t => ?_
  cases action.bind t.action? with
  | some row =>
      exact .bind (.pure fun _ hs => hs) fun id => .bind (leads_definition name .action) fun _ =>
        .bind (.spelled value) fun text => leads_give .action id text
  | none =>
      exact .bind (leads_insertAction action none) fun id =>
        .bind (leads_definition name .action) fun _ => .bind (.spelled value) fun text =>
          leads_give .action id text

theorem assignEnvironment_looksFirst (name : Option String) (value : Value)
    (first last : Option Time.Moment) : (assignEnvironment name value first last).LooksFirst := by
  refine .of_changeAttributes (fun _ => rfl) fun t _ _ => ?_
  exact .bind (leads_definition name .environment) fun _ => .bind (.spelled value) fun _ =>
    .bind (.optionMapM .universal first) fun _ => .bind (.optionMapM .universal last) fun _ =>
    .change fun _ hs => ⟨hs.1.learns.keep hs.2, hs.1.rules, hs.1.targets⟩

/-- Every call looks first, but for those that define an attribute outright or store a policy. -/
theorem looksFirst_cases (a : Administration) :
    a.LooksFirst ∨
      (∃ name category type description validValues,
        a = createAttribute name category type description validValues) ∨
      ∃ draft, a = createPolicy draft := by
  cases a with
  | createAttribute name category type description validValues =>
      exact .inr (.inl ⟨name, category, type, description, validValues, rfl⟩)
  | createPolicy draft => exact .inr (.inr ⟨draft, rfl⟩)
  | createRole name description => exact .inl (createRole_looksFirst name description)
  | createUser name role email id => exact .inl (createUser_looksFirst name role email id)
  | createResource resource name type owner =>
      exact .inl (createResource_looksFirst resource name type owner)
  | createAction name description => exact .inl (createAction_looksFirst name description)
  | assignUser user name value => exact .inl (assignUser_looksFirst user name value)
  | assignRole role name value => exact .inl (assignRole_looksFirst role name value)
  | assignResource resource name value => exact .inl (assignResource_looksFirst resource name value)
  | assignAction action name value => exact .inl (assignAction_looksFirst action name value)
  | assignEnvironment name value first last =>
      exact .inl (assignEnvironment_looksFirst name value first last)
  | createPolicySet name description priority =>
      exact .inl (createPolicySet_looksFirst name description priority)
  | setPolicyActive policy isActive => exact .inl (setPolicyActive_looksFirst policy isActive)

/-! ### What calls leave -/

variable {a : Administration} {db : Database} {t : Tables} {answer : Option String}

/-- A call that looks first leaves rules and targets alone. -/
theorem LooksFirst.learns (h : a.LooksFirst) (ht : db.tables? = some t)
    (hok : (a.perform db).1 = .ok answer) :
    ∃ t', (a.perform db).2.2.tables? = some t' ∧ t.Learns a.needs t' ∧
      t'.rules = t.rules ∧ t'.targets = t.targets := by
  obtain ⟨α, script, ⟨frame, missing, f, hperform, -, -⟩, hleads⟩ := h
  rw [hperform] at hok ⊢
  obtain ⟨b, hb⟩ := exists_ok_of_answering hok
  obtain ⟨s, hexecute, htables, -⟩ := exists_execute_of_transact ht hb
  have hend := leads_committed (hleads t _ _) _ (.begin t db.drawn)
  rw [hexecute] at hend
  obtain ⟨hs, hrules, htargets⟩ := hend.of_ok
  exact ⟨s.tables, htables, hs.learns, hs.unchanged hrules htargets⟩

/-- So does a call that defines an attribute. -/
theorem createAttribute_learns {name : Option String} {category type : String}
    {description validValues : Option String} (ht : db.tables? = some t)
    (hok : ((createAttribute name category type description validValues).perform db).1 =
      .ok answer) :
    ∃ t', ((createAttribute name category type description validValues).perform db).2.2.tables? =
        some t' ∧
      t.Learns (createAttribute name category type description validValues).needs t' ∧
      t'.rules = t.rules ∧ t'.targets = t.targets := by
  simp only [perform, Database.createAttribute, Category.ofName, needs] at hok ⊢
  cases hcategory : Category.ofName? category with
  | none =>
      simp only [hcategory] at hok
      cases hok
  | some category =>
      simp only [hcategory] at hok ⊢
      obtain ⟨b, hb⟩ := exists_ok_of_answering hok
      obtain ⟨s, hexecute, htables, -⟩ := exists_execute_of_transact ht hb
      obtain ⟨id, s₁, hdefine, hrest⟩ := execute_bind_eq_ok.mp hexecute
      obtain ⟨⟨⟩, s₂, hflush, hpure⟩ := execute_bind_eq_ok.mp hrest
      cases hpure
      have hend := leads_flush s₁ (follows_of_define (.begin t db.drawn) hdefine)
      rw [hflush] at hend
      obtain ⟨hs, hrules, htargets⟩ := hend.of_ok
      exact ⟨s.tables, htables, hs.learns, hs.unchanged hrules htargets⟩

/-! ### Policies -/

theorem leads_storePolicy (draft : PolicyDraft) (effect : Effect) :
    Leads (fun s => t.Learns [] s.tables) (storePolicy draft effect) fun _ s =>
      t.Learns (createPolicy draft).needs s.tables := by
  refine .bind (Q := fun _ s => t.Learns [] s.tables) (fun _ hs => .ok hs) fun id =>
    .bind (.fitting _) fun _ => .bind (.notNull _ _) fun _ => .bind (.change fun s hs => ?_) fun _ =>
    .bind (leads_eachFrom (fun _ => leads_addRule id) [] 0 draft.rules) fun _ =>
    .bind (leads_eachFrom (fun _ => leads_addTarget id) _ 0 draft.targets) fun _ =>
    .pure fun _ hs => hs
  exact hs.of_eq rfl (fun k => by cases k <;> rfl) rfl

/-- What is committed has been learned. -/
theorem leads_committedPolicy (draft : PolicyDraft) (effect : Effect) :
    Leads (fun s => t.Learns [] s.tables) (do let a ← storePolicy draft effect; flush; return a)
      fun _ s => t.Learns (createPolicy draft).needs s.tables :=
  .bind (leads_storePolicy draft effect) fun _ => .bind (.flush fun _ rules targets hs _ _ =>
    hs.written rules targets) fun _ => .pure fun _ hs => hs

/-- A policy that was stored has the next identifier, and a row for each of its conditions behind the
rows that were there. -/
theorem createPolicy_learns {draft : PolicyDraft} (ht : db.tables? = some t)
    (hok : ((createPolicy draft).perform db).1 = .ok answer) :
    ∃ (s : Session) (rules : List RuleRow) (targets : List TargetRow),
      ((createPolicy draft).perform db).2.2.tables? = some s.tables ∧
      t.Learns (createPolicy draft).needs s.tables ∧
      s.tables.rules = t.rules ++ rules ∧ s.tables.targets = t.targets ++ targets ∧
      List.Forall₂ (fun r row => s.TellsRule (Drawn.identifier db.drawn) r.2 r.1 (some row))
        draft.rules.zipIdx rules ∧
      List.Forall₂ (fun t row => s.TellsTarget (Drawn.identifier db.drawn) t.2 t.1 (some row))
        draft.targets.zipIdx targets := by
  obtain ⟨id, hid⟩ := exists_ok_of_answering hok
  obtain ⟨t', effect, s, ht', -, hexecute, htables⟩ := exists_execute_of_createPolicy hid
  obtain rfl : t = t' := Option.some.inj (ht.symm.trans ht')
  obtain ⟨rfl, rules, targets, hrules, htargets, htellRules, htellTargets⟩ :=
    rows_of_storePolicy hexecute
  have hend := leads_committedPolicy draft effect { tables := t, drawn := db.drawn } (.refl t)
  rw [hexecute] at hend
  exact ⟨s, rules, targets, htables, hend.of_ok, hrules, htargets, htellRules, htellTargets⟩

/-- A call can succeed only where there are tables. -/
theorem exists_tables_of_perform (hok : (a.perform db).1 = .ok answer) :
    ∃ t, db.tables? = some t := by
  cases ht : db.tables? with
  | some t => exact ⟨t, rfl⟩
  | none =>
      exfalso
      rcases a.perform_cases with ⟨fault, hrefused⟩ | ⟨α, script, hscript⟩
      · rw [hrefused] at hok
        cases hok
      · obtain ⟨operation, frame, missing, f, hperform⟩ := hscript.perform_eq
        rw [hperform] at hok
        obtain ⟨b, hb⟩ := exists_ok_of_answering hok
        obtain ⟨⟨fault, hfault⟩, -⟩ := transact_of_tables?_eq_none ht operation frame missing script
        rw [hfault] at hb
        cases hb

/-- Whatever a call does, the tables learn what it needs. -/
theorem perform_learns (hok : (a.perform db).1 = .ok answer) :
    ∃ t t', db.tables? = some t ∧ (a.perform db).2.2.tables? = some t' ∧ t.Learns a.needs t' := by
  obtain ⟨t, ht⟩ := exists_tables_of_perform hok
  rcases a.looksFirst_cases with hfirst | ⟨name, category, type, description, validValues, rfl⟩ |
    ⟨draft, rfl⟩
  · obtain ⟨t', htables, hlearns, -⟩ := hfirst.learns ht hok
    exact ⟨t, t', ht, htables, hlearns⟩
  · obtain ⟨t', htables, hlearns, -⟩ := createAttribute_learns ht hok
    exact ⟨t, t', ht, htables, hlearns⟩
  · obtain ⟨s, -, -, htables, hlearns, -⟩ := createPolicy_learns ht hok
    exact ⟨t, s.tables, ht, htables, hlearns⟩

/-! ### How calls fail -/

/-- A draft of no effect is refused in other words. -/
theorem effect?_message_ne {draft : PolicyDraft} {fault : Fault}
    (h : PolicyDraft.effect? draft = .error fault) (operation : String) :
    fault.message ≠ duplicateReport operation := by
  have hfault : (∃ v, fault = notOneOf "PolicyEffect" v) ∨ Value.IsObstacle fault := by
    simp only [PolicyDraft.effect?, Effect.parse, Effect.ofName] at h
    split at h
    case h_1 word _ =>
      split at h
      case h_1 => cases h
      case h_2 => exact .inl ⟨_, (Except.error.inj h).symm⟩
    case h_2 v _ =>
      cases hwritten : draft.effect.literalFault? Value.room with
      | none =>
          rw [hwritten] at h
          exact .inl ⟨_, (Except.error.inj h).symm⟩
      | some obstacle =>
          rw [hwritten] at h
          obtain rfl := Except.error.inj h
          exact .inr (Value.isObstacle_of_literalFault? hwritten)
  rcases hfault with ⟨v, rfl⟩ | hobstacle
  · intro heq
    have hlast : "PolicyEffect".toList.getLast? = some 't' := by decide
    have hlasts := congrArg (·.toList.getLast?) heq
    rw [getLast?_duplicateReport] at hlasts
    cases (Text.getLast?_append hlast _).symm.trans hlasts
  · intro heq
    have hhead := head?_duplicateReport operation
    rw [← heq] at hhead
    rcases hobstacle with rfl | rfl | rfl <;> revert hhead <;> decide +kernel

theorem LooksFirst.message_ne (h : a.LooksFirst) {fault : Fault}
    (herror : (a.perform db).1 = .error fault) : fault.message ≠ duplicateReport a.operation := by
  obtain ⟨α, script, ⟨frame, missing, f, hperform, hframe, hmissing⟩, hleads⟩ := h
  rw [hperform] at herror
  exact message_ne_duplicateReport hframe hmissing
    (fun t => leads_committed (hleads t _ _) _ (.begin t db.drawn)) (eq_error_of_answering herror)

theorem createPolicy_message_ne {draft : PolicyDraft} {fault : Fault}
    (herror : ((createPolicy draft).perform db).1 = .error fault) :
    fault.message ≠ duplicateReport "create_policy" := by
  simp only [perform, Database.createPolicy] at herror
  cases heffect : PolicyDraft.effect? draft with
  | error refused =>
      simp only [heffect] at herror
      cases herror
      exact effect?_message_ne heffect "create_policy"
  | ok effect =>
      simp only [heffect] at herror
      exact message_ne_duplicateReport (fun _ => rfl) (noSuchTable_ne_duplicate _)
        (fun t => leads_committedPolicy draft effect { tables := t, drawn := db.drawn } (.refl t))
        (eq_error_of_answering herror)

/-- Only a call that defines an attribute outright can find its definition there. -/
theorem perform_message_ne (ha : a.isDefinition = false) {fault : Fault}
    (h : (a.perform db).1 = .error fault) : fault.message ≠ duplicateReport a.operation := by
  rcases a.looksFirst_cases with hfirst | ⟨name, category, type, description, validValues, rfl⟩ |
    ⟨draft, rfl⟩
  · exact hfirst.message_ne h
  · cases ha
  · exact createPolicy_message_ne h

end Administration

end Clearance
