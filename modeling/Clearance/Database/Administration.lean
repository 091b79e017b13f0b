/-
# Administration

The changes of a database. Each is one transaction: it succeeds as a whole or leaves the tables as
they were. An attribute that is assigned or that a condition names is defined if it is not yet.
-/

import Clearance.Attribute.Reference
import Clearance.Database.Basic
import Clearance.Database.Statement

namespace Clearance

namespace Script

/-- The definition that the reference of a rule stands for. A qualified reference stands for one of its
category; a bare one for the first definition of the name, or else for a new one of a subject. -/
def ruleDefinition (reference : Option String) : Script String := do
  let some reference := reference
    | throw (.fault (.badKind "argument of type 'NoneType' is not iterable"))
  match Reference.ofString reference with
  | .qualified category name => definition (some name) ((Category.ofName? category).getD .subject)
  | .bare name =>
    let t ← tables
    match t.definitionNamed? name with
    | some d => return d.id
    | none => definition (some name) .subject

/-- The category of a target's type: in any case, and a user or a role counts as a subject. -/
def targetCategory? (type : String) : Option Category :=
  let word := Text.lower type
  if word == "user" || word == "role" then some .subject else Category.ofName? word

/-- The category of a target. -/
def targetCategory (type : Option String) : Script (String × Category) := do
  let some type := type
    | throw (.fault (.absent "'NoneType' object has no attribute 'lower'"))
  match targetCategory? type with
  | some category => return (type, category)
  | none => throw (.fault (.failure (.policyStore ("Unknown target type: " ++ type) none)))

/-- Let the row of a rule wait. -/
def addRule (policy : String) (position : Nat) (r : Rule) : Script Unit := do
  let definition ← ruleDefinition r.reference
  let value ← spelled r.value
  let row := r.operator.map fun operator =>
    RuleRow.mk policy definition operator value r.connective r.group position
  modify fun s => { s with rules := s.rules ++ [row] }

/-- Let the row of a target wait. -/
def addTarget (policy : String) (position : Nat) (t : Target) : Script Unit := do
  let (type, category) ← targetCategory t.type
  let definition ← definition t.name category
  let value ← spelled t.value
  let row := t.operator.map fun operator =>
    TargetRow.mk policy type definition operator value position
  modify fun s => { s with targets := s.targets ++ [row] }

/-- Members of a list with their places, counted from a number. -/
def eachFrom {α : Type} (act : Nat → α → Script Unit) : Nat → List α → Script Unit
  | _, [] => return
  | n, a :: rest => do
    act n a
    eachFrom act (n + 1) rest

end Script

/-- A policy that is to be stored. -/
structure PolicyDraft where
  name : Option String
  effect : Value
  priority : Int := 0
  rules : List Rule := []
  targets : List Target := []
  isActive : Bool := true
  setId : Option String := none
  description : Option String := none

namespace Database

/-- What comes of a change: its outcome, what is said about it, and the database after it. -/
abbrev Change (α : Type) := Except Fault α × List TraceEntry × Database

variable {α : Type}

/-- A change of attributes. -/
def changeAttributes (db : Database) (operation : String) (subject resource : Option String)
    (table : String) (script : Script α) : Change α :=
  db.transact operation (fun message => .attributeStore message operation subject resource)
    (Statement.noSuchTable table) script

/-- A change of policies. -/
def changePolicies (db : Database) (operation : String) (policy : Option String) (table : String)
    (script : Script α) : Change α :=
  db.transact operation (fun message => .policyStore message policy) (Statement.noSuchTable table)
    script

/-- Refuse a change before it begins. -/
def refuse (db : Database) (fault : Fault) : Change α := (.error fault, [], db)

open Script

/-- Define an attribute. -/
def createAttribute (db : Database) (name : Option String) (category type : String)
    (description validValues : Option String) : Change String :=
  match Category.ofName category with
  | .error fault => db.refuse fault
  | .ok category =>
    db.changeAttributes "create_attribute" none none "attributes"
      (define name category type description validValues)

/-- Make a role. -/
def createRole (db : Database) (name description : Option String) : Change String :=
  db.changeAttributes "create_role" none none "roles" do
    let id ← draw
    let name ← notNull "roles.name" name
    unique "roles.name" ((← tables).roles.any (·.name == name))
    change fun t => { t with roles := t.roles ++ [⟨id, name, description⟩] }
    return id

/-- Make a subject, with an identifier that is given or drawn. -/
def createUser (db : Database) (name role email id : Option String) : Change String :=
  db.changeAttributes "create_user" none none "users" do
    let id ← match id with
      | some id => pure id
      | none => draw
    let name ← notNull "users.name" name
    unique "users.id" ((← tables).users.any (·.id == id))
    change fun t => { t with users := t.users ++ [⟨id, name, email, role⟩] }
    return id

/-- The type of a resource, which is made if it is not there. -/
def resourceType (name : String) : Script String := do
  let t ← tables
  match t.resourceTypes.find? fun row => row.name == name with
  | some row => return row.id
  | none =>
    let id ← draw
    change fun t => { t with resourceTypes := t.resourceTypes ++ [⟨id, name⟩] }
    return id

/-- A text with something in it. -/
def given? (s : Option String) : Option String := s.filter fun s => !s.isEmpty

/-- Make a resource. Without a name it is called by its identifier. -/
def createResource (db : Database) (resource name type owner : Option String) : Change String :=
  let type := given? type
  let table := if type.isSome then "resource_types" else "resources"
  db.changeAttributes "create_resource" none resource table do
    let typeId ← type.mapM resourceType
    let id ← draw
    let name := given? name <|> resource
    let resource ← notNull "resources.resource_id" resource
    let name ← notNull "resources.name" name
    unique "resources.resource_id" ((← tables).resource? resource).isSome
    change fun t => { t with resources := t.resources ++ [⟨id, resource, name, typeId, owner⟩] }
    return id

/-- Insert an action. -/
def insertAction (name description : Option String) : Script String := do
  let id ← draw
  let name ← notNull "actions.name" name
  unique "actions.name" ((← tables).action? name).isSome
  change fun t => { t with actions := t.actions ++ [⟨id, name, description⟩] }
  return id

/-- Make an action. -/
def createAction (db : Database) (name description : Option String) : Change String :=
  db.changeAttributes "create_action" none none "actions" (insertAction name description)

/-- Assign an attribute to a subject, known or not. -/
def assignUser (db : Database) (user name : Option String) (value : Value) : Change Unit :=
  db.changeAttributes "assign_user_attribute" user none "attributes" do
    let definition ← definition name .subject
    let value ← spelled value
    let user ← notNull "user_attributes.user_id" user
    change fun t => { t with userValues := t.userValues ++ [⟨user, definition, value⟩] }

/-- Assign an attribute to a role, known or not. -/
def assignRole (db : Database) (role name : Option String) (value : Value) : Change Unit :=
  db.changeAttributes "assign_role_attribute" none none "attributes" do
    let definition ← definition name .subject
    let value ← spelled value
    let role ← notNull "role_attributes.role_id" role
    change fun t => { t with roleValues := t.roleValues ++ [⟨role, definition, value⟩] }

/-- The failure of a change to a resource that is not known. -/
def unknownResource (resource : Option String) : Fault :=
  .failure (.of .attributeStore ("Unknown resource: " ++ orNone resource)
    [("resource_id", .ofOption resource)])

/-- Assign an attribute to a resource, which must be known. -/
def assignResource (db : Database) (resource name : Option String) (value : Value) : Change Unit :=
  db.changeAttributes "assign_resource_attribute" none resource "resources" do
    let t ← tables
    let some row := resource.bind t.resource?
      | throw (.fault (unknownResource resource))
    let definition ← definition name .resource
    let value ← spelled value
    change fun t => { t with resourceValues := t.resourceValues ++ [⟨row.id, definition, value⟩] }

/-- Assign an attribute to an action, which is made if it is not known. -/
def assignAction (db : Database) (action name : Option String) (value : Value) : Change Unit :=
  db.changeAttributes "assign_action_attribute" none none "actions" do
    let t ← tables
    let id ← match action.bind t.action? with
      | some row => pure row.id
      | none => insertAction action none
    let definition ← definition name .action
    let value ← spelled value
    change fun t => { t with actionValues := t.actionValues ++ [⟨id, definition, value⟩] }

/-- Assign an attribute to the environment, between two moments if they are given. -/
def assignEnvironment (db : Database) (name : Option String) (value : Value)
    (first last : Option Time.Moment) : Change Unit :=
  db.changeAttributes "assign_environment_attribute" none none "attributes" do
    let definition ← definition name .environment
    let value ← spelled value
    let first ← first.mapM universal
    let last ← last.mapM universal
    change fun t => { t with environment := t.environment ++ [⟨definition, value, first, last⟩] }

/-- Make a set of policies. -/
def createPolicySet (db : Database) (name description : Option String) (priority : Int) :
    Change String :=
  db.changePolicies "create_policy_set" none "policy_sets" do
    let id ← draw
    let priority ← fitting priority
    let name ← notNull "policy_sets.name" name
    change fun t => { t with policySets := t.policySets ++ [⟨id, name, description, priority⟩] }
    return id

/-- The effect of a draft, which may be written in any case. What is no effect is named, if it can be
written. -/
def PolicyDraft.effect? (draft : PolicyDraft) : Except Fault Effect :=
  match draft.effect with
  | .text word => Effect.parse word
  | v => .error ((v.literalFault? Value.room).getD (notOneOf "PolicyEffect" v))

/-- Store a policy with its rules and targets. -/
def storePolicy (draft : PolicyDraft) (effect : Effect) : Script String := do
  let id ← draw
  let priority ← fitting draft.priority
  let name ← notNull "policies.name" draft.name
  change fun t => { t with policies := t.policies ++
    [⟨id, name, effect, priority, draft.isActive, draft.setId, draft.description⟩] }
  eachFrom (addRule id) 0 draft.rules
  eachFrom (addTarget id) 0 draft.targets
  return id

/-- Make a policy. -/
def createPolicy (db : Database) (draft : PolicyDraft) : Change String :=
  match PolicyDraft.effect? draft with
  | .error fault => db.refuse fault
  | .ok effect => db.changePolicies "create_policy" none "policies" (storePolicy draft effect)

/-- The failure of a change to a policy that is not known. -/
def unknownPolicy (policy : Option String) : Fault :=
  .failure (.policyStore ("Unknown policy: " ++ orNone policy) policy)

/-- A policy, switched on or off if it is the one of an identifier. -/
def switch (id : String) (isActive : Bool) (p : PolicyRow) : PolicyRow :=
  if p.id == id then { p with isActive := isActive } else p

/-- Switch a policy on or off. -/
def setPolicyActive (db : Database) (policy : Option String) (isActive : Bool) : Change Unit :=
  db.changePolicies "set_policy_active" policy "policies" do
    let t ← tables
    let some id := policy.filter fun id => t.policies.any (·.id == id)
      | throw (.fault (unknownPolicy policy))
    change fun t => { t with policies := t.policies.map (switch id isActive) }

end Database

/-- A call that changes a database. -/
inductive Administration where
  | createAttribute (name : Option String) (category type : String)
      (description validValues : Option String)
  | createRole (name description : Option String)
  | createUser (name role email id : Option String)
  | createResource (resource name type owner : Option String)
  | createAction (name description : Option String)
  | assignUser (user name : Option String) (value : Value)
  | assignRole (role name : Option String) (value : Value)
  | assignResource (resource name : Option String) (value : Value)
  | assignAction (action name : Option String) (value : Value)
  | assignEnvironment (name : Option String) (value : Value) (first last : Option Time.Moment)
  | createPolicySet (name description : Option String) (priority : Int)
  | createPolicy (draft : PolicyDraft)
  | setPolicyActive (policy : Option String) (isActive : Bool)

/-- The identifier that a call answers, if it answers one. -/
def Database.Change.answering {α : Type} (answer : α → Option String) (c : Change α) :
    Change (Option String) :=
  (c.1.map answer, c.2)

/-- Make a change. -/
def Administration.perform (db : Database) : Administration → Database.Change (Option String)
  | createAttribute name category type description validValues =>
    (db.createAttribute name category type description validValues).answering some
  | createRole name description => (db.createRole name description).answering some
  | createUser name role email id => (db.createUser name role email id).answering some
  | createResource resource name type owner =>
    (db.createResource resource name type owner).answering some
  | createAction name description => (db.createAction name description).answering some
  | assignUser user name value => (db.assignUser user name value).answering fun _ => none
  | assignRole role name value => (db.assignRole role name value).answering fun _ => none
  | assignResource resource name value =>
    (db.assignResource resource name value).answering fun _ => none
  | assignAction action name value => (db.assignAction action name value).answering fun _ => none
  | assignEnvironment name value first last =>
    (db.assignEnvironment name value first last).answering fun _ => none
  | createPolicySet name description priority =>
    (db.createPolicySet name description priority).answering some
  | createPolicy draft => (db.createPolicy draft).answering some
  | setPolicyActive policy isActive => (db.setPolicyActive policy isActive).answering fun _ => none

end Clearance
