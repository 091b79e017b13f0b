/-
# Directories

A directory holds attributes and policies in memory. What is assigned to an unknown subject, role,
resource or action makes it known, and an attribute is defined when it is first assigned. Assigning an
attribute again replaces its value and moves it to the end; assignments to the environment are all
kept, each with the window of time in which it is valid. A value that has no string form is not
assigned, but by then its holder is known and its attribute is defined.
-/

import Clearance.Attribute.Definition
import Clearance.Store.Call
import Clearance.Value.Spelling

namespace Clearance

/-- A resource of a directory. -/
structure DirectoryResource where
  type : Option String := none
  owner : Option String := none
deriving DecidableEq

/-- The values that are assigned to one holder. -/
abbrev Assignments := List (AttributeDefinition × String)

/-- A window of time; a bound that is missing does not limit it, and both bounds belong to it. -/
structure Window where
  first : Option Time.Moment := none
  last : Option Time.Moment := none
deriving DecidableEq

/-- Whether a moment lies in a window. -/
def Window.contains (w : Window) (now : Time.Moment) : Bool :=
  w.first.all (fun m => m.instant ≤ now.instant) && w.last.all fun m => now.instant ≤ m.instant

/-- A value of the environment. -/
structure EnvironmentValue where
  definition : AttributeDefinition
  value : String
  window : Window := {}
deriving DecidableEq

/-- Attributes and policies in memory. Its calls are recorded, and some can be made to fail. -/
structure Directory where
  definitions : List ((Category × String) × AttributeDefinition) := []
  roles : List (String × String) := []
  subjectRoles : List (String × Option String) := []
  resources : List (String × DirectoryResource) := []
  actions : List String := []
  subjectValues : List (String × Assignments) := []
  roleValues : List (String × Assignments) := []
  resourceValues : List (String × Assignments) := []
  actionValues : List (String × Assignments) := []
  environment : List EnvironmentValue := []
  policies : List (String × Policy) := []
  records : List Record := []
  failing : List String := []
  calls : List String := []
  /-- The number of identifiers that were drawn. -/
  drawn : Nat := 0

namespace Directory

/-- An identifier that was given, or else one that is drawn. -/
def identifier (d : Directory) (given : Option String) : String × Directory :=
  match given.filter fun s => !s.isEmpty with
  | some id => (id, d)
  | none => (Drawn.identifier d.drawn, { d with drawn := d.drawn + 1 })

/-- Define an attribute; the identifier of the definition is drawn if it is not given. -/
def addAttribute (d : Directory) (name : String) (category : Category) (type : String)
    (id description validValues : Option String) : AttributeDefinition × Directory :=
  let (id, d) := d.identifier id
  let definition : AttributeDefinition := ⟨id, name, type, category, description, validValues⟩
  (definition, { d with definitions := Ordered.set (category, name) definition d.definitions })

/-- The definition of an attribute, which is made if there is none. -/
def definitionOf (d : Directory) (name : String) (category : Category) (type : String) :
    AttributeDefinition × Directory :=
  match Ordered.get? (category, name) d.definitions with
  | some definition => (definition, d)
  | none => d.addAttribute name category type none none none

/-- The holder in a table of assignments. -/
def hold (holder : String) (table : List (String × Assignments)) : List (String × Assignments) :=
  if Ordered.has holder table then table else Ordered.set holder [] table

/-- A role with a name that it is known by. -/
def addRole (d : Directory) (role : String) (name : Option String) : Directory :=
  { d with
    roles := Ordered.set role ((name.filter fun s => !s.isEmpty).getD role) d.roles
    roleValues := hold role d.roleValues }

/-- A subject with the role that it has, if it has one. -/
def addSubject (d : Directory) (subject : String) (role : Option String) : Directory :=
  let d := match role with
    | some r => if Ordered.has r d.roles then d else d.addRole r none
    | none => d
  { d with
    subjectRoles := Ordered.set subject role d.subjectRoles
    subjectValues := hold subject d.subjectValues }

/-- A resource. -/
def addResource (d : Directory) (resource : String) (type owner : Option String) : Directory :=
  { d with
    resources := Ordered.set resource ⟨type, owner⟩ d.resources
    resourceValues := hold resource d.resourceValues }

/-- An action. -/
def addAction (d : Directory) (action : String) : Directory :=
  { d with
    actions := if d.actions.contains action then d.actions else d.actions ++ [action]
    actionValues := hold action d.actionValues }

/-- Assign a value: an earlier one of the same definition goes, and the new one comes last. -/
def assign (definition : AttributeDefinition) (value : String) (held : Assignments) : Assignments :=
  held.filter (fun entry => entry.1.id ≠ definition.id) ++ [(definition, value)]

/-- Assign a value to a holder in a table. -/
def assignTo (holder : String) (definition : AttributeDefinition) (value : String)
    (table : List (String × Assignments)) : List (String × Assignments) :=
  Ordered.set holder (assign definition value ((Ordered.get? holder table).getD [])) table

/-- Change a directory by the string form of a value. Without one the directory stays as it is. -/
def writing (d : Directory) (value : Value) (write : String → Directory) :
    Except Fault Unit × Directory :=
  match value.spelled with
  | .ok text => (.ok (), write text)
  | .error fault => (.error fault, d)

/-- Assign an attribute to a subject. -/
def assignSubject (d : Directory) (subject name type : String) (value : Value) :
    Except Fault Unit × Directory :=
  let d := if Ordered.has subject d.subjectRoles then d else d.addSubject subject none
  let (definition, d) := d.definitionOf name .subject type
  d.writing value fun text =>
    { d with subjectValues := assignTo subject definition text d.subjectValues }

/-- Assign an attribute to a role. -/
def assignRole (d : Directory) (role name type : String) (value : Value) :
    Except Fault Unit × Directory :=
  let d := if Ordered.has role d.roles then d else d.addRole role none
  let (definition, d) := d.definitionOf name .subject type
  d.writing value fun text =>
    { d with roleValues := assignTo role definition text d.roleValues }

/-- Assign an attribute to a resource. -/
def assignResource (d : Directory) (resource name type : String) (value : Value) :
    Except Fault Unit × Directory :=
  let d := if Ordered.has resource d.resources then d else d.addResource resource none none
  let (definition, d) := d.definitionOf name .resource type
  d.writing value fun text =>
    { d with resourceValues := assignTo resource definition text d.resourceValues }

/-- Assign an attribute to an action. -/
def assignAction (d : Directory) (action name type : String) (value : Value) :
    Except Fault Unit × Directory :=
  let d := if d.actions.contains action then d else d.addAction action
  let (definition, d) := d.definitionOf name .action type
  d.writing value fun text =>
    { d with actionValues := assignTo action definition text d.actionValues }

/-- Assign an attribute to the environment for a window of time. -/
def assignEnvironment (d : Directory) (name type : String) (value : Value) (window : Window) :
    Except Fault Unit × Directory :=
  let (definition, d) := d.definitionOf name .environment type
  d.writing value fun text =>
    { d with environment := d.environment ++ [⟨definition, text, window⟩] }

/-- Keep a policy; one of the same identifier makes way. -/
def putPolicy (d : Directory) (p : Policy) : Directory :=
  { d with policies := Ordered.set p.id p d.policies }

/-- Keep a new policy, whose identifier is drawn if it is empty. A policy must have a name. -/
def addPolicy (d : Directory) (p : Policy) : Except Fault (Policy × Directory) :=
  if p.name.isEmpty then .error (.badValue "policy name is required")
  else
    let (id, d) := d.identifier (some p.id)
    let p := { p with id := id }
    .ok (p, d.putPolicy p)

/-- Forget a policy. -/
def removePolicy (d : Directory) (id : String) : Directory :=
  { d with policies := Ordered.erase id d.policies }

/-! ## As a store -/

/-- The attributes of a holder. -/
def valuesOf (holder : String) (table : List (String × Assignments)) : List Attribute :=
  ((Ordered.get? holder table).getD []).map fun (definition, value) => definition.withValue value

/-- The role of a subject. -/
def roleOf (d : Directory) (subject : String) : Option String :=
  (Ordered.get? subject d.subjectRoles).join

/-- The active policies without their conditions, the highest priority first. -/
def activePolicies (d : Directory) : List Policy :=
  (((Ordered.values d.policies).filter Policy.isActive).mergeSort
    fun p q => q.priority ≤ p.priority).map fun p => { p with rules := [], targets := [] }

/-- The answer to a call. -/
def answer (d : Directory) : (call : StoreCall) → call.Answer
  | .subjectAttributes subject => valuesOf subject d.subjectValues
  | .roleAttributes subject =>
    match d.roleOf subject with
    | some role => valuesOf role d.roleValues
    | none => []
  | .resourceAttributes resource => valuesOf resource d.resourceValues
  | .resourceOwner resource => (Ordered.get? resource d.resources).bind (·.owner)
  | .actionAttributes action => valuesOf action d.actionValues
  | .environmentAttributes now =>
    (d.environment.filter fun e => e.window.contains now).map fun e => e.definition.withValue e.value
  | .activePolicies => d.activePolicies
  | .rules policy => ((Ordered.get? policy d.policies).map Policy.rules).getD []
  | .targets policy => ((Ordered.get? policy d.policies).map Policy.targets).getD []

/-- The failure of a call that is made to fail. -/
def refusal (call : StoreCall) : Failure :=
  let message := call.name ++ " failed"
  if call.isForPolicies then .policyStore message none
  else .attributeStore message call.name none none

/-- Record a call. -/
def enter (d : Directory) (call : String) : Directory := { d with calls := d.calls ++ [call] }

/-- Answer a call, unless it is made to fail. -/
def ask (call : StoreCall) (d : Directory) : Reply call.Answer × List TraceEntry × Directory :=
  let reply : Reply call.Answer :=
    if d.failing.contains call.name then .failed (.failure (refusal call))
    else .answered (d.answer call)
  (reply, [], d.enter call.name)

/-- Write a record, unless that is made to fail. -/
def write : Sink Record Directory := fun record d =>
  let d := d.enter recordCallName
  if d.failing.contains recordCallName then (.failed (recordCallName ++ " failed"), [], d)
  else (.written, [], { d with records := d.records ++ [record] })

/-- A directory as a store. -/
def store : Store Directory where
  ask := ask
  write := write

end Directory

end Clearance
