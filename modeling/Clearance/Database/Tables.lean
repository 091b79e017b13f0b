/-
# Tables

The relational form of attributes and policies: rows in the order in which they were inserted. Rows
that belong together name each other by identifiers that were drawn; a resource has one of its own
beside the one that callers use.
-/

import Clearance.Attribute.Definition
import Clearance.Policy.Basic

namespace Clearance

/-- A role. -/
structure RoleRow where
  id : String
  name : String
  description : Option String := none
deriving DecidableEq

/-- A subject, with the role that it has. -/
structure UserRow where
  id : String
  name : String
  email : Option String := none
  role : Option String := none
deriving DecidableEq

/-- A type of resources. -/
structure ResourceTypeRow where
  id : String
  name : String
deriving DecidableEq

/-- A resource under the identifier that callers use. -/
structure ResourceRow where
  id : String
  resource : String
  name : String
  type : Option String := none
  owner : Option String := none
deriving DecidableEq

/-- An action. -/
structure ActionRow where
  id : String
  name : String
  description : Option String := none
deriving DecidableEq

/-- A value that a holder has of a defined attribute. -/
structure ValueRow where
  holder : String
  definition : String
  value : String
deriving DecidableEq

/-- A value of the environment. The bounds of its validity are moments of universal time. -/
structure EnvironmentRow where
  definition : String
  value : String
  first : Option Time.Moment := none
  last : Option Time.Moment := none
deriving DecidableEq

/-- A set of policies. -/
structure PolicySetRow where
  id : String
  name : String
  description : Option String := none
  priority : Int := 0
deriving DecidableEq

/-- A policy without its conditions. -/
structure PolicyRow where
  id : String
  name : String
  effect : Effect
  priority : Int := 0
  isActive : Bool := true
  setId : Option String := none
  description : Option String := none
deriving DecidableEq

/-- A rule: the definition of its attribute, and its place among the rules of its policy. -/
structure RuleRow where
  policy : String
  definition : String
  operator : String
  value : String
  connective : Option String := none
  group : Option String := none
  position : Nat
deriving DecidableEq

/-- A target, with its type as it was written. -/
structure TargetRow where
  policy : String
  type : String
  definition : String
  operator : String
  value : String
  position : Nat
deriving DecidableEq

/-- A record of a decision. The resource and the action are named by the identifiers of their rows, if
there are any. The last two columns hold documents. -/
structure AccessRow where
  user : String
  resource : String
  action : String
  decision : String
  applied : String
  context : String
deriving DecidableEq

/-- All tables. -/
structure Tables where
  roles : List RoleRow := []
  users : List UserRow := []
  definitions : List AttributeDefinition := []
  userValues : List ValueRow := []
  roleValues : List ValueRow := []
  resourceTypes : List ResourceTypeRow := []
  resources : List ResourceRow := []
  resourceValues : List ValueRow := []
  actions : List ActionRow := []
  actionValues : List ValueRow := []
  environment : List EnvironmentRow := []
  policySets : List PolicySetRow := []
  policies : List PolicyRow := []
  rules : List RuleRow := []
  targets : List TargetRow := []
  accesses : List AccessRow := []
deriving DecidableEq

namespace Tables

/-- The names of the tables in order. -/
def names : List String :=
  ["access_requests", "action_attributes", "actions", "attributes", "environment_attributes",
    "policies", "policy_rules", "policy_sets", "policy_targets", "resource_attributes",
    "resource_types", "resources", "role_attributes", "roles", "user_attributes", "users"]

/-- The definition of a name in a category. -/
def definition? (t : Tables) (name : String) (category : Category) : Option AttributeDefinition :=
  t.definitions.find? fun d => d.name == name && d.category == category

/-- The first definition of a name in any category. -/
def definitionNamed? (t : Tables) (name : String) : Option AttributeDefinition :=
  t.definitions.find? fun d => d.name == name

/-- The definition of an identifier. -/
def definitionOf? (t : Tables) (id : String) : Option AttributeDefinition :=
  t.definitions.find? fun d => d.id == id

/-- The resource that callers mean by an identifier. -/
def resource? (t : Tables) (resource : String) : Option ResourceRow :=
  t.resources.find? fun r => r.resource == resource

/-- The action of a name. -/
def action? (t : Tables) (name : String) : Option ActionRow :=
  t.actions.find? fun a => a.name == name

/-- The attributes that a holder has in a table of values. -/
def valuesOf (t : Tables) (holder : String) (rows : List ValueRow) : List Attribute :=
  (rows.filter fun row => row.holder == holder).filterMap fun row =>
    (t.definitionOf? row.definition).map fun d => d.withValue row.value

/-- The attributes of a subject. -/
def subjectAttributes (t : Tables) (subject : String) : List Attribute :=
  t.valuesOf subject t.userValues

/-- The attributes of the role of a subject. -/
def roleAttributes (t : Tables) (subject : String) : List Attribute :=
  match (t.users.find? fun u => u.id == subject).bind UserRow.role with
  | some role => t.valuesOf role t.roleValues
  | none => []

/-- The attributes of a resource. -/
def resourceAttributes (t : Tables) (resource : String) : List Attribute :=
  match t.resource? resource with
  | some row => t.valuesOf row.id t.resourceValues
  | none => []

/-- The owner of a resource. -/
def resourceOwner (t : Tables) (resource : String) : Option String :=
  (t.resource? resource).bind ResourceRow.owner

/-- The attributes of an action. -/
def actionAttributes (t : Tables) (name : String) : List Attribute :=
  match t.action? name with
  | some row => t.valuesOf row.id t.actionValues
  | none => []

/-- Whether a value of the environment is valid at a moment. Both bounds belong to its window. -/
def EnvironmentRow.isValid (row : EnvironmentRow) (now : Time.Moment) : Bool :=
  row.first.all (fun m => m.instant ≤ now.instant) && row.last.all fun m => now.instant ≤ m.instant

/-- The attributes of the environment at a moment. -/
def environmentAttributes (t : Tables) (now : Time.Moment) : List Attribute :=
  (t.environment.filter fun row => EnvironmentRow.isValid row now).filterMap fun row =>
    (t.definitionOf? row.definition).map fun d => d.withValue row.value

/-- The active policies without their conditions, the highest priority first. -/
def activePolicies (t : Tables) : List Policy :=
  ((t.policies.filter PolicyRow.isActive).mergeSort fun p q => q.priority ≤ p.priority).map fun p => {
    id := p.id
    name := p.name
    effect := p.effect
    priority := p.priority
    isActive := p.isActive
    setId := p.setId
    description := p.description }

/-- The rules of a policy in the order of their places. Each refers to its attribute by name only. -/
def rulesOf (t : Tables) (policy : String) : List Rule :=
  ((t.rules.filter fun row => row.policy == policy).mergeSort fun a b =>
    a.position ≤ b.position).filterMap fun row =>
      (t.definitionOf? row.definition).map fun d => {
        reference := some d.name
        operator := some row.operator
        value := .text row.value
        connective := row.connective
        group := row.group }

/-- The targets of a policy in the order of their places. -/
def targetsOf (t : Tables) (policy : String) : List Target :=
  ((t.targets.filter fun row => row.policy == policy).mergeSort fun a b =>
    a.position ≤ b.position).filterMap fun row =>
      (t.definitionOf? row.definition).map fun d => {
        type := some row.type
        name := some d.name
        operator := some row.operator
        value := .text row.value }

/-- The records of a subject, or all. -/
def accessesOf (t : Tables) (subject : Option String) : List AccessRow :=
  t.accesses.filter fun row => subject.all (row.user == ·)

end Tables

end Clearance
