/-
# Gathering attributes

How the attribute map of a request comes about. What is stored of the subject, its role, the resource,
the action and the environment may be served from the cache. What belongs to the request itself, its
time and its context, is written anew each time and never kept.

The map keeps the order in which its keys were first written. The type of the resource stands before
all attributes of the environment, so that the context cannot hide it from a bare reference.
-/

import Clearance.Attribute.Clock
import Clearance.Process.Basic
import Clearance.Value.Spelling

namespace Clearance

/-- What a store answers about a request. Without a resource there is neither an owner nor are there
attributes of one. -/
structure Lookups where
  subject : List Attribute
  role : List Attribute
  resource : List Attribute := []
  owner : Option String := none
  action : List Attribute
  environment : List Attribute

namespace AttributeMap

/-- Write attributes as ones of a category. An attribute that is there stays as it is if it may not be
overwritten. -/
def merge (m : AttributeMap) (category : Category) (overwrite : Bool) (values : List Attribute) :
    AttributeMap :=
  values.foldl (fun m value =>
    let value := { value with category := category.name }
    if !overwrite && m.has value.key then m else m.insert value) m

/-- Write what follows from the owner of the resource: who it is, and whether it is the subject. -/
def addOwner (m : AttributeMap) (subject : String) (owner : Option String) : AttributeMap :=
  match owner with
  | none => m
  | some owner =>
    (m.insert ⟨"resource-owner", "owner_id", "string", Category.resource.name, owner⟩).insert
      ⟨"resource-is-owner", "is_owner", "boolean", Category.resource.name,
        (Value.bool (owner == subject)).string⟩

/-- Write the name of the action. -/
def addAction (m : AttributeMap) (action : String) : AttributeMap :=
  m.insert ⟨"dynamic-action-name", "action_name", "string", Category.action.name, action⟩

/-- The entries with a new one in front of the first attribute of the environment. -/
def beforeEnvironment (key : String) (a : Attribute) :
    List (String × Attribute) → List (String × Attribute)
  | [] => [(key, a)]
  | entry :: rest =>
    if entry.2.category = Category.environment.name then (key, a) :: entry :: rest
    else entry :: beforeEnvironment key a rest

/-- Write an attribute in its place, or in front of the environment if it has none yet. -/
def insertBeforeEnvironment (m : AttributeMap) (a : Attribute) : AttributeMap :=
  if m.has a.key then m.insert a else ⟨beforeEnvironment a.key a m.entries⟩

/-- Write the type of the resource that the caller gives, if it gives one. -/
def addResourceType (m : AttributeMap) (resourceType : Option String) : AttributeMap :=
  match resourceType with
  | none => m
  | some type =>
    if type.isEmpty then m
    else m.insertBeforeEnvironment
      ⟨"dynamic-resource-type", "resource_type", "string", Category.resource.name, type⟩

/-- Write a time and its weekday. -/
def addTime (m : AttributeMap) (timestamp weekday : String) : AttributeMap :=
  (m.insert ⟨"env-current-time", "current_time", "string", Category.environment.name,
    timestamp⟩).insert
    ⟨"env-day-of-week", "day_of_week", "string", Category.environment.name, weekday⟩

/-- The attribute that stands for one entry of the context. -/
def contextAttribute (key type value : String) : Attribute where
  id := "ctx-" ++ key
  name := key
  type := type
  category := Category.environment.name
  value := value

/-- Write the context of a request, up to the first value that has no string form. -/
def addContext (m : AttributeMap) : List (String × Value) → Except Fault AttributeMap
  | [] => return m
  | (key, value) :: rest => do
    let text ← value.spelled
    (m.insert (contextAttribute key value.kindName text)).addContext rest

end AttributeMap

/-- The stored part of the map of a request. Where the subject and its role differ, a switch says
whether the role's value counts. -/
def Lookups.toMap (l : Lookups) (roleOverrides : Bool) (subject action : String) : AttributeMap :=
  let m := (({} : AttributeMap).merge .subject true l.subject).merge .subject roleOverrides l.role
  let m := (m.merge .resource true l.resource).addOwner subject l.owner
  ((m.merge .action true l.action).addAction action).merge .environment true l.environment

/-- The whole map of a request: its own part written over the stored part. -/
def AttributeMap.forRequest (stored : AttributeMap) (now : Time.Moment)
    (resourceType : Option String) (context : List (String × Value)) : Except Fault AttributeMap := do
  let timestamp ← now.timestamp
  let weekday ← now.dayOfWeek
  ((stored.addResourceType resourceType).addTime timestamp weekday).addContext context

namespace Gathering

/-- A text that names something. -/
def given? (s : Option String) : Option String := s.filter fun s => !s.isEmpty

/-- Ask a store for all that is known about a request. -/
def lookUps (subject action : String) (resource : Option String) (now : Time.Moment) :
    Attempt Lookups := do
  let ownAttributes ← Attempt.call (.subjectAttributes subject)
  let roleAttributes ← Attempt.call (.roleAttributes subject)
  let (resourceAttributes, owner) ← match given? resource with
    | none => pure ([], none)
    | some r => do
      let attributes ← Attempt.call (.resourceAttributes r)
      let owner ← Attempt.call (.resourceOwner r)
      pure (attributes, owner)
  let actionAttributes ← Attempt.call (.actionAttributes action)
  let environment ← Attempt.call (.environmentAttributes now)
  return ⟨ownAttributes, roleAttributes, resourceAttributes, owner, actionAttributes, environment⟩

/-- The failure of a look-up. -/
def failure (subject : String) (resource : Option String) (message : String) : Failure :=
  .attributeStore ("Failed to gather attributes: " ++ message) "gather" (some subject) resource

/-- An entry of the trace. -/
def entry (message : String) : TraceEntry := ⟨.attributes, .debug, message⟩

/-- The stored part of the map of a request, from the cache if it is there. -/
def stored (roleOverrides : Bool) (subject action : String) (resource : Option String)
    (now : Time.Moment) : Attempt AttributeMap := do
  let key := CacheKey.of subject resource action
  match ← Attempt.pose (.lookUp key) with
  | some m =>
    Attempt.note (entry
      s!"Attribute map for {subject}/{orNone resource}/{action} served from cache")
    return m
  | none =>
    let found ← (lookUps subject action resource now).framed (failure subject resource)
    let m := found.toMap roleOverrides subject action
    Attempt.pose (.remember key m)
    return m

end Gathering

/-- Gather the attributes of a request. -/
def gather (roleOverrides : Bool) (subject action : String) (resource resourceType : Option String)
    (context : List (String × Value)) : Attempt AttributeMap := do
  let now ← Attempt.pose .time
  let stored ← Gathering.stored roleOverrides subject action resource now
  let m ← ExceptT.mk (Process.done (stored.forRequest now resourceType context))
  Attempt.note (Gathering.entry s!"Gathered {m.size} attributes for subject {subject}")
  return m

end Clearance
