/-
# Attributes

A named value of a subject, a resource, an action or the environment, and the map of all attributes
that a request is judged by. The map is keyed by category and name and keeps the order in which its
keys were first written.
-/

import Clearance.Ordered
import Clearance.Value.Basic

namespace Clearance

/-- What an attribute is an attribute of. -/
inductive Category where
  | subject
  | resource
  | action
  | environment
deriving DecidableEq, Repr

/-- The name of a category, the first part of an attribute's key. -/
def Category.name : Category → String
  | subject => "subject"
  | resource => "resource"
  | action => "action"
  | environment => "environment"

/-- The four categories. -/
def Category.all : List Category := [subject, resource, action, environment]

/-- The category of a name. -/
def Category.ofName? (name : String) : Option Category := all.find? fun c => c.name == name

/-- An attribute with its value in string form. -/
structure Attribute where
  id : String
  name : String
  type : String
  category : String
  value : String
deriving DecidableEq, Inhabited

/-- The key of a name in a category. -/
def attributeKey (category name : String) : String := category ++ "." ++ name

/-- The key of an attribute in a map. -/
def Attribute.key (a : Attribute) : String := attributeKey a.category a.name

/-- The fields of an attribute. -/
def Attribute.toValue (a : Attribute) : Value :=
  .ofFields [("id", .text a.id), ("name", .text a.name), ("type", .text a.type),
    ("category", .text a.category), ("value", .text a.value)]

/-- Attributes by key, in the order in which the keys were first written. -/
structure AttributeMap where
  entries : List (String × Attribute) := []
deriving DecidableEq, Inhabited

namespace AttributeMap

/-- The attribute under a key. -/
def get? (m : AttributeMap) (key : String) : Option Attribute := Ordered.get? key m.entries

/-- Write an attribute under a key. -/
def set (m : AttributeMap) (key : String) (a : Attribute) : AttributeMap :=
  ⟨Ordered.set key a m.entries⟩

/-- Write an attribute under its own key. -/
def insert (m : AttributeMap) (a : Attribute) : AttributeMap := m.set a.key a

/-- Whether there is an attribute under a key. -/
def has (m : AttributeMap) (key : String) : Bool := (m.get? key).isSome

/-- The attributes in map order. -/
def toList (m : AttributeMap) : List Attribute := Ordered.values m.entries

/-- The number of attributes. -/
def size (m : AttributeMap) : Nat := m.entries.length

end AttributeMap

end Clearance
