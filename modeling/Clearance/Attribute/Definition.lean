/-
# Attribute definitions

What is known of an attribute apart from its values: a name in a category, and the type and the values
that it is meant to have.
-/

import Clearance.Attribute.Basic
import Clearance.Failure

namespace Clearance

/-- The category of a word. -/
def Category.ofName (word : String) : Except Fault Category :=
  match Category.ofName? word with
  | some c => .ok c
  | none => .error (notOneOf "AttributeCategory" (.text word))

/-- The definition of an attribute. -/
structure AttributeDefinition where
  id : String
  name : String
  type : String := "string"
  category : Category
  description : Option String := none
  validValues : Option String := none
deriving DecidableEq

/-- The attribute that a definition and a value make. -/
def AttributeDefinition.withValue (d : AttributeDefinition) (value : String) : Attribute :=
  ⟨d.id, d.name, d.type, d.category.name, value⟩

end Clearance
