/-
# References to attributes

How conditions name attributes. A qualified reference has a category and a name; a bare one has only
a name and is searched for in the whole map, where the first attribute counts. A name that is not
found is tried again with its capitals rewritten in the style of the stored names.
-/

import Clearance.Attribute.Basic
import Clearance.Text.Blank
import Clearance.Text.Case
import Clearance.Text.Pieces
import Clearance.Trace

namespace Clearance

/-- Whether an underscore goes in front of a capital that follows this character. -/
def endsWord (c : Char) : Bool := ('a' ≤ c && c ≤ 'z') || ('0' ≤ c && c ≤ '9')

/-- Put an underscore before each ASCII capital that follows a lower-case letter or a digit. What
counts is the character in the given text. -/
def underscored (previous : Option Char) : List Char → List Char
  | [] => []
  | c :: rest =>
    if 'A' ≤ c && c ≤ 'Z' && previous.any endsWord then '_' :: c :: underscored (some c) rest
    else c :: underscored (some c) rest

/-- A name in lower case, with underscores where words met. -/
def snakeCase (name : String) : String :=
  Text.lower (String.ofList (underscored none name.toList))

/-- Other names of categories. -/
def categoryAliases : List (String × Category) :=
  [("user", .subject), ("role", .subject), ("env", .environment)]

/-- The name that a category text is looked up by: without blanks at its ends, in lower case, and an
alias replaced. -/
def normalizeCategory (category : Option String) : String :=
  let key := Text.lower (Text.strip (category.getD ""))
  match categoryAliases.lookup key with
  | some c => c.name
  | none => key

/-- Whether a normalized name is that of a category. -/
def isCategoryName (name : String) : Bool := (Category.ofName? name).isSome

/-- What a condition refers to. -/
inductive Reference where
  | qualified (category name : String)
  | bare (name : String)
deriving DecidableEq

/-- Read a reference: what stands before the first point is its category, if it names one and a name
follows. -/
def Reference.ofString (s : String) : Reference :=
  match Text.cutAt '.' s.toList with
  | some (before, after) =>
    let category := normalizeCategory (some (String.ofList before))
    if isCategoryName category && !after.isEmpty then .qualified category (String.ofList after)
    else .bare s
  | none => .bare s

namespace AttributeMap

/-- The attribute of a name in a category, or else of the name in the stored style. -/
def findQualified (m : AttributeMap) (category : Option String) (name : String) :
    Option Attribute :=
  let category := normalizeCategory category
  match m.get? (attributeKey category name) with
  | some a => some a
  | none =>
    let snake := snakeCase name
    if snake = name then none else m.get? (attributeKey category snake)

/-- All attributes of a name, in map order. -/
def named (m : AttributeMap) (name : String) : List Attribute :=
  m.toList.filter fun a => a.name = name

/-- All attributes of a name, or else of the name in the stored style. -/
def candidates (m : AttributeMap) (name : String) : List Attribute :=
  match m.named name with
  | [] =>
    let snake := snakeCase name
    if snake = name then [] else m.named snake
  | found => found

end AttributeMap

/-- What a reference comes to in a map. -/
inductive Resolution where
  | missing
  /-- A bare name that stands for attributes of several categories, where that is not allowed. -/
  | ambiguous (name : String) (categories : List String)
  | found (a : Attribute)
deriving DecidableEq

/-- The attribute that was found, if one was. -/
def Resolution.attribute? : Resolution → Option Attribute
  | found a => some a
  | _ => none

/-- A bare name that strict mode does not resolve leaves a warning. -/
def Resolution.trace : Resolution → List TraceEntry
  | ambiguous name categories =>
    [⟨.rules, .warning, s!"Ambiguous rule attribute {Text.quoted name} found in categories " ++
      Text.joined ", " categories⟩]
  | _ => []

/-- Resolve a reference in a map. In strict mode a bare name must belong to one attribute only. -/
def AttributeMap.resolve (m : AttributeMap) (strict : Bool) (reference : Option String) :
    Resolution :=
  match Reference.ofString (reference.getD "") with
  | .qualified category name =>
    match m.findQualified (some category) name with
    | some a => .found a
    | none => .missing
  | .bare name =>
    match m.candidates name with
    | [] => .missing
    | [a] => .found a
    | a :: more =>
      if strict then .ambiguous name ((a :: more).map Attribute.category) else .found a

end Clearance
