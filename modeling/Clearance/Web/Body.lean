/-
# Request bodies

How the bodies of requests over the web are read. A body is an object. Each field has a name in the
style of the interchange format and another one in the style of the stored names; both are taken, the
first one first. All problems of a body are reported, in the order of its fields, each with the place
where it was found.
-/

import Clearance.Json.Reader
import Clearance.Request

namespace Clearance.Web

/-- Something that is wrong with a body, and where. -/
structure Problem where
  type : String
  place : List Value
  message : String

/-- The fields of a problem. -/
def Problem.toValue (p : Problem) : Value :=
  .ofFields [("type", .text p.type), ("loc", .list p.place), ("msg", .text p.message)]

/-- What is read, or what is wrong with it. -/
abbrev Checked (α : Type) := Except (List Problem) α

/-- Both of two parts, or the problems of both. -/
def Checked.and {α β : Type} : Checked α → Checked β → Checked (α × β)
  | .ok a, .ok b => .ok (a, b)
  | .ok _, .error problems => .error problems
  | .error problems, .ok _ => .error problems
  | .error problems, .error more => .error (problems ++ more)

/-- One problem. -/
def bad {α : Type} (type message : String) (place : List Value) : Checked α :=
  .error [⟨type, place, message⟩]

/-- The place of the whole body. -/
def bodyPlace : List Value := [.text "body"]

/-- Something required is missing. -/
def missing {α : Type} (place : List Value) : Checked α := bad "missing" "Field required" place

/-- A field of a body with its two names. -/
structure Field where
  name : String
  storedName : String

/-- The place and the value of a field. -/
def Field.find? (f : Field) (body : List (Value × Value)) : Option (List Value × Value) :=
  let under (name : String) : Option (List Value × Value) :=
    (body.find? fun entry => entry.1.plain == name).map fun entry =>
      (bodyPlace ++ [.text name], entry.2)
  under f.name <|> under f.storedName

/-- Where a field belongs. -/
def Field.place (f : Field) : List Value := bodyPlace ++ [.text f.name]

/-- A text. -/
def readText (place : List Value) : Value → Checked String
  | .text s => .ok s
  | _ => bad "string_type" "Input should be a valid string" place

/-- A text with something in it. -/
def readNonempty (place : List Value) (v : Value) : Checked String :=
  match readText place v with
  | .ok s =>
    if s.isEmpty then bad "string_too_short" "String should have at least 1 character" place
    else .ok s
  | .error problems => .error problems

/-- A dictionary. -/
def readDictionary (place : List Value) : Value → Checked (List (String × Value))
  | .dict entries => .ok (entries.map fun (key, value) => (key.plain, value))
  | _ => bad "dict_type" "Input should be a valid dictionary" place

/-- The texts of a list, which are numbered on. -/
def readItems (place : List Value) (index : Nat) : List Value → Checked (List String)
  | [] => .ok []
  | v :: rest =>
    ((readText (place ++ [.int index]) v).and (readItems place (index + 1) rest)).map
      fun (s, more) => s :: more

/-- A list of texts. -/
def readTexts (place : List Value) : Value → Checked (List String)
  | .list items => readItems place 0 items
  | _ => bad "list_type" "Input should be a valid list" place

/-- A value that may be null. -/
def orNull {α : Type} (read : List Value → Value → Checked α) (place : List Value) :
    Value → Checked (Option α)
  | .null => .ok none
  | v => (read place v).map some

/-- A field that must be there. -/
def Field.need {α : Type} (f : Field) (body : List (Value × Value))
    (read : List Value → Value → Checked α) : Checked α :=
  match f.find? body with
  | some (place, v) => read place v
  | none => missing f.place

/-- A field that has a value also when it is not there. -/
def Field.take {α : Type} (f : Field) (body : List (Value × Value)) (absent : α)
    (read : List Value → Value → Checked α) : Checked α :=
  match f.find? body with
  | some (place, v) => read place v
  | none => .ok absent

def subjectField : Field := ⟨"subjectId", "subject_id"⟩
def userField : Field := ⟨"userId", "user_id"⟩
def actionField : Field := ⟨"actionName", "action_name"⟩
def resourceField : Field := ⟨"resourceId", "resource_id"⟩
def resourcesField : Field := ⟨"resourceIds", "resource_ids"⟩
def typeField : Field := ⟨"resourceType", "resource_type"⟩
def contextField : Field := ⟨"context", "context"⟩

/-- A request for any action. -/
def readActionRequest (body : List (Value × Value)) : Checked Request :=
  ((subjectField.need body readNonempty).and <|
    (actionField.need body readNonempty).and <|
    (resourceField.take body none (orNull readText)).and <|
    (typeField.take body none (orNull readText)).and <|
    contextField.take body [] readDictionary).map
    fun (subject, action, resource, type, context) =>
      ⟨some subject, some action, resource, type, context⟩

/-- A request for a given action on one resource. -/
def readResourceRequest (action : String) (body : List (Value × Value)) : Checked Request :=
  ((userField.need body readNonempty).and <|
    (resourceField.need body readNonempty).and <|
    contextField.take body none (orNull readDictionary)).map
    fun (subject, resource, context) =>
      ⟨some subject, some action, some resource, none, context.getD []⟩

/-- A request for one action on many resources. -/
structure BatchRequest where
  subject : String
  action : String
  resources : List String
  context : List (String × Value) := []

/-- A request on many resources. -/
def readBatchRequest (body : List (Value × Value)) : Checked BatchRequest :=
  ((userField.need body readNonempty).and <|
    (actionField.need body readNonempty).and <|
    (resourcesField.need body readTexts).and <|
    contextField.take body none (orNull readDictionary)).map
    fun (subject, action, resources, context) => ⟨subject, action, resources, context.getD []⟩

/-- Why a body is not taken: it has problems, or it cannot be handled at all. -/
inductive BodyFault where
  | problems (list : List Problem)
  | unreadable

/-- The document in a body, if there is any. A byte order mark in front is skipped. -/
def readDocument (text : String) : Except BodyFault (Option Value) :=
  let cs := match text.toList with
    | '\ufeff' :: rest => rest
    | cs => cs
  if text.isEmpty then .ok none
  else match Json.readDocument cs with
    | .ok v => .ok (some v)
    | .error (.malformed _ left) =>
      let place := bodyPlace ++ [.int (cs.length - left : Nat)]
      .error (.problems [⟨"json_invalid", place, "JSON decode error"⟩])
    | .error (.tooLong _) => .error .unreadable

/-- Read a body by the rules for its kind. -/
def readBody {α : Type} (read : List (Value × Value) → Checked α) (text : String) :
    Except BodyFault α :=
  let checked : Checked α → Except BodyFault α
    | .ok a => .ok a
    | .error list => .error (.problems list)
  match readDocument text with
  | .error fault => .error fault
  | .ok none => checked (missing bodyPlace)
  | .ok (some (.dict entries)) => checked (read entries)
  | .ok (some _) =>
    checked (bad "model_attributes_type"
      "Input should be a valid dictionary or object to extract fields from" bodyPlace)

end Clearance.Web
