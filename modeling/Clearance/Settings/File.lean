/-
# Settings from a file

A configuration file is read by the form that its name ends in. The text of the file is at hand; an
absent one is a file that does not exist.
-/

import Clearance.Json.Reader
import Clearance.Settings.Basic
import Clearance.Yaml.Reader

namespace Clearance.Settings

/-- What a file name ends in: the last point and what follows it, unless the point is the first or
the last character. -/
def suffix (name : String) : String :=
  let last := (Text.splitAt '/' name.toList).getLastD []
  let ending := last.reverse.takeWhile (· != '.')
  if ending.length + 1 < last.length && !ending.isEmpty then String.ofList ('.' :: ending.reverse)
  else ""

/-- Line ends of all kinds as line feeds. -/
def plainLines : List Char → List Char
  | '\r' :: '\n' :: rest => '\n' :: plainLines rest
  | '\r' :: rest => '\n' :: plainLines rest
  | c :: rest => c :: plainLines rest
  | [] => []

/-- The value of a document, or what is said of one that cannot be read. -/
def document (kind source : String) : Except (Option String) Value :=
  if kind == ".json" then
    match Json.read source with
    | .ok value => .ok value
    | .error problem => .error (some (problem.message source))
  else match Yaml.read source with
    | some value => .ok value
    | none => .error none

/-- Build a configuration from a file. -/
def ofFile (name : String) (contents : Option String) : Except Fault Settings :=
  match contents with
  | none => refuse s!"Configuration file not found: {name}" none
  | some source =>
    let kind := Text.lower (suffix name)
    if kind == ".json" || kind == ".yaml" || kind == ".yml" then
      match document kind (String.ofList (plainLines source.toList)) with
      | .ok value => ofValue value
      | .error problem =>
        let detail := match problem with
          | some words => ": " ++ words
          | none => ""
        refuse s!"Failed to load configuration from {name}{detail}" none
    else refuse s!"Unsupported configuration file format: {suffix name}" none

end Clearance.Settings
