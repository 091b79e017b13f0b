/-
# Statements

How a database reports that a query could not be run because its first table is not there: the table,
the query and its parameters. Long parameters are cut in the middle.
-/

import Clearance.Attribute.Clock
import Clearance.Store.Call

namespace Clearance

/-- A query with its parameters in literal form, and the table that it reads first. -/
structure Statement where
  table : String
  text : String
  parameters : List String := []

namespace Statement

/-- What is said of a table that is not there. -/
def noSuchTable (table : String) : String := s!"(sqlite3.OperationalError) no such table: {table}"

/-- A literal of more than three hundred characters, without its middle. -/
def cut (literal : String) : String :=
  let cs := literal.toList
  if cs.length ≤ 300 then literal
  else
    String.ofList (cs.take 150) ++
    s!" ... ({cs.length - 300} characters truncated) ... " ++
    String.ofList (cs.drop (cs.length - 150))

/-- Where more is said about the report. -/
def background : String := "https:" ++ "//sqlalche.me/e/21/e3q8"

/-- The parameters of a query. -/
def parameterText : List String → String
  | [] => ""
  | [p] => s!"[parameters: ({cut p},)]\n"
  | all => "[parameters: (" ++ Text.joined ", " (all.map cut) ++ ")]\n"

/-- The report on a query whose first table is not there. -/
def report (s : Statement) : String :=
  noSuchTable s.table ++ "\n[SQL: " ++ s.text ++ "]\n" ++ parameterText s.parameters ++
  "(Background on this error at: " ++ background ++ ")"

/-- A column under the name that it gets in a result. -/
def column (table name : String) : String := s!"{table}.{name} AS {table}_{name}"

/-- Columns of a table. -/
def columns (table : String) (names : List String) : String :=
  Text.joined ", " (names.map (column table))

/-- The columns of a definition. -/
def definitionColumns : String :=
  columns "attributes"
    ["id", "name", "type", "category", "description", "valid_values", "created_at"]

/-- A query for the values in a table, with the rest of the query. -/
def values (table rest : String) (parameters : List String) : Statement where
  table := "attributes"
  text := "SELECT " ++ definitionColumns ++ ", " ++ column table "value" ++
    s!" \nFROM attributes JOIN {table} ON {table}.attribute_id = attributes.id" ++ rest
  parameters := parameters

/-- A query for the conditions of a policy. -/
def conditions (table : String) (names : List String) (policy : String) : Statement where
  table := table
  text := "SELECT " ++ columns table names ++ ", " ++ column "attributes" "name" ++
    s!" \nFROM {table} JOIN attributes ON attributes.id = {table}.attribute_id" ++
    s!" \nWHERE {table}.policy_id = ? ORDER BY {table}.position"
  parameters := [Text.quoted policy]

/-- The query for the active policies. -/
def policies : Statement where
  table := "policies"
  text := "SELECT " ++ columns "policies" ["id", "name", "description", "policy_set_id", "effect",
      "priority", "is_active", "created_at"] ++
    " \nFROM policies \nWHERE policies.is_active IS 1 " ++
    "ORDER BY policies.priority DESC, policies.created_at, policies.id"

/-- The condition that a value of the environment is valid. -/
def validity : String :=
  " \nWHERE (environment_attributes.valid_from IS NULL OR environment_attributes.valid_from <= ?)" ++
  " AND (environment_attributes.valid_to IS NULL OR environment_attributes.valid_to >= ?)"

/-- A moment as a parameter. -/
def momentText (m : Time.Moment) : String :=
  Text.quoted (s!"{Time.padded 4 m.date.year}-{Time.padded 2 m.date.month}-" ++
    s!"{Time.padded 2 m.date.day} {Time.padded 2 m.hour}:{Time.padded 2 m.minute}:" ++
    s!"{Time.padded 2 m.second}.{Time.padded 6 m.microsecond}")

/-- The query that a call is answered by. -/
def ofCall : StoreCall → Statement
  | .subjectAttributes subject =>
    values "user_attributes" " \nWHERE user_attributes.user_id = ?" [Text.quoted subject]
  | .roleAttributes subject =>
    values "role_attributes"
      " JOIN users ON users.role_id = role_attributes.role_id \nWHERE users.id = ?"
      [Text.quoted subject]
  | .resourceAttributes resource =>
    values "resource_attributes"
      (" JOIN resources ON resources.id = resource_attributes.resource_id" ++
        " \nWHERE resources.resource_id = ?") [Text.quoted resource]
  | .resourceOwner resource => {
    table := "resources"
    text := "SELECT " ++ column "resources" "owner_id" ++
      " \nFROM resources \nWHERE resources.resource_id = ?\n LIMIT ? OFFSET ?"
    parameters := [Text.quoted resource, "1", "0"] }
  | .actionAttributes action =>
    values "action_attributes"
      " JOIN actions ON actions.id = action_attributes.action_id \nWHERE actions.name = ?"
      [Text.quoted action]
  | .environmentAttributes now =>
    let moment := momentText (now.universal?.getD now)
    values "environment_attributes" validity [moment, moment]
  | .activePolicies => policies
  | .rules policy =>
    conditions "policy_rules" ["id", "policy_id", "attribute_id", "operator", "value",
      "logical_operator", "group_id", "position", "created_at"] policy
  | .targets policy =>
    conditions "policy_targets" ["id", "policy_id", "target_type", "target_id", "attribute_id",
      "operator", "value", "position", "created_at"] policy

end Statement

end Clearance
