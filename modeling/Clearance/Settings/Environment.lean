/-
# Settings from the environment

Options that are given by environment variables, whose names begin with a common part. Switches,
integers and real numbers are read from the text; a text that spells none is refused under the option
that it was meant for. The variables are read in a fixed order.
-/

import Clearance.Decimal.Reading
import Clearance.Settings.Basic

namespace Clearance.Settings

/-- What the text of a variable is read as. -/
inductive VariableKind where
  | switch
  | integer
  | real
  | text
deriving DecidableEq

/-- A variable: its name after the common part, the section and the name of its option, and what it
is read as. -/
structure Variable where
  name : String
  part : Option String
  option : String
  kind : VariableKind

/-- The variables in the order in which they are read. -/
def knownVariables : List Variable :=
  [⟨"ROLE_ATTRIBUTES_OVERRIDE", none, "role_attributes_override", .switch⟩,
    ⟨"STRICT_RULE_REFERENCES", none, "strict_rule_references", .switch⟩,
    ⟨"VALIDATE_OPERATORS", none, "validate_operators", .switch⟩,
    ⟨"REQUEST_TIMEOUT", none, "request_timeout", .real⟩,
    ⟨"DATABASE_URL", none, "database_url", .text⟩,
    ⟨"CACHE_ENABLED", some "cache", "enabled", .switch⟩,
    ⟨"CACHE_MAX_SIZE", some "cache", "max_size", .integer⟩,
    ⟨"CACHE_TTL_SECONDS", some "cache", "ttl_seconds", .real⟩,
    ⟨"BATCH_WIDTH", some "batch", "width", .integer⟩,
    ⟨"BATCH_PAUSE_SECONDS", some "batch", "pause_seconds", .real⟩,
    ⟨"AUDIT_ENABLED", some "audit", "enabled", .switch⟩,
    ⟨"AUDIT_QUEUE_SIZE", some "audit", "queue_size", .integer⟩,
    ⟨"AUDIT_SHUTDOWN_TIMEOUT", some "audit", "shutdown_timeout", .real⟩,
    ⟨"LOG_LEVEL", some "logging", "log_level", .text⟩,
    ⟨"LOG_FORMAT", some "logging", "log_format", .text⟩,
    ⟨"LOG_FILE", some "logging", "log_file", .text⟩]

/-- The words that turn a switch on, in any case. -/
def onWords : List String := ["true", "1", "yes", "on"]

/-- The value that a variable's text spells. -/
def VariableKind.read (kind : VariableKind) (s : String) : Option Value :=
  match kind with
  | switch => some (.bool (onWords.contains (Text.lower s)))
  | integer => (Decimal.readInt s).toOption.map .int
  | real => (Decimal.readFloat? s).map .float
  | text => some (.text s)

/-- The path of a variable's option. -/
def Variable.path (v : Variable) : String :=
  match v.part with
  | some part => part ++ "." ++ v.option
  | none => v.option

/-- Options that have been read: those of the top and those of the sections. -/
abbrev Found := List (String × Value)

/-- Write an option in its section. -/
def Variable.store (v : Variable) (value : Value) (found : Found) : Found :=
  match v.part with
  | none => Ordered.set v.option value found
  | some part =>
    let inner := match Ordered.get? part found with
      | some (.dict entries) => entries
      | _ => []
    Ordered.set part (.dict (setPair (.text v.option) value inner)) found

/-- Read the variables that are set, after the options found already. -/
def readVariables (common : String) (environment : List (String × String)) (found : Found) :
    List Variable → Except Fault Found
  | [] => .ok found
  | v :: rest =>
    let name := common ++ v.name
    match environment.lookup name with
    | none => readVariables common environment found rest
    | some s =>
      match v.kind.read s with
      | some value => readVariables common environment (v.store value found) rest
      | none => refuse s!"Invalid value for {name}: {s}" (some v.path)

/-- Build a configuration from environment variables. -/
def ofEnvironment (common : String) (environment : List (String × String)) :
    Except Fault Settings := do
  let found ← readVariables common environment [] knownVariables
  ofEntries (found.map fun (name, value) => (.text name, value))

end Clearance.Settings
