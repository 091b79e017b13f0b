/-
# Traces

What the library says while it works. An entry has a topic, a level and a message. Traces are data:
each is computed from the same report as the answer that it explains.
-/

namespace Clearance

/-- The levels of trace entries. -/
inductive TraceLevel where
  | debug
  | info
  | warning
  | error
deriving DecidableEq, Repr

/-- The rank of a level; an entry is kept if its rank reaches the threshold's. -/
def TraceLevel.rank : TraceLevel → Nat
  | debug => 10
  | info => 20
  | warning => 30
  | error => 40

/-- The name of a level. -/
def TraceLevel.name : TraceLevel → String
  | debug => "DEBUG"
  | info => "INFO"
  | warning => "WARNING"
  | error => "ERROR"

/-- The parts of the library that leave entries. -/
inductive Topic where
  | rules
  | targets
  | attributes
  | policies
  | authorizer
  | audit
  | database
  | relational
deriving DecidableEq, Repr

/-- The name of a topic in a trace. -/
def Topic.name : Topic → String
  | rules => "engine.rules"
  | targets => "engine.targets"
  | attributes => "attributes"
  | policies => "policies"
  | authorizer => "authorizer"
  | audit => "audit"
  | database => "storage.database"
  | relational => "storage.sql_store"

/-- One entry of a trace. -/
structure TraceEntry where
  topic : Topic
  level : TraceLevel
  message : String
deriving DecidableEq

end Clearance
