/-
# Transactions

A change of the tables is a script. It draws identifiers, reads and inserts rows, and may be aborted
by the database or by itself at any point. What it has written by then stays in its session until the
end: a script that comes to its end is committed, one that is aborted is rolled back.

The rules and targets of a new policy are not written at once. They wait in the session until the next
definition is inserted or the script ends, and only then it shows whether a row can be written.
-/

import Clearance.Database.Tables
import Clearance.Drawn
import Clearance.Trace
import Clearance.Value.Spelling

namespace Clearance

/-- Why a script is aborted: the database reports it in its own words, or there is another fault. -/
inductive Abort where
  | reported (text : String)
  | fault (f : Fault)

/-- The tables in the course of a script, with the rows that wait. A row without an operator waits as
`none`: it cannot be written. -/
structure Session where
  tables : Tables
  drawn : Nat
  rules : List (Option RuleRow) := []
  targets : List (Option TargetRow) := []

/-- A change of the tables. -/
abbrev Script (α : Type) := ExceptT Abort (StateM Session) α

namespace Script

/-- Abort with a violated constraint. -/
def violate {α : Type} (constraint column : String) : Script α :=
  throw (.reported s!"(sqlite3.IntegrityError) {constraint} constraint failed: {column}")

/-- A value that a column cannot do without. -/
def notNull {α : Type} (column : String) : Option α → Script α
  | some a => return a
  | none => violate "NOT NULL" column

/-- Abort if a key is taken. -/
def unique (columns : String) (isTaken : Bool) : Script Unit :=
  if isTaken then violate "UNIQUE" columns else return

/-- Draw an identifier. -/
def draw : Script String := do
  let s ← get
  set { s with drawn := s.drawn + 1 }
  return Drawn.identifier s.drawn

/-- The tables as they are. -/
def tables : Script Tables := return (← get).tables

/-- Change the tables. -/
def change (f : Tables → Tables) : Script Unit :=
  modify fun s => { s with tables := f s.tables }

/-- The rows of a list, if all of them can be written. -/
def writable {α : Type} (column : String) (rows : List (Option α)) : Script (List α) :=
  rows.mapM (notNull column)

/-- Write the rows that wait, rules before targets. -/
def flush : Script Unit := do
  let s ← get
  let rules ← writable "policy_rules.operator" s.rules
  change fun t => { t with rules := t.rules ++ rules }
  let targets ← writable "policy_targets.operator" s.targets
  change fun t => { t with targets := t.targets ++ targets }
  modify fun s => { s with rules := [], targets := [] }

/-- The largest integer that a column can hold; the smallest is one further from zero. -/
def largest : Int := 9223372036854775807

/-- An integer that a column can hold. -/
def fitting (n : Int) : Script Int :=
  if -largest - 1 ≤ n ∧ n ≤ largest then return n
  else throw (.fault (.overflow "Python int too large to convert to SQLite INTEGER"))

/-- A moment as a column holds it: in universal time. -/
def universal (m : Time.Moment) : Script Time.Moment :=
  match m.universal? with
  | some u => return u
  | none => throw (.fault (.overflow "date value out of range"))

/-- The string form of a value, which a column holds in its place. -/
def spelled (v : Value) : Script String :=
  match v.spelled with
  | .ok s => return s
  | .error fault => throw (.fault fault)

/-- Define an attribute, and write the rows that wait. -/
def define (name : Option String) (category : Category) (type : String)
    (description validValues : Option String) : Script String := do
  let id ← draw
  let name ← notNull "attributes.name" name
  unique "attributes.name, attributes.category" ((← tables).definition? name category).isSome
  change fun t => { t with definitions :=
    t.definitions ++ [⟨id, name, type, category, description, validValues⟩] }
  flush
  return id

/-- The definition of a name in a category, which is made if there is none. -/
def definition (name : Option String) (category : Category) : Script String := do
  let t ← tables
  match name.bind fun n => t.definition? n category with
  | some d => return d.id
  | none => define name category "string" none none

end Script

/-- A connection with a session on it: the tables as they were committed, and the session, which sees
what it has written itself. -/
structure Connection where
  committed : Tables
  session : Session

namespace Connection

/-- Begin a session. -/
def begin (t : Tables) (drawn : Nat) : Connection := ⟨t, { tables := t, drawn := drawn }⟩

/-- Write the rows that wait, and commit what the session has written. -/
def commit (c : Connection) : Except Abort Unit × Connection :=
  match Script.flush c.session with
  | (.ok (), s) => (.ok (), { committed := s.tables, session := s })
  | (.error abort, s) => (.error abort, { c with session := s })

/-- Undo what was written since the last commit. The identifiers that were drawn stay drawn. -/
def rollback (c : Connection) : Connection := begin c.committed c.session.drawn

/-- Run a script as a transaction: it is committed when it comes to its end, and rolled back when it is
aborted or cannot be committed. -/
def scope {α : Type} (script : Script α) (c : Connection) : Except Abort α × Connection :=
  match script c.session with
  | (.ok a, s) =>
    match commit { c with session := s } with
    | (.ok (), c) => (.ok a, c)
    | (.error abort, c) => (.error abort, c.rollback)
  | (.error abort, s) => (.error abort, rollback { c with session := s })

end Connection

/-- Run a script on tables: its outcome, the tables that the connection has after it, and the number of
identifiers that were drawn. -/
def Script.run {α : Type} (script : Script α) (t : Tables) (drawn : Nat) :
    Except Abort α × Tables × Nat :=
  let (outcome, c) := (Connection.begin t drawn).scope script
  (outcome, c.session.tables, c.session.drawn)

end Clearance
