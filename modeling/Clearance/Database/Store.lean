/-
# Databases as stores

How a database answers the calls of an authorizer and writes its records.
-/

import Clearance.Database.Basic
import Clearance.Database.Statement
import Clearance.Json.Printer
import Clearance.Store.Call

namespace Clearance.Database

/-- How a failure of a call is framed. -/
def frame (call : StoreCall) (message : String) : Failure :=
  match call with
  | .subjectAttributes subject | .roleAttributes subject =>
    .attributeStore message call.name (some subject) none
  | .resourceAttributes resource | .resourceOwner resource =>
    .attributeStore message call.name none (some resource)
  | .actionAttributes _ | .environmentAttributes _ => .attributeStore message call.name none none
  | .activePolicies => .policyStore message none
  | .rules policy | .targets policy => .policyStore message (some policy)

/-- The answer of tables to a call. A moment is put to them in universal time. -/
def answer (t : Tables) : (call : StoreCall) → call.Answer
  | .subjectAttributes subject => t.subjectAttributes subject
  | .roleAttributes subject => t.roleAttributes subject
  | .resourceAttributes resource => t.resourceAttributes resource
  | .resourceOwner resource => t.resourceOwner resource
  | .actionAttributes action => t.actionAttributes action
  | .environmentAttributes now => t.environmentAttributes (now.universal?.getD now)
  | .activePolicies => t.activePolicies
  | .rules policy => t.rulesOf policy
  | .targets policy => t.targetsOf policy

/-- The fault of a call that cannot be put to a database: a moment that has no universal time. -/
def callFault? : StoreCall → Option Fault
  | .environmentAttributes now => if now.universal?.isSome then none else some Time.beyondCalendar
  | _ => none

/-- Answer a call. -/
def ask (call : StoreCall) (db : Database) : Reply call.Answer × List TraceEntry × Database :=
  match callFault? call with
  | some fault => (.failed fault, [], db)
  | none =>
    let (outcome, entries, db) := db.transact call.name (frame call) (Statement.ofCall call).report do
      return answer (← Script.tables) call
    match outcome with
    | .ok a => (.answered a, entries, db)
    | .error fault => (.failed fault, entries, db)

/-- The row of a record. -/
def accessRow (t : Tables) (r : Record) : AccessRow where
  user := r.subject
  resource := ((t.resource? r.resource).map ResourceRow.id).getD r.resource
  action := ((t.action? r.action).map ActionRow.id).getD r.action
  decision := r.decision.name
  applied := Json.write (.list r.applied)
  context := Json.write (.ofFields r.context)

/-- Write a record. -/
def write : Sink Record Database := fun record db =>
  let (outcome, entries, db) := db.transact recordCallName (fun message => .of .audit message [])
    (Statement.noSuchTable "resources") do
      Script.change fun t => { t with accesses := t.accesses ++ [accessRow t record] }
  match outcome with
  | .ok _ => (.written, entries, db)
  | .error fault => (.failed fault.message, entries, db)

/-- The records of a subject, or all. -/
def records (db : Database) (subject : Option String) :
    Except Fault (List AccessRow) × List TraceEntry × Database :=
  db.transact "list_access_requests" (fun message => .of .audit message [])
    (Statement.noSuchTable "access_requests") do
      return (← Script.tables).accessesOf subject

/-- A database as a store. Its callers wait for their answers. -/
def store : Store Database where
  ask := ask
  write := write
  isSlow := fun _ _ => true

end Clearance.Database
