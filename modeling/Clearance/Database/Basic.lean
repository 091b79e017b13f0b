/-
# Databases

A database is reached by an address. It is set up once, and then its tables can be made and dropped.
A database in memory begins empty each time it is set up.
-/

import Clearance.Database.Transaction
import Clearance.Failure

namespace Clearance

/-- The engine of a database: there is none, it cannot be reached, or it is there, with or without
tables. -/
inductive Engine where
  | absent
  | unreachable
  | connected (tables : Option Tables)

/-- A database. -/
structure Database where
  url : String
  engine : Engine := .absent
  isInitialized : Bool := false
  /-- The number of identifiers that were drawn. -/
  drawn : Nat := 0

namespace Database

/-- The address of a database that none was given for. -/
def defaultUrl : String := "sqlite:///./abac.db"

/-- A database that is not set up yet. -/
def ofUrl (url : Option String) : Database :=
  { url := match url with
      | some u => if u.isEmpty then defaultUrl else u
      | none => defaultUrl }

/-- Whether all calls share one connection. -/
def hasSingleConnection (db : Database) : Bool := db.url.startsWith "sqlite"

/-- The scheme of an address and what comes after it. -/
def parts? (url : String) : Option (String × String) :=
  match url.splitOn "://" with
  | scheme :: first :: rest => some (scheme, Text.joined "://" (first :: rest))
  | _ => none

/-- The path of a database, which is behind the first slash. -/
def path (url : String) : String :=
  match parts? url with
  | some (_, rest) => String.ofList ((rest.toList.dropWhile (· != '/')).drop 1)
  | none => ""

/-- Whether a path stands for a database in memory. -/
def isInMemory (path : String) : Bool := path.isEmpty || path == ":memory:"

/-- Whether a database can be opened: its file is not looked for in directories that are not there. -/
def canOpen (path : String) : Bool :=
  isInMemory path || !path.startsWith "/" || !(path.toList.drop 1).contains '/'

/-- The digits of a byte in an address. -/
def percent (b : UInt8) : String := "%" ++ Text.upper (String.ofList (Text.hex 2 b.toNat))

/-- Whether a character stands for itself in the path of an address. -/
def isPlain (c : Char) : Bool :=
  c.isAlphanum || c == '_' || c == '.' || c == '-' || c == '~' || c == ' ' || c == '+' || c == '/'

/-- A path in an address. -/
def quotedPath (path : String) : String :=
  Text.joined "" (path.toList.map fun c =>
    if isPlain c then String.singleton c
    else Text.joined "" ((String.singleton c).toUTF8.toList.map percent))

/-- An address as an engine shows it. -/
def shownUrl (url : String) : String :=
  match parts? url with
  | some (scheme, rest) =>
    if rest.isEmpty then url
    else scheme ++ "://" ++ String.ofList (rest.toList.takeWhile (· != '/')) ++ "/" ++
      quotedPath (path url)
  | none => url

/-- An entry of the trace. -/
def entry (level : TraceLevel) (message : String) : TraceEntry := ⟨.database, level, message⟩

/-- What is said of a database whose file cannot be opened. -/
def cannotOpen : String := "(sqlite3.OperationalError) unable to open database file"

/-- Why there is no engine for an address, if there is none. -/
def engineFault? (url : String) : Option String :=
  match parts? url with
  | none => some "Could not parse SQLAlchemy URL from given URL string"
  | some (scheme, _) =>
    if scheme == "sqlite" || scheme == "sqlite+pysqlite" then none
    else some ("Can't load plugin: sqlalchemy.dialects:" ++ scheme)

/-- The failure of setting up. -/
def setupFailure (text : String) : Fault × List TraceEntry :=
  let message := "Failed to initialize database: " ++ text
  (.failure (.configuration message (some "database_url")), [entry .error message])

/-- The tables that are there. -/
def tables? (db : Database) : Option Tables :=
  match db.engine with
  | .connected tables => tables
  | _ => none

/-- Set a database up, with or without making its tables. -/
def setUp (db : Database) (createTables : Bool) :
    Except Fault Unit × List TraceEntry × Database :=
  match engineFault? db.url with
  | some text =>
    let (fault, entries) := setupFailure text
    (.error fault, entries, db)
  | none =>
    let isOpen := canOpen (path db.url)
    if createTables && !isOpen then
      let (fault, entries) := setupFailure cannotOpen
      (.error fault, entries, { db with engine := .unreachable })
    else
      let kept := if isInMemory (path db.url) then none else db.tables?
      let tables := if createTables then some (kept.getD {}) else kept
      let engine := if isOpen then Engine.connected tables else .unreachable
      (.ok (), [entry .info ("Database initialized: " ++ shownUrl db.url)],
        { db with engine := engine, isInitialized := true })

/-- Open a session and close it again. -/
def session (db : Database) : Except Fault Unit :=
  if db.isInitialized then .ok ()
  else .error (.failure (.configuration "Database not initialized. Call initialize() first." none))

/-- The failure of a change to a database without an engine. -/
def noEngine : Fault := .failure (.configuration "Database engine not initialized" none)

/-- Make the tables that are not there, and tell whether that was possible. -/
def createTables (db : Database) : Except Fault Bool × List TraceEntry × Database :=
  match db.engine with
  | .absent => (.error noEngine, [], db)
  | .unreachable =>
    (.ok false, [entry .error ("Failed to create database tables: " ++ cannotOpen)], db)
  | .connected tables =>
    (.ok true, [entry .info "Database tables created successfully"],
      { db with engine := .connected (some (tables.getD {})) })

/-- Drop all tables, and tell whether that was possible. -/
def dropTables (db : Database) : Except Fault Bool × List TraceEntry × Database :=
  match db.engine with
  | .absent => (.error noEngine, [], db)
  | .unreachable =>
    (.ok false, [entry .error ("Failed to drop database tables: " ++ cannotOpen)], db)
  | .connected _ =>
    (.ok true, [entry .info "Database tables dropped successfully"],
      { db with engine := .connected none })

/-- Whether the connection works. -/
def checkConnection (db : Database) : Bool × List TraceEntry :=
  match db.engine with
  | .absent => (false, [])
  | .unreachable => (false, [entry .error ("Database connection check failed: " ++ cannotOpen)])
  | .connected _ => (true, [])

/-- What is known about a database. -/
def info (db : Database) : List (String × Value) × List TraceEntry :=
  let url := match db.engine with
    | .absent => db.url
    | _ => shownUrl db.url
  let (works, entries) := if db.isInitialized then db.checkConnection else (false, [])
  let tables := if works && db.tables?.isSome then Tables.names else []
  let missed := match db.isInitialized, db.engine with
    | true, .unreachable => [entry .error ("Failed to get table information: " ++ cannotOpen)]
    | _, _ => []
  ([("database_url", .text url), ("initialized", .bool db.isInitialized),
    ("connection_working", .bool works), ("tables", .list (tables.map .text))], entries ++ missed)

/-- Run a script. Where the database reports that it was aborted, the report is framed; the tables that
are not there are reported too. -/
def transact {α : Type} (db : Database) (operation : String) (frame : String → Failure)
    (missing : String) (script : Script α) : Except Fault α × List TraceEntry × Database :=
  let (outcome, db) : Except Abort α × Database :=
    match db.tables? with
    | none => (.error (.reported missing), db)
    | some t =>
      let (outcome, t, drawn) := script.run t db.drawn
      (outcome, { db with engine := .connected (some t), drawn := drawn })
  match outcome with
  | .ok a => (.ok a, [], db)
  | .error (.fault f) => (.error f, [], db)
  | .error (.reported text) =>
    let message := s!"Database error during {operation}: {text}"
    (.error (.failure (frame message)), [⟨.relational, .error, message⟩], db)

end Database

end Clearance
