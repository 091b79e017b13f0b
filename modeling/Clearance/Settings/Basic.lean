/-
# Settings

The configuration of an authorizer: its own switches and four sections. A configuration is built from
a dictionary. Unknown keys, sections that are no dictionaries and numbers out of bounds are refused,
section by section in a fixed order, so that of several faults always the same one is reported.
-/

import Clearance.Settings.Number
import Clearance.Text.Case
import Clearance.Value.Spelling

namespace Clearance

/-- How gathered attributes are cached. -/
structure CacheSettings where
  enabled : Value := .bool false
  maxSize : Number := .int 1000
  lifetime : Number := .real 60.0

instance : Inhabited CacheSettings := ⟨{}⟩

/-- How lists of resources are worked through. -/
structure BatchSettings where
  width : Number := .int 10
  pause : Number := .real 0.0

instance : Inhabited BatchSettings := ⟨{}⟩

/-- How records are queued for the audit. -/
structure AuditSettings where
  enabled : Value := .bool true
  queueSize : Number := .int 1000
  shutdownTimeout : Number := .real 5.0

instance : Inhabited AuditSettings := ⟨{}⟩

/-- The levels that security logging can be configured to. -/
inductive LogLevel where
  | debug
  | info
  | warning
  | error
  | critical
deriving DecidableEq, Repr

/-- The name of a level. -/
def LogLevel.name : LogLevel → String
  | debug => "DEBUG"
  | info => "INFO"
  | warning => "WARNING"
  | error => "ERROR"
  | critical => "CRITICAL"

/-- The five levels. -/
def LogLevel.all : List LogLevel := [debug, info, warning, error, critical]

/-- The forms that security events are written in. -/
inductive LogFormat where
  | json
  | text
deriving DecidableEq, Repr

/-- The name of a form. -/
def LogFormat.name : LogFormat → String
  | json => "json"
  | text => "text"

/-- How security events are logged. -/
structure LoggingSettings where
  enabled : Value := .bool true
  level : LogLevel := .info
  format : LogFormat := .json
  file : Value := .null
  maxFileSize : Number := .int 10485760
  backupCount : Value := .int 5

instance : Inhabited LoggingSettings := ⟨{}⟩

/-- The configuration of an authorizer. -/
structure Settings where
  roleOverrides : Value := .bool true
  strictReferences : Value := .bool false
  validateOperators : Value := .bool false
  requestTimeout : Option Number := none
  databaseUrl : Value := .null
  cache : CacheSettings := {}
  batch : BatchSettings := {}
  audit : AuditSettings := {}
  logging : LoggingSettings := {}

instance : Inhabited Settings := ⟨{}⟩

/-- The configuration as a dictionary with every option in it. -/
def Settings.toValue (s : Settings) : Value :=
  .ofFields [
    ("role_attributes_override", s.roleOverrides),
    ("strict_rule_references", s.strictReferences),
    ("validate_operators", s.validateOperators),
    ("request_timeout", (s.requestTimeout.map Number.toValue).getD .null),
    ("database_url", s.databaseUrl),
    ("cache", .ofFields [("enabled", s.cache.enabled), ("max_size", s.cache.maxSize.toValue),
      ("ttl_seconds", s.cache.lifetime.toValue)]),
    ("batch", .ofFields [("width", s.batch.width.toValue),
      ("pause_seconds", s.batch.pause.toValue)]),
    ("audit", .ofFields [("enabled", s.audit.enabled), ("queue_size", s.audit.queueSize.toValue),
      ("shutdown_timeout", s.audit.shutdownTimeout.toValue)]),
    ("logging", .ofFields [("enabled", s.logging.enabled),
      ("log_level", .text s.logging.level.name), ("log_format", .text s.logging.format.name),
      ("log_file", s.logging.file), ("max_file_size", s.logging.maxFileSize.toValue),
      ("backup_count", s.logging.backupCount)])]

namespace Settings

/-- Whether maps and the audit can be given the time that they are meant to have. -/
def isTimed (s : Settings) : Bool := s.cache.lifetime.isSpan && s.audit.shutdownTimeout.isSpan

/-- Whether the value of a role counts where a subject has another one. -/
def doesRoleOverride (s : Settings) : Bool := !s.roleOverrides.isEmpty

/-- Whether a bare reference must be unambiguous. -/
def isStrict (s : Settings) : Bool := !s.strictReferences.isEmpty

/-- Whether policies with problems are refused. -/
def doesValidate (s : Settings) : Bool := !s.validateOperators.isEmpty

/-- The options of a dictionary by name. -/
abbrev Options := List (String × Value)

/-- Refuse a configuration. -/
def refuse {α : Type} (message : String) (key : Option String) : Except Fault α :=
  .error (.failure (Failure.configuration message key))

/-- Refuse unless a condition on a number fails. -/
def reject (bad : Bool) (message key : String) : Except Fault Unit :=
  if bad then refuse message (some key) else .ok ()

/-- The text keys of entries, or none if some key is no text. -/
def textKeys? : List (Value × Value) → Option Options
  | [] => some []
  | (.text key, value) :: rest => (textKeys? rest).map ((key, value) :: ·)
  | _ :: _ => none

/-- The entries of a dictionary that may only have known keys. Unknown ones are listed in order. -/
def knownOptions (what : String) (key : Option String) (known : List String)
    (entries : List (Value × Value)) : Except Fault Options :=
  match textKeys? entries with
  | none => .error (.badKind "keys of different kinds")
  | some options =>
    let unknown := (options.map (·.1)).filter fun k => !known.contains k
    if unknown.isEmpty then .ok options
    else refuse (s!"Unknown {what} keys: " ++ Text.joined ", " (Text.sorted unknown)) key

/-- The value of an option, or what it is without one. -/
def option (options : Options) (name : String) (default : Value) : Value :=
  (Ordered.get? name options).getD default

/-- The number of an option. -/
def number (options : Options) (name : String) (default : Number) : Except Fault Number :=
  Number.ofValue (option options name default.toValue)

/-- The section for the cache. -/
def cacheSection (options : Options) : Except Fault CacheSettings := do
  let maxSize ← number options "max_size" (.int 1000)
  reject (maxSize.isBelow 1) "cache max_size must be at least 1" "cache.max_size"
  let lifetime ← number options "ttl_seconds" (.real 60.0)
  reject (lifetime.isAtMost 0) "cache ttl_seconds must be positive" "cache.ttl_seconds"
  return ⟨option options "enabled" (.bool false), maxSize, lifetime⟩

/-- The section for batches. -/
def batchSection (options : Options) : Except Fault BatchSettings := do
  let width ← number options "width" (.int 10)
  reject (width.isBelow 1) "batch width must be at least 1" "batch.width"
  let pause ← number options "pause_seconds" (.real 0.0)
  reject (pause.isBelow 0) "batch pause_seconds must not be negative" "batch.pause_seconds"
  return ⟨width, pause⟩

/-- The section for the audit. -/
def auditSection (options : Options) : Except Fault AuditSettings := do
  let queueSize ← number options "queue_size" (.int 1000)
  reject (queueSize.isBelow 1) "audit queue_size must be at least 1" "audit.queue_size"
  let timeout ← number options "shutdown_timeout" (.real 5.0)
  reject (timeout.isBelow 0) "audit shutdown_timeout must not be negative" "audit.shutdown_timeout"
  return ⟨option options "enabled" (.bool true), queueSize, timeout⟩

/-- The level that a value names, in any case. -/
def logLevel (v : Value) : Except Fault LogLevel := do
  let word := Text.upper (← v.plained)
  match LogLevel.all.find? fun l => l.name == word with
  | some level => return level
  | none => refuse s!"Invalid log_level: {word}" (some "logging.log_level")

/-- The form that a value names. -/
def logFormat : Value → Except Fault LogFormat
  | .text "json" => .ok .json
  | .text "text" => .ok .text
  | v => do refuse s!"Invalid log_format: {← v.plained}" (some "logging.log_format")

/-- The section for security logging. -/
def loggingSection (options : Options) : Except Fault LoggingSettings := do
  let level ← logLevel (option options "log_level" (.text "INFO"))
  let format ← logFormat (option options "log_format" (.text "json"))
  let maxFileSize ← number options "max_file_size" (.int 10485760)
  reject (maxFileSize.isBelow 1024) "max_file_size must be at least 1024 bytes"
    "logging.max_file_size"
  return {
    enabled := option options "enabled" (.bool true)
    level := level
    format := format
    file := option options "log_file" .null
    maxFileSize := maxFileSize
    backupCount := option options "backup_count" (.int 5) }

/-- Read a section: it is a dictionary of known keys, or missing. -/
def readSection {α : Type} [Inhabited α] (options : Options) (name : String) (known : List String)
    (build : Options → Except Fault α) : Except Fault α :=
  match Ordered.get? name options with
  | none => .ok default
  | some (.dict entries) => do
    build (← knownOptions (name ++ " configuration") (some name) known entries)
  | some _ => refuse s!"Invalid {name} configuration section" (some name)

/-- The keys of a configuration. -/
def topKeys : List String :=
  ["role_attributes_override", "strict_rule_references", "validate_operators", "request_timeout",
    "database_url", "cache", "batch", "audit", "logging"]

/-- Build a configuration from the entries of a dictionary. -/
def ofEntries (entries : List (Value × Value)) : Except Fault Settings := do
  let options ← knownOptions "configuration" none topKeys entries
  let cache ← readSection options "cache" ["enabled", "max_size", "ttl_seconds"] cacheSection
  let batch ← readSection options "batch" ["width", "pause_seconds"] batchSection
  let audit ← readSection options "audit" ["enabled", "queue_size", "shutdown_timeout"] auditSection
  let logging ← readSection options "logging"
    ["enabled", "log_level", "log_format", "log_file", "max_file_size", "backup_count"] loggingSection
  let requestTimeout ← match option options "request_timeout" .null with
    | .null => .ok none
    | v => do
      let n ← Number.ofValue v
      reject (n.isAtMost 0) "request_timeout must be positive" "request_timeout"
      pure (some n)
  return {
    roleOverrides := option options "role_attributes_override" (.bool true)
    strictReferences := option options "strict_rule_references" (.bool false)
    validateOperators := option options "validate_operators" (.bool false)
    requestTimeout := requestTimeout
    databaseUrl := option options "database_url" .null
    cache := cache
    batch := batch
    audit := audit
    logging := logging }

/-- The members of a value that can be read as a pair: a sequence, the characters of a text or the
keys of a dictionary. -/
def members? : Value → Option (List Value)
  | .list items | .tuple items | .set items => some items
  | .text s => some (s.toList.map fun c => .text (String.singleton c))
  | .dict entries => some (entries.map (·.1))
  | _ => none

/-- Whether a value can be a key. -/
def canBeKey : Value → Bool
  | .list _ | .set _ | .dict _ => false
  | _ => true

/-- Write an entry: an equal text key keeps its place and loses its value. -/
def setPair (key value : Value) : List (Value × Value) → List (Value × Value)
  | [] => [(key, value)]
  | (k, v) :: rest =>
    match k, key with
    | .text a, .text b =>
      if a == b then (k, value) :: rest else (k, v) :: setPair key value rest
    | _, _ => (k, v) :: setPair key value rest

/-- The entries of a list of pairs, after the ones read already. -/
def pairEntries (index : Nat) (seen : List (Value × Value)) :
    List Value → Except Fault (List (Value × Value))
  | [] => .ok seen
  | item :: rest =>
    match members? item with
    | none => .error (.badKind "an entry is no sequence")
    | some [key, value] =>
      if canBeKey key then pairEntries (index + 1) (setPair key value seen) rest
      else .error (.badKind "a key of this kind cannot be kept")
    | some members =>
      .error (.badValue (s!"dictionary update sequence element #{index} has length " ++
        s!"{members.length}; 2 is required"))

/-- Build a configuration from a dictionary or a list of pairs; an empty value is an empty
dictionary. -/
def ofValue (data : Value) : Except Fault Settings :=
  if data.isEmpty then ofEntries []
  else match data with
    | .dict entries => ofEntries entries
    | v =>
      match members? v with
      | some members => do ofEntries (← pairEntries 0 [] members)
      | none => .error (.badKind "the configuration is no dictionary")

end Settings

end Clearance
