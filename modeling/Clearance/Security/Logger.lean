/-
# Security logging

A logger writes events in one of two forms and passes on those that reach its level. The level that
an event is written at follows from its severity. Of loggers that are made one after the other in a
process, one is current; all have one name, and share one threshold and the same handlers.

They do not stand alone. What passes reaches also the handlers that the process has for everything that
is logged in it, and if there are no handlers at all, a last resort.
-/

import Clearance.Security.Event
import Clearance.Settings.Basic

namespace Clearance

/-- The level that an event is written at. -/
def Severity.level : Severity → LogLevel
  | .critical => .critical
  | .high => .error
  | .medium => .warning
  | .low => .info

/-- The rank of a level. -/
def LogLevel.rank : LogLevel → Nat
  | debug => 10
  | info => 20
  | warning => 30
  | error => 40
  | critical => 50

/-- The names that a threshold can be given by. -/
def thresholds : List (String × Nat) :=
  [("NOTSET", 0), ("DEBUG", 10), ("INFO", 20), ("WARN", 30), ("WARNING", 30), ("ERROR", 40),
    ("CRITICAL", 50), ("FATAL", 50)]

/-- The threshold of a process in which none was set. -/
def rootThreshold : Nat := 30

/-- The threshold that counts where one stands inside another. Zero is none, and leaves it to the outer
one. -/
def thresholdIn (outer own : Nat) : Nat := if own = 0 then outer else own

/-- How events are written, and from which rank on they are passed on. -/
structure SecurityLogger where
  threshold : Nat := 20
  format : LogFormat := .json
deriving DecidableEq

namespace SecurityLogger

/-- A logger with a threshold in any case and a form. -/
def create (level format : String) : Except Fault SecurityLogger :=
  match thresholds.lookup (Text.upper level) with
  | none => Settings.refuse s!"Invalid log level: {level}" (some "log_level")
  | some threshold =>
    if format == "json" then .ok ⟨threshold, .json⟩
    else if format == "text" then .ok ⟨threshold, .text⟩
    else Settings.refuse s!"Invalid log format: {format}" (some "log_format")

/-- The message that an event is written as. -/
def message (logger : SecurityLogger) (e : SecurityEvent) : String :=
  match logger.format with
  | .json => e.document
  | .text => "Security Event: " ++ e.message

/-- The level and the message of an event, if it reaches the threshold. -/
def lines (logger : SecurityLogger) (outer : Nat) (e : SecurityEvent) : List (LogLevel × String) :=
  let level := e.severity.level
  if thresholdIn outer logger.threshold ≤ level.rank then [(level, logger.message e)] else []

/-- A message as it stands in a file: the text form has a heading. -/
def fileText (logger : SecurityLogger) (name : String) (line : LogLevel × String) : String :=
  match logger.format with
  | .json => line.2
  | .text => s!"<asctime> - {name} - {line.1.name} - {line.2}"

end SecurityLogger

/-- A file that events are to be written to, and why it cannot be opened, if it cannot. -/
structure LogFile where
  path : String
  refusal : Option String := none
deriving DecidableEq

/-- How a logger is to be made. -/
structure LoggerRequest where
  level : String := "INFO"
  format : String := "json"
  file : Option LogFile := none
  console : Bool := true

/-- Where messages are passed on to, a file or the console: from which rank on, and in which form. -/
structure LogHandler where
  file : Option String := none
  threshold : Nat
  format : LogFormat
deriving DecidableEq

/-- What a process has for all that is logged in it: a threshold, handlers, and a last resort for where
there are no handlers, if it has one, with the rank from which on it is told. -/
structure LogProcess where
  threshold : Nat := rootThreshold
  handlers : List LogHandler := []
  lastResort : Option Nat := some rootThreshold

/-- Whom a message reaches: a handler of the logger, one of the process, or the last resort. -/
inductive LogRecipient where
  | own (handler : LogHandler)
  | outer (handler : LogHandler)
  | lastResort
deriving DecidableEq

/-- Whom a message of some rank reaches that passes a logger with these handlers. -/
def LogProcess.recipients (p : LogProcess) (held : List LogHandler) (rank : Nat) :
    List LogRecipient :=
  if held.isEmpty && p.handlers.isEmpty then
    if p.lastResort.any (· ≤ rank) then [.lastResort] else []
  else
    (held.filter (·.threshold ≤ rank)).map .own ++ (p.handlers.filter (·.threshold ≤ rank)).map .outer

/-- The handlers that a logger is to have. -/
def LoggerRequest.handlers (request : LoggerRequest) (logger : SecurityLogger) : List LogHandler :=
  request.file.toList.map (fun file => ⟨some file.path, logger.threshold, logger.format⟩) ++
  if request.console then [⟨none, logger.threshold, logger.format⟩] else []

/-- The logger of a process: the current one with its number, the number of the next one, and what all
of them share, a threshold and the handlers. -/
structure LoggerRegistry where
  current : Option (Nat × SecurityLogger) := none
  next : Nat := 0
  threshold : Nat := 0
  held : List LogHandler := []
deriving DecidableEq

namespace LoggerRegistry

/-- The number of handlers. -/
def handlers (r : LoggerRegistry) : Nat := r.held.length

/-- Make a logger current. A file that cannot be opened is found out only after the handlers that were
there have been taken away and the threshold has been set. -/
def install (r : LoggerRegistry) (request : LoggerRequest) :
    Except Fault (Nat × SecurityLogger) × LoggerRegistry :=
  match SecurityLogger.create request.level request.format with
  | .error fault => (.error fault, r)
  | .ok logger =>
    match request.file.bind LogFile.refusal with
    | some reason =>
      (Settings.refuse ("Failed to setup security log file: " ++ reason) (some "log_file"),
        { r with threshold := logger.threshold, held := [] })
    | none =>
      (.ok (r.next, logger), {
        current := some (r.next, logger)
        next := r.next + 1
        threshold := logger.threshold
        held := request.handlers logger })

/-- Take the handlers of the current logger away, if there is one. -/
def silence (r : LoggerRegistry) : LoggerRegistry :=
  if r.current.isSome then { r with held := [] } else r

/-- The current logger; without one, a standard one is made. -/
def get (r : LoggerRegistry) : Except Fault (Nat × SecurityLogger) × LoggerRegistry :=
  match r.current with
  | some logger => (.ok logger, r)
  | none => r.install {}

/-- Put a new logger in place of the current one. The current one is silenced first, and stays so if
the new one cannot be made. -/
def configure (r : LoggerRegistry) (request : LoggerRequest) :
    Except Fault (Nat × SecurityLogger) × LoggerRegistry :=
  r.silence.install request

/-- Silence the current logger and forget it. -/
def shutdown (r : LoggerRegistry) : LoggerRegistry := { r.silence with current := none }

/-- What becomes of an event that is logged through the current logger: whom it reaches, with its level
and its message. -/
def deliver (r : LoggerRegistry) (p : LogProcess) (e : SecurityEvent) :
    List (LogRecipient × LogLevel × String) :=
  match r.current with
  | none => []
  | some (_, logger) =>
    let level := e.severity.level
    if thresholdIn p.threshold r.threshold ≤ level.rank then
      (p.recipients r.held level.rank).map fun recipient => (recipient, level, logger.message e)
    else []

end LoggerRegistry

end Clearance
