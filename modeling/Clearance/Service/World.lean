/-
# The world of an authorizer

Everything that the questions of a process are answered from: a store, two clocks, and, where the
settings ask for them, a cache, an audit and a log of security events. What is said on the way is
collected in a trace.
-/

import Clearance.Process.Run
import Clearance.Security.Logger

namespace Clearance

/-- The world of an authorizer over a store. -/
structure World (σ : Type) where
  store : σ
  now : Time.Moment
  /-- The clock of the cache, in seconds. -/
  seconds : Float
  cache : Option AttributeCache := none
  audit : Option (Dispatcher Record) := none
  logger : Option SecurityLogger := none
  /-- What the log fails with on every decision, if it does. -/
  loggerFault : Option String := none
  /-- What the log fails with on every rejected policy, if it does. -/
  violationFault : Option String := none
  events : List (LogLevel × String) := []
  trace : List TraceEntry := []
  /-- The time that is left until a deadline, if there is one. -/
  remaining : Option Float := none
  /-- The longest time that was spent on waiting since the deadline was last looked at. -/
  waited : Float := 0.0
  /-- Whether nobody waits for answers: a call that has none at once is left without one. -/
  isHasty : Bool := false

namespace World

variable {σ : Type}

/-- Leave entries in the trace. -/
def note (w : World σ) (entries : List TraceEntry) : World σ := { w with trace := w.trace ++ entries }

/-- Write an event to the log, if there is one. -/
def report (w : World σ) (e : SecurityEvent) : World σ :=
  match w.logger with
  | none => w
  | some logger => { w with events := w.events ++ logger.lines rootThreshold e }

/-- Let the worker of the audit get to work. -/
def serve (store : Store σ) (w : World σ) : World σ :=
  match w.audit with
  | none => w
  | some audit =>
    let (audit, state, entries) := audit.work store.write w.store
    { w with audit := some audit, store := state }.note entries

/-- Call the store. While the caller waits for an answer, the worker of the audit gets to work. -/
def call (store : Store σ) (c : StoreCall) (w : World σ) : Reply c.Answer × World σ :=
  let isSlow := store.isSlow c w.store
  let (reply, entries, state) := store.ask c w.store
  let w := { w with store := state }.note entries
  if isSlow then (if w.isHasty then .held else reply, w.serve store) else (reply, w)

/-- What a reply tells at once. -/
def outcome {α : Type} : Reply α → Option (Except Fault α)
  | .answered a => some (.ok a)
  | .failed fault => some (.error fault)
  | .held => none

/-- Wait for a held call as long as a limit allows. A deadline that comes first leaves it without an
answer, and so does a caller who does not wait. -/
def expire (store : Store σ) (limit : Span) (c : StoreCall) (w : World σ) : Bool × World σ :=
  if w.isHasty || w.remaining.any (· < limit.toFloat) then (false, w)
  else
    let waited := if w.waited < limit.toFloat then limit.toFloat else w.waited
    (true, { w with store := store.abandon c w.store, waited := waited })

/-- The answers of a world over a store. -/
def handler (store : Store σ) : Handler (World σ)
  | .time, w => (some w.now, w)
  | .lookUp key, w =>
    match w.cache with
    | none => (some none, w)
    | some cache =>
      let (found, cache) := cache.get w.seconds key
      (some found, { w with cache := some cache })
  | .remember key m, w =>
    (some (), { w with cache := w.cache.map fun cache => cache.put w.seconds key m })
  | .ask c, w =>
    let (reply, w) := w.call store c
    (outcome reply, w)
  | .askWithin limit c, w =>
    let (reply, w) := w.call store c
    match outcome reply with
    | some answer => (some (some answer), w)
    | none =>
      let (isOver, w) := w.expire store limit c
      (if isOver then some none else none, w)
  | .note entries, w => (some (), w.note entries)
  | .submit record, w =>
    match w.audit with
    | none => (some (), w)
    | some audit =>
      let (_, audit, entries) := audit.submit record
      (some (), { w with audit := some audit }.note entries)
  | .announce subject facts, w =>
    match w.logger, w.loggerFault with
    | some _, some message => (some (some message), w)
    | _, _ =>
      let base : SecurityEvent := { type := .authorization }
      (some none, w.report (.authorization base subject facts))
  | .reject policy problems, w =>
    match w.logger, w.violationFault with
    | some _, some message => (some (some message), w)
    | _, _ => (some none, w.report (.violation policy (problems.map .text) .high))

/-- Give a question up that is not answered. -/
def drop (store : Store σ) (q : Question) (w : World σ) : World σ :=
  match q with
  | .ask c | .askWithin _ c => { w with store := store.abandon c w.store }
  | _ => w

end World

end Clearance
