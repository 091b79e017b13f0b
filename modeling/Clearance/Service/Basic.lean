/-
# The service

An authorizer over a store, ready for use. A plain request never waits, so nothing else happens
meanwhile; a request with a time limit and a batch do, and the audit goes on while they wait.
-/

import Clearance.Authorization.Batch
import Clearance.Service.World

namespace Clearance

/-- An authorizer: its settings and the store that it asks. -/
structure Service (σ : Type) where
  settings : Settings
  store : Store σ

namespace Service

variable {σ : Type}

/-- The world that a service starts from. There is an audit if it is wanted and the settings do not
forbid it. -/
def begin (settings : Settings) (htimed : settings.isTimed = true) (state : σ) (now : Time.Moment)
    (seconds : Float) (hasAudit : Bool) : World σ where
  store := state
  now := now
  seconds := seconds
  cache :=
    if settings.cache.enabled.isEmpty then none
    else some {
      maxSize := settings.cache.maxSize
      lifetime := ⟨settings.cache.lifetime, (Bool.and_eq_true_iff.mp htimed).1⟩ }
  audit :=
    if !hasAudit || settings.audit.enabled.isEmpty then none
    else some {
      capacity := settings.audit.queueSize
      shutdownTimeout := ⟨settings.audit.shutdownTimeout, (Bool.and_eq_true_iff.mp htimed).2⟩ }
  logger :=
    if settings.logging.enabled.isEmpty then none
    else some ⟨settings.logging.level.rank, settings.logging.format⟩

/-- Run a process; there is no result if it waits for an answer that does not come. -/
def run {α : Type} (s : Service σ) (p : Process α) (w : World σ) : Option α × World σ :=
  let (p, w) := p.run (World.handler s.store) w
  (p.result?, (p.question?.map fun q => w.drop s.store q).getD w)

/-- Run an attempt; the result is missing as for a process. -/
def attempt {α : Type} (s : Service σ) (a : Attempt α) (w : World σ) :
    Option (Except Fault α) × World σ :=
  s.run a.run w

/-- Answer a request. -/
def authorize (s : Service σ) (r : Request) (limit : Option Number) (w : World σ) :
    Option Result × World σ :=
  let served (w : World σ) : World σ :=
    if (Authorization.limitOf s.settings limit).isSome then w.serve s.store else w
  let (result, w) := s.run (Clearance.authorize s.settings r limit) (served w)
  (result, served w)

/-- Begin to answer a request, and call it off when it would have to wait. -/
def callOff (s : Service σ) (r : Request) (limit : Option Number) (w : World σ) :
    Option Result × World σ :=
  let w := { w.serve s.store with isHasty := true }
  let (result, w) := s.run (Clearance.authorize s.settings r limit) w
  (result, { w.serve s.store with isHasty := false })

/-- Time passes that was spent on waiting, and some more. -/
def elapse (more : Float) (w : World σ) : World σ :=
  { w with remaining := w.remaining.map (· - (w.waited + more)), waited := 0.0 }

/-- What goes on around a batch of a service. A pause that is no span of time is none. -/
def pace (s : Service σ) (hasDeadline : Bool) : Pace (World σ) where
  hasDeadline := hasDeadline
  isOver := fun w => w.remaining.any (· ≤ 0.0)
  runOut := fun w => { w with remaining := some 0.0 }
  meanwhile := fun w => elapse 0.0 (w.serve s.store)
  pause := elapse (((Span.of s.settings.batch.pause).toOption.map Span.toFloat).getD 0.0)
  drop := fun q w => w.drop s.store q

/-- The width of a batch. A real number is no width. -/
def width (n : Number) : Except Fault Nat :=
  match n with
  | .int n => .ok n.toNat
  | .bool b => .ok (if b then 1 else 0)
  | .real _ => .error (.badKind "'float' object cannot be interpreted as an integer")

/-- The time for a batch, if it is limited, and its width. -/
def plan (s : Service σ) (limit : Option Number) : Except Fault (Option Span × Nat) := do
  let time ← limit.mapM Span.of
  return (time, ← width s.settings.batch.width)

/-- The resources that a batch gets to, and the fault that it ends in before the others. Between two
chunks is a pause; where that is no span of time, only the first chunk is worked through. -/
def reach (s : Service σ) (width : Nat) (ids : List String) : List String × Option Fault :=
  if ids.length ≤ width then (ids, none)
  else
    match Span.of s.settings.batch.pause with
    | .ok _ => (ids, none)
    | .error fault => (ids.take width, some fault)

/-- What a batch ends in: a fault counts only if the requests before it have results. -/
def ending {α : Type} : Option Fault → Option α → Except Fault (Option α)
  | some fault, some _ => .error fault
  | _, results => .ok results

/-- Answer the requests of a batch, within a time limit if there is one. A batch that is over before it
begins makes no pause. -/
def authorizeMany (s : Service σ) (subject action : Option String) (resources : List String)
    (context : List (String × Value)) (limit : Option Number) (w : World σ) :
    Except Fault (Option (List (String × Result))) × World σ :=
  match s.plan limit with
  | .error fault => (.error fault, w)
  | .ok (time, width) =>
    let w := { w with remaining := time.map Span.toFloat, waited := 0.0 }
    let ids := Ordered.distinct resources
    let pace := s.pace time.isSome
    let (ids, fault) := if pace.isOver w then (ids, none) else s.reach width ids
    let (results, w) := Clearance.authorizeMany (World.handler s.store) pace s.settings width subject
      action ids context w
    (ending fault results, { w with remaining := none, waited := 0.0 })

/-- Begin to answer the requests of a batch, and call it off when it would have to wait; it waits for a
call that has no answer at once, and between two chunks if there is a pause. -/
def callOffMany (s : Service σ) (subject action : Option String) (resources : List String)
    (context : List (String × Value)) (limit : Option Number) (w : World σ) :
    Except Fault (Option (List (String × Result))) × World σ :=
  match s.plan limit with
  | .error fault => (.error fault, w)
  | .ok (time, width) =>
    let isOver := time.any Span.isOver
    let ids := Ordered.distinct resources
    let rests := !isOver && !s.settings.batch.pause.isAtMost 0 && width < ids.length
    let (results, w) := Clearance.authorizeMany (World.handler s.store)
      { s.pace false with isOver := fun _ => isOver } s.settings width subject action
      (if rests then ids.take width else ids) context { w with isHasty := true }
    let fault := if rests then (s.reach width ids).2 else none
    (ending fault (if rests && fault.isNone then none else results), { w with isHasty := false })

/-- Gather the attributes of a request. -/
def gather (s : Service σ) (subject action : String) (resource resourceType : Option String)
    (context : List (String × Value)) (w : World σ) :
    Option (Except Fault AttributeMap) × World σ :=
  s.attempt (Clearance.gather s.settings.doesRoleOverride subject action resource resourceType context)
    w

/-- Load the policies. -/
def load (s : Service σ) (w : World σ) : Option (Except Fault (List Policy)) × World σ :=
  s.attempt (Clearance.load s.settings.doesValidate) w

/-- Drop what is cached for a subject, a resource or both, and tell how much it was. -/
def invalidate (subject resource : Option String) (w : World σ) : Nat × World σ :=
  match w.cache with
  | none => (0, w)
  | some cache =>
    let (count, cache) := cache.invalidate subject resource
    (count, { w with cache := some cache }.note
      [⟨.authorizer, .debug, s!"Invalidated {count} cached attribute maps"⟩])

/-- The limits and counters of the cache, if there is one. -/
def cacheStats (w : World σ) : Value :=
  .ofFields <| match w.cache with
    | none => [("enabled", .bool false)]
    | some cache => cache.stats ++ [("enabled", .bool true)]

/-- Start the audit. -/
def start (w : World σ) : World σ := { w with audit := w.audit.map Dispatcher.start }

/-- Wait until the audit is done, and tell whether there is one to wait for. -/
def flush (s : Service σ) (timeout : Option Span) (w : World σ) : Option Bool × World σ :=
  match w.audit with
  | none => (none, w)
  | some audit =>
    let (drained, audit, state, entries) := audit.flush s.store.write timeout w.store
    (some drained, { w with audit := some audit, store := state }.note entries)

/-- Finish the audit. -/
def close (s : Service σ) (w : World σ) : World σ :=
  match w.audit with
  | none => w
  | some audit =>
    let (audit, state, entries) := audit.close s.store.write w.store
    { w with audit := some audit, store := state }.note entries

end Service

end Clearance
