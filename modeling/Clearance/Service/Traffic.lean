/-
# Traffic

Requests for attributes that overlap. A request that was begun waits at each of its questions until it
is its turn again. In between other requests have theirs answered, cached maps are dropped, the store
changes and the clocks go on. A request that is never given a turn again stays under way.
-/

import Clearance.Service.Basic

namespace Clearance

namespace Gathering

/-- A request for attributes. -/
structure Inquiry where
  subject : String
  action : String
  resource : Option String := none
  resourceType : Option String := none
  context : List (String × Value) := []

/-- The key of a request in the cache. -/
def Inquiry.key (q : Inquiry) : CacheKey := .of q.subject q.resource q.action

/-- All that is to be done for a request. -/
def Inquiry.process (roleOverrides : Bool) (q : Inquiry) : Process (Except Fault AttributeMap) :=
  (gather roleOverrides q.subject q.action q.resource q.resourceType q.context).run

/-- A request with what is left to be done for it. -/
structure Errand where
  inquiry : Inquiry
  rest : Process (Except Fault AttributeMap)

end Gathering

/-- A world with the requests that were begun in it, in the order of their beginnings. -/
structure Traffic (σ : Type) where
  world : World σ
  errands : List Gathering.Errand := []

/-- What can happen in traffic. -/
inductive Happening (σ : Type) where
  | begin (inquiry : Gathering.Inquiry)
  /-- It is the turn of the request of a number. -/
  | proceed (turn : Nat)
  | invalidate (subject resource : Option String)
  | change (f : σ → σ)
  /-- Time passes, on the clock of the requests and on the one of the cache. -/
  | pass (now : Time.Moment) (seconds : Float)

namespace Traffic

variable {σ : Type} (service : Service σ) (t : Traffic σ)

/-- Let a request have its next question answered. -/
def proceed (turn : Nat) : Traffic σ :=
  match t.errands[turn]? with
  | none => t
  | some errand =>
    let (rest, world) := errand.rest.step (World.handler service.store) t.world
    { world := world, errands := t.errands.set turn { errand with rest := rest } }

/-- The traffic after something has happened. -/
def after : Happening σ → Traffic σ
  | .begin inquiry =>
    { t with errands := t.errands ++
      [⟨inquiry, inquiry.process service.settings.doesRoleOverride⟩] }
  | .proceed turn => t.proceed service turn
  | .invalidate subject resource =>
    { t with world := (Service.invalidate subject resource t.world).2 }
  | .change f => { t with world := { t.world with store := f t.world.store } }
  | .pass now seconds => { t with world := { t.world with now := now, seconds := seconds } }

/-- The traffic after some things have happened, one after the other. -/
def run (happenings : List (Happening σ)) : Traffic σ := happenings.foldl (after service) t

end Traffic

end Clearance
