/-
# The attribute cache

Gathered attribute maps by subject, resource and action, on a clock that counts seconds. A request
without a resource has a key of its own. Maps are values: changing one that was given to the cache or
came out of it changes nothing inside.
-/

import Clearance.Attribute.Basic
import Clearance.Cache.Bounded
import Clearance.Settings.Basic

namespace Clearance

/-- What a gathered map is stored under. -/
structure CacheKey where
  subject : String
  resource : String
  action : String
deriving DecidableEq

/-- What stands for the resource of a request without one. -/
def noResource : String := "__no_resource__"

/-- The key of a request; an empty resource counts as none. -/
def CacheKey.of (subject : String) (resource : Option String) (action : String) : CacheKey where
  subject := subject
  resource := match resource with
    | some r => if r.isEmpty then noResource else r
    | none => noResource
  action := action

/-- Whether an invalidation for a subject, a resource or both covers a key. Without either, it covers
every key. -/
def CacheKey.isCovered (subject resource : Option String) (key : CacheKey) : Bool :=
  subject.all (key.subject == ·) && resource.all (key.resource == ·)

/-- Attribute maps that have been gathered. -/
structure AttributeCache where
  maxSize : Number
  lifetime : Span
  maps : BoundedCache CacheKey AttributeMap Float := {}

namespace AttributeCache

/-- A cache with given limits. A lifetime that is no span of time is refused here, and not when a map is
to be stored. -/
def create (maxSize lifetime : Value) : Except Fault AttributeCache := do
  let size ← Number.ofValue maxSize
  Settings.reject (size.isBelow 1) "cache max_size must be at least 1" "cache.max_size"
  let life ← Number.ofValue lifetime
  Settings.reject (life.isAtMost 0) "cache ttl_seconds must be positive" "cache.ttl_seconds"
  return { maxSize := size, lifetime := ← Span.of life }

/-- Look a map up at a time. -/
def get (c : AttributeCache) (now : Float) (key : CacheKey) : Option AttributeMap × AttributeCache :=
  let (found, maps) := c.maps.get now key
  (found, { c with maps := maps })

/-- Store a map at a time. -/
def put (c : AttributeCache) (now : Float) (key : CacheKey) (m : AttributeMap) : AttributeCache :=
  { c with maps := c.maps.put c.maxSize (now + c.lifetime.toFloat) key m }

/-- Drop what was gathered for a subject, a resource or both, and tell how much it was. -/
def invalidate (c : AttributeCache) (subject resource : Option String) : Nat × AttributeCache :=
  let (count, maps) := c.maps.invalidate (CacheKey.isCovered subject resource)
  (count, { c with maps := maps })

/-- Drop everything. -/
def clear (c : AttributeCache) : AttributeCache := { c with maps := c.maps.clear }

/-- Whether there is a map under a key, expired or not. -/
def has (c : AttributeCache) (key : CacheKey) : Bool := c.maps.has key

/-- The part of the look-ups that succeeded. -/
def hitRate (c : AttributeCache) : Float :=
  let k := c.maps.counters
  if k.hits + k.misses == 0 then 0.0 else Decimal.ofRatio false k.hits (k.hits + k.misses)

/-- The limits and counters of a cache. -/
def stats (c : AttributeCache) : List (String × Value) :=
  let k := c.maps.counters
  [("size", .int c.maps.size), ("max_size", c.maxSize.toValue),
    ("ttl_seconds", c.lifetime.given.toValue), ("hits", .int k.hits), ("misses", .int k.misses),
    ("evictions", .int k.evictions), ("expirations", .int k.expirations),
    ("hit_rate", .float c.hitRate)]

end AttributeCache

end Clearance
