/-
# Bounded caches

A cache of a limited number of entries, each with a time at which it expires. The entries stand in
the order of their last use, the least recent first; a look-up that succeeds is a use and does not
prolong an entry's life. An expired entry is dropped by the look-up that finds it. The counters say
what happened to every look-up and to every entry that was pushed out or expired.
-/

import Clearance.Ordered
import Clearance.Settings.Number

namespace Clearance

/-- A value with the time from which it is expired. -/
structure CacheEntry (α τ : Type) where
  value : α
  expires : τ

/-- What a cache has counted. -/
structure CacheCounters where
  hits : Nat := 0
  misses : Nat := 0
  evictions : Nat := 0
  expirations : Nat := 0
deriving DecidableEq

/-- A cache of values by key, the least recently used first. -/
structure BoundedCache (κ α τ : Type) where
  entries : List (κ × CacheEntry α τ) := []
  counters : CacheCounters := {}

namespace BoundedCache

variable {κ α τ : Type} [DecidableEq κ]

/-- The number of entries, expired ones among them. -/
def size (c : BoundedCache κ α τ) : Nat := c.entries.length

/-- Look a key up at a time. -/
def get [LE τ] [DecidableLE τ] (c : BoundedCache κ α τ) (now : τ) (key : κ) :
    Option α × BoundedCache κ α τ :=
  match Ordered.get? key c.entries with
  | none => (none, { c with counters := { c.counters with misses := c.counters.misses + 1 } })
  | some entry =>
    if entry.expires ≤ now then
      (none, {
        entries := Ordered.erase key c.entries
        counters := { c.counters with
          misses := c.counters.misses + 1
          expirations := c.counters.expirations + 1 } })
    else
      (some entry.value, {
        entries := Ordered.erase key c.entries ++ [(key, entry)]
        counters := { c.counters with hits := c.counters.hits + 1 } })

/-- Drop entries from the front as long as a limit is reached, and count them. -/
def shed (limit : Number) : List (κ × CacheEntry α τ) → List (κ × CacheEntry α τ) × Nat
  | [] => ([], 0)
  | entry :: rest =>
    if limit.isReachedBy (rest.length + 1) then
      let (kept, dropped) := shed limit rest
      (kept, dropped + 1)
    else (entry :: rest, 0)

/-- Store a value that expires at a time. An entry of the same key makes way without being counted;
then least recently used entries do, until there is room. -/
def put (c : BoundedCache κ α τ) (limit : Number) (expires : τ) (key : κ) (value : α) :
    BoundedCache κ α τ :=
  let (kept, dropped) := shed limit (Ordered.erase key c.entries)
  { entries := kept ++ [(key, ⟨value, expires⟩)]
    counters := { c.counters with evictions := c.counters.evictions + dropped } }

/-- Drop the entries whose keys a test chooses, and tell how many there were. -/
def invalidate (c : BoundedCache κ α τ) (chosen : κ → Bool) : Nat × BoundedCache κ α τ :=
  let kept := c.entries.filter fun entry => !chosen entry.1
  (c.entries.length - kept.length, { c with entries := kept })

/-- Drop all entries. -/
def clear (c : BoundedCache κ α τ) : BoundedCache κ α τ := { c with entries := [] }

/-- Whether a key has an entry, expired or not. -/
def has (c : BoundedCache κ α τ) (key : κ) : Bool := Ordered.has key c.entries

end BoundedCache

end Clearance
