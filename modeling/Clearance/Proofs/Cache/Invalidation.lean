/-
# What an invalidation covers

An invalidation names a subject, a resource or both, and compares these texts with the keys in the
cache as they are. A look-up makes its key first, where a request without a resource gets a resource
that stands for none. So the two agree on which requests an invalidation concerns as long as its
resource is compared in the form in which requests are kept; only the empty text has a form of its
own that no key can have.
-/

import Clearance.Cache.Attributes
import Clearance.Proofs.Cache.Bounded

namespace Clearance

/-! ## Which requests are concerned -/

/-- Whether a key is that of a request for a given subject and a given resource. Either may be left
open; resources are the same if requests for them are kept under the same one. -/
structure CacheKey.Concerns (subject resource : Option String) (key : CacheKey) : Prop where
  subject_eq : ∀ s ∈ subject, key.subject = s
  resource_eq : ∀ r ∈ resource, key.resource = (CacheKey.of key.subject (some r) key.action).resource

namespace CacheKey

variable {subject resource : Option String} {s a r : String} {r' : Option String}

/-- A resource with a name is kept under its name. -/
theorem resource_of_some (h : r ≠ "") : (CacheKey.of s (some r) a).resource = r :=
  if_neg (by simpa using h)

/-- No request is kept under the empty resource. -/
theorem resource_of_ne_empty : (CacheKey.of s r' a).resource ≠ "" := by
  have hnone : noResource ≠ "" := by decide
  cases r' with
  | none => exact hnone
  | some r =>
      by_cases hr : r = ""
      · subst hr
        exact hnone
      · rwa [resource_of_some hr]

theorem isCovered_iff {key : CacheKey} :
    key.isCovered subject resource ↔
      (∀ s ∈ subject, key.subject = s) ∧ ∀ r ∈ resource, key.resource = r := by
  cases subject <;> cases resource <;> simp [isCovered]

/-- What an invalidation covers, of the keys of requests, concerns what it names. -/
theorem Concerns.of_isCovered (h : (CacheKey.of s r' a).isCovered subject resource) :
    (CacheKey.of s r' a).Concerns subject resource := by
  obtain ⟨hsubject, hresource⟩ := isCovered_iff.mp h
  constructor
  · exact hsubject
  · intro r hr
    have hname := hresource r hr
    rw [resource_of_some, hname]
    exact fun hempty => resource_of_ne_empty (hname.trans hempty)

/-- An invalidation that does not name the empty resource covers all that it concerns. -/
theorem Concerns.isCovered {key : CacheKey} (h : key.Concerns subject resource)
    (hresource : resource ≠ some "") : key.isCovered subject resource := by
  apply isCovered_iff.mpr
  constructor
  · exact h.subject_eq
  · intro r hr
    have hname : r ≠ "" := fun hempty => hresource (hempty ▸ hr)
    rw [h.resource_eq r hr, resource_of_some hname]

end CacheKey

/-! ## Looking up after an invalidation -/

namespace AttributeCache

/-- An invalidation tells how many maps went. After it, a look-up for what it concerns fails, unless
it was for the empty resource; any other look-up finds what it would have found, counts as it would
have counted, and leaves of the cache what the invalidation leaves of it. -/
theorem invalidate_covers (c : AttributeCache) (subject resource : Option String) :
    (c.invalidate subject resource).1 + (c.invalidate subject resource).2.maps.size =
        c.maps.size ∧
      ∀ (now : Float) (s : String) (r : Option String) (a : String),
        ((CacheKey.of s r a).Concerns subject resource → resource ≠ some "" →
          ((c.invalidate subject resource).2.get now (.of s r a)).1 = none) ∧
        (¬(CacheKey.of s r a).Concerns subject resource →
          (c.invalidate subject resource).2.get now (.of s r a) =
            ((c.get now (.of s r a)).1,
              ((c.get now (.of s r a)).2.invalidate subject resource).2)) := by
  constructor
  · apply BoundedCache.fst_invalidate_add_size
  · intro now s r a
    constructor
    · intro hconcerns hresource
      apply BoundedCache.get_invalidate_of_chosen
      exact hconcerns.isCovered hresource
    · intro hother
      have hget := BoundedCache.get_invalidate_of_not_chosen c.maps now
        (mt CacheKey.Concerns.of_isCovered hother)
      rw [get, invalidate, hget]
      rfl

/-- A cache with the map of one request, which has no resource. -/
def placelessCache : AttributeCache :=
  put { maxSize := .int 10, lifetime := .seconds 60 } 1000.0 (.of "ann" none "read") {}

theorem placelessCache_invalidate_covers :
    ((CacheKey.of "ann" none "read").Concerns (some "ann") none ∧
        (none : Option String) ≠ some "" ∧
        ((placelessCache.invalidate (some "ann") none).2.get 1000.0 (.of "ann" none "read")).1 =
          none) ∧
      ¬(CacheKey.of "ann" none "read").Concerns none (some "doc") ∧
        ((placelessCache.invalidate none (some "doc")).2.get 1000.0 (.of "ann" none "read")).1 =
          some {} := by
  have hconcerns : (CacheKey.of "ann" none "read").Concerns (some "ann") none :=
    ⟨by decide, by decide⟩
  have hother : ¬(CacheKey.of "ann" none "read").Concerns none (some "doc") :=
    fun h => absurd (h.resource_eq "doc" rfl) (by decide)
  refine ⟨⟨hconcerns, by decide, ?_⟩, hother, ?_⟩
  · apply ((invalidate_covers placelessCache (some "ann") none).2 1000.0 "ann" none "read").1
    · exact hconcerns
    · decide
  · rw [((invalidate_covers placelessCache none (some "doc")).2 1000.0 "ann" none "read").2 hother]
    decide +kernel

/-- The map of a request without a resource goes with those of the resource that stands for none, and
stays when the maps of the empty resource are to go, for which it would be found. -/
theorem placelessCache_clashes :
    (placelessCache.get 1000.0 (.of "ann" none "read")).1 = some {} ∧
      ((placelessCache.invalidate none (some "__no_resource__")).2.get 1000.0
        (.of "ann" none "read")).1 = none ∧
      ((placelessCache.invalidate none (some "")).2.get 1000.0 (.of "ann" (some "") "read")).1 =
        some {} := by
  decide +kernel

end AttributeCache

end Clearance
