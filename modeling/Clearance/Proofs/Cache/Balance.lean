/-
# The books of a cache

The counters of a cache against what was asked of it. Every look-up is a hit or a miss, and one that
finds an expired entry is a miss as well. Entries come in with values that are put under new keys.
Each that came in is still there, was pushed out, had expired when it was looked up, or was dropped by
an invalidation or a clearing; a value that replaces another one counts on neither side.
-/

import Mathlib.Data.List.Nodup
import Clearance.Proofs.Cache.Bounded
import Clearance.Proofs.Cache.History

namespace Clearance

/-! ## What each operation counts -/

namespace BoundedCache

variable {κ α τ : Type}

/-- Room is made from the front. -/
theorem shed_suffix (limit : Number) (entries : List (κ × CacheEntry α τ)) :
    (shed limit entries).1 <:+ entries := by
  induction entries with
  | nil => exact List.suffix_rfl
  | cons entry rest ih =>
      rw [shed]
      split
      · exact ih.trans (List.suffix_cons entry rest)
      · exact List.suffix_rfl

/-- What is pushed out to make room is counted. -/
theorem length_shed (limit : Number) (entries : List (κ × CacheEntry α τ)) :
    (shed limit entries).1.length + (shed limit entries).2 = entries.length := by
  induction entries with
  | nil => rfl
  | cons entry rest ih =>
      rw [shed]
      split
      · simp only [List.length_cons, ← ih]
        omega
      · rfl

variable [DecidableEq κ]

/-- The keys that a value is put after, and its own. -/
theorem keys_put (c : BoundedCache κ α τ) (limit : Number) (expires : τ) (key : κ) (value : α) :
    (c.put limit expires key value).keys =
      Ordered.keys (shed limit (Ordered.erase key c.entries)).1 ++ [key] := List.map_append

theorem nodup_keys_put {c : BoundedCache κ α τ} (h : c.keys.Nodup) (limit : Number) (expires : τ)
    (key : κ) (value : α) : (c.put limit expires key value).keys.Nodup := by
  have hkept := (shed_suffix limit (Ordered.erase key c.entries)).sublist.map (·.1)
  rw [← Ordered.keys, ← Ordered.keys, Ordered.keys_erase] at hkept
  have hkey : key ∉ Ordered.keys (shed limit (Ordered.erase key c.entries)).1 := by
    intro hmem
    simpa using (List.mem_filter.mp (hkept.subset hmem)).2
  rw [keys_put, ← List.concat_eq_append]
  exact ((h.filter _).sublist hkept).concat hkey

/-- A value comes in under a new key, or takes the place of another one; what makes way for it is
counted as pushed out. -/
theorem size_put {c : BoundedCache κ α τ} (h : c.keys.Nodup) (limit : Number) (expires : τ) (key : κ)
    (value : α) :
    (c.put limit expires key value).size + (c.put limit expires key value).counters.evictions =
      c.size + c.counters.evictions + (!c.has key).toNat := by
  have herase := Ordered.length_erase key h
  have hshed := length_shed limit (Ordered.erase key c.entries)
  have hhas : (c.has key).toNat + (!c.has key).toNat = 1 := by cases c.has key <;> rfl
  simp only [put, size, has, List.length_append, List.length_singleton] at hhas ⊢
  omega

section Get

variable [LE τ] [DecidableLE τ]

/-- A look-up fails although the key has an entry. -/
def findsExpired (c : BoundedCache κ α τ) (now : τ) (key : κ) : Bool :=
  (c.get now key).1.isNone && c.has key

/-- A look-up is counted as a hit or as a miss, and as an expiration beside if it finds an entry
expired. -/
theorem counters_get (c : BoundedCache κ α τ) (now : τ) (key : κ) :
    (c.get now key).2.counters = { c.counters with
      hits := c.counters.hits + (c.get now key).1.isSome.toNat
      misses := c.counters.misses + (c.get now key).1.isNone.toNat
      expirations := c.counters.expirations + (c.findsExpired now key).toNat } := by
  simp only [findsExpired, get, has, Ordered.has]
  cases Ordered.get? key c.entries with
  | none => rfl
  | some e =>
      dsimp only
      split <;> rfl

/-- A look-up takes away what it finds expired. -/
theorem size_get {c : BoundedCache κ α τ} (h : c.keys.Nodup) (now : τ) (key : κ) :
    (c.get now key).2.size + (c.findsExpired now key).toNat = c.size := by
  have herase := Ordered.length_erase key h
  simp only [findsExpired, get, has, Ordered.has, size] at herase ⊢
  cases hentry : Ordered.get? key c.entries with
  | none => rfl
  | some e =>
      rw [hentry] at herase
      dsimp only
      split <;> simpa using herase

theorem nodup_keys_get {c : BoundedCache κ α τ} (h : c.keys.Nodup) (now : τ) (key : κ) :
    (c.get now key).2.keys.Nodup := by
  have hother : (Ordered.keys (Ordered.erase key c.entries)).Nodup := Ordered.nodup_keys_erase h
  rw [get]
  cases Ordered.get? key c.entries with
  | none => exact h
  | some e =>
      dsimp only
      split
      · exact hother
      · have hkey : key ∉ Ordered.keys (Ordered.erase key c.entries) := by
          simp [Ordered.keys_erase]
        rw [keys, Ordered.keys, List.map_append, List.map_singleton, ← List.concat_eq_append]
        exact hother.concat hkey

end Get

omit [DecidableEq κ] in
theorem nodup_keys_invalidate {c : BoundedCache κ α τ} (h : c.keys.Nodup) (chosen : κ → Bool) :
    (c.invalidate chosen).2.keys.Nodup := h.sublist (List.filter_sublist.map _)

end BoundedCache

/-! ## What a run of calls is counted as -/

namespace AttributeCache

namespace Call

/-- Whether a call is a look-up. -/
def isLookUp : Call → Bool
  | get .. => true
  | _ => false

/-- One for a look-up that finds a map. -/
def hits (c : AttributeCache) : Call → Nat
  | get now subject resource action => (c.get now (.of subject resource action)).1.isSome.toNat
  | _ => 0

/-- One for a look-up that finds none. -/
def misses (c : AttributeCache) : Call → Nat
  | get now subject resource action => (c.get now (.of subject resource action)).1.isNone.toNat
  | _ => 0

/-- One for a look-up that finds none although there is a map under its key. -/
def expirations (c : AttributeCache) : Call → Nat
  | get now subject resource action =>
    ((c.get now (.of subject resource action)).1.isNone &&
      c.has (.of subject resource action)).toNat
  | _ => 0

/-- One for a map that is put under a key which has none. -/
def newKeys (c : AttributeCache) : Call → Nat
  | put _ subject resource action _ => (!c.has (.of subject resource action)).toNat
  | _ => 0

/-- The count that an invalidation returns. -/
def invalidated (c : AttributeCache) : Call → Nat
  | invalidate subject resource => (c.invalidate subject resource).1
  | _ => 0

/-- The number of maps that a clearing drops. -/
def cleared (c : AttributeCache) : Call → Nat
  | clear => c.maps.size
  | _ => 0

/-- The distinct keys of a cache stay distinct. -/
theorem nodup_keys_perform {c : AttributeCache} (h : c.maps.keys.Nodup) (call : Call) :
    (call.perform c).maps.keys.Nodup := by
  cases call with
  | get now subject resource action => exact BoundedCache.nodup_keys_get h now _
  | put now subject resource action m => exact BoundedCache.nodup_keys_put h c.maxSize _ _ m
  | invalidate subject resource => exact BoundedCache.nodup_keys_invalidate h _
  | clear => exact List.nodup_nil

end Call

/-- What a measure of calls comes to in a run: each call is measured on the cache that it finds. -/
def total (measure : AttributeCache → Call → Nat) : AttributeCache → List Call → Nat
  | _, [] => 0
  | c, call :: calls => measure c call + total measure (call.perform c) calls

/-- The books of a run of calls: what its counters have grown by, and that as many maps are
accounted for after it as were before or came in. -/
structure IsBooked (c : AttributeCache) (calls : List Call) (c' : AttributeCache) : Prop where
  hits : c'.maps.counters.hits = c.maps.counters.hits + total Call.hits c calls
  misses : c'.maps.counters.misses = c.maps.counters.misses + total Call.misses c calls
  expirations :
    c'.maps.counters.expirations = c.maps.counters.expirations + total Call.expirations c calls
  maps : c.maps.size + c.maps.counters.evictions + c.maps.counters.expirations +
      total Call.newKeys c calls =
    c'.maps.size + c'.maps.counters.evictions + c'.maps.counters.expirations +
      total Call.invalidated c calls + total Call.cleared c calls

namespace IsBooked

/-- Every call is booked. -/
theorem perform {c : AttributeCache} (h : c.maps.keys.Nodup) (call : Call) :
    IsBooked c [call] (call.perform c) := by
  cases call with
  | get now subject resource action =>
      have hcounters := c.maps.counters_get now (.of subject resource action)
      have hsize := BoundedCache.size_get h now (.of subject resource action)
      constructor <;>
        simp only [Call.perform, get, hcounters, total, Call.hits, Call.misses, Call.expirations,
          Call.newKeys, Call.invalidated, Call.cleared, has] <;>
        simp only [BoundedCache.findsExpired] at hsize ⊢ <;>
        omega
  | put now subject resource action m =>
      have hsize := BoundedCache.size_put h c.maxSize (now + c.lifetime.toFloat)
        (.of subject resource action) m
      refine ⟨rfl, rfl, rfl, ?_⟩
      have hexpirations : ((Call.put now subject resource action m).perform
        c).maps.counters.expirations = c.maps.counters.expirations := rfl
      simp only [Call.perform, put, total, Call.newKeys, Call.invalidated, Call.cleared, has]
        at hexpirations ⊢
      omega
  | invalidate subject resource =>
      have hsize := c.maps.fst_invalidate_add_size (CacheKey.isCovered subject resource)
      refine ⟨rfl, rfl, rfl, ?_⟩
      have hcounters : ((Call.invalidate subject resource).perform c).maps.counters =
        c.maps.counters := rfl
      simp only [Call.perform, invalidate, total, Call.newKeys, Call.invalidated, Call.cleared]
        at hcounters ⊢
      rw [hcounters]
      omega
  | clear =>
      refine ⟨rfl, rfl, rfl, ?_⟩
      simp only [Call.perform, clear, BoundedCache.clear, total, Call.newKeys, Call.invalidated,
        Call.cleared, BoundedCache.size, List.length_nil]
      omega

/-- A call that is booked comes before calls that are. -/
theorem cons {c c' : AttributeCache} {call : Call} {calls : List Call}
    (hcall : IsBooked c [call] (call.perform c)) (hcalls : IsBooked (call.perform c) calls c') :
    IsBooked c (call :: calls) c' := by
  obtain ⟨hhits, hmisses, hexpirations, hmaps⟩ := hcall
  obtain ⟨hhits', hmisses', hexpirations', hmaps'⟩ := hcalls
  simp only [total] at hhits hmisses hexpirations hmaps
  constructor <;> simp only [total] <;> omega

/-- Every run is booked. -/
theorem run {c : AttributeCache} (h : c.maps.keys.Nodup) (calls : List Call) :
    IsBooked c calls (calls.foldl Call.perform c) := by
  induction calls generalizing c with
  | nil => exact ⟨rfl, rfl, rfl, rfl⟩
  | cons call calls ih => exact cons (perform h call) (ih (call.nodup_keys_perform h))

end IsBooked

/-- Every look-up is a hit or a miss. -/
theorem total_hits_add_misses (c : AttributeCache) (calls : List Call) :
    total Call.hits c calls + total Call.misses c calls = calls.countP Call.isLookUp := by
  induction calls generalizing c with
  | nil => rfl
  | cons call calls ih =>
      have hcall : call.hits c + call.misses c = if call.isLookUp then 1 else 0 := by
        cases call with
        | get now subject resource action =>
            simp only [Call.hits, Call.misses, Call.isLookUp]
            cases (c.get now (.of subject resource action)).1 <;> rfl
        | put | invalidate | clear => rfl
      rw [List.countP_cons, total, total, ← ih (call.perform c)]
      omega

/-- A measure that is never above another one comes to no more. -/
theorem total_mono {measure measure' : AttributeCache → Call → Nat}
    (h : ∀ c call, measure c call ≤ measure' c call) (c : AttributeCache) (calls : List Call) :
    total measure c calls ≤ total measure' c calls := by
  induction calls generalizing c with
  | nil => exact Nat.le_refl 0
  | cons call calls ih => exact Nat.add_le_add (h c call) (ih (call.perform c))

theorem Call.expirations_le_misses (c : AttributeCache) (call : Call) :
    call.expirations c ≤ call.misses c := by
  cases call with
  | get now subject resource action =>
      rw [expirations, misses]
      cases (c.get now (.of subject resource action)).1 <;> simp [Bool.toNat_le]
  | put | invalidate | clear => exact Nat.le_refl 0

/-- **The counters balance.** A new cache of any limits that was called in any way has counted each
look-up once, as a hit if it found a map and as a miss otherwise; an expiration for each look-up that
missed although there was a map, so that each of these is a miss too; and so many maps have come in
under new keys as are there, were pushed out, have expired, or were dropped by invalidations, which
told how many, and by clearings. -/
theorem counters_balance (size : Number) (lifetime : Span) (calls : List Call) :
    let start : AttributeCache := { maxSize := size, lifetime := lifetime }
    let maps := (calls.foldl Call.perform start).maps
    maps.counters.hits + maps.counters.misses = calls.countP Call.isLookUp ∧
      maps.counters.hits = total Call.hits start calls ∧
      maps.counters.misses = total Call.misses start calls ∧
      maps.counters.expirations = total Call.expirations start calls ∧
      maps.counters.expirations ≤ maps.counters.misses ∧
      total Call.newKeys start calls =
        maps.size + maps.counters.evictions + maps.counters.expirations +
          total Call.invalidated start calls + total Call.cleared start calls := by
  intro start maps
  obtain ⟨hhits, hmisses, hexpirations, hmaps⟩ :=
    IsBooked.run (c := start) List.nodup_nil calls
  have hlookUps := total_hits_add_misses start calls
  have hless := total_mono Call.expirations_le_misses start calls
  have hnew : start.maps.size = 0 ∧ start.maps.counters = {} := ⟨rfl, rfl⟩
  simp only [hnew, Nat.zero_add] at hhits hmisses hexpirations hmaps
  refine ⟨?_, hhits, hmisses, hexpirations, ?_, hmaps⟩
  · rw [hhits, hmisses, hlookUps]
  · rw [hexpirations, hmisses]
    exact hless

end AttributeCache

end Clearance
