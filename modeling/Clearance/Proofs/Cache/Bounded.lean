/-
# What the operations of a cache leave

Each operation, told by the keys that it leaves and by what is found under them. A cache holds at
most as many entries as its size before a value is put into it, so that making room ends after one
entry.
-/

import Clearance.Cache.Bounded
import Clearance.Proofs.Ordered

namespace Clearance.BoundedCache

variable {κ α τ : Type}

/-- The keys of a cache, the least recently used first. -/
def keys (c : BoundedCache κ α τ) : List κ := Ordered.keys c.entries

@[simp]
theorem length_keys (c : BoundedCache κ α τ) : c.keys.length = c.size := List.length_map _

/-- Room is made from the front, for one entry. -/
theorem shed_eq {size : Nat} (hsize : 1 ≤ size) (entries : List (κ × CacheEntry α τ)) :
    shed (.int size) entries =
      (entries.drop (entries.length + 1 - size), entries.length + 1 - size) := by
  induction entries with
  | nil => simp [shed, Nat.sub_eq_zero_of_le hsize]
  | cons e rest ih =>
      by_cases hfull : size ≤ rest.length + 1
      · have hreached : (Number.int size).isReachedBy (rest.length + 1) = true :=
          decide_eq_true (by exact_mod_cast hfull)
        have hcount : (e :: rest).length + 1 - size = rest.length + 1 - size + 1 := by
          rw [List.length_cons]
          omega
        rw [shed, if_pos hreached, ih, hcount, List.drop_succ_cons]
      · have hreached : (Number.int size).isReachedBy (rest.length + 1) = false :=
          decide_eq_false (by exact_mod_cast hfull)
        have hcount : (e :: rest).length + 1 - size = 0 := by
          rw [List.length_cons]
          omega
        rw [shed, hreached, hcount, List.drop_zero]
        rfl

variable [DecidableEq κ]

/-- The entry under a key, expired or not. -/
def find? (c : BoundedCache κ α τ) (key : κ) : Option (CacheEntry α τ) :=
  Ordered.get? key c.entries

theorem find?_eq_none_iff {c : BoundedCache κ α τ} {key : κ} : c.find? key = none ↔ key ∉ c.keys :=
  Ordered.get?_eq_none_iff

theorem find?_isSome_iff {c : BoundedCache κ α τ} {key : κ} :
    (c.find? key).isSome ↔ key ∈ c.keys := by
  rw [Option.isSome_iff_ne_none, Ne, find?_eq_none_iff, Decidable.not_not]

/-! ## Looking up -/

section Get

variable [LE τ] [DecidableLE τ] {c : BoundedCache κ α τ} {now : τ} {key : κ}
  {entry : CacheEntry α τ}

/-- A look-up finds the value of an entry that has not expired. -/
theorem get_fst (c : BoundedCache κ α τ) (now : τ) (key : κ) :
    (c.get now key).1 = ((c.find? key).filter fun e => ¬e.expires ≤ now).map (·.value) := by
  rw [get, find?]
  cases Ordered.get? key c.entries with
  | none => rfl
  | some e => by_cases he : e.expires ≤ now <;> simp [he, Option.filter]

/-- What is looked up in vain stays away. -/
theorem entries_get_of_absent (h : c.find? key = none) :
    (c.get now key).2.entries = c.entries := by
  rw [find?] at h
  rw [get, h]

/-- What has expired is taken away. -/
theorem entries_get_of_expired (h : c.find? key = some entry) (he : entry.expires ≤ now) :
    (c.get now key).2.entries = Ordered.erase key c.entries := by
  rw [find?] at h
  simp only [get, h, if_pos he]

/-- What is found moves to the end. -/
theorem entries_get_of_live (h : c.find? key = some entry) (he : ¬entry.expires ≤ now) :
    (c.get now key).2.entries = Ordered.erase key c.entries ++ [(key, entry)] := by
  rw [find?] at h
  simp only [get, h, if_neg he]

/-- A look-up takes away what it finds expired, and nothing else. -/
theorem find?_get (c : BoundedCache κ α τ) (now : τ) (key other : κ) :
    (c.get now key).2.find? other =
      if key = other then (c.find? key).filter fun e => ¬e.expires ≤ now else c.find? other := by
  cases h : c.find? key with
  | none =>
      rw [find?, entries_get_of_absent h]
      split
      case isTrue heq => exact heq ▸ h
      case isFalse => rfl
  | some e =>
      by_cases he : e.expires ≤ now
      · rw [find?, entries_get_of_expired h he, Ordered.get?_erase]
        by_cases hkey : key = other
        · simp [hkey, he, Option.filter]
        · simp only [if_neg hkey, find?]
      · rw [find?, entries_get_of_live h he, Ordered.get?_append, Ordered.get?_erase]
        by_cases hkey : key = other
        · simp [hkey, he, Option.filter, Ordered.get?]
        · simp [hkey, find?, Ordered.get?]

end Get

/-! ## Putting -/

variable {c : BoundedCache κ α τ} {size : Nat} {expires : τ} {key : κ} {value : α}

/-- As long as there is room, or the key has an entry already, nothing is pushed out. -/
theorem entries_put_of_room (hsize : 1 ≤ size) (hlength : c.size ≤ size)
    (h : key ∈ c.keys ∨ c.size < size) :
    (c.put (.int size) expires key value).entries =
      Ordered.erase key c.entries ++ [(key, ⟨value, expires⟩)] := by
  have hroom : (Ordered.erase key c.entries).length + 1 ≤ size := by
    rcases h with hkey | hless
    · have hshorter : (Ordered.keys (Ordered.erase key c.entries)).length < c.keys.length := by
        rw [Ordered.keys_erase]
        exact List.length_filter_lt_length_iff_exists.mpr ⟨key, hkey, by simp⟩
      rw [Ordered.keys, List.length_map, length_keys] at hshorter
      omega
    · have hle : (Ordered.erase key c.entries).length ≤ c.size := by
        rw [Ordered.erase_eq_filter]
        exact List.length_filter_le _ _
      omega
  rw [put, shed_eq hsize, Nat.sub_eq_zero_of_le hroom, List.drop_zero]

/-- A full cache gives up its first entry for one of another key. -/
theorem entries_put_of_full (hsize : 1 ≤ size) (hfull : c.size = size) (h : key ∉ c.keys) :
    (c.put (.int size) expires key value).entries =
      c.entries.tail ++ [(key, ⟨value, expires⟩)] := by
  have hkept : Ordered.erase key c.entries = c.entries := by
    rw [Ordered.erase_eq_filter, List.filter_eq_self]
    rintro ⟨k, e⟩ he
    have hne : k ≠ key := fun hk => h (hk ▸ List.mem_map_of_mem he)
    simpa using hne
  have hone : c.entries.length + 1 - size = 1 := by
    rw [BoundedCache.size] at hfull
    omega
  rw [put, hkept, shed_eq hsize, hone, List.drop_one]

/-- Whether or not there is room, an entry is put at the end of some of the others. -/
theorem exists_entries_put (hsize : 1 ≤ size) (c : BoundedCache κ α τ) (expires : τ) (key : κ)
    (value : α) :
    ∃ kept, kept.Sublist (Ordered.erase key c.entries) ∧
      (c.put (.int size) expires key value).entries = kept ++ [(key, ⟨value, expires⟩)] ∧
      kept.length + 1 ≤ size := by
  refine ⟨_, List.drop_sublist _ _, by rw [put, shed_eq hsize], ?_⟩
  rw [List.length_drop]
  omega

/-- What was put is found, under its key. -/
theorem find?_put_self (hsize : 1 ≤ size) :
    (c.put (.int size) expires key value).find? key = some ⟨value, expires⟩ := by
  obtain ⟨kept, hkept, hput, _⟩ := exists_entries_put hsize c expires key value
  have haway : Ordered.get? key kept = none := by
    rw [Ordered.get?_eq_none_iff]
    intro hkey
    have hmem := (hkept.map (·.1)).subset hkey
    rw [← Ordered.keys, Ordered.keys_erase] at hmem
    simp at hmem
  rw [find?, hput, Ordered.get?_append, haway]
  simp [Ordered.get?]

/-- Under another key stands what stood there, or nothing any more. -/
theorem find?_put_of_ne (hsize : 1 ≤ size) (hkeys : c.keys.Nodup) {other : κ} (h : key ≠ other)
    (expires : τ) (value : α) :
    (c.put (.int size) expires key value).find? other = none ∨
      (c.put (.int size) expires key value).find? other = c.find? other := by
  obtain ⟨kept, hkept, hput, _⟩ := exists_entries_put hsize c expires key value
  rw [find?, hput, Ordered.get?_append]
  have hlast : Ordered.get? other [(key, (⟨value, expires⟩ : CacheEntry α τ))] = none := by
    simp [Ordered.get?, h]
  rw [hlast, Option.or_none]
  cases hfound : Ordered.get? other kept with
  | none => exact .inl rfl
  | some e =>
      have hmem := Ordered.mem_of_mem_erase (hkept.subset (Ordered.mem_of_get? hfound))
      exact .inr (Ordered.get?_of_mem hkeys hmem).symm

/-! ## Dropping -/

/-- Nothing is left of what an invalidation chooses, and all of the rest. -/
theorem find?_invalidate (c : BoundedCache κ α τ) (chosen : κ → Bool) (key : κ) :
    (c.invalidate chosen).2.find? key = if chosen key then none else c.find? key := by
  rw [find?, invalidate, Ordered.get?_filter fun k => !chosen k]
  cases chosen key <;> rfl

omit [DecidableEq κ] in
/-- What an invalidation tells is how much smaller the cache is after it. -/
theorem fst_invalidate_add_size (c : BoundedCache κ α τ) (chosen : κ → Bool) :
    (c.invalidate chosen).1 + (c.invalidate chosen).2.size = c.size := by
  apply Nat.sub_add_cancel
  exact List.length_filter_le _ _

section GetAfter

variable [LE τ] [DecidableLE τ] {chosen : κ → Bool}

/-- What an invalidation chooses is looked up in vain after it. -/
theorem get_invalidate_of_chosen (c : BoundedCache κ α τ) (now : τ) {key : κ} (h : chosen key) :
    ((c.invalidate chosen).2.get now key).1 = none := by
  rw [get_fst, find?_invalidate, if_pos h]
  rfl

/-- Looking up what an invalidation leaves alone is the same before it and after it. -/
theorem get_invalidate_of_not_chosen (c : BoundedCache κ α τ) (now : τ) {key : κ}
    (h : ¬chosen key) :
    (c.invalidate chosen).2.get now key =
      ((c.get now key).1, ((c.get now key).2.invalidate chosen).2) := by
  have hfind := find?_invalidate c chosen key
  rw [if_neg h, find?, find?] at hfind
  have herase : Ordered.erase key (c.invalidate chosen).2.entries =
      (Ordered.erase key c.entries).filter fun entry => !chosen entry.1 := by
    rw [invalidate, Ordered.erase_eq_filter, Ordered.erase_eq_filter, List.filter_filter,
      List.filter_filter]
    exact List.filter_congr fun _ _ => Bool.and_comm ..
  simp only [get, hfind, herase]
  cases Ordered.get? key c.entries with
  | none => rfl
  | some entry =>
      by_cases hlive : entry.expires ≤ now
      · simp only [if_pos hlive]
        rfl
      · simp [if_neg hlive, invalidate, h]

end GetAfter

end Clearance.BoundedCache
