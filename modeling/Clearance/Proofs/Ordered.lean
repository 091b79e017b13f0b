/-
# Ordered dictionaries

How the entries of a dictionary behave under its operations: what is found stands in it, erasing adds
nothing, and writing keeps keys apart and every other entry in its place.
-/

import Clearance.Ordered

namespace Clearance.Ordered

variable {κ α : Type} [DecidableEq κ]

theorem mem_of_get? {key : κ} {value : α} {entries : List (κ × α)}
    (h : get? key entries = some value) : (key, value) ∈ entries := by
  induction entries with
  | nil => cases h
  | cons entry rest ih =>
      obtain ⟨k, v⟩ := entry
      simp only [get?] at h
      split at h
      case isTrue hk =>
        cases h
        rw [hk]
        exact List.mem_cons_self
      case isFalse => exact List.mem_cons_of_mem _ (ih h)

theorem mem_of_mem_erase {key : κ} {entries : List (κ × α)} {e : κ × α}
    (h : e ∈ erase key entries) : e ∈ entries := by
  induction entries with
  | nil => exact h
  | cons entry rest ih =>
      obtain ⟨k, v⟩ := entry
      simp only [erase] at h
      split at h
      · exact List.mem_cons_of_mem _ (ih h)
      · rcases List.mem_cons.mp h with rfl | h
        · exact List.mem_cons_self
        · exact List.mem_cons_of_mem _ (ih h)

theorem mem_of_mem_set {key : κ} {value : α} {entries : List (κ × α)} {e : κ × α}
    (h : e ∈ set key value entries) : e = (key, value) ∨ e ∈ entries := by
  induction entries with
  | nil => exact .inl (List.mem_singleton.mp h)
  | cons entry rest ih =>
      obtain ⟨k, v⟩ := entry
      simp only [set] at h
      split at h
      case isTrue hk =>
        rcases List.mem_cons.mp h with rfl | h
        · exact .inl (by rw [hk])
        · exact .inr (List.mem_cons_of_mem _ h)
      case isFalse =>
        rcases List.mem_cons.mp h with rfl | h
        · exact .inr List.mem_cons_self
        · exact (ih h).imp_right (List.mem_cons_of_mem _)

theorem get?_eq_none_iff {key : κ} {entries : List (κ × α)} :
    get? key entries = none ↔ key ∉ keys entries := by
  induction entries with
  | nil => simp [keys]
  | cons entry rest ih =>
      obtain ⟨k, v⟩ := entry
      by_cases hk : k = key
      · simp [get?, keys, hk]
      · simpa [get?, keys, hk, Ne.symm hk] using ih

/-- A key that is not there yet is written last. -/
theorem set_of_not_mem {key : κ} {entries : List (κ × α)} (h : key ∉ keys entries) (value : α) :
    set key value entries = entries ++ [(key, value)] := by
  induction entries with
  | nil => rfl
  | cons entry rest ih =>
      obtain ⟨k, v⟩ := entry
      simp only [keys, List.map_cons, List.mem_cons, not_or] at h
      rw [set, if_neg (Ne.symm h.1), ih h.2, List.cons_append]

/-- Writing under a key that is there keeps the keys as they are. -/
theorem keys_set_of_mem {key : κ} {entries : List (κ × α)} (h : key ∈ keys entries) (value : α) :
    keys (set key value entries) = keys entries := by
  induction entries with
  | nil => cases h
  | cons entry rest ih =>
      obtain ⟨k, v⟩ := entry
      by_cases hk : k = key
      · simp [set, keys, hk]
      · have hrest : key ∈ keys rest := by
          simpa [keys, Ne.symm hk] using h
        have hkeys := ih hrest
        simpa [set, keys, hk] using hkeys

/-- Writing keeps keys apart. -/
theorem nodup_keys_set {key : κ} {entries : List (κ × α)} (h : (keys entries).Nodup) (value : α) :
    (keys (set key value entries)).Nodup := by
  by_cases hkey : key ∈ keys entries
  · rw [keys_set_of_mem hkey]
    exact h
  · rw [set_of_not_mem hkey, keys, List.map_append, List.nodup_append]
    refine ⟨h, List.pairwise_singleton _ _, fun k hk k' hk' heq => hkey ?_⟩
    have hlast : k' = key := List.mem_singleton.mp hk'
    rw [← hlast, ← heq]
    exact hk

theorem nodup_keys_erase {key : κ} {entries : List (κ × α)} (h : (keys entries).Nodup) :
    (keys (erase key entries)).Nodup := by
  induction entries with
  | nil => exact h
  | cons entry rest ih =>
      obtain ⟨k, v⟩ := entry
      simp only [keys, List.map_cons, List.nodup_cons] at h
      simp only [erase]
      split
      · exact ih h.2
      · simp only [keys, List.map_cons, List.nodup_cons]
        refine ⟨fun hk => h.1 ?_, ih h.2⟩
        obtain ⟨e, he, rfl⟩ := List.mem_map.mp hk
        exact List.mem_map_of_mem (mem_of_mem_erase he)

theorem erase_eq_filter (key : κ) (entries : List (κ × α)) :
    erase key entries = entries.filter (·.1 ≠ key) := by
  induction entries with
  | nil => rfl
  | cons entry rest ih =>
      obtain ⟨k, v⟩ := entry
      by_cases hk : k = key
      · simp [erase, hk, ih]
      · simp [erase, hk, ih]

theorem keys_erase (key : κ) (entries : List (κ × α)) :
    keys (erase key entries) = (keys entries).filter (· ≠ key) := by
  rw [erase_eq_filter, keys, keys, List.filter_map]
  rfl

/-- Erasing takes away one entry of a key that is there. -/
theorem length_erase (key : κ) {entries : List (κ × α)} (h : (keys entries).Nodup) :
    (erase key entries).length + (has key entries).toNat = entries.length := by
  induction entries with
  | nil => rfl
  | cons entry rest ih =>
      obtain ⟨k, v⟩ := entry
      obtain ⟨hk, hrest⟩ := List.nodup_cons.mp h
      have hlength := ih hrest
      by_cases hkey : k = key
      · subst hkey
        have hnone : has k rest = false := by
          rw [has, get?_eq_none_iff.mpr hk]
          rfl
        rw [hnone] at hlength
        simpa [erase, has, get?] using hlength
      · simp only [erase, if_neg hkey, has, get?, List.length_cons] at hlength ⊢
        omega

/-- Among the entries whose keys a test chooses, the chosen keys find what they found. -/
theorem get?_filter (chosen : κ → Bool) (key : κ) (entries : List (κ × α)) :
    get? key (entries.filter fun e => chosen e.1) =
      if chosen key then get? key entries else none := by
  induction entries with
  | nil => simp
  | cons entry rest ih =>
      obtain ⟨k, v⟩ := entry
      by_cases hk : k = key
      · subst hk
        cases hchosen : chosen k with
        | true => simp [hchosen, get?]
        | false => simpa [hchosen] using ih
      · cases hchosen : chosen k with
        | true => simpa [hchosen, get?, hk] using ih
        | false => simpa [hchosen, get?, hk] using ih

theorem get?_erase (key other : κ) (entries : List (κ × α)) :
    get? other (erase key entries) = if key = other then none else get? other entries := by
  rw [erase_eq_filter, get?_filter (fun k => decide (k ≠ key))]
  by_cases hkey : key = other
  · simp [hkey]
  · simp [hkey, Ne.symm hkey]

theorem get?_append (key : κ) (entries more : List (κ × α)) :
    get? key (entries ++ more) = (get? key entries).or (get? key more) := by
  induction entries with
  | nil => rfl
  | cons entry rest ih =>
      obtain ⟨k, v⟩ := entry
      by_cases hk : k = key
      · simp [get?, hk]
      · simpa [get?, hk] using ih

/-- The value of an entry is found under its key when keys are kept apart. -/
theorem get?_of_mem {key : κ} {value : α} {entries : List (κ × α)} (hkeys : (keys entries).Nodup)
    (h : (key, value) ∈ entries) : get? key entries = some value := by
  induction entries with
  | nil => cases h
  | cons entry rest ih =>
      obtain ⟨k, v⟩ := entry
      simp only [keys, List.map_cons, List.nodup_cons] at hkeys
      rcases List.mem_cons.mp h with heq | hrest
      · cases heq
        simp [get?]
      · have hne : k ≠ key := fun hk => hkeys.1 (hk ▸ List.mem_map_of_mem hrest)
        rw [get?, if_neg hne]
        exact ih hkeys.2 hrest

/-- The first entry with a property after writing: the written one takes the place of an old one of
its key, and comes last otherwise. The property must not tell the old value from the new one. -/
theorem find?_set {key : κ} {value : α} {entries : List (κ × α)} {p : α → Bool}
    (h : ∀ e ∈ entries, e.1 = key → p e.2 = p value) :
    (set key value entries).find? (p ·.2) =
      match entries.find? (p ·.2) with
      | some e => some (if e.1 = key then (key, value) else e)
      | none => if p value then some (key, value) else none := by
  induction entries with
  | nil => cases hvalue : p value <;> simp [set, hvalue]
  | cons entry rest ih =>
      obtain ⟨k, v⟩ := entry
      by_cases hk : k = key
      · have hv : p v = p value := h (k, v) List.mem_cons_self hk
        rw [set, if_pos hk]
        cases hvalue : p value with
        | true => simp [hv, hvalue, hk]
        | false =>
            -- An entry with the property is not of this key.
            rw [List.find?_cons_of_neg (by simp [hvalue]),
              List.find?_cons_of_neg (by simp [hv, hvalue])]
            cases hfound : rest.find? (p ·.2) with
            | none => rfl
            | some e =>
                have hother : e.1 ≠ key := by
                  intro hkey
                  have hsame := h e (List.mem_cons_of_mem _ (List.mem_of_find?_eq_some hfound)) hkey
                  have hp := List.find?_some hfound
                  rw [hsame, hvalue] at hp
                  cases hp
                simp only [hother, if_false]
      · have hrest := ih fun e he => h e (List.mem_cons_of_mem _ he)
        rw [set, if_neg hk]
        by_cases hp : p v
        · simp [hp, hk]
        · simpa [hp] using hrest

/-- Where keys are kept apart, at most one entry has a key. -/
theorem values_filter_key {entries : List (κ × α)} (hkeys : (keys entries).Nodup) (key : κ) :
    values (entries.filter (·.1 = key)) = (get? key entries).toList := by
  induction entries with
  | nil => rfl
  | cons entry rest ih =>
      obtain ⟨k, v⟩ := entry
      simp only [keys, List.map_cons, List.nodup_cons] at hkeys
      by_cases hk : k = key
      · have hrest : get? key rest = none := get?_eq_none_iff.mpr (hk ▸ hkeys.1)
        rw [List.filter_cons_of_pos (by simpa using hk), get?, if_pos hk]
        show v :: values (rest.filter _) = [v]
        rw [ih hkeys.2, hrest]
        rfl
      · rw [List.filter_cons_of_neg (by simpa using hk), get?, if_neg hk]
        exact ih hkeys.2

/-- Grouping the images of members by a key is grouping the members by the key of their image. -/
theorem groupBy_map {β : Type} (f : β → α) (key : α → κ) (members : List β) :
    groupBy key (members.map f) =
      (groupBy (fun b => key (f b)) members).map fun g => (g.1, g.2.map f) := by
  simp only [groupBy, List.map_map]
  refine List.map_congr_left fun k _ => ?_
  simp only [Function.comp_apply, List.filter_map]
  rfl

/-- The members of the groups are those of the list. -/
theorem mem_of_mem_distinct {members : List κ} {k : κ} (hk : k ∈ distinct members) :
    k ∈ members := by
  induction members with
  | nil => cases hk
  | cons a rest ih =>
      rw [distinct] at hk
      rcases List.mem_cons.mp hk with rfl | hk
      · exact List.mem_cons_self
      · exact List.mem_cons_of_mem a (ih (List.mem_filter.mp hk).1)

theorem mem_distinct_of_mem {members : List κ} {k : κ} (hk : k ∈ members) :
    k ∈ distinct members := by
  induction members with
  | nil => cases hk
  | cons a rest ih =>
      rw [distinct]
      by_cases hka : k = a
      · rw [hka]
        exact List.mem_cons_self
      · have hrest : k ∈ rest := (List.mem_cons.mp hk).resolve_left hka
        exact List.mem_cons_of_mem a (List.mem_filter.mpr ⟨ih hrest, decide_eq_true hka⟩)

theorem mem_distinct_iff {members : List κ} {k : κ} : k ∈ distinct members ↔ k ∈ members :=
  ⟨mem_of_mem_distinct, mem_distinct_of_mem⟩

/-- The first occurrences in two lists are the ones in the first list, and those of the second one that
are not in the first. -/
theorem distinct_append (members more : List κ) :
    distinct (members ++ more) = distinct members ++ (distinct more).filter (· ∉ members) := by
  induction members with
  | nil => exact (List.filter_eq_self.mpr (by simp)).symm
  | cons a rest ih =>
      rw [List.cons_append, distinct, distinct, ih, List.filter_append, List.filter_filter,
        List.cons_append]
      congr 3
      funext k
      simp

/-- What has occurred before does not occur for the first time. -/
theorem distinct_append_of_subset {members more : List κ} (h : ∀ k ∈ more, k ∈ members) :
    distinct (members ++ more) = distinct members := by
  have hnone : (distinct more).filter (· ∉ members) = [] :=
    List.filter_eq_nil_iff.mpr fun k hk => by simpa using h k (mem_of_mem_distinct hk)
  rw [distinct_append, hnone, List.append_nil]

theorem distinct_append_of_disjoint {members more : List κ} (h : ∀ k ∈ more, k ∉ members) :
    distinct (members ++ more) = distinct members ++ distinct more := by
  have hall : (distinct more).filter (· ∉ members) = distinct more :=
    List.filter_eq_self.mpr fun k hk => by simpa using h k (mem_of_mem_distinct hk)
  rw [distinct_append, hall]

theorem distinct_append_cons_of_mem {members more : List κ} {k : κ} (h : k ∈ members) :
    distinct (members ++ k :: more) = distinct (members ++ more) := by
  rw [List.append_cons, distinct_append, distinct_append_of_subset (by simpa using h), distinct_append]
  congr 2
  funext k'
  by_cases hk : k' = k <;> simp [hk, h]

theorem distinct_append_cons_of_not_mem {members more : List κ} {k : κ} (hmembers : k ∉ members)
    (hmore : k ∉ more) (h : ∀ k ∈ more, k ∉ members) :
    distinct (members ++ k :: more) = distinct members ++ k :: distinct more := by
  have hself : (distinct more).filter (· ≠ k) = distinct more := by
    refine List.filter_eq_self.mpr fun k' hk' => decide_eq_true ?_
    rintro rfl
    exact hmore (mem_of_mem_distinct hk')
  rw [distinct_append_of_disjoint (List.forall_mem_cons.mpr ⟨hmembers, h⟩), distinct, hself]

/-- If the keys are the first occurrences in a list, they still are after another one was written. -/
theorem keys_set_eq_distinct {key : κ} {entries : List (κ × α)} {written : List κ}
    (h : keys entries = distinct written) (value : α) :
    keys (set key value entries) = distinct (written ++ [key]) := by
  by_cases hkey : key ∈ written
  · have hthere : key ∈ keys entries := by
      rw [h]
      exact mem_distinct_of_mem hkey
    rw [keys_set_of_mem hthere, h, distinct_append_of_subset (by simpa using hkey)]
  · have hfree : key ∉ keys entries := by
      rw [h]
      exact fun hmem => hkey (mem_of_mem_distinct hmem)
    rw [set_of_not_mem hfree, distinct_append_of_disjoint (by simpa using hkey), ← h]
    simp [keys, distinct]

theorem mem_of_mem_groupBy {key : α → κ} {members : List α} {g : κ × List α}
    (hg : g ∈ groupBy key members) {a : α} (ha : a ∈ g.2) : a ∈ members := by
  obtain ⟨k, _, rfl⟩ := List.mem_map.mp hg
  exact (List.mem_filter.mp ha).1

end Clearance.Ordered
