/-
# What a cache keeps

A cache is told by its history. Its keys stand in the order of their last uses, where a use is a
value that is put or found. What stands under a key was put there last, with the time of that as the
start of its life; since then no invalidation covered it and no other value pushed it out. What is
missing was never put, was dropped or pushed out, or had expired when it was looked up. Only a value
for a new key in a full cache pushes out another one, and that is the least recently used.
-/

import Mathlib.Data.Int.Order.Basic
import Mathlib.Order.Lattice
import Clearance.Proofs.Cache.Bounded
import Clearance.Proofs.Cache.History

namespace Clearance.BoundedCache

variable {κ α τ : Type} [DecidableEq κ] [LinearOrder τ] [Add τ]

/-! ## Uses, evictions, and what settles a key -/

section Notions

variable (limit : Number) (lifetime : τ) (past : List (CacheStep κ α τ))

/-- A step uses a key: a value is put under it, or found. -/
inductive Uses (key : κ) : CacheStep κ α τ → Prop where
  | put (now : τ) (value : α) : Uses key (.put now key value)
  | hit (now : τ) (h : ((after limit lifetime past).get now key).1 ≠ none) :
    Uses key (.get now key)

/-- A step pushes a key out: a value is put under another key, and the key loses its entry. -/
inductive Evicts (key : κ) : CacheStep κ α τ → Prop where
  | put (now : τ) (other : κ) (value : α) (hne : other ≠ key)
    (hin : key ∈ (after limit lifetime past).keys)
    (hout : key ∉ (after limit lifetime (past ++ [.put now other value])).keys) :
    Evicts key (.put now other value)

/-- A step settles what is kept under a key: a value is put there, or what is there is dropped or
pushed out. -/
inductive Settles (key : κ) : CacheStep κ α τ → Prop where
  | put (now : τ) (value : α) : Settles key (.put now key value)
  | invalidate (chosen : κ → Bool) (h : chosen key = true) : Settles key (.invalidate chosen)
  | clear : Settles key .clear
  | evict (s : CacheStep κ α τ) (h : Evicts limit lifetime past key s) : Settles key s

/-- The last use of a key came after so many steps. -/
def IsLastUse (key : κ) (n : Nat) : Prop :=
  ∃ s, IsLast (fun before s => Uses limit lifetime before key s) past n s

/-- The value under a key was settled last by being put at a time. -/
def IsLastPut (key : κ) (now : τ) (value : α) : Prop :=
  ∃ n, IsLast (fun before s => Settles limit lifetime before key s) past n (.put now key value)

/-- A key that has an entry was last used before any other such key was. -/
def IsLeastRecent (key : κ) : Prop :=
  key ∈ (after limit lifetime past).keys ∧ ∃ n, IsLastUse limit lifetime past key n ∧
    ∀ other ∈ (after limit lifetime past).keys, other ≠ key →
      ∃ m, IsLastUse limit lifetime past other m ∧ n < m

/-- The clock has not shown a later time. -/
def IsUntil (now : τ) : Prop := ∀ s ∈ past, ∀ t ∈ s.now?, t ≤ now

end Notions

/-- A cache of a size, after a history, keeps the values that were used most recently, each for a
fixed time from when it was put. -/
structure IsRecent (size : Nat) (lifetime : τ) (past : List (CacheStep κ α τ)) : Prop where
  /-- No key occurs twice. -/
  nodup : (after (.int size) lifetime past).keys.Nodup
  /-- There are at most as many keys as the size says. -/
  length_le : (after (.int size) lifetime past).keys.length ≤ size
  /-- A look-up finds what was put last, as long as it lives. -/
  get_iff : ∀ now, IsUntil past now → ∀ key value,
    ((after (.int size) lifetime past).get now key).1 = some value ↔
      ∃ t, IsLastPut (.int size) lifetime past key t value ∧ now < t + lifetime
  /-- A look-up that finds an entry expired takes it away, and nothing else. -/
  keys_get_of_expired : ∀ now key t value,
    key ∈ (after (.int size) lifetime past).keys →
    IsLastPut (.int size) lifetime past key t value → t + lifetime ≤ now →
      (after (.int size) lifetime (past ++ [.get now key])).keys =
        (after (.int size) lifetime past).keys.erase key
  /-- Pushed out is the least recently used key, when a full cache is given a new one. -/
  evicts_iff : ∀ now key value victim,
    Evicts (.int size) lifetime past victim (.put now key value) ↔
      key ∉ (after (.int size) lifetime past).keys ∧
        (after (.int size) lifetime past).keys.length = size ∧
        IsLeastRecent (.int size) lifetime past victim
  /-- A full cache that is given a new key pushes out exactly one. -/
  existsUnique_evicts : ∀ now key value,
    key ∉ (after (.int size) lifetime past).keys →
    (after (.int size) lifetime past).keys.length = size →
      ∃! victim, Evicts (.int size) lifetime past victim (.put now key value)

/-! ## Uses and keys -/

section Keys

variable {limit : Number} {lifetime : τ} {past : List (CacheStep κ α τ)} {key other : κ} {n m : Nat}

theorem IsLastUse.lt_length (h : IsLastUse limit lifetime past key n) : n < past.length := by
  obtain ⟨s, hs⟩ := h
  exact hs.lt_length

theorem IsLastUse.unique (h : IsLastUse limit lifetime past key n)
    (h' : IsLastUse limit lifetime past key m) : n = m := by
  obtain ⟨s, hs⟩ := h
  obtain ⟨s', hs'⟩ := h'
  exact (hs.unique hs').1

/-- A step that does not use a key leaves its last use what it was. -/
theorem IsLastUse.concat (h : IsLastUse limit lifetime past key n) {s : CacheStep κ α τ}
    (hs : ¬Uses limit lifetime past key s) : IsLastUse limit lifetime (past ++ [s]) key n := by
  obtain ⟨s', hs'⟩ := h
  exact ⟨s', (IsLast.concat_of_not hs).mpr hs'⟩

theorem IsLastUse.of_uses {s : CacheStep κ α τ} (hs : Uses limit lifetime past key s) :
    IsLastUse limit lifetime (past ++ [s]) key past.length := ⟨s, IsLast.concat_self hs⟩

/-- One key was last used before another one was. -/
def IsLessRecent (limit : Number) (lifetime : τ) (past : List (CacheStep κ α τ)) (key other : κ) :
    Prop :=
  ∃ n m, IsLastUse limit lifetime past key n ∧ IsLastUse limit lifetime past other m ∧ n < m

/-- The entries of a cache, as its history orders them. -/
structure IsOrdered (size : Nat) (lifetime : τ) (past : List (CacheStep κ α τ)) : Prop where
  nodup : (after (.int size) lifetime past).keys.Nodup
  length_le : (after (.int size) lifetime past).keys.length ≤ size
  used : ∀ key ∈ (after (.int size) lifetime past).keys,
    ∃ n, IsLastUse (.int size) lifetime past key n
  recent : (after (.int size) lifetime past).keys.Pairwise (IsLessRecent (.int size) lifetime past)

variable {size : Nat}

/-- A look-up uses what it finds, and nothing else. -/
theorem uses_get_iff {now : τ} :
    Uses limit lifetime past other (.get now key) ↔
      other = key ∧ ((after limit lifetime past).get now key).1 ≠ none := by
  constructor
  · rintro (_ | ⟨_, h⟩)
    exact ⟨rfl, h⟩
  · rintro ⟨rfl, h⟩
    exact .hit now h

theorem uses_put_iff {now : τ} {value : α} :
    Uses limit lifetime past other (.put now key value) ↔ other = key := by
  constructor
  · rintro (_ | _)
    rfl
  · rintro rfl
    exact .put now value

/-- What a step does to the keys: it uses none and leaves some of them, or it uses one, which then
stands last. -/
inductive MovesKeys (size : Nat) (lifetime : τ) (past : List (CacheStep κ α τ))
    (s : CacheStep κ α τ) : Prop where
  | unused
    (hsub : (after (.int size) lifetime (past ++ [s])).keys.Sublist
      (after (.int size) lifetime past).keys)
    (hunused : ∀ key, ¬Uses (.int size) lifetime past key s) : MovesKeys size lifetime past s
  | used (key : κ) (kept : List κ) (hsub : kept.Sublist (after (.int size) lifetime past).keys)
    (hkey : key ∉ kept) (hroom : kept.length + 1 ≤ size)
    (hkeys : (after (.int size) lifetime (past ++ [s])).keys = kept ++ [key])
    (huses : ∀ other, Uses (.int size) lifetime past other s ↔ other = key) :
    MovesKeys size lifetime past s

namespace MovesKeys

/-- A look-up moves what it finds to the end, and takes away what it finds expired. -/
theorem get (hlength : (after (.int size) lifetime past).size ≤ size) (now : τ) (key : κ) :
    MovesKeys size lifetime past (.get now key) := by
  set c := after (.int size) lifetime past with hc
  have hother : (Ordered.keys (Ordered.erase key c.entries)).Sublist c.keys := by
    rw [Ordered.keys_erase]
    exact List.filter_sublist
  cases hfind : c.find? key with
  | none =>
      refine .unused ?_ ?_
      · simp [after_concat, ← hc, CacheStep.act, keys, entries_get_of_absent hfind]
      · simp [uses_get_iff, ← hc, get_fst, hfind]
  | some e =>
      by_cases he : e.expires ≤ now
      · refine .unused ?_ ?_
        · rw [after_concat, ← hc, CacheStep.act, keys, entries_get_of_expired hfind he]
          exact hother
        · simp [uses_get_iff, ← hc, get_fst, hfind, he, Option.filter]
      · refine .used key (Ordered.keys (Ordered.erase key c.entries)) hother ?_ ?_ ?_ ?_
        · simp [Ordered.keys_erase]
        · have hkey : key ∈ c.keys := find?_isSome_iff.mp (by rw [hfind]; rfl)
          have hless : (Ordered.keys (Ordered.erase key c.entries)).length < c.keys.length := by
            rw [Ordered.keys_erase]
            exact List.length_filter_lt_length_iff_exists.mpr ⟨key, hkey, by simp⟩
          rw [length_keys] at hless
          omega
        · rw [after_concat, ← hc, CacheStep.act, keys, entries_get_of_live hfind he, Ordered.keys,
            List.map_append]
          rfl
        · simp [uses_get_iff, ← hc, get_fst, hfind, he, Option.filter]

/-- A value that is put stands last, after keys of other values. -/
theorem put (hsize : 1 ≤ size) (now : τ) (key : κ) (value : α) :
    MovesKeys size lifetime past (.put now key value) := by
  obtain ⟨kept, hkept, hput, hroom⟩ :=
    exists_entries_put hsize (after (.int size) lifetime past) (now + lifetime) key value
  have hkeys := hkept.map (·.1)
  rw [← Ordered.keys, ← Ordered.keys, Ordered.keys_erase] at hkeys
  refine .used key (Ordered.keys kept) (hkeys.trans List.filter_sublist) ?_ ?_ ?_
    fun _ => uses_put_iff
  · intro hkey
    simpa using (List.mem_filter.mp (hkeys.subset hkey)).2
  · rw [Ordered.keys, List.length_map]
    exact hroom
  · rw [after_concat, CacheStep.act, keys, hput, Ordered.keys, List.map_append]
    rfl

theorem of_step (hsize : 1 ≤ size) (hlength : (after (.int size) lifetime past).size ≤ size)
    (s : CacheStep κ α τ) : MovesKeys size lifetime past s := by
  cases s with
  | get now key => exact get hlength now key
  | put now key value => exact put hsize now key value
  | invalidate chosen =>
      refine .unused ?_ ?_
      · rw [after_concat]
        exact List.filter_sublist.map _
      · rintro key ⟨⟩
  | clear =>
      refine .unused ?_ ?_
      · rw [after_concat]
        exact List.nil_sublist _
      · rintro key ⟨⟩

end MovesKeys

namespace IsOrdered

theorem nil (size : Nat) (lifetime : τ) :
    IsOrdered (κ := κ) (α := α) size lifetime [] where
  nodup := List.nodup_nil
  length_le := Nat.zero_le _
  used := by
    intro key hkey
    cases hkey
  recent := List.Pairwise.nil

/-- Every step keeps the order. -/
theorem concat (hsize : 1 ≤ size) (h : IsOrdered size lifetime past) (s : CacheStep κ α τ) :
    IsOrdered size lifetime (past ++ [s]) := by
  have hlength := h.length_le
  rw [length_keys] at hlength
  rcases MovesKeys.of_step hsize hlength s with
    ⟨hsub, hunused⟩ | ⟨key, kept, hsub, hkey, hroom, hkeys, huses⟩
  · exact
      { nodup := h.nodup.sublist hsub
        length_le := Nat.le_trans hsub.length_le h.length_le
        used := by
          intro key hkey
          obtain ⟨n, hn⟩ := h.used key (hsub.subset hkey)
          exact ⟨n, hn.concat (hunused key)⟩
        recent := by
          refine (h.recent.sublist hsub).imp ?_
          rintro key other ⟨n, m, hn, hm, hless⟩
          exact ⟨n, m, hn.concat (hunused key), hm.concat (hunused other), hless⟩ }
  · have hunused : ∀ other ∈ kept, ¬Uses (.int size) lifetime past other s := by
      intro other hother huse
      exact hkey ((huses other).mp huse ▸ hother)
    have hlast := IsLastUse.of_uses ((huses key).mpr rfl)
    refine ⟨?_, ?_, ?_, ?_⟩ <;> rw [hkeys]
    · exact List.nodup_append.mpr ⟨h.nodup.sublist hsub, List.pairwise_singleton _ key, by
        rintro k hk _ hk' rfl
        exact hkey (List.mem_singleton.mp hk' ▸ hk)⟩
    · rw [List.length_append]
      exact hroom
    · intro other hother
      rcases List.mem_append.mp hother with hother | hother
      · obtain ⟨n, hn⟩ := h.used other (hsub.subset hother)
        exact ⟨n, hn.concat (hunused other hother)⟩
      · exact ⟨_, List.mem_singleton.mp hother ▸ hlast⟩
    · refine List.pairwise_append.mpr ⟨?_, List.pairwise_singleton _ _, ?_⟩
      · refine (h.recent.sublist hsub).imp_of_mem ?_
        rintro k k' hk hk' ⟨n, m, hn, hm, hless⟩
        exact ⟨n, m, hn.concat (hunused k hk), hm.concat (hunused k' hk'), hless⟩
      · intro other hother last hmem
        obtain ⟨n, hn⟩ := h.used other (hsub.subset hother)
        obtain rfl := List.mem_singleton.mp hmem
        exact ⟨n, _, hn.concat (hunused other hother), hlast, hn.lt_length⟩

/-- The cache is ordered after every history. -/
theorem of_history (hsize : 1 ≤ size) (lifetime : τ) (past : List (CacheStep κ α τ)) :
    IsOrdered size lifetime past := by
  induction past using List.reverseRecOn with
  | nil => exact nil size lifetime
  | append_singleton past s ih => exact ih.concat hsize s

end IsOrdered

end Keys

/-! ## What stands under a key -/

section Values

variable {lifetime : τ} {past : List (CacheStep κ α τ)} {key : κ} {size : Nat}

/-- What stands under a key was put there last and lives from then. Where nothing stands, what was put
there last has been found expired. -/
structure IsTold (size : Nat) (lifetime : τ) (past : List (CacheStep κ α τ)) (key : κ) : Prop where
  of_entry : ∀ e, (after (.int size) lifetime past).find? key = some e →
    ∃ t, IsLastPut (.int size) lifetime past key t e.value ∧ e.expires = t + lifetime
  of_absent : (after (.int size) lifetime past).find? key = none →
    ∀ t value, IsLastPut (.int size) lifetime past key t value →
      ∃ s ∈ past, ∃ now ∈ s.now?, t + lifetime ≤ now

theorem IsLastPut.unique {limit : Number} {t t' : τ} {value value' : α}
    (h : IsLastPut limit lifetime past key t value)
    (h' : IsLastPut limit lifetime past key t' value') : t = t' ∧ value = value' := by
  obtain ⟨n, hn⟩ := h
  obtain ⟨n', hn'⟩ := h'
  injection (hn.unique hn').2 with ht _ hvalue
  exact ⟨ht, hvalue⟩

/-- A step that does not settle a key leaves its last put what it was. -/
theorem isLastPut_concat_of_not {limit : Number} {s : CacheStep κ α τ} {t : τ} {value : α}
    (hs : ¬Settles limit lifetime past key s) :
    IsLastPut limit lifetime (past ++ [s]) key t value ↔ IsLastPut limit lifetime past key t value :=
  exists_congr fun _ => IsLast.concat_of_not hs

/-- After a step that settles a key without putting a value there, it was not put last. -/
theorem not_isLastPut_concat {limit : Number} {s : CacheStep κ α τ} {t : τ} {value : α}
    (hs : Settles limit lifetime past key s) (hput : ∀ now v, s ≠ .put now key v) :
    ¬IsLastPut limit lifetime (past ++ [s]) key t value := by
  rintro ⟨n, hn⟩
  rcases IsLast.concat_iff.mp hn with ⟨_, rfl, _⟩ | ⟨hnot, _⟩
  · exact hput t value rfl
  · exact hnot hs

theorem settles_put_iff {limit : Number} {now : τ} {other : κ} {value : α} (hne : other ≠ key) :
    Settles limit lifetime past key (.put now other value) ↔
      key ∈ (after limit lifetime past).keys ∧
        key ∉ (after limit lifetime (past ++ [.put now other value])).keys := by
  constructor
  · rintro (_ | _ | _ | ⟨_, ⟨_, _, _, _, hin, hout⟩⟩)
    · exact absurd rfl hne
    · exact ⟨hin, hout⟩
  · rintro ⟨hin, hout⟩
    exact .evict _ (.put now other value hne hin hout)

theorem not_settles_get {limit : Number} {now : τ} {other : κ} :
    ¬Settles limit lifetime past key (.get now other) := by
  rintro (_ | _ | _ | ⟨_, ⟨⟩⟩)

namespace IsTold

theorem nil (size : Nat) (lifetime : τ) (key : κ) : IsTold (α := α) size lifetime [] key where
  of_entry := by
    intro e he
    cases he
  of_absent := by
    rintro - t value ⟨n, hn⟩
    exact absurd hn IsLast.not_nil

/-- A key about which a step does not decide stays told, if its entry stays. -/
theorem concat_of_not (h : IsTold size lifetime past key) {s : CacheStep κ α τ}
    (hs : ¬Settles (.int size) lifetime past key s)
    (hfind : (after (.int size) lifetime (past ++ [s])).find? key =
      (after (.int size) lifetime past).find? key) :
    IsTold size lifetime (past ++ [s]) key where
  of_entry := by
    intro e he
    obtain ⟨t, ht, hexpires⟩ := h.of_entry e (hfind ▸ he)
    exact ⟨t, (isLastPut_concat_of_not hs).mpr ht, hexpires⟩
  of_absent := by
    intro hnone t value ht
    obtain ⟨s', hs', hexpired⟩ :=
      h.of_absent (hfind ▸ hnone) t value ((isLastPut_concat_of_not hs).mp ht)
    exact ⟨s', List.mem_append_left _ hs', hexpired⟩

/-- A key that a step settles without putting a value there is told by having no entry. -/
theorem concat_of_settles {s : CacheStep κ α τ} (hs : Settles (.int size) lifetime past key s)
    (hput : ∀ now v, s ≠ .put now key v)
    (hfind : (after (.int size) lifetime (past ++ [s])).find? key = none) :
    IsTold size lifetime (past ++ [s]) key where
  of_entry := by
    intro e he
    rw [hfind] at he
    cases he
  of_absent := fun _ t value ht => absurd ht (not_isLastPut_concat hs hput)

/-- A look-up keeps every key told: what it takes away has expired. -/
theorem concat_get (h : IsTold size lifetime past key) (now : τ) (other : κ) :
    IsTold size lifetime (past ++ [.get now other]) key := by
  have hfind := find?_get (after (.int size) lifetime past) now other key
  by_cases hkey : other = key
  case neg =>
    refine h.concat_of_not not_settles_get ?_
    rw [after_concat, CacheStep.act, hfind, if_neg hkey]
  subst hkey
  rw [if_pos rfl] at hfind
  cases hentry : (after (.int size) lifetime past).find? other with
  | none =>
      refine h.concat_of_not not_settles_get ?_
      rw [after_concat, CacheStep.act, hfind, hentry]
      rfl
  | some e =>
      rw [hentry] at hfind
      by_cases he : e.expires ≤ now
      case neg =>
        refine h.concat_of_not not_settles_get ?_
        rw [after_concat, CacheStep.act, hfind, hentry]
        simp [Option.filter, he]
      refine ⟨?_, ?_⟩
      · intro e' he'
        rw [after_concat, CacheStep.act, hfind] at he'
        simp [Option.filter, he] at he'
      · intro _ t value ht
        obtain ⟨t', ht', hexpires⟩ := h.of_entry e hentry
        obtain ⟨rfl, _⟩ := ht'.unique ((isLastPut_concat_of_not not_settles_get).mp ht)
        exact ⟨_, List.mem_append_right _ List.mem_cons_self, now, rfl, hexpires ▸ he⟩

/-- A value that is put tells its own key, and every other one by whether it was pushed out. -/
theorem concat_put (hsize : 1 ≤ size) (hkeys : (after (.int size) lifetime past).keys.Nodup)
    (h : IsTold size lifetime past key) (now : τ) (other : κ) (value : α) :
    IsTold size lifetime (past ++ [.put now other value]) key := by
  by_cases hkey : other = key
  · subst hkey
    have hfind : (after (.int size) lifetime (past ++ [.put now other value])).find? other =
        some ⟨value, now + lifetime⟩ := by
      rw [after_concat]
      exact find?_put_self hsize
    refine ⟨?_, ?_⟩
    · intro e he
      rw [hfind] at he
      obtain rfl := Option.some.inj he
      exact ⟨now, ⟨_, IsLast.concat_self (.put now value)⟩, rfl⟩
    · intro hnone
      rw [hfind] at hnone
      cases hnone
  · by_cases hsettles : Settles (.int size) lifetime past key (.put now other value)
    · refine concat_of_settles hsettles ?_ ?_
      · rintro now' value' heq
        injection heq with _ hother
        exact hkey hother
      · exact find?_eq_none_iff.mpr ((settles_put_iff hkey).mp hsettles).2
    · refine h.concat_of_not hsettles ?_
      have hcases := find?_put_of_ne hsize hkeys hkey (now + lifetime) value
      rw [after_concat, CacheStep.act]
      rcases hcases with hnone | hsame
      · -- It was not pushed out, so that there was nothing before either.
        rw [hnone]
        by_contra hin
        refine hsettles ((settles_put_iff hkey).mpr ⟨?_, ?_⟩)
        · exact Decidable.not_not.mp fun hout => hin (find?_eq_none_iff.mpr hout).symm
        · rw [after_concat]
          exact find?_eq_none_iff.mp hnone
      · exact hsame

theorem concat_invalidate (h : IsTold size lifetime past key) (chosen : κ → Bool) :
    IsTold size lifetime (past ++ [.invalidate chosen]) key := by
  have hfind : (after (.int size) lifetime (past ++ [.invalidate chosen])).find? key =
      if chosen key then none else (after (.int size) lifetime past).find? key := by
    rw [after_concat]
    exact find?_invalidate _ chosen key
  cases hchosen : chosen key with
  | true =>
      rw [hchosen, if_pos rfl] at hfind
      exact concat_of_settles (.invalidate chosen hchosen) (fun _ _ heq => by cases heq) hfind
  | false =>
      rw [hchosen, if_neg Bool.false_ne_true] at hfind
      refine h.concat_of_not ?_ hfind
      rintro (_ | ⟨_, hcovers⟩ | _ | ⟨_, ⟨⟩⟩)
      rw [hchosen] at hcovers
      cases hcovers

theorem concat_clear : IsTold (α := α) size lifetime (past ++ [.clear]) key := by
  refine concat_of_settles .clear (fun _ _ heq => by cases heq) ?_
  rw [after_concat]
  rfl

/-- Every key is told after every history. -/
theorem of_history (hsize : 1 ≤ size) (lifetime : τ) (past : List (CacheStep κ α τ)) (key : κ) :
    IsTold size lifetime past key := by
  induction past using List.reverseRecOn with
  | nil => exact nil size lifetime key
  | append_singleton past s ih =>
      cases s with
      | get now other => exact ih.concat_get now other
      | put now other value =>
          exact ih.concat_put hsize (IsOrdered.of_history hsize lifetime past).nodup now other value
      | invalidate chosen => exact ih.concat_invalidate chosen
      | clear => exact concat_clear

end IsTold

end Values

/-! ## Evictions -/

section Evictions

variable {lifetime : τ} {past : List (CacheStep κ α τ)} {key victim : κ} {size : Nat}

/-- The first key is the one whose last use is oldest. -/
theorem IsOrdered.isLeastRecent_iff (h : IsOrdered size lifetime past) :
    IsLeastRecent (.int size) lifetime past victim ↔
      (after (.int size) lifetime past).keys.head? = some victim := by
  have hrecent := h.recent
  have hnodup := h.nodup
  have hused := h.used
  rw [IsLeastRecent]
  cases hkeys : (after (.int size) lifetime past).keys with
  | nil => simp
  | cons first rest =>
      rw [hkeys] at hrecent hnodup hused
      have hfirst := (List.pairwise_cons.mp hrecent).1
      constructor
      · rintro ⟨hmem, n, hn, hleast⟩
        rcases List.mem_cons.mp hmem with rfl | hlater
        · rfl
        · -- The first key was used before, so that this one is not the least recent.
          have hne : first ≠ victim := fun heq => (List.nodup_cons.mp hnodup).1 (heq ▸ hlater)
          obtain ⟨m, hm, hless⟩ := hleast first List.mem_cons_self hne
          obtain ⟨m', n', hm', hn', hless'⟩ := hfirst victim hlater
          obtain rfl := hm.unique hm'
          obtain rfl := hn.unique hn'
          omega
      · rintro heq
        obtain rfl := Option.some.inj heq
        obtain ⟨n, hn⟩ := hused first List.mem_cons_self
        refine ⟨List.mem_cons_self, n, hn, ?_⟩
        intro other hother hne
        rcases List.mem_cons.mp hother with rfl | hlater
        · exact absurd rfl hne
        · obtain ⟨n', m, hn', hm, hless⟩ := hfirst other hlater
          obtain rfl := hn.unique hn'
          exact ⟨m, hm, hless⟩

/-- Where there is room, and where the key has an entry, a value pushes nothing out. -/
theorem not_evicts_of_room (hsize : 1 ≤ size)
    (hlength : (after (.int size) lifetime past).size ≤ size)
    (hroom : key ∈ (after (.int size) lifetime past).keys ∨
      (after (.int size) lifetime past).size < size) (now : τ) (value : α) :
    ¬Evicts (.int size) lifetime past victim (.put now key value) := by
  rintro ⟨_, _, _, hne, hin, hout⟩
  have hkeys : (after (.int size) lifetime (past ++ [.put now key value])).keys =
      (after (.int size) lifetime past).keys.filter (· ≠ key) ++ [key] := by
    rw [after_concat, CacheStep.act, keys, entries_put_of_room hsize hlength hroom,
      Ordered.keys, List.map_append, ← Ordered.keys, Ordered.keys_erase]
    rfl
  rw [hkeys] at hout
  refine hout (List.mem_append_left _ (List.mem_filter.mpr ⟨hin, ?_⟩))
  simpa using hne.symm

/-- In a full cache, a value for a new key pushes out the first key. -/
theorem IsOrdered.evicts_iff_of_full (hsize : 1 ≤ size) (h : IsOrdered size lifetime past)
    (hfull : (after (.int size) lifetime past).size = size)
    (hnew : key ∉ (after (.int size) lifetime past).keys) (now : τ) (value : α) :
    Evicts (.int size) lifetime past victim (.put now key value) ↔
      (after (.int size) lifetime past).keys.head? = some victim := by
  have hkeys : (after (.int size) lifetime (past ++ [.put now key value])).keys =
      (after (.int size) lifetime past).keys.tail ++ [key] := by
    rw [after_concat, CacheStep.act, keys, entries_put_of_full hsize hfull hnew,
      Ordered.keys, List.map_append, List.map_tail]
    rfl
  have hnodup := h.nodup
  cases hall : (after (.int size) lifetime past).keys with
  | nil =>
      constructor
      · rintro ⟨_, _, _, _, hin, _⟩
        rw [hall] at hin
        cases hin
      · intro hhead
        cases hhead
  | cons first rest =>
      rw [hall] at hkeys hnodup hnew
      constructor
      · rintro ⟨_, _, _, _, hin, hout⟩
        rw [hall] at hin
        rw [hkeys] at hout
        rcases List.mem_cons.mp hin with rfl | hlater
        · rfl
        · exact absurd (List.mem_append_left _ hlater) hout
      · intro hhead
        obtain rfl := Option.some.inj hhead
        have hne : key ≠ first := fun heq => hnew (heq ▸ List.mem_cons_self)
        refine .put now key value hne (hall ▸ List.mem_cons_self) ?_
        have hgone : first ∉ rest := (List.nodup_cons.mp hnodup).1
        rw [hkeys]
        simpa [hgone] using hne.symm

/-- A value that is put pushes out the first key, if its own key is new and the cache is full. -/
theorem IsOrdered.evicts_iff_head (hsize : 1 ≤ size) (h : IsOrdered size lifetime past) (now : τ)
    (value : α) :
    Evicts (.int size) lifetime past victim (.put now key value) ↔
      key ∉ (after (.int size) lifetime past).keys ∧
        (after (.int size) lifetime past).keys.length = size ∧
        (after (.int size) lifetime past).keys.head? = some victim := by
  have hlength := h.length_le
  rw [length_keys] at hlength ⊢
  have hkeeps : key ∈ (after (.int size) lifetime past).keys ∨
      (after (.int size) lifetime past).size < size →
        ¬Evicts (.int size) lifetime past victim (.put now key value) :=
    fun hroom => not_evicts_of_room hsize hlength hroom now value
  by_cases hnew : key ∈ (after (.int size) lifetime past).keys
  · simp only [hkeeps (.inl hnew), hnew, not_true_eq_false, false_and]
  rcases Nat.lt_or_eq_of_le hlength with hless | hfull
  · simp only [hkeeps (.inr hless), hless.ne, false_and, and_false]
  · rw [h.evicts_iff_of_full hsize hfull hnew]
    simp only [hnew, hfull, not_false_eq_true, true_and]

end Evictions

/-! ## The cache as its history tells it -/

/-- **Recency and lifetime.** A cache of any size and lifetime, after any history, is what its
history says: its keys are distinct and at most as many as the size; a look-up finds a value exactly
as long as it is the one that was put last under its key, was neither invalidated nor pushed out
since, and the time is below that of the put plus the lifetime; what a look-up finds expired is taken
away; and only a new key in a full cache pushes out an entry, exactly one, whose last put or hit is
the oldest. -/
theorem isRecent_of_history {size : Nat} (hsize : 1 ≤ size) (lifetime : τ)
    (past : List (CacheStep κ α τ)) : IsRecent size lifetime past := by
  have hordered := IsOrdered.of_history hsize lifetime past
  have htold := IsTold.of_history hsize lifetime past
  refine ⟨hordered.nodup, hordered.length_le, ?_, ?_, ?_, ?_⟩
  · intro now hnow key value
    constructor
    · intro hget
      rw [get_fst] at hget
      obtain ⟨e, he, rfl⟩ := Option.map_eq_some_iff.mp hget
      obtain ⟨hfind, hlive⟩ := Option.filter_eq_some_iff.mp he
      obtain ⟨t, ht, hexpires⟩ := (htold key).of_entry e hfind
      have hbelow : now < e.expires := not_le.mp (of_decide_eq_true hlive)
      exact ⟨t, ht, hexpires ▸ hbelow⟩
    · rintro ⟨t, ht, hbelow⟩
      cases hfind : (after (.int size) lifetime past).find? key with
      | none =>
          obtain ⟨s, hs, earlier, hearlier, hexpired⟩ := (htold key).of_absent hfind t value ht
          have hbefore := hnow s hs earlier hearlier
          exact absurd (le_trans hexpired hbefore) (not_le.mpr hbelow)
      | some e =>
          obtain ⟨t', ht', hexpires⟩ := (htold key).of_entry e hfind
          obtain ⟨rfl, hvalue⟩ := ht'.unique ht
          have hlive : ¬e.expires ≤ now := not_le.mpr (hexpires ▸ hbelow)
          simp [get_fst, hfind, Option.filter, hlive, hvalue]
  · intro now key t value hkey ht hexpired
    obtain ⟨e, hfind⟩ := Option.isSome_iff_exists.mp (find?_isSome_iff.mpr hkey)
    obtain ⟨t', ht', hexpires⟩ := (htold key).of_entry e hfind
    obtain ⟨rfl, _⟩ := ht'.unique ht
    rw [after_concat, CacheStep.act, keys, entries_get_of_expired hfind (hexpires ▸ hexpired),
      Ordered.keys_erase, hordered.nodup.erase_eq_filter]
    refine List.filter_congr fun k _ => ?_
    by_cases hk : k = key <;> simp [hk]
  · intro now key value victim
    rw [hordered.evicts_iff_head hsize, hordered.isLeastRecent_iff]
  · intro now key value hnew hfull
    have hkeys : (after (.int size) lifetime past).keys ≠ [] := by
      intro hnil
      rw [hnil] at hfull
      simp at hfull
      omega
    have hhead := List.head?_eq_some_head hkeys
    refine ⟨_, (hordered.evicts_iff_head hsize now value).mpr ⟨hnew, hfull, hhead⟩, ?_⟩
    intro other hother
    obtain ⟨_, _, hother⟩ := (hordered.evicts_iff_head hsize now value).mp hother
    exact Option.some.inj (hother.symm.trans hhead)

/-- Two values are put, the first one is found again, and a third one is put. -/
def visits : List (CacheStep String Nat Int) :=
  [.put 0 "alice" 1, .put 10 "bob" 2, .get 20 "alice", .put 30 "carol" 3]

/-- With room for two, the third value pushes out the second; the first one lives for a minute from
when it was put, although it was found in between. -/
theorem isRecent_of_visits :
    IsRecent 2 60 visits ∧
      (after (.int 2) 60 visits).keys = ["alice", "carol"] ∧
      ((after (.int 2) 60 visits).get 59 "alice").1 = some 1 ∧
      ((after (.int 2) 60 visits).get 60 "alice").1 = none :=
  ⟨isRecent_of_history (by decide) 60 visits, by decide, by decide, by decide⟩

end Clearance.BoundedCache
