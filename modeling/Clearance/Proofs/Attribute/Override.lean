/-
# What the role may override

A subject and its role may both have an attribute of a name, and either may have several. A switch says
whose value counts. If the role overrides, the last attribute of the name counts that the role has, and
the last one of the subject if the role has none. If it does not, an attribute of the role is skipped
where one of its name is in the map already: the last one of the subject counts, and the first one of
the role if the subject has none. So the switch decides about names that both have, as it should, and
also about names that the role alone has more than once.

All that is written after the role is written over both maps alike, and not over a name of the subject.
-/

import Clearance.Proofs.Attribute.Order
import Clearance.Proofs.Attribute.Reading
import Clearance.Proofs.Attribute.Values

namespace Clearance

/-! ## The attributes of one name -/

/-- The first attribute of a name. -/
def firstNamed (n : String) (attributes : List Attribute) : Option Attribute :=
  attributes.find? fun a => a.name = n

/-- The last attribute of a name. -/
def lastNamed (n : String) (attributes : List Attribute) : Option Attribute :=
  attributes.reverse.find? fun a => a.name = n

/-- How often a list of attributes has a name. -/
def timesNamed (n : String) (attributes : List Attribute) : Nat :=
  attributes.countP fun a => a.name = n

theorem firstNamed_concat (n : String) (attributes : List Attribute) (a : Attribute) :
    firstNamed n (attributes ++ [a]) =
      (firstNamed n attributes).or (if a.name = n then some a else none) := by
  rw [firstNamed, List.find?_append, List.find?_singleton]
  simp only [decide_eq_true_eq, firstNamed]

theorem lastNamed_concat (n : String) (attributes : List Attribute) (a : Attribute) :
    lastNamed n (attributes ++ [a]) = if a.name = n then some a else lastNamed n attributes := by
  rw [lastNamed, List.reverse_append, List.reverse_singleton, List.singleton_append, List.find?_cons]
  by_cases hname : a.name = n <;> simp [hname, lastNamed]

theorem lastNamed_eq_none_iff {n : String} {attributes : List Attribute} :
    lastNamed n attributes = none ↔ timesNamed n attributes = 0 := by
  simp [lastNamed, timesNamed, List.countP_eq_zero]

/-- A name that is there once is there first and last. -/
theorem lastNamed_eq_firstNamed {n : String} {attributes : List Attribute}
    (h : timesNamed n attributes ≤ 1) : lastNamed n attributes = firstNamed n attributes := by
  induction attributes using List.reverseRecOn with
  | nil => rfl
  | append_singleton attributes a ih =>
      rw [timesNamed, List.countP_append, List.countP_singleton] at h
      rw [firstNamed_concat, lastNamed_concat]
      by_cases hname : a.name = n
      · simp only [hname, decide_true, if_true] at h ⊢
        have hnone : timesNamed n attributes = 0 := by
          rw [timesNamed]
          omega
        rw [← ih (hnone ▸ Nat.zero_le 1), lastNamed_eq_none_iff.mpr hnone, Option.none_or]
      · simp only [hname, decide_false, if_false] at h ⊢
        rw [ih h, Option.or_none]

/-- The attribute that counts for a name of a subject, by the switch. -/
def Lookups.subjectAttribute? (l : Lookups) (roleOverrides : Bool) (n : String) :
    Option Attribute :=
  let found :=
    if roleOverrides then (lastNamed n l.role).or (lastNamed n l.subject)
    else (lastNamed n l.subject).or (firstNamed n l.role)
  found.map fun a => { a with category := Category.subject.name }

/-- The switch decides about a name only if the role has it, and the subject has it too or the role has
it again. -/
theorem Lookups.timesNamed_of_subjectAttribute?_ne {l : Lookups} {n : String}
    (h : l.subjectAttribute? true n ≠ l.subjectAttribute? false n) :
    1 ≤ timesNamed n l.role ∧ (1 ≤ timesNamed n l.subject ∨ 2 ≤ timesNamed n l.role) := by
  by_contra hcontra
  apply h
  simp only [subjectAttribute?, if_true, Bool.false_eq_true, if_false]
  congr 1
  rcases Nat.eq_zero_or_pos (timesNamed n l.role) with hrole | hrole
  · have hlast := lastNamed_eq_none_iff.mpr hrole
    have hfirst := lastNamed_eq_firstNamed (hrole ▸ Nat.zero_le 1)
    rw [← hfirst, hlast, Option.none_or, Option.or_none]
  · have hown : timesNamed n l.subject = 0 := by omega
    have honce : timesNamed n l.role ≤ 1 := by omega
    have hfirst := lastNamed_eq_firstNamed honce
    rw [lastNamed_eq_none_iff.mpr hown, hfirst, Option.none_or, Option.or_none]

namespace AttributeMap

variable {m m' : AttributeMap}

/-! ## Merging -/

theorem merge_concat (m : AttributeMap) (c : Category) (overwrite : Bool) (values : List Attribute)
    (a : Attribute) :
    m.merge c overwrite (values ++ [a]) =
      if !overwrite && (m.merge c overwrite values).has (attributeKey c.name a.name) then
        m.merge c overwrite values
      else (m.merge c overwrite values).insert { a with category := c.name } := by
  simp only [merge, List.foldl_append, List.foldl_cons, List.foldl_nil]
  rfl

theorem get?_insert_of_category (m : AttributeMap) (a : Attribute) (c : Category) (n : String) :
    (m.insert { a with category := c.name }).get? (attributeKey c.name n) =
      if a.name = n then some { a with category := c.name }
      else m.get? (attributeKey c.name n) := by
  rw [get?_insert, Attribute.key]
  simp only [attributeKey_inj, true_and]

/-- A list that overwrites counts by the last attribute of each name. -/
theorem get?_merge_overwriting (m : AttributeMap) (c : Category) (values : List Attribute)
    (n : String) :
    (m.merge c true values).get? (attributeKey c.name n) =
      ((lastNamed n values).map fun a => { a with category := c.name }).or
        (m.get? (attributeKey c.name n)) := by
  induction values using List.reverseRecOn with
  | nil => rfl
  | append_singleton values a ih =>
      rw [merge_concat, lastNamed_concat, Bool.not_true, Bool.false_and, if_neg Bool.false_ne_true,
        get?_insert_of_category, ih]
      split <;> rfl

/-- A list that does not overwrite counts by the first attribute of each name that is free. -/
theorem get?_merge_keeping (m : AttributeMap) (c : Category) (values : List Attribute) (n : String) :
    (m.merge c false values).get? (attributeKey c.name n) =
      (m.get? (attributeKey c.name n)).or
        ((firstNamed n values).map fun a => { a with category := c.name }) := by
  induction values using List.reverseRecOn with
  | nil => exact (Option.or_none).symm
  | append_singleton values a ih =>
      rw [firstNamed_concat, Option.map_or, ← Option.or_assoc, ← ih, merge_concat, Bool.not_false,
        Bool.true_and, has]
      by_cases hname : a.name = n
      · subst hname
        rw [if_pos rfl]
        cases hthere : (m.merge c false values).get? (attributeKey c.name a.name) with
        | some b => simp [hthere]
        | none =>
            rw [Option.isSome_none, if_neg Bool.false_ne_true, get?_insert_of_category, if_pos rfl]
            rfl
      · rw [if_neg hname, Option.map_none, Option.or_none]
        split
        · rfl
        · rw [get?_insert_of_category, if_neg hname]

/-- Merging leaves the keys of other names alone. -/
theorem get?_merge_of_other (m : AttributeMap) (c : Category) (overwrite : Bool)
    (values : List Attribute) {key : String} (h : ∀ n, attributeKey c.name n ≠ key) :
    (m.merge c overwrite values).get? key = m.get? key := by
  induction values using List.reverseRecOn with
  | nil => rfl
  | append_singleton values a ih =>
      rw [merge_concat]
      split
      · exact ih
      · rw [get?_insert, Attribute.key, if_neg (h a.name), ih]

/-! ## Writing over a map -/

/-- What is written does not depend on the map that it is written over, and no name of the subject is
written. -/
def IsOverlay (f : AttributeMap → AttributeMap) : Prop :=
  ∃ written : String → Option Attribute,
    (∀ n, written (attributeKey Category.subject.name n) = none) ∧
      ∀ m key, (f m).get? key = (written key).or (m.get? key)

namespace IsOverlay

variable {f g : AttributeMap → AttributeMap}

theorem id : IsOverlay fun m => m := by
  exact ⟨fun _ => none, fun _ => rfl, fun _ _ => rfl⟩

theorem comp (hg : IsOverlay g) (hf : IsOverlay f) : IsOverlay fun m => g (f m) := by
  obtain ⟨above, habove, hg⟩ := hg
  obtain ⟨below, hbelow, hf⟩ := hf
  refine ⟨fun key => (above key).or (below key), fun n => ?_, fun m key => ?_⟩
  · show (above _).or (below _) = none
    rw [habove, hbelow]
    rfl
  · rw [hg, hf, Option.or_assoc]

theorem insert {a : Attribute} {c : Category} (ha : a.category = c.name) (hc : c ≠ .subject) :
    IsOverlay (·.insert a) := by
  refine ⟨fun key => if a.key = key then some a else none, fun n => ?_, fun m key => ?_⟩
  · apply if_neg
    rw [Attribute.key, ha, attributeKey_inj]
    exact fun h => hc h.1
  · rw [get?_insert]
    by_cases hkey : a.key = key <;> simp [hkey]

theorem insertBeforeEnvironment {a : Attribute} {c : Category} (ha : a.category = c.name)
    (hc : c ≠ .subject) : IsOverlay (·.insertBeforeEnvironment a) := by
  obtain ⟨written, hsubject, hinsert⟩ := IsOverlay.insert ha hc
  refine ⟨written, hsubject, fun m key => ?_⟩
  rw [← hinsert]
  simp only [AttributeMap.insertBeforeEnvironment]
  cases hhas : m.has a.key with
  | true => rfl
  | false =>
      have hfree : Ordered.get? a.key m.entries = none := by
        simpa [has, get?] using hhas
      rw [if_neg Bool.false_ne_true, get?, get?_beforeEnvironment hfree, get?_insert]
      rfl

theorem merge {c : Category} (hc : c ≠ .subject) (values : List Attribute) :
    IsOverlay (·.merge c true values) := by
  induction values using List.reverseRecOn with
  | nil => exact id
  | append_singleton values a ih =>
      have hlast : IsOverlay (·.insert { a with category := c.name }) := insert rfl hc
      have hboth := hlast.comp ih
      simp only [merge_concat]
      exact hboth

theorem addOwner (subject : String) (owner : Option String) : IsOverlay (·.addOwner subject owner) := by
  cases owner with
  | none => exact id
  | some owner =>
      refine (insert (c := .resource) ?_ nofun).comp (insert (c := .resource) ?_ nofun) <;> rfl

theorem addAction (action : String) : IsOverlay (·.addAction action) :=
  insert (c := .action) rfl (by decide)

theorem addResourceType (resourceType : Option String) :
    IsOverlay (·.addResourceType resourceType) := by
  cases resourceType with
  | none => exact id
  | some type =>
      simp only [AttributeMap.addResourceType]
      split
      · exact id
      · exact insertBeforeEnvironment (c := .resource) rfl (by decide)

theorem addTime (timestamp weekday : String) : IsOverlay (·.addTime timestamp weekday) := by
  refine (insert (c := .environment) ?_ nofun).comp (insert (c := .environment) ?_ nofun) <;> rfl

theorem withContext (context : List (String × Value)) : IsOverlay (·.withContext context) := by
  induction context using List.reverseRecOn with
  | nil => exact id
  | append_singleton context entry ih =>
      have hlast : IsOverlay (·.insert (contextAttribute entry.1 entry.2.kindName entry.2.string)) :=
        insert (c := .environment) rfl (by decide)
      have hboth := hlast.comp ih
      simp only [AttributeMap.withContext, List.foldl_append, List.foldl_cons, List.foldl_nil]
      exact hboth

end IsOverlay

end AttributeMap

/-! ## Maps that differ by the switch -/

/-- Two maps have the same keys in the same order, and the same attributes but for those of the subject.
Under the name of a subject stands in each map what counts by its switch. -/
structure Lookups.IsSwitched (l : Lookups) (m m' : AttributeMap) : Prop where
  keys_eq : Ordered.keys m.entries = Ordered.keys m'.entries
  other_eq : ∀ key, (∀ n, attributeKey Category.subject.name n ≠ key) → m.get? key = m'.get? key
  overriding_eq : ∀ n, m.get? (attributeKey Category.subject.name n) = l.subjectAttribute? true n
  keeping_eq : ∀ n, m'.get? (attributeKey Category.subject.name n) = l.subjectAttribute? false n

namespace Lookups

variable {l : Lookups} {m m' : AttributeMap} {subject action : String}
  {resourceType : Option String} {now : Time.Moment} {context : List (String × Value)}

/-- Where the maps differ there is a name of the subject that the role has, and that the subject has too
or the role has again. -/
theorem IsSwitched.exists_of_get?_ne (h : l.IsSwitched m m') {key : String}
    (hkey : m.get? key ≠ m'.get? key) :
    ∃ n, key = attributeKey Category.subject.name n ∧ 1 ≤ timesNamed n l.role ∧
      (1 ≤ timesNamed n l.subject ∨ 2 ≤ timesNamed n l.role) := by
  by_cases hsubject : ∃ n, attributeKey Category.subject.name n = key
  · obtain ⟨n, rfl⟩ := hsubject
    rw [h.overriding_eq, h.keeping_eq] at hkey
    exact ⟨n, rfl, timesNamed_of_subjectAttribute?_ne hkey⟩
  · exact absurd (h.other_eq key fun n hn => hsubject ⟨n, hn⟩) hkey

/-- What is known of the subject, of itself and by its role. -/
def ownPart (l : Lookups) (roleOverrides : Bool) : AttributeMap :=
  (({} : AttributeMap).merge .subject true l.subject).merge .subject roleOverrides l.role

theorem get?_ownPart (l : Lookups) (roleOverrides : Bool) (n : String) :
    (l.ownPart roleOverrides).get? (attributeKey Category.subject.name n) =
      l.subjectAttribute? roleOverrides n := by
  have hempty : ({} : AttributeMap).get? (attributeKey Category.subject.name n) = none := rfl
  cases roleOverrides with
  | true =>
      rw [ownPart, AttributeMap.get?_merge_overwriting, AttributeMap.get?_merge_overwriting, hempty,
        Option.or_none, ← Option.map_or]
      rfl
  | false =>
      rw [ownPart, AttributeMap.get?_merge_keeping, AttributeMap.get?_merge_overwriting, hempty,
        Option.or_none, ← Option.map_or]
      rfl

theorem get?_ownPart_of_other (l : Lookups) (roleOverrides : Bool) {key : String}
    (h : ∀ n, attributeKey Category.subject.name n ≠ key) :
    (l.ownPart roleOverrides).get? key = none := by
  rw [ownPart, AttributeMap.get?_merge_of_other _ _ _ _ h, AttributeMap.get?_merge_of_other _ _ _ _ h]
  rfl

/-- All that is written after the role is written alike, whatever the switch says. -/
theorem exists_overlay (l : Lookups) (subject action timestamp weekday : String)
    (resourceType : Option String) (context : List (String × Value)) :
    ∃ f, AttributeMap.IsOverlay f ∧ ∀ roleOverrides,
      (((l.toMap roleOverrides subject action).addResourceType resourceType).addTime timestamp
        weekday).withContext context = f (l.ownPart roleOverrides) := by
  have hresource := (AttributeMap.IsOverlay.addOwner subject l.owner).comp
    (AttributeMap.IsOverlay.merge (c := .resource) nofun l.resource)
  have haction := (AttributeMap.IsOverlay.addAction action).comp
    ((AttributeMap.IsOverlay.merge (c := .action) nofun l.action).comp hresource)
  have hstored := (AttributeMap.IsOverlay.merge (c := .environment) nofun l.environment).comp haction
  have htime := (AttributeMap.IsOverlay.addTime timestamp weekday).comp
    ((AttributeMap.IsOverlay.addResourceType resourceType).comp hstored)
  exact ⟨_, (AttributeMap.IsOverlay.withContext context).comp htime, fun _ => rfl⟩

/-- The maps that are made from the same answers to the same request differ by the switch. -/
theorem isSwitched_forRequest
    (h : (l.toMap true subject action).forRequest now resourceType context = .ok m)
    (h' : (l.toMap false subject action).forRequest now resourceType context = .ok m') :
    l.IsSwitched m m' := by
  have hkeys : Ordered.keys m.entries = Ordered.keys m'.entries :=
    (isWritten_forRequest h).trans (isWritten_forRequest h').symm
  obtain ⟨timestamp, weekday, htimestamp, hweekday, -, rfl⟩ := AttributeMap.forRequest_eq_ok.mp h
  obtain ⟨timestamp', weekday', htimestamp', hweekday', -, rfl⟩ :=
    AttributeMap.forRequest_eq_ok.mp h'
  obtain rfl := Except.ok.inj (htimestamp.symm.trans htimestamp')
  obtain rfl := Except.ok.inj (hweekday.symm.trans hweekday')
  obtain ⟨f, ⟨written, hsubject, hf⟩, hmap⟩ :=
    l.exists_overlay subject action timestamp weekday resourceType context
  rw [hmap, hmap] at hkeys ⊢
  constructor
  · exact hkeys
  · intro key hkey
    rw [hf, hf, l.get?_ownPart_of_other true hkey, l.get?_ownPart_of_other false hkey]
  · intro n
    rw [hf, hsubject, Option.none_or, get?_ownPart]
  · intro n
    rw [hf, hsubject, Option.none_or, get?_ownPart]

end Lookups

end Clearance
