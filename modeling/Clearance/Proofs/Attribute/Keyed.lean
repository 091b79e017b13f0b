/-
# Attribute maps keep each attribute under its own key

A key is the name of a category, a point and a name, and it determines both. Maps are written under
the keys of their attributes only, so no two attributes of a map share category and name. Every map
that is made for a request is of this kind, whatever a store answers.
-/

import Clearance.Attribute.Gathering
import Clearance.Proofs.Ordered

namespace Clearance

theorem Category.name_inj {c c' : Category} : c.name = c'.name ↔ c = c' := by
  cases c <;> cases c' <;> simp [name]

/-- The key of an attribute determines its category and its name. -/
theorem attributeKey_inj {c c' : Category} {n n' : String} :
    attributeKey c.name n = attributeKey c'.name n' ↔ c = c' ∧ n = n' := by
  constructor
  · intro h
    have hchars := congrArg String.toList h
    simp only [attributeKey, String.toList_append] at hchars
    -- The names of two categories differ in their first letters.
    cases c <;> cases c' <;> simp [Category.name] at hchars <;>
      exact ⟨rfl, String.toList_injective hchars⟩
  · rintro ⟨rfl, rfl⟩
    rfl

namespace AttributeMap

/-- Each attribute stands under its own key, under no other, and in a category. -/
structure IsKeyed (m : AttributeMap) : Prop where
  nodup : (Ordered.keys m.entries).Nodup
  key_eq : ∀ e ∈ m.entries, e.1 = e.2.key
  category : ∀ e ∈ m.entries, ∃ c : Category, e.2.category = c.name

namespace IsKeyed

variable {m : AttributeMap}

theorem empty : ({} : AttributeMap).IsKeyed :=
  ⟨List.Pairwise.nil, nofun, nofun⟩

/-- The attribute under a key of a category has that category and name. -/
theorem of_mem (hm : m.IsKeyed) {c : Category} {n : String} {e : String × Attribute}
    (he : e ∈ m.entries) (hkey : e.1 = attributeKey c.name n) :
    e.2.category = c.name ∧ e.2.name = n := by
  obtain ⟨c', hc'⟩ := hm.category e he
  have hself := (hm.key_eq e he).symm.trans hkey
  simp only [Attribute.key] at hself
  rw [hc'] at hself
  obtain ⟨rfl, hname⟩ := attributeKey_inj.mp hself
  exact ⟨hc', hname⟩

theorem of_get? (hm : m.IsKeyed) {c : Category} {n : String} {a : Attribute}
    (h : m.get? (attributeKey c.name n) = some a) : a.category = c.name ∧ a.name = n :=
  hm.of_mem (Ordered.mem_of_get? h) rfl

theorem insert (hm : m.IsKeyed) {a : Attribute} {c : Category} (ha : a.category = c.name) :
    (m.insert a).IsKeyed where
  nodup := Ordered.nodup_keys_set hm.nodup a
  key_eq := by
    intro e he
    rcases Ordered.mem_of_mem_set he with rfl | he
    · rfl
    · exact hm.key_eq e he
  category := by
    intro e he
    rcases Ordered.mem_of_mem_set he with rfl | he
    · exact ⟨c, ha⟩
    · exact hm.category e he

theorem merge (hm : m.IsKeyed) (c : Category) (overwrite : Bool) (values : List Attribute) :
    (m.merge c overwrite values).IsKeyed := by
  rw [AttributeMap.merge]
  induction values generalizing m with
  | nil => exact hm
  | cons value rest ih =>
      rw [List.foldl_cons]
      dsimp only
      split
      · exact ih hm
      · exact ih (.insert (c := c) hm rfl)

theorem addOwner (hm : m.IsKeyed) (subject : String) (owner : Option String) :
    (m.addOwner subject owner).IsKeyed := by
  cases owner with
  | none => exact hm
  | some owner => exact .insert (c := .resource) (.insert (c := .resource) hm rfl) rfl

theorem addAction (hm : m.IsKeyed) (action : String) : (m.addAction action).IsKeyed :=
  .insert (c := .action) hm rfl

/-- An entry is put in front of the environment, and every other entry stays. -/
theorem beforeEnvironment_perm (key : String) (a : Attribute)
    (entries : List (String × Attribute)) :
    (beforeEnvironment key a entries).Perm ((key, a) :: entries) := by
  induction entries with
  | nil => exact .refl _
  | cons entry rest ih =>
      simp only [beforeEnvironment]
      split
      · exact .refl _
      · exact (ih.cons entry).trans (.swap _ _ rest)

theorem insertBeforeEnvironment (hm : m.IsKeyed) {a : Attribute} {c : Category}
    (ha : a.category = c.name) : (m.insertBeforeEnvironment a).IsKeyed := by
  simp only [AttributeMap.insertBeforeEnvironment]
  split
  · exact hm.insert ha
  · rename_i hnew
    have hperm := beforeEnvironment_perm a.key a m.entries
    have hmem : ∀ e ∈ beforeEnvironment a.key a m.entries, e = (a.key, a) ∨ e ∈ m.entries :=
      fun e he => List.mem_cons.mp (hperm.mem_iff.mp he)
    have hfresh : a.key ∉ Ordered.keys m.entries := by
      rw [← Ordered.get?_eq_none_iff]
      simpa [has, get?] using hnew
    refine ⟨?_, ?_, ?_⟩
    · have hkeys := hperm.map (·.1)
      simp only [Ordered.keys]
      rw [hkeys.nodup_iff, List.map_cons, List.nodup_cons]
      exact ⟨hfresh, hm.nodup⟩
    · intro e he
      rcases hmem e he with rfl | he
      · rfl
      · exact hm.key_eq e he
    · intro e he
      rcases hmem e he with rfl | he
      · exact ⟨c, ha⟩
      · exact hm.category e he

theorem addResourceType (hm : m.IsKeyed) (resourceType : Option String) :
    (m.addResourceType resourceType).IsKeyed := by
  simp only [AttributeMap.addResourceType]
  split
  · exact hm
  · split
    · exact hm
    · exact .insertBeforeEnvironment (c := .resource) hm rfl

theorem addTime (hm : m.IsKeyed) (timestamp weekday : String) :
    (m.addTime timestamp weekday).IsKeyed :=
  .insert (c := .environment) (.insert (c := .environment) hm rfl) rfl

end IsKeyed

end AttributeMap

/-- Whatever a store answers, the stored part of a map is keyed. -/
theorem Lookups.isKeyed_toMap (l : Lookups) (roleOverrides : Bool) (subject action : String) :
    (l.toMap roleOverrides subject action).IsKeyed := by
  have hsubject := (AttributeMap.IsKeyed.empty.merge .subject true l.subject).merge .subject
    roleOverrides l.role
  have hresource := (hsubject.merge .resource true l.resource).addOwner subject l.owner
  exact ((hresource.merge .action true l.action).addAction action).merge .environment true
    l.environment

end Clearance
