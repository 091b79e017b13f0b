/-
# The order of a map

A key keeps the place where it was first written. So the order of a map is that of the names that are
written to it, one after the other: first what is stored of the subject, its role, the resource, its
owner and the action, with the name of the action at their end, and then what is stored of the
environment, the time and the context. The type of a resource is written late, but it is put in front of
the environment as if it had been written there.
-/

import Clearance.Proofs.Attribute.Gathering

namespace Clearance

/-- The key of a name in a category. -/
def nameKey (name : Category × String) : String := attributeKey name.1.name name.2

theorem nameKey_inj {name name' : Category × String} : nameKey name = nameKey name' ↔ name = name' := by
  rw [nameKey, nameKey, attributeKey_inj, Prod.ext_iff]

/-- The names of attributes in a category. -/
def namesIn (c : Category) (attributes : List Attribute) : List (Category × String) :=
  attributes.map fun a => (c, a.name)

/-- The names that an owner is known by, if there is one. -/
def ownerNames : Option String → List (Category × String)
  | none => []
  | some _ => [(.resource, "owner_id"), (.resource, "is_owner")]

/-- The name that the type of a resource is known by, if it is given. -/
def typeNames : Option String → List (Category × String)
  | none => []
  | some type => if type.isEmpty then [] else [(.resource, "resource_type")]

namespace AttributeMap

variable {m : AttributeMap} {names front back : List (Category × String)}

theorem has_iff {key : String} : m.has key = true ↔ key ∈ Ordered.keys m.entries := by
  rw [has, get?, Option.isSome_iff_ne_none, ne_eq, Ordered.get?_eq_none_iff, Classical.not_not]

/-- The keys of a map are the ones of some names, each of them where it comes first. -/
def IsWritten (m : AttributeMap) (names : List (Category × String)) : Prop :=
  Ordered.keys m.entries = Ordered.distinct (names.map nameKey)

namespace IsWritten

theorem empty : ({} : AttributeMap).IsWritten [] := rfl

theorem mem_keys_iff (h : m.IsWritten names) {name : Category × String} :
    nameKey name ∈ Ordered.keys m.entries ↔ name ∈ names := by
  rw [h, Ordered.mem_distinct_iff, List.mem_map]
  constructor
  · rintro ⟨name', hname', heq⟩
    exact nameKey_inj.mp heq ▸ hname'
  · exact fun hname => ⟨name, hname, rfl⟩

theorem insert (h : m.IsWritten names) {a : Attribute} {c : Category} (ha : a.category = c.name) :
    (m.insert a).IsWritten (names ++ [(c, a.name)]) := by
  have hkey : a.key = nameKey (c, a.name) := by rw [Attribute.key, ha, nameKey]
  rw [IsWritten, List.map_append, List.map_singleton, ← hkey]
  exact Ordered.keys_set_eq_distinct h a

/-- A name that was written before changes no place. -/
theorem concat_of_mem (h : m.IsWritten names) {name : Category × String} (hname : name ∈ names) :
    m.IsWritten (names ++ [name]) := by
  have hkey : nameKey name ∈ names.map nameKey := List.mem_map_of_mem hname
  rw [IsWritten, List.map_append, Ordered.distinct_append_of_subset (by simpa using hkey)]
  exact h

theorem merge (h : m.IsWritten names) (c : Category) (overwrite : Bool) (values : List Attribute) :
    (m.merge c overwrite values).IsWritten (names ++ namesIn c values) := by
  rw [AttributeMap.merge]
  induction values generalizing m names with
  | nil =>
      rw [namesIn, List.map_nil, List.append_nil]
      exact h
  | cons value rest ih =>
      rw [namesIn, List.map_cons, List.append_cons, List.foldl_cons]
      dsimp only
      split
      case isTrue hthere =>
        have hname : nameKey (c, value.name) ∈ Ordered.keys m.entries :=
          has_iff.mp (Bool.and_eq_true_iff.mp hthere).2
        exact ih (h.concat_of_mem (h.mem_keys_iff.mp hname))
      case isFalse => exact ih (h.insert rfl)

theorem addOwner (h : m.IsWritten names) (subject : String) (owner : Option String) :
    (m.addOwner subject owner).IsWritten (names ++ ownerNames owner) := by
  cases owner with
  | none =>
      rw [ownerNames, List.append_nil]
      exact h
  | some owner =>
      rw [ownerNames, List.append_cons]
      exact .insert (c := .resource) (.insert (c := .resource) h rfl) rfl

theorem addAction (h : m.IsWritten names) (action : String) :
    (m.addAction action).IsWritten (names ++ [(.action, "action_name")]) :=
  .insert (c := .action) h rfl

theorem addTime (h : m.IsWritten names) (timestamp weekday : String) :
    (m.addTime timestamp weekday).IsWritten
      (names ++ [(.environment, "current_time"), (.environment, "day_of_week")]) := by
  rw [List.append_cons]
  exact .insert (c := .environment) (.insert (c := .environment) h rfl) rfl

theorem withContext (h : m.IsWritten names) (context : List (String × Value)) :
    (m.withContext context).IsWritten (names ++ context.map fun e => (.environment, e.1)) := by
  rw [AttributeMap.withContext]
  induction context generalizing m names with
  | nil =>
      rw [List.map_nil, List.append_nil]
      exact h
  | cons entry rest ih =>
      rw [List.map_cons, List.append_cons, List.foldl_cons]
      exact ih (.insert (c := .environment) h rfl)

/-! ### In front of the environment -/

theorem nameKey_not_mem_of_environment (hfront : ∀ name ∈ front, name.1 ≠ .environment)
    (hback : ∀ name ∈ back, name.1 = .environment) :
    ∀ key ∈ back.map nameKey, key ∉ front.map nameKey := by
  intro key hlast hfirst
  obtain ⟨name, hname, rfl⟩ := List.mem_map.mp hlast
  obtain ⟨name', hname', heq⟩ := List.mem_map.mp hfirst
  obtain rfl := nameKey_inj.mp heq
  exact hfront _ hname' (hback _ hname)

/-- If the names of the environment were written last, its attributes stand last. -/
theorem exists_split (h : m.IsWritten (front ++ back)) (hm : m.IsKeyed)
    (hfront : ∀ name ∈ front, name.1 ≠ .environment) (hback : ∀ name ∈ back, name.1 = .environment) :
    ∃ before after, m.entries = before ++ after ∧
      Ordered.keys before = Ordered.distinct (front.map nameKey) ∧
      Ordered.keys after = Ordered.distinct (back.map nameKey) ∧
      (∀ e ∈ before, e.2.category ≠ Category.environment.name) ∧
      ∀ e ∈ after, e.2.category = Category.environment.name := by
  rw [IsWritten, List.map_append, Ordered.distinct_append_of_disjoint
    (nameKey_not_mem_of_environment hfront hback)] at h
  obtain ⟨before, after, hentries, hbefore, hafter⟩ := List.map_eq_append_iff.mp h
  have hcategory : ∀ e ∈ m.entries, ∀ names : List (Category × String),
      e.1 ∈ Ordered.distinct (names.map nameKey) → ∃ name ∈ names, e.2.category = name.1.name := by
    intro e he names hkey
    obtain ⟨name, hname, heq⟩ := List.mem_map.mp (Ordered.mem_of_mem_distinct hkey)
    exact ⟨name, hname, (hm.of_mem he heq.symm).1⟩
  refine ⟨before, after, hentries, hbefore, hafter, fun e he => ?_, fun e he => ?_⟩
  · obtain ⟨name, hname, hcategory⟩ := hcategory e (hentries ▸ List.mem_append_left after he) front
      (hbefore ▸ List.mem_map_of_mem he)
    rw [hcategory]
    exact fun heq => hfront name hname (Category.name_inj.mp heq)
  · obtain ⟨name, hname, hcategory⟩ := hcategory e (hentries ▸ List.mem_append_right before he) back
      (hafter ▸ List.mem_map_of_mem he)
    rw [hcategory, hback name hname]

theorem beforeEnvironment_append {key : String} {a : Attribute}
    {before after : List (String × Attribute)}
    (hbefore : ∀ e ∈ before, e.2.category ≠ Category.environment.name)
    (hafter : ∀ e ∈ after, e.2.category = Category.environment.name) :
    beforeEnvironment key a (before ++ after) = before ++ (key, a) :: after := by
  induction before with
  | nil =>
      rcases after with _ | ⟨e, rest⟩
      · rfl
      · exact if_pos (hafter e List.mem_cons_self)
  | cons e rest ih =>
      rw [List.cons_append, beforeEnvironment, if_neg (hbefore e List.mem_cons_self),
        ih fun e' he' => hbefore e' (List.mem_cons_of_mem e he'), List.cons_append]

/-- What is put in front of the environment is written there, as it were. -/
theorem insertBeforeEnvironment (h : m.IsWritten (front ++ back)) (hm : m.IsKeyed)
    (hfront : ∀ name ∈ front, name.1 ≠ .environment) (hback : ∀ name ∈ back, name.1 = .environment)
    {a : Attribute} {c : Category} (ha : a.category = c.name) (hc : c ≠ .environment) :
    (m.insertBeforeEnvironment a).IsWritten (front ++ [(c, a.name)] ++ back) := by
  have hkey : a.key = nameKey (c, a.name) := by rw [Attribute.key, ha, nameKey]
  rw [AttributeMap.insertBeforeEnvironment, IsWritten, List.map_append, List.map_append,
    List.map_singleton, List.append_assoc, List.singleton_append]
  split
  case isTrue hthere =>
    rw [has_iff, hkey, h.mem_keys_iff] at hthere
    have hlater : (c, a.name) ∉ back := fun hmem => hc (hback _ hmem)
    have hname : (c, a.name) ∈ front := (List.mem_append.mp hthere).resolve_right hlater
    rw [Ordered.distinct_append_cons_of_mem (List.mem_map_of_mem hname), ← List.map_append, ← h]
    exact Ordered.keys_set_of_mem (hkey ▸ h.mem_keys_iff.mpr hthere) a
  case isFalse hfree =>
    rw [has_iff, hkey, h.mem_keys_iff] at hfree
    have hfree : nameKey (c, a.name) ∉ (front ++ back).map nameKey := by
      rintro hmem
      obtain ⟨name, hname, heq⟩ := List.mem_map.mp hmem
      exact hfree (nameKey_inj.mp heq ▸ hname)
    rw [List.map_append, List.mem_append, not_or] at hfree
    obtain ⟨before, after, hentries, hbefore, hafter, hnone, hall⟩ :=
      h.exists_split hm hfront hback
    rw [Ordered.distinct_append_cons_of_not_mem hfree.1 hfree.2
      (nameKey_not_mem_of_environment hfront hback), hentries, beforeEnvironment_append hnone hall,
      ← hbefore, ← hafter, hkey]
    simp only [Ordered.keys, List.map_append, List.map_cons]

theorem addResourceType (h : m.IsWritten (front ++ back)) (hm : m.IsKeyed)
    (hfront : ∀ name ∈ front, name.1 ≠ .environment) (hback : ∀ name ∈ back, name.1 = .environment)
    (resourceType : Option String) :
    (m.addResourceType resourceType).IsWritten (front ++ typeNames resourceType ++ back) := by
  cases resourceType with
  | none =>
      rw [typeNames, List.append_nil]
      exact h
  | some type =>
      simp only [AttributeMap.addResourceType, typeNames]
      split
      · rw [List.append_nil]
        exact h
      · exact h.insertBeforeEnvironment (c := .resource) hm hfront hback rfl (by decide)

end IsWritten

end AttributeMap

/-! ## Maps of requests -/

/-- The names of what is stored, up to the environment. -/
def Lookups.storedNames (l : Lookups) : List (Category × String) :=
  namesIn .subject l.subject ++ namesIn .subject l.role ++ namesIn .resource l.resource ++
    ownerNames l.owner ++ namesIn .action l.action ++ [(.action, "action_name")]

/-- The names of the environment: what is stored of it, the time, and the context. -/
def Lookups.environmentNames (l : Lookups) (context : List (String × Value)) :
    List (Category × String) :=
  namesIn .environment l.environment ++
    [(.environment, "current_time"), (.environment, "day_of_week")] ++
    context.map fun e => (.environment, e.1)

namespace Lookups

variable {l : Lookups} {m : AttributeMap} {roleOverrides : Bool} {subject action : String}
  {resourceType : Option String} {now : Time.Moment} {context : List (String × Value)}

theorem isWritten_toMap (l : Lookups) (roleOverrides : Bool) (subject action : String) :
    (l.toMap roleOverrides subject action).IsWritten
      (l.storedNames ++ namesIn .environment l.environment) := by
  have hown := (AttributeMap.IsWritten.empty.merge .subject true l.subject).merge .subject
    roleOverrides l.role
  have hresource := (hown.merge .resource true l.resource).addOwner subject l.owner
  have hstored := ((hresource.merge .action true l.action).addAction action).merge .environment
    true l.environment
  rw [List.nil_append] at hstored
  exact hstored

theorem category_of_mem_storedNames (l : Lookups) :
    ∀ name ∈ l.storedNames, name.1 ≠ .environment := by
  intro name hname henvironment
  cases howner : l.owner <;>
    · simp only [storedNames, namesIn, howner, ownerNames, List.mem_append, List.mem_map] at hname
      grind

/-- The order of the map of a request: what is stored, the type of the resource, the environment. -/
theorem isWritten_forRequest
    (h : (l.toMap roleOverrides subject action).forRequest now resourceType context = .ok m) :
    m.IsWritten (l.storedNames ++ typeNames resourceType ++ l.environmentNames context) := by
  obtain ⟨timestamp, weekday, -, -, -, rfl⟩ := AttributeMap.forRequest_eq_ok.mp h
  have htype := (l.isWritten_toMap roleOverrides subject action).addResourceType
    (l.isKeyed_toMap roleOverrides subject action) l.category_of_mem_storedNames
    (by simp [namesIn]) resourceType
  have hwhole := (htype.addTime timestamp weekday).withContext context
  simpa only [environmentNames, List.append_assoc] using hwhole

theorem category_of_mem_typeNames (resourceType : Option String) :
    ∀ name ∈ typeNames resourceType, name.1 ≠ .environment := by
  intro name hname
  simp only [typeNames] at hname
  split at hname
  · cases hname
  · split at hname
    · cases hname
    · rw [List.mem_singleton.mp hname]
      nofun

theorem category_of_mem_environmentNames (l : Lookups) (context : List (String × Value)) :
    ∀ name ∈ l.environmentNames context, name.1 = .environment := by
  simp only [environmentNames, namesIn]
  grind

end Lookups

end Clearance
