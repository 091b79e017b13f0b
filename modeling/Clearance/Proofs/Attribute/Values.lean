/-
# What a map tells

Of a map it matters in the end which keys it has and which values stand under them. Attributes that
are merged into a map and may overwrite count by the last one of each name, so two lists that agree on
that make maps that tell the same of maps that did, whatever else is written over them.
-/

import Mathlib.Data.List.Induction
import Clearance.Proofs.Attribute.Context

namespace Clearance

/-- The value of the last attribute of a name. -/
def lastValue (n : String) (attributes : List Attribute) : Option String :=
  attributes.foldl (fun found a => if a.name = n then some a.value else found) none

@[simp]
theorem lastValue_concat (n : String) (attributes : List Attribute) (a : Attribute) :
    lastValue n (attributes ++ [a]) = if a.name = n then some a.value else lastValue n attributes := by
  simp [lastValue]

/-- What is told of an attribute: its name and its value. -/
def Attribute.told (a : Attribute) : String × String := (a.name, a.value)

theorem lastValue_eq_of_told_eq {attributes attributes' : List Attribute}
    (h : attributes.map Attribute.told = attributes'.map Attribute.told) (n : String) :
    lastValue n attributes = lastValue n attributes' := by
  have htold : ∀ attributes : List Attribute, lastValue n attributes =
      (attributes.map Attribute.told).foldl
        (fun found told => if told.1 = n then some told.2 else found) none := by
    intro attributes
    rw [List.foldl_map]
    rfl
  rw [htold, htold, h]

namespace AttributeMap

variable {m m' : AttributeMap}

/-- The value under a key. -/
def value? (m : AttributeMap) (key : String) : Option String := (m.get? key).map (·.value)

/-- Two maps have the same keys, and the same values under them. -/
def TellsSame (m m' : AttributeMap) : Prop := ∀ key, m.value? key = m'.value? key

theorem has_eq (m : AttributeMap) (key : String) : m.has key = (m.value? key).isSome := by
  rw [has, value?, Option.isSome_map]

theorem TellsSame.has_eq (h : m.TellsSame m') (key : String) :
    m.has key = m'.has key := by
  rw [AttributeMap.has_eq, AttributeMap.has_eq, h key]

theorem value?_insert (m : AttributeMap) (a : Attribute) (key : String) :
    (m.insert a).value? key = if a.key = key then some a.value else m.value? key := by
  rw [value?, get?_insert]
  split <;> rfl

/-- Under a key of a category stands the last value of its name that was merged, if there is any; other
keys are left alone. -/
theorem value?_merge (m : AttributeMap) (c : Category) (values : List Attribute) (key : String) :
    (m.merge c true values).value? key =
      (values.foldl (fun found a => if attributeKey c.name a.name = key then some a.value else found)
        (m.value? key)) := by
  simp only [merge]
  induction values generalizing m with
  | nil => rfl
  | cons a rest ih =>
      rw [List.foldl_cons, List.foldl_cons, ih]
      simp only [Bool.not_true, Bool.false_and, Bool.false_eq_true, if_false]
      rw [value?_insert]
      rfl

theorem value?_merge_of_category (m : AttributeMap) (c : Category) (values : List Attribute)
    (n : String) :
    (m.merge c true values).value? (attributeKey c.name n) =
      (lastValue n values).or (m.value? (attributeKey c.name n)) := by
  rw [value?_merge]
  induction values using List.reverseRecOn with
  | nil => rfl
  | append_singleton values a ih =>
      rw [List.foldl_append, List.foldl_cons, List.foldl_nil, lastValue_concat, ih]
      by_cases hname : a.name = n
      · simp [hname]
      · have hkey : attributeKey c.name a.name ≠ attributeKey c.name n := by
          intro h
          exact hname (attributeKey_inj.mp h).2
        rw [if_neg hkey, if_neg hname]

theorem value?_merge_of_other (m : AttributeMap) (c : Category) (values : List Attribute)
    {key : String} (h : ∀ n, attributeKey c.name n ≠ key) :
    (m.merge c true values).value? key = m.value? key := by
  rw [value?_merge]
  induction values with
  | nil => rfl
  | cons a rest ih => rw [List.foldl_cons, if_neg (h a.name), ih]

/-- What is put in front of the environment is found under its key, which was free. -/
theorem get?_beforeEnvironment {key other : String} {a : Attribute}
    {entries : List (String × Attribute)} (h : Ordered.get? key entries = none) :
    Ordered.get? other (beforeEnvironment key a entries) =
      if key = other then some a else Ordered.get? other entries := by
  induction entries with
  | nil => rfl
  | cons entry rest ih =>
      obtain ⟨k, b⟩ := entry
      have hk : k ≠ key := by
        rintro rfl
        simp [Ordered.get?] at h
      rw [beforeEnvironment]
      split
      · rfl
      · rw [Ordered.get?, if_neg hk] at h
        rw [Ordered.get?, Ordered.get?, ih h]
        by_cases hother : k = other
        · subst hother
          rw [if_pos rfl, if_pos rfl, if_neg hk.symm]
        · rw [if_neg hother, if_neg hother]

theorem value?_insertBeforeEnvironment (m : AttributeMap) (a : Attribute) (key : String) :
    (m.insertBeforeEnvironment a).value? key =
      if a.key = key then some a.value else m.value? key := by
  rw [insertBeforeEnvironment]
  cases hhas : m.has a.key with
  | true => exact value?_insert m a key
  | false =>
      have hnone : Ordered.get? a.key m.entries = none := by
        simpa [has, get?] using hhas
      rw [if_neg Bool.false_ne_true, value?, get?, get?_beforeEnvironment hnone]
      split <;> rfl

namespace TellsSame

theorem insert (h : m.TellsSame m') (a : Attribute) : (m.insert a).TellsSame (m'.insert a) := by
  intro key
  rw [value?_insert, value?_insert, h key]

theorem merge (h : m.TellsSame m') (c : Category) {values values' : List Attribute}
    (hvalues : ∀ n, lastValue n values = lastValue n values') :
    (m.merge c true values).TellsSame (m'.merge c true values') := by
  intro key
  by_cases hkey : ∃ n, attributeKey c.name n = key
  · obtain ⟨n, rfl⟩ := hkey
    rw [value?_merge_of_category, value?_merge_of_category, hvalues n, h]
  · have hother : ∀ n, attributeKey c.name n ≠ key := fun n hn => hkey ⟨n, hn⟩
    rw [value?_merge_of_other m c values hother, value?_merge_of_other m' c values' hother, h key]

theorem addOwner (h : m.TellsSame m') (subject : String) (owner : Option String) :
    (m.addOwner subject owner).TellsSame (m'.addOwner subject owner) := by
  cases owner with
  | none => exact h
  | some owner => exact (h.insert _).insert _

theorem addAction (h : m.TellsSame m') (action : String) :
    (m.addAction action).TellsSame (m'.addAction action) := h.insert _

theorem addResourceType (h : m.TellsSame m') (resourceType : Option String) :
    (m.addResourceType resourceType).TellsSame (m'.addResourceType resourceType) := by
  cases resourceType with
  | none => exact h
  | some type =>
      simp only [AttributeMap.addResourceType]
      split
      · exact h
      · intro key
        rw [value?_insertBeforeEnvironment, value?_insertBeforeEnvironment, h key]

theorem addTime (h : m.TellsSame m') (timestamp weekday : String) :
    (m.addTime timestamp weekday).TellsSame (m'.addTime timestamp weekday) :=
  (h.insert _).insert _

theorem withContext (h : m.TellsSame m') (context : List (String × Value)) :
    (m.withContext context).TellsSame (m'.withContext context) := by
  simp only [AttributeMap.withContext]
  induction context generalizing m m' with
  | nil => exact h
  | cons entry rest ih => exact ih (h.insert _)

end TellsSame

end AttributeMap

/-! ## Answers that tell the same -/

/-- What two stores answer about a request tells the same: the same owner, and the same last value of
each name in each part. -/
structure Lookups.TellsSame (l l' : Lookups) : Prop where
  subject : ∀ n, lastValue n l.subject = lastValue n l'.subject
  role : ∀ n, lastValue n l.role = lastValue n l'.role
  resource : ∀ n, lastValue n l.resource = lastValue n l'.resource
  owner : l.owner = l'.owner
  action : ∀ n, lastValue n l.action = lastValue n l'.action
  environment : ∀ n, lastValue n l.environment = lastValue n l'.environment

/-- If a role overrides the subject's own attributes, the stored parts of the maps tell the same. -/
theorem Lookups.TellsSame.toMap {l l' : Lookups} (h : l.TellsSame l') (subject action : String) :
    (l.toMap true subject action).TellsSame (l'.toMap true subject action) := by
  have hempty : ({} : AttributeMap).TellsSame {} := fun _ => rfl
  have hown := (hempty.merge .subject h.subject).merge .subject h.role
  have hresource := (hown.merge .resource h.resource).addOwner subject l.owner
  rw [Lookups.toMap, Lookups.toMap, ← h.owner]
  exact ((hresource.merge .action h.action).addAction action).merge .environment h.environment

/-- The own part of a request is the same over both, or it cannot be written over either. -/
theorem AttributeMap.TellsSame.forRequest {m m' : AttributeMap} (h : m.TellsSame m')
    (now : Time.Moment) (resourceType : Option String) (context : List (String × Value)) :
    (∃ whole whole', m.forRequest now resourceType context = .ok whole ∧
        m'.forRequest now resourceType context = .ok whole' ∧ whole.TellsSame whole') ∨
      ∃ fault, m.forRequest now resourceType context = .error fault ∧
        m'.forRequest now resourceType context = .error fault := by
  simp only [AttributeMap.forRequest]
  rcases now.timestamp with fault | timestamp
  · exact .inr ⟨fault, rfl, rfl⟩
  · rcases now.dayOfWeek with fault | weekday
    · exact .inr ⟨fault, rfl, rfl⟩
    · have hown := (h.addResourceType resourceType).addTime timestamp weekday
      simp only [bind, Except.bind, addContext_eq]
      cases Value.contextFault? context with
      | some fault => exact .inr ⟨fault, rfl, rfl⟩
      | none => exact .inl ⟨_, _, rfl, rfl, hown.withContext context⟩

end Clearance
