/-
# What the context of a request does to its map

The context is written under keys of the environment. So what stands under the key of another category
is untouched, and of the attributes of a name the first one stays the first if it belongs to another
category. A name that no attribute had so far is a different matter: the context can bring one in.
-/

import Clearance.Attribute.Reference
import Clearance.Proofs.Attribute.Keyed
import Clearance.Proofs.Value.Spelling

namespace Clearance

namespace AttributeMap

variable {m : AttributeMap} {n : String} {a b : Attribute} {context : List (String × Value)}

/-- The map with a context in it. -/
def withContext (m : AttributeMap) (context : List (String × Value)) : AttributeMap :=
  context.foldl (fun m e => m.insert (contextAttribute e.1 e.2.kindName e.2.string)) m

/-- A context is written, or the first of its values without a string form prevents that. -/
theorem addContext_eq (m : AttributeMap) (context : List (String × Value)) :
    m.addContext context = match Value.contextFault? context with
      | some fault => .error fault
      | none => .ok (m.withContext context) := by
  induction context generalizing m with
  | nil => rfl
  | cons entry rest ih =>
      rw [addContext, Value.contextFault?, List.findSome?_cons, Value.spelled]
      cases entry.2.stringFault? Value.room with
      | some fault => rfl
      | none => exact ih _

theorem addContext_eq_ok_iff {m' : AttributeMap} :
    m.addContext context = .ok m' ↔ Value.HaveStrings context ∧ m' = m.withContext context := by
  rw [addContext_eq, ← Value.contextFault?_eq_none_iff]
  cases Value.contextFault? context <;> simp [eq_comm]

theorem get?_insert (m : AttributeMap) (a : Attribute) (key : String) :
    (m.insert a).get? key = if a.key = key then some a else m.get? key :=
  Ordered.get?_set a.key key a m.entries

theorem IsKeyed.withContext (hm : m.IsKeyed) (context : List (String × Value)) :
    (m.withContext context).IsKeyed := by
  simp only [AttributeMap.withContext]
  induction context generalizing m with
  | nil => exact hm
  | cons entry rest ih => exact ih (.insert (c := .environment) hm rfl)

/-! ## Keys of other categories -/

/-- The context leaves what stands under the keys of other categories alone. -/
theorem get?_withContext (m : AttributeMap) {c : Category} (hc : c ≠ .environment) (n : String)
    (context : List (String × Value)) :
    (m.withContext context).get? (attributeKey c.name n) = m.get? (attributeKey c.name n) := by
  simp only [withContext]
  induction context generalizing m with
  | nil => rfl
  | cons entry rest ih =>
      have hkey : (contextAttribute entry.1 entry.2.kindName entry.2.string).key ≠ attributeKey c.name n := by
        intro h
        exact hc (attributeKey_inj.mp h).1.symm
      rw [List.foldl_cons, ih, get?_insert, if_neg hkey]

/-- Two maps have the same attributes under the keys of all categories but the environment. -/
def Agrees (m m' : AttributeMap) : Prop :=
  ∀ c : Category, c ≠ .environment → ∀ n,
    m.get? (attributeKey c.name n) = m'.get? (attributeKey c.name n)

theorem Agrees.symm {m' : AttributeMap} (h : m.Agrees m') : m'.Agrees m :=
  fun c hc n => (h c hc n).symm

theorem Agrees.trans {m' m'' : AttributeMap} (h : m.Agrees m') (h' : m'.Agrees m'') : m.Agrees m'' :=
  fun c hc n => (h c hc n).trans (h' c hc n)

theorem agrees_withContext (m : AttributeMap) (context : List (String × Value)) :
    m.Agrees (m.withContext context) :=
  fun _ hc n => (m.get?_withContext hc n context).symm

/-! ## The first attribute of a name -/

/-- The first attribute of a name, in map order. -/
def first (m : AttributeMap) (n : String) : Option Attribute := (m.named n).head?

theorem first_eq_none_iff : m.first n = none ↔ m.named n = [] := List.head?_eq_none_iff

theorem first_eq_find? (m : AttributeMap) (n : String) :
    m.first n = (m.entries.find? (·.2.name = n)).map (·.2) := by
  rw [first, named, List.head?_filter]
  exact List.find?_map ..

/-- Writing an attribute replaces the first of a name only by one of the same key, and adds a first
one where there was none. -/
theorem first_insert (hm : m.IsKeyed) {c : Category} (ha : a.category = c.name) (n : String) :
    (m.insert a).first n =
      match m.first n with
      | some b => some (if b.key = a.key then a else b)
      | none => if a.name = n then some a else none := by
  have hnames : ∀ e ∈ m.entries, e.1 = a.key → decide (e.2.name = n) = decide (a.name = n) := by
    intro e he hkey
    rw [Attribute.key, ha] at hkey
    rw [(hm.of_mem he hkey).2]
  have hset := Ordered.find?_set (p := fun b : Attribute => decide (b.name = n)) hnames
  rw [first_eq_find?, first_eq_find?]
  show Option.map _ ((Ordered.set a.key a m.entries).find? _) = _
  rw [hset]
  cases hfound : m.entries.find? (·.2.name = n) with
  | none => by_cases hn : a.name = n <;> simp [hn]
  | some e =>
      have hkey : e.1 = e.2.key := hm.key_eq e (List.mem_of_find?_eq_some hfound)
      by_cases he : e.2.key = a.key <;> simp [hkey, he]

/-- The first attribute of a name stays the first if it does not belong to the environment. -/
theorem first_withContext (hm : m.IsKeyed) {c : Category} (hfirst : m.first n = some b)
    (hb : b.category = c.name) (hc : c ≠ .environment) (context : List (String × Value)) :
    (m.withContext context).first n = some b := by
  simp only [withContext]
  induction context generalizing m with
  | nil => exact hfirst
  | cons entry rest ih =>
      have hkey : b.key ≠ (contextAttribute entry.1 entry.2.kindName entry.2.string).key := by
        intro h
        simp only [Attribute.key] at h
        rw [hb] at h
        exact hc (attributeKey_inj.mp h).1
      rw [List.foldl_cons]
      apply ih (.insert (c := .environment) hm rfl)
      rw [first_insert (c := .environment) hm rfl, hfirst]
      simp only [hkey, if_false]

theorem first_insert_eq_none_iff (hm : m.IsKeyed) {c : Category} (ha : a.category = c.name)
    (n : String) : (m.insert a).first n = none ↔ m.first n = none ∧ a.name ≠ n := by
  rw [first_insert hm ha]
  cases hfirst : m.first n with
  | none => by_cases hname : a.name = n <;> simp [hname]
  | some b => simp

/-- A name is without attributes if it was without them and is no key of the context. -/
theorem first_withContext_eq_none_iff (hm : m.IsKeyed) (n : String)
    (context : List (String × Value)) :
    (m.withContext context).first n = none ↔ m.first n = none ∧ n ∉ context.map (·.1) := by
  simp only [withContext]
  induction context generalizing m with
  | nil => simp
  | cons entry rest ih =>
      have hinsert := first_insert_eq_none_iff (c := .environment) hm
        (a := contextAttribute entry.1 entry.2.kindName entry.2.string) rfl n
      have hname : (contextAttribute entry.1 entry.2.kindName entry.2.string).name = entry.1 := rfl
      rw [List.foldl_cons, ih (.insert (c := .environment) hm rfl), hinsert, hname, List.map_cons,
        List.mem_cons, not_or, and_assoc, ne_comm]

/-- If the first attribute of a name can only be one of the environment, the context does not change
that. -/
theorem category_first_withContext (hm : m.IsKeyed)
    (hfirst : ∀ b, m.first n = some b → b.category = Category.environment.name)
    (hb : (m.withContext context).first n = some b) :
    b.category = Category.environment.name := by
  simp only [withContext] at hb
  induction context generalizing m with
  | nil => exact hfirst b hb
  | cons entry rest ih =>
      rw [List.foldl_cons] at hb
      refine ih (.insert (c := .environment) hm rfl) (fun b' hb' => ?_) hb
      rw [first_insert (c := .environment) hm rfl] at hb'
      cases hold : m.first n with
      | none =>
          rw [hold] at hb'
          dsimp only at hb'
          split at hb'
          · cases hb'
            rfl
          · cases hb'
      | some old =>
          rw [hold] at hb'
          dsimp only at hb'
          split at hb'
          · cases hb'
            rfl
          · cases hb'
            exact hfirst _ hold

end AttributeMap

end Clearance
