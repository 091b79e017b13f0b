/-
# Directories keep each policy under its own identifier

Policies are written under their identifiers, so no two policies of a directory share one, and a
policy is found by the identifier that it shows. This holds of every directory that was filled by the
operations of directories; most of them do not touch the policies at all.
-/

import Clearance.Directory.Basic
import Clearance.Proofs.Ordered

namespace Clearance

namespace Directory

/-- Each policy stands under its own identifier, and under no other. -/
structure IsKeyed (d : Directory) : Prop where
  nodup : (Ordered.keys d.policies).Nodup
  id_eq : ∀ e ∈ d.policies, e.2.id = e.1

/-! ## Operations that leave the policies alone -/

@[simp]
theorem identifier_policies (d : Directory) (given : Option String) :
    (d.identifier given).2.policies = d.policies := by
  simp only [identifier]
  split <;> rfl

@[simp]
theorem addAttribute_policies (d : Directory) (name : String) (category : Category) (type : String)
    (id description validValues : Option String) :
    (d.addAttribute name category type id description validValues).2.policies = d.policies :=
  d.identifier_policies id

@[simp]
theorem definitionOf_policies (d : Directory) (name : String) (category : Category)
    (type : String) : (d.definitionOf name category type).2.policies = d.policies := by
  simp only [definitionOf]
  split
  · rfl
  · simp

@[simp]
theorem addRole_policies (d : Directory) (role : String) (name : Option String) :
    (d.addRole role name).policies = d.policies := rfl

@[simp]
theorem addSubject_policies (d : Directory) (subject : String) (role : Option String) :
    (d.addSubject subject role).policies = d.policies := by
  cases role with
  | none => rfl
  | some r =>
      simp only [addSubject]
      split <;> rfl

theorem writing_policies {d : Directory} {write : String → Directory}
    (hwrite : ∀ text, (write text).policies = d.policies) (value : Value) :
    (d.writing value write).2.policies = d.policies := by
  rw [writing]
  split
  · exact hwrite _
  · rfl

@[simp]
theorem assignSubject_policies (d : Directory) (subject name type : String) (value : Value) :
    (d.assignSubject subject name type value).2.policies = d.policies := by
  simp only [assignSubject]
  rw [writing_policies fun _ => by rfl, definitionOf_policies]
  split
  · rfl
  · exact d.addSubject_policies subject none

@[simp]
theorem assignRole_policies (d : Directory) (role name type : String) (value : Value) :
    (d.assignRole role name type value).2.policies = d.policies := by
  simp only [assignRole]
  rw [writing_policies fun _ => by rfl, definitionOf_policies]
  split <;> rfl

@[simp]
theorem assignResource_policies (d : Directory) (resource name type : String) (value : Value) :
    (d.assignResource resource name type value).2.policies = d.policies := by
  simp only [assignResource]
  rw [writing_policies fun _ => by rfl, definitionOf_policies]
  split <;> rfl

@[simp]
theorem assignAction_policies (d : Directory) (action name type : String) (value : Value) :
    (d.assignAction action name type value).2.policies = d.policies := by
  simp only [assignAction]
  rw [writing_policies fun _ => by rfl, definitionOf_policies]
  split <;> rfl

@[simp]
theorem assignEnvironment_policies (d : Directory) (name type : String) (value : Value)
    (window : Window) :
    (d.assignEnvironment name type value window).2.policies = d.policies := by
  simp only [assignEnvironment]
  rw [writing_policies fun _ => by rfl, definitionOf_policies]

@[simp]
theorem write_policies (record : Record) (d : Directory) :
    (write record d).2.2.policies = d.policies := by
  unfold write
  dsimp only
  split <;> rfl

/-! ## Operations on the policies -/

variable {d : Directory}

theorem IsKeyed.of_policies_eq {d' : Directory} (hd : d.IsKeyed) (h : d'.policies = d.policies) :
    d'.IsKeyed :=
  ⟨h ▸ hd.nodup, h ▸ hd.id_eq⟩

theorem IsKeyed.putPolicy (hd : d.IsKeyed) (p : Policy) : (d.putPolicy p).IsKeyed where
  nodup := Ordered.nodup_keys_set hd.nodup p
  id_eq := by
    intro e he
    rcases Ordered.mem_of_mem_set he with rfl | he
    · rfl
    · exact hd.id_eq e he

theorem IsKeyed.removePolicy (hd : d.IsKeyed) (id : String) : (d.removePolicy id).IsKeyed where
  nodup := Ordered.nodup_keys_erase hd.nodup
  id_eq := fun e he => hd.id_eq e (Ordered.mem_of_mem_erase he)

theorem IsKeyed.addPolicy {d' : Directory} {p q : Policy} (hd : d.IsKeyed)
    (h : d.addPolicy p = .ok (q, d')) : d'.IsKeyed := by
  simp only [Directory.addPolicy] at h
  split at h
  · cases h
  · cases h
    have hidentified := hd.of_policies_eq (d.identifier_policies (some p.id))
    exact hidentified.putPolicy _

/-- A directory that was filled by the operations of directories. -/
inductive Seeded : Directory → Prop
  | empty : Seeded {}
  | definition {d : Directory} (hd : Seeded d) (name : String) (category : Category) (type : String)
      (id description validValues : Option String) :
      Seeded (d.addAttribute name category type id description validValues).2
  | role {d : Directory} (hd : Seeded d) (role : String) (name : Option String) :
      Seeded (d.addRole role name)
  | subject {d : Directory} (hd : Seeded d) (subject : String) (role : Option String) :
      Seeded (d.addSubject subject role)
  | resource {d : Directory} (hd : Seeded d) (resource : String) (type owner : Option String) :
      Seeded (d.addResource resource type owner)
  | action {d : Directory} (hd : Seeded d) (action : String) : Seeded (d.addAction action)
  | subjectValue {d : Directory} (hd : Seeded d) (subject name type : String) (value : Value) :
      Seeded (d.assignSubject subject name type value).2
  | roleValue {d : Directory} (hd : Seeded d) (role name type : String) (value : Value) :
      Seeded (d.assignRole role name type value).2
  | resourceValue {d : Directory} (hd : Seeded d) (resource name type : String) (value : Value) :
      Seeded (d.assignResource resource name type value).2
  | actionValue {d : Directory} (hd : Seeded d) (action name type : String) (value : Value) :
      Seeded (d.assignAction action name type value).2
  | environmentValue {d : Directory} (hd : Seeded d) (name type : String) (value : Value)
      (window : Window) : Seeded (d.assignEnvironment name type value window).2
  | policy {d : Directory} (hd : Seeded d) (p : Policy) : Seeded (d.putPolicy p)
  | newPolicy {d d' : Directory} {p q : Policy} (hd : Seeded d)
      (hadd : d.addPolicy p = .ok (q, d')) : Seeded d'
  | withoutPolicy {d : Directory} (hd : Seeded d) (id : String) : Seeded (d.removePolicy id)
  | failing {d : Directory} (hd : Seeded d) (names : List String) :
      Seeded { d with failing := names }
  | asked {d : Directory} (hd : Seeded d) (call : StoreCall) : Seeded (d.ask call).2.2
  | written {d : Directory} (hd : Seeded d) (record : Record) : Seeded (write record d).2.2

/-- However a directory was filled, each policy stands under its own identifier. -/
theorem Seeded.isKeyed (h : Seeded d) : d.IsKeyed := by
  induction h with
  | empty => exact ⟨List.Pairwise.nil, fun e he => by cases he⟩
  | policy _ p ih => exact ih.putPolicy p
  | newPolicy _ hadd ih => exact ih.addPolicy hadd
  | withoutPolicy _ id ih => exact ih.removePolicy id
  | definition _ _ _ _ _ _ _ ih => exact ih.of_policies_eq (by simp)
  | role _ _ _ ih => exact ih.of_policies_eq (by simp)
  | subject _ _ _ ih => exact ih.of_policies_eq (by simp)
  | resource _ _ _ _ ih => exact ih.of_policies_eq rfl
  | action _ _ ih => exact ih.of_policies_eq rfl
  | subjectValue _ _ _ _ _ ih => exact ih.of_policies_eq (by simp)
  | roleValue _ _ _ _ _ ih => exact ih.of_policies_eq (by simp)
  | resourceValue _ _ _ _ _ ih => exact ih.of_policies_eq (by simp)
  | actionValue _ _ _ _ _ ih => exact ih.of_policies_eq (by simp)
  | environmentValue _ _ _ _ _ ih => exact ih.of_policies_eq (by simp)
  | failing _ _ ih => exact ih.of_policies_eq rfl
  | asked _ _ ih => exact ih.of_policies_eq rfl
  | written _ _ ih => exact ih.of_policies_eq (by simp)

/-! ## Finding a policy -/

/-- A policy is found by its identifier. -/
theorem IsKeyed.get?_id (hd : d.IsKeyed) {p : Policy} (hp : p ∈ Ordered.values d.policies) :
    Ordered.get? p.id d.policies = some p := by
  obtain ⟨⟨key, q⟩, he, rfl⟩ := List.mem_map.mp hp
  have hid : q.id = key := hd.id_eq _ he
  rw [hid]
  exact Ordered.get?_of_mem hd.nodup he

/-- No two policies share an identifier. -/
theorem IsKeyed.nodup_ids (hd : d.IsKeyed) : ((Ordered.values d.policies).map Policy.id).Nodup := by
  have hids : (Ordered.values d.policies).map Policy.id = Ordered.keys d.policies := by
    rw [Ordered.values, Ordered.keys, List.map_map]
    exact List.map_congr_left hd.id_eq
  rw [hids]
  exact hd.nodup

end Directory

end Clearance
