/-
# Holdings

What a store keeps about holders of attributes, apart from how it keeps it: the role of each subject,
the owner of each resource, and of each name the last value that a holder was assigned. Filling a store
changes one of these at a time.
-/

import Clearance.Proofs.Attribute.Values

namespace Clearance

/-- What can have attributes. -/
inductive HolderKind where
  | subject
  | role
  | resource
  | action
deriving DecidableEq

/-- The category of the attributes of a holder. A role has attributes for its subjects. -/
def HolderKind.category : HolderKind → Category
  | subject => .subject
  | role => .subject
  | resource => .resource
  | action => .action

/-- Somebody or something that has attributes, by the identifier that callers use. -/
structure Holder where
  kind : HolderKind
  id : String
deriving DecidableEq

/-- The holder under the identifier that its role has in another store, if it is a role. -/
def Holder.renamed (ρ : String → String) (x : Holder) : Holder :=
  match x.kind with
  | .role => { x with id := ρ x.id }
  | _ => x

theorem Holder.renamed_inj {ρ : String → String} (hρ : Function.Injective ρ) {x y : Holder} :
    x.renamed ρ = y.renamed ρ ↔ x = y := by
  obtain ⟨kind, id⟩ := x
  obtain ⟨kind', id'⟩ := y
  cases kind <;> cases kind' <;> simp [renamed, hρ.eq_iff]

/-- Roles, owners and values. -/
@[ext]
structure Holdings where
  roleOf : String → Option String
  ownerOf : String → Option String
  value? : Holder → String → Option String

namespace Holdings

variable {h h' : Holdings} {ρ : String → String}

/-- A subject has a role from now on, or none. -/
def setRole (h : Holdings) (subject : String) (role : Option String) : Holdings :=
  { h with roleOf := fun s => if subject = s then role else h.roleOf s }

/-- A resource has an owner from now on, or none. -/
def setOwner (h : Holdings) (resource : String) (owner : Option String) : Holdings :=
  { h with ownerOf := fun r => if resource = r then owner else h.ownerOf r }

/-- A holder has a value under a name from now on. -/
def give (h : Holdings) (x : Holder) (name value : String) : Holdings :=
  { h with value? := fun y n => if x = y ∧ name = n then some value else h.value? y n }

/-- Holdings are the same but for the identifiers of roles. -/
structure IsTwin (ρ : String → String) (h h' : Holdings) : Prop where
  roleOf : ∀ subject, h.roleOf subject = (h'.roleOf subject).map ρ
  ownerOf : ∀ resource, h.ownerOf resource = h'.ownerOf resource
  value? : ∀ x n, h.value? (x.renamed ρ) n = h'.value? x n

namespace IsTwin

theorem setRole (hh : IsTwin ρ h h') (subject : String) (role : Option String) :
    IsTwin ρ (h.setRole subject (role.map ρ)) (h'.setRole subject role) where
  roleOf := by
    intro s
    simp only [Holdings.setRole]
    split
    · rfl
    · exact hh.roleOf s
  ownerOf := hh.ownerOf
  value? := hh.value?

theorem setOwner (hh : IsTwin ρ h h') (resource : String) (owner : Option String) :
    IsTwin ρ (h.setOwner resource owner) (h'.setOwner resource owner) where
  roleOf := hh.roleOf
  ownerOf := by
    intro r
    simp only [Holdings.setOwner, hh.ownerOf r]
  value? := hh.value?

theorem give (hρ : Function.Injective ρ) (hh : IsTwin ρ h h') (x : Holder) (name value : String) :
    IsTwin ρ (h.give (x.renamed ρ) name value) (h'.give x name value) where
  roleOf := hh.roleOf
  ownerOf := hh.ownerOf
  value? := by
    intro y n
    simp only [Holdings.give, Holder.renamed_inj hρ, hh.value? y n]

end IsTwin

end Holdings

end Clearance
