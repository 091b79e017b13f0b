/-
# What has a string form

A value has a string form exactly if nothing prevents it from being written, and a text always has one.
More room does no harm, so the items of a sequence that has a string form have string forms themselves:
they can be written also on their own.
-/

import Clearance.Value.Spelling

namespace Clearance.Value

variable {room room' : Nat} {v : Value} {s : String}

/-! ## Obstacles -/

theorem literalItemsFault?_eq (room : Nat) (items : List Value) :
    literalItemsFault? room items = items.findSome? (literalFault? room) := by
  induction items with
  | nil => rfl
  | cons item items ih =>
      rw [literalItemsFault?, List.findSome?_cons, ih]
      cases literalFault? room item <;> rfl

theorem literalEntriesFault?_eq (room : Nat) (entries : List (Value × Value)) :
    literalEntriesFault? room entries =
      entries.findSome? fun e => (literalFault? room e.1).or (literalFault? room e.2) := by
  induction entries with
  | nil => rfl
  | cons e entries ih =>
      rw [literalEntriesFault?, List.findSome?_cons, ih]
      cases (literalFault? room e.1).or (literalFault? room e.2) <;> rfl

theorem stringItemsFault?_eq (room : Nat) (items : List Value) :
    stringItemsFault? room items = items.findSome? (stringFault? room) := by
  induction items with
  | nil => rfl
  | cons item items ih =>
      rw [stringItemsFault?, List.findSome?_cons, ih]
      cases stringFault? room item <;> rfl

/-- A sequence can be written where there is room for itself and its items can be written. -/
theorem stringFault?_of_items? {items : List Value} (hitems : v.items? = some items) (room : Nat) :
    stringFault? room v =
      if room < 3 then some (.tooDeep depthMessage) else items.findSome? (stringFault? (room - 3)) := by
  rw [← stringItemsFault?_eq]
  match room with
  | 0 | 1 | 2 => cases v <;> cases hitems <;> simp [stringFault?]
  | room + 3 =>
      rw [if_neg (by omega)]
      cases v <;> cases hitems <;> simp [stringFault?]

/-- What may prevent a value from being written: too many digits, or too many levels. -/
def IsObstacle (fault : Fault) : Prop :=
  fault = .badValue Decimal.tooLongToWrite ∨ fault = .tooDeep depthMessage ∨ fault = literalTooDeep

theorem isObstacle_of_integerFault? {n : Int} {fault : Fault} (h : integerFault? n = some fault) :
    IsObstacle fault := by
  rw [integerFault?] at h
  split at h
  · exact .inl (Option.some.inj h).symm
  · cases h

theorem isObstacle_of_literalFault? {fault : Fault} (h : literalFault? room v = some fault) :
    IsObstacle fault := by
  induction room generalizing v with
  | zero =>
      rw [literalFault?] at h
      exact .inr (.inr (Option.some.inj h).symm)
  | succ room ih =>
      cases v with
      | int n => exact isObstacle_of_integerFault? h
      | list items | tuple items | set items =>
          rw [literalFault?, literalItemsFault?_eq] at h
          obtain ⟨item, -, hitem⟩ := List.exists_of_findSome?_eq_some h
          exact ih hitem
      | dict entries =>
          rw [literalFault?, literalEntriesFault?_eq] at h
          obtain ⟨e, -, he⟩ := List.exists_of_findSome?_eq_some h
          rcases Option.or_eq_some_iff.mp he with hkey | ⟨-, hvalue⟩
          · exact ih hkey
          · exact ih hvalue
      | _ => cases h

theorem isObstacle_of_stringFault? {fault : Fault} (h : stringFault? room v = some fault) :
    IsObstacle fault := by
  induction room using Nat.strongRecOn generalizing v with
  | ind room ih =>
      cases hitems : v.items? with
      | some items =>
          rw [stringFault?_of_items? hitems] at h
          split at h
          · exact .inr (.inl (Option.some.inj h).symm)
          · obtain ⟨item, -, hitem⟩ := List.exists_of_findSome?_eq_some h
            exact ih (room - 3) (by omega) hitem
      | none =>
          cases v with
          | dict entries =>
              rw [stringFault?] at h
              exact isObstacle_of_literalFault? h
          | int n => exact isObstacle_of_integerFault? h
          | list | tuple | set => cases hitems
          | _ => cases h

/-! ## More room -/

theorem literalFault?_of_le (h : room ≤ room') (hv : literalFault? room v = none) :
    literalFault? room' v = none := by
  induction room generalizing room' v with
  | zero => simp [literalFault?] at hv
  | succ room ih =>
      obtain ⟨room', rfl⟩ : ∃ n, room' = n + 1 := ⟨room' - 1, by omega⟩
      have hle : room ≤ room' := Nat.le_of_succ_le_succ h
      cases v with
      | list items | tuple items | set items =>
          rw [literalFault?, literalItemsFault?_eq, List.findSome?_eq_none_iff] at hv ⊢
          exact fun item hitem => ih hle (hv item hitem)
      | dict entries =>
          rw [literalFault?, literalEntriesFault?_eq, List.findSome?_eq_none_iff] at hv ⊢
          intro e he
          obtain ⟨hkey, hvalue⟩ := Option.or_eq_none_iff.mp (hv e he)
          exact Option.or_eq_none_iff.mpr ⟨ih hle hkey, ih hle hvalue⟩
      | int n => exact hv
      | _ => rfl

theorem stringFault?_of_le (h : room ≤ room') (hv : stringFault? room v = none) :
    stringFault? room' v = none := by
  induction room using Nat.strongRecOn generalizing room' v with
  | ind room ih =>
      cases hitems : v.items? with
      | some items =>
          rw [stringFault?_of_items? hitems] at hv ⊢
          split at hv
          · cases hv
          · rw [if_neg (by omega), List.findSome?_eq_none_iff]
            intro item hitem
            exact ih (room - 3) (by omega) (Nat.sub_le_sub_right h 3)
              (List.findSome?_eq_none_iff.mp hv item hitem)
      | none =>
          cases v with
          | dict entries =>
              rw [stringFault?] at hv ⊢
              exact literalFault?_of_le h hv
          | int n => exact hv
          | list | tuple | set => cases hitems
          | _ => rfl

/-! ## String forms -/

@[simp]
theorem hasString_text (s : String) : (text s).HasString := rfl

theorem HasString.spelled (h : v.HasString) : v.spelled = .ok v.string := by
  rw [HasString] at h
  rw [Value.spelled, h]

@[simp]
theorem spelled_text (s : String) : (text s).spelled = .ok s := rfl

theorem isObstacle_of_spelled {fault : Fault} (h : v.spelled = .error fault) : IsObstacle fault := by
  rw [Value.spelled] at h
  cases hfault : v.stringFault? Value.room with
  | none =>
      rw [hfault] at h
      cases h
  | some other =>
      rw [hfault] at h
      cases h
      exact isObstacle_of_stringFault? hfault

/-- What is an item of a value that has a string form has one, too. -/
theorem HasString.item {items : List Value} (h : v.HasString) (hitems : v.items? = some items)
    {item : Value} (hitem : item ∈ items) : item.HasString := by
  rw [HasString, stringFault?_of_items? hitems, if_neg (by decide),
    List.findSome?_eq_none_iff] at h
  exact stringFault?_of_le (Nat.sub_le _ _) (h item hitem)

/-! ## Nesting -/

/-- A value inside so many lists. -/
def nested : Nat → Value → Value
  | 0, v => v
  | depth + 1, v => list [nested depth v]

/-- What stands in more lists than there is room for cannot be written. -/
theorem stringFault?_nested {depth : Nat} (h : room < 3 * depth) (v : Value) :
    stringFault? room (nested depth v) = some (.tooDeep depthMessage) := by
  induction depth generalizing room with
  | zero => omega
  | succ depth ih =>
      rw [nested, stringFault?_of_items? rfl]
      split
      · rfl
      · rw [List.findSome?_singleton]
        exact ih (by omega)

/-! ## Contexts -/

/-- The first thing that prevents the values of a context from being written. -/
def contextFault? (context : List (String × Value)) : Option Fault :=
  context.findSome? fun e => e.2.stringFault? Value.room

/-- The values of a context have string forms. -/
def HaveStrings (context : List (String × Value)) : Prop := ∀ e ∈ context, e.2.HasString

instance (context : List (String × Value)) : Decidable (HaveStrings context) :=
  inferInstanceAs (Decidable (∀ e ∈ context, e.2.HasString))

theorem haveStrings_nil : HaveStrings [] := nofun

theorem contextFault?_eq_none_iff {context : List (String × Value)} :
    contextFault? context = none ↔ HaveStrings context :=
  List.findSome?_eq_none_iff

end Clearance.Value
