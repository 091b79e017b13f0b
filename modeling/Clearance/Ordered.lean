/-
# Ordered dictionaries

Dictionaries as lists of entries in the order in which their keys were first written. Writing to a
key that is there changes its value and not its place. No operation makes a key occur twice.
-/

namespace Clearance.Ordered

variable {κ α : Type} [DecidableEq κ]

/-- The value under a key. -/
def get? (key : κ) : List (κ × α) → Option α
  | [] => none
  | (k, v) :: rest => if k = key then some v else get? key rest

/-- Write a value under a key: in place if the key is there, and last otherwise. -/
def set (key : κ) (value : α) : List (κ × α) → List (κ × α)
  | [] => [(key, value)]
  | (k, v) :: rest => if k = key then (k, value) :: rest else (k, v) :: set key value rest

/-- The entries under other keys. -/
def erase (key : κ) : List (κ × α) → List (κ × α)
  | [] => []
  | (k, v) :: rest => if k = key then erase key rest else (k, v) :: erase key rest

/-- Whether there is a value under a key. -/
def has (key : κ) (entries : List (κ × α)) : Bool := (get? key entries).isSome

/-- The keys in order. -/
def keys (entries : List (κ × α)) : List κ := entries.map (·.1)

/-- The values in the order of their keys. -/
def values (entries : List (κ × α)) : List α := entries.map (·.2)

/-- The first occurrence of each member of a list. -/
def distinct : List κ → List κ
  | [] => []
  | k :: rest => k :: (distinct rest).filter (· ≠ k)

/-- The dictionary of a list of entries: a later value for a key replaces an earlier one. -/
def ofList (entries : List (κ × α)) : List (κ × α) :=
  entries.foldl (fun all entry => set entry.1 entry.2 all) []

/-- Members of a list in groups by a key, the groups in the order of their first members. -/
def groupBy (key : α → κ) (members : List α) : List (κ × List α) :=
  (distinct (members.map key)).map fun k => (k, members.filter fun m => key m = k)

@[simp]
theorem get?_nil (key : κ) : get? key ([] : List (κ × α)) = none := rfl

theorem get?_set (key other : κ) (value : α) (entries : List (κ × α)) :
    get? other (set key value entries) = if key = other then some value else get? other entries := by
  induction entries with
  | nil => simp [set, get?]
  | cons entry rest ih =>
    obtain ⟨k, v⟩ := entry
    by_cases hk : k = key
    · subst hk
      by_cases h : k = other <;> simp [set, get?, h]
    · by_cases ho : k = other
      · subst ho
        simp [set, get?, hk, Ne.symm hk]
      · simp [set, get?, hk, ho, ih]

end Clearance.Ordered
