/-
# Histories of a cache

What was done to a cache, step by step, and what it is then. The attribute cache is such a cache: its
calls are steps on gathered maps under the keys of their requests, on the clock it has.
-/

import Mathlib.Data.List.Induction
import Clearance.Cache.Attributes

namespace Clearance

/-! ## The last step with a property -/

/-- A step is the last one with a property, and so many steps came before it. The property may look
at these. -/
def IsLast {σ : Type} (P : List σ → σ → Prop) (past : List σ) (n : Nat) (s : σ) : Prop :=
  ∃ before after, past = before ++ s :: after ∧ before.length = n ∧ P before s ∧
    ∀ mid s' rest, after = mid ++ s' :: rest → ¬P (before ++ s :: mid) s'

namespace IsLast

variable {σ : Type} {P : List σ → σ → Prop} {past : List σ} {n n' : Nat} {s s' x : σ}

theorem not_nil : ¬IsLast P [] n s := by
  rintro ⟨before, after, h, _⟩
  simp at h

/-- One more step is the last one with the property, or leaves the last one what it was. -/
theorem concat_iff :
    IsLast P (past ++ [x]) n s ↔
      (P past x ∧ s = x ∧ n = past.length) ∨ (¬P past x ∧ IsLast P past n s) := by
  constructor
  · rintro ⟨before, after, hpast, hn, hs, hafter⟩
    rcases List.eq_nil_or_concat after with rfl | ⟨after, y, rfl⟩
    · obtain ⟨rfl, hx⟩ := List.append_inj' hpast rfl
      cases hx
      exact .inl ⟨hs, rfl, hn.symm⟩
    · rw [List.concat_eq_append, ← List.cons_append, ← List.append_assoc] at hpast
      obtain ⟨rfl, hy⟩ := List.append_inj' hpast rfl
      cases hy
      refine .inr ⟨hafter after x [] (List.concat_eq_append ..), before, after, rfl, hn, hs, ?_⟩
      rintro mid s' rest rfl
      exact hafter mid s' (rest ++ [x]) (by simp)
  · rintro (⟨hx, rfl, rfl⟩ | ⟨hx, before, after, rfl, hn, hs, hafter⟩)
    · refine ⟨past, [], rfl, rfl, hx, ?_⟩
      intro mid s' rest h
      simp at h
    · refine ⟨before, after ++ [x], by simp, hn, hs, ?_⟩
      intro mid s' rest h
      rcases List.eq_nil_or_concat rest with rfl | ⟨rest, y, rfl⟩
      · obtain ⟨rfl, hs'⟩ := List.append_inj' h rfl
        cases hs'
        exact hx
      · rw [List.concat_eq_append, ← List.cons_append, ← List.append_assoc] at h
        exact hafter mid s' rest (List.append_inj' h rfl).1

theorem concat_of_not (h : ¬P past x) : IsLast P (past ++ [x]) n s ↔ IsLast P past n s := by
  simp [concat_iff, h]

theorem concat_self (h : P past x) : IsLast P (past ++ [x]) past.length x :=
  concat_iff.mpr (.inl ⟨h, rfl, rfl⟩)

theorem lt_length (h : IsLast P past n s) : n < past.length := by
  obtain ⟨before, after, rfl, rfl, _⟩ := h
  simp

/-- There is at most one last step. -/
theorem unique (h : IsLast P past n s) (h' : IsLast P past n' s') : n = n' ∧ s = s' := by
  induction past using List.reverseRecOn with
  | nil => exact absurd h not_nil
  | append_singleton past x ih =>
      rcases concat_iff.mp h with ⟨hx, rfl, rfl⟩ | ⟨hx, h⟩
      · rcases concat_iff.mp h' with ⟨_, rfl, rfl⟩ | ⟨hx', _⟩
        · exact ⟨rfl, rfl⟩
        · exact absurd hx hx'
      · rcases concat_iff.mp h' with ⟨hx', _, _⟩ | ⟨_, h'⟩
        · exact absurd hx' hx
        · exact ih h h'

end IsLast

/-! ## Steps -/

/-- What is done to a cache. -/
inductive CacheStep (κ α τ : Type) where
  | get (now : τ) (key : κ)
  | put (now : τ) (key : κ) (value : α)
  | invalidate (chosen : κ → Bool)
  | clear

namespace CacheStep

variable {κ α τ : Type}

/-- The time that the clock shows at a step, if the step looks at it. -/
def now? : CacheStep κ α τ → Option τ
  | get now _ => some now
  | put now _ _ => some now
  | invalidate _ => none
  | clear => none

/-- What a step makes of a cache with a limit, where values live for a fixed time. -/
def act [DecidableEq κ] [LE τ] [DecidableLE τ] [Add τ] (limit : Number) (lifetime : τ)
    (c : BoundedCache κ α τ) : CacheStep κ α τ → BoundedCache κ α τ
  | get now key => (c.get now key).2
  | put now key value => c.put limit (now + lifetime) key value
  | invalidate chosen => (c.invalidate chosen).2
  | clear => c.clear

end CacheStep

namespace BoundedCache

variable {κ α τ : Type} [DecidableEq κ] [LE τ] [DecidableLE τ] [Add τ]

/-- A new cache after a history. -/
def after (limit : Number) (lifetime : τ) (past : List (CacheStep κ α τ)) : BoundedCache κ α τ :=
  past.foldl (fun c s => s.act limit lifetime c) {}

@[simp]
theorem after_concat (limit : Number) (lifetime : τ) (past : List (CacheStep κ α τ))
    (s : CacheStep κ α τ) :
    after limit lifetime (past ++ [s]) = s.act limit lifetime (after limit lifetime past) := by
  simp [after]

end BoundedCache

/-! ## The attribute cache -/

namespace AttributeCache

/-- What is asked of the attribute cache. -/
inductive Call where
  | get (now : Float) (subject : String) (resource : Option String) (action : String)
  | put (now : Float) (subject : String) (resource : Option String) (action : String)
    (m : AttributeMap)
  | invalidate (subject resource : Option String)
  | clear

/-- What a call makes of the cache. -/
def Call.perform (c : AttributeCache) : Call → AttributeCache
  | get now subject resource action => (c.get now (.of subject resource action)).2
  | put now subject resource action m => c.put now (.of subject resource action) m
  | invalidate subject resource => (c.invalidate subject resource).2
  | clear => c.clear

/-- A call as a step on maps by key. -/
def Call.step : Call → CacheStep CacheKey AttributeMap Float
  | get now subject resource action => .get now (.of subject resource action)
  | put now subject resource action m => .put now (.of subject resource action) m
  | invalidate subject resource => .invalidate (CacheKey.isCovered subject resource)
  | clear => .clear

/-- A call is its step on the maps, and leaves the limits alone. -/
theorem perform_eq (c : AttributeCache) (call : Call) :
    call.perform c = { c with maps := call.step.act c.maxSize c.lifetime.toFloat c.maps } := by
  cases call <;> rfl

/-- A new attribute cache holds, after calls, what their history leaves in a cache of its limits. -/
theorem maps_of_calls (size : Number) (lifetime : Span) (calls : List Call) :
    (calls.foldl Call.perform { maxSize := size, lifetime := lifetime }).maps =
      BoundedCache.after size lifetime.toFloat (calls.map Call.step) := by
  have hrun : ∀ c : AttributeCache, (calls.foldl Call.perform c).maps =
      (calls.map Call.step).foldl (fun maps s => s.act c.maxSize c.lifetime.toFloat maps)
        c.maps := by
    induction calls with
    | nil => exact fun _ => rfl
    | cons call rest ih =>
        intro c
        rw [List.foldl_cons, ih, perform_eq]
        rfl
  exact hrun _

end AttributeCache

end Clearance
