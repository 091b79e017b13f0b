/-
# Steady stores

A store is steady in a state if it replies to each call in one way from then on, whatever it is asked,
whatever records it writes and whatever calls are given up. Calls may fail or be held, some of them or
all. A directory is steady, and so is a database, with tables or without: both record what happens to
them, but no answer depends on that. A steady store stays steady behind intercepted calls.
-/

import Clearance.Proofs.Store.Qualified
import Clearance.Store.Interposed

namespace Clearance

namespace Store

variable {σ : Type}

/-- Whatever a store goes through, it replies to each call as it does now. -/
def IsSteady (store : Store σ) (s : σ) : Prop :=
  ∀ s', store.Reaches s s' → ∀ call, (store.ask call s').1 = (store.ask call s).1

/-- A store holds no call: each is answered, or fails. -/
def IsPrompt (store : Store σ) (s : σ) : Prop := ∀ call, (store.ask call s).1 ≠ .held

end Store

namespace Directory

variable {d d' : Directory}

/-- A directory without what it has recorded. -/
def unrecorded (d : Directory) : Directory := { d with calls := [], records := [] }

theorem unrecorded_of_reaches (h : store.Reaches d d') : d'.unrecorded = d.unrecorded := by
  induction h with
  | refl => rfl
  | ask _ call ih => exact ih
  | @write d₁ _ record ih =>
      refine Eq.trans ?_ ih
      show (Directory.write record d₁).2.2.unrecorded = _
      simp only [Directory.write]
      split <;> rfl
  | abandon _ call ih => exact ih

/-- A directory is steady. -/
theorem isSteady (d : Directory) : store.IsSteady d := by
  have hreply : ∀ (d : Directory) (call : StoreCall),
      (Directory.ask call d).1 = (Directory.ask call d.unrecorded).1 := by
    intro d call
    cases call <;> rfl
  intro d' hreaches call
  show (Directory.ask call d').1 = (Directory.ask call d).1
  rw [hreply d', hreply d, unrecorded_of_reaches hreaches]

/-- A directory holds no call. -/
theorem isPrompt (d : Directory) : store.IsPrompt d := by
  intro call hheld
  change (if d.failing.contains call.name then Reply.failed (.failure (refusal call))
    else .answered (d.answer call)) = .held at hheld
  split at hheld <;> cases hheld

end Directory

namespace Database

variable {db db' : Database}

/-- The tables of a database without the rows of its records. -/
def unrecorded? (db : Database) : Option Tables :=
  db.tables?.map fun t => { t with accesses := [] }

theorem unrecorded?_of_reaches (h : store.Reaches db db') : db'.unrecorded? = db.unrecorded? := by
  induction h with
  | refl => rfl
  | @ask db₁ _ call ih =>
      exact Eq.trans (congrArg unrecorded? (ask_leaves call db₁)) ih
  | @write db₁ _ record ih =>
      refine Eq.trans ?_ ih
      show (Database.write record db₁).2.2.unrecorded? = _
      simp only [unrecorded?]
      rw [tables?_write, Option.map_map]
      rfl
  | abandon _ call ih => exact ih

/-- What a database replies depends on its tables alone, and not on the rows of its records. -/
theorem ask_eq_of_unrecorded?_eq (h : db'.unrecorded? = db.unrecorded?) (call : StoreCall) :
    (Database.ask call db').1 = (Database.ask call db).1 := by
  cases hcall : callFault? call with
  | some fault =>
      simp only [Database.ask]
      rw [hcall]
  | none =>
      simp only [unrecorded?] at h
      cases ht : db.tables? with
      | none =>
          have ht' : db'.tables? = none := by
            rw [ht] at h
            exact Option.map_eq_none_iff.mp h
          simp only [Database.ask]
          rw [hcall]
          simp only [transact, ht, ht']
      | some t =>
          rw [ht, Option.map_some] at h
          obtain ⟨t', ht', hsame⟩ := Option.map_eq_some_iff.mp h
          rw [ask_of_tables? ht hcall, ask_of_tables? ht' hcall]
          have hanswer : ∀ t : Tables, answer t call = answer { t with accesses := [] } call := by
            intro t
            cases call <;> rfl
          rw [hanswer t', hanswer t, hsame]

/-- A database is steady. -/
theorem isSteady (db : Database) : store.IsSteady db := fun _ hreaches call =>
  ask_eq_of_unrecorded?_eq (unrecorded?_of_reaches hreaches) call

/-- A database holds no call. -/
theorem isPrompt (db : Database) : store.IsPrompt db := by
  intro call hheld
  change (Database.ask call db).1 = .held at hheld
  rcases ask_cases call db with ⟨t, _, hask⟩ | ⟨fault, entries, hask⟩
  · rw [hask] at hheld
    cases hheld
  · rw [hask] at hheld
    cases hheld

end Database

namespace Interposed

variable {σ : Type} {inner : Store σ} {s s' : Interposed σ}

/-- A store behind intercepted calls goes through what the store behind them goes through, and the same
calls are intercepted all the time. -/
theorem intercept_of_reaches (h : (store inner).Reaches s s') :
    s'.intercept = s.intercept ∧ inner.Reaches s.inner s'.inner := by
  induction h with
  | refl => exact ⟨rfl, .refl⟩
  | ask _ call ih =>
      simp only [store]
      split
      · exact ih
      · exact ⟨ih.1, ih.2.ask call⟩
  | write _ record ih =>
      simp only [store]
      split
      · exact ih
      · exact ⟨ih.1, ih.2.write record⟩
  | abandon _ call ih =>
      have habandoned := ih.2.abandon call
      cases call <;> exact ⟨ih.1, habandoned⟩

/-- A steady store is steady behind intercepted calls. -/
theorem isSteady (hinner : inner.IsSteady s.inner) : (store inner).IsSteady s := by
  intro s' hreaches call
  obtain ⟨hintercept, hreached⟩ := intercept_of_reaches hreaches
  simp only [store]
  rw [hintercept]
  split
  · rfl
  · exact hinner s'.inner hreached call

end Interposed

end Clearance
