/-
# Stores of qualified policies

A store changes when it is called, when it writes records, and when it learns that nobody waits for a
call any longer. It is qualified in a state if the rules and targets that it answers are qualified,
there and in every state that it can get into from there. For a directory this is so when its policies
are qualified, for a database when its tables hold nothing but qualified conditions.
-/

import Clearance.Database.Store
import Clearance.Proofs.Directory.Keyed
import Clearance.Proofs.Policy.Qualified

namespace Clearance

namespace Dispatcher

variable {ρ σ : Type} {sink : Sink ρ σ} {s : σ}

theorem drain_preserves (d : Dispatcher ρ) (holds : σ → Prop)
    (hsink : ∀ record s, holds s → holds (sink record s).2.2) (records : List ρ) (hs : holds s) :
    holds (drain sink d s records).2.1 := by
  induction records generalizing d s with
  | nil => exact hs
  | cons record rest ih =>
      rw [drain]
      dsimp only
      split
      · exact hsink record s hs
      · exact ih _ (hsink record s hs)

/-- What the sink leaves alone with every record, the worker leaves alone. -/
theorem work_preserves (d : Dispatcher ρ) (holds : σ → Prop)
    (hsink : ∀ record s, holds s → holds (sink record s).2.2) (hs : holds s) :
    holds (d.work sink s).2.1 := by
  simp only [work]
  split
  · exact hs
  · exact d.drain_preserves holds hsink _ hs
  · exact d.drain_preserves holds hsink _ hs

end Dispatcher

namespace Store

variable {σ : Type} {store : Store σ} {s s' : σ}

/-- A store gets from one state into another by calls, by records, and by calls that are given up. -/
inductive Reaches (store : Store σ) (s : σ) : σ → Prop
  | refl : Reaches store s s
  | ask {s' : σ} (h : Reaches store s s') (call : StoreCall) :
      Reaches store s (store.ask call s').2.2
  | write {s' : σ} (h : Reaches store s s') (record : Record) :
      Reaches store s (store.write record s').2.2
  | abandon {s' : σ} (h : Reaches store s s') (call : StoreCall) :
      Reaches store s (store.abandon call s')

/-- The worker of the audit does nothing to a store but write records. -/
theorem Reaches.work (h : store.Reaches s s') (d : Dispatcher Record) :
    store.Reaches s (d.work store.write s').2.1 :=
  d.work_preserves (store.Reaches s) (fun record _ h => h.write record) h

end Store

/-- The conditions in the answer to a call are qualified, if there are any. -/
def StoreCall.IsQualified : (call : StoreCall) → call.Answer → Prop
  | .rules _, found => ∀ r ∈ found, r.IsQualified
  | .targets _, found => ∀ t ∈ found, t.IsQualified
  | _, _ => True

/-- Whatever a store goes through, the conditions that it answers are qualified. -/
def Store.IsQualified {σ : Type} (store : Store σ) (s : σ) : Prop :=
  ∀ s', store.Reaches s s' → ∀ (call : StoreCall) (a : call.Answer),
    (store.ask call s').1 = .answered a → call.IsQualified a

/-! ## Directories -/

namespace Directory

variable {d d' : Directory}

/-- All policies of a directory are qualified. -/
def IsQualified (d : Directory) : Prop := ∀ p ∈ Ordered.values d.policies, p.IsQualified

theorem IsQualified.empty : ({} : Directory).IsQualified := nofun

theorem IsQualified.putPolicy (hd : d.IsQualified) {p : Policy} (hp : p.IsQualified) :
    (d.putPolicy p).IsQualified := by
  intro q hq
  obtain ⟨e, he, rfl⟩ := List.mem_map.mp hq
  rcases Ordered.mem_of_mem_set he with rfl | he
  · exact hp
  · exact hd _ (List.mem_map_of_mem he)

theorem policies_of_reaches (h : store.Reaches d d') : d'.policies = d.policies := by
  induction h with
  | refl => rfl
  | ask _ call ih => exact ih
  | write _ record ih => exact (write_policies record _).trans ih
  | abandon _ call ih => exact ih

/-- A directory of qualified policies is a qualified store. -/
theorem IsQualified.store (hd : d.IsQualified) : store.IsQualified d := by
  intro d' hreaches call a ha
  have hpolicies := policies_of_reaches hreaches
  have hget : ∀ id p, Ordered.get? id d'.policies = some p → p.IsQualified := by
    intro id p hp
    rw [hpolicies] at hp
    exact hd p (List.mem_map_of_mem (Ordered.mem_of_get? hp))
  have hanswer : a = d'.answer call := by
    change (if d'.failing.contains call.name then Reply.failed (.failure (refusal call))
      else .answered (d'.answer call)) = .answered a at ha
    split at ha
    · cases ha
    · exact (Reply.answered.inj ha).symm
  subst hanswer
  cases call with
  | rules id =>
      intro r hr
      simp only [answer] at hr
      cases hp : Ordered.get? id d'.policies with
      | none =>
          rw [hp] at hr
          cases hr
      | some p =>
          rw [hp] at hr
          exact (hget id p hp).rules r hr
  | targets id =>
      intro t ht
      simp only [answer] at ht
      cases hp : Ordered.get? id d'.policies with
      | none =>
          rw [hp] at ht
          cases ht
      | some p =>
          rw [hp] at ht
          exact (hget id p hp).targets t ht
  | _ => trivial

end Directory

/-! ## Databases -/

/-- All conditions that tables hold are qualified. -/
structure Tables.IsQualified (t : Tables) : Prop where
  rules : ∀ policy, ∀ r ∈ t.rulesOf policy, r.IsQualified
  targets : ∀ policy, ∀ target ∈ t.targetsOf policy, target.IsQualified

namespace Database

variable {db db' : Database} {t : Tables}

theorem engine_of_tables? (ht : db.tables? = some t) : db.engine = .connected (some t) := by
  simp only [tables?] at ht
  split at ht
  · rename_i tables hengine
    rw [hengine, ht]
  · cases ht

/-- A call that can be put to a database with tables is answered from them. -/
theorem ask_of_tables? (ht : db.tables? = some t) {call : StoreCall} (hcall : callFault? call = none) :
    ask call db = (.answered (answer t call), [], db) := by
  have hask : ask call db = (.answered (answer t call), [],
      { db with engine := .connected (some { t with
        rules := t.rules ++ [], targets := t.targets ++ [] }) }) := by
    simp only [ask]
    rw [hcall]
    simp only [transact, ht]
    rfl
  rw [hask, List.append_nil, List.append_nil, ← engine_of_tables? ht]

theorem ask_of_tables?_eq_none (ht : db.tables? = none) {call : StoreCall}
    (hcall : callFault? call = none) :
    ∃ fault entries, ask call db = (.failed fault, entries, db) := by
  simp only [ask]
  rw [hcall]
  simp only [transact, ht]
  exact ⟨_, _, rfl⟩

/-- A call leaves a database as it is, and is answered from its tables if it is answered at all. -/
theorem ask_cases (call : StoreCall) (db : Database) :
    (∃ t, db.tables? = some t ∧ ask call db = (.answered (answer t call), [], db)) ∨
      ∃ fault entries, ask call db = (.failed fault, entries, db) := by
  cases hcall : callFault? call with
  | some fault =>
      right
      simp only [ask]
      rw [hcall]
      exact ⟨fault, [], rfl⟩
  | none =>
      cases ht : db.tables? with
      | some t => exact .inl ⟨t, rfl, ask_of_tables? ht hcall⟩
      | none => exact .inr (ask_of_tables?_eq_none ht hcall)

/-- A call leaves a database as it is. -/
theorem ask_leaves (call : StoreCall) (db : Database) : (ask call db).2.2 = db := by
  rcases ask_cases call db with ⟨t, _, hask⟩ | ⟨fault, entries, hask⟩
  · rw [hask]
  · rw [hask]

/-- Writing a record adds a row to one table, if there are tables. -/
theorem tables?_write (record : Record) (db : Database) :
    (write record db).2.2.tables? = db.tables?.map fun t =>
      { t with accesses := t.accesses ++ [accessRow t record] } := by
  cases ht : db.tables? with
  | none =>
      simp only [write]
      simp only [transact, ht]
      rfl
  | some t =>
      have hwrite : write record db = (.written, [], { db with engine := .connected (some { t with
          rules := t.rules ++ [], targets := t.targets ++ []
          accesses := t.accesses ++ [accessRow t record] }) }) := by
        simp only [write]
        simp only [transact, ht]
        rfl
      rw [hwrite, List.append_nil, List.append_nil]
      rfl

/-- All conditions that a database holds are qualified, if it has tables at all. -/
def IsQualified (db : Database) : Prop := ∀ t, db.tables? = some t → t.IsQualified

theorem IsQualified.write (hdb : db.IsQualified) (record : Record) :
    (write record db).2.2.IsQualified := by
  intro t ht
  rw [tables?_write] at ht
  obtain ⟨t', ht', rfl⟩ := Option.map_eq_some_iff.mp ht
  exact ⟨(hdb t' ht').rules, (hdb t' ht').targets⟩

theorem IsQualified.of_reaches (hdb : db.IsQualified) (h : store.Reaches db db') :
    db'.IsQualified := by
  induction h with
  | refl => exact hdb
  | ask _ call ih => exact (ask_leaves call _).symm ▸ ih
  | write _ record ih => exact ih.write record
  | abandon _ call ih => exact ih

/-- A database of qualified conditions is a qualified store. -/
theorem IsQualified.store (hdb : db.IsQualified) : store.IsQualified db := by
  intro db' hreaches call a ha
  have htables := hdb.of_reaches hreaches
  change (Database.ask call db').1 = .answered a at ha
  rcases ask_cases call db' with ⟨t, ht, hask⟩ | ⟨fault, entries, hask⟩
  · rw [hask] at ha
    obtain rfl := Reply.answered.inj ha
    cases call with
    | rules policy => exact (htables t ht).rules policy
    | targets policy => exact (htables t ht).targets policy
    | _ => trivial
  · rw [hask] at ha
    cases ha

end Database

end Clearance
