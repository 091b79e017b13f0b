/-
# What questions do to a world

A question changes only the parts of a world that it is about. Maps get into the cache only when they
are to be remembered, records get to the audit only when they are submitted, and what is said on the
way is always taken note of. The audit works on its own while a call is waited for; that takes records
from its queue and never adds one.
-/

import Clearance.Proofs.Ordered
import Clearance.Proofs.Process.Contract
import Clearance.Service.World

namespace Clearance

namespace Question

/-- Whether a question only tells something to those who watch. -/
def isReport : Question → Bool
  | note _ | announce .. => true
  | _ => false

/-- Whether a question is for the log of security events, which may fail on it. -/
def isLogged : Question → Bool
  | announce .. | reject .. => true
  | _ => false

/-- Whether a question keeps a map for later requests. -/
def isKeeping : Question → Bool
  | remember .. => true
  | _ => false

/-- Whether a question hands a record in. -/
def isHandingIn : Question → Bool
  | submit _ => true
  | _ => false

/-- Whether a question tells something and calls for no answer. -/
def isTelling (q : Question) : Bool := q.isReport || q.isHandingIn

theorem isTelling_of_isReport (q : Question) (h : q.isReport) : q.isTelling := by
  rw [isTelling, h, Bool.true_or]

theorem isKeeping_of_isTelling {q : Question} (h : q.isTelling) : q.isKeeping = false := by
  cases q with
  | remember key m => cases h
  | _ => rfl

theorem isHandingIn_of_isReport {q : Question} (h : q.isReport) : q.isHandingIn = false := by
  cases q with
  | submit record => cases h
  | _ => rfl

/-- Whether a question leaves the cache without a new map and the audit without a new record. -/
def isPassive (q : Question) : Bool := !q.isKeeping && !q.isHandingIn

end Question

/-! ## The audit -/

namespace Dispatcher

variable {ρ σ : Type}

/-- The number of records that were handed in, accepted or not. -/
def handedIn (d : Dispatcher ρ) : Nat := d.submitted + d.dropped

theorem settle_handedIn (d : Dispatcher ρ) (record : ρ) (reply : SinkReply) :
    (d.settle record reply).1.handedIn = d.handedIn := by
  cases reply <;> rfl

theorem drain_handedIn (sink : Sink ρ σ) (d : Dispatcher ρ) (world : σ) (records : List ρ) :
    (drain sink d world records).1.handedIn = d.handedIn := by
  induction records generalizing d world with
  | nil => rfl
  | cons record rest ih =>
      have hsettle := d.settle_handedIn record (sink record world).1
      rw [drain]
      dsimp only
      split
      · exact hsettle
      · exact (ih _ _).trans hsettle

/-- The worker hands nothing in. -/
theorem work_handedIn (sink : Sink ρ σ) (d : Dispatcher ρ) (world : σ) :
    (d.work sink world).1.handedIn = d.handedIn := by
  simp only [work]
  split
  · rfl
  · exact drain_handedIn sink d world _
  · exact drain_handedIn sink d world _

end Dispatcher

namespace World

variable {σ : Type} (store : Store σ) (w : World σ)

/-- The maps that are kept for later requests, with their keys and the times at which they expire. -/
def remembered : List (CacheKey × CacheEntry AttributeMap Float) :=
  (w.cache.map fun cache => cache.maps.entries).getD []

/-- The number of records that were handed to the audit. -/
def submissions : Nat := (w.audit.map Dispatcher.handedIn).getD 0

/-! ## What surrounds a world -/

/-- What no question changes: the clocks, the log, the deadline, and whether answers are waited for. -/
structure Surroundings where
  now : Time.Moment
  seconds : Float
  logger : Option SecurityLogger
  loggerFault : Option String
  violationFault : Option String
  remaining : Option Float
  isHasty : Bool

/-- What surrounds a world. -/
def surroundings : Surroundings where
  now := w.now
  seconds := w.seconds
  logger := w.logger
  loggerFault := w.loggerFault
  violationFault := w.violationFault
  remaining := w.remaining
  isHasty := w.isHasty

theorem surroundings_serve : (w.serve store).surroundings = w.surroundings := by
  simp only [serve]
  split <;> rfl

theorem surroundings_call (c : StoreCall) :
    (w.call store c).2.surroundings = w.surroundings := by
  simp only [call]
  split
  · exact surroundings_serve store _
  · rfl

theorem surroundings_handler (q : Question) :
    (handler store q w).2.surroundings = w.surroundings := by
  cases q with
  | ask c => exact surroundings_call store w c
  | askWithin limit c =>
      have hcalled := surroundings_call store w c
      simp only [handler, expire]
      split
      · exact hcalled
      · split <;> exact hcalled
  | lookUp key =>
      simp only [handler]
      split <;> rfl
  | submit record =>
      simp only [handler]
      split <;> rfl
  | announce subject facts =>
      simp only [handler, report]
      split
      · rfl
      · split <;> rfl
  | reject policy problems =>
      simp only [handler, report]
      split
      · rfl
      · split <;> rfl
  | _ => rfl

/-! ## Answers to reports and submissions -/

/-- A report is always taken note of, and changes nothing else. -/
theorem handler_report {q : Question} (hq : q.isReport) :
    ∃ a, (handler store q w).1 = some a ∧ (handler store q w).2.store = w.store ∧
      (handler store q w).2.cache = w.cache ∧ (handler store q w).2.audit = w.audit := by
  cases q with
  | note entries => exact ⟨(), rfl, rfl, rfl, rfl⟩
  | announce subject facts =>
      simp only [handler, report]
      rcases w.logger with _ | logger
      · exact ⟨none, rfl, rfl, rfl, rfl⟩
      · rcases w.loggerFault with _ | message
        · exact ⟨none, rfl, rfl, rfl, rfl⟩
        · exact ⟨some message, rfl, rfl, rfl, rfl⟩
  | _ => cases hq

/-- A submission is always taken note of. -/
theorem handler_submit (record : Record) :
    (handler store (.submit record) w).1 = some () := by
  simp only [handler]
  rcases w.audit with _ | audit <;> rfl

/-- Whatever is told is taken note of. -/
theorem handler_telling (q : Question) (w : World σ) (hq : q.isTelling) :
    ∃ a, (handler store q w).1 = some a := by
  rcases Bool.or_eq_true_iff.mp hq with hreport | hhanding
  · obtain ⟨a, ha, _⟩ := handler_report store w hreport
    exact ⟨a, ha⟩
  · cases q with
    | submit record => exact ⟨(), handler_submit store w record⟩
    | _ => cases hhanding

/-! ## What stays as it is -/

theorem serve_cache : (w.serve store).cache = w.cache := by
  simp only [serve]
  rcases w.audit with _ | audit <;> rfl

theorem serve_submissions : (w.serve store).submissions = w.submissions := by
  simp only [serve, submissions]
  rcases haudit : w.audit with _ | audit
  · simp only [haudit, Option.map_none]
  · exact audit.work_handedIn store.write w.store

theorem call_cache (c : StoreCall) : (w.call store c).2.cache = w.cache := by
  rw [call]
  dsimp only
  split
  · exact serve_cache store _
  · rfl

theorem call_submissions (c : StoreCall) : (w.call store c).2.submissions = w.submissions := by
  rw [call]
  dsimp only
  split
  · exact serve_submissions store _
  · rfl

theorem expire_cache (limit : Span) (c : StoreCall) :
    (w.expire store limit c).2.cache = w.cache := by
  simp only [expire]
  split <;> rfl

theorem expire_submissions (limit : Span) (c : StoreCall) :
    (w.expire store limit c).2.submissions = w.submissions := by
  simp only [expire]
  split <;> rfl

/-- A world without a cache does not get one. -/
theorem cache_handler_of_eq_none (hw : w.cache = none) (q : Question) :
    (handler store q w).2.cache = none := by
  cases q with
  | ask c => exact (call_cache store w c).trans hw
  | askWithin limit c =>
      simp only [handler]
      split
      · exact (call_cache store w c).trans hw
      · exact (expire_cache store _ limit c).trans ((call_cache store w c).trans hw)
  | lookUp key => simp only [handler, hw]
  | remember key m => simp only [handler, hw, Option.map_none]
  | submit record =>
      simp only [handler]
      split <;> exact hw
  | announce subject facts =>
      obtain ⟨_, _, _, hcache, _⟩ := handler_report store w (q := .announce subject facts) rfl
      exact hcache.trans hw
  | reject policy problems =>
      simp only [handler, report]
      split
      · exact hw
      · split <;> exact hw
  | _ => exact hw

/-- Looking a map up may drop it, and never adds one. -/
theorem mem_of_mem_get {cache : AttributeCache} {now : Float} {key : CacheKey}
    {e : CacheKey × CacheEntry AttributeMap Float}
    (h : e ∈ (cache.get now key).2.maps.entries) : e ∈ cache.maps.entries := by
  simp only [AttributeCache.get, BoundedCache.get] at h
  rcases hfound : Ordered.get? key cache.maps.entries with _ | entry
  · rw [hfound] at h
    exact h
  · rw [hfound] at h
    dsimp only at h
    split at h
    · exact Ordered.mem_of_mem_erase h
    · rcases List.mem_append.mp h with h | h
      · exact Ordered.mem_of_mem_erase h
      · rw [List.mem_singleton.mp h]
        exact Ordered.mem_of_get? hfound

/-- A map that is found was kept. -/
theorem mem_of_get_eq_some {cache : AttributeCache} {now : Float} {key : CacheKey}
    {m : AttributeMap} (h : (cache.get now key).1 = some m) :
    ∃ e ∈ cache.maps.entries, e.1 = key ∧ e.2.value = m := by
  simp only [AttributeCache.get, BoundedCache.get] at h
  rcases hfound : Ordered.get? key cache.maps.entries with _ | entry
  · rw [hfound] at h
    cases h
  · rw [hfound] at h
    dsimp only at h
    split at h
    · cases h
    · exact ⟨(key, entry), Ordered.mem_of_get? hfound, rfl, Option.some.inj h⟩

/-- A map that is found in the cache was kept there. -/
theorem mem_remembered_of_lookUp {key : CacheKey} {m : AttributeMap}
    (h : (handler store (.lookUp key) w).1 = some (some m)) :
    ∃ e ∈ w.remembered, e.1 = key ∧ e.2.value = m := by
  simp only [handler] at h
  rcases hcache : w.cache with _ | cache
  · rw [hcache] at h
    cases h
  · rw [hcache] at h
    obtain ⟨e, he, hfound⟩ := mem_of_get_eq_some (Option.some.inj h)
    refine ⟨e, ?_, hfound⟩
    simp only [remembered, hcache]
    exact he

theorem mem_of_mem_shed {κ α τ : Type} {limit : Number} {entries : List (κ × CacheEntry α τ)}
    {e : κ × CacheEntry α τ} (h : e ∈ (BoundedCache.shed limit entries).1) : e ∈ entries := by
  induction entries with
  | nil => exact h
  | cons entry rest ih =>
      simp only [BoundedCache.shed] at h
      split at h
      · exact List.mem_cons_of_mem _ (ih h)
      · exact h

/-- A map that is to be remembered is the only one that gets into the cache. -/
theorem mem_remembered_of_remember {key : CacheKey} {m : AttributeMap}
    {e : CacheKey × CacheEntry AttributeMap Float}
    (h : e ∈ (handler store (.remember key m) w).2.remembered) :
    e ∈ w.remembered ∨ e.1 = key ∧ e.2.value = m := by
  simp only [handler, remembered] at h ⊢
  rcases hcache : w.cache with _ | cache
  · rw [hcache] at h
    exact .inl h
  · rw [hcache] at h
    simp only [Option.map_some, Option.getD_some, AttributeCache.put, BoundedCache.put,
      List.mem_append, List.mem_singleton] at h ⊢
    rcases h with h | rfl
    · exact .inl (Ordered.mem_of_mem_erase (mem_of_mem_shed h))
    · exact .inr ⟨rfl, rfl⟩

/-- Only what is to be remembered gets into the cache. -/
theorem mem_remembered_of_handler {q : Question} (hq : q.isKeeping = false)
    {e : CacheKey × CacheEntry AttributeMap Float}
    (h : e ∈ (handler store q w).2.remembered) : e ∈ w.remembered := by
  have hsame : ∀ w' : World σ, w'.cache = w.cache → e ∈ w'.remembered → e ∈ w.remembered := by
    intro w' hcache he
    simp only [remembered] at he ⊢
    rw [← hcache]
    exact he
  cases q with
  | lookUp key =>
      simp only [handler] at h
      rcases hcache : w.cache with _ | cache
      · rw [hcache] at h
        exact h
      · rw [hcache] at h
        simp only [remembered, hcache] at h ⊢
        exact mem_of_mem_get h
  | remember key m => cases hq
  | ask c => exact hsame _ (call_cache store w c) h
  | askWithin limit c =>
      refine hsame _ ?_ h
      simp only [handler]
      split
      · exact call_cache store w c
      · exact (expire_cache store _ limit c).trans (call_cache store w c)
  | submit record =>
      refine hsame _ ?_ h
      simp only [handler]
      rcases w.audit with _ | audit <;> rfl
  | reject policy problems =>
      refine hsame _ ?_ h
      simp only [handler, report]
      split
      · rfl
      · split <;> rfl
  | note entries => exact h
  | announce subject facts =>
      obtain ⟨_, _, _, hcache, _⟩ := handler_report store w (q := .announce subject facts) rfl
      exact hsame _ hcache h
  | time => exact h

/-- Only what is submitted gets to the audit. -/
theorem handler_submissions {q : Question} (hq : q.isHandingIn = false) :
    (handler store q w).2.submissions = w.submissions := by
  have hsame : ∀ w' : World σ, w'.audit = w.audit → w'.submissions = w.submissions := by
    intro w' haudit
    simp only [submissions]
    rw [haudit]
  cases q with
  | lookUp key =>
      apply hsame
      simp only [handler]
      rcases w.cache with _ | cache <;> rfl
  | remember key m => rfl
  | ask c => exact call_submissions store w c
  | askWithin limit c =>
      simp only [handler]
      split
      · exact call_submissions store w c
      · exact (expire_submissions store _ limit c).trans (call_submissions store w c)
  | submit record => cases hq
  | reject policy problems =>
      apply hsame
      simp only [handler, report]
      split
      · rfl
      · split <;> rfl
  | note entries => rfl
  | announce subject facts =>
      obtain ⟨_, _, _, _, haudit⟩ := handler_report store w (q := .announce subject facts) rfl
      exact hsame _ haudit
  | time => rfl

section Runs

variable {α : Type} {p : Process α} {w' : World σ} {a : α}

/-- A process that only reports ends in every world, and changes nothing that answers depend on. -/
theorem run_of_reports (hp : p.EndsIn (fun q => q.isReport) a) :
    ∃ w', p.run (handler store) w = (.done a, w') ∧
      w'.store = w.store ∧ w'.cache = w.cache ∧ w'.audit = w.audit := by
  have hanswers : ∀ (q : Question) (w : World σ), q.isReport →
      ∃ answer, (handler store q w).1 = some answer := by
    intro q w hq
    obtain ⟨answer, hanswer, _⟩ := handler_report store w hq
    exact ⟨answer, hanswer⟩
  have hstep : ∀ (q : Question) (w₁ : World σ), q.isReport →
      (w₁.store = w.store ∧ w₁.cache = w.cache ∧ w₁.audit = w.audit) →
        (handler store q w₁).2.store = w.store ∧ (handler store q w₁).2.cache = w.cache ∧
          (handler store q w₁).2.audit = w.audit := by
    rintro q w₁ hq ⟨hstore, hcache, haudit⟩
    obtain ⟨_, _, hstore', hcache', haudit'⟩ := handler_report store w₁ hq
    exact ⟨hstore'.trans hstore, hcache'.trans hcache, haudit'.trans haudit⟩
  obtain ⟨w', hrun⟩ := hp.run hanswers w
  exact ⟨w', hrun, Process.run_preserves
    (fun w₁ => w₁.store = w.store ∧ w₁.cache = w.cache ∧ w₁.audit = w.audit) hstep hrun
    (fun x hx => hp.asks_of_mem hx) ⟨rfl, rfl, rfl⟩⟩

variable {store w}

/-- A run that hands nothing in leaves the audit without a new record. -/
theorem submissions_of_run (hrun : p.run (handler store) w = (.done a, w'))
    (hasks : ∀ x ∈ p.exchanges (handler store) w, x.question.isHandingIn = false) :
    w'.submissions = w.submissions := by
  have hstep : ∀ (q : Question) (w₁ : World σ), q.isHandingIn = false →
      w₁.submissions = w.submissions → (handler store q w₁).2.submissions = w.submissions :=
    fun q w₁ hq hw₁ => (handler_submissions store w₁ hq).trans hw₁
  exact Process.run_preserves (fun w₁ => w₁.submissions = w.submissions) hstep hrun hasks rfl

/-- A run that keeps nothing leaves the cache without a new entry. -/
theorem mem_remembered_of_run (hrun : p.run (handler store) w = (.done a, w'))
    (hasks : ∀ x ∈ p.exchanges (handler store) w, x.question.isKeeping = false) :
    ∀ e ∈ w'.remembered, e ∈ w.remembered := by
  have hstep : ∀ (q : Question) (w₁ : World σ), q.isKeeping = false →
      (∀ e ∈ w₁.remembered, e ∈ w.remembered) →
        ∀ e ∈ (handler store q w₁).2.remembered, e ∈ w.remembered :=
    fun q w₁ hq hw₁ e he => hw₁ e (mem_remembered_of_handler store w₁ hq he)
  exact Process.run_preserves (fun w₁ => ∀ e ∈ w₁.remembered, e ∈ w.remembered) hstep hrun hasks
    fun _ he => he

end Runs

end World

end Clearance
