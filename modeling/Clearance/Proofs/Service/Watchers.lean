/-
# Those who watch

A world is watched by its audit, its log of security events and its trace. Two worlds may be watched in
different ways: by an audit that takes every record, by one that is full, whose worker is stuck or whose
sink fails, or by none; by a log that is written, by one that fails, or by none. If the stores reply
alike and everything else is the same, the worlds answer the same, apart from what is said to a log.

Where the records go makes a difference only to a store whose replies depend on its records. A store
beside a sink is none of that kind, and neither is a directory or a database.
-/

import Clearance.Proofs.Process.Watching
import Clearance.Proofs.Service.Steady

namespace Clearance

/-! ## Stores beside sinks -/

namespace Store

variable {σ τ τ' : Type}

/-- In related states two stores reply alike, and no record makes a difference to that. -/
structure RepliesAlike (store : Store σ) (other : Store τ) (alike : σ → τ → Prop) : Prop where
  reply_eq : ∀ {s t}, alike s t → ∀ call, (store.ask call s).1 = (other.ask call t).1
  ask : ∀ {s t}, alike s t → ∀ call, alike (store.ask call s).2.2 (other.ask call t).2.2
  abandon : ∀ {s t}, alike s t → ∀ call, alike (store.abandon call s) (other.abandon call t)
  write_left : ∀ {s t}, alike s t → ∀ record, alike (store.write record s).2.2 t
  write_right : ∀ {s t}, alike s t → ∀ record, alike s (other.write record t).2.2

/-- A store whose records go to a sink with a state of its own. -/
def withSink (store : Store σ) (sink : Sink Record τ) : Store (σ × τ) where
  ask := fun call s =>
    let (reply, entries, state) := store.ask call s.1
    (reply, entries, state, s.2)
  write := fun record s =>
    let (reply, entries, state) := sink record s.2
    (reply, entries, s.1, state)
  isSlow := fun call s => store.isSlow call s.1
  abandon := fun call s => (store.abandon call s.1, s.2)

/-- Whatever sink is beside it, a store replies the same. -/
theorem withSink_repliesAlike (store : Store σ) (sink : Sink Record τ) (sink' : Sink Record τ') :
    (store.withSink sink).RepliesAlike (store.withSink sink') fun s t => s.1 = t.1 where
  reply_eq := fun hs call => congrArg (fun state => (store.ask call state).1) hs
  ask := fun hs call => congrArg (fun state => (store.ask call state).2.2) hs
  abandon := fun hs call => congrArg (store.abandon call) hs
  write_left := fun hs _ => hs
  write_right := fun hs _ => hs

end Store

/-- A directory without what becomes of its records. -/
def Directory.unwatched (d : Directory) : Directory :=
  { d with calls := [], records := [], failing := d.failing.filter (· ≠ recordCallName) }

/-- Two directories reply alike that differ only in what becomes of their records. -/
theorem Directory.repliesAlike :
    store.RepliesAlike store fun d d' : Directory => d.unwatched = d'.unwatched where
  reply_eq := by
    intro d d' hd call
    have hreply : ∀ d : Directory, (Directory.ask call d).1 = (Directory.ask call d.unwatched).1 := by
      intro d
      have hname : call.name ≠ recordCallName := by
        cases call <;> simp [StoreCall.name, recordCallName]
      have hfails : d.unwatched.failing.contains call.name = d.failing.contains call.name := by
        rw [Bool.eq_iff_iff, List.contains_iff_mem, List.contains_iff_mem]
        simp [unwatched, hname]
      have hanswer : d.unwatched.answer call = d.answer call := by cases call <;> rfl
      simp only [Directory.ask]
      rw [hfails, hanswer]
    show (Directory.ask call d).1 = (Directory.ask call d').1
    rw [hreply d, hreply d', hd]
  ask := fun hd _ => hd
  abandon := fun hd _ => hd
  write_left := fun {d _} hd record => (unwatched_write record d).trans hd
  write_right := fun {_ d'} hd record => hd.trans (unwatched_write record d').symm
where
  unwatched_write (record : Record) (d : Directory) :
      (Directory.write record d).2.2.unwatched = d.unwatched := by
    simp only [Directory.write]
    split <;> rfl

/-- Two databases reply alike that differ only in the rows of their records. -/
theorem Database.repliesAlike :
    store.RepliesAlike store fun db db' : Database => db.unrecorded? = db'.unrecorded? where
  reply_eq := fun hdb call => ask_eq_of_unrecorded?_eq hdb call
  ask := fun hdb call => (unrecorded?_of_reaches (.ask .refl call)).trans
    (hdb.trans (unrecorded?_of_reaches (.ask .refl call)).symm)
  abandon := fun hdb _ => hdb
  write_left := fun hdb record => (unrecorded?_of_reaches (.write .refl record)).trans hdb
  write_right := fun hdb record => hdb.trans (unrecorded?_of_reaches (.write .refl record)).symm

/-! ## What those who watch are told -/

/-- What a question announces: the facts of a decision, and whose request it was. -/
def Question.announced? : Question → Option (Option String × DecisionFacts)
  | .announce subject facts => some (subject, facts)
  | _ => none

/-- The record that a question hands in. -/
def Question.handedIn? : Question → Option Record
  | .submit record => some record
  | _ => none

namespace Dispatcher

variable {ρ : Type}

/-- A record is handed in, whether it is accepted or not. -/
theorem submit_handedIn (d : Dispatcher ρ) (record : ρ) :
    (d.submit record).2.1.handedIn = d.handedIn + 1 := by
  have hstart : d.start.handedIn = d.handedIn := by
    simp only [start]
    split <;> rfl
  simp only [submit]
  split
  · rw [← hstart]
    rfl
  · rw [← hstart]
    exact Nat.succ_add ..

end Dispatcher

namespace World

variable {σ : Type} (store : Store σ) (w : World σ)

theorem isSome_audit_serve : (w.serve store).audit.isSome = w.audit.isSome := by
  simp only [serve]
  cases haudit : w.audit with
  | none => simp [haudit]
  | some audit => rfl

theorem isSome_audit_call (c : StoreCall) : (w.call store c).2.audit.isSome = w.audit.isSome := by
  simp only [call]
  split
  · exact isSome_audit_serve store _
  · rfl

/-- No question does away with the audit, or sets one up. -/
theorem isSome_audit_handler (q : Question) :
    (handler store q w).2.audit.isSome = w.audit.isSome := by
  cases q with
  | ask c => exact isSome_audit_call store w c
  | askWithin limit c =>
      have hcalled := isSome_audit_call store w c
      simp only [handler, expire]
      split
      · exact hcalled
      · split <;> exact hcalled
  | lookUp key =>
      simp only [handler]
      split <;> rfl
  | submit record =>
      simp only [handler]
      cases haudit : w.audit with
      | none => simp [haudit]
      | some audit => rfl
  | reject policy problems =>
      simp only [handler, report]
      split
      · rfl
      · split <;> rfl
  | announce subject facts =>
      obtain ⟨_, _, _, _, haudit⟩ := handler_report store w (q := .announce subject facts) rfl
      rw [haudit]
  | _ => rfl

/-- Where there is an audit, it gets every record that is handed in. -/
theorem submissions_handler (haudit : w.audit.isSome) (q : Question) :
    (handler store q w).2.submissions = w.submissions + q.handedIn?.toList.length := by
  cases q with
  | submit record =>
      obtain ⟨audit, haudit⟩ := Option.isSome_iff_exists.mp haudit
      simp only [handler, submissions, haudit, Option.map_some, Option.getD_some]
      exact audit.submit_handedIn record
  | _ => exact handler_submissions store w rfl

/-- The audit has got all records that were handed in during a run. -/
theorem submissions_run {α : Type} {p : Process α} {w w' : World σ} {a : α}
    (haudit : w.audit.isSome) (hrun : p.run (handler store) w = (.done a, w')) :
    w'.submissions = w.submissions +
      ((p.exchanges (handler store) w).filterMap fun x => x.question.handedIn?).length := by
  induction p generalizing w with
  | done a =>
      cases hrun
      rfl
  | wait q next ih =>
      have hstep := submissions_handler store w haudit q
      have hstays := isSome_audit_handler store w q
      simp only [Process.run, Process.exchanges] at hrun ⊢
      rcases hq : handler store q w with ⟨_ | answer, w₁⟩
      · rw [hq] at hrun
        cases hrun
      · rw [hq] at hrun hstep hstays
        rw [ih answer (hstays.trans haudit) hrun, hstep, List.filterMap_cons]
        dsimp only
        cases q.handedIn? with
        | none => rfl
        | some record => exact Nat.add_right_comm ..

end World

/-! ## Worlds and their watchers -/

/-- Whether a question is for those who watch. -/
def Question.isForWatchers (q : Question) : Bool := q.isTelling || q.isLogged

namespace World

variable {σ τ : Type} {store : Store σ} {other : Store τ} {alike : σ → τ → Prop} {w : World σ}
  {v : World τ}

/-- Two worlds differ in nothing but those who watch, and answers are waited for in both of them. -/
structure DiffersInWatchers (alike : σ → τ → Prop) (w : World σ) (v : World τ) : Prop where
  store : alike w.store v.store
  now_eq : w.now = v.now
  seconds_eq : w.seconds = v.seconds
  cache_eq : w.cache = v.cache
  remaining_eq : w.remaining = v.remaining
  waits : w.isHasty = false
  waits' : v.isHasty = false

/-- A world in which a store was called, and nothing else has happened since. -/
def asked (store : Store σ) (c : StoreCall) (w : World σ) : World σ :=
  { w with store := (store.ask c w.store).2.2 }.note (store.ask c w.store).2.1

/-- During a call, the audit gets to work or it does not. -/
theorem call_cases (store : Store σ) (w : World σ) (c : StoreCall) :
    (w.call store c).2 = w.asked store c ∨ (w.call store c).2 = (w.asked store c).serve store := by
  simp only [call]
  split
  · exact .inr rfl
  · exact .inl rfl

/-- Those who watch always have an answer, and leave the store and the cache alone. -/
theorem handler_isForWatchers (store : Store σ) (w : World σ) {q : Question} (hq : q.isForWatchers) :
    (∃ a, (handler store q w).1 = some a) ∧ (handler store q w).2.store = w.store ∧
      (handler store q w).2.cache = w.cache := by
  cases q with
  | note entries => exact ⟨⟨(), rfl⟩, rfl, rfl⟩
  | submit record =>
      simp only [handler]
      split <;> exact ⟨⟨(), rfl⟩, rfl, rfl⟩
  | announce subject facts =>
      obtain ⟨a, ha, hstore, hcache, -⟩ := handler_report store w (q := .announce subject facts) rfl
      exact ⟨⟨a, ha⟩, hstore, hcache⟩
  | reject policy problems =>
      simp only [handler, report]
      split
      · exact ⟨⟨_, rfl⟩, rfl, rfl⟩
      · split <;> exact ⟨⟨none, rfl⟩, rfl, rfl⟩
  | _ => cases hq

namespace DiffersInWatchers

/-- What surrounds the worlds stays as it is. -/
theorem of_surroundings {w' : World σ} {v' : World τ} (hw : DiffersInWatchers alike w v)
    (hleft : w'.surroundings = w.surroundings) (hright : v'.surroundings = v.surroundings)
    (hstore : alike w'.store v'.store) (hcache : w'.cache = v'.cache) :
    DiffersInWatchers alike w' v' where
  store := hstore
  now_eq := (congrArg Surroundings.now hleft).trans
    (hw.now_eq.trans (congrArg Surroundings.now hright).symm)
  seconds_eq := (congrArg Surroundings.seconds hleft).trans
    (hw.seconds_eq.trans (congrArg Surroundings.seconds hright).symm)
  cache_eq := hcache
  remaining_eq := (congrArg Surroundings.remaining hleft).trans
    (hw.remaining_eq.trans (congrArg Surroundings.remaining hright).symm)
  waits := (congrArg Surroundings.isHasty hleft).trans hw.waits
  waits' := (congrArg Surroundings.isHasty hright).trans hw.waits'

theorem serve_left (hw : DiffersInWatchers alike w v) (hstores : store.RepliesAlike other alike) :
    DiffersInWatchers alike (w.serve store) v := by
  refine hw.of_surroundings (surroundings_serve store w) rfl ?_
    ((serve_cache store w).trans hw.cache_eq)
  simp only [serve]
  split
  · exact hw.store
  · rename_i audit _
    exact audit.work_preserves (fun s => alike s v.store)
      (fun record _ hs => hstores.write_left hs record) hw.store

theorem serve_right (hw : DiffersInWatchers alike w v) (hstores : store.RepliesAlike other alike) :
    DiffersInWatchers alike w (v.serve other) := by
  refine hw.of_surroundings rfl (surroundings_serve other v) ?_
    (hw.cache_eq.trans (serve_cache other v).symm)
  simp only [serve]
  split
  · exact hw.store
  · rename_i audit _
    exact audit.work_preserves (fun t => alike w.store t)
      (fun record _ ht => hstores.write_right ht record) hw.store

/-- A call is answered the same, although the audit may get to work in one of the worlds only. -/
theorem call (hw : DiffersInWatchers alike w v) (hstores : store.RepliesAlike other alike)
    (c : StoreCall) :
    (w.call store c).1 = (v.call other c).1 ∧
      DiffersInWatchers alike (w.call store c).2 (v.call other c).2 := by
  have hasked : DiffersInWatchers alike (w.asked store c) (v.asked other c) :=
    hw.of_surroundings rfl rfl (hstores.ask hw.store c) hw.cache_eq
  constructor
  · rw [reply_call hw.waits, reply_call hw.waits']
    exact hstores.reply_eq hw.store c
  · rcases w.call_cases store c with hleft | hleft <;> rcases v.call_cases other c with hright | hright
    · rw [hleft, hright]
      exact hasked
    · rw [hleft, hright]
      exact hasked.serve_right hstores
    · rw [hleft, hright]
      exact hasked.serve_left hstores
    · rw [hleft, hright]
      exact (hasked.serve_left hstores).serve_right hstores

theorem expire (hw : DiffersInWatchers alike w v) (hstores : store.RepliesAlike other alike)
    (limit : Span) (c : StoreCall) :
    (w.expire store limit c).1 = (v.expire other limit c).1 ∧
      DiffersInWatchers alike (w.expire store limit c).2 (v.expire other limit c).2 := by
  simp only [World.expire, hw.waits, hw.waits', Bool.false_or]
  rw [hw.remaining_eq]
  split
  · exact ⟨rfl, hw⟩
  · exact ⟨rfl, hstores.abandon hw.store c, hw.now_eq, hw.seconds_eq, hw.cache_eq, rfl, rfl, rfl⟩

/-- What is not meant for those who watch is answered the same. -/
theorem handler (hw : DiffersInWatchers alike w v) (hstores : store.RepliesAlike other alike)
    {q : Question} (hq : ¬q.isForWatchers) :
    (World.handler store q w).1 = (World.handler other q v).1 ∧
      DiffersInWatchers alike (World.handler store q w).2 (World.handler other q v).2 := by
  cases q with
  | time => exact ⟨congrArg some hw.now_eq, hw⟩
  | lookUp key =>
      simp only [World.handler]
      rw [← hw.cache_eq, ← hw.seconds_eq]
      split
      · exact ⟨rfl, hw⟩
      · exact ⟨rfl, hw.store, hw.now_eq, rfl, rfl, hw.remaining_eq, hw.waits, hw.waits'⟩
  | remember key m =>
      have hkept : w.cache.map (fun cache => cache.put w.seconds key m) =
          v.cache.map fun cache => cache.put v.seconds key m := by
        rw [hw.cache_eq, hw.seconds_eq]
      exact ⟨rfl, hw.of_surroundings rfl rfl hw.store hkept⟩
  | ask c =>
      obtain ⟨hreply, hcalled⟩ := hw.call hstores c
      exact ⟨congrArg outcome hreply, hcalled⟩
  | askWithin limit c =>
      obtain ⟨hreply, hcalled⟩ := hw.call hstores c
      obtain ⟨hover, hexpired⟩ := hcalled.expire hstores limit c
      simp only [World.handler]
      rw [← hreply]
      cases outcome (w.call store c).1 with
      | some answer => exact ⟨rfl, hcalled⟩
      | none => exact ⟨by rw [hover], hexpired⟩
  | note entries => exact absurd rfl hq
  | submit record => exact absurd rfl hq
  | announce subject facts => exact absurd rfl hq
  | reject policy problems => exact absurd rfl hq

/-- Worlds that differ in those who watch answer the same. -/
theorem watchedAlike (hstores : store.RepliesAlike other alike) :
    Process.WatchedAlike (World.handler store) (World.handler other) (fun q => q.isForWatchers)
      (DiffersInWatchers alike) where
  answer_eq := fun hw hq => (hw.handler hstores hq).1
  stays := fun hw hq => (hw.handler hstores hq).2
  left := by
    intro q w v hw hq
    obtain ⟨hanswer, hstore, hcache⟩ := handler_isForWatchers store w hq
    exact ⟨hanswer, hw.of_surroundings (surroundings_handler store w q) rfl (hstore ▸ hw.store)
      (hcache.trans hw.cache_eq)⟩
  right := by
    intro q w v hw hq
    obtain ⟨hanswer, hstore, hcache⟩ := handler_isForWatchers other v hq
    exact ⟨hanswer, hw.of_surroundings rfl (surroundings_handler other v q) (hstore ▸ hw.store)
      (hw.cache_eq.trans hcache.symm)⟩

end DiffersInWatchers

end World

end Clearance
