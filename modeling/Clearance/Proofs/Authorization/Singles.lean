/-
# A batch is its single requests

Over a steady store and without a cache, the requests of a batch get the results that they would get
alone, in whatever chunks they come and in whatever order they take turns. A deadline may keep requests
from their results, and then they get one result that says so; it never gives a request the result of
another one, and what is left of the batch then is finished without the store. At no time are more
requests under way than the width of the batch.
-/

import Mathlib.Data.List.Forall2
import Clearance.Proofs.Authorization.Answering
import Clearance.Proofs.Authorization.Batching
import Clearance.Proofs.Directory.Loading
import Clearance.Proofs.Service.Steady

namespace Clearance

/-! ## Chunks -/

section Chunks

variable {α : Type} {width : Nat}

/-- Chunks leave no member out, and keep the order. -/
theorem flatten_chunks (width : Nat) (members : List α) :
    (chunks width members).flatten = members := by
  induction members using chunks.induct width with
  | case1 =>
      rw [chunks]
      rfl
  | case2 a rest ih =>
      rw [chunks, List.flatten_cons, ih, List.cons_append, List.take_append_drop]

/-- No chunk is wider than the width. -/
theorem length_le_of_mem_chunks (hwidth : 1 ≤ width) {members ids : List α}
    (hids : ids ∈ chunks width members) : ids.length ≤ width := by
  induction members using chunks.induct width with
  | case1 =>
      rw [chunks] at hids
      cases hids
  | case2 a rest ih =>
      rw [chunks] at hids
      rcases List.mem_cons.mp hids with rfl | hids
      · rw [List.length_cons, List.length_take]
        omega
      · exact ih hids

end Chunks

/-! ## Results of pools -/

namespace Batch

variable {ω : Type} {h : Handler ω} {holds : ω → Prop}
  {oracle : (q : Question) → Option q.Answer} {pace : Pace ω}
  {start late : String → Process Result} {w : ω}

theorem mapM_result?_map_done (results : List Result) :
    (results.map Process.done).mapM Process.result? = some results := by
  induction results with
  | nil => rfl
  | cons result rest ih =>
      rw [List.map_cons, List.mapM_cons, ih]
      rfl

/-- Where each process of a pool has a result, the pool has the results. -/
theorem mapM_result?_eq_some {pool : List (Process Result)} {results : List Result}
    (hpool : pool.map Process.result? = results.map some) :
    pool.mapM Process.result? = some results := by
  induction pool generalizing results with
  | nil =>
      cases results with
      | nil => rfl
      | cons result rest => cases hpool
  | cons p pool ih =>
      cases results with
      | nil => cases hpool
      | cons result rest =>
          rw [List.map_cons, List.map_cons, List.cons.injEq] at hpool
          rw [List.mapM_cons, hpool.1, ih hpool.2]
          rfl

/-! ## Without a deadline -/

end Batch

/-- A batch has all the time that it needs: no deadline passes and no chunk is cut short, and what goes
on around it keeps an invariant of the world. -/
structure Pace.IsUnhurried {ω : Type} (pace : Pace ω) (holds : ω → Prop) : Prop where
  isOver : ∀ w, holds w → pace.isOver w = false
  isCut : ∀ n, (pace.course n).isCut = false
  meanwhile : ∀ w, holds w → holds (pace.meanwhile w)
  pause : ∀ w, holds w → holds (pace.pause w)

namespace Batch

variable {ω : Type} {h : Handler ω} {holds : ω → Prop}
  {oracle : (q : Question) → Option q.Answer} {pace : Pace ω}
  {start late : String → Process Result} {w : ω} {result : String → Result}

/-- With enough time, each request of a chunk gets the result that is foretold. -/
theorem chunk_of_isUnhurried (hh : Process.Obliges h holds oracle) (hpace : pace.IsUnhurried holds)
    (late : String → Process Result) (n : Nat) {ids : List String}
    (hstart : ∀ id ∈ ids, (start id).foretold oracle = some (result id)) (hw : holds w) :
    ∃ w', chunk h pace (pace.course n) start late ids w = (some (ids.map result), w') ∧
      holds w' := by
  obtain ⟨hfollowed, hholds⟩ := Process.foretold_follow hh.respects (pace.course n).turns
    (ids.map start) (hpace.meanwhile w hw)
  have hsettled := Process.result?_settle hh
    (Process.follow h (pace.course n).turns (ids.map start) (pace.meanwhile w)).1 hholds
  obtain ⟨-, hholds'⟩ := Process.foretold_settle hh.respects
    (Process.follow h (pace.course n).turns (ids.map start) (pace.meanwhile w)).1 hholds
  have hresults : (ids.map start).map (Process.foretold oracle) = (ids.map result).map some := by
    rw [List.map_map, List.map_map]
    exact List.map_congr_left hstart
  rw [hfollowed, hresults] at hsettled
  refine ⟨_, ?_, hpace.meanwhile _ hholds'⟩
  simp only [chunk, advance, hpace.isOver w hw, hpace.isCut n, Bool.false_eq_true, if_false]
  rw [mapM_result?_eq_some hsettled]

/-- With enough time, each request of the chunks gets the result that is foretold. -/
theorem work_of_isUnhurried (hh : Process.Obliges h holds oracle) (hpace : pace.IsUnhurried holds)
    (late : String → Process Result) (n : Nat) {rest : List (List String)}
    (hstart : ∀ id ∈ rest.flatten, (start id).foretold oracle = some (result id)) (hw : holds w) :
    (work h pace start late n rest w).1 = some (rest.flatten.map fun id => (id, result id)) := by
  induction rest generalizing n w with
  | nil => rfl
  | cons ids rest ih =>
      rw [List.flatten_cons] at hstart
      obtain ⟨w', hchunk, hw'⟩ := chunk_of_isUnhurried hh hpace late n
        (fun id hid => hstart id (List.mem_append_left _ hid)) hw
      have hpaused : holds (if pace.isOver w || rest.isEmpty then w' else pace.pause w') := by
        split
        · exact hw'
        · exact hpace.pause w' hw'
      have hrest := ih (n + 1) (fun id hid => hstart id (List.mem_append_right _ hid)) hpaused
      rw [work]
      dsimp only
      rw [hchunk]
      dsimp only
      rw [hrest, List.flatten_cons, List.map_append, ← List.map_prod_left_eq_zip]
      rfl

/-! ## With a deadline -/

/-- A resource has the result that is foretold for it, or the one for what came too late. -/
def IsDue (oracle : (q : Question) → Option q.Answer) (start : String → Process Result)
    (resource : String) (result : Result) : Prop :=
  (start resource).foretold oracle = some result ∨
    result = .indeterminate Authorization.deadlineExceeded

/-- The requests that are too late end in their result, whatever happens. -/
def EndsLate (h : Handler ω) (holds : ω → Prop) (late : String → Process Result) : Prop :=
  ∀ id w, holds w → ∃ w',
    (late id).run h w = (.done (.indeterminate Authorization.deadlineExceeded), w') ∧ holds w'

/-- When all processes of a pool come to an end, the pool has their results. -/
theorem settle_of_forall₂ {due : String → Result → Prop} {ids : List String}
    {pool : List (Process Result)}
    (hpool : List.Forall₂ (fun id p => ∀ w, holds w →
      ∃ a w', p.run h w = (.done a, w') ∧ holds w' ∧ due id a) ids pool) (hw : holds w) :
    ∃ results w', Process.settle h pool w = (results.map .done, w') ∧ holds w' ∧
      List.Forall₂ due ids results := by
  induction hpool generalizing w with
  | nil => exact ⟨[], w, rfl, hw, .nil⟩
  | cons hp _ ih =>
      obtain ⟨a, w₁, hrun, hw₁, hdue⟩ := hp w hw
      obtain ⟨results, w₂, hsettle, hw₂, hrest⟩ := ih hw₁
      refine ⟨a :: results, w₂, ?_, hw₂, .cons hdue hrest⟩
      rw [Process.settle]
      dsimp only
      rw [hrun]
      dsimp only
      rw [hsettle]
      rfl

/-- The results of a pool are those that are foretold. -/
theorem forall₂_isDue_of_mapM {ids : List String} {pool : List (Process Result)}
    (hpool : pool.map (Process.foretold oracle) = ids.map fun id => (start id).foretold oracle)
    {results : List Result} (hresults : pool.mapM Process.result? = some results) :
    List.Forall₂ (IsDue oracle start) ids results := by
  induction ids generalizing pool results with
  | nil =>
      obtain rfl := List.map_eq_nil_iff.mp hpool
      cases hresults
      exact .nil
  | cons id rest ih =>
      cases pool with
      | nil => cases hpool
      | cons p pool =>
          rw [List.map_cons, List.map_cons, List.cons.injEq] at hpool
          rw [List.mapM_cons] at hresults
          obtain ⟨result, hresult, hresults⟩ := Option.bind_eq_some_iff.mp hresults
          obtain ⟨others, hothers, hresults⟩ := Option.bind_eq_some_iff.mp hresults
          cases hresults
          refine .cons (.inl ?_) (ih hpool.2 hothers)
          rw [← hpool.1]
          exact Process.foretold_of_result?_eq_some hresult

/-- The processes that are not done make way for ones that end in the result for what came too late. -/
theorem forall₂_replace (hlate : EndsLate h holds late) {ids : List String}
    {pool : List (Process Result)}
    (hpool : pool.map (Process.foretold oracle) = ids.map fun id => (start id).foretold oracle) :
    List.Forall₂ (fun id p => ∀ w, holds w →
      ∃ a w', p.run h w = (.done a, w') ∧ holds w' ∧ IsDue oracle start id a) ids
      (replace late ids pool) := by
  induction ids generalizing pool with
  | nil => exact .nil
  | cons id rest ih =>
      cases pool with
      | nil => cases hpool
      | cons p pool =>
          rw [List.map_cons, List.map_cons, List.cons.injEq] at hpool
          rw [replace, List.zipWith_cons_cons]
          refine .cons (fun w hw => ?_) (ih hpool.2)
          cases p with
          | done a => exact ⟨a, w, rfl, hw, .inl hpool.1.symm⟩
          | wait q next =>
              obtain ⟨w', hrun, hw'⟩ := hlate id w hw
              exact ⟨_, w', hrun, hw', .inr rfl⟩

/-- With a deadline, a chunk has results, whenever the deadline passes. -/
theorem chunk_of_hasDeadline (hh : Process.Respects h holds oracle) (hpace : pace.Keeps holds)
    (hdeadline : pace.hasDeadline) (start : String → Process Result)
    (hlate : EndsLate h holds late) (course : Course) (ids : List String) (hw : holds w) :
    ∃ results w', chunk h pace course start late ids w = (some results, w') ∧ holds w' ∧
      List.Forall₂ (IsDue oracle start) ids results := by
  by_cases hover : pace.isOver w
  · have hpool : List.Forall₂ (fun id p => ∀ w, holds w →
        ∃ a w', p.run h w = (.done a, w') ∧ holds w' ∧ IsDue oracle start id a) ids
        (ids.map late) := by
      rw [List.forall₂_map_right_iff, List.forall₂_same]
      intro id _ w hw
      obtain ⟨w', hrun, hw'⟩ := hlate id w hw
      exact ⟨_, w', hrun, hw', .inr rfl⟩
    obtain ⟨results, w', hsettle, hw', hdue⟩ := settle_of_forall₂ hpool hw
    refine ⟨results, w', ?_, hw', hdue⟩
    simp only [chunk, hover, if_true, hsettle, mapM_result?_map_done]
  · obtain ⟨hforetold, hholds⟩ :
        (advance h course (ids.map start) (pace.meanwhile w)).1.map (Process.foretold oracle) =
          (ids.map start).map (Process.foretold oracle) ∧
        holds (advance h course (ids.map start) (pace.meanwhile w)).2 := by
      obtain ⟨hfollowed, hholds⟩ := Process.foretold_follow hh course.turns (ids.map start)
        (hpace.meanwhile w hw)
      rw [advance]
      dsimp only
      split
      · exact ⟨hfollowed, hholds⟩
      · obtain ⟨hsettled, hholds'⟩ := Process.foretold_settle hh
          (Process.follow h course.turns (ids.map start) (pace.meanwhile w)).1 hholds
        exact ⟨hsettled.trans hfollowed, hholds'⟩
    rw [List.map_map] at hforetold
    have hadvanced := hpace.meanwhile _ hholds
    rw [chunk, if_neg hover]
    dsimp only
    cases hresults : (advance h course (ids.map start) (pace.meanwhile w)).1.mapM
        Process.result? with
    | some results =>
        exact ⟨results, _, rfl, hadvanced, forall₂_isDue_of_mapM hforetold hresults⟩
    | none =>
        -- Time has run out: what is not done is dropped and gets the result for what came too late.
        have hdropped := dropAll_holds hpace
          (advance h course (ids.map start) (pace.meanwhile w)).1 hadvanced
        obtain ⟨results, w', hsettle, hw', hdue⟩ := settle_of_forall₂
          (forall₂_replace hlate hforetold) (hpace.runOut _ hdropped)
        refine ⟨results, w', ?_, hw', hdue⟩
        dsimp only
        rw [if_pos hdeadline, hsettle]
        dsimp only
        rw [mapM_result?_map_done]

/-- With a deadline, a batch has results for all resources in order, whenever the deadline passes. -/
theorem work_of_hasDeadline (hh : Process.Respects h holds oracle) (hpace : pace.Keeps holds)
    (hdeadline : pace.hasDeadline) (start : String → Process Result)
    (hlate : EndsLate h holds late) (n : Nat) (rest : List (List String)) (hw : holds w) :
    ∃ entries, (work h pace start late n rest w).1 = some entries ∧
      entries.map Prod.fst = rest.flatten ∧ ∀ e ∈ entries, IsDue oracle start e.1 e.2 := by
  induction rest generalizing n w with
  | nil => exact ⟨[], rfl, rfl, nofun⟩
  | cons ids rest ih =>
      obtain ⟨results, w', hchunk, hw', hdue⟩ :=
        chunk_of_hasDeadline hh hpace hdeadline start hlate (pace.course n) ids hw
      have hpaused : holds (if pace.isOver w || rest.isEmpty then w' else pace.pause w') := by
        split
        · exact hw'
        · exact hpace.pause w' hw'
      obtain ⟨entries, hrest, hkeys, hentries⟩ := ih (n + 1) hpaused
      obtain ⟨hlength, hzip⟩ := List.forall₂_iff_zip.mp hdue
      refine ⟨ids.zip results ++ entries, ?_, ?_, fun e he => ?_⟩
      · rw [work]
        dsimp only
        rw [hchunk]
        dsimp only
        rw [hrest]
        rfl
      · rw [List.map_append, List.map_fst_zip (Nat.le_of_eq hlength), hkeys, List.flatten_cons]
      · rcases List.mem_append.mp he with he | he
        · exact hzip he
        · exact hentries e he

/-! ## After the deadline -/

/-- A chunk that is reached after the deadline is finished by reports alone: where these are taken note
of in the same way, it comes to the same, however store calls would be answered. -/
theorem chunk_of_isOver {h' : Handler ω} {result : Result}
    (hlate : ∀ id, (late id).EndsIn (fun q => q.isReport) result)
    (hsame : ∀ q w, q.isReport → h' q w = h q w) (course : Course) (ids : List String)
    (hover : pace.isOver w) :
    chunk h' pace course start late ids w = chunk h pace course start late ids w := by
  have hsettle : ∀ w, Process.settle h' (ids.map late) w = Process.settle h (ids.map late) w := by
    induction ids with
    | nil => exact fun w => rfl
    | cons id rest ih =>
        intro w
        simp only [List.map_cons, Process.settle]
        rw [(hlate id).run_congr hsame w, ih]
  simp only [chunk, hover, if_true]
  rw [hsettle w]

/-! ## Requests under way -/

/-- At some moment of a batch, some processes of requests are under way: those of the chunk that is
worked through then, each as far as its turns have brought it. -/
inductive UnderWay (h : Handler ω) (pace : Pace ω) (start late : String → Process Result) :
    Nat → List (List String) → ω → List (Process Result) → Prop
  | now {n : Nat} {ids : List String} {rest : List (List String)} {w : ω}
      (hover : pace.isOver w = false) (turns : List Nat) :
      UnderWay h pace start late n (ids :: rest) w
        (Process.follow h turns (ids.map start) (pace.meanwhile w)).1
  | later {n : Nat} {ids : List String} {rest : List (List String)} {w w' : ω}
      {results : List Result} {pool : List (Process Result)}
      (hchunk : chunk h pace (pace.course n) start late ids w = (some results, w'))
      (hrest : UnderWay h pace start late (n + 1) rest
        (if pace.isOver w || rest.isEmpty then w' else pace.pause w') pool) :
      UnderWay h pace start late n (ids :: rest) w pool

/-- The processes of a pool that are not done. -/
def inFlight (pool : List (Process Result)) : List (Process Result) :=
  pool.filter fun p => p.result?.isNone

/-- No more requests are in flight than a chunk has. -/
theorem UnderWay.length_inFlight_le {n width : Nat} {rest : List (List String)}
    {pool : List (Process Result)} (hpool : UnderWay h pace start late n rest w pool)
    (hwidth : ∀ ids ∈ rest, ids.length ≤ width) : (inFlight pool).length ≤ width := by
  induction hpool with
  | @now n ids rest w hover turns =>
      calc (inFlight (Process.follow h turns (ids.map start) (pace.meanwhile w)).1).length
          ≤ (Process.follow h turns (ids.map start) (pace.meanwhile w)).1.length :=
            List.length_filter_le _ _
        _ = ids.length := by rw [Process.length_follow, List.length_map]
        _ ≤ width := hwidth ids List.mem_cons_self
  | later _ _ ih => exact ih fun ids hids => hwidth ids (List.mem_cons_of_mem _ hids)

end Batch

/-! ## Batches of a service -/

namespace Service

variable {σ : Type} {service : Service σ} {w : World σ}

/-- What goes on around the batches of a service makes a world no different one. -/
theorem pace_keeps_isLike (service : Service σ) (w : World σ) (hasDeadline : Bool) :
    (service.pace hasDeadline).Keeps (World.IsLike service.store w) := by
  have hother : ∀ (w' : World σ) (remaining : Option Float) (waited : Float),
      World.IsLike service.store w w' →
        World.IsLike service.store w { w' with remaining := remaining, waited := waited } :=
    fun _ _ _ hw => ⟨hw.reaches, hw.cache_eq, hw.isHasty_eq, hw.now_eq, hw.logger_eq,
      hw.loggerFault_eq, hw.violationFault_eq⟩
  exact {
    runOut := fun w' hw => hother w' _ w'.waited hw
    meanwhile := fun w' hw => hother (w'.serve service.store) _ _ hw.serve
    pause := fun w' hw => hother w' _ _ hw
    drop := fun q _ hw => hw.drop q }

/-- A request that is made alone gets the result that is foretold. -/
theorem authorize_eq_foretold (hsteady : service.store.IsSteady w.store) (halone : w.IsAlone)
    (r : Request) :
    (service.authorize r none w).1 =
      (Clearance.authorize service.settings r none).foretold (World.oracle service.store w) := by
  have hresult : ∀ w' : World σ, World.IsLike service.store w w' → w'.remaining = none →
      (service.run (Clearance.authorize service.settings r none) w').1 =
        (Clearance.authorize service.settings r none).foretold (World.oracle service.store w) :=
    fun w' hw' hremaining =>
      Process.result?_run (World.obliges_oracle hsteady halone) _ ⟨hw', hremaining⟩
  have hlike := halone.isLike service.store
  unfold authorize
  dsimp only
  by_cases hlimit : (Authorization.limitOf service.settings none).isSome
  · simp only [hlimit, if_true]
    exact hresult _ hlike.serve ((World.remaining_serve _ w).trans halone.remaining_eq)
  · simp only [hlimit, Bool.false_eq_true, if_false]
    exact hresult w hlike halone.remaining_eq

/-- A request that is made alone of a store that holds no call is answered. -/
theorem exists_authorize_eq_some (hsteady : service.store.IsSteady w.store) (halone : w.IsAlone)
    (hprompt : service.store.IsPrompt w.store) (r : Request) :
    ∃ result, (service.authorize r none w).1 = some result := by
  rw [authorize_eq_foretold hsteady halone]
  exact Process.exists_foretold_eq_some (World.exists_oracle_eq_some halone hprompt) _

/-- The result of the request on a resource when it is made alone. -/
def single (service : Service σ) (w : World σ) (subject action : Option String)
    (context : List (String × Value)) (resource : String) : Option Result :=
  (service.authorize (Batch.request subject action context resource) none w).1

/-- The process that answers the request on a resource. -/
def answering (service : Service σ) (subject action : Option String)
    (context : List (String × Value)) (resource : String) : Process Result :=
  Clearance.authorize service.settings (Batch.request subject action context resource) none

/-- What the results of a batch have to do with those of its single requests. -/
structure IsItsSingles (service : Service σ) (w : World σ) (width : Nat)
    (subject action : Option String) (resources : List String)
    (context : List (String × Value)) : Prop where
  /-- Over a store that holds no call, each request has a result. -/
  answered : service.store.IsPrompt w.store → ∀ resource, ∃ result,
    service.single w subject action context resource = some result
  /-- With enough time, the batch has the results of the requests that it consists of: one for each
  resource, at its first place, whatever the turns are that the requests of a chunk take. -/
  unhurried : ∀ result : String → Result,
    (∀ r ∈ resources, service.single w subject action context r = some (result r)) →
    ∀ pace : Pace (World σ),
      pace.IsUnhurried (fun w' => World.IsLike service.store w w' ∧ w'.remaining = none) →
      (Clearance.authorizeMany (World.handler service.store) pace service.settings width subject
        action resources context w).1 = some ((Ordered.distinct resources).map fun r => (r, result r))
  /-- No more requests than the width are in flight at any time. -/
  length_inFlight_le : ∀ (pace : Pace (World σ)) (w' : World σ) (pool : List (Process Result)),
    Batch.UnderWay (World.handler service.store) pace
      (service.answering subject action context)
      (Batch.late subject action) 0 (chunks width (Ordered.distinct resources)) w' pool →
    (Batch.inFlight pool).length ≤ width
  /-- With a deadline, the batch has a result for each resource, in the same order, whenever the deadline
  passes and whatever is done by then: the one of the single request, or the one that says that time did
  not suffice. -/
  hurried : ∀ pace : Pace (World σ), pace.hasDeadline → pace.Keeps (World.IsLike service.store w) →
    ∀ w', World.IsLike service.store w w' → ∃ entries,
      (Clearance.authorizeMany (World.handler service.store) pace service.settings width subject
        action resources context w').1 = some entries ∧
      entries.map Prod.fst = Ordered.distinct resources ∧
      ∀ e ∈ entries, service.single w subject action context e.1 = some e.2 ∨
        e.2 = .indeterminate Authorization.deadlineExceeded
  /-- A chunk that is reached after the deadline comes to the same over any other store: no store is
  called for it. -/
  late : ∀ (pace : Pace (World σ)) (course : Course) (ids : List String) (w' : World σ),
    pace.isOver w' → ∀ other : Store σ,
      Batch.chunk (World.handler other) pace course
          (service.answering subject action context)
          (Batch.late subject action) ids w' =
        Batch.chunk (World.handler service.store) pace course
          (service.answering subject action context)
          (Batch.late subject action) ids w'

/-- **Single requests.** Over a steady store, some of whose calls may fail, and without a cache, a batch
is its single requests, whatever its width is and whatever turns its requests take. A deadline may keep
resources from their results and does nothing else. -/
theorem authorizeMany_isItsSingles (hsteady : service.store.IsSteady w.store) (halone : w.IsAlone)
    {width : Nat} (hwidth : 1 ≤ width) (subject action : Option String) (resources : List String)
    (context : List (String × Value)) :
    service.IsItsSingles w width subject action resources context := by
  have hlike := halone.isLike service.store
  have hrespects := World.respects_oracle hsteady halone
  have hlate : ∀ id, (Batch.late subject action id).EndsIn (fun q => q.isReport)
      (.indeterminate Authorization.deadlineExceeded) := fun id =>
    (Authorization.announce_endsIn _ _).bind (.done _)
  have hsingle : ∀ r, service.single w subject action context r =
      (service.answering subject action context r).foretold (World.oracle service.store w) :=
    fun r => authorize_eq_foretold hsteady halone _
  constructor
  case answered => exact fun hprompt r => exists_authorize_eq_some hsteady halone hprompt _
  case unhurried =>
    intro result hresult pace hpace
    have hstart : ∀ r ∈ (chunks width (Ordered.distinct resources)).flatten,
        (service.answering subject action context r).foretold (World.oracle service.store w) =
          some (result r) := by
      intro r hr
      rw [flatten_chunks] at hr
      rw [← hsingle r]
      exact hresult r (Ordered.mem_of_mem_distinct hr)
    have hwork := Batch.work_of_isUnhurried (World.obliges_oracle hsteady halone) hpace
      (Batch.late subject action) 0 hstart ⟨hlike, halone.remaining_eq⟩
    rw [flatten_chunks] at hwork
    exact hwork
  case length_inFlight_le =>
    intro pace w' pool hpool
    exact hpool.length_inFlight_le fun ids hids => length_le_of_mem_chunks hwidth hids
  case hurried =>
    intro pace hdeadline hpace w' hw'
    have hends : Batch.EndsLate (World.handler service.store) (World.IsLike service.store w)
        (Batch.late subject action) := by
      intro id w₁ hw₁
      have hreports := (hlate id).mono Question.isTelling_of_isReport
      obtain ⟨w₂, hrun⟩ := hreports.run (World.handler_telling service.store) w₁
      have hstays := (Process.foretold_run hrespects (Batch.late subject action id) hw₁).2
      rw [hrun] at hstays
      exact ⟨w₂, hrun, hstays⟩
    obtain ⟨entries, hmany, hkeys, hdue⟩ := Batch.work_of_hasDeadline hrespects hpace hdeadline
      (service.answering subject action context) hends 0 (chunks width (Ordered.distinct resources)) hw'
    rw [flatten_chunks] at hkeys
    refine ⟨entries, hmany, hkeys, fun e he => ?_⟩
    rw [hsingle e.1]
    exact hdue e he
  case late =>
    intro pace course ids w' hover other
    have hsame := fun q w₁ => World.handler_report_eq service.store other q w₁
    exact Batch.chunk_of_isOver hlate hsame course ids hover

end Service

namespace Interposed

/-- A directory that loses what it has on one resource, behind a list of its policies. -/
def lossyRoom : World (Interposed Directory) where
  store := {
    inner := Directory.readingRoom
    intercept := fun
      | .activePolicies => some (.answered [{ id := "1", name := "readers", effect := .permit }])
      | .resourceAttributes "b" => some (.failed (.other "lost"))
      | _ => none }
  now := Directory.readingWorld.now
  seconds := 0.0

/-- What the requests to read come to there. -/
def lossyResult (resource : String) : Result :=
  if resource = "b" then .indeterminate "Authorization error: Failed to gather attributes: lost"
  else ⟨.permit, "Permitted by highest priority policy: readers", ["readers"]⟩

/-- Whatever turns the requests take there, the one that fails fails alone. -/
theorem lossyRoom_isItsSingles :
    Service.IsItsSingles ⟨{}, store Directory.store⟩ lossyRoom 2 (some "ann") (some "read")
        ["a", "b", "a", "c"] [] ∧
      (authorizeMany (World.handler (store Directory.store))
        { course := fun _ => { turns := [1, 0, 1, 1, 0] } } {} 2 (some "ann") (some "read")
        ["a", "b", "a", "c"] [] lossyRoom).1 =
      some [("a", lossyResult "a"), ("b", lossyResult "b"), ("c", lossyResult "c")] := by
  have hsteady : (store Directory.store).IsSteady lossyRoom.store :=
    isSteady (Directory.isSteady _)
  have hsingles : Service.IsItsSingles ⟨{}, store Directory.store⟩ lossyRoom 2 (some "ann")
      (some "read") ["a", "b", "a", "c"] [] :=
    Service.authorizeMany_isItsSingles hsteady ⟨rfl, rfl, rfl⟩ (by decide) _ _ _ _
  refine ⟨hsingles, hsingles.unhurried lossyResult ?_ _ ?_⟩
  · intro r hr
    simp only [List.mem_cons, List.not_mem_nil, or_false] at hr
    rcases hr with rfl | rfl | rfl | rfl <;> decide +kernel
  · exact ⟨fun _ _ => rfl, fun _ => rfl, fun _ hw => hw, fun _ hw => hw⟩

end Interposed

end Clearance
