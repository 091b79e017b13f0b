/-
# What the cache hands out

Requests are gathered one after the other, and the clocks show what they like each time. Whatever
the cache keeps was gathered for an earlier request of the same key, over the same content. Keys
tell requests apart by subject, action and resource, with one exception: a request without a
resource has the key of a request for a resource that is named like the stand-in for none. As long
as no two requests clash in this way, every request gets the map that it would get without a cache,
whatever the limits of the cache are and whatever was pushed out or has expired.
-/

import Clearance.Proofs.Authorization.Answering
import Clearance.Proofs.Directory.Gathering

namespace Clearance

open Gathering

/-! ## Requests and their keys -/

/-- A request for attributes, and the times that the clocks show when it is made. -/
structure Gathering.Query where
  subject : String
  action : String
  resource : Option String := none
  resourceType : Option String := none
  context : List (String × Value) := []
  now : Time.Moment
  seconds : Float

namespace Gathering.Query

variable {q q' : Query}

/-- The key of a request in the cache. -/
def key (q : Query) : CacheKey := .of q.subject q.resource q.action

/-- A request has no resource, and another one of the same subject and action has one that is named
like the stand-in for none. -/
def Clashes (q q' : Query) : Prop :=
  q.subject = q'.subject ∧ q.action = q'.action ∧
    given? q.resource = none ∧ given? q'.resource = some noResource

instance (q q' : Query) : Decidable (q.Clashes q') :=
  inferInstanceAs (Decidable (_ ∧ _ ∧ _ ∧ _))

theorem key_resource (q : Query) : q.key.resource = (given? q.resource).getD noResource := by
  simp only [key, CacheKey.of, given?]
  cases q.resource with
  | none => rfl
  | some r => cases hr : r.isEmpty <;> simp [Option.filter, hr]

/-- Requests that do not clash are told apart by their keys. -/
theorem eq_of_key_eq (h : q.key = q'.key) (hclash : ¬q.Clashes q') (hclash' : ¬q'.Clashes q) :
    q.subject = q'.subject ∧ q.action = q'.action ∧ given? q.resource = given? q'.resource := by
  have hsubject : q.subject = q'.subject := congrArg CacheKey.subject h
  have haction : q.action = q'.action := congrArg CacheKey.action h
  have hresource : (given? q.resource).getD noResource = (given? q'.resource).getD noResource := by
    rw [← key_resource, ← key_resource, h]
  refine ⟨hsubject, haction, ?_⟩
  cases hgiven : given? q.resource with
  | none =>
      cases hgiven' : given? q'.resource with
      | none => rfl
      | some r' =>
          rw [hgiven, hgiven'] at hresource
          obtain rfl : noResource = r' := hresource
          exact absurd ⟨hsubject, haction, hgiven, hgiven'⟩ hclash
  | some r =>
      cases hgiven' : given? q'.resource with
      | none =>
          rw [hgiven, hgiven'] at hresource
          obtain rfl : r = noResource := hresource
          exact absurd ⟨hsubject.symm, haction.symm, hgiven', hgiven⟩ hclash'
      | some r' =>
          rw [hgiven, hgiven'] at hresource
          exact congrArg some hresource

end Gathering.Query

namespace Service

variable {σ : Type} (service : Service σ)

/-- Gather the attributes of a request at its time. -/
def gatherFor (q : Query) (w : World σ) : Option (Except Fault AttributeMap) × World σ :=
  service.gather q.subject q.action q.resource q.resourceType q.context
    { w with now := q.now, seconds := q.seconds }

/-- Gather the attributes of requests one after the other. -/
def gatherAll : List Query → World σ → List (Option (Except Fault AttributeMap)) × World σ
  | [], w => ([], w)
  | q :: rest, w =>
    let (found, w) := service.gatherFor q w
    let (others, w) := gatherAll rest w
    (found :: others, w)

end Service

/-! ## A cache over a directory -/

namespace Directory

variable {d : Directory} {roleOverrides : Bool} {queries : List Query} {w : World Directory}

/-- The stored part of the map of a request, as a directory has it. -/
def storedFor (d : Directory) (roleOverrides : Bool) (q : Query) : Except Fault AttributeMap :=
  ((d.found q.subject q.action q.resource q.now).mapError
    (Fault.framed (failure q.subject q.resource))).map
    fun l => l.toMap roleOverrides q.subject q.action

/-- The whole map of a request, as a directory has it. -/
def mapFor (d : Directory) (roleOverrides : Bool) (q : Query) : Except Fault AttributeMap :=
  d.storedFor roleOverrides q >>= fun stored =>
    stored.forRequest q.now q.resourceType q.context

/-- Requests that ask for the same have the same stored part, if one of them has any. -/
theorem storedFor_eq_ok (hd : d.IsTimeless) {q q' : Query} (hsubject : q.subject = q'.subject)
    (haction : q.action = q'.action) (hresource : given? q.resource = given? q'.resource)
    {m : AttributeMap} (h : d.storedFor roleOverrides q = .ok m) :
    d.storedFor roleOverrides q' = .ok m := by
  have hfound : d.found q.subject q.action q.resource q.now =
      d.found q'.subject q'.action q'.resource q'.now := by
    rw [hsubject, haction, d.found_eq_of_given?_eq _ _ _ hresource]
    exact hd.found_eq _ _ _ q.now q'.now
  simp only [storedFor] at h ⊢
  rw [← hfound, ← hsubject, ← haction]
  -- The frames of the two requests differ only in how they say that there is no resource.
  cases hl : d.found q.subject q.action q.resource q.now with
  | error fault =>
      rw [hl] at h
      cases h
  | ok l =>
      rw [hl] at h
      exact h

/-- A world holds a directory of some content, and its cache only maps that were gathered from this
content for some requests. -/
structure Mirrors (d : Directory) (roleOverrides : Bool) (queries : List Query)
    (w : World Directory) : Prop where
  content : w.store.content = d.content
  gathered : ∀ e ∈ w.remembered, ∃ q ∈ queries,
    q.key = e.1 ∧ d.storedFor roleOverrides q = .ok e.2.value

namespace Mirrors

/-- A question that keeps no map leaves the cache a mirror. -/
theorem handler (hw : d.Mirrors roleOverrides queries w) {q : Question} (hq : q.isKeeping = false) :
    d.Mirrors roleOverrides queries (World.handler store q w).2 where
  content := (handler_content q w).trans hw.content
  gathered := fun e he => hw.gathered e (World.mem_remembered_of_handler store w hq he)

/-- To keep what was gathered for a request leaves the cache a mirror. -/
theorem remember (hw : d.Mirrors roleOverrides queries w) {q : Query} (hq : q ∈ queries)
    {m : AttributeMap} (hm : d.storedFor roleOverrides q = .ok m) :
    d.Mirrors roleOverrides queries (World.handler store (.remember q.key m) w).2 where
  content := (handler_content _ w).trans hw.content
  gathered := by
    intro e he
    rcases World.mem_remembered_of_remember store w he with he | ⟨hkey, hvalue⟩
    · exact hw.gathered e he
    · refine ⟨q, hq, hkey.symm, ?_⟩
      rw [hvalue]
      exact hm

theorem of_eq {w' : World Directory} (hw : d.Mirrors roleOverrides queries w)
    (hcontent : w'.store.content = w.store.content) (hcache : w'.cache = w.cache) :
    d.Mirrors roleOverrides queries w' where
  content := hcontent.trans hw.content
  gathered := by
    simp only [World.remembered]
    rw [hcache]
    exact hw.gathered

variable {q : Query}

/-- The stored part of the map of a request comes out as the directory has it, whether it was found
in the cache or looked up. -/
theorem stored_run (hd : d.IsTimeless) (hclash : ∀ q ∈ queries, ∀ q' ∈ queries, ¬q.Clashes q')
    (hw : d.Mirrors roleOverrides queries w) (hq : q ∈ queries) :
    ∃ w', (stored roleOverrides q.subject q.action q.resource q.now).run.run
        (World.handler store) w = (.done (d.storedFor roleOverrides q), w') ∧
      d.Mirrors roleOverrides queries w' := by
  have hlooked := hw.handler (q := .lookUp q.key) rfl
  simp only [stored]
  obtain ⟨found, hfound⟩ : ∃ found, (World.handler store (.lookUp q.key) w).1 = some found := by
    simp only [World.handler]
    split
    · exact ⟨_, rfl⟩
    · exact ⟨_, rfl⟩
  have hpose : Attempt.Yields (World.handler store) (Attempt.pose (.lookUp q.key)) w found
      (World.handler store (.lookUp q.key) w).2 := .pose (Prod.ext hfound rfl)
  rw [show CacheKey.of q.subject q.resource q.action = q.key from rfl, hpose.run_bind]
  cases found with
  | some m =>
      obtain ⟨e, he, hkey, rfl⟩ := World.mem_remembered_of_lookUp store w hfound
      obtain ⟨q', hq', hkey', hstored⟩ := hw.gathered e he
      obtain ⟨hsubject, haction, hresource⟩ := Query.eq_of_key_eq (hkey'.trans hkey)
        (hclash q' hq' q hq) (hclash q hq q' hq')
      rw [storedFor_eq_ok hd hsubject haction hresource hstored]
      exact ⟨_, rfl, hlooked.of_eq rfl rfl⟩
  | none =>
      obtain ⟨w₁, hrun, hcache⟩ :=
        ((d.lookUps_gives q.subject q.action q.resource q.now).framed
          (failure q.subject q.resource)) _ hlooked.content
      have hcontent := run_content ((lookUps q.subject q.action q.resource q.now).framed
          (failure q.subject q.resource)).run (World.handler store (.lookUp q.key) w).2
      rw [hrun] at hcontent
      have hw₁ := hlooked.of_eq hcontent hcache
      dsimp only
      rw [Attempt.run_bind_eq, Process.run_bind_of_done hrun]
      cases hl : d.found q.subject q.action q.resource q.now with
      | error fault =>
          refine ⟨w₁, ?_, hw₁⟩
          simp only [storedFor, hl]
          rfl
      | ok l =>
          have hstored : d.storedFor roleOverrides q =
              .ok (l.toMap roleOverrides q.subject q.action) := by
            simp only [storedFor, hl]
            rfl
          rw [hstored]
          exact ⟨_, rfl, hw₁.remember hq hstored⟩

/-- Gathering comes to the map that the directory has. -/
theorem gatherFor (hd : d.IsTimeless) (hclash : ∀ q ∈ queries, ∀ q' ∈ queries, ¬q.Clashes q')
    {s : Settings} (hw : d.Mirrors s.doesRoleOverride queries w) (hq : q ∈ queries) :
    ∃ w', (service s).gatherFor q w = (some (d.mapFor s.doesRoleOverride q), w') ∧
      d.Mirrors s.doesRoleOverride queries w' := by
  have htimed : d.Mirrors s.doesRoleOverride queries { w with now := q.now, seconds := q.seconds } :=
    hw.of_eq rfl rfl
  obtain ⟨w₁, hrun, hw₁⟩ := htimed.stored_run hd hclash hq
  have hgather : ∃ w', (gather s.doesRoleOverride q.subject q.action q.resource q.resourceType
        q.context).run.run (World.handler store) { w with now := q.now, seconds := q.seconds } =
        (.done (d.mapFor s.doesRoleOverride q), w') ∧ d.Mirrors s.doesRoleOverride queries w' := by
    have htime : Attempt.Yields (World.handler store) (Attempt.pose .time)
        { w with now := q.now, seconds := q.seconds } q.now
        { w with now := q.now, seconds := q.seconds } := .pose rfl
    simp only [gather]
    rw [htime.run_bind, mapFor]
    cases hstored : d.storedFor s.doesRoleOverride q with
    | error fault =>
        rw [hstored] at hrun
        rw [Attempt.run_bind_eq, Process.run_bind_of_done hrun]
        exact ⟨w₁, rfl, hw₁⟩
    | ok stored =>
        rw [hstored] at hrun
        rw [Attempt.Yields.run_bind hrun]
        show ∃ w', Process.run (World.handler store) _ w₁ =
          (.done (stored.forRequest q.now q.resourceType q.context), w') ∧ _
        cases stored.forRequest q.now q.resourceType q.context with
        | error fault => exact ⟨w₁, rfl, hw₁⟩
        | ok m => exact ⟨_, rfl, hw₁.of_eq rfl rfl⟩
  obtain ⟨w', hrun, hw'⟩ := hgather
  exact ⟨w', (service s).run_of_done hrun, hw'⟩

/-- Gathering one request after the other comes to the maps that the directory has. -/
theorem gatherAll (hd : d.IsTimeless) (hclash : ∀ q ∈ queries, ∀ q' ∈ queries, ¬q.Clashes q')
    {s : Settings} (hw : d.Mirrors s.doesRoleOverride queries w) {asked : List Query}
    (hasked : ∀ q ∈ asked, q ∈ queries) :
    ((service s).gatherAll asked w).1 = asked.map fun q => some (d.mapFor s.doesRoleOverride q) := by
  induction asked generalizing w with
  | nil => rfl
  | cons q rest ih =>
      obtain ⟨w', hgathered, hw'⟩ := hw.gatherFor hd hclash (hasked q List.mem_cons_self)
      have hrest := ih hw' fun q' hq' => hasked q' (List.mem_cons_of_mem _ hq')
      simp only [Service.gatherAll, hgathered, List.map_cons]
      rw [hrest]

end Mirrors

/-- **Transparency.** Over a directory whose values of the environment are valid at all times,
requests that do not clash get, one after the other, the maps that each of them would get without a
cache: with the same keys and values in the same order, or with the same fault. The cache begins
empty, and it may have any limits; the clocks may show anything at each request. -/
theorem gatherAll_eq {s : Settings} (hd : w.store.IsTimeless) (hempty : w.remembered = [])
    (hclash : ∀ q ∈ queries, ∀ q' ∈ queries, ¬q.Clashes q') :
    ((service s).gatherAll queries w).1 =
      queries.map fun q => ((service s).gatherFor q { w with cache := none }).1 := by
  have hmirror : ∀ w' : World Directory, w'.store = w.store → w'.remembered = [] →
      w.store.Mirrors s.doesRoleOverride queries w' := by
    intro w' hstore hempty'
    refine ⟨congrArg Directory.content hstore, fun e he => ?_⟩
    rw [hempty'] at he
    cases he
  rw [(hmirror w rfl hempty).gatherAll hd hclash fun q hq => hq]
  refine List.map_congr_left fun q hq => ?_
  have huncached := hmirror { w with cache := none } rfl rfl
  obtain ⟨w', hgathered, -⟩ := huncached.gatherFor hd hclash hq
  rw [hgathered]

/-- A world with a cache, and a resource that is named like the stand-in for none. -/
def lendingWorld : World Directory where
  store := ({} : Directory).addResource noResource none (some "ann")
  now := readingWorld.now
  seconds := 0.0
  cache := some { maxSize := .int 2, lifetime := .seconds 60 }

/-- A request to read there. -/
def lendingQuery (resource : Option String) (context : List (String × Value)) (seconds : Float) :
    Query where
  subject := "ann"
  action := "read"
  resource := resource
  context := context
  now := readingWorld.now
  seconds := seconds

/-- The second request is served from the cache, the third one comes after its map has expired. -/
theorem lendingWorld_gatherAll_eq :
    ((service {}).gatherAll [lendingQuery (some noResource) [] 0.0,
        lendingQuery (some noResource) [("mood", .text "good")] 1.0,
        lendingQuery (some noResource) [] 61.0] lendingWorld).1 =
      [lendingQuery (some noResource) [] 0.0,
        lendingQuery (some noResource) [("mood", .text "good")] 1.0,
        lendingQuery (some noResource) [] 61.0].map
        fun q => ((service {}).gatherFor q { lendingWorld with cache := none }).1 :=
  gatherAll_eq nofun rfl (by decide)

/-- A request without a resource and one for the resource that is named like the stand-in get one
map, the one of the request that came first, although the second has a map of its own. -/
theorem lendingWorld_clash :
    lendingWorld.store.IsTimeless ∧ lendingWorld.remembered = [] ∧
    ∃ m m', ((service {}).gatherAll [lendingQuery none [] 0.0,
        lendingQuery (some noResource) [] 1.0] lendingWorld).1 = [some (.ok m), some (.ok m)] ∧
      ((service {}).gatherFor (lendingQuery (some noResource) [] 1.0)
        { lendingWorld with cache := none }).1 = some (.ok m') ∧ m ≠ m' := by
  refine ⟨nofun, rfl, readingMap, _, rfl, rfl, ?_⟩
  decide

end Directory

end Clearance
