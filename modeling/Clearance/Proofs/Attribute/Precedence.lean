/-
# Which value counts

A name may be written to the map of a request many times: by the subject and by its role, as a stored
value and as what follows from the request, from the clock and from the context. What stands under the
key of the name in the end can be told without writing anything. Together with the order of the keys
this says all about a map that was gathered without a cache, where the role overrides the subject.
-/

import Clearance.Proofs.Attribute.Order
import Clearance.Proofs.Attribute.Reading
import Clearance.Proofs.Attribute.Values
import Clearance.Proofs.Directory.Loading
import Clearance.Proofs.Service.Gathering

namespace Clearance

/-- What the owner of a resource comes to for a subject. -/
def ownerValue? (subject : String) (owner : Option String) (n : String) : Option String :=
  owner.bind fun owner =>
    if n = "owner_id" then some owner
    else if n = "is_owner" then some (if owner = subject then "true" else "false")
    else none

/-- The string form of what a context has under a key. -/
def contextValue? (context : List (String × Value)) (n : String) : Option String :=
  (Ordered.get? n (Ordered.ofList context)).map Value.string

/-- What a clock shows. -/
def clockValue? (timestamp weekday : String) (n : String) : Option String :=
  if n = "current_time" then some timestamp else if n = "day_of_week" then some weekday else none

open Gathering in
/-- The value that counts for a name, of all that is known about a request. -/
def Lookups.value? (l : Lookups) (q : Inquiry) (timestamp weekday : String) :
    Category → String → Option String
  | .subject, n => (lastValue n l.role).or (lastValue n l.subject)
  | .resource, n =>
    (if n = "resource_type" then given? q.resourceType else none).or
      ((ownerValue? q.subject l.owner n).or (lastValue n l.resource))
  | .action, n => if n = "action_name" then some q.action else lastValue n l.action
  | .environment, n =>
    (contextValue? q.context n).or
      ((clockValue? timestamp weekday n).or (lastValue n l.environment))

namespace AttributeMap

/-! ## What each part writes -/

section Parts

variable (m : AttributeMap) (c : Category) (n : String)

theorem value?_insert_of_category {a : Attribute} {d : Category} (ha : a.category = d.name) :
    (m.insert a).value? (attributeKey c.name n) =
      if d = c ∧ a.name = n then some a.value else m.value? (attributeKey c.name n) := by
  rw [value?_insert, Attribute.key, ha]
  simp only [attributeKey_inj]

theorem value?_merge_eq (c' : Category) (values : List Attribute) :
    (m.merge c' true values).value? (attributeKey c.name n) =
      if c' = c then (lastValue n values).or (m.value? (attributeKey c.name n))
      else m.value? (attributeKey c.name n) := by
  split
  case isTrue h =>
    rw [h]
    exact value?_merge_of_category m c values n
  case isFalse h =>
    exact value?_merge_of_other m c' values fun _ heq => h (attributeKey_inj.mp heq).1

theorem value?_addOwner (subject : String) (owner : Option String) :
    (m.addOwner subject owner).value? (attributeKey c.name n) =
      if .resource = c then (ownerValue? subject owner n).or (m.value? (attributeKey c.name n))
      else m.value? (attributeKey c.name n) := by
  cases owner with
  | none => simp [addOwner, ownerValue?]
  | some owner =>
      have hshown : (Value.bool (owner == subject)).string =
          if owner = subject then "true" else "false" := by
        simp [Value.string]
      simp only [addOwner]
      rw [value?_insert_of_category _ c n (d := .resource) rfl,
        value?_insert_of_category _ c n (d := .resource) rfl, hshown]
      by_cases hc : Category.resource = c
      · by_cases howner : n = "owner_id"
        · simp [hc, howner, ownerValue?]
        · by_cases hself : n = "is_owner"
          · simp [hc, hself, ownerValue?]
          · simp [hc, ownerValue?, howner, hself, Ne.symm howner, Ne.symm hself]
      · simp [hc]

theorem value?_addAction (action : String) :
    (m.addAction action).value? (attributeKey c.name n) =
      if .action = c ∧ "action_name" = n then some action
      else m.value? (attributeKey c.name n) :=
  m.value?_insert_of_category c n rfl

theorem value?_addResourceType (resourceType : Option String) :
    (m.addResourceType resourceType).value? (attributeKey c.name n) =
      if .resource = c ∧ "resource_type" = n then
        (Gathering.given? resourceType).or (m.value? (attributeKey c.name n))
      else m.value? (attributeKey c.name n) := by
  cases resourceType with
  | none => simp [addResourceType, Gathering.given?]
  | some type =>
      simp only [addResourceType, Gathering.given?, Option.filter_some]
      cases type.isEmpty with
      | true => simp
      | false =>
          simp only [Bool.false_eq_true, if_false, Bool.not_false, if_true, Option.some_or]
          rw [value?_insertBeforeEnvironment, Attribute.key]
          simp only [attributeKey_inj]

theorem value?_addTime (timestamp weekday : String) :
    (m.addTime timestamp weekday).value? (attributeKey c.name n) =
      if .environment = c then
        (clockValue? timestamp weekday n).or (m.value? (attributeKey c.name n))
      else m.value? (attributeKey c.name n) := by
  simp only [addTime]
  rw [value?_insert_of_category _ c n (d := .environment) rfl,
    value?_insert_of_category _ c n (d := .environment) rfl]
  by_cases hc : Category.environment = c
  · by_cases htime : n = "current_time"
    · simp [hc, htime, clockValue?]
    · by_cases hday : n = "day_of_week"
      · simp [hc, hday, clockValue?]
      · simp [hc, clockValue?, htime, hday, Ne.symm htime, Ne.symm hday]
  · simp [hc]

theorem value?_withContext (context : List (String × Value)) :
    (m.withContext context).value? (attributeKey c.name n) =
      if .environment = c then (contextValue? context n).or (m.value? (attributeKey c.name n))
      else m.value? (attributeKey c.name n) := by
  induction context using List.reverseRecOn with
  | nil => simp [withContext, contextValue?, Ordered.ofList]
  | append_singleton context entry ih =>
      have hlast : m.withContext (context ++ [entry]) =
          (m.withContext context).insert (contextAttribute entry.1 entry.2.kindName entry.2.string) := by
        simp [withContext]
      have hvalue : contextValue? (context ++ [entry]) n =
          if entry.1 = n then some entry.2.string else contextValue? context n := by
        simp only [contextValue?, Ordered.ofList, List.foldl_append, List.foldl_cons,
          List.foldl_nil, Ordered.get?_set]
        split <;> rfl
      rw [hlast, hvalue, value?_insert_of_category _ c n (d := .environment) rfl, ih]
      by_cases hc : Category.environment = c
      · by_cases hkey : entry.1 = n <;> simp [hc, hkey, contextAttribute]
      · simp [hc]

end Parts

end AttributeMap

/-! ## What counts in the end -/

section Whole

variable {l : Lookups} {q : Gathering.Inquiry} {now : Time.Moment} {m : AttributeMap}

/-- What stands under a key of the map of a request is the value that counts for the name. -/
theorem Lookups.value?_forRequest {timestamp weekday : String}
    (htimestamp : now.timestamp = .ok timestamp) (hweekday : now.dayOfWeek = .ok weekday)
    (h : (l.toMap true q.subject q.action).forRequest now q.resourceType q.context = .ok m)
    (c : Category) (n : String) :
    m.value? (attributeKey c.name n) = l.value? q timestamp weekday c n := by
  obtain ⟨timestamp', weekday', htimestamp', hweekday', -, rfl⟩ := AttributeMap.forRequest_eq_ok.mp h
  obtain rfl := Except.ok.inj (htimestamp.symm.trans htimestamp')
  obtain rfl := Except.ok.inj (hweekday.symm.trans hweekday')
  have hempty : ({} : AttributeMap).value? (attributeKey c.name n) = none := rfl
  simp only [toMap, AttributeMap.value?_withContext, AttributeMap.value?_addTime,
    AttributeMap.value?_addResourceType, AttributeMap.value?_merge_eq,
    AttributeMap.value?_addAction, AttributeMap.value?_addOwner, hempty, Option.or_none]
  cases c with
  | subject => simp [value?]
  | resource =>
      by_cases htype : n = "resource_type"
      · simp [value?, htype]
      · simp [value?, htype, Ne.symm htype]
  | action =>
      by_cases hname : n = "action_name"
      · simp [value?, hname]
      · simp [value?, hname, Ne.symm hname]
  | environment => simp [value?]

/-- A map has the keys and the values that its look-ups and the request call for, and no others. -/
structure AttributeMap.IsGatheredFrom (m : AttributeMap) (l : Lookups) (q : Gathering.Inquiry)
    (timestamp weekday : String) : Prop extends m.IsKeyed where
  keys_eq : Ordered.keys m.entries = Ordered.distinct
    ((l.storedNames ++ typeNames q.resourceType ++ l.environmentNames q.context).map nameKey)
  value?_eq : ∀ c n, m.value? (attributeKey c.name n) = l.value? q timestamp weekday c n

/-- The own part of a request, over the stored part. -/
theorem Lookups.exists_isGatheredFrom
    (h : (l.toMap true q.subject q.action).forRequest now q.resourceType q.context = .ok m) :
    ∃ timestamp weekday, now.timestamp = .ok timestamp ∧ now.dayOfWeek = .ok weekday ∧
      m.IsGatheredFrom l q timestamp weekday := by
  obtain ⟨timestamp, weekday, htimestamp, hweekday, -, -⟩ := AttributeMap.forRequest_eq_ok.mp h
  exact ⟨timestamp, weekday, htimestamp, hweekday, (l.isKeyed_toMap ..).forRequest h,
    isWritten_forRequest h, value?_forRequest htimestamp hweekday h⟩

end Whole

/-! ## Without a cache -/

namespace World

variable {σ : Type} {store : Store σ} {w : World σ}

/-- A world without a cache finds no map, whatever it is asked. -/
theorem honours_cache_eq_none (store : Store σ) :
    Process.Honours (handler store) (fun w => w.cache = none) (fun _ => True)
      (Question.FindsOnly fun _ => False) := by
  intro q w hw _
  refine ⟨cache_handler_of_eq_none store w hw q, fun answer hanswer => ?_⟩
  cases q with
  | lookUp key =>
      simp only [handler, hw] at hanswer
      rintro m rfl
      cases hanswer
  | _ => trivial

end World

open Attempt in
/-- Without a cache, the stored part of a map is read from the store. -/
theorem Gathering.read_of_yields_stored {σ : Type} {store : Store σ} {w w' : World σ}
    (hcache : w.cache = none) {roleOverrides : Bool} {q : Inquiry} {now : Time.Moment}
    {stored : AttributeMap}
    (h : Yields (World.handler store)
      (Gathering.stored roleOverrides q.subject q.action q.resource now) w stored w') :
    ∃ l, IsReadIn ((Gathering.stored roleOverrides q.subject q.action q.resource now).run.exchanges
        (World.handler store) w) q now l ∧
      stored = l.toMap roleOverrides q.subject q.action := by
  have hreaches := Process.leaves_run (World.handler store)
    (Gathering.stored roleOverrides q.subject q.action q.resource now).run w
  rw [show Process.run _ _ w = _ from h] at hreaches
  rcases found_or_read_of_reaches_stored hreaches with hfound | hread
  · have htrusts := (Process.Obeys.nothing _).exchanges (World.honours_cache_eq_none store) hcache _
      hfound
    exact (htrusts.2 stored rfl).elim
  · exact hread

open Attempt in
/-- **Precedence.** Without a cache, and if the role overrides, a map that is gathered has the keys and
the values that the answers to its look-ups and the request call for: of each name the value that counts,
in the place where the name was first written. Where answers are waited for and the store has some to
the look-ups, there is such a map at every time of the calendar for a context that can be written. -/
theorem Service.gather_isGatheredFrom {σ : Type} {service : Service σ} {w : World σ}
    (hoverride : service.settings.doesRoleOverride = true) (hcache : w.cache = none)
    (q : Gathering.Inquiry) :
    (∀ m, (service.gather q.subject q.action q.resource q.resourceType q.context w).1 =
        some (.ok m) →
      ∃ l timestamp weekday,
        Gathering.IsReadIn ((q.process true).exchanges (World.handler service.store) w) q w.now l ∧
        w.now.timestamp = .ok timestamp ∧ w.now.dayOfWeek = .ok weekday ∧
        m.IsGatheredFrom l q timestamp weekday) ∧
    (w.isHasty = false → w.now.universal?.isSome → Value.HaveStrings q.context →
      (∀ c ∈ Gathering.calls q.subject q.action q.resource w.now, service.store.Answers w.store c) →
      ∃ m, (service.gather q.subject q.action q.resource q.resourceType q.context w).1 =
        some (.ok m)) := by
  constructor
  · intro m hm
    obtain ⟨w', hyields⟩ := service.yields_of_attempt_eq_some hm
    rw [hoverride] at hyields
    obtain ⟨stored, w₁, hstored, hwhole⟩ := gather_yields.mp ⟨w', hyields⟩
    obtain ⟨l, hread, rfl⟩ := Gathering.read_of_yields_stored hcache hstored
    obtain ⟨timestamp, weekday, htimestamp, hweekday, hgathered⟩ := l.exists_isGatheredFrom hwhole
    have hsub : (Gathering.stored true q.subject q.action q.resource w.now).run.exchanges
        (World.handler service.store) w ⊆
          (q.process true).exchanges (World.handler service.store) w := by
      intro x hx
      exact mem_exchanges_bind.mpr (.inr ⟨w.now, w, .pose rfl, mem_exchanges_bind.mpr (.inl hx)⟩)
    exact ⟨l, timestamp, weekday, hread.mono hsub, htimestamp, hweekday, hgathered⟩
  · exact fun hwaits hnow hcontext hanswers =>
      exists_gather hwaits hanswers hnow q.resourceType hcontext

namespace Directory

/-- A reader who has a role and owns a book, in a building that closes. -/
def privateLibrary : Directory :=
  ((((({} : Directory).addSubject "ann" (some "staff")).assignSubject "ann" "floor" "number"
    (.int 1)).2.assignRole "staff" "floor" "number" (.int 2)).2.addResource "diary" none
      (some "ann")).assignEnvironment "resource_type" "string" (.text "building") {} |>.2

/-- A request to read the diary, with a context that is meant to make it another day. -/
def diaryInquiry : Gathering.Inquiry where
  subject := "ann"
  action := "read"
  resource := some "diary"
  resourceType := some "book"
  context := [("day_of_week", .int 9)]

/-- The world in which that library is asked. -/
def privateWorld : World Directory := { readingWorld with store := privateLibrary }

theorem privateLibrary_isGathered :
    ∃ m l timestamp weekday,
      ((service {}).gather "ann" "read" (some "diary") (some "book") diaryInquiry.context
        privateWorld).1 = some (.ok m) ∧
      m.IsGatheredFrom l diaryInquiry timestamp weekday ∧
      m.value? "resource.resource_type" = some "book" ∧
      m.value? "environment.day_of_week" = some "9" := by
  have hoverride : (service {}).settings.doesRoleOverride = true := by decide
  have hcache : privateWorld.cache = none := rfl
  obtain ⟨hgathered, hexists⟩ := Service.gather_isGatheredFrom hoverride hcache diaryInquiry
  obtain ⟨m, hm⟩ := hexists rfl (by decide +kernel) (by decide +kernel)
    fun c _ => answers (by decide +kernel) c
  obtain ⟨l, timestamp, weekday, -, -, -, hm'⟩ := hgathered m hm
  refine ⟨m, l, timestamp, weekday, hm, hm', ?_, ?_⟩
  · exact (hm'.value?_eq .resource "resource_type").trans rfl
  · exact (hm'.value?_eq .environment "day_of_week").trans rfl

end Directory

end Clearance
