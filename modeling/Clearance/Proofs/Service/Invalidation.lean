/-
# Invalidation

An invalidation drops the maps that the cache has of a subject. What the cache has of the subject later
was left there by requests that went on after the invalidation, and each of them has left what it had
read itself. One that was under way at the time of the invalidation may have read before it, and what
it leaves is found by the later requests of its key. Apart from that, whatever a request of the subject
comes to that begins after the invalidation was read after it.
-/

import Clearance.Proofs.Attribute.Reading
import Clearance.Proofs.Database.Meaning
import Clearance.Proofs.Service.Traffic

namespace Clearance

namespace World

variable {σ : Type} {w : World σ} {subject : String} {pieces : List (Nat × Exchange)}

/-- An invalidation leaves the maps that it does not cover. -/
theorem mem_remembered_of_invalidate {subject resource : Option String}
    {e : CacheKey × CacheEntry AttributeMap Float}
    (h : e ∈ (Service.invalidate subject resource w).2.remembered) :
    e ∈ w.remembered ∧ e.1.isCovered subject resource = false := by
  simp only [Service.invalidate, remembered] at h ⊢
  cases hcache : w.cache with
  | none =>
      rw [hcache] at h
      simp [hcache] at h
  | some cache =>
      rw [hcache] at h
      simpa [note, AttributeCache.invalidate, BoundedCache.invalidate] using h

/-- The maps of a subject that the cache has, and those that were found in it, were left there since a
journal was begun. -/
structure IsSourced (subject : String) (pieces : List (Nat × Exchange)) (w : World σ) : Prop where
  remembered : ∀ e ∈ w.remembered, e.1.subject = subject →
    ∃ n, (n, ⟨.remember e.1 e.2.value, ()⟩) ∈ pieces
  found : ∀ n key m, (n, ⟨.lookUp key, some m⟩) ∈ pieces → key.subject = subject →
    ∃ j, (j, ⟨.remember key m, ()⟩) ∈ pieces

namespace IsSourced

/-- After an invalidation, a new journal can be begun. -/
theorem invalidate (subject : String) (w : World σ) :
    IsSourced subject [] (Service.invalidate (some subject) none w).2 where
  remembered e he hsubject := by
    have hcovered := (mem_remembered_of_invalidate he).2
    simp [CacheKey.isCovered, hsubject] at hcovered
  found _ _ _ hmem := by cases hmem

theorem of_remembered_subset {w' : World σ} (h : IsSourced subject pieces w)
    (hsub : ∀ e ∈ w'.remembered, e ∈ w.remembered) : IsSourced subject pieces w' where
  remembered e he := h.remembered e (hsub e he)
  found := h.found

/-- A question is told its source, and what it leaves in the cache has one. -/
theorem handler (h : IsSourced subject pieces w) (store : Store σ) (n : Nat) (q : Question) :
    IsSourced subject (pieces ++ ((World.handler store q w).1.map fun a => (n, ⟨q, a⟩)).toList)
      (World.handler store q w).2 where
  remembered e he hsubject := by
    have hold : e ∈ w.remembered → ∃ j, (j, ⟨.remember e.1 e.2.value, ()⟩) ∈
        pieces ++ ((World.handler store q w).1.map fun a => (n, ⟨q, a⟩)).toList := by
      intro he
      obtain ⟨j, hj⟩ := h.remembered e he hsubject
      exact ⟨j, List.mem_append_left _ hj⟩
    cases hkeeping : q.isKeeping with
    | false => exact hold (mem_remembered_of_handler store w hkeeping he)
    | true =>
        cases q with
        | remember key m =>
            rcases mem_remembered_of_remember store w he with he | ⟨rfl, rfl⟩
            · exact hold he
            · exact ⟨n, List.mem_append_right _ (by simp [World.handler])⟩
        | _ => cases hkeeping
  found j key m hmem hsubject := by
    suffices hsource : ∃ i, (i, ⟨.remember key m, ()⟩) ∈ pieces by
      obtain ⟨i, hi⟩ := hsource
      exact ⟨i, List.mem_append_left _ hi⟩
    rcases List.mem_append.mp hmem with hmem | hmem
    · exact h.found j key m hmem hsubject
    · simp only [Option.mem_toList, Option.map_eq_some_iff] at hmem
      obtain ⟨a, ha, heq⟩ := hmem
      cases heq
      obtain ⟨e, he, rfl, rfl⟩ := mem_remembered_of_lookUp store w ha
      exact h.remembered e he hsubject

end IsSourced

end World

namespace Traffic

variable {σ : Type} {service : Service σ} {t : Traffic σ} {subject : String}
  {pieces : List (Nat × Exchange)}

theorem isSourced_after (service : Service σ) (h : t.world.IsSourced subject pieces)
    (happening : Happening σ) :
    (t.after service happening).world.IsSourced subject
      (pieces ++ (t.told service happening).toList) := by
  have hquiet : ∀ w' : World σ, (∀ e ∈ w'.remembered, e ∈ t.world.remembered) →
      w'.IsSourced subject (pieces ++ (none : Option (Nat × Exchange)).toList) := by
    intro w' hsub
    rw [Option.toList_none, List.append_nil]
    exact h.of_remembered_subset hsub
  cases happening with
  | begin inquiry => exact hquiet _ fun _ he => he
  | change f => exact hquiet _ fun _ he => he
  | pass now seconds => exact hquiet _ fun _ he => he
  | invalidate _ _ => exact hquiet _ fun _ he => (World.mem_remembered_of_invalidate he).1
  | proceed turn =>
      simp only [after, proceed, told]
      cases t.errands[turn]? with
      | none => exact hquiet _ fun _ he => he
      | some errand =>
          obtain ⟨inquiry, a | ⟨q, next⟩⟩ := errand
          · exact hquiet _ fun _ he => he
          · have hasked := h.handler service.store turn q
            simp only [Process.step, Process.exchange?, Option.bind_some, Option.map_map]
            rcases hq : World.handler service.store q t.world with ⟨_ | a, w'⟩ <;>
              (rw [hq] at hasked; exact hasked)

theorem isSourced_run (service : Service σ) (h : t.world.IsSourced subject pieces)
    (happenings : List (Happening σ)) :
    (t.run service happenings).world.IsSourced subject (pieces ++ t.journal service happenings) :=
  journal_induction (P := fun pieces t => t.world.IsSourced subject pieces)
    (fun _ _ happening h => isSourced_after service h happening) h happenings

/-- A request was begun and has not come to an end. -/
def IsUnderWay (t : Traffic σ) (n : Nat) : Prop :=
  ∃ errand, t.errands[n]? = some errand ∧ errand.rest.result? = none

/-- A request that is over is told nothing more. -/
theorem IsTold.isUnderWay_of_mem (h : IsTold service pieces t) {happenings : List (Happening σ)}
    {n : Nat} {x : Exchange} (hn : n < t.errands.length)
    (hx : x ∈ heardBy n (t.journal service happenings)) : t.IsUnderWay n := by
  have he : t.errands[n]? = some t.errands[n] := List.getElem?_eq_getElem hn
  refine ⟨_, he, ?_⟩
  obtain ⟨rest, hrest⟩ := exists_errand_run service he happenings
  have hbefore := h.leaves n _ he
  have hleaves := (h.run happenings).leaves n _ hrest
  rw [heardBy_append] at hleaves
  cases hresult : t.errands[n].rest with
  | wait q next => rfl
  | done outcome =>
      rw [hresult] at hbefore
      rw [hbefore.eq_nil_of_done hleaves] at hx
      cases hx

end Traffic

/-! ## A demotion -/

namespace Database

/-- A service over a database. -/
def service : Service Database := ⟨{}, store⟩

/-- A world with a database in memory and a cache. -/
def archive : World Database where
  store := inMemory
  now := ⟨⟨2024, 1, 15⟩, 9, 30, 0, 0, none⟩
  seconds := 0.0
  cache := some { maxSize := .int 2, lifetime := .seconds 60 }

/-- The role of a subject is written to the database. -/
def appoint (subject role : String) : Happening Database :=
  .change fun db => (db.assignUser (some subject) (some "role") (.text role)).2.2

/-- An administrator reads. -/
def annReads : Gathering.Inquiry := { subject := "ann", action := "read" }

/-- An administrator becomes a guest. She has begun to read before, and has had some of her questions
answered. -/
def demotion (answers : Nat) : List (Happening Database) :=
  appoint "ann" "admin" :: .begin annReads :: List.replicate answers (.proceed 0) ++
    [appoint "ann" "guest"]

/-- She goes on, and then she reads again. -/
def rereading : List (Happening Database) :=
  List.replicate 8 (.proceed 0) ++ .begin annReads :: List.replicate 8 (.proceed 1)

/-- The role that a request has come to. -/
def roleOf? (errand : Gathering.Errand) : Option String :=
  errand.rest.result?.bind fun outcome => outcome.toOption.bind fun m =>
    (m.get? "subject.role").map Attribute.value

theorem exists_of_roleOf? {t : Traffic Database} {n : Nat} {role : String}
    (h : t.errands[n]?.bind roleOf? = some role) :
    ∃ errand m, t.errands[n]? = some errand ∧ errand.rest.result? = some (.ok m) ∧
      (m.get? "subject.role").map Attribute.value = some role := by
  obtain ⟨errand, he, hrole⟩ := Option.bind_eq_some_iff.mp h
  simp only [roleOf?, Option.bind_eq_some_iff] at hrole
  obtain ⟨_ | m, hresult, m', hm, hrole⟩ := hrole
  · cases hm
  · cases hm
    exact ⟨errand, m, he, hresult, hrole⟩

theorem archive_eq : archive =
    { store := { url := "sqlite://", engine := .connected (some {}), isInitialized := true }
      now := ⟨⟨2024, 1, 15⟩, 9, 30, 0, 0, none⟩
      seconds := 0.0
      cache := some { maxSize := .int 2, lifetime := .seconds 60 } } := by
  rw [archive, inMemory_eq]

/-- The questions by which a role is read. -/
def isReadingOf (subject : String) : Question → Bool
  | .ask (.subjectAttributes s) | .ask (.roleAttributes s) => s == subject
  | _ => false

end Database

/-! ## Requests after an invalidation -/

namespace Traffic

variable {σ : Type}

/-- **Invalidation among requests in flight.** Whatever happens before an invalidation for a subject
and after it, the stored part of what a request of the subject comes to that begins after the
invalidation was looked up by a request of the same key: after the invalidation, or by a request that
was under way at that time. -/
theorem read_since_invalidation (service : Service σ) (w : World σ)
    (before later : List (Happening σ)) (subject : String) :
    let start : Traffic σ := ⟨w, []⟩
    let atHand := start.run service before
    let invalidated := atHand.after service (.invalidate (some subject) none)
    ∀ n errand m, (invalidated.run service later).errands[n]? = some errand →
      atHand.errands.length ≤ n → errand.inquiry.subject = subject →
      errand.rest.result? = some (.ok m) →
      ∃ j reader l now now', (invalidated.run service later).errands[j]? = some reader ∧
        reader.inquiry.key = errand.inquiry.key ∧
        (l.toMap service.settings.doesRoleOverride subject errand.inquiry.action).forRequest now'
          errand.inquiry.resourceType errand.inquiry.context = .ok m ∧
        (Gathering.IsReadIn (heardBy j (invalidated.journal service later)) reader.inquiry now l ∨
          atHand.IsUnderWay j ∧
            Gathering.IsReadIn
              (heardBy j (start.journal service before ++ invalidated.journal service later))
              reader.inquiry now l) := by
  intro start atHand invalidated n errand m he hbegun hsubject hdone
  subst hsubject
  have htold : IsTold service (start.journal service before) atHand :=
    (IsTold.start service w).run before
  have hinvalidated : IsTold service (start.journal service before) invalidated := by
    simpa [told] using htold.after (.invalidate (some errand.inquiry.subject) none)
  have hfinal := hinvalidated.run later
  have hsourced := isSourced_run service
    (World.IsSourced.invalidate errand.inquiry.subject atHand.world) (t := invalidated) later
  rw [List.nil_append] at hsourced
  -- What was begun after the invalidation has heard nothing before it.
  have hheard : ∀ j, atHand.errands.length ≤ j →
      heardBy j (start.journal service before ++ invalidated.journal service later) =
        heardBy j (invalidated.journal service later) := by
    intro j hj
    rw [heardBy_append, heardBy_eq_nil fun piece hpiece =>
      Nat.lt_of_lt_of_le (htold.begun piece hpiece) hj, List.nil_append]
  have hleaves := hfinal.leaves n errand he
  rw [Process.result?_eq_some_iff.mp hdone, hheard n hbegun] at hleaves
  obtain ⟨now', stored, hwhole, hfound | ⟨l, hread, rfl⟩⟩ :=
    Gathering.found_or_read_of_leaves_process hleaves
  · obtain ⟨j, hj⟩ := hsourced.found n _ _ (mem_heardBy.mp hfound) rfl
    obtain ⟨reader, hreader⟩ : ∃ reader, (invalidated.run service later).errands[j]? = some reader :=
      ⟨_, List.getElem?_eq_getElem (hfinal.begun _ (List.mem_append_right _ hj))⟩
    have hkept := mem_heardBy.mpr (List.mem_append_right (start.journal service before) hj)
    obtain ⟨hkey, now, l, hread, rfl⟩ :=
      Gathering.read_of_leaves_process (hfinal.leaves j reader hreader) hkept
    obtain ⟨hsubject, haction⟩ : errand.inquiry.subject = reader.inquiry.subject ∧
        errand.inquiry.action = reader.inquiry.action :=
      ⟨congrArg CacheKey.subject hkey, congrArg CacheKey.action hkey⟩
    refine ⟨j, reader, l, now, now', hreader, hkey.symm, by rwa [hsubject, haction], ?_⟩
    rcases Nat.lt_or_ge j atHand.errands.length with hlt | hge
    · exact .inr ⟨hinvalidated.isUnderWay_of_mem hlt (mem_heardBy.mpr hj), hread⟩
    · rw [hheard j hge] at hread
      exact .inl hread
  · exact ⟨n, errand, l, _, now', he, rfl, hwhole, .inl hread⟩

end Traffic

namespace Database

/-- If the first request has come to its end, the next one reads again. -/
theorem archive_reads_new_role :
    let start : Traffic Database := ⟨archive, []⟩
    let atHand := start.run service (demotion 8)
    let invalidated := atHand.after service (.invalidate (some "ann") none)
    ∃ errand m, (invalidated.run service rereading).errands[1]? = some errand ∧
      errand.rest.result? = some (.ok m) ∧
      (m.get? "subject.role").map Attribute.value = some "guest" ∧
      ∃ j reader l now now', (invalidated.run service rereading).errands[j]? = some reader ∧
        reader.inquiry.key = errand.inquiry.key ∧
        (l.toMap service.settings.doesRoleOverride "ann" errand.inquiry.action).forRequest now'
          errand.inquiry.resourceType errand.inquiry.context = .ok m ∧
        (Gathering.IsReadIn (Traffic.heardBy j (invalidated.journal service rereading))
            reader.inquiry now l ∨
          atHand.IsUnderWay j ∧
            Gathering.IsReadIn
              (Traffic.heardBy j
                (start.journal service (demotion 8) ++ invalidated.journal service rereading))
              reader.inquiry now l) := by
  intro start atHand invalidated
  have hrun : (invalidated.run service rereading).errands[1]?.bind roleOf? = some "guest" ∧
      (invalidated.run service rereading).errands[1]?.map (·.inquiry.subject) = some "ann" ∧
      atHand.errands.length ≤ 1 := by
    simp only [start, atHand, invalidated, archive_eq]
    decide +kernel
  obtain ⟨hrole, hsubject, hbegun⟩ := hrun
  obtain ⟨errand, m, he, hdone, hvalue⟩ := exists_of_roleOf? hrole
  rw [he] at hsubject
  exact ⟨errand, m, he, hdone, hvalue,
    Traffic.read_since_invalidation service archive (demotion 8) rereading "ann" 1 errand m he
      hbegun (Option.some.inj hsubject) hdone⟩

/-- A request that has read a role before it was taken away leaves it in the cache after the
invalidation. The next request comes to the lost role, and nothing of it is read anew. -/
theorem archive_keeps_lost_role :
    let atHand := Traffic.run service ⟨archive, []⟩ (demotion 4)
    let invalidated := atHand.after service (.invalidate (some "ann") none)
    ∃ errand m, (invalidated.run service rereading).errands[1]? = some errand ∧
      atHand.errands.length ≤ 1 ∧ errand.inquiry.subject = "ann" ∧
      errand.rest.result? = some (.ok m) ∧
      (m.get? "subject.role").map Attribute.value = some "admin" ∧
      ∀ piece ∈ invalidated.journal service rereading, isReadingOf "ann" piece.2.question = false := by
  intro atHand invalidated
  have hrun : (invalidated.run service rereading).errands[1]?.bind roleOf? = some "admin" ∧
      (invalidated.run service rereading).errands[1]?.map (·.inquiry.subject) = some "ann" ∧
      atHand.errands.length ≤ 1 ∧
      ∀ piece ∈ invalidated.journal service rereading,
        isReadingOf "ann" piece.2.question = false := by
    simp only [atHand, invalidated, archive_eq]
    decide +kernel
  obtain ⟨hrole, hsubject, hbegun, hreads⟩ := hrun
  obtain ⟨errand, m, he, hdone, hvalue⟩ := exists_of_roleOf? hrole
  rw [he] at hsubject
  exact ⟨errand, m, he, hbegun, Option.some.inj hsubject, hdone, hvalue, hreads⟩

end Database

end Clearance
