/-
# Requests in traffic

A request that has all of the turns comes to what the service gathers. In between others, it is
followed by a journal: what the requests were told, in order, each piece with the number of the request.
A request is told something only when it is its turn, and keeps what it is about. So what is left of it
is what its process leaves after its part of the journal, whatever happened in between.
-/

import Clearance.Proofs.Process.Transcript
import Clearance.Service.Traffic

namespace Clearance.Traffic

variable {σ : Type} {service : Service σ} {t : Traffic σ} {n : Nat} {errand : Gathering.Errand}

/-! ## Requests stay what they are -/

/-- Whatever happens, a request that was begun stays in its place and about the same. -/
theorem exists_errand_after (service : Service σ) (he : t.errands[n]? = some errand)
    (happening : Happening σ) :
    ∃ rest, (t.after service happening).errands[n]? = some { errand with rest := rest } := by
  cases happening with
  | begin inquiry =>
      have hlt := (List.getElem?_eq_some_iff.mp he).1
      exact ⟨errand.rest, by rw [after, List.getElem?_append_left hlt, he]⟩
  | proceed turn =>
      simp only [after, proceed]
      cases hturn : t.errands[turn]? with
      | none => exact ⟨errand.rest, he⟩
      | some other =>
          by_cases hn : turn = n
          · subst hn
            obtain rfl := Option.some.inj (he.symm.trans hturn)
            exact ⟨_, List.getElem?_set_self (List.getElem?_eq_some_iff.mp he).1⟩
          · exact ⟨errand.rest, (List.getElem?_set_ne hn).trans he⟩
  | _ => exact ⟨errand.rest, he⟩

theorem exists_errand_run (service : Service σ) (he : t.errands[n]? = some errand)
    (happenings : List (Happening σ)) :
    ∃ rest, (t.run service happenings).errands[n]? = some { errand with rest := rest } := by
  induction happenings generalizing t errand with
  | nil => exact ⟨errand.rest, he⟩
  | cons happening later ih =>
      obtain ⟨_, hafter⟩ := exists_errand_after service he happening
      obtain ⟨rest, hlater⟩ := ih hafter
      exact ⟨rest, hlater⟩

/-! ## A request that has all the turns -/

/-- A request comes to where its run ends. -/
theorem run_proceed_of_run {p : Process (Except Fault AttributeMap)} {w' : World σ}
    {outcome : Except Fault AttributeMap} {inquiry : Gathering.Inquiry}
    (he : t.errands[n]? = some ⟨inquiry, p⟩)
    (hrun : p.run (World.handler service.store) t.world = (.done outcome, w')) :
    ∃ k, t.run service (List.replicate k (.proceed n)) =
      { world := w', errands := t.errands.set n ⟨inquiry, .done outcome⟩ } := by
  induction p generalizing t with
  | done a =>
      cases hrun
      obtain ⟨hlt, hsame⟩ := List.getElem?_eq_some_iff.mp he
      refine ⟨0, ?_⟩
      rw [← hsame, List.set_getElem_self]
      rfl
  | wait q next ih =>
      have hlt := (List.getElem?_eq_some_iff.mp he).1
      rw [Process.run] at hrun
      rcases hq : World.handler service.store q t.world with ⟨_ | answer, w₁⟩
      · rw [hq] at hrun
        cases hrun
      · rw [hq] at hrun
        have hproceed : t.after service (.proceed n) =
            { world := w₁, errands := t.errands.set n ⟨inquiry, next answer⟩ } := by
          simp only [after, proceed, he, Process.step, hq]
        obtain ⟨k, hk⟩ := ih answer (t := t.after service (.proceed n))
          (by rw [hproceed, List.getElem?_set_self hlt]) (by rw [hproceed]; exact hrun)
        refine ⟨k + 1, ?_⟩
        rw [hproceed, List.set_set] at hk
        rw [List.replicate_succ, run, List.foldl_cons, hproceed]
        exact hk

/-- A request that has all the turns comes to what the service gathers, and leaves the world like
that. -/
theorem run_begin_proceed {inquiry : Gathering.Inquiry} {outcome : Except Fault AttributeMap}
    {w' : World σ}
    (h : service.gather inquiry.subject inquiry.action inquiry.resource inquiry.resourceType
      inquiry.context t.world = (some outcome, w')) :
    ∃ k, t.run service (.begin inquiry :: List.replicate k (.proceed t.errands.length)) =
      { world := w', errands := t.errands ++ [⟨inquiry, .done outcome⟩] } := by
  have hrun : (inquiry.process service.settings.doesRoleOverride).run (World.handler service.store)
      t.world = (.done outcome, w') := by
    simp only [Service.gather, Service.attempt, Service.run] at h
    simp only [Gathering.Inquiry.process]
    rcases hp : (gather service.settings.doesRoleOverride inquiry.subject inquiry.action
      inquiry.resource inquiry.resourceType inquiry.context).run.run (World.handler service.store)
      t.world with ⟨a | ⟨q, next⟩, w₁⟩
    · rw [hp] at h
      cases h
      rfl
    · rw [hp] at h
      cases h
  obtain ⟨k, hk⟩ := run_proceed_of_run (t := t.after service (.begin inquiry))
    (List.getElem?_concat_length ..) hrun
  refine ⟨k, ?_⟩
  rw [run, List.foldl_cons]
  refine hk.trans ?_
  simp [after]

/-! ## Journals and transcripts -/

/-- What is told when something happens, and to whom. -/
def told (service : Service σ) (t : Traffic σ) : Happening σ → Option (Nat × Exchange)
  | .proceed turn => t.errands[turn]?.bind fun errand =>
      (errand.rest.exchange? (World.handler service.store) t.world).map (turn, ·)
  | _ => none

/-- What is told while some things happen. -/
def journal (service : Service σ) (t : Traffic σ) : List (Happening σ) → List (Nat × Exchange)
  | [] => []
  | happening :: rest =>
    (t.told service happening).toList ++ (t.after service happening).journal service rest

/-- What is kept by each happening, with what is told then, is kept by a run with its journal. -/
theorem journal_induction {P : List (Nat × Exchange) → Traffic σ → Prop}
    (hafter : ∀ pieces t happening, P pieces t →
      P (pieces ++ (told service t happening).toList) (t.after service happening))
    {pieces : List (Nat × Exchange)} (h : P pieces t) (happenings : List (Happening σ)) :
    P (pieces ++ t.journal service happenings) (t.run service happenings) := by
  induction happenings generalizing t pieces with
  | nil =>
      rw [journal, List.append_nil]
      exact h
  | cons happening later ih =>
      have hlater := ih (hafter pieces t happening h)
      rw [List.append_assoc] at hlater
      exact hlater

/-- The part of a journal that one request was told. -/
def heardBy (n : Nat) (pieces : List (Nat × Exchange)) : List Exchange :=
  (pieces.filter fun piece => piece.1 = n).map Prod.snd

@[simp]
theorem heardBy_append (n : Nat) (pieces pieces' : List (Nat × Exchange)) :
    heardBy n (pieces ++ pieces') = heardBy n pieces ++ heardBy n pieces' := by
  simp [heardBy]

@[simp]
theorem heardBy_map_self (n : Nat) (x : Option Exchange) :
    heardBy n (x.map (n, ·)).toList = x.toList := by
  cases x <;> simp [heardBy]

theorem heardBy_map_of_ne {n turn : Nat} (h : n ≠ turn) (x : Option Exchange) :
    heardBy n (x.map (turn, ·)).toList = [] := by
  cases x <;> simp [heardBy, h.symm]

theorem mem_heardBy {n : Nat} {pieces : List (Nat × Exchange)} {x : Exchange} :
    x ∈ heardBy n pieces ↔ (n, x) ∈ pieces := by
  simp [heardBy]

theorem heardBy_eq_nil {n : Nat} {pieces : List (Nat × Exchange)}
    (h : ∀ piece ∈ pieces, piece.1 < n) : heardBy n pieces = [] := by
  refine List.eq_nil_iff_forall_not_mem.mpr fun x hx => ?_
  exact absurd (h _ (mem_heardBy.mp hx)) (Nat.lt_irrefl n)

variable {pieces : List (Nat × Exchange)}

/-- A journal has all that the requests were told since they were begun. -/
structure IsTold (service : Service σ) (pieces : List (Nat × Exchange)) (t : Traffic σ) : Prop where
  leaves : ∀ (n : Nat) (errand : Gathering.Errand), t.errands[n]? = some errand →
    (errand.inquiry.process service.settings.doesRoleOverride).Leaves (heardBy n pieces) errand.rest
  begun : ∀ piece ∈ pieces, piece.1 < t.errands.length

theorem IsTold.start (service : Service σ) (w : World σ) : IsTold service [] ⟨w, []⟩ where
  leaves := by simp
  begun := by simp

/-- The journal is continued by what is told next. -/
theorem IsTold.after (h : IsTold service pieces t) (happening : Happening σ) :
    IsTold service (pieces ++ (t.told service happening).toList) (t.after service happening) := by
  have hquiet : IsTold service (pieces ++ (none : Option (Nat × Exchange)).toList) t := by
    simpa using h
  cases happening with
  | begin inquiry =>
      refine ⟨fun n errand he => ?_, fun piece hpiece => ?_⟩
      · rcases Nat.lt_or_ge n t.errands.length with hlt | hge
        · rw [Traffic.after, List.getElem?_append_left hlt] at he
          exact hquiet.leaves n errand he
        · -- The new request has not been told anything yet.
          rw [Traffic.after, List.getElem?_append_right hge, List.getElem?_singleton] at he
          split at he
          · cases he
            have hnothing : heardBy n (pieces ++ (t.told service (.begin inquiry)).toList) = [] :=
              heardBy_eq_nil fun piece hpiece => Nat.lt_of_lt_of_le (hquiet.begun piece hpiece) hge
            rw [hnothing]
            exact .nil _
          · cases he
      · rw [Traffic.after, List.length_append]
        exact Nat.lt_add_right 1 (hquiet.begun piece hpiece)
  | proceed turn =>
      simp only [Traffic.after, told, proceed]
      cases hturn : t.errands[turn]? with
      | none => exact hquiet
      | some errand =>
          have hlt := (List.getElem?_eq_some_iff.mp hturn).1
          refine ⟨fun n other he => ?_, fun piece hpiece => ?_⟩
          · rw [Option.bind_some, heardBy_append]
            by_cases hn : turn = n
            · subst hn
              rw [List.getElem?_set_self hlt] at he
              cases he
              rw [heardBy_map_self]
              exact (h.leaves turn errand hturn).step _ t.world
            · rw [List.getElem?_set_ne hn] at he
              rw [heardBy_map_of_ne (Ne.symm hn), List.append_nil]
              exact h.leaves n other he
          · rw [List.length_set]
            rcases List.mem_append.mp hpiece with hpiece | hpiece
            · exact h.begun piece hpiece
            · simp only [Option.bind_some, Option.mem_toList,
                Option.map_eq_some_iff] at hpiece
              obtain ⟨_, _, rfl⟩ := hpiece
              exact hlt
  | _ => exact ⟨hquiet.leaves, hquiet.begun⟩

theorem IsTold.run (h : IsTold service pieces t) (happenings : List (Happening σ)) :
    IsTold service (pieces ++ t.journal service happenings) (t.run service happenings) :=
  journal_induction (fun _ _ happening h => h.after happening) h happenings

end Clearance.Traffic
