/-
# Gathering with and without an override

Whether the role of a subject overrides it makes no difference to what is asked before a map is made:
the time, the map in the cache, and if there is none the look-ups of the request. What comes out depends
on the switch by the map that is made of the answers, and on nothing else; no other question can be left
without an answer. So one run of the questions serves to compare what comes out under both switches.
-/

import Clearance.Proofs.Attribute.Override
import Clearance.Proofs.Database.Meaning
import Clearance.Proofs.Process.Alongside
import Clearance.Proofs.Service.Invalidation

namespace Clearance

open Attempt

/-- Whether the request's own part can be written does not depend on the map that it is written over. -/
theorem AttributeMap.endAlike_forRequest {ends : AttributeMap → AttributeMap → Prop}
    {m m' : AttributeMap} {now : Time.Moment} {resourceType : Option String}
    {context : List (String × Value)}
    (h : ∀ whole whole', m.forRequest now resourceType context = .ok whole →
      m'.forRequest now resourceType context = .ok whole' → ends whole whole') :
    EndAlike ends (m.forRequest now resourceType context)
      (m'.forRequest now resourceType context) := by
  simp only [forRequest] at h ⊢
  revert h
  rcases now.timestamp with fault | timestamp
  · exact fun _ => .error fault
  · rcases now.dayOfWeek with fault | weekday
    · exact fun _ => .error fault
    · simp only [bind, Except.bind, addContext_eq]
      cases Value.contextFault? context with
      | some fault => exact fun _ => .error fault
      | none => exact fun h => .ok (h _ _ rfl rfl)

namespace Gathering

/-! ## What is found out, and what is made of it -/

/-- What a request finds out: a time, and a map in the cache or the answers to its look-ups. -/
structure Findings where
  now : Time.Moment
  found : AttributeMap ⊕ Lookups

/-- Find a map in the cache, or look up what it is made of. -/
def search (q : Inquiry) (now : Time.Moment) : Attempt Findings := do
  match ← Attempt.pose (.lookUp q.key) with
  | some m =>
    Attempt.note (entry
      s!"Attribute map for {q.subject}/{orNone q.resource}/{q.action} served from cache")
    return ⟨now, .inl m⟩
  | none =>
    let found ← (lookUps q.subject q.action q.resource now).framed (failure q.subject q.resource)
    return ⟨now, .inr found⟩

/-- Find out what is asked before a map is made. -/
def findings (q : Inquiry) : Attempt Findings := Attempt.pose .time >>= search q

/-- The stored part of the map that is made of findings. -/
def Findings.stored (roleOverrides : Bool) (q : Inquiry) (f : Findings) : AttributeMap :=
  f.found.elim id fun l => l.toMap roleOverrides q.subject q.action

/-- The map that is made of findings. -/
def Findings.whole (roleOverrides : Bool) (q : Inquiry) (f : Findings) :
    Except Fault AttributeMap :=
  (f.stored roleOverrides q).forRequest f.now q.resourceType q.context

/-- Make a map of findings, and keep its stored part if it was not found. -/
def Findings.finish (roleOverrides : Bool) (q : Inquiry) (f : Findings) : Attempt AttributeMap := do
  match f.found with
  | .inl _ => pure ()
  | .inr _ => Attempt.pose (.remember q.key (f.stored roleOverrides q))
  let m ← ExceptT.mk (Process.done (f.whole roleOverrides q))
  Attempt.note (entry s!"Gathered {m.size} attributes for subject {q.subject}")
  return m

/-- A request finds out first, and then makes its map. -/
theorem gather_eq_findings (roleOverrides : Bool) (q : Inquiry) :
    gather roleOverrides q.subject q.action q.resource q.resourceType q.context =
      findings q >>= fun f => f.finish roleOverrides q := by
  simp only [gather, stored, findings, search, bind_assoc]
  congr 1
  funext now
  congr 1
  funext found
  cases found with
  | some m => simp only [bind_assoc, pure_bind]; rfl
  | none => simp only [bind_assoc, pure_bind]; rfl

/-- Making a map comes to an end in every world. -/
theorem Findings.result?_finish {σ : Type} (store : Store σ) (roleOverrides : Bool) (q : Inquiry)
    (f : Findings) (w : World σ) :
    ((f.finish roleOverrides q).run.run (World.handler store) w).1.result? =
      some (f.whole roleOverrides q) := by
  obtain ⟨now, found⟩ := f
  simp only [finish]
  generalize Findings.whole roleOverrides q ⟨now, found⟩ = outcome
  cases found <;> cases outcome <;> rfl

/-! ## What findings come from -/

section Sources

variable {xs ys : List Exchange} {q : Inquiry} {now : Time.Moment} {f : Findings}

/-- Findings are of a time, and come from the cache or from answers of the store. -/
structure Findings.AreFrom (f : Findings) (xs : List Exchange) (q : Inquiry) (now : Time.Moment) :
    Prop where
  now_eq : f.now = now
  cached : ∀ m, f.found = .inl m → ⟨.lookUp q.key, some m⟩ ∈ xs
  read : ∀ l, f.found = .inr l → IsReadIn xs q now l

theorem Findings.AreFrom.mono (h : f.AreFrom xs q now) (hsub : xs ⊆ ys) : f.AreFrom ys q now where
  now_eq := h.now_eq
  cached m hm := hsub (h.cached m hm)
  read l hl := (h.read l hl).mono hsub

theorem areFrom_of_reaches_search (h : Reaches (search q now) xs f) : f.AreFrom xs q now := by
  simp only [search] at h
  obtain ⟨found, x₁, rest, rfl, hfound, hrest⟩ := reaches_bind h
  obtain rfl := reaches_pose hfound
  cases found with
  | some m =>
      obtain ⟨-, x₂, rest, rfl, -, hlast⟩ := reaches_bind hrest
      obtain ⟨rfl, -⟩ := reaches_pure hlast
      refine ⟨rfl, fun m' hm' => ?_, nofun⟩
      cases hm'
      exact List.mem_cons_self
  | none =>
      obtain ⟨l, x₂, rest, rfl, hlooked, hlast⟩ := reaches_bind hrest
      obtain ⟨rfl, -⟩ := reaches_pure hlast
      refine ⟨rfl, nofun, fun l' hl' => ?_⟩
      cases hl'
      exact (isReadIn_of_reaches_lookUps (reaches_framed hlooked)).mono (by simp)

variable {σ : Type} {store : Store σ} {w w' : World σ}

/-- What a request finds out in a world, it finds out at the time of the world. -/
theorem areFrom_of_yields_findings (h : Yields (World.handler store) (findings q) w f w')
    (roleOverrides : Bool) :
    f.AreFrom ((q.process roleOverrides).exchanges (World.handler store) w) q w.now := by
  have hreaches := Process.leaves_run (World.handler store) (search q w.now).run w
  have hrun : (search q w.now).run.run (World.handler store) w = (.done (.ok f), w') := h
  rw [hrun] at hreaches
  apply (areFrom_of_reaches_search hreaches).mono
  intro x hx
  have hfindings : x ∈ (findings q).run.exchanges (World.handler store) w :=
    List.mem_cons_of_mem _ hx
  rw [Inquiry.process, gather_eq_findings]
  exact mem_exchanges_bind.mpr (.inl hfindings)

end Sources

end Gathering

/-! ## Both switches -/

namespace Service

open Gathering

variable {σ : Type}

/-- What a request comes to is made of what it finds out. -/
theorem gather_fst_eq (service : Service σ) (q : Inquiry) (w : World σ) :
    (service.gather q.subject q.action q.resource q.resourceType q.context w).1 =
      ((findings q).run.run (World.handler service.store) w).1.result?.map fun outcome =>
        outcome.bind (·.whole service.settings.doesRoleOverride q) := by
  simp only [gather, attempt, run]
  rw [gather_eq_findings, run_bind_eq, Process.run_bind]
  rcases (findings q).run.run (World.handler service.store) w with
    ⟨⟨fault | f⟩ | ⟨question, next⟩, w'⟩
  · rfl
  · exact f.result?_finish service.store _ q w'
  · rfl

/-- **What the switch decides.** Two services that have the same store, one where the role overrides the
subject and one where it does not, answer a request in the same world alike: neither answers, or both
fail in the same way, or both come to a map, and these have the same keys in the same order. If the maps
are not the very same one from the cache, they are made from the same answers of the store, and the
attributes differ at most under the names of a subject that its role has, and that the subject has too or
the role has again. -/
theorem gather_switch (store : Store σ) {settings settings' : Settings}
    (hon : settings.doesRoleOverride = true) (hoff : settings'.doesRoleOverride = false)
    (q : Inquiry) (w : World σ) :
    Option.Rel
      (EndAlike fun m m' =>
        Ordered.keys m.entries = Ordered.keys m'.entries ∧
          ((∃ stored, ⟨.lookUp q.key, some stored⟩ ∈
                (q.process true).exchanges (World.handler store) w) ∧ m = m' ∨
            ∃ l, IsReadIn ((q.process true).exchanges (World.handler store) w) q w.now l ∧
              l.IsSwitched m m' ∧
              ∀ key, m.get? key ≠ m'.get? key →
                ∃ n, key = attributeKey Category.subject.name n ∧ 1 ≤ timesNamed n l.role ∧
                  (1 ≤ timesNamed n l.subject ∨ 2 ≤ timesNamed n l.role)))
      ((Service.mk settings store).gather q.subject q.action q.resource q.resourceType q.context w).1
      ((Service.mk settings' store).gather q.subject q.action q.resource q.resourceType q.context
        w).1 := by
  rw [gather_fst_eq, gather_fst_eq, hon, hoff]
  rcases hrun : (findings q).run.run (World.handler store) w with
    ⟨⟨fault | f⟩ | ⟨question, next⟩, w'⟩
  · exact .some (.error fault)
  · have hsources := areFrom_of_yields_findings hrun true
    apply Option.Rel.some
    obtain ⟨now, m | l⟩ := f
    · have hcached := hsources.cached m rfl
      apply EndAlike.refl
      exact fun a => ⟨rfl, .inl ⟨⟨m, hcached⟩, rfl⟩⟩
    · obtain rfl := hsources.now_eq
      apply AttributeMap.endAlike_forRequest
      intro m m' hm hm'
      have hswitched := Lookups.isSwitched_forRequest hm hm'
      refine ⟨hswitched.keys_eq, .inr ⟨l, hsources.read l rfl, hswitched, ?_⟩⟩
      intro key hkey
      exact hswitched.exists_of_get?_ne hkey
  · exact .none

end Service

namespace Database

/-- A world where a role was given an attribute twice, that its only subject does not have. -/
def reassigned : World Database where
  store :=
    let appointed := (inMemory.createUser (some "Ann") (some "staff") none (some "ann")).2.2
    let assigned := (appointed.assignRole (some "staff") (some "clearance") (.int 1)).2.2
    (assigned.assignRole (some "staff") (some "clearance") (.int 2)).2.2
  now := ⟨⟨2024, 1, 15⟩, 9, 30, 0, 0, none⟩
  seconds := 0.0

/-- The map that the subject comes to, with the switch on or off. -/
def gathered? (roleOverrides : Bool) : Option AttributeMap :=
  ((Service.mk { roleOverrides := .bool roleOverrides } store).gather "ann" "read" none none []
    reassigned).1.bind Except.toOption

theorem exists_gathered? {roleOverrides : Bool} {value : String}
    (h : (gathered? roleOverrides).bind (·.value? "subject.clearance") = some value) :
    ∃ m, ((Service.mk { roleOverrides := .bool roleOverrides } store).gather "ann" "read" none none
      [] reassigned).1 = some (.ok m) ∧ m.value? "subject.clearance" = some value := by
  obtain ⟨m, hm, hvalue⟩ := Option.bind_eq_some_iff.mp h
  obtain ⟨outcome, houtcome, hok⟩ := Option.bind_eq_some_iff.mp hm
  cases outcome with
  | error fault => cases hok
  | ok m' =>
      cases hok
      exact ⟨m, houtcome, hvalue⟩

theorem reassigned_gather_switch :
    (Settings.doesRoleOverride { roleOverrides := .bool true } = true ∧
      Settings.doesRoleOverride { roleOverrides := .bool false } = false) ∧
    ∃ m m', gathered? true = some m ∧ gathered? false = some m' ∧
      Ordered.keys m.entries = Ordered.keys m'.entries ∧ m.value? "subject.clearance" = some "2" := by
  have hon : Settings.doesRoleOverride { roleOverrides := .bool true } = true := by decide
  have hoff : Settings.doesRoleOverride { roleOverrides := .bool false } = false := by decide
  have hvalues : (gathered? true).bind (·.value? "subject.clearance") = some "2" ∧
      (gathered? false).bind (·.value? "subject.clearance") = some "1" := by
    rw [gathered?, gathered?, reassigned, inMemory_eq]
    decide +kernel
  obtain ⟨m, hm, hvalue⟩ := exists_gathered? hvalues.1
  obtain ⟨m', hm', -⟩ := exists_gathered? hvalues.2
  have hswitch := Service.gather_switch store hon hoff annReads reassigned
  refine ⟨⟨hon, hoff⟩, m, m', ?_, ?_, ?_, hvalue⟩
  · rw [gathered?, hm]
    rfl
  · rw [gathered?, hm']
    rfl
  · simp only [annReads, hm, hm'] at hswitch
    cases hswitch with
    | some h =>
        cases h with
        | ok h => exact h.1

/-- The subject has no clearance of its own, and yet the switch decides which one it has by its role. -/
theorem reassigned_clearance :
    ((World.outcome (ask (.subjectAttributes "ann") reassigned.store).1).bind Except.toOption :
        Option (List Attribute)) = some [] ∧
      (gathered? true).bind (·.value? "subject.clearance") = some "2" ∧
      (gathered? false).bind (·.value? "subject.clearance") = some "1" := by
  rw [gathered?, gathered?, reassigned, inMemory_eq]
  decide +kernel

end Database

end Clearance
