/-
# The worlds that a service gets into

A service begins with an empty cache. From then on the cache changes only by what the service does; the
store, the clocks and the audit may change on their own. So whatever requests are answered, called off
or worked through in batches, the maps that are kept for later are of every kind that all stored parts
are of; they are keyed, for one.
-/

import Clearance.Proofs.Attribute.Gathering
import Clearance.Proofs.Authorization.Answering
import Clearance.Proofs.Authorization.Batching
import Clearance.Proofs.Policy.Loading

namespace Clearance

open Attempt

/-! ## The contract of a request -/

namespace Authorization

variable {kind : AttributeMap → Prop}

theorem keepsOnly_of_endsIn {α : Type} {p : Process α} {a : α}
    (hp : p.EndsIn (fun q => q.isReport) a) (kind : AttributeMap → Prop) :
    p.Obeys (Question.KeepsOnly kind) (Question.FindsOnly kind) fun _ => True := by
  have hkept := hp.keepsOnly kind fun q hq =>
    Question.isKeeping_of_isTelling (Question.isTelling_of_isReport q hq)
  exact hkept.ending fun _ _ => trivial

theorem evaluate_obeys (hkind : CoversStored kind) (s : Settings) (r : Request) :
    Obeys (Question.KeepsOnly kind) (Question.FindsOnly kind) (fun _ => True) (evaluate s r) := by
  rcases r.names_or_isBlank with ⟨subject, action, hr⟩ | hblank
  · rw [evaluate_of_names hr]
    refine .bind (gather_obeys hkind ..) fun m _ => .bind (load_asks _).of_isPassive.1.keepsOnly
      fun ps _ => ?_
    have hjudge := (judgeOn_endsIn s r subject action m ps).keepsOnly kind fun _ =>
      Question.isKeeping_of_isTelling
    exact hjudge.ending fun _ _ _ _ => trivial
  · simp only [Obeys]
    rw [evaluate_of_isBlank s hblank]
    exact .done fun _ _ => trivial

/-- Answering a request keeps only maps of the kind that stored parts are of, if it finds only such. -/
theorem authorize_obeys (hkind : CoversStored kind) (s : Settings) (r : Request)
    (limit : Option Number) :
    (authorize s r limit).Obeys (Question.KeepsOnly kind) (Question.FindsOnly kind)
      fun _ => True := by
  have hconclude := fun outcome => keepsOnly_of_endsIn (conclude_endsIn r outcome) kind
  have hgiveUp : ∀ limit, (giveUp r limit).Obeys (Question.KeepsOnly kind) (Question.FindsOnly kind)
      fun _ => True := fun _ => .wait trivial fun _ _ => .done trivial
  have hevaluate : (evaluate s r).run.Obeys (Question.KeepsOnly kind) (Question.FindsOnly kind)
      fun _ => True := Process.Obeys.ending (evaluate_obeys hkind s r) fun _ _ => trivial
  have hdecide : (decide s r (limitOf s limit)).Obeys (Question.KeepsOnly kind)
      (Question.FindsOnly kind) fun _ => True := by
    simp only [decide]
    cases limitOf s limit with
    | none => exact hevaluate.bind fun outcome _ => hconclude outcome
    | some limit =>
        dsimp only
        split
        · exact hgiveUp limit
        · cases Span.of limit with
          | error fault => exact hconclude (.error fault)
          | ok span =>
              refine (hevaluate.within span (fun _ h => h) fun _ _ _ => trivial).bind
                fun outcome _ => ?_
              cases outcome with
              | some outcome => exact hconclude outcome
              | none => exact hgiveUp limit
  exact hdecide.bind fun result _ =>
    (keepsOnly_of_endsIn (announce_endsIn r result) kind).bind fun _ _ => .done trivial

end Authorization

/-! ## Lives -/

/-- A service lives in a world: it began in one with an empty cache and did what it was asked for, while
everything outside of the cache changed as it would. -/
inductive Service.Lives {σ : Type} (service : Service σ) : World σ → Prop
  | begin (htimed : service.settings.isTimed = true) (state : σ) (now : Time.Moment)
      (seconds : Float) (hasAudit : Bool) :
      Lives service (begin service.settings htimed state now seconds hasAudit)
  | elsewhere {w w' : World σ} (hw : Lives service w) (hcache : w'.cache = w.cache) :
      Lives service w'
  | gather {w : World σ} (hw : Lives service w) (subject action : String)
      (resource resourceType : Option String) (context : List (String × Value)) :
      Lives service (service.gather subject action resource resourceType context w).2
  | load {w : World σ} (hw : Lives service w) : Lives service (service.load w).2
  | authorize {w : World σ} (hw : Lives service w) (r : Request) (limit : Option Number) :
      Lives service (service.authorize r limit w).2
  | callOff {w : World σ} (hw : Lives service w) (r : Request) (limit : Option Number) :
      Lives service (service.callOff r limit w).2
  | authorizeMany {w : World σ} (hw : Lives service w) (subject action : Option String)
      (resources : List String) (context : List (String × Value)) (limit : Option Number) :
      Lives service (service.authorizeMany subject action resources context limit w).2
  | callOffMany {w : World σ} (hw : Lives service w) (subject action : Option String)
      (resources : List String) (context : List (String × Value)) (limit : Option Number) :
      Lives service (service.callOffMany subject action resources context limit w).2
  | invalidate {w : World σ} (hw : Lives service w) (subject resource : Option String) :
      Lives service (invalidate subject resource w).2

namespace World.Remembers

variable {σ : Type} {service : Service σ} {w : World σ} {kind : AttributeMap → Prop}

theorem of_cache_eq {w' : World σ} (hw : w.Remembers kind) (h : w'.cache = w.cache) :
    w'.Remembers kind := by
  simp only [Remembers, remembered] at hw ⊢
  rw [h]
  exact hw

theorem serve (hw : w.Remembers kind) (store : Store σ) : (w.serve store).Remembers kind :=
  hw.of_cache_eq (w.serve_cache store)

theorem drop (hw : w.Remembers kind) (store : Store σ) (q : Question) :
    (w.drop store q).Remembers kind := by
  refine hw.of_cache_eq ?_
  cases q <;> rfl

theorem run {α : Type} {p : Process α} (hw : w.Remembers kind)
    (hp : p.Obeys (Question.KeepsOnly kind) (Question.FindsOnly kind) fun _ => True) :
    (service.run p w).2.Remembers kind := by
  have hrun := (hp.run (honours_remembers service.store kind) hw).1
  simp only [Service.run]
  rcases hresult : p.run (handler service.store) w with ⟨a | ⟨q, next⟩, w'⟩
  · rw [hresult] at hrun
    exact hrun
  · rw [hresult] at hrun
    exact hrun.drop service.store q

theorem attempt {α : Type} {p : Attempt α} (hw : w.Remembers kind)
    (hp : Obeys (Question.KeepsOnly kind) (Question.FindsOnly kind) (fun _ => True) p) :
    (service.attempt p w).2.Remembers kind :=
  hw.run (Process.Obeys.ending hp fun _ _ => trivial)

theorem invalidate (hw : w.Remembers kind) (subject resource : Option String) :
    (Service.invalidate subject resource w).2.Remembers kind := by
  intro e he
  apply hw e
  simp only [remembered] at he ⊢
  simp only [Service.invalidate] at he
  cases hcache : w.cache with
  | none =>
      rw [hcache] at he
      simp [hcache] at he
  | some cache =>
      rw [hcache] at he
      exact (List.mem_filter.mp he).1

theorem batch {pace : Pace (World σ)} (hw : w.Remembers kind) (hkind : CoversStored kind)
    (hpace : pace.Keeps (Remembers · kind)) (s : Settings) (width : Nat)
    (subject action : Option String) (resources : List String) (context : List (String × Value)) :
    (authorizeMany (handler service.store) pace s width subject action resources context
      w).2.Remembers kind := by
  refine authorizeMany_holds (honours_remembers service.store kind) hpace s
    (Authorization.authorize_obeys hkind s) (fun r result => ?_) width subject action resources context hw
  exact Authorization.keepsOnly_of_endsIn (Authorization.announce_endsIn r result) kind

theorem begin (service : Service σ) (htimed : service.settings.isTimed = true) (state : σ)
    (now : Time.Moment) (seconds : Float) (hasAudit : Bool) :
    (Service.begin service.settings htimed state now seconds hasAudit).Remembers kind := by
  intro e he
  rw [remembered, Service.begin] at he
  dsimp only at he
  split at he <;> cases he

theorem authorize (hw : w.Remembers kind) (hkind : CoversStored kind) (r : Request)
    (limit : Option Number) :
    (service.authorize r limit w).2.Remembers kind := by
  have hanswered : ∀ w : World σ, w.Remembers kind →
      (service.run (Clearance.authorize service.settings r limit) w).2.Remembers kind :=
    fun _ hw => hw.run (Authorization.authorize_obeys hkind ..)
  rw [Service.authorize]
  dsimp only
  split
  · exact (hanswered _ (hw.serve service.store)).serve service.store
  · exact hanswered _ hw

theorem callOff (hw : w.Remembers kind) (hkind : CoversStored kind) (r : Request)
    (limit : Option Number) :
    (service.callOff r limit w).2.Remembers kind := by
  have hhasty : Remembers { w.serve service.store with isHasty := true } kind :=
    (hw.serve service.store).of_cache_eq rfl
  have hanswered : (service.run (Clearance.authorize service.settings r limit)
      { w.serve service.store with isHasty := true }).2.Remembers kind :=
    hhasty.run (Authorization.authorize_obeys hkind ..)
  exact (hanswered.serve service.store).of_cache_eq rfl

theorem pace (service : Service σ) (hasDeadline : Bool) :
    (service.pace hasDeadline).Keeps (Remembers · kind) where
  runOut := fun _ hw => hw.of_cache_eq rfl
  meanwhile := fun _ hw => (hw.serve service.store).of_cache_eq rfl
  pause := fun _ hw => hw.of_cache_eq rfl
  drop := fun q _ hw => hw.drop service.store q

theorem authorizeMany (hw : w.Remembers kind) (hkind : CoversStored kind)
    (subject action : Option String) (resources : List String) (context : List (String × Value))
    (limit : Option Number) :
    (service.authorizeMany subject action resources context limit w).2.Remembers kind := by
  have htimed : ∀ time : Option Span,
      Remembers { w with remaining := time.map Span.toFloat, waited := 0.0 } kind :=
    fun _ => hw.of_cache_eq rfl
  simp only [Service.authorizeMany]
  split
  · exact hw
  · exact ((htimed _).batch hkind (pace service _) service.settings _ subject action _
      context).of_cache_eq rfl

theorem callOffMany (hw : w.Remembers kind) (hkind : CoversStored kind)
    (subject action : Option String) (resources : List String) (context : List (String × Value))
    (limit : Option Number) :
    (service.callOffMany subject action resources context limit w).2.Remembers kind := by
  have hhasty : Remembers { w with isHasty := true } kind := hw.of_cache_eq rfl
  have hpace : ∀ isOver,
      Pace.Keeps { service.pace false with isOver := isOver } (Remembers · kind) := fun _ =>
    have hkept := pace service false
    ⟨hkept.runOut, hkept.meanwhile, hkept.pause, hkept.drop⟩
  simp only [Service.callOffMany]
  split
  · exact hw
  · exact (hhasty.batch hkind (hpace _) service.settings _
      subject action _ context).of_cache_eq rfl

end World.Remembers

/-- Wherever a service lives, the maps that are kept are of every kind that all stored parts are of. -/
theorem Service.Lives.remembers {σ : Type} {service : Service σ} {w : World σ}
    {kind : AttributeMap → Prop} (hw : service.Lives w) (hkind : CoversStored kind) :
    w.Remembers kind := by
  induction hw with
  | begin htimed state now seconds hasAudit => exact .begin service htimed state now seconds hasAudit
  | elsewhere _ hcache ih => exact ih.of_cache_eq hcache
  | gather _ subject action resource resourceType context ih =>
      exact ih.attempt (gather_obeys hkind ..)
  | load _ ih => exact ih.attempt (load_asks _).of_isPassive.1.keepsOnly
  | authorize _ r limit ih => exact ih.authorize hkind r limit
  | callOff _ r limit ih => exact ih.callOff hkind r limit
  | authorizeMany _ subject action resources context limit ih =>
      exact ih.authorizeMany hkind subject action resources context limit
  | callOffMany _ subject action resources context limit ih =>
      exact ih.callOffMany hkind subject action resources context limit
  | invalidate _ subject resource ih => exact ih.invalidate subject resource

/-- Wherever a service lives, the maps that are kept are keyed. -/
theorem Service.Lives.isKeyed {σ : Type} {service : Service σ} {w : World σ}
    (hw : service.Lives w) : w.Remembers AttributeMap.IsKeyed := hw.remembers coversStored_isKeyed

end Clearance
