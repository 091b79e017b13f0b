/-
# How attributes are gathered

The attributes of a request are looked up by calls to the store, unless their map is found in the
cache. A map is kept for later only after each of the calls was answered, and no record is handed in.
The first call that fails ends the gathering. What is kept and what is found are stored parts of maps,
and the time and the context of a request are written over them without any further question.
-/

import Clearance.Proofs.Attribute.Context
import Clearance.Proofs.Process.Attempt
import Clearance.Proofs.Service.World

namespace Clearance

open Attempt

/-- The calls that look up the attributes of a request. -/
def Gathering.calls (subject action : String) (resource : Option String) (now : Time.Moment) :
    List StoreCall :=
  [.subjectAttributes subject, .roleAttributes subject] ++
  (match given? resource with
    | none => []
    | some r => [.resourceAttributes r, .resourceOwner r]) ++
  [.actionAttributes action, .environmentAttributes now]

/-- An attempt that keeps no map has kept none. -/
theorem Attempt.Asks.not_keeping {α ω : Type} {p : Attempt α} {h : Handler ω} {w : ω}
    {x : Exchange} (hx : x ∈ p.run.exchanges h w) (hkeeps : x.question.isKeeping)
    (hp : Asks (fun q => !q.isKeeping) p) : False := by
  have hasks := hp.of_mem hx
  rw [hkeeps] at hasks
  cases hasks

theorem Attempt.Asks.of_isPassive {α : Type} {p : Attempt α} (hp : Asks Question.isPassive p) :
    Asks (fun q => !q.isKeeping) p ∧ Asks (fun q => !q.isHandingIn) p := by
  constructor
  · refine hp.mono fun q hq => ?_
    rw [Question.isPassive, Bool.and_eq_true] at hq
    exact hq.1
  · refine hp.mono fun q hq => ?_
    rw [Question.isPassive, Bool.and_eq_true] at hq
    exact hq.2

namespace Gathering

variable {subject action : String} {resource : Option String} {now : Time.Moment}

/-- Ask for all that is known of the resource, if there is one. -/
def resourceLookUps (resource : Option String) : Attempt (List Attribute × Option String) :=
  match given? resource with
  | none => pure ([], none)
  | some r => do
    let attributes ← Attempt.call (.resourceAttributes r)
    let owner ← Attempt.call (.resourceOwner r)
    return (attributes, owner)

theorem lookUps_eq : lookUps subject action resource now = (do
    let own ← Attempt.call (.subjectAttributes subject)
    let role ← Attempt.call (.roleAttributes subject)
    let found ← resourceLookUps resource
    let actionAttributes ← Attempt.call (.actionAttributes action)
    let environment ← Attempt.call (.environmentAttributes now)
    return ⟨own, role, found.1, found.2, actionAttributes, environment⟩) := by
  simp only [lookUps, resourceLookUps]
  cases given? resource with
  | none => rfl
  | some r => simp only [bind_assoc, pure_bind]

/-- What is true of the calls, and of sequences by their parts, is true of looking up. -/
theorem lookUps_of_parts {holds : ∀ {α : Type}, Attempt α → Prop} (hparts : IsCompositional holds)
    (hcall : ∀ call, call.isForPolicies = false → holds (Attempt.call call)) :
    holds (lookUps subject action resource now) := by
  have hresource : holds (resourceLookUps resource) := by
    simp only [resourceLookUps]
    cases given? resource with
    | none => exact hparts.pure _
    | some r =>
        exact hparts.bind (hcall _ rfl) fun _ => hparts.bind (hcall _ rfl) fun _ => hparts.pure _
  rw [lookUps_eq]
  exact hparts.bind (hcall _ rfl) fun _ => hparts.bind (hcall _ rfl) fun _ =>
    hparts.bind hresource fun _ => hparts.bind (hcall _ rfl) fun _ =>
    hparts.bind (hcall _ rfl) fun _ => hparts.pure _

/-- Looking up keeps nothing and hands nothing in. -/
theorem lookUps_asks : Asks Question.isPassive (lookUps subject action resource now) :=
  lookUps_of_parts (Asks.isCompositional Question.isPassive) fun _ _ => .call rfl

/-- Looking up ends with the first call that fails. -/
theorem lookUps_failsBy :
    FailsBy (Passes fun call => call.isForPolicies = false)
      (lookUps subject action resource now).run :=
  lookUps_of_parts (FailsBy.isCompositional (Passes _)) fun _ hcall => .call hcall

/-- Looking up comes to an end only when each of the calls was answered. -/
theorem lookUps_awaits {call : StoreCall} (hcall : call ∈ calls subject action resource now) :
    Awaits call (lookUps subject action resource now) := by
  simp only [calls] at hcall
  simp only [List.cons_append, List.nil_append, List.mem_cons, List.mem_append, List.not_mem_nil,
    or_false] at hcall
  rw [lookUps_eq]
  rcases hcall with rfl | rfl | hresource | rfl | rfl
  · exact .left .call
  · exact .right fun _ => .left .call
  · refine .right fun _ => .right fun _ => .left ?_
    simp only [resourceLookUps]
    cases hgiven : given? resource with
    | none =>
        rw [hgiven] at hresource
        cases hresource
    | some r =>
        rw [hgiven] at hresource
        simp only [List.mem_cons, List.not_mem_nil, or_false] at hresource
        rcases hresource with rfl | rfl
        · exact .left .call
        · exact .right fun _ => .left .call
  · exact .right fun _ => .right fun _ => .right fun _ => .left .call
  · exact .right fun _ => .right fun _ => .right fun _ => .right fun _ => .left .call

/-- A map is kept only if it was not there and all of it was looked up. -/
theorem stored_keeps {ω : Type} {h : Handler ω} {w : ω} {roleOverrides : Bool} {x : Exchange}
    (hx : x ∈ (stored roleOverrides subject action resource now).run.exchanges h w)
    (hkeeps : x.question.isKeeping) {call : StoreCall}
    (hcall : call ∈ calls subject action resource now) :
    ∃ answer, Exchange.answered call answer ∈
      (stored roleOverrides subject action resource now).run.exchanges h w := by
  simp only [stored] at hx ⊢
  rcases mem_exchanges_bind.mp hx with hx | ⟨found, w₁, hfound, hx⟩
  · exact (Asks.not_keeping hx hkeeps (.pose rfl)).elim
  · cases found with
    | some m => exact (Asks.not_keeping hx hkeeps (.bind (.pose rfl) fun _ => .pure m)).elim
    | none =>
        rcases mem_exchanges_bind.mp hx with hx | ⟨l, w₂, hlooked, hx⟩
        · exact (Asks.not_keeping hx hkeeps (lookUps_asks.of_isPassive.1.framed _)).elim
        · obtain ⟨answer, ha⟩ := (lookUps_awaits hcall).framed _ ω h w₁ w₂ l hlooked
          exact ⟨answer, mem_exchanges_bind.mpr
            (.inr ⟨none, w₁, hfound, mem_exchanges_bind.mpr (.inl ha)⟩)⟩

end Gathering

section Gather

variable {roleOverrides : Bool} {subject action : String} {resource resourceType : Option String}
  {context : List (String × Value)}

/-- What is true of looking up in its frame, and of sequences by their parts, is true of gathering. -/
theorem gather_of_parts {holds : ∀ {α : Type}, Attempt α → Prop} (hparts : IsCompositional holds)
    (hpose : ∀ q, (∀ call, q ≠ .ask call) → q.isHandingIn = false → q.isLogged = false →
      holds (Attempt.pose q))
    (hlooked : ∀ now, holds ((Gathering.lookUps subject action resource now).framed
      (Gathering.failure subject resource))) :
    holds (gather roleOverrides subject action resource resourceType context) := by
  have hstored : ∀ now, holds (Gathering.stored roleOverrides subject action resource now) := by
    intro now
    refine hparts.bind (hpose _ nofun rfl rfl) fun found => ?_
    cases found with
    | some m => exact hparts.bind (hpose _ nofun rfl rfl) fun _ => hparts.pure m
    | none =>
        exact hparts.bind (hlooked now) fun _ => hparts.bind (hpose _ nofun rfl rfl) fun _ =>
          hparts.pure _
  exact hparts.bind (hpose _ nofun rfl rfl) fun now => hparts.bind (hstored now) fun _ =>
    hparts.bind (hparts.ofExcept _) fun _ => hparts.bind (hpose _ nofun rfl rfl) fun _ =>
    hparts.pure _

/-- Gathering hands no record in. -/
theorem gather_asks :
    Asks (fun q => !q.isHandingIn)
      (gather roleOverrides subject action resource resourceType context) := by
  apply gather_of_parts (Asks.isCompositional fun q => !q.isHandingIn)
  · intro q _ hq _
    exact .pose (by rw [hq]; rfl)
  · intro now
    exact Gathering.lookUps_asks.of_isPassive.2.framed _

/-- The fault of a call for attributes is passed on as a failure to gather them. -/
theorem gather_failsBy :
    FailsBy (PassesIn fun call frame =>
        call.isForPolicies = false ∧ frame = Gathering.failure subject resource)
      (gather roleOverrides subject action resource resourceType context).run := by
  apply gather_of_parts (FailsBy.isCompositional (PassesIn _))
  · intro q hq _ _
    exact .pose hq
  · intro now
    exact Gathering.lookUps_failsBy.inFrame fun call hcall => ⟨hcall, rfl⟩

/-- A map is kept only after every attribute of the request was looked up. -/
theorem gather_keeps {ω : Type} {h : Handler ω} {w : ω} {x : Exchange}
    (hx : x ∈ (gather roleOverrides subject action resource resourceType context).run.exchanges h w)
    (hkeeps : x.question.isKeeping) :
    ∃ now, ∀ call ∈ Gathering.calls subject action resource now, ∃ answer,
      Exchange.answered call answer ∈
        (gather roleOverrides subject action resource resourceType context).run.exchanges h w := by
  simp only [gather] at hx ⊢
  rcases mem_exchanges_bind.mp hx with hx | ⟨now, w₁, htime, hx⟩
  · exact (Asks.not_keeping hx hkeeps (.pose rfl)).elim
  · refine ⟨now, fun call hcall => ?_⟩
    rcases mem_exchanges_bind.mp hx with hx | ⟨m, w₂, hstored, hx⟩
    · obtain ⟨answer, ha⟩ := Gathering.stored_keeps hx hkeeps hcall
      exact ⟨answer, mem_exchanges_bind.mpr
        (.inr ⟨now, w₁, htime, mem_exchanges_bind.mpr (.inl ha)⟩)⟩
    · exact (Asks.not_keeping hx hkeeps (.bind (.ofExcept _) fun _ =>
        .bind (.pose rfl) fun _ => .pure _)).elim

end Gather

/-! ## What is kept -/

/-- A question keeps a map of a kind, if it keeps one. -/
def Question.KeepsOnly (kind : AttributeMap → Prop) : Question → Prop
  | .remember _ m => kind m
  | _ => True

/-- A question finds a map of a kind, if it finds one. -/
def Question.FindsOnly (kind : AttributeMap → Prop) : (q : Question) → q.Answer → Prop
  | .lookUp _, found => ∀ m, found = some m → kind m
  | _, _ => True

/-- The stored parts of all maps are of a kind. -/
def CoversStored (kind : AttributeMap → Prop) : Prop :=
  ∀ (l : Lookups) (roleOverrides : Bool) (subject action : String),
    kind (l.toMap roleOverrides subject action)

theorem coversStored_isKeyed : CoversStored AttributeMap.IsKeyed := Lookups.isKeyed_toMap

section Kinds

variable {kind : AttributeMap → Prop}

/-- A process that keeps no map keeps none of another kind. -/
theorem Process.Obeys.keepsOnly {α : Type} {p : Process α} {asks : Question → Prop}
    {ends : α → Prop} (hp : p.Obeys asks (fun _ _ => True) ends) (kind : AttributeMap → Prop)
    (hasks : ∀ q, asks q → q.isKeeping = false) :
    p.Obeys (Question.KeepsOnly kind) (Question.FindsOnly kind) ends := by
  refine hp.mono (fun q hq => ?_) (fun _ _ _ => trivial) fun _ h => h
  have hkeeping := hasks q hq
  cases q with
  | remember key m => cases hkeeping
  | _ => trivial

theorem Attempt.Asks.keepsOnly {α : Type} {p : Attempt α} (hp : Asks (fun q => !q.isKeeping) p) :
    Obeys (Question.KeepsOnly kind) (Question.FindsOnly kind) (fun _ => True) p :=
  Process.Obeys.keepsOnly hp kind fun q hq => by simpa using hq

/-- If all stored parts are of a kind, then what is kept is, and what comes out is if what is found
is. -/
theorem Gathering.stored_obeys (hkind : CoversStored kind) (roleOverrides : Bool)
    (subject action : String) (resource : Option String) (now : Time.Moment) :
    Obeys (Question.KeepsOnly kind) (Question.FindsOnly kind) kind
      (stored roleOverrides subject action resource now) := by
  have hlooked : Obeys (Question.KeepsOnly kind) (Question.FindsOnly kind) (fun _ => True)
      (lookUps subject action resource now) :=
    lookUps_asks.of_isPassive.1.keepsOnly
  refine .poseBind trivial fun found hfound => ?_
  cases found with
  | some m => exact .poseBind trivial fun _ _ => .pure (hfound m rfl)
  | none =>
      refine .bind (hlooked.framed _) fun l _ => ?_
      have hstored := hkind l roleOverrides subject action
      exact .poseBind hstored fun _ _ => .pure hstored

/-- Gathering keeps only maps of the kind that stored parts are of, if it finds only such. -/
theorem gather_obeys (hkind : CoversStored kind) (roleOverrides : Bool) (subject action : String)
    (resource resourceType : Option String) (context : List (String × Value)) :
    Obeys (Question.KeepsOnly kind) (Question.FindsOnly kind) (fun _ => True)
      (gather roleOverrides subject action resource resourceType context) :=
  .poseBind trivial fun _ _ => .bind (Gathering.stored_obeys hkind ..) fun _ _ =>
    .bind (.ofExcept fun _ _ => trivial) fun _ _ => .poseBind trivial fun _ _ => .pure trivial

end Kinds

namespace World

variable {σ : Type} {store : Store σ} {w w' : World σ}

/-- The maps that are kept for later requests are of a kind. -/
def Remembers (w : World σ) (kind : AttributeMap → Prop) : Prop :=
  ∀ e ∈ w.remembered, kind e.2.value

/-- A world whose maps are of a kind finds such maps, and stays so when such maps are kept. -/
theorem honours_remembers (store : Store σ) (kind : AttributeMap → Prop) :
    Process.Honours (handler store) (Remembers · kind) (Question.KeepsOnly kind)
      (Question.FindsOnly kind) := by
  intro q w hw hq
  refine ⟨fun e he => ?_, fun answer hanswer => ?_⟩
  · cases hkeeping : q.isKeeping with
    | false => exact hw e (mem_remembered_of_handler store w hkeeping he)
    | true =>
        cases q with
        | remember key m =>
            rcases mem_remembered_of_remember store w he with he | ⟨-, hvalue⟩
            · exact hw e he
            · rw [hvalue]
              exact hq
        | _ => cases hkeeping
  · cases q with
    | lookUp key =>
        rintro m rfl
        obtain ⟨e, he, -, rfl⟩ := mem_remembered_of_lookUp store w hanswer
        exact hw e he
    | _ => trivial

end World

/-! ## The stored part and the request's own part -/

/-- The own part of a request is written over the stored part; the context comes last, and all its
values must have string forms. -/
theorem AttributeMap.forRequest_eq_ok {stored m : AttributeMap} {now : Time.Moment}
    {resourceType : Option String} {context : List (String × Value)} :
    stored.forRequest now resourceType context = .ok m ↔
      ∃ timestamp weekday, now.timestamp = .ok timestamp ∧ now.dayOfWeek = .ok weekday ∧
        Value.HaveStrings context ∧
        m = ((stored.addResourceType resourceType).addTime timestamp weekday).withContext
          context := by
  simp only [forRequest]
  rcases now.timestamp with fault | timestamp
  · simp [bind, Except.bind]
  · rcases now.dayOfWeek with fault | weekday
    · simp [bind, Except.bind]
    · simp [bind, Except.bind, addContext_eq_ok_iff]

/-- The own part of a request can be written at a time that has a universal time, if the values of the
context have string forms. -/
theorem AttributeMap.exists_forRequest {now : Time.Moment} (hnow : now.universal?.isSome)
    (m : AttributeMap) (resourceType : Option String) {context : List (String × Value)}
    (hcontext : Value.HaveStrings context) :
    ∃ whole, m.forRequest now resourceType context = .ok whole := by
  obtain ⟨u, hu⟩ := Option.isSome_iff_exists.mp hnow
  have htimestamp : ∃ timestamp, now.timestamp = .ok timestamp := by
    simp [Time.Moment.timestamp, Time.Moment.timestamp?, hu]
  have hweekday : ∃ weekday, now.dayOfWeek = .ok weekday := by
    simp [Time.Moment.dayOfWeek, Time.Moment.dayOfWeek?, hu]
  obtain ⟨timestamp, htimestamp⟩ := htimestamp
  obtain ⟨weekday, hweekday⟩ := hweekday
  exact ⟨_, forRequest_eq_ok.mpr ⟨timestamp, weekday, htimestamp, hweekday, hcontext, rfl⟩⟩

/-- With a context, the map of a request is the one without it and the context written over it. -/
theorem AttributeMap.forRequest_eq_bind (stored : AttributeMap) (now : Time.Moment)
    (resourceType : Option String) (context : List (String × Value)) :
    stored.forRequest now resourceType context =
      stored.forRequest now resourceType [] >>= (·.addContext context) := by
  simp only [forRequest]
  rcases now.timestamp with fault | timestamp
  · rfl
  · rcases now.dayOfWeek with fault | weekday <;> rfl

theorem AttributeMap.IsKeyed.forRequest {stored m : AttributeMap} {now : Time.Moment}
    {resourceType : Option String} {context : List (String × Value)} (hm : stored.IsKeyed)
    (h : stored.forRequest now resourceType context = .ok m) : m.IsKeyed := by
  obtain ⟨timestamp, weekday, _, _, _, rfl⟩ := forRequest_eq_ok.mp h
  exact ((hm.addResourceType resourceType).addTime timestamp weekday).withContext context

section Stages

variable {σ : Type} {store : Store σ} {w w' : World σ} {roleOverrides : Bool}
  {subject action : String} {resource resourceType : Option String}
  {context : List (String × Value)} {m : AttributeMap}

/-- Gathering has two stages: the stored part is found or looked up, and the request's own part is
written over it. Only the second stage sees the context. -/
theorem gather_yields :
    (∃ w', Yields (World.handler store)
        (gather roleOverrides subject action resource resourceType context) w m w') ↔
      ∃ stored w₁, Yields (World.handler store)
          (Gathering.stored roleOverrides subject action resource w.now) w stored w₁ ∧
        stored.forRequest w.now resourceType context = .ok m := by
  simp only [gather]
  constructor
  · rintro ⟨w', hyields⟩
    obtain ⟨now, w₀, htime, hyields⟩ := yields_bind.mp hyields
    obtain ⟨rfl, rfl⟩ : w.now = now ∧ w = w₀ := by
      have hhandler := yields_pose.mp htime
      cases hhandler
      exact ⟨rfl, rfl⟩
    obtain ⟨stored, w₁, hstored, hyields⟩ := yields_bind.mp hyields
    obtain ⟨whole, w₂, hwhole, hyields⟩ := yields_bind.mp hyields
    obtain ⟨_, w₃, _, hpure⟩ := yields_bind.mp hyields
    obtain ⟨rfl, _⟩ := yields_pure.mp hpure
    exact ⟨stored, w₁, hstored, (yields_ofExcept.mp hwhole).1⟩
  · rintro ⟨stored, w₁, hstored, hwhole⟩
    exact ⟨_, (Yields.pose rfl).bind <| hstored.bind <| (Yields.ofExcept hwhole _).bind <|
      (Yields.pose rfl).bind <| .pure m _⟩

/-- The stored part of a map is of the kind that the world remembers. -/
theorem stored_of_gather_yields {kind : AttributeMap → Prop} (hw : w.Remembers kind)
    (hkind : CoversStored kind)
    (h : Yields (World.handler store)
      (gather roleOverrides subject action resource resourceType context) w m w') :
    ∃ stored, kind stored ∧ stored.forRequest w.now resourceType context = .ok m := by
  obtain ⟨stored, w₁, hstored, hwhole⟩ := gather_yields.mp ⟨w', h⟩
  have hobeys := Gathering.stored_obeys hkind roleOverrides subject action resource w.now
  have hrun := (Process.Obeys.run hobeys (World.honours_remembers store kind) hw).2 _
    (congrArg Prod.fst hstored)
  exact ⟨stored, hrun stored rfl, hwhole⟩

/-- In a world with keyed maps, the map of a request is keyed. -/
theorem isKeyed_of_gather_yields (hw : w.Remembers AttributeMap.IsKeyed)
    (h : Yields (World.handler store)
      (gather roleOverrides subject action resource resourceType context) w m w') : m.IsKeyed := by
  obtain ⟨stored, hstored, hwhole⟩ := stored_of_gather_yields hw coversStored_isKeyed h
  exact hstored.forRequest hwhole

end Stages

end Clearance
