/-
# Atomicity of administration

A call that changes a database and fails leaves nothing behind, however far its script had come: each
table is as it was, and the next call fares as it would have without the failed one. What is left of a
failed call are only identifiers that were drawn for nothing.
-/

import Clearance.Proofs.Database.Likeness
import Clearance.Proofs.Database.Meaning
import Clearance.Proofs.Store.Steady

namespace Clearance

open Script

/-! ## Scripts from the same tables -/

namespace Script

variable {α : Type} {low : Nat} {script : Script α} {t : Tables}

/-- From the same tables, a script comes to the same however many identifiers were drawn before. -/
def ComesToSame (low : Nat) (script : Script α) (t : Tables) : Prop :=
  ∀ drawn drawn', low ≤ drawn → low ≤ drawn' →
    EndAlike low (fun _ _ => True) (execute script { tables := t, drawn := drawn })
      (execute script { tables := t, drawn := drawn' })

theorem Alike.comesToSame (h : Alike low (fun _ _ => True) script script) (t : Tables) :
    script.ComesToSame low t :=
  fun _ _ hlow hlow' => h _ _ ⟨.refl t, rfl, rfl, hlow, hlow'⟩

/-- A script that comes to the same is also committed alike, or rolled back alike. -/
theorem ComesToSame.run (h : script.ComesToSame low t) {drawn drawn' : Nat} (hlow : low ≤ drawn)
    (hlow' : low ≤ drawn') :
    (script.run t drawn).1.map (fun _ => ()) = (script.run t drawn').1.map fun _ => () := by
  have hwhole : EndAlike low (fun _ _ => True)
      (execute (do let a ← script; flush; return a) { tables := t, drawn := drawn })
      (execute (do let a ← script; flush; return a) { tables := t, drawn := drawn' }) := by
    have hend := h drawn drawn' hlow hlow'
    rw [execute_bind, execute_bind]
    generalize execute script { tables := t, drawn := drawn } = result at hend ⊢
    generalize execute script { tables := t, drawn := drawn' } = result' at hend ⊢
    cases hend with
    | ok _ hs =>
        exact Alike.bind alike_flush (fun _ _ _ => .pure trivial) _ _ hs
    | error abort h h' => exact .error abort h h'
  rw [run_eq, run_eq]
  generalize execute (do let a ← script; flush; return a) { tables := t, drawn := drawn } = result
    at hwhole ⊢
  generalize execute (do let a ← script; flush; return a) { tables := t, drawn := drawn' } = result'
    at hwhole ⊢
  cases hwhole with
  | ok _ _ => rfl
  | error _ _ _ => rfl

end Script

namespace Database

variable {α β : Type} {db : Database}

/-- Two changes fare alike: both succeed, or both fail with the same fault, and the same is said. -/
def FareAlike (c : Change α) (c' : Change β) : Prop :=
  c.1.map (fun _ => ()) = c'.1.map (fun _ => ()) ∧ c.2.1 = c'.2.1

theorem FareAlike.answering {c c' : Change α} (h : FareAlike c c') (answer : α → Option String) :
    FareAlike (c.answering answer) (c'.answering answer) := by
  refine ⟨?_, h.2⟩
  have hmap : ∀ c : Change α, (c.answering answer).1.map (fun _ => ()) = c.1.map fun _ => () := by
    rintro ⟨outcome, rest⟩
    cases outcome <;> rfl
  rw [hmap c, hmap c', h.1]

theorem exists_ok_of_answering {c : Change α} {answer : α → Option String} {o : Option String}
    (h : (c.answering answer).1 = .ok o) : ∃ a, c.1 = .ok a := by
  obtain ⟨outcome, rest⟩ := c
  cases outcome with
  | error fault => cases h
  | ok a => exact ⟨a, rfl⟩

theorem eq_error_of_answering {c : Change α} {answer : α → Option String} {fault : Fault}
    (h : (c.answering answer).1 = .error fault) : c.1 = .error fault := by
  obtain ⟨outcome, rest⟩ := c
  cases outcome with
  | error fault' =>
      cases h
      rfl
  | ok a => cases h

/-- An aborted script leaves only identifiers that were drawn. -/
theorem transact_of_error {operation missing : String} {frame : String → Failure}
    {script : Script α} (hkeeps : ∀ low, Keeps (fun s => low ≤ s.drawn) script) {fault : Fault}
    (h : (db.transact operation frame missing script).1 = .error fault) :
    ∃ drawn, db.drawn ≤ drawn ∧
      (db.transact operation frame missing script).2.2 = { db with drawn := drawn } := by
  cases ht : db.tables? with
  | none =>
      rw [(transact_of_tables?_eq_none ht operation frame missing script).2]
      exact ⟨db.drawn, Nat.le_refl _, rfl⟩
  | some t =>
      obtain ⟨houtcome, hafter⟩ := transact_of_tables? ht operation frame missing script
      have hwhole : Keeps (fun s => db.drawn ≤ s.drawn) (do let a ← script; flush; return a) :=
        .bind (hkeeps db.drawn) fun a => .bind alike_flush.keeps_drawn fun _ => .pure a
      have hlast := hwhole { tables := t, drawn := db.drawn } (Nat.le_refl _)
      rw [hafter]
      rw [run_eq] at houtcome ⊢
      generalize execute (do let a ← script; flush; return a) { tables := t, drawn := db.drawn } =
        result at hlast houtcome ⊢
      rcases result with ⟨abort | a, s⟩
      · refine ⟨s.drawn, hlast, ?_⟩
        rw [← engine_of_tables? ht]
      · rw [(houtcome a).mpr rfl] at h
        cases h

/-- From the same tables, scripts that come to the same fare alike. -/
theorem transact_fareAlike {operation missing : String} {frame : String → Failure}
    {script : Script α} (hscript : ∀ t, db.tables? = some t → script.ComesToSame db.drawn t)
    {drawn : Nat} (hdrawn : db.drawn ≤ drawn) :
    FareAlike (({ db with drawn := drawn } : Database).transact operation frame missing script)
      (db.transact operation frame missing script) := by
  have hsame : ({ db with drawn := drawn } : Database).tables? = db.tables? := rfl
  cases ht : db.tables? with
  | none =>
      simp only [transact, hsame, ht]
      exact ⟨rfl, rfl⟩
  | some t =>
      have hrun := (hscript t ht).run hdrawn (Nat.le_refl _)
      simp only [transact, hsame, ht]
      generalize script.run t drawn = result at hrun ⊢
      generalize script.run t db.drawn = result' at hrun ⊢
      rcases result with ⟨abort | a, t₁, drawn₁⟩
      · rcases result' with ⟨abort' | a', t₂, drawn₂⟩
        · obtain rfl : abort = abort' := Except.error.inj hrun
          cases abort <;> exact ⟨rfl, rfl⟩
        · cases hrun
      · rcases result' with ⟨abort' | a', t₂, drawn₂⟩
        · cases hrun
        · exact ⟨rfl, rfl⟩

end Database

/-! ## Calls -/

/-- No user has an identifier that is still to be drawn. -/
def Database.HasSpentUsers (db : Database) : Prop :=
  ∀ t, db.tables? = some t → ∀ u ∈ t.users, Drawn.IsSpent db.drawn u.id

/-- Whether the identifier of a user is drawn in a call. -/
def Administration.drawsUser : Administration → Bool
  | .createUser _ _ _ none => true
  | _ => false

namespace Administration

open Database

/-- A call is a transaction of a script that does not depend on the database. -/
structure IsTransaction (a : Administration) {α : Type} (script : Script α) : Prop where
  perform_eq : ∃ operation frame missing answer, ∀ db : Database,
    a.perform db = Change.answering answer (db.transact operation frame missing script)
  keeps_drawn : ∀ low, Keeps (fun s => low ≤ s.drawn) script
  comesToSame : ∀ low t, (a.drawsUser → ∀ u ∈ t.users, Drawn.IsSpent low u.id) →
    script.ComesToSame low t

/-- What a call does, it does in a transaction. -/
def IsTransactional (a : Administration) : Prop :=
  ∃ (α : Type) (script : Script α), a.IsTransaction script

theorem IsTransactional.of_alike {a : Administration} {α : Type} {script : Script α}
    (hperform : ∃ operation frame missing answer, ∀ db : Database,
      a.perform db = Change.answering answer (db.transact operation frame missing script))
    (halike : ∀ low, Alike low (fun _ _ => True) script script) : a.IsTransactional :=
  ⟨α, script, hperform, fun low => (halike low).keeps_drawn,
    fun low t _ => (halike low).comesToSame t⟩

/-! ### Users -/

/-- What is done about a user once there is an identifier. -/
def insertUser (name role email : Option String) (id : String) : Script String := do
  let name ← notNull "users.name" name
  unique "users.id" ((← tables).users.any (·.id == id))
  change fun t => { t with users := t.users ++ [⟨id, name, email, role⟩] }
  return id

/-- Users with two identifiers come to the same if none of them is taken, or both are. -/
theorem insertUser_endAlike (name role email : Option String) {low : Nat} {id id' : String}
    {s s' : Session} (hs : s.Alike low s')
    (htaken : s.tables.users.any (·.id == id) = s'.tables.users.any (·.id == id')) :
    EndAlike low (fun _ _ => True) (execute (insertUser name role email id) s)
      (execute (insertUser name role email id') s') := by
  cases name with
  | none => exact .error _ hs.low_le hs.low_le'
  | some name =>
      have hrest : Alike low (fun _ _ => True)
          (do
            unique "users.id" (s.tables.users.any (·.id == id))
            change fun t => { t with users := t.users ++ [⟨id, name, email, role⟩] }
            return id)
          (do
            unique "users.id" (s'.tables.users.any (·.id == id'))
            change fun t => { t with users := t.users ++ [⟨id', name, email, role⟩] }
            return id') :=
        .bind (.unique _ htaken) fun _ _ _ => .bind (.change fun _ _ ht => { ht with })
          fun _ _ _ => .pure trivial
      exact hrest s s' hs

theorem createUser_isTransactional (name role email id : Option String) :
    (createUser name role email id).IsTransactional := by
  have hinsert : ∀ low id, Keeps (fun s => low ≤ s.drawn) (insertUser name role email id) :=
    fun low id => .bind (.notNull _ _) fun name => .bind .tables fun t => .bind (.unique _ _) fun _ =>
      .bind (.change fun _ hs => hs) fun _ => .pure id
  cases id with
  | some id =>
      refine ⟨_, pure id >>= insertUser name role email, ⟨_, _, _, _, fun db => rfl⟩, fun low =>
        .bind (.pure id) (hinsert low), fun low t _ drawn drawn' hlow hlow' => ?_⟩
      exact insertUser_endAlike name role email ⟨.refl t, rfl, rfl, hlow, hlow'⟩ rfl
  | none =>
      refine ⟨_, draw >>= insertUser name role email, ⟨_, _, _, _, fun db => rfl⟩, fun low =>
        .bind (fun s hs => Nat.le_succ_of_le hs) (hinsert low),
        fun low t hspent drawn drawn' hlow hlow' => ?_⟩
      have hfree : ∀ n, low ≤ n → t.users.any (·.id == Drawn.identifier n) = false := by
        intro n hn
        rw [List.any_eq_false]
        intro u hu htaken
        exact hspent rfl u hu n hn (eq_of_beq htaken)
      exact insertUser_endAlike name role email
        ⟨.refl t, rfl, rfl, Nat.le_succ_of_le hlow, Nat.le_succ_of_le hlow'⟩
        ((hfree drawn hlow).trans (hfree drawn' hlow').symm)

/-! ### Definitions, roles, resources and actions -/

/-- An attribute of no category is refused before the database is asked for. -/
theorem createAttribute_cases (name : Option String) (category type : String)
    (description validValues : Option String) :
    (∃ fault, ∀ db,
      (createAttribute name category type description validValues).perform db =
        (.error fault, [], db)) ∨
      (createAttribute name category type description validValues).IsTransactional := by
  cases hcategory : Category.ofName category with
  | error fault =>
      refine .inl ⟨fault, fun db => ?_⟩
      simp only [perform, Database.createAttribute, hcategory]
      rfl
  | ok category' =>
      have hperform : ∀ db,
          (createAttribute name category type description validValues).perform db =
            Change.answering some (db.changeAttributes "create_attribute" none none "attributes"
              (define name category' type description validValues)) := by
        intro db
        simp only [perform, Database.createAttribute, hcategory]
      exact .inr <| .of_alike ⟨_, _, _, _, hperform⟩ fun low =>
        alike_define name category' type description validValues

theorem createRole_isTransactional (name description : Option String) :
    (createRole name description).IsTransactional := by
  refine .of_alike ⟨_, _, _, _, fun _ => rfl⟩ fun low => ?_
  refine .bind .draw fun id id' _ => .bind (.notNull _ name) ?_
  rintro name _ rfl
  refine .bind .tables fun t t' ht => .bind (.unique _ (any_eq_of_map_eq ht.roles (· == name)))
    fun _ _ _ => .bind (.change fun t t' ht => ?_) fun _ _ _ => .pure trivial
  exact { ht with roles := by simp [ht.roles] }

theorem createResource_isTransactional (resource name type owner : Option String) :
    (createResource resource name type owner).IsTransactional := by
  refine .of_alike ⟨_, _, _, _, fun _ => rfl⟩ fun low => ?_
  refine .bind (.optionMapM alike_resourceType _) fun _ _ _ => .bind .draw fun _ _ _ =>
    .bind (.notNull _ resource) ?_
  rintro resource _ rfl
  refine .bind (.notNull _ _) ?_
  rintro name _ rfl
  refine .bind .tables fun t t' ht => .bind (.unique _ (ht.resource?_isSome resource))
    fun _ _ _ => .bind (.change fun t t' ht => ?_) fun _ _ _ => .pure trivial
  exact { ht with resources := by simp [ht.resources] }

theorem createAction_isTransactional (name description : Option String) :
    (createAction name description).IsTransactional :=
  .of_alike ⟨_, _, _, _, fun _ => rfl⟩ fun _ => alike_insertAction name description

/-! ### Assignments -/

theorem assignUser_isTransactional (user name : Option String) (value : Value) :
    (assignUser user name value).IsTransactional := by
  refine .of_alike ⟨_, _, _, _, fun _ => rfl⟩ fun low => ?_
  exact .bind (alike_definition _ _) fun _ _ _ => .bind (.spelled _) fun _ _ _ =>
    .bind (.notNull _ _) fun _ _ _ => .change fun _ _ ht => { ht with }

theorem assignRole_isTransactional (role name : Option String) (value : Value) :
    (assignRole role name value).IsTransactional := by
  refine .of_alike ⟨_, _, _, _, fun _ => rfl⟩ fun low => ?_
  exact .bind (alike_definition _ _) fun _ _ _ => .bind (.spelled _) fun _ _ _ =>
    .bind (.notNull _ _) fun _ _ _ => .change fun _ _ ht => { ht with }

theorem assignResource_isTransactional (resource name : Option String) (value : Value) :
    (assignResource resource name value).IsTransactional := by
  refine .of_alike ⟨_, _, _, _, fun _ => rfl⟩ fun low => ?_
  refine .bind .tables fun t t' ht => ?_
  have hfound := rel_of_isSome_eq (ht.isSome_bind_resource? resource)
  generalize resource.bind t.resource? = found at hfound ⊢
  generalize resource.bind t'.resource? = found' at hfound ⊢
  cases hfound with
  | none => exact .throw _
  | some _ =>
      exact .bind (alike_definition _ _) fun _ _ _ => .bind (.spelled _) fun _ _ _ =>
        .change fun _ _ ht => { ht with }

theorem assignAction_isTransactional (action name : Option String) (value : Value) :
    (assignAction action name value).IsTransactional := by
  refine .of_alike ⟨_, _, _, _, fun _ => rfl⟩ fun low => ?_
  refine .bind .tables fun t t' ht => ?_
  have hfound := rel_of_isSome_eq (ht.isSome_bind_action? action)
  generalize action.bind t.action? = found at hfound ⊢
  generalize action.bind t'.action? = found' at hfound ⊢
  cases hfound with
  | none =>
      exact .bind (alike_insertAction _ _) fun _ _ _ => .bind (alike_definition _ _) fun _ _ _ =>
        .bind (.spelled _) fun _ _ _ => .change fun _ _ ht => { ht with }
  | some _ =>
      exact .bind (R := fun _ _ => True) (.pure trivial) fun _ _ _ =>
        .bind (alike_definition _ _) fun _ _ _ => .bind (.spelled _) fun _ _ _ =>
          .change fun _ _ ht => { ht with }

theorem assignEnvironment_isTransactional (name : Option String) (value : Value)
    (first last : Option Time.Moment) :
    (assignEnvironment name value first last).IsTransactional := by
  refine .of_alike ⟨_, _, _, _, fun _ => rfl⟩ fun low => ?_
  have hmoment : ∀ m : Time.Moment, Alike low (fun _ _ => True) (universal m) (universal m) :=
    fun m => (Alike.universal m).mono fun _ _ _ => trivial
  exact .bind (alike_definition _ _) fun _ _ _ => .bind (.spelled _) fun _ _ _ =>
    .bind (.optionMapM hmoment _) fun _ _ _ => .bind (.optionMapM hmoment _) fun _ _ _ =>
    .change fun _ _ ht => { ht with }

/-! ### Policies -/

theorem createPolicySet_isTransactional (name description : Option String) (priority : Int) :
    (createPolicySet name description priority).IsTransactional := by
  refine .of_alike ⟨_, _, _, _, fun _ => rfl⟩ fun low => ?_
  exact .bind .draw fun _ _ _ => .bind (.fitting _) fun _ _ _ => .bind (.notNull _ _) fun _ _ _ =>
    .bind (.change fun _ _ ht => { ht with }) fun _ _ _ => .pure trivial

/-- A policy of no effect is refused before the database is asked for. -/
theorem createPolicy_cases (draft : PolicyDraft) :
    (∃ fault, ∀ db, (createPolicy draft).perform db = (.error fault, [], db)) ∨
      (createPolicy draft).IsTransactional := by
  cases heffect : PolicyDraft.effect? draft with
  | error fault =>
      refine .inl ⟨fault, fun db => ?_⟩
      simp only [perform, Database.createPolicy, heffect]
      rfl
  | ok effect =>
      have hperform : ∀ db, (createPolicy draft).perform db = Change.answering some
          (db.changePolicies "create_policy" none "policies" (storePolicy draft effect)) := by
        intro db
        simp only [perform, Database.createPolicy, heffect]
      exact .inr <| .of_alike ⟨_, _, _, _, hperform⟩ fun low => alike_storePolicy draft effect

/-- Which policy is looked for depends on the tables, so these must be the same ones. -/
theorem setPolicyActive_isTransactional (policy : Option String) (isActive : Bool) :
    (setPolicyActive policy isActive).IsTransactional := by
  refine ⟨_, _, ⟨_, _, _, _, fun db => rfl⟩, fun low => ?_, fun low t _ drawn drawn' hlow hlow' => ?_⟩
  · refine .bind .tables fun t => ?_
    cases policy.filter fun id => t.policies.any (·.id == id) with
    | none => exact .throw _
    | some id => exact .change fun _ hs => hs
  · rw [execute_bind, execute_bind, execute_tables, execute_tables]
    dsimp only
    cases policy.filter fun id => t.policies.any (·.id == id) with
    | none => exact .error _ hlow hlow'
    | some id => exact .ok trivial ⟨⟨rfl, rfl, rfl, rfl, rfl⟩, rfl, rfl, hlow, hlow'⟩

/-! ### All calls -/

/-- Every call is refused at once, whatever the database is, or it is a transaction. -/
theorem perform_cases (a : Administration) :
    (∃ fault, ∀ db, a.perform db = (.error fault, [], db)) ∨ a.IsTransactional := by
  cases a with
  | createAttribute name category type description validValues =>
      exact createAttribute_cases name category type description validValues
  | createRole name description => exact .inr (createRole_isTransactional name description)
  | createUser name role email id => exact .inr (createUser_isTransactional name role email id)
  | createResource resource name type owner =>
      exact .inr (createResource_isTransactional resource name type owner)
  | createAction name description => exact .inr (createAction_isTransactional name description)
  | assignUser user name value => exact .inr (assignUser_isTransactional user name value)
  | assignRole role name value => exact .inr (assignRole_isTransactional role name value)
  | assignResource resource name value =>
      exact .inr (assignResource_isTransactional resource name value)
  | assignAction action name value => exact .inr (assignAction_isTransactional action name value)
  | assignEnvironment name value first last =>
      exact .inr (assignEnvironment_isTransactional name value first last)
  | createPolicySet name description priority =>
      exact .inr (createPolicySet_isTransactional name description priority)
  | createPolicy draft => exact createPolicy_cases draft
  | setPolicyActive policy isActive =>
      exact .inr (setPolicyActive_isTransactional policy isActive)

end Administration

namespace Database

variable {db : Database}

/-- How a record is received does not depend on the identifiers that were drawn. -/
theorem write_eq_of_drawn (record : Record) {drawn : Nat} (hdrawn : db.drawn ≤ drawn) :
    (write record { db with drawn := drawn }).1 = (write record db).1 := by
  have hchange : ∀ low, Alike low (fun _ _ => True)
      (change fun t => { t with accesses := t.accesses ++ [accessRow t record] })
      (change fun t => { t with accesses := t.accesses ++ [accessRow t record] }) :=
    fun low => .change fun _ _ ht => { ht with }
  have hfare : FareAlike
      (({ db with drawn := drawn } : Database).transact recordCallName
        (fun message => .of .audit message []) (Statement.noSuchTable "resources")
        (change fun t => { t with accesses := t.accesses ++ [accessRow t record] }))
      (db.transact recordCallName (fun message => .of .audit message [])
        (Statement.noSuchTable "resources")
        (change fun t => { t with accesses := t.accesses ++ [accessRow t record] })) :=
    transact_fareAlike (fun t _ => (hchange db.drawn).comesToSame t) hdrawn
  simp only [write]
  generalize ({ db with drawn := drawn } : Database).transact _ _ _ _ = c at hfare ⊢
  generalize db.transact _ _ _ _ = c' at hfare ⊢
  obtain ⟨outcome, entries, after⟩ := c
  obtain ⟨outcome', entries', after'⟩ := c'
  have houtcome := hfare.1
  cases outcome <;> cases outcome' <;> cases houtcome <;> rfl

/-- A call fares as it does on the same tables with fewer identifiers drawn. -/
theorem perform_fareAlike (b : Administration) (hb : b.drawsUser → db.HasSpentUsers) {drawn : Nat}
    (hdrawn : db.drawn ≤ drawn) :
    FareAlike (b.perform { db with drawn := drawn }) (b.perform db) := by
  rcases b.perform_cases with ⟨fault, hrefused⟩ | ⟨α, script, hscript⟩
  · rw [hrefused, hrefused]
    exact ⟨rfl, rfl⟩
  · obtain ⟨operation, frame, missing, answer, hperform⟩ := hscript.perform_eq
    rw [hperform, hperform]
    refine FareAlike.answering (transact_fareAlike (fun t ht => ?_) hdrawn) answer
    exact hscript.comesToSame db.drawn t fun hdraws => hb hdraws t ht

/-- A call that fails leaves the database as it was; only identifiers are spent. -/
theorem perform_of_error {a : Administration} {fault : Fault} (h : (a.perform db).1 = .error fault) :
    ∃ drawn, db.drawn ≤ drawn ∧ (a.perform db).2.2 = { db with drawn := drawn } := by
  rcases a.perform_cases with ⟨fault, hrefused⟩ | ⟨α, script, hscript⟩
  · rw [hrefused]
    exact ⟨db.drawn, Nat.le_refl _, rfl⟩
  · obtain ⟨operation, frame, missing, answer, hperform⟩ := hscript.perform_eq
    rw [hperform] at h ⊢
    exact transact_of_error hscript.keeps_drawn (eq_error_of_answering h)

/-- **Administration is atomic.** A call that fails, for whatever reason and however far it had come,
leaves the database with all its tables as it was; only identifiers are spent. Every next call fares as
it would have without the failed one: the store answers the same, records are received in the same way,
and a change succeeds, or fails with the same fault and the same words. (A user for whom an identifier
is drawn could clash with one who was given that very identifier before.) -/
theorem perform_isAtomic {a : Administration} {fault : Fault} (h : (a.perform db).1 = .error fault) :
    (∃ drawn, db.drawn ≤ drawn ∧ (a.perform db).2.2 = { db with drawn := drawn }) ∧
      (∀ call, (ask call (a.perform db).2.2).1 = (ask call db).1) ∧
      (∀ record, (write record (a.perform db).2.2).1 = (write record db).1) ∧
      ∀ b : Administration, (b.drawsUser → db.HasSpentUsers) →
        FareAlike (b.perform (a.perform db).2.2) (b.perform db) := by
  obtain ⟨drawn, hdrawn, heq⟩ := perform_of_error h
  rw [heq]
  exact ⟨⟨drawn, hdrawn, rfl⟩, ask_eq_of_unrecorded?_eq rfl,
    fun record => write_eq_of_drawn record hdrawn, fun b hb => perform_fareAlike b hb hdrawn⟩

/-- A policy with a rule on an attribute that is not defined yet, and a target of no known type. -/
def halfPolicy : PolicyDraft where
  name := some "half"
  effect := .text "permit"
  rules := [{ reference := some "subject.clearance", operator := some "equals", value := .int 3 }]
  targets := [{ type := some "planet", name := some "name", operator := some "equals",
                value := .text "mars" }]

/-- When the target is met, the policy and a definition have been written, and the rule waits. -/
theorem halfPolicy_isAtomic :
    let written := (execute (storePolicy halfPolicy .permit) { tables := {}, drawn := 0 }).2
    let after := ((Administration.createPolicy halfPolicy).perform inMemory).2.2
    (written.tables.policies.length = 1 ∧ written.tables.definitions.length = 1 ∧
      written.rules.length = 1) ∧
    ((∃ drawn, inMemory.drawn ≤ drawn ∧ after = { inMemory with drawn := drawn }) ∧
      (∀ call, (ask call after).1 = (ask call inMemory).1) ∧
      (∀ record, (write record after).1 = (write record inMemory).1) ∧
      ∀ b : Administration, (b.drawsUser → inMemory.HasSpentUsers) →
        FareAlike (b.perform after) (b.perform inMemory)) := by
  intro written after
  have hfails : ∃ fault, ((Administration.createPolicy halfPolicy).perform inMemory).1 =
      .error fault := by
    have hnone : (((Administration.createPolicy halfPolicy).perform inMemory).1).toOption = none := by
      rw [inMemory_eq]
      decide +kernel
    generalize ((Administration.createPolicy halfPolicy).perform inMemory).1 = outcome at hnone ⊢
    cases outcome with
    | error fault => exact ⟨fault, rfl⟩
    | ok _ => cases hnone
  obtain ⟨fault, hfault⟩ := hfails
  exact ⟨by decide +kernel, perform_isAtomic hfault⟩

end Database

end Clearance
