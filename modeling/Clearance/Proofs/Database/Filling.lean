/-
# Filling a database

What the calls that make roles, subjects, resources and actions and that assign attributes leave in the
tables when they succeed. Each is a script whose steps can be read off from its success: names that are
there, keys that were free, identifiers that were drawn.
-/

import Clearance.Proofs.Database.Atomicity
import Clearance.Proofs.Database.Holding
import Clearance.Proofs.Time.Windows

namespace Clearance

namespace Script

variable {s s' : Session}

theorem execute_unique_eq_ok {columns : String} {isTaken : Bool}
    (h : execute (unique columns isTaken) s = (.ok (), s')) : isTaken = false ∧ s = s' := by
  cases isTaken with
  | true => cases h
  | false =>
      cases h
      exact ⟨rfl, rfl⟩

/-- The type of a resource is looked up, or made with an identifier that is drawn. -/
theorem execute_resourceType {t : Tables} {drawn : Nat} {name id : String}
    (h : execute (Database.resourceType name) { tables := t, drawn := drawn } = (.ok id, s)) :
    ∃ types drawn', drawn ≤ drawn' ∧
      s = { tables := { t with resourceTypes := types }, drawn := drawn' } := by
  obtain ⟨_, _, htables, h⟩ := execute_bind_eq_ok.mp h
  cases htables
  cases hfound : t.resourceTypes.find? fun row => row.name == name with
  | some row =>
      rw [hfound] at h
      cases h
      exact ⟨t.resourceTypes, drawn, Nat.le_refl _, rfl⟩
  | none =>
      rw [hfound] at h
      cases h
      exact ⟨_, drawn + 1, Nat.le_succ _, rfl⟩

end Script

namespace Database

open Script

variable {db : Database} {t : Tables}

/-- A change leaves tables that are filled with something. -/
def Fills (db : Database) (t : Tables) (h : Holdings) (environment : List EnvironmentRow)
    (db' : Database) : Prop :=
  ∃ t', db'.tables? = some t' ∧ t.Fills db.drawn h environment t' db'.drawn

/-- The outcome of a transaction whose script shows something and fills the tables. -/
theorem and_fills_of_transact (ht : db.tables? = some t) {α : Type} {operation missing : String}
    {frame : String → Failure} {script : Script α} {a : α} {h : Holdings}
    {environment : List EnvironmentRow} {P : Prop}
    (hok : (db.transact operation frame missing script).1 = .ok a)
    (hscript : ∀ s, script.execute { tables := t, drawn := db.drawn } = (.ok a, s) →
      P ∧ ∃ t' drawn', s = { tables := t', drawn := drawn' } ∧
        t.Fills db.drawn h environment t' drawn') :
    P ∧ db.Fills t h environment (db.transact operation frame missing script).2.2 := by
  obtain ⟨s, hexecute, hleaves⟩ := transact_eq_ok ht hok
  obtain ⟨hshown, t', drawn', hs, hfills⟩ := hscript s hexecute
  obtain ⟨htables, hdrawn⟩ := hleaves t' drawn' hs
  exact ⟨hshown, t', htables, hdrawn ▸ hfills⟩

/-- The outcome of a transaction whose script fills the tables. -/
theorem fills_of_transact (ht : db.tables? = some t) {α : Type} {operation missing : String}
    {frame : String → Failure} {script : Script α} {a : α} {h : Holdings}
    {environment : List EnvironmentRow}
    (hok : (db.transact operation frame missing script).1 = .ok a)
    (hscript : ∀ s, script.execute { tables := t, drawn := db.drawn } = (.ok a, s) →
      ∃ t' drawn', s = { tables := t', drawn := drawn' } ∧
        t.Fills db.drawn h environment t' drawn') :
    db.Fills t h environment (db.transact operation frame missing script).2.2 :=
  (and_fills_of_transact ht hok (P := True) fun s hs => ⟨trivial, hscript s hs⟩).2

/-- A script that comes to its end with no row waiting makes its transaction succeed. -/
theorem transact_of_execute (ht : db.tables? = some t) {α : Type} {operation missing : String}
    {frame : String → Failure} {script : Script α} {a : α} {t' : Tables} {drawn' : Nat}
    (h : script.execute { tables := t, drawn := db.drawn } =
      (.ok a, { tables := t', drawn := drawn' })) :
    (db.transact operation frame missing script).1 = .ok a := by
  rw [(transact_of_tables? ht operation frame missing script).1, run_eq, execute_bind, h]
  dsimp only
  rw [execute_bind, execute_flush_of_settled]
  rfl

theorem fills_createRole (ht : db.tables? = some t) (htidy : t.IsTidy db.drawn)
    {name description : Option String} {id : String}
    (hok : (db.createRole name description).1 = .ok id) :
    db.Fills t t.holdings t.environment (db.createRole name description).2.2 := by
  refine fills_of_transact ht hok fun s hs => ?_
  obtain ⟨_, _, hdraw, hs⟩ := execute_bind_eq_ok.mp hs
  cases hdraw
  obtain ⟨_, _, hname, hs⟩ := execute_bind_eq_ok.mp hs
  obtain ⟨rfl, rfl⟩ := execute_notNull_eq_ok.mp hname
  obtain ⟨_, _, htables, hs⟩ := execute_bind_eq_ok.mp hs
  cases htables
  obtain ⟨⟨⟩, _, hunique, hs⟩ := execute_bind_eq_ok.mp hs
  obtain ⟨-, rfl⟩ := execute_unique_eq_ok hunique
  cases hs
  exact ⟨_, _, rfl, htidy.fills_role (Nat.le_succ _) _⟩

theorem fills_insertUser {drawn drawn' : Nat} (htidy : t.IsTidy drawn) (hle : drawn ≤ drawn')
    {name role email : Option String} {id subject : String} {s : Session}
    (hs : execute (Administration.insertUser name role email id) { tables := t, drawn := drawn' } =
      (.ok subject, s)) :
    ∃ t', s = { tables := t', drawn := drawn' } ∧
      t.Fills drawn (t.holdings.setRole subject role) t.environment t' drawn' := by
  obtain ⟨word, _, hname, hs⟩ := execute_bind_eq_ok.mp hs
  obtain ⟨rfl, rfl⟩ := execute_notNull_eq_ok.mp hname
  obtain ⟨_, _, htables, hs⟩ := execute_bind_eq_ok.mp hs
  cases htables
  obtain ⟨⟨⟩, _, hunique, hs⟩ := execute_bind_eq_ok.mp hs
  obtain ⟨hfree, rfl⟩ := execute_unique_eq_ok hunique
  cases hs
  exact ⟨_, rfl, htidy.fills_user hle ⟨id, word, email, role⟩ hfree⟩

theorem fills_createUser (ht : db.tables? = some t) (htidy : t.IsTidy db.drawn)
    {name role email id : Option String} {subject : String}
    (hok : (db.createUser name role email id).1 = .ok subject) :
    db.Fills t (t.holdings.setRole subject role) t.environment
      (db.createUser name role email id).2.2 := by
  refine fills_of_transact ht hok fun s hs => ?_
  cases id with
  | some id =>
      obtain ⟨t', hs', hfills⟩ := fills_insertUser (s := s) htidy (Nat.le_refl _) hs
      exact ⟨t', _, hs', hfills⟩
  | none =>
      obtain ⟨t', hs', hfills⟩ := fills_insertUser (s := s) htidy (Nat.le_succ _) hs
      exact ⟨t', _, hs', hfills⟩

theorem fills_createResource (ht : db.tables? = some t) (htidy : t.IsTidy db.drawn)
    {resource : String} {name type owner : Option String} {id : String}
    (hok : (db.createResource (some resource) name type owner).1 = .ok id) :
    db.Fills t (t.holdings.setOwner resource owner) t.environment
      (db.createResource (some resource) name type owner).2.2 := by
  refine fills_of_transact ht hok fun s hs => ?_
  obtain ⟨typeId, s₁, htype, hs⟩ := execute_bind_eq_ok.mp hs
  have hsettled : ∃ types drawn', db.drawn ≤ drawn' ∧
      s₁ = { tables := { t with resourceTypes := types }, drawn := drawn' } := by
    generalize given? type = given at htype
    cases given with
    | none =>
        cases htype
        exact ⟨t.resourceTypes, _, Nat.le_refl _, rfl⟩
    | some word =>
        obtain ⟨_, _, hword, hpure⟩ := execute_bind_eq_ok.mp htype
        obtain ⟨types, drawn', hle, rfl⟩ := execute_resourceType hword
        cases hpure
        exact ⟨types, drawn', hle, rfl⟩
  obtain ⟨types, drawn', hle, rfl⟩ := hsettled
  obtain ⟨_, _, hdraw, hs⟩ := execute_bind_eq_ok.mp hs
  cases hdraw
  obtain ⟨_, _, hresource, hs⟩ := execute_bind_eq_ok.mp hs
  obtain ⟨hgiven, rfl⟩ := execute_notNull_eq_ok.mp hresource
  obtain rfl := Option.some.inj hgiven
  obtain ⟨word, _, hname, hs⟩ := execute_bind_eq_ok.mp hs
  obtain ⟨-, rfl⟩ := execute_notNull_eq_ok.mp hname
  obtain ⟨_, _, htables, hs⟩ := execute_bind_eq_ok.mp hs
  cases htables
  obtain ⟨⟨⟩, _, hunique, hs⟩ := execute_bind_eq_ok.mp hs
  obtain ⟨hfree, rfl⟩ := execute_unique_eq_ok hunique
  cases hs
  have hnone : t.resource? resource = none := by
    rw [← Option.not_isSome_iff_eq_none, Bool.not_eq_true]
    exact hfree
  have hfills := (htidy.mono hle).fills_resource
    ⟨Drawn.identifier drawn', resource, word, typeId, owner⟩ types hnone rfl
  exact ⟨_, _, rfl, { hfills with drawn_le := Nat.le_trans hle hfills.drawn_le }⟩

theorem fills_insertAction {drawn : Nat} (htidy : t.IsTidy drawn) {name : String}
    {description : Option String} {id : String} {s : Session}
    (hs : execute (insertAction (some name) description) { tables := t, drawn := drawn } =
      (.ok id, s)) :
    ∃ t', s = { tables := t', drawn := drawn + 1 } ∧
      t.Fills drawn t.holdings t.environment t' (drawn + 1) ∧
      t'.rowId? ⟨.action, name⟩ = some id := by
  obtain ⟨_, _, hdraw, hs⟩ := execute_bind_eq_ok.mp hs
  cases hdraw
  obtain ⟨_, _, hname, hs⟩ := execute_bind_eq_ok.mp hs
  obtain ⟨hgiven, rfl⟩ := execute_notNull_eq_ok.mp hname
  obtain rfl := Option.some.inj hgiven
  obtain ⟨_, _, htables, hs⟩ := execute_bind_eq_ok.mp hs
  cases htables
  obtain ⟨⟨⟩, _, hunique, hs⟩ := execute_bind_eq_ok.mp hs
  obtain ⟨hfree, rfl⟩ := execute_unique_eq_ok hunique
  cases hs
  have hnone : t.action? name = none := by
    rw [← Option.not_isSome_iff_eq_none, Bool.not_eq_true]
    exact hfree
  obtain ⟨hfills, hrow⟩ := htidy.fills_action
    ⟨Drawn.identifier drawn, name, description⟩ hnone rfl
  exact ⟨_, rfl, hfills, hrow⟩

theorem fills_createAction (ht : db.tables? = some t) (htidy : t.IsTidy db.drawn)
    {name : String} {description : Option String} {id : String}
    (hok : (db.createAction (some name) description).1 = .ok id) :
    db.Fills t t.holdings t.environment (db.createAction (some name) description).2.2 := by
  refine fills_of_transact ht hok fun s hs => ?_
  obtain ⟨t', hs', hfills, -⟩ := fills_insertAction htidy hs
  exact ⟨t', _, hs', hfills⟩

/-! ## Assignments -/

/-- An attribute is defined, and a value is written for a holder that has a row. -/
theorem fills_assigning {drawn : Nat} (htidy : t.IsTidy drawn) {x : Holder} {row : String}
    (hrow : t.rowId? x = some row) {name : String} {value : Value}
    {write : String → String → Script Unit}
    (hwrite : ∀ id text s, execute (write id text) s = (.ok (), { s with
      tables := s.tables.withRows x.kind (s.tables.rowsOf x.kind ++ [⟨row, id, text⟩]) }))
    {s : Session}
    (hs : execute
      (do let id ← definition (some name) x.kind.category; let text ← spelled value; write id text)
      { tables := t, drawn := drawn } = (.ok (), s)) :
    value.HasString ∧ ∃ t' drawn', s = { tables := t', drawn := drawn' } ∧
      t.Fills drawn (t.holdings.give x name value.string) t.environment t' drawn' := by
  obtain ⟨id, t', drawn', hdefinition, hdefines⟩ :=
    execute_definition htidy.sound name x.kind.category
  obtain ⟨id', s', hdefinition', hs⟩ := execute_bind_eq_ok.mp hs
  rw [hdefinition] at hdefinition'
  cases hdefinition'
  obtain ⟨text, s', hspelled, hs⟩ := execute_bind_eq_ok.mp hs
  obtain ⟨hvalue, rfl, rfl⟩ := execute_spelled_eq_ok.mp hspelled
  rw [hwrite] at hs
  cases hs
  exact ⟨hvalue, _, _, rfl, htidy.fills_row hdefines hrow value.string⟩

/-- Assign an attribute to a holder. -/
def assign (db : Database) (x : Holder) (name : String) (value : Value) : Change Unit :=
  match x.kind with
  | .subject => db.assignUser (some x.id) (some name) value
  | .role => db.assignRole (some x.id) (some name) value
  | .resource => db.assignResource (some x.id) (some name) value
  | .action => db.assignAction (some x.id) (some name) value

/-- An assignment that was made shows that the value has a string form, and the holder has it now. -/
theorem fills_assign (ht : db.tables? = some t) (htidy : t.IsTidy db.drawn) {x : Holder}
    {name : String} {value : Value} (hok : (db.assign x name value).1 = .ok ()) :
    value.HasString ∧
      db.Fills t (t.holdings.give x name value.string) t.environment
        (db.assign x name value).2.2 := by
  obtain ⟨kind, id⟩ := x
  cases kind with
  | subject =>
      refine and_fills_of_transact ht hok fun s hs => ?_
      exact fills_assigning htidy (x := ⟨.subject, id⟩) rfl (fun _ _ _ => rfl) hs
  | role =>
      refine and_fills_of_transact ht hok fun s hs => ?_
      exact fills_assigning htidy (x := ⟨.role, id⟩) rfl (fun _ _ _ => rfl) hs
  | resource =>
      refine and_fills_of_transact ht hok fun s hs => ?_
      obtain ⟨_, _, htables, hs⟩ := execute_bind_eq_ok.mp hs
      cases htables
      cases hfound : t.resource? id with
      | none => simp [hfound] at hs
      | some row =>
          simp only [Option.bind_some, hfound] at hs
          have hrow : t.rowId? ⟨.resource, id⟩ = some row.id := by simp [Tables.rowId?, hfound]
          exact fills_assigning htidy hrow (fun _ _ _ => rfl) hs
  | action =>
      refine and_fills_of_transact ht hok fun s hs => ?_
      obtain ⟨_, _, htables, hs⟩ := execute_bind_eq_ok.mp hs
      cases htables
      cases hfound : t.action? id with
      | some row =>
          simp only [Option.bind_some, hfound] at hs
          have hrow : t.rowId? ⟨.action, id⟩ = some row.id := by simp [Tables.rowId?, hfound]
          exact fills_assigning htidy hrow (fun _ _ _ => rfl) hs
      | none =>
          simp only [Option.bind_some, hfound] at hs
          obtain ⟨row, s₁, hinsert, hs⟩ := execute_bind_eq_ok.mp hs
          obtain ⟨t₁, rfl, hmade, hrow⟩ := fills_insertAction htidy hinsert
          obtain ⟨hvalue, t', drawn', hs', hfills⟩ := fills_assigning hmade.tidy
            (x := ⟨.action, id⟩) hrow (fun _ _ _ => rfl) hs
          rw [hmade.holdings, hmade.environment] at hfills
          exact ⟨hvalue, t', drawn', hs', hmade.trans hfills⟩

/-! ## The environment -/

theorem execute_mapM_universal (b : Option Time.Moment) (s : Session) :
    execute (b.mapM universal) s =
      match b.mapM Time.Moment.universal? with
      | some u => (.ok u, s)
      | none => (.error (.fault (.overflow "date value out of range")), s) := by
  cases b with
  | none => rfl
  | some m => cases hm : m.universal? <;> simp [universal, hm]

/-- What is done about a value of the environment once it is written out: its row is inserted with the
bounds of the window in universal time, if there is such a time. -/
theorem execute_keepWindow (id value : String) (w : Window) (s : Session) :
    execute (do
      let first ← w.first.mapM universal
      let last ← w.last.mapM universal
      change fun t => { t with environment := t.environment ++ [⟨id, value, first, last⟩] }) s =
      match w.universal? with
      | some u => (.ok (), { s with tables := { s.tables with
          environment := s.tables.environment ++ [⟨id, value, u.first, u.last⟩] } })
      | none => (.error (.fault (.overflow "date value out of range")), s) := by
  rw [Window.universal?, execute_bind, execute_mapM_universal]
  cases w.first.mapM Time.Moment.universal? with
  | none => rfl
  | some first =>
      dsimp only
      rw [execute_bind, execute_mapM_universal]
      cases w.last.mapM Time.Moment.universal? with
      | none => rfl
      | some last => rfl

theorem execute_assignEnvironment (htidy : t.IsTidy db.drawn) (name : String) {value : Value}
    (hvalue : value.HasString) (w : Window) :
    ∃ id t' drawn', t.Defines db.drawn name .environment id t' drawn' ∧
      execute (do
        let definition ← definition (some name) .environment
        let text ← spelled value
        let first ← w.first.mapM universal
        let last ← w.last.mapM universal
        change fun t => { t with
          environment := t.environment ++ [⟨definition, text, first, last⟩] })
        { tables := t, drawn := db.drawn } =
      match w.universal? with
      | some u => (.ok (), {
          tables := { t' with
            environment := t.environment ++ [⟨id, value.string, u.first, u.last⟩] }
          drawn := drawn' })
      | none => (.error (.fault (.overflow "date value out of range")),
          { tables := t', drawn := drawn' }) := by
  obtain ⟨id, t', drawn', hdefinition, hdefines⟩ := execute_definition htidy.sound name .environment
  have henvironment : t'.environment = t.environment := by rw [hdefines.rest]
  refine ⟨id, t', drawn', hdefines, ?_⟩
  rw [execute_bind, hdefinition, ← henvironment]
  dsimp only
  rw [execute_bind, execute_spelled_eq_ok.mpr ⟨hvalue, rfl, rfl⟩]
  exact execute_keepWindow id value.string w _

/-- A value of the environment can be assigned if it has a string form and the bounds of its window
have a universal time. -/
theorem assignEnvironment_eq_ok (ht : db.tables? = some t) (htidy : t.IsTidy db.drawn)
    (name : String) {value : Value} (hvalue : value.HasString) {w : Window}
    (hw : w.universal?.isSome) :
    (db.assignEnvironment (some name) value w.first w.last).1 = .ok () := by
  obtain ⟨u, hu⟩ := Option.isSome_iff_exists.mp hw
  obtain ⟨id, t', drawn', -, hexecute⟩ := execute_assignEnvironment htidy name hvalue w
  rw [hu] at hexecute
  exact transact_of_execute ht hexecute

/-- A value that was assigned to the environment has a string form. -/
theorem hasString_of_assignEnvironment (ht : db.tables? = some t) {name : Option String}
    {value : Value} {first last : Option Time.Moment}
    (hok : (db.assignEnvironment name value first last).1 = .ok ()) : value.HasString := by
  obtain ⟨s, hs, -⟩ := transact_eq_ok ht hok
  obtain ⟨id, s₁, -, hs⟩ := execute_bind_eq_ok.mp hs
  obtain ⟨text, s₂, hspelled, -⟩ := execute_bind_eq_ok.mp hs
  exact (execute_spelled_eq_ok.mp hspelled).1

/-- A value that was assigned to the environment comes after all others. -/
theorem fills_assignEnvironment (ht : db.tables? = some t) (htidy : t.IsTidy db.drawn)
    {name : String} {value : Value} {w : Window}
    (hok : (db.assignEnvironment (some name) value w.first w.last).1 = .ok ()) :
    ∃ u t' a, w.universal? = some u ∧
      (db.assignEnvironment (some name) value w.first w.last).2.2.tables? = some t' ∧
      a ∈ t'.definitions ∧ a.name = name ∧
      t.Fills db.drawn t.holdings
        (t.environment ++ [⟨a.id, value.string, u.first, u.last⟩]) t'
        (db.assignEnvironment (some name) value w.first w.last).2.2.drawn := by
  obtain ⟨id, t', drawn', hdefines, hexecute⟩ :=
    execute_assignEnvironment htidy name (hasString_of_assignEnvironment ht hok) w
  obtain ⟨s, hs, hleaves⟩ := transact_eq_ok ht hok
  rw [hexecute] at hs
  cases hu : w.universal? with
  | none =>
      rw [hu] at hs
      cases hs
  | some u =>
      rw [hu] at hs
      cases hs
      obtain ⟨htables, hdrawn⟩ := hleaves _ _ rfl
      obtain ⟨a, ha, rfl, hname⟩ := hdefines.mem
      refine ⟨u, _, a, rfl, htables, ha, hname, ?_⟩
      rw [show (db.assignEnvironment (some name) value w.first w.last).2.2.drawn = _ from hdrawn]
      exact htidy.fills_environment hdefines _

end Database

end Clearance
