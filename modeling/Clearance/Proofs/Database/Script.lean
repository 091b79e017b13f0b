/-
# Scripts step by step

What each step of a script comes to from a given session. A script of two parts comes to its end if
both parts do, and an invariant of sessions that both parts keep is kept by the whole, however far
it gets.
-/

import Clearance.Database.Administration

namespace Clearance

namespace Session

/-- The rows of rules, those that wait included. -/
def allRules (s : Session) : List (Option RuleRow) := s.tables.rules.map some ++ s.rules

/-- The rows of targets, those that wait included. -/
def allTargets (s : Session) : List (Option TargetRow) := s.tables.targets.map some ++ s.targets

/-- A session after the rows that waited were written. -/
def written (s : Session) (rules : List RuleRow) (targets : List TargetRow) : Session :=
  { s with
    tables := { s.tables with
      rules := s.tables.rules ++ rules
      targets := s.tables.targets ++ targets }
    rules := []
    targets := [] }

variable {s : Session} {rules : List RuleRow} {targets : List TargetRow}

theorem allRules_written (h : s.rules = rules.map some) :
    (s.written rules targets).allRules = s.allRules := by
  rw [allRules, allRules, h, written, List.map_append, List.append_nil]

theorem allTargets_written (h : s.targets = targets.map some) :
    (s.written rules targets).allTargets = s.allTargets := by
  rw [allTargets, allTargets, h, written, List.map_append, List.append_nil]

end Session

namespace Script

variable {α β : Type} {s s' s'' : Session}

/-- What comes of a script from a session: its outcome, and the session after it. -/
def execute (script : Script α) (s : Session) : Except Abort α × Session := script s

/-! ## Steps -/

@[simp]
theorem execute_pure (a : α) (s : Session) : execute (pure a) s = (.ok a, s) := rfl

@[simp]
theorem execute_throw (abort : Abort) (s : Session) :
    execute (throw abort : Script α) s = (.error abort, s) := rfl

theorem execute_bind (x : Script α) (f : α → Script β) (s : Session) :
    execute (x >>= f) s =
      match execute x s with
      | (.ok a, s') => execute (f a) s'
      | (.error abort, s') => (.error abort, s') := by
  show ExceptT.bindCont f (execute x s).1 (execute x s).2 = _
  rcases execute x s with ⟨abort | a, s'⟩
  · rfl
  · rfl

@[simp]
theorem execute_draw (s : Session) :
    execute draw s = (.ok (Drawn.identifier s.drawn), { s with drawn := s.drawn + 1 }) := rfl

@[simp]
theorem execute_tables (s : Session) : execute tables s = (.ok s.tables, s) := rfl

@[simp]
theorem execute_change (f : Tables → Tables) (s : Session) :
    execute (change f) s = (.ok (), { s with tables := f s.tables }) := rfl

/-! ## Scripts that come to their end -/

/-- A script of two parts comes to its end if both parts do. -/
theorem execute_bind_eq_ok {x : Script α} {f : α → Script β} {b : β} :
    execute (x >>= f) s = (.ok b, s'') ↔
      ∃ a s', execute x s = (.ok a, s') ∧ execute (f a) s' = (.ok b, s'') := by
  rw [execute_bind]
  rcases execute x s with ⟨abort | a, s'⟩
  · simp
  · constructor
    · exact fun h => ⟨a, s', rfl, h⟩
    · rintro ⟨a', s₁, heq, h⟩
      cases heq
      exact h

theorem execute_notNull_eq_ok {column : String} {o : Option α} {a : α} :
    execute (notNull column o) s = (.ok a, s') ↔ o = some a ∧ s = s' := by
  cases o with
  | none => simp [notNull, violate]
  | some b => simp [notNull]

theorem execute_fitting_eq_ok {n k : Int} (h : execute (fitting n) s = (.ok k, s')) :
    (-largest - 1 ≤ n ∧ n ≤ largest) ∧ s = s' := by
  simp only [fitting] at h
  split at h
  next hfits =>
    cases h
    exact ⟨hfits, rfl⟩
  next => cases h

theorem execute_spelled_eq_ok {v : Value} {text : String} :
    execute (spelled v) s = (.ok text, s') ↔ v.HasString ∧ text = v.string ∧ s = s' := by
  simp only [spelled, Value.spelled, Value.HasString]
  cases v.stringFault? Value.room with
  | some fault => simp
  | none => simp [eq_comm]

/-! ## Invariants -/

/-- An invariant of sessions is kept by a script, however far it gets. -/
def Keeps (I : Session → Prop) (script : Script α) : Prop := ∀ s, I s → I (execute script s).2

namespace Keeps

variable {I : Session → Prop}

theorem pure (a : α) : Keeps I (pure a : Script α) := fun _ hs => hs

theorem throw (abort : Abort) : Keeps I (throw abort : Script α) := fun _ hs => hs

theorem bind {x : Script α} {f : α → Script β} (hx : Keeps I x) (hf : ∀ a, Keeps I (f a)) :
    Keeps I (x >>= f) := by
  intro s hs
  have hfirst := hx s hs
  rw [execute_bind]
  rcases hexecute : execute x s with ⟨abort | a, s'⟩
  · rw [hexecute] at hfirst
    exact hfirst
  · rw [hexecute] at hfirst
    exact hf a s' hfirst

theorem tables : Keeps I tables := fun _ hs => hs

theorem change {f : Tables → Tables} (hf : ∀ s, I s → I { s with tables := f s.tables }) :
    Keeps I (change f) := hf

theorem notNull (column : String) (o : Option α) : Keeps I (notNull column o) := by
  cases o with
  | none => exact throw _
  | some a => exact pure a

theorem unique (columns : String) (isTaken : Bool) : Keeps I (unique columns isTaken) := by
  cases isTaken with
  | true => exact throw _
  | false => exact pure ()

theorem fitting (n : Int) : Keeps I (fitting n) := by
  intro s hs
  simp only [Script.fitting]
  split
  · exact hs
  · exact hs

theorem spelled (v : Value) : Keeps I (spelled v) := by
  intro s hs
  simp only [Script.spelled]
  split
  · exact hs
  · exact hs

theorem universal (m : Time.Moment) : Keeps I (universal m) := by
  intro s hs
  simp only [Script.universal]
  split
  · exact hs
  · exact hs

theorem optionMapM {f : α → Script β} (hf : ∀ a, Keeps I (f a)) (o : Option α) :
    Keeps I (o.mapM f) := by
  cases o with
  | none => exact pure none
  | some a => exact bind (hf a) fun b => pure (some b)

theorem eachFrom {act : Nat → α → Script Unit} (hact : ∀ n a, Keeps I (act n a)) (n : Nat)
    (members : List α) : Keeps I (eachFrom act n members) := by
  induction members generalizing n with
  | nil => exact pure ()
  | cons a rest ih => exact bind (hact n a) fun _ => ih (n + 1)

end Keeps

/-! ## Rows that wait -/

/-- Rows are written if each has an operator; else the script is aborted, with nothing changed. -/
theorem writable_cases {ρ : Type} (column : String) (rows : List (Option ρ)) (s : Session) :
    (∃ written, rows = written.map some ∧
        execute (writable column rows) s = (.ok written, s)) ∨
      ∃ abort, execute (writable column rows) s = (.error abort, s) := by
  induction rows with
  | nil => exact .inl ⟨[], rfl, rfl⟩
  | cons row rest ih =>
      simp only [writable, List.mapM_cons] at ih ⊢
      cases row with
      | none => exact .inr ⟨_, rfl⟩
      | some row =>
          rcases ih with ⟨written, rfl, hrest⟩ | ⟨abort, hrest⟩
          · left
            refine ⟨row :: written, rfl, ?_⟩
            simp only [execute_bind, notNull, execute_pure, hrest]
          · right
            refine ⟨abort, ?_⟩
            simp only [execute_bind, notNull, execute_pure, hrest]

theorem execute_writable {ρ : Type} (column : String) (rows : List ρ) (s : Session) :
    execute (writable column (rows.map some)) s = (.ok rows, s) := by
  induction rows with
  | nil => rfl
  | cons row rest ih =>
      simp only [writable, List.map_cons, List.mapM_cons] at ih ⊢
      simp only [execute_bind, notNull, execute_pure, ih]

/-- The rows that are written are those that wait when the writing begins. -/
theorem execute_flush (s : Session) : execute flush s = execute (do
    let rules ← writable "policy_rules.operator" s.rules
    change fun t => { t with rules := t.rules ++ rules }
    let targets ← writable "policy_targets.operator" s.targets
    change fun t => { t with targets := t.targets ++ targets }
    modify fun s => { s with rules := [], targets := [] }) s := rfl

/-- Either all rows that wait are written, or the script is aborted: before anything is written, or
with the rules written and the targets not. -/
theorem flush_cases (s : Session) :
    (∃ rules targets, s.rules = rules.map some ∧ s.targets = targets.map some ∧
        execute flush s = (.ok (), s.written rules targets)) ∨
      ∃ abort, execute flush s = (.error abort, s) ∨
        ∃ rules, s.rules = rules.map some ∧ execute flush s = (.error abort,
          { s with tables := { s.tables with rules := s.tables.rules ++ rules } }) := by
  rw [execute_flush, execute_bind]
  rcases writable_cases "policy_rules.operator" s.rules s with
    ⟨rules, hrules, hwritten⟩ | ⟨abort, hwritten⟩
  · rw [hwritten]
    dsimp only
    rw [execute_bind, execute_change]
    dsimp only
    rw [execute_bind]
    rcases writable_cases "policy_targets.operator" s.targets
        { s with tables := { s.tables with rules := s.tables.rules ++ rules } } with
      ⟨targets, htargets, hlast⟩ | ⟨abort, hlast⟩
    · rw [hlast]
      exact .inl ⟨rules, targets, hrules, htargets, rfl⟩
    · rw [hlast]
      exact .inr ⟨abort, .inr ⟨rules, hrules, rfl⟩⟩
  · rw [hwritten]
    exact .inr ⟨abort, .inl rfl⟩

/-- A script is run by executing it and writing the rows that still wait. If that is aborted, the tables
are as they were. -/
theorem run_eq (script : Script α) (t : Tables) (drawn : Nat) :
    script.run t drawn =
      match execute (do let a ← script; flush; return a) { tables := t, drawn := drawn } with
      | (.ok a, s) => (.ok a, s.tables, s.drawn)
      | (.error abort, s) => (.error abort, t, s.drawn) := by
  rw [execute_bind, run, Connection.scope]
  rcases hscript : execute script { tables := t, drawn := drawn } with ⟨abort | a, s⟩
  · rw [show script (Connection.begin t drawn).session = _ from hscript]
    rfl
  · rw [show script (Connection.begin t drawn).session = _ from hscript]
    dsimp only
    rw [execute_bind]
    rcases hflush : execute flush s with ⟨abort | _, s'⟩
    · simp only [Connection.commit, show flush s = _ from hflush]
      rfl
    · simp only [Connection.commit, show flush s = _ from hflush, execute_pure]

/-! ## Definitions -/

theorem execute_define_of_taken {name type : String} {category : Category}
    {description validValues : Option String}
    (h : (s.tables.definition? name category).isSome = true) :
    execute (define (some name) category type description validValues) s =
      execute (violate "UNIQUE" "attributes.name, attributes.category")
        { s with drawn := s.drawn + 1 } := by
  simp only [define, notNull, execute_bind, execute_draw, execute_pure, execute_tables]
  simp only [unique, h, if_true]
  rfl

theorem execute_define_of_free {name type : String} {category : Category}
    {description validValues : Option String}
    (h : ¬(s.tables.definition? name category).isSome = true) :
    execute (define (some name) category type description validValues) s =
      execute (flush >>= fun _ => pure (Drawn.identifier s.drawn))
        { s with
          drawn := s.drawn + 1
          tables := { s.tables with definitions := s.tables.definitions ++
            [⟨Drawn.identifier s.drawn, name, type, category, description, validValues⟩] } } := by
  simp only [define, notNull, execute_bind, execute_draw, execute_pure, execute_tables]
  simp only [unique, h]
  rfl

end Script

/-! ## Transactions -/

namespace Database

variable {db : Database} {t : Tables} {α : Type}

theorem transact_of_tables?_eq_none (ht : db.tables? = none) (operation : String)
    (frame : String → Failure) (missing : String) (script : Script α) :
    (∃ fault, (db.transact operation frame missing script).1 = .error fault) ∧
      (db.transact operation frame missing script).2.2 = db := by
  simp [transact, ht]

/-- A transaction succeeds if its script comes to its end, and leaves what the script leaves. -/
theorem transact_of_tables? (ht : db.tables? = some t) (operation : String)
    (frame : String → Failure) (missing : String) (script : Script α) :
    (∀ a, (db.transact operation frame missing script).1 = .ok a ↔
        (script.run t db.drawn).1 = .ok a) ∧
      (db.transact operation frame missing script).2.2 =
        { db with
          engine := .connected (some (script.run t db.drawn).2.1)
          drawn := (script.run t db.drawn).2.2 } := by
  simp only [transact, ht]
  rcases script.run t db.drawn with ⟨(f | text) | a, t', drawn'⟩
  · simp
  · simp
  · simp

/-- A transaction that succeeds commits what its script comes to once all rows are written. -/
theorem exists_execute_of_transact (ht : db.tables? = some t) {operation missing : String}
    {frame : String → Failure} {script : Script α} {a : α}
    (h : (db.transact operation frame missing script).1 = .ok a) :
    ∃ s, Script.execute (do let a ← script; Script.flush; return a)
        { tables := t, drawn := db.drawn } = (.ok a, s) ∧
      (db.transact operation frame missing script).2.2.tables? = some s.tables ∧
      (db.transact operation frame missing script).2.2.drawn = s.drawn := by
  obtain ⟨houtcome, hafter⟩ := transact_of_tables? ht operation frame missing script
  have hrun := (houtcome a).mp h
  rw [hafter]
  rw [Script.run_eq] at hrun ⊢
  generalize Script.execute (do let a ← script; Script.flush; return a)
    { tables := t, drawn := db.drawn } = result at hrun ⊢
  rcases result with ⟨abort | b, s⟩
  · cases hrun
  · cases hrun
    exact ⟨s, rfl, rfl, rfl⟩

end Database

end Clearance
