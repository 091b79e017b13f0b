/-
# Defining what is needed

An assignment and a condition need definitions: of a name in a category, or of a name in whatever
category it is. What is needed is looked up first and made only if it is not there, and it is written
before anything else is looked up. So a definition that is needed many times is made once, and no script
that looks for it is aborted because it is there already.
-/

import Clearance.Proofs.Database.Filling
import Clearance.Proofs.Database.Storing

namespace Clearance

/-! ## Needs -/

/-- What is needed: a definition of a name in a category, or one of a name in any category. -/
inductive Need where
  | inCategory (name : String) (category : Category)
  | anywhere (name : String)
deriving DecidableEq

/-- What a definition is looked up by. -/
def AttributeDefinition.key (d : AttributeDefinition) : String × Category := (d.name, d.category)

/-- What the definitions of tables are looked up by, in their order. -/
def Tables.keys (t : Tables) : List (String × Category) :=
  t.definitions.map AttributeDefinition.key

namespace Need

/-- Whether a need is met by what is known. -/
def isMet (known : List (String × Category)) : Need → Bool
  | inCategory name category => known.any fun key => key.1 == name && key.2 == category
  | anywhere name => known.any fun key => key.1 == name

/-- What is defined for a need that is not met. A name that may be of any category is then defined for
subjects. -/
def key : Need → String × Category
  | inCategory name category => (name, category)
  | anywhere name => (name, .subject)

/-- What is known after a need was met, one way or the other. -/
def meet (known : List (String × Category)) (need : Need) : List (String × Category) :=
  if need.isMet known then known else known ++ [need.key]

variable {known : List (String × Category)} {need : Need}

theorem key_notMem_of_not_isMet (h : need.isMet known = false) : need.key ∉ known := by
  intro hmem
  cases need with
  | inCategory name category => simpa [key] using List.any_eq_false.mp h _ hmem
  | anywhere name => simpa [key] using List.any_eq_false.mp h _ hmem

/-- Nothing is defined twice, whatever is needed and however often. -/
theorem nodup_foldl_meet (h : known.Nodup) (needs : List Need) : (needs.foldl meet known).Nodup := by
  induction needs generalizing known with
  | nil => exact h
  | cons need rest ih =>
      rw [List.foldl_cons]
      apply ih
      rw [meet]
      split
      case isTrue => exact h
      case isFalse hfree =>
        rw [List.nodup_append]
        refine ⟨h, List.nodup_singleton _, ?_⟩
        rintro key hkey _ hnew rfl
        rw [List.mem_singleton.mp hnew] at hkey
        exact key_notMem_of_not_isMet (Bool.eq_false_iff.mpr hfree) hkey

theorem isMet_append (h : need.isMet known = true) (more : List (String × Category)) :
    need.isMet (known ++ more) = true := by
  cases need with
  | inCategory name category =>
      rw [isMet, List.any_append, ← isMet, h, Bool.true_or]
  | anywhere name =>
      rw [isMet, List.any_append, ← isMet, h, Bool.true_or]

theorem isMet_meet (known : List (String × Category)) (need : Need) :
    need.isMet (meet known need) = true := by
  rw [meet]
  split
  case isTrue h => exact h
  case isFalse => cases need <;> simp [isMet, key]

/-- What is met stays met, and what is needed is met in the end. -/
theorem isMet_foldl_meet {needs : List Need} (h : need.isMet known = true ∨ need ∈ needs) :
    need.isMet (needs.foldl meet known) = true := by
  induction needs generalizing known with
  | nil => exact h.resolve_right List.not_mem_nil
  | cons first rest ih =>
      rw [List.foldl_cons]
      apply ih
      rcases h with hmet | hmem
      · left
        rw [meet]
        split
        case isTrue => exact hmet
        case isFalse => exact isMet_append hmet _
      · rcases List.mem_cons.mp hmem with rfl | hrest
        · exact .inl (isMet_meet known need)
        · exact .inr hrest

theorem isMet_inCategory (t : Tables) (name : String) (category : Category) :
    (inCategory name category).isMet t.keys = (t.definition? name category).isSome := by
  rw [isMet, Tables.keys, Tables.definition?, List.any_map, List.isSome_find?]
  rfl

theorem isMet_anywhere (t : Tables) (name : String) :
    (anywhere name).isMet t.keys = (t.definitionNamed? name).isSome := by
  rw [isMet, Tables.keys, Tables.definitionNamed?, List.any_map, List.isSome_find?]
  rfl

end Need

/-- What a reference needs. -/
def Reference.need : Reference → Need
  | qualified category name => .inCategory name ((Category.ofName? category).getD .subject)
  | bare name => .anywhere name

/-- What a rule needs. -/
def Rule.needs (r : Rule) : List Need :=
  (r.reference.map fun s => (Reference.ofString s).need).toList

/-- What an attribute of a category needs, if there is a name. -/
def Category.needs (category : Category) (name : Option String) : List Need :=
  (name.map fun n => .inCategory n category).toList

/-- What a target needs. -/
def Target.needs (t : Target) : List Need :=
  match t.type.bind Script.targetCategory? with
  | some category => category.needs t.name
  | none => []

/-! ## What tables learn -/

namespace Tables

/-- Where no definition has a name, none has it in a category. -/
theorem definition?_eq_none {t : Tables} {name : String} (h : t.definitionNamed? name = none)
    (category : Category) : t.definition? name category = none := by
  rw [definition?, List.find?_eq_none]
  intro d hd hsame
  exact List.find?_eq_none.mp h d hd (Bool.and_eq_true_iff.mp hsame).1

/-- An identifier is that of a definition. -/
def HasDefinition (t : Tables) (id : String) : Prop := ∃ d ∈ t.definitions, d.id = id

/-- Tables learn what is needed: the definitions that were there stay in front, and what was assigned
since names one that is there. -/
structure Learns (t : Tables) (needs : List Need) (t' : Tables) : Prop where
  definitions : t.definitions <+: t'.definitions
  keys : t'.keys = needs.foldl Need.meet t.keys
  values : ∀ k, ∀ row ∈ t'.rowsOf k, row ∈ t.rowsOf k ∨ t'.HasDefinition row.definition
  environment : ∀ row ∈ t'.environment, row ∈ t.environment ∨ t'.HasDefinition row.definition

variable {t t' t'' : Tables} {needs : List Need} {need : Need}

theorem HasDefinition.mono {id : String} (h : t.HasDefinition id)
    (hsub : t.definitions ⊆ t'.definitions) : t'.HasDefinition id := by
  obtain ⟨d, hd, hid⟩ := h
  exact ⟨d, hsub hd, hid⟩

namespace Learns

theorem refl (t : Tables) : t.Learns [] t where
  definitions := List.prefix_refl _
  keys := rfl
  values _ _ := .inl
  environment _ := .inl

/-- Only definitions, values and the environment matter. -/
theorem of_eq (h : t.Learns needs t') (hdefinitions : t''.definitions = t'.definitions)
    (hrows : ∀ k, t''.rowsOf k = t'.rowsOf k) (henvironment : t''.environment = t'.environment) :
    t.Learns needs t'' where
  definitions := hdefinitions ▸ h.definitions
  keys := by
    rw [Tables.keys, hdefinitions]
    exact h.keys
  values k row hrow := by
    rw [hrows] at hrow
    exact (h.values k row hrow).imp_right fun hid => hid.mono (hdefinitions ▸ List.Subset.refl _)
  environment row hrow := by
    rw [henvironment] at hrow
    exact (h.environment row hrow).imp_right fun hid =>
      hid.mono (hdefinitions ▸ List.Subset.refl _)

/-- A need that is met already adds nothing. -/
theorem met (h : t.Learns needs t') (hmet : need.isMet t'.keys = true) :
    t.Learns (needs ++ [need]) t' where
  definitions := h.definitions
  keys := by
    rw [List.foldl_append, ← h.keys, List.foldl_cons, List.foldl_nil, Need.meet, if_pos hmet]
  values := h.values
  environment := h.environment

/-- A need that is not met adds one definition. -/
theorem define (h : t.Learns needs t') (hfree : need.isMet t'.keys = false)
    {d : AttributeDefinition} (hd : d.key = need.key) :
    t.Learns (needs ++ [need]) { t' with definitions := t'.definitions ++ [d] } where
  definitions := List.IsPrefix.trans h.definitions (List.prefix_append _ _)
  keys := by
    rw [List.foldl_append, ← h.keys, List.foldl_cons, List.foldl_nil, Need.meet, hfree, ← hd]
    simp only [Tables.keys, List.map_append]
    rfl
  values k row hrow := by
    have hold : row ∈ t'.rowsOf k := by cases k <;> exact hrow
    exact (h.values k row hold).imp_right fun hdefined =>
      hdefined.mono (List.subset_append_left _ _)
  environment row hrow := (h.environment row hrow).imp_right fun hdefined =>
    hdefined.mono (List.subset_append_left _ _)

/-- A value is assigned under a definition that is there. -/
theorem give (h : t.Learns needs t') {id : String} (hid : t'.HasDefinition id) (k : HolderKind)
    (holder value : String) :
    t.Learns needs (t'.withRows k (t'.rowsOf k ++ [⟨holder, id, value⟩])) := by
  have hdefinitions := definitions_withRows t' k (t'.rowsOf k ++ [⟨holder, id, value⟩])
  refine ⟨hdefinitions ▸ h.definitions, ?_, ?_, ?_⟩
  · rw [Tables.keys, hdefinitions]
    exact h.keys
  · intro k' row hrow
    rw [rowsOf_withRows] at hrow
    rw [HasDefinition, hdefinitions]
    split at hrow
    case isFalse => exact h.values k' row hrow
    case isTrue hk =>
      rcases List.mem_append.mp hrow with hold | hnew
      · exact h.values k' row (hk ▸ hold)
      · rw [List.mem_singleton.mp hnew]
        exact .inr hid
  · rw [withRows_eq]
    exact h.environment

/-- So is a value of the environment. -/
theorem keep (h : t.Learns needs t') {row : EnvironmentRow} (hid : t'.HasDefinition row.definition) :
    t.Learns needs { t' with environment := t'.environment ++ [row] } where
  definitions := h.definitions
  keys := h.keys
  values k := by
    have hrows : ({ t' with environment := t'.environment ++ [row] } : Tables).rowsOf k =
        t'.rowsOf k := by cases k <;> rfl
    rw [hrows]
    exact h.values k
  environment r hr := by
    rcases List.mem_append.mp hr with hold | hnew
    · exact h.environment r hold
    · rw [List.mem_singleton.mp hnew]
      exact .inr hid

/-- Rows of rules and targets that are written do not matter. -/
theorem written {s : Session} (h : t.Learns needs s.tables) (rules : List RuleRow)
    (targets : List TargetRow) : t.Learns needs (s.written rules targets).tables :=
  h.of_eq rfl (fun k => by cases k <;> rfl) rfl

end Learns

end Tables

/-- A session follows upon tables: it has learned what was needed, and has these rows of rules and
targets, those that wait included. -/
structure Session.Follows (t : Tables) (needs : List Need) (rules : List (Option RuleRow))
    (targets : List (Option TargetRow)) (s : Session) : Prop where
  learns : t.Learns needs s.tables
  rules : s.allRules = rules
  targets : s.allTargets = targets

namespace Session.Follows

variable {t : Tables} {needs : List Need} {need : Need} {rules : List (Option RuleRow)}
  {targets : List (Option TargetRow)} {s : Session}

theorem begin (t : Tables) (drawn : Nat) :
    Follows t [] (t.rules.map some) (t.targets.map some) { tables := t, drawn := drawn } :=
  ⟨.refl t, List.append_nil _, List.append_nil _⟩

theorem draw (hs : s.Follows t needs rules targets) :
    ({ s with drawn := s.drawn + 1 } : Session).Follows t needs rules targets :=
  ⟨hs.learns, hs.rules, hs.targets⟩

/-- A change of other tables does not matter. -/
theorem elsewhere (hs : s.Follows t needs rules targets) {f : Tables → Tables}
    (hf : (f s.tables).SharesValues s.tables) :
    ({ s with tables := f s.tables } : Session).Follows t needs rules targets where
  learns := hs.learns.of_eq hf.definitions hf.rowsOf hf.environment
  rules := by
    rw [← hs.rules, allRules, hf.rules]
    rfl
  targets := by
    rw [← hs.targets, allTargets, hf.targets]
    rfl

theorem written (hs : s.Follows t needs rules targets) {rows : List RuleRow}
    {rows' : List TargetRow} (hrules : s.rules = rows.map some)
    (htargets : s.targets = rows'.map some) :
    (s.written rows rows').Follows t needs rules targets where
  learns := hs.learns.written rows rows'
  rules := (allRules_written hrules).trans hs.rules
  targets := (allTargets_written htargets).trans hs.targets

/-- Where no row waits any longer, rules and targets are those that were there. -/
theorem unchanged (hs : s.Follows t needs (t.rules.map some) (t.targets.map some))
    (hrules : s.rules = []) (htargets : s.targets = []) :
    s.tables.rules = t.rules ∧ s.tables.targets = t.targets := by
  have hallRules := hs.rules
  have hallTargets := hs.targets
  rw [allRules, hrules, List.append_nil] at hallRules
  rw [allTargets, htargets, List.append_nil] at hallTargets
  exact ⟨List.map_injective_iff.mpr (fun _ _ => Option.some.inj) hallRules,
    List.map_injective_iff.mpr (fun _ _ => Option.some.inj) hallTargets⟩

end Session.Follows

/-! ## Reports -/

theorem Text.head?_append {first : String} {c : Char} (h : first.toList.head? = some c)
    (rest : String) : (first ++ rest).toList.head? = some c := by
  rw [String.toList_append, List.head?_append, h, Option.some_or]

theorem Text.getLast?_append {last : String} {c : Char} (h : last.toList.getLast? = some c)
    (first : String) : (first ++ last).toList.getLast? = some c := by
  rw [String.toList_append, List.getLast?_append, h, Option.some_or]

namespace Script

/-- What the database says of a definition whose name its category has already. -/
def duplicate : String :=
  "(sqlite3.IntegrityError) UNIQUE constraint failed: attributes.name, attributes.category"

/-- The report on such a definition. -/
def duplicateReport (operation : String) : String :=
  s!"Database error during {operation}: {duplicate}"

theorem head?_duplicateReport (operation : String) :
    (duplicateReport operation).toList.head? = some 'D' := by
  have hhead : "Database error during ".toList.head? = some 'D' := by decide
  exact Text.head?_append (Text.head?_append (Text.head?_append hhead _) _) _

theorem getLast?_duplicateReport (operation : String) :
    (duplicateReport operation).toList.getLast? = some 'y' := by
  have hlast : duplicate.toList.getLast? = some 'y' := by decide +kernel
  exact Text.getLast?_append hlast _

theorem duplicate_eq : duplicate = "(sqlite3.IntegrityError) " ++ "UNIQUE" ++
    " constraint failed: " ++ "attributes.name, attributes.category" := by
  decide +kernel

theorem ne_duplicate_of_start {first : String} (h : ¬first.toList <+: duplicate.toList)
    (rest : String) : first ++ rest ≠ duplicate := by
  intro heq
  apply h
  rw [← heq, String.toList_append]
  exact List.prefix_append _ _

end Script

/-- A reason to be aborted that is not reported as a definition that is there already. -/
def Abort.IsOther : Abort → Prop
  | .reported text => text ≠ Script.duplicate
  | .fault f => ∀ operation, f.message ≠ Script.duplicateReport operation

namespace Abort

open Script

theorem isOther_fault {f : Fault} {c : Char} (h : f.message.toList.head? = some c) (hc : c ≠ 'D') :
    (fault f).IsOther := by
  intro operation heq
  have hhead := heq ▸ head?_duplicateReport operation
  rw [h] at hhead
  exact hc (Option.some.inj hhead)

theorem isOther_notNull (column : String) :
    (reported ("(sqlite3.IntegrityError) " ++ "NOT NULL" ++ " constraint failed: " ++
      column)).IsOther :=
  ne_duplicate_of_start (by decide +kernel) column

theorem isOther_unique {columns : String} (h : columns ≠ "attributes.name, attributes.category") :
    (reported ("(sqlite3.IntegrityError) " ++ "UNIQUE" ++ " constraint failed: " ++
      columns)).IsOther :=
  fun heq => h (String.append_right_inj _ |>.mp (heq.trans duplicate_eq))

end Abort

/-! ## Scripts that are not aborted for a definition -/

namespace Script

variable {α β : Type} {P I : Session → Prop}

/-- A script comes to its end, with a value and a session as they should be, or it is aborted for a
reason other than a definition that is there already. -/
inductive EndsIn (Q : α → Session → Prop) : Except Abort α × Session → Prop
  | ok {a : α} {s : Session} (h : Q a s) : EndsIn Q (.ok a, s)
  | error {abort : Abort} {s : Session} (h : abort.IsOther) : EndsIn Q (.error abort, s)

theorem EndsIn.of_ok {Q : α → Session → Prop} {a : α} {s : Session} (h : EndsIn Q (.ok a, s)) :
    Q a s := by
  cases h with
  | ok h => exact h

/-- From sessions of a kind, a script leads to others, if to any. -/
def Leads (P : Session → Prop) (x : Script α) (Q : α → Session → Prop) : Prop :=
  ∀ s, P s → EndsIn Q (execute x s)

namespace Leads

variable {Q : α → Session → Prop} {R : β → Session → Prop}

theorem pure {a : α} (h : ∀ s, P s → Q a s) : Leads P (Pure.pure a) Q := fun s hs => .ok (h s hs)

theorem throw {abort : Abort} (h : abort.IsOther) : Leads P (MonadExcept.throw abort) Q :=
  fun _ _ => .error h

theorem bind {x : Script α} {f : α → Script β} (hx : Leads P x Q) (hf : ∀ a, Leads (Q a) (f a) R) :
    Leads P (x >>= f) R := by
  intro s hs
  have hfirst := hx s hs
  rw [execute_bind]
  generalize execute x s = result at hfirst ⊢
  cases hfirst with
  | ok h => exact hf _ _ h
  | error h => exact .error h

theorem tables : Leads I tables fun _ => I := fun _ hs => .ok hs

theorem change {f : Tables → Tables} {Q : Unit → Session → Prop}
    (h : ∀ s, P s → Q () { s with tables := f s.tables }) : Leads P (change f) Q :=
  fun s hs => .ok (h s hs)

theorem modify {f : Session → Session} {Q : Unit → Session → Prop} (h : ∀ s, P s → Q () (f s)) :
    Leads P (modify f) Q :=
  fun s hs => .ok (h s hs)

theorem notNull (column : String) (o : Option α) : Leads I (notNull column o) fun _ => I := by
  cases o with
  | none => exact throw (Abort.isOther_notNull column)
  | some a => exact pure fun _ hs => hs

theorem unique {columns : String} (h : columns ≠ "attributes.name, attributes.category")
    (isTaken : Bool) : Leads I (unique columns isTaken) fun _ => I := by
  cases isTaken with
  | true => exact throw (Abort.isOther_unique h)
  | false => exact pure fun _ hs => hs

theorem fitting (n : Int) : Leads I (fitting n) fun _ => I := by
  rw [Script.fitting]
  split
  case isTrue => exact pure fun _ hs => hs
  case isFalse =>
    exact throw (Abort.isOther_fault (c := 'P') (by decide) (by decide))

theorem spelled (v : Value) : Leads I (spelled v) fun _ => I := by
  rw [Script.spelled]
  cases hspelled : v.spelled with
  | ok text => exact pure fun _ hs => hs
  | error fault =>
      rcases Value.isObstacle_of_spelled hspelled with rfl | rfl | rfl
      · exact throw (Abort.isOther_fault (c := 'E') (by decide +kernel) (by decide))
      · exact throw (Abort.isOther_fault (c := 'm') (by decide) (by decide))
      · exact throw (Abort.isOther_fault (c := 'm') (by decide) (by decide))

theorem universal (m : Time.Moment) : Leads I (universal m) fun _ => I := by
  rw [Script.universal]
  cases m.universal? with
  | some u => exact pure fun _ hs => hs
  | none => exact throw (Abort.isOther_fault (c := 'd') (by decide) (by decide))

theorem optionMapM {f : α → Script β} (hf : ∀ a, Leads I (f a) fun _ => I) (o : Option α) :
    Leads I (o.mapM f) fun _ => I := by
  cases o with
  | none => exact pure fun _ hs => hs
  | some a => exact bind (hf a) fun b => pure fun _ hs => hs

theorem writable {ρ : Type} (column : String) (rows : List (Option ρ)) :
    Leads I (writable column rows) fun _ => I := by
  induction rows with
  | nil => exact pure fun _ hs => hs
  | cons row rest ih =>
      rw [Script.writable, List.mapM_cons]
      exact bind (notNull column row) fun _ => bind ih fun _ => pure fun _ hs => hs

/-- The rows that wait are written, or one of them cannot be. -/
theorem flush {Q : Unit → Session → Prop}
    (h : ∀ s rows rows', P s → s.rules = rows.map some → s.targets = rows'.map some →
      Q () (s.written rows rows')) : Leads P flush Q := by
  intro s hs
  have hreason : EndsIn (fun _ _ => True) (execute Script.flush s) := by
    rw [execute_flush]
    exact bind (Q := fun _ _ => True) (writable "policy_rules.operator" s.rules) (fun _ =>
      bind (Q := fun _ _ => True) (change fun _ _ => trivial) fun _ =>
      bind (Q := fun _ _ => True) (writable "policy_targets.operator" s.targets) fun _ =>
      bind (Q := fun _ _ => True) (change fun _ _ => trivial) fun _ =>
      modify fun _ _ => trivial) s trivial
  rcases flush_cases s with ⟨rows, rows', hrules, htargets, hflush⟩ | ⟨abort, hflush⟩
  · rw [hflush]
    exact .ok (h s rows rows' hs hrules htargets)
  · rcases hflush with hflush | ⟨rows, -, hflush⟩
    · rw [hflush] at hreason ⊢
      cases hreason with
      | error hother => exact .error hother
    · rw [hflush] at hreason ⊢
      cases hreason with
      | error hother => exact .error hother

end Leads

/-! ### Definitions -/

section Definitions

variable {t : Tables} {needs : List Need} {need : Need} {rules : List (Option RuleRow)}
  {targets : List (Option TargetRow)} {s : Session} {name : String} {category : Category}

/-- What is defined for a need that is not met. -/
theorem endsIn_define (hs : s.Follows t needs rules targets) (hkey : need.key = (name, category))
    (hfree : need.isMet s.tables.keys = false) (hnone : s.tables.definition? name category = none)
    (type : String) (description validValues : Option String) :
    EndsIn (fun id s' => s'.Follows t (needs ++ [need]) rules targets ∧ s'.tables.HasDefinition id)
      (execute (define (some name) category type description validValues) s) := by
  have hflush : Leads (fun s' => s'.Follows t (needs ++ [need]) rules targets ∧
        s'.tables.HasDefinition (Drawn.identifier s.drawn))
      (flush >>= fun _ => pure (Drawn.identifier s.drawn))
      fun id s' => s'.Follows t (needs ++ [need]) rules targets ∧ s'.tables.HasDefinition id := by
    refine .bind (.flush fun s' rows rows' h hrules htargets => ?_) fun _ => .pure fun _ h => h
    exact ⟨h.1.written hrules htargets, h.2⟩
  rw [execute_define_of_free (by simp [hnone])]
  apply hflush
  exact ⟨⟨hs.learns.define hfree hkey.symm, hs.rules, hs.targets⟩, _,
    List.mem_append_right _ List.mem_cons_self, rfl⟩

/-- A definition that is made outright comes to its end only if it was not there. -/
theorem follows_of_define (hs : s.Follows t needs rules targets) {name : Option String}
    {type id : String} {description validValues : Option String} {s' : Session}
    (h : execute (define name category type description validValues) s = (.ok id, s')) :
    s'.Follows t (needs ++ category.needs name) rules targets := by
  cases name with
  | none => cases h
  | some name =>
      cases hfound : s.tables.definition? name category with
      | some d =>
          rw [execute_define_of_taken (by simp [hfound])] at h
          cases h
      | none =>
          have hfree : (Need.inCategory name category).isMet s.tables.keys = false := by
            rw [Need.isMet_inCategory, hfound, Option.isSome_none]
          have hend := endsIn_define hs rfl hfree hfound type description validValues
          rw [h] at hend
          exact hend.of_ok.1

/-- A need that is looked up in a category is met, by what is there or by what is made. -/
theorem endsIn_definition (hs : s.Follows t needs rules targets)
    (hkey : need.key = (name, category))
    (hmet : need.isMet s.tables.keys = (s.tables.definition? name category).isSome) :
    EndsIn (fun id s' => s'.Follows t (needs ++ [need]) rules targets ∧ s'.tables.HasDefinition id)
      (execute (definition (some name) category) s) := by
  rw [definition, execute_bind, execute_tables]
  dsimp only [Option.bind_some]
  cases hfound : s.tables.definition? name category with
  | some d =>
      rw [hfound] at hmet
      exact .ok ⟨⟨hs.learns.met hmet, hs.rules, hs.targets⟩, d, List.mem_of_find?_eq_some hfound, rfl⟩
  | none =>
      rw [hfound] at hmet
      exact endsIn_define hs hkey hmet hfound "string" none none

theorem leads_draw : Leads (Session.Follows t needs rules targets) draw fun _ =>
    Session.Follows t needs rules targets :=
  fun _ hs => .ok hs.draw

theorem leads_elsewhere {f : Tables → Tables} (hf : ∀ t, (f t).SharesValues t) :
    Leads (Session.Follows t needs rules targets) (change f) fun _ =>
      Session.Follows t needs rules targets :=
  .change fun s hs => hs.elsewhere (hf s.tables)

/-- In the end nothing waits any longer. -/
theorem leads_flush : Leads (Session.Follows t needs rules targets) flush fun _ s =>
    s.Follows t needs rules targets ∧ s.rules = [] ∧ s.targets = [] :=
  .flush fun _ _ _ hs hrules htargets => ⟨hs.written hrules htargets, rfl, rfl⟩

theorem leads_committed {α : Type} {script : Script α} {P : Session → Prop}
    (h : Leads P script fun _ => Session.Follows t needs rules targets) :
    Leads P (do let a ← script; flush; return a) fun _ s =>
      s.Follows t needs rules targets ∧ s.rules = [] ∧ s.targets = [] :=
  .bind h fun _ => .bind leads_flush fun _ => .pure fun _ hs => hs

theorem leads_definition (name : Option String) (category : Category) :
    Leads (Session.Follows t needs rules targets) (definition name category) fun id s =>
      s.Follows t (needs ++ category.needs name) rules targets ∧ s.tables.HasDefinition id := by
  cases name with
  | none => exact fun _ _ => .error (Abort.isOther_notNull "attributes.name")
  | some name =>
      exact fun s hs => endsIn_definition hs rfl (Need.isMet_inCategory s.tables name category)

theorem leads_ruleDefinition (reference : Option String) :
    Leads (Session.Follows t needs rules targets) (ruleDefinition reference) fun id s =>
      s.Follows t (needs ++ (reference.map fun s => (Reference.ofString s).need).toList)
        rules targets ∧ s.tables.HasDefinition id := by
  cases reference with
  | none => exact .throw (Abort.isOther_fault (c := 'a') (by decide) (by decide))
  | some reference =>
      rw [Option.map_some, Option.toList_some]
      simp only [ruleDefinition]
      cases Reference.ofString reference with
      | qualified category name =>
          exact leads_definition (some name) ((Category.ofName? category).getD .subject)
      | bare name =>
          intro s hs
          have hmet := Need.isMet_anywhere s.tables name
          dsimp only
          rw [execute_bind, execute_tables]
          dsimp only
          cases hfound : s.tables.definitionNamed? name with
          | some d =>
              rw [hfound] at hmet
              exact .ok ⟨⟨hs.learns.met hmet, hs.rules, hs.targets⟩, d,
                List.mem_of_find?_eq_some hfound, rfl⟩
          | none =>
              have hsubject := Tables.definition?_eq_none hfound .subject
              exact endsIn_definition hs rfl (hmet.trans (by rw [hfound, hsubject]))

theorem leads_addRule (policy : String) (position : Nat) (r : Rule) :
    Leads (fun s => t.Learns needs s.tables) (addRule policy position r) fun _ s =>
      t.Learns (needs ++ r.needs) s.tables := by
  intro s hs
  have hsteps : Leads (Session.Follows t needs s.allRules s.allTargets) (addRule policy position r)
      fun _ s => t.Learns (needs ++ r.needs) s.tables :=
    .bind (leads_ruleDefinition r.reference) fun _ => .bind (.spelled r.value) fun _ =>
      .modify fun _ h => h.1.learns
  exact hsteps s ⟨hs, rfl, rfl⟩

theorem leads_targetCategory {I : Session → Prop} (type : Option String) :
    Leads I (targetCategory type) fun found s =>
      I s ∧ type.bind targetCategory? = some found.2 := by
  cases type with
  | none => exact .throw (Abort.isOther_fault (c := Char.ofNat 39) (by decide) (by decide))
  | some type =>
      rw [Option.bind_some]
      simp only [targetCategory]
      cases targetCategory? type with
      | some category => exact .pure fun _ hs => ⟨hs, rfl⟩
      | none =>
          have hhead : "Unknown target type: ".toList.head? = some 'U' := by decide
          exact .throw (Abort.isOther_fault (Text.head?_append hhead type) (by decide))

theorem leads_addTarget (policy : String) (position : Nat) (target : Target) :
    Leads (fun s => t.Learns needs s.tables) (addTarget policy position target) fun _ s =>
      t.Learns (needs ++ target.needs) s.tables := by
  intro s hs
  have hsteps : Leads (Session.Follows t needs s.allRules s.allTargets)
      (addTarget policy position target) fun _ s => t.Learns (needs ++ target.needs) s.tables := by
    refine .bind (leads_targetCategory target.type) ?_
    rintro ⟨type, category⟩ s ⟨hs, hcategory⟩
    rw [Target.needs, hcategory]
    exact Leads.bind (leads_definition target.name category)
      (fun _ => .bind (.spelled target.value) fun _ => .modify fun _ h => h.1.learns) s hs
  exact hsteps s ⟨hs, rfl, rfl⟩

/-- Members of a list need one after another what each of them needs. -/
theorem leads_eachFrom {α : Type} {act : Nat → α → Script Unit} {needsOf : α → List Need}
    (hact : ∀ needs n a, Leads (fun s => t.Learns needs s.tables) (act n a) fun _ s =>
      t.Learns (needs ++ needsOf a) s.tables) (needs : List Need) (n : Nat) (members : List α) :
    Leads (fun s => t.Learns needs s.tables) (eachFrom act n members) fun _ s =>
      t.Learns (needs ++ members.flatMap needsOf) s.tables := by
  induction members generalizing needs n with
  | nil =>
      rw [List.flatMap_nil, List.append_nil]
      exact .pure fun _ hs => hs
  | cons a rest ih =>
      rw [List.flatMap_cons, ← List.append_assoc]
      exact .bind (hact needs n a) fun _ => ih (needs ++ needsOf a) (n + 1)

end Definitions

end Script

end Clearance
