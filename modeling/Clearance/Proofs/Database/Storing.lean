/-
# Storing a policy

A policy that is stored leaves a row for each of its conditions, in their order and behind all rows
that were there. Each row names a definition that has the name of the condition's attribute, so what
is read back under the identifier of the policy are the stored forms of its rules and targets.
-/

import Clearance.Proofs.Database.Soundness
import Clearance.Proofs.Policy.Stored
import Mathlib.Data.List.Forall2

namespace Clearance

/-! ## What a script adds -/

namespace Session

/-- From one session to another nothing is lost, and these rows are added. -/
structure Adds (s s' : Session) (rules : List (Option RuleRow))
    (targets : List (Option TargetRow)) : Prop where
  definitions : s.tables.definitions ⊆ s'.tables.definitions
  rules : s'.allRules = s.allRules ++ rules
  targets : s'.allTargets = s.allTargets ++ targets

/-- An identifier is that of a definition of a name. -/
def Names (s : Session) (definition : String) (name : Option String) : Prop :=
  ∃ d ∈ s.tables.definitions, d.id = definition ∧ some d.name = name

/-- An identifier is that of a definition of a name in a category. -/
def Files (s : Session) (definition : String) (name : Option String) (category : Category) : Prop :=
  ∃ d ∈ s.tables.definitions, d.id = definition ∧ some d.name = name ∧ d.category = category

variable {s s' s'' : Session} {rules rules' : List (Option RuleRow)}
  {targets targets' : List (Option TargetRow)} {policy definition : String} {position : Nat}
  {name : Option String} {category : Category}

theorem Adds.refl (s : Session) : Adds s s [] [] :=
  ⟨List.Subset.refl _, (List.append_nil _).symm, (List.append_nil _).symm⟩

theorem Adds.trans (h : Adds s s' rules targets) (h' : Adds s' s'' rules' targets') :
    Adds s s'' (rules ++ rules') (targets ++ targets') where
  definitions := List.Subset.trans h.definitions h'.definitions
  rules := by rw [h'.rules, h.rules, List.append_assoc]
  targets := by rw [h'.targets, h.targets, List.append_assoc]

theorem Names.mono (hnames : s.Names definition name) (h : Adds s s' rules targets) :
    s'.Names definition name := by
  obtain ⟨d, hd, hid, hname⟩ := hnames
  exact ⟨d, h.definitions hd, hid, hname⟩

theorem Files.mono (hfiles : s.Files definition name category) (h : Adds s s' rules targets) :
    s'.Files definition name category := by
  obtain ⟨d, hd, hid, hname, hcategory⟩ := hfiles
  exact ⟨d, h.definitions hd, hid, hname, hcategory⟩

theorem Files.names (h : s.Files definition name category) : s.Names definition name := by
  obtain ⟨d, hd, hid, hname, -⟩ := h
  exact ⟨d, hd, hid, hname⟩

/-- The row of a rule names a definition of its attribute's name, and holds the string form of its
value, so there is one. Without an operator it cannot be written. -/
def TellsRule (policy : String) (s : Session) (position : Nat) (r : Rule)
    (row : Option RuleRow) : Prop :=
  ∃ definition, s.Names definition r.stored.reference ∧ r.value.HasString ∧
    row = r.operator.map fun operator =>
      ⟨policy, definition, operator, r.value.string, r.connective, r.group, position⟩

/-- The row of a target names a definition of its attribute's name, in the category of its type. -/
def TellsTarget (policy : String) (s : Session) (position : Nat) (t : Target)
    (row : Option TargetRow) : Prop :=
  ∃ definition type category, s.Files definition t.name category ∧ t.type = some type ∧
    Script.targetCategory? type = some category ∧ t.value.HasString ∧
    row = t.operator.map fun operator =>
      ⟨policy, type, definition, operator, t.value.string, position⟩

theorem TellsRule.mono {r : Rule} {row : Option RuleRow} (h : s.TellsRule policy position r row)
    (hadds : s.Adds s' rules targets) : s'.TellsRule policy position r row := by
  obtain ⟨definition, hnames, hrow⟩ := h
  exact ⟨definition, hnames.mono hadds, hrow⟩

theorem TellsTarget.mono {t : Target} {row : Option TargetRow}
    (h : s.TellsTarget policy position t row) (hadds : s.Adds s' rules targets) :
    s'.TellsTarget policy position t row := by
  obtain ⟨definition, type, category, hfiles, hrow⟩ := h
  exact ⟨definition, type, category, hfiles.mono hadds, hrow⟩

end Session

namespace Script

variable {s s' : Session} {id : String}

theorem adds_of_flush (h : execute flush s = (.ok (), s')) :
    s.Adds s' [] [] ∧ s'.rules = [] ∧ s'.targets = [] := by
  rcases flush_cases s with
    ⟨rules, targets, hrules, htargets, hflush⟩ | ⟨abort, hflush | ⟨rules, hrules, hflush⟩⟩
  · rw [hflush] at h
    cases h
    refine ⟨⟨List.Subset.refl _, ?_, ?_⟩, rfl, rfl⟩
    · rw [Session.allRules_written hrules, List.append_nil]
    · rw [Session.allTargets_written htargets, List.append_nil]
  · rw [hflush] at h
    cases h
  · rw [hflush] at h
    cases h

theorem adds_of_define {name : Option String} {category : Category} {type : String}
    {description validValues : Option String}
    (h : execute (define name category type description validValues) s = (.ok id, s')) :
    s.Adds s' [] [] ∧ s'.Files id name category := by
  cases name with
  | none => cases h
  | some name =>
      by_cases htaken : (s.tables.definition? name category).isSome = true
      · rw [execute_define_of_taken htaken] at h
        cases h
      · rw [execute_define_of_free htaken] at h
        obtain ⟨⟨⟩, s₁, hflush, hpure⟩ := execute_bind_eq_ok.mp h
        cases hpure
        obtain ⟨hadds, -, -⟩ := adds_of_flush hflush
        refine ⟨⟨fun d hd => hadds.definitions (List.mem_append_left _ hd), hadds.rules,
          hadds.targets⟩, ?_⟩
        refine Session.Files.mono ?_ hadds
        exact ⟨_, List.mem_append_right _ List.mem_cons_self, rfl, rfl, rfl⟩

theorem adds_of_definition {name : Option String} {category : Category}
    (h : execute (definition name category) s = (.ok id, s')) :
    s.Adds s' [] [] ∧ s'.Files id name category := by
  obtain ⟨t, s₁, htables, h⟩ := execute_bind_eq_ok.mp h
  cases htables
  cases hfound : name.bind fun n => s.tables.definition? n category with
  | none =>
      simp only [hfound] at h
      exact adds_of_define h
  | some d =>
      simp only [hfound] at h
      cases h
      obtain ⟨n, rfl, hd⟩ := Option.bind_eq_some_iff.mp hfound
      have hboth := List.find?_some hd
      obtain ⟨hname, hcategory⟩ := Bool.and_eq_true_iff.mp hboth
      refine ⟨.refl s, d, List.mem_of_find?_eq_some hd, rfl, ?_, beq_iff_eq.mp hcategory⟩
      rw [beq_iff_eq.mp hname]

theorem adds_of_ruleDefinition {reference : Option String}
    (h : execute (ruleDefinition reference) s = (.ok id, s')) :
    s.Adds s' [] [] ∧ s'.Names id (reference.map fun r => (Reference.ofString r).name) := by
  cases reference with
  | none => cases h
  | some reference =>
      simp only [ruleDefinition] at h
      rw [Option.map_some]
      cases hreference : Reference.ofString reference with
      | qualified category name =>
          simp only [hreference] at h
          obtain ⟨hadds, hfiles⟩ := adds_of_definition h
          exact ⟨hadds, hfiles.names⟩
      | bare name =>
          simp only [hreference] at h
          obtain ⟨t, s₁, htables, h⟩ := execute_bind_eq_ok.mp h
          cases htables
          cases hfound : s.tables.definitionNamed? name with
          | none =>
              simp only [hfound] at h
              obtain ⟨hadds, hfiles⟩ := adds_of_definition h
              exact ⟨hadds, hfiles.names⟩
          | some d =>
              simp only [hfound] at h
              cases h
              have hname := List.find?_some hfound
              refine ⟨.refl s, d, List.mem_of_find?_eq_some hfound, rfl, ?_⟩
              rw [beq_iff_eq.mp hname, Reference.name]

theorem adds_of_addRule {policy : String} {position : Nat} {r : Rule}
    (h : execute (addRule policy position r) s = (.ok (), s')) :
    ∃ row, s.Adds s' [row] [] ∧ s'.TellsRule policy position r row := by
  obtain ⟨definition, s₁, hdefinition, h⟩ := execute_bind_eq_ok.mp h
  obtain ⟨value, s₂, hspelled, h⟩ := execute_bind_eq_ok.mp h
  obtain ⟨hvalue, rfl, rfl⟩ := execute_spelled_eq_ok.mp hspelled
  cases h
  obtain ⟨hadds, hnames⟩ := adds_of_ruleDefinition hdefinition
  refine ⟨_, hadds.trans ⟨List.Subset.refl _, ?_, (List.append_nil _).symm⟩, definition, hnames,
    hvalue, rfl⟩
  exact (List.append_assoc _ _ _).symm

theorem execute_targetCategory_eq_ok {type : Option String} {found : String × Category}
    (h : execute (targetCategory type) s = (.ok found, s')) :
    type = some found.1 ∧ targetCategory? found.1 = some found.2 ∧ s = s' := by
  cases type with
  | none => cases h
  | some type =>
      simp only [targetCategory] at h
      cases hcategory : targetCategory? type with
      | none =>
          simp only [hcategory] at h
          cases h
      | some category =>
          simp only [hcategory] at h
          cases h
          exact ⟨rfl, hcategory, rfl⟩

theorem adds_of_addTarget {policy : String} {position : Nat} {t : Target}
    (h : execute (addTarget policy position t) s = (.ok (), s')) :
    ∃ row, s.Adds s' [] [row] ∧ s'.TellsTarget policy position t row := by
  obtain ⟨⟨type, category⟩, s₁, htype, h⟩ := execute_bind_eq_ok.mp h
  obtain ⟨hgiven, hcategory, rfl⟩ := execute_targetCategory_eq_ok htype
  obtain ⟨definition, s₂, hdefinition, h⟩ := execute_bind_eq_ok.mp h
  obtain ⟨value, s₃, hspelled, h⟩ := execute_bind_eq_ok.mp h
  obtain ⟨hvalue, rfl, rfl⟩ := execute_spelled_eq_ok.mp hspelled
  cases h
  obtain ⟨hadds, hfiles⟩ := adds_of_definition hdefinition
  refine ⟨_, hadds.trans ⟨List.Subset.refl _, (List.append_nil _).symm, ?_⟩, definition, type,
    category, hfiles, hgiven, hcategory, hvalue, rfl⟩
  exact (List.append_assoc _ _ _).symm

/-- If each step adds one row, the steps for a list of members add a row for each, in order. A row
goes on telling of its member, whatever is added later. -/
theorem added_of_eachFrom {α ρ : Type} {act : Nat → α → Script Unit}
    (added : Session → Session → List ρ → Prop) {tells : Session → Nat → α → ρ → Prop}
    (hnil : ∀ s, added s s [])
    (happend : ∀ {s s' s'' rows rows'}, added s s' rows → added s' s'' rows' →
      added s s'' (rows ++ rows'))
    (hkept : ∀ {s s' rows n a row}, added s s' rows → tells s n a row → tells s' n a row)
    (hact : ∀ {s s' n a}, execute (act n a) s = (.ok (), s') →
      ∃ row, added s s' [row] ∧ tells s' n a row)
    {n : Nat} {members : List α} (h : execute (eachFrom act n members) s = (.ok (), s')) :
    ∃ rows, added s s' rows ∧
      List.Forall₂ (fun member row => tells s' member.2 member.1 row) (members.zipIdx n) rows := by
  induction members generalizing n s with
  | nil =>
      cases h
      exact ⟨[], hnil _, .nil⟩
  | cons a rest ih =>
      obtain ⟨⟨⟩, s₁, hfirst, hrest⟩ := execute_bind_eq_ok.mp h
      obtain ⟨row, hrow, htells⟩ := hact hfirst
      obtain ⟨rows, hrows, hall⟩ := ih hrest
      exact ⟨row :: rows, happend hrow hrows, .cons (hkept hrows htells) hall⟩

end Script

/-! ## What is read back -/

theorem map_eq_map_of_forall₂ {α β γ : Type} {f : α → γ} {g : β → γ} {as : List α} {bs : List β}
    (h : List.Forall₂ (fun a b => g b = f a) as bs) : bs.map g = as.map f := by
  have hmaps : List.Forall₂ Eq (bs.map g) (as.map f) := by
    rw [List.forall₂_map_left_iff, List.forall₂_map_right_iff]
    exact h.flip
  rwa [List.forall₂_eq_eq_eq] at hmaps

theorem forall_mem_of_forall₂ {α β : Type} {P : β → Prop} {as : List α} {bs : List β}
    (h : List.Forall₂ (fun _ b => P b) as bs) : ∀ b ∈ bs, P b := by
  induction h with
  | nil => exact nofun
  | cons hb _ ih => exact List.forall_mem_cons.mpr ⟨hb, ih⟩

/-- What holds of each member of a list that has a row holds of all, if each has a row. -/
theorem forall_mem_of_zipIdx {α ρ : Type} {P : α → Prop} {members : List α} {rows : List ρ}
    (h : List.Forall₂ (fun member _ => P member.1) members.zipIdx rows) : ∀ a ∈ members, P a := by
  have hall := forall_mem_of_forall₂ h.flip
  intro a ha
  rw [← List.zipIdx_map_fst 0 members] at ha
  obtain ⟨member, hmember, rfl⟩ := List.mem_map.mp ha
  exact hall member hmember

/-- Rows that were added one for each member of a list, for one policy, have the places of the
members. -/
theorem placed_of_forall₂ {α ρ : Type} {policy : ρ → String} {position : ρ → Nat} {own : String}
    {members : List α} {rows : List ρ}
    (h : List.Forall₂ (fun member row => policy row = own ∧ position row = member.2)
      members.zipIdx rows) :
    (∀ row ∈ rows, policy row = own) ∧ rows.map position = List.range rows.length := by
  refine ⟨forall_mem_of_forall₂ (h.imp fun _ _ h => h.1), ?_⟩
  have hpositions : rows.map position = members.zipIdx.map (·.2) :=
    map_eq_map_of_forall₂ (h.imp fun _ _ h => h.2)
  rw [hpositions, List.zipIdx_map_snd, ← h.length_eq, List.length_zipIdx, List.range_eq_range']

/-- Rows of one policy that stand behind the rows of others, in the order of their places, are read
back in that order. -/
theorem readBack {α β ρ : Type} {policy : ρ → String} {position : ρ → Nat} {told : ρ → Option β}
    {form : α → β} {own : String} {members : List α} {old rows : List ρ}
    (hold : ∀ row ∈ old, policy row ≠ own)
    (hrows : List.Forall₂ (fun member row => policy row = own ∧ position row = member.2 ∧
      told row = some (form member.1)) members.zipIdx rows) :
    (((old ++ rows).filter fun row => policy row == own).mergeSort fun a b =>
      position a ≤ position b).filterMap told = members.map form := by
  obtain ⟨hpolicy, hpositions⟩ := placed_of_forall₂ (hrows.imp fun _ _ h => ⟨h.1, h.2.1⟩)
  have hfilter : (old ++ rows).filter (fun row => policy row == own) = rows := by
    rw [List.filter_append, List.filter_eq_nil_iff.mpr fun row hrow => by simpa using hold row hrow,
      List.filter_eq_self.mpr fun row hrow => by simpa using hpolicy row hrow, List.nil_append]
  have hsorted : rows.Pairwise fun a b => decide (position a ≤ position b) = true := by
    have hrange : (rows.map position).Pairwise (· ≤ ·) := hpositions ▸ List.pairwise_le_range
    exact (List.pairwise_map.mp hrange).imp decide_eq_true
  have htold : rows.map told = (members.map form).map some := by
    have hforms : rows.map told = members.zipIdx.map ((some ∘ form) ∘ Prod.fst) :=
      map_eq_map_of_forall₂ (hrows.imp fun _ _ h => h.2.2)
    rw [hforms, ← List.map_map, List.zipIdx_map_fst, List.map_map]
  calc
    _ = rows.filterMap told := by rw [hfilter, List.mergeSort_of_pairwise hsorted]
    _ = (rows.map told).filterMap id := (List.filterMap_map (g := id)).symm
    _ = members.map form := by
      rw [htold, List.filterMap_map]
      exact List.filterMap_some

namespace Session

variable {s : Session} {drawn position : Nat} {policy : String}

theorem TellsRule.told (hs : s.tables.IsSound drawn) {r : Rule} {row : RuleRow}
    (h : s.TellsRule policy position r (some row)) :
    row.policy = policy ∧ row.position = position ∧
      ((s.tables.definitionOf? row.definition).map fun d => ({
        reference := some d.name
        operator := some row.operator
        value := .text row.value
        connective := row.connective
        group := row.group } : Rule)) = some r.stored := by
  obtain ⟨definition, ⟨d, hd, rfl, hname⟩, -, hrow⟩ := h
  obtain ⟨operator, hoperator, rfl⟩ := Option.map_eq_some_iff.mp hrow.symm
  refine ⟨rfl, rfl, ?_⟩
  rw [hs.definitionOf?_of_mem hd, Option.map_some, hname]
  simp only [Rule.stored, hoperator]

theorem TellsTarget.told (hs : s.tables.IsSound drawn) {t : Target} {row : TargetRow}
    (h : s.TellsTarget policy position t (some row)) :
    row.policy = policy ∧ row.position = position ∧
      ((s.tables.definitionOf? row.definition).map fun d => ({
        type := some row.type
        name := some d.name
        operator := some row.operator
        value := .text row.value } : Target)) = some t.stored := by
  obtain ⟨definition, type, category, ⟨d, hd, rfl, hname, -⟩, htype, -, -, hrow⟩ := h
  obtain ⟨operator, hoperator, rfl⟩ := Option.map_eq_some_iff.mp hrow.symm
  refine ⟨rfl, rfl, ?_⟩
  rw [hs.definitionOf?_of_mem hd, Option.map_some, hname]
  simp only [Target.stored, hoperator, htype]

end Session

/-- If all rows can be written, the added ones stand behind the old ones. -/
theorem eq_append_of_map_some {ρ : Type} {old new : List ρ} {added : List (Option ρ)}
    (h : new.map some = old.map some ++ added) :
    ∃ rows, new = old ++ rows ∧ added = rows.map some := by
  obtain ⟨old', rows, rfl, hold, hadded⟩ := List.map_eq_append_iff.mp h
  rw [List.map_injective_iff.mpr (fun _ _ => Option.some.inj) hold]
  exact ⟨rows, rfl, hadded.symm⟩

/-! ## Storing -/

open Script

namespace Database

variable {s s' : Session} {draft : PolicyDraft} {effect : Effect} {id : String}

/-- A policy that is stored has the next identifier, and adds a row for each of its conditions. -/
theorem adds_of_storePolicy (h : execute (storePolicy draft effect) s = (.ok id, s')) :
    id = Drawn.identifier s.drawn ∧ ∃ rules targets, s.Adds s' rules targets ∧
      List.Forall₂ (fun r row => s'.TellsRule id r.2 r.1 row) draft.rules.zipIdx rules ∧
      List.Forall₂ (fun t row => s'.TellsTarget id t.2 t.1 row) draft.targets.zipIdx targets := by
  obtain ⟨_, s₁, hdraw, h⟩ := execute_bind_eq_ok.mp h
  cases hdraw
  obtain ⟨priority, s₂, hfitting, h⟩ := execute_bind_eq_ok.mp h
  obtain ⟨-, rfl⟩ := execute_fitting_eq_ok hfitting
  obtain ⟨name, s₃, hname, h⟩ := execute_bind_eq_ok.mp h
  obtain ⟨-, rfl⟩ := execute_notNull_eq_ok.mp hname
  obtain ⟨⟨⟩, s₄, hchange, h⟩ := execute_bind_eq_ok.mp h
  cases hchange
  obtain ⟨⟨⟩, s₅, hrules, h⟩ := execute_bind_eq_ok.mp h
  obtain ⟨⟨⟩, s₆, htargets, h⟩ := execute_bind_eq_ok.mp h
  cases h
  refine ⟨rfl, ?_⟩
  obtain ⟨rules, haddsRules, htellRules⟩ := added_of_eachFrom (fun s s' rows => s.Adds s' rows [])
    Session.Adds.refl Session.Adds.trans (fun hadds htells => htells.mono hadds)
    adds_of_addRule hrules
  obtain ⟨targets, haddsTargets, htellTargets⟩ := added_of_eachFrom
    (fun s s' rows => s.Adds s' [] rows) Session.Adds.refl Session.Adds.trans
    (fun hadds htells => htells.mono hadds) adds_of_addTarget htargets
  have hbegin : s.Adds { s with
      drawn := s.drawn + 1
      tables := { s.tables with policies := s.tables.policies ++ [⟨Drawn.identifier s.drawn, name,
        effect, priority, draft.isActive, draft.setId, draft.description⟩] } } [] [] :=
    ⟨List.Subset.refl _, (List.append_nil _).symm, (List.append_nil _).symm⟩
  have hadds := (hbegin.trans haddsRules).trans haddsTargets
  simp only [List.nil_append, List.append_nil] at hadds
  exact ⟨rules, targets, hadds, htellRules.imp fun _ _ htells => htells.mono haddsTargets,
    htellTargets⟩

/-- What is committed of a policy that was stored: its rows stand behind those that were there. As no
row waits any longer, each has an operator. -/
theorem rows_of_storePolicy {t : Tables} {drawn : Nat}
    (h : execute (do let a ← storePolicy draft effect; flush; return a)
      { tables := t, drawn := drawn } = (.ok id, s')) :
    id = Drawn.identifier drawn ∧ ∃ rules targets,
      s'.tables.rules = t.rules ++ rules ∧ s'.tables.targets = t.targets ++ targets ∧
      List.Forall₂ (fun r row => s'.TellsRule id r.2 r.1 (some row)) draft.rules.zipIdx rules ∧
      List.Forall₂ (fun t row => s'.TellsTarget id t.2 t.1 (some row)) draft.targets.zipIdx
        targets := by
  obtain ⟨a, s, hstore, hrest⟩ := execute_bind_eq_ok.mp h
  obtain ⟨⟨⟩, s₁, hflush, hpure⟩ := execute_bind_eq_ok.mp hrest
  cases hpure
  obtain ⟨rfl, rules, targets, hadds, hrules, htargets⟩ := adds_of_storePolicy hstore
  obtain ⟨hwritten, hnoRules, hnoTargets⟩ := adds_of_flush hflush
  have hboth := hadds.trans hwritten
  have hallRules : s'.tables.rules.map some = t.rules.map some ++ rules := by
    simpa [Session.allRules, hnoRules] using hboth.rules
  have hallTargets : s'.tables.targets.map some = t.targets.map some ++ targets := by
    simpa [Session.allTargets, hnoTargets] using hboth.targets
  obtain ⟨rows, hrows, rfl⟩ := eq_append_of_map_some hallRules
  obtain ⟨rows', hrows', rfl⟩ := eq_append_of_map_some hallTargets
  exact ⟨rfl, rows, rows', hrows, hrows',
    (List.forall₂_map_right_iff.mp hrules).imp fun _ _ htells => htells.mono hwritten,
    (List.forall₂_map_right_iff.mp htargets).imp fun _ _ htells => htells.mono hwritten⟩

/-- The values of a policy that was stored have string forms. -/
theorem hasString_of_storePolicy {t : Tables} {drawn : Nat}
    (h : execute (do let a ← storePolicy draft effect; flush; return a)
      { tables := t, drawn := drawn } = (.ok id, s')) :
    (∀ r ∈ draft.rules, r.value.HasString) ∧ ∀ t ∈ draft.targets, t.value.HasString := by
  obtain ⟨-, rules, targets, -, -, htellRules, htellTargets⟩ := rows_of_storePolicy h
  constructor
  · refine forall_mem_of_zipIdx (htellRules.imp fun _ _ htells => ?_)
    obtain ⟨definition, -, hvalue, -⟩ := htells
    exact hvalue
  · refine forall_mem_of_zipIdx (htellTargets.imp fun _ _ htells => ?_)
    obtain ⟨definition, type, category, -, -, -, hvalue, -⟩ := htells
    exact hvalue

/-- What is read back of a policy that was stored are the stored forms of its conditions. -/
theorem readBack_storePolicy {t : Tables} {drawn : Nat} (ht : t.IsSound drawn)
    (h : execute (do let a ← storePolicy draft effect; flush; return a)
      { tables := t, drawn := drawn } = (.ok id, s')) :
    s'.tables.rulesOf id = draft.rules.map Rule.stored ∧
      s'.tables.targetsOf id = draft.targets.map Target.stored := by
  have hsound := isSound_run ht (keeps_storePolicy draft effect)
  rw [run_eq, h] at hsound
  obtain ⟨rfl, rules, targets, hrules, htargets, htellRules, htellTargets⟩ := rows_of_storePolicy h
  constructor
  · rw [Tables.rulesOf, hrules]
    exact readBack (fun row hrow => ht.rules row hrow drawn (Nat.le_refl _))
      (htellRules.imp fun _ _ htells => htells.told hsound)
  · rw [Tables.targetsOf, htargets]
    exact readBack (fun row hrow => ht.targets row hrow drawn (Nat.le_refl _))
      (htellTargets.imp fun _ _ htells => htells.told hsound)

/-- A policy is made where there are tables: it is stored, and the rows that wait are written. -/
theorem exists_execute_of_createPolicy {db : Database} (h : (db.createPolicy draft).1 = .ok id) :
    ∃ t effect s, db.tables? = some t ∧ PolicyDraft.effect? draft = .ok effect ∧
      execute (do let a ← storePolicy draft effect; flush; return a)
        { tables := t, drawn := db.drawn } = (.ok id, s) ∧
      (db.createPolicy draft).2.2.tables? = some s.tables := by
  simp only [createPolicy] at h ⊢
  cases heffect : PolicyDraft.effect? draft with
  | error fault =>
      simp only [heffect] at h
      cases h
  | ok effect =>
      simp only [heffect, changePolicies] at h ⊢
      cases ht : db.tables? with
      | none =>
          obtain ⟨⟨fault, hfault⟩, -⟩ := transact_of_tables?_eq_none ht "create_policy"
            (fun message => .policyStore message none) (Statement.noSuchTable "policies")
            (storePolicy draft effect)
          rw [hfault] at h
          cases h
      | some t =>
          obtain ⟨s, hexecute, htables, -⟩ := exists_execute_of_transact ht h
          exact ⟨t, effect, s, rfl, rfl, hexecute, htables⟩

end Database

end Clearance
