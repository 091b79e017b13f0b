/-
# What tables hold

Filling tables adds rows and takes none away. A new subject, resource or action has no values yet,
since the values that are there name rows by identifiers that were drawn before. A value that is
assigned comes after all others of its holder. What is defined for it has the name that was asked for,
whether it was there or is made.
-/

import Clearance.Proofs.Attribute.Holdings
import Clearance.Proofs.Database.Soundness

namespace Clearance

namespace Tables

variable {t t' : Tables} {drawn drawn' : Nat}

/-- An identifier is that of a definition of a name in a category. It was there, or it is the only thing
that is added to the tables. -/
structure Defines (t : Tables) (drawn : Nat) (name : String) (category : Category) (id : String)
    (t' : Tables) (drawn' : Nat) : Prop where
  sound : t'.IsSound drawn'
  drawn_le : drawn ≤ drawn'
  rest : t' = { t with definitions := t'.definitions }
  subset : t.definitions ⊆ t'.definitions
  mem : ∃ a ∈ t'.definitions, a.id = id ∧ a.name = name

end Tables

/-! ## Scripts without rows that wait -/

namespace Script

variable {t t' : Tables} {drawn drawn' : Nat}

theorem execute_flush_of_settled (t : Tables) (drawn : Nat) :
    execute flush { tables := t, drawn := drawn } = (.ok (), { tables := t, drawn := drawn }) := by
  have hflush : execute flush { tables := t, drawn := drawn } =
      (.ok (), { tables := { t with rules := t.rules ++ [], targets := t.targets ++ [] }
                 drawn := drawn }) := rfl
  rw [hflush, List.append_nil, List.append_nil]

/-- A name has a definition in its category, or gets one. -/
theorem execute_definition (ht : t.IsSound drawn) (name : String) (category : Category) :
    ∃ id t' drawn', execute (definition (some name) category) { tables := t, drawn := drawn } =
        (.ok id, { tables := t', drawn := drawn' }) ∧
      t.Defines drawn name category id t' drawn' := by
  simp only [definition, execute_bind, execute_tables, Option.bind_some]
  cases hfound : t.definition? name category with
  | some a =>
      have hnamed := List.find?_some
        (p := fun a : AttributeDefinition => a.name == name && a.category == category) hfound
      rw [Bool.and_eq_true_iff] at hnamed
      exact ⟨a.id, t, drawn, rfl, ht, Nat.le_refl _, rfl, List.Subset.refl _, a,
        List.mem_of_find?_eq_some hfound, rfl, beq_iff_eq.mp hnamed.1⟩
  | none =>
      have hfree : ¬(t.definition? name category).isSome = true := by simp [hfound]
      dsimp only
      rw [execute_define_of_free hfree, execute_bind]
      dsimp only
      rw [execute_flush_of_settled]
      have hsound := (Session.IsSound.begin ht).define name "string" category none none
      exact ⟨_, _, _, rfl, hsound.tables, Nat.le_succ _, rfl, List.subset_append_left _ _, _,
        List.mem_append_right _ List.mem_cons_self, rfl, rfl⟩

end Script

namespace Database

variable {db : Database} {t : Tables} {α : Type}

/-- A transaction that succeeds leaves the tables as its script does, if no row waits in the end. -/
theorem transact_eq_ok (ht : db.tables? = some t) {operation missing : String}
    {frame : String → Failure} {script : Script α} {a : α}
    (h : (db.transact operation frame missing script).1 = .ok a) :
    ∃ s, script.execute { tables := t, drawn := db.drawn } = (.ok a, s) ∧
      ∀ t' drawn', s = { tables := t', drawn := drawn' } →
        (db.transact operation frame missing script).2.2.tables? = some t' ∧
        (db.transact operation frame missing script).2.2.drawn = drawn' := by
  obtain ⟨s', hwhole, htables, hdrawn⟩ := exists_execute_of_transact ht h
  obtain ⟨b, s, hscript, hrest⟩ := Script.execute_bind_eq_ok.mp hwhole
  obtain ⟨⟨⟩, s₁, hflush, hpure⟩ := Script.execute_bind_eq_ok.mp hrest
  cases hpure
  refine ⟨s, hscript, ?_⟩
  rintro t' drawn' rfl
  rw [Script.execute_flush_of_settled] at hflush
  cases hflush
  exact ⟨htables, hdrawn⟩

end Database

/-! ## Holders in tables -/

namespace Tables

variable {t t' : Tables} {drawn drawn' : Nat} {x y : Holder}

/-- The values of the holders of a kind. -/
def rowsOf (t : Tables) : HolderKind → List ValueRow
  | .subject => t.userValues
  | .role => t.roleValues
  | .resource => t.resourceValues
  | .action => t.actionValues

/-- Tables with other values of the holders of a kind. -/
def withRows (t : Tables) (k : HolderKind) (rows : List ValueRow) : Tables :=
  match k with
  | .subject => { t with userValues := rows }
  | .role => { t with roleValues := rows }
  | .resource => { t with resourceValues := rows }
  | .action => { t with actionValues := rows }

/-- What values name a holder by: resources and actions have rows of their own. -/
def rowId? (t : Tables) (x : Holder) : Option String :=
  match x.kind with
  | .subject => some x.id
  | .role => some x.id
  | .resource => (t.resource? x.id).map (·.id)
  | .action => (t.action? x.id).map (·.id)

/-- The attributes of a holder. -/
def attributesOf (t : Tables) (x : Holder) : List Attribute :=
  match t.rowId? x with
  | some id => t.valuesOf id (t.rowsOf x.kind)
  | none => []

/-- The role of a subject. -/
def roleOf (t : Tables) (subject : String) : Option String :=
  (t.users.find? fun u => u.id == subject).bind UserRow.role

/-- What tables keep about holders. -/
def holdings (t : Tables) : Holdings where
  roleOf := t.roleOf
  ownerOf := t.resourceOwner
  value? x n := lastValue n (t.attributesOf x)

/-- Values name definitions that are there and rows that are there; each row of a resource or an action
has an identifier of its own. -/
structure IsTidy (t : Tables) (drawn : Nat) : Prop where
  sound : t.IsSound drawn
  defined : ∀ k, ∀ row ∈ t.rowsOf k, ∃ a ∈ t.definitions, a.id = row.definition
  resources : (t.resources.map (·.id)).Nodup
  resourceIds : ∀ row ∈ t.resources, Drawn.IsSpent drawn row.id
  resourceValues : ∀ row ∈ t.resourceValues, Drawn.IsSpent drawn row.holder
  actions : (t.actions.map (·.id)).Nodup
  actionIds : ∀ row ∈ t.actions, Drawn.IsSpent drawn row.id
  actionValues : ∀ row ∈ t.actionValues, Drawn.IsSpent drawn row.holder

theorem IsTidy.empty (drawn : Nat) : ({} : Tables).IsTidy drawn where
  sound := .empty drawn
  defined := by
    intro k row hrow
    cases k <;> cases hrow
  resources := List.nodup_nil
  resourceIds := nofun
  resourceValues := nofun
  actions := List.nodup_nil
  actionIds := nofun
  actionValues := nofun

/-! ### Values -/

theorem rowsOf_withRows (t : Tables) (k k' : HolderKind) (rows : List ValueRow) :
    (t.withRows k rows).rowsOf k' = if k = k' then rows else t.rowsOf k' := by
  cases k <;> cases k' <;> rfl

/-- Other values of holders leave all other tables alone. -/
theorem withRows_eq (t : Tables) (k : HolderKind) (rows : List ValueRow) :
    t.withRows k rows = { t with
      userValues := (t.withRows k rows).rowsOf .subject
      roleValues := (t.withRows k rows).rowsOf .role
      resourceValues := (t.withRows k rows).rowsOf .resource
      actionValues := (t.withRows k rows).rowsOf .action } := by
  cases k <;> rfl

theorem definitions_withRows (t : Tables) (k : HolderKind) (rows : List ValueRow) :
    (t.withRows k rows).definitions = t.definitions := by
  rw [withRows_eq]

theorem rowId?_withRows (t : Tables) (k : HolderKind) (rows : List ValueRow) (x : Holder) :
    (t.withRows k rows).rowId? x = t.rowId? x := by
  obtain ⟨kind, id⟩ := x
  cases k <;> cases kind <;> rfl

/-- Values keep their meaning when definitions are added. -/
theorem valuesOf_eq (ht : t.IsSound drawn) (ht' : t'.IsSound drawn')
    (hsub : t.definitions ⊆ t'.definitions) {rows : List ValueRow}
    (hrows : ∀ row ∈ rows, ∃ a ∈ t.definitions, a.id = row.definition) (holder : String) :
    t'.valuesOf holder rows = t.valuesOf holder rows := by
  refine List.filterMap_congr fun row hrow => ?_
  obtain ⟨a, ha, hid⟩ := hrows row (List.mem_filter.mp hrow).1
  rw [← hid, ht.definitionOf?_of_mem ha, ht'.definitionOf?_of_mem (hsub ha)]

/-- A value that is added is the last one of its holder. -/
theorem valuesOf_concat (ht : t.IsSound drawn) {a : AttributeDefinition} (ha : a ∈ t.definitions)
    (rows : List ValueRow) (holder other value : String) :
    t.valuesOf holder (rows ++ [⟨other, a.id, value⟩]) =
      t.valuesOf holder rows ++ if other = holder then [a.withValue value] else [] := by
  rw [valuesOf, List.filter_append, List.filterMap_append]
  congr 1
  by_cases hholder : other = holder
  · simp [hholder, ht.definitionOf?_of_mem ha]
  · simp [hholder]

/-- Holders of one kind are told apart by their rows. -/
theorem IsTidy.eq_of_rowId? (ht : t.IsTidy drawn) (hkind : x.kind = y.kind) {id : String}
    (hx : t.rowId? x = some id) (hy : t.rowId? y = some id) : x = y := by
  obtain ⟨kind, name⟩ := x
  obtain ⟨kind', name'⟩ := y
  obtain rfl : kind = kind' := hkind
  cases kind with
  | subject => exact congrArg (Holder.mk .subject) (Option.some.inj (hx.trans hy.symm))
  | role => exact congrArg (Holder.mk .role) (Option.some.inj (hx.trans hy.symm))
  | resource =>
      obtain ⟨row, hrow, hid⟩ := Option.map_eq_some_iff.mp hx
      obtain ⟨row', hrow', hid'⟩ := Option.map_eq_some_iff.mp hy
      obtain rfl := List.inj_on_of_nodup_map ht.resources (List.mem_of_find?_eq_some hrow)
        (List.mem_of_find?_eq_some hrow') (hid.trans hid'.symm)
      have hname : row.resource = name := by simpa using List.find?_some hrow
      have hname' : row.resource = name' := by simpa using List.find?_some hrow'
      rw [← hname, hname']
  | action =>
      obtain ⟨row, hrow, hid⟩ := Option.map_eq_some_iff.mp hx
      obtain ⟨row', hrow', hid'⟩ := Option.map_eq_some_iff.mp hy
      obtain rfl := List.inj_on_of_nodup_map ht.actions (List.mem_of_find?_eq_some hrow)
        (List.mem_of_find?_eq_some hrow') (hid.trans hid'.symm)
      have hname : row.name = name := by simpa using List.find?_some hrow
      have hname' : row.name = name' := by simpa using List.find?_some hrow'
      rw [← hname, hname']

/-- Tables are filled with something: they keep this, and stay tidy. -/
structure Fills (t : Tables) (drawn : Nat) (h : Holdings) (environment : List EnvironmentRow)
    (t' : Tables) (drawn' : Nat) : Prop where
  tidy : t'.IsTidy drawn'
  drawn_le : drawn ≤ drawn'
  subset : t.definitions ⊆ t'.definitions
  environment : t'.environment = environment
  holdings : t'.holdings = h

theorem Fills.trans {t₁ t₂ : Tables} {drawn₁ drawn₂ : Nat} {h h' : Holdings}
    {environment environment' : List EnvironmentRow}
    (hfirst : t.Fills drawn h environment t₁ drawn₁)
    (hnext : t₁.Fills drawn₁ h' environment' t₂ drawn₂) :
    t.Fills drawn h' environment' t₂ drawn₂ :=
  ⟨hnext.tidy, Nat.le_trans hfirst.drawn_le hnext.drawn_le,
    List.Subset.trans hfirst.subset hnext.subset, hnext.environment, hnext.holdings⟩

theorem IsTidy.mono (ht : t.IsTidy drawn) (hle : drawn ≤ drawn') : t.IsTidy drawn' where
  sound := ht.sound.mono hle
  defined := ht.defined
  resources := ht.resources
  resourceIds r hr := (ht.resourceIds r hr).mono hle
  resourceValues r hr := (ht.resourceValues r hr).mono hle
  actions := ht.actions
  actionIds r hr := (ht.actionIds r hr).mono hle
  actionValues r hr := (ht.actionValues r hr).mono hle

/-- What a resource or an action has a row by is not drawn any more. -/
theorem IsTidy.isSpent_of_rowId? (ht : t.IsTidy drawn) {id : String} (h : t.rowId? x = some id)
    (hkind : x.kind = .resource ∨ x.kind = .action) : Drawn.IsSpent drawn id := by
  obtain ⟨kind, name⟩ := x
  rcases hkind with hkind | hkind
  · obtain rfl : kind = .resource := hkind
    obtain ⟨row, hrow, rfl⟩ := Option.map_eq_some_iff.mp h
    exact ht.resourceIds row (List.mem_of_find?_eq_some hrow)
  · obtain rfl : kind = .action := hkind
    obtain ⟨row, hrow, rfl⟩ := Option.map_eq_some_iff.mp h
    exact ht.actionIds row (List.mem_of_find?_eq_some hrow)

section Row

variable {name : String} {category : Category} {id row : String}

theorem Defines.rowsOf_eq (h : t.Defines drawn name category id t' drawn') (k : HolderKind) :
    t'.rowsOf k = t.rowsOf k := by
  rw [h.rest]
  cases k <;> rfl

theorem Defines.rowId?_eq (h : t.Defines drawn name category id t' drawn') (x : Holder) :
    t'.rowId? x = t.rowId? x := by
  obtain ⟨kind, n⟩ := x
  rw [h.rest]
  cases kind <;> rfl

/-- A definition and a row of the environment change nothing about holders. -/
theorem IsTidy.fills_environment (ht : t.IsTidy drawn)
    (h : t.Defines drawn name category id t' drawn') (rows : List EnvironmentRow) :
    t.Fills drawn t.holdings rows { t' with environment := rows } drawn' := by
  generalize hmade : ({ t' with environment := rows } : Tables) = made
  have hrows : ∀ k, made.rowsOf k = t.rowsOf k := by
    intro k
    rw [← h.rowsOf_eq, ← hmade]
    cases k <;> rfl
  have hrow : ∀ x, made.rowId? x = t.rowId? x := by
    rintro ⟨kind, n⟩
    rw [← h.rowId?_eq, ← hmade]
    cases kind <;> rfl
  have hsound : made.IsSound drawn' := by
    rw [← hmade]
    exact ⟨h.sound.nodup, h.sound.definitions, h.sound.rules, h.sound.targets⟩
  have hsub : t.definitions ⊆ made.definitions := by
    rw [← hmade]
    exact h.subset
  have hresources : made.resources = t.resources := by rw [← hmade, h.rest]
  have hresourceValues : made.resourceValues = t.resourceValues := hrows .resource
  have hactions : made.actions = t.actions := by rw [← hmade, h.rest]
  have hactionValues : made.actionValues = t.actionValues := hrows .action
  have hlater := ht.mono h.drawn_le
  refine ⟨?_, h.drawn_le, hsub, hmade ▸ rfl, ?_⟩
  · refine
      { sound := hsound
        defined := ?_
        resources := hresources ▸ ht.resources
        resourceIds := hresources ▸ hlater.resourceIds
        resourceValues := hresourceValues ▸ hlater.resourceValues
        actions := hactions ▸ ht.actions
        actionIds := hactions ▸ hlater.actionIds
        actionValues := hactionValues ▸ hlater.actionValues }
    intro k row hmem
    rw [hrows] at hmem
    obtain ⟨a, ha, hid⟩ := ht.defined k row hmem
    exact ⟨a, hsub ha, hid⟩
  · apply Holdings.ext
    · rw [← hmade, h.rest]
      rfl
    · rw [← hmade, h.rest]
      rfl
    · funext x n
      refine congrArg (lastValue n) ?_
      rw [attributesOf, attributesOf, hrow, hrows]
      cases t.rowId? x with
      | none => rfl
      | some holder => exact valuesOf_eq ht.sound hsound hsub (ht.defined x.kind) holder

theorem IsTidy.of_row (ht : t.IsTidy drawn) (h : t.Defines drawn name category id t' drawn')
    (hrow : t.rowId? x = some row) (value : String) :
    (t'.withRows x.kind (t.rowsOf x.kind ++ [⟨row, id, value⟩])).IsTidy drawn' := by
  have hrows : ∀ k, (t'.withRows x.kind (t.rowsOf x.kind ++ [⟨row, id, value⟩])).rowsOf k =
      if x.kind = k then t.rowsOf k ++ [⟨row, id, value⟩] else t.rowsOf k := by
    intro k
    rw [rowsOf_withRows, h.rowsOf_eq]
    split
    case isTrue hk => rw [hk]
    case isFalse => rfl
  have hholders : ∀ k, k = .resource ∨ k = .action →
      (∀ r ∈ t.rowsOf k, Drawn.IsSpent drawn r.holder) →
      ∀ r ∈ (t'.withRows x.kind (t.rowsOf x.kind ++ [⟨row, id, value⟩])).rowsOf k,
        Drawn.IsSpent drawn' r.holder := by
    intro k hk hspent r hr
    rw [hrows] at hr
    refine Drawn.IsSpent.mono ?_ h.drawn_le
    split at hr
    case isFalse => exact hspent r hr
    case isTrue hkind =>
      rcases List.mem_append.mp hr with hold | hnew
      · exact hspent r hold
      · rw [List.mem_singleton.mp hnew]
        exact ht.isSpent_of_rowId? hrow (hkind ▸ hk)
  have hresources : t'.resources = t.resources := by rw [h.rest]
  have hactions : t'.actions = t.actions := by rw [h.rest]
  refine
    { sound := ?_
      defined := ?_
      resources := ?_
      resourceIds := ?_
      resourceValues := hholders .resource (.inl rfl) ht.resourceValues
      actions := ?_
      actionIds := ?_
      actionValues := hholders .action (.inr rfl) ht.actionValues }
  · rw [withRows_eq]
    exact ⟨h.sound.nodup, h.sound.definitions, h.sound.rules, h.sound.targets⟩
  · intro k r hr
    rw [definitions_withRows]
    rw [hrows] at hr
    have hold : ∀ r ∈ t.rowsOf k, ∃ a ∈ t'.definitions, a.id = r.definition := by
      intro r hr
      obtain ⟨a, ha, hid⟩ := ht.defined k r hr
      exact ⟨a, h.subset ha, hid⟩
    split at hr
    · rcases List.mem_append.mp hr with hr | hnew
      · exact hold r hr
      · obtain ⟨a, ha, hid, -⟩ := h.mem
        rw [List.mem_singleton.mp hnew]
        exact ⟨a, ha, hid⟩
    · exact hold r hr
  · rw [withRows_eq, hresources]
    exact ht.resources
  · rw [withRows_eq, hresources]
    exact fun r hr => (ht.resourceIds r hr).mono h.drawn_le
  · rw [withRows_eq, hactions]
    exact ht.actions
  · rw [withRows_eq, hactions]
    exact fun r hr => (ht.actionIds r hr).mono h.drawn_le

/-- A value that is written for a holder is the last one of its name, and no other holder gets it. -/
theorem IsTidy.fills_row (ht : t.IsTidy drawn) (h : t.Defines drawn name category id t' drawn')
    (hrow : t.rowId? x = some row) (value : String) :
    t.Fills drawn (t.holdings.give x name value) t.environment
      (t'.withRows x.kind (t'.rowsOf x.kind ++ [⟨row, id, value⟩])) drawn' := by
  rw [h.rowsOf_eq]
  have htidy := ht.of_row h hrow value
  have hdefinitions := definitions_withRows t' x.kind (t.rowsOf x.kind ++ [⟨row, id, value⟩])
  have hsub := h.subset
  rw [← hdefinitions] at hsub
  refine ⟨htidy, h.drawn_le, hsub, ?_, ?_⟩
  · rw [withRows_eq, h.rest]
  apply Holdings.ext
  · rw [withRows_eq, h.rest]
    rfl
  · rw [withRows_eq, h.rest]
    rfl
  · funext y n
    have hold := fun holder => valuesOf_eq ht.sound htidy.sound hsub (ht.defined y.kind) holder
    simp only [holdings, Holdings.give]
    rw [attributesOf, attributesOf, rowId?_withRows, h.rowId?_eq, rowsOf_withRows, h.rowsOf_eq]
    by_cases hkind : x.kind = y.kind
    case neg =>
      -- The values of the other kinds are those that were there.
      have hxy : x ≠ y := fun heq => hkind (congrArg Holder.kind heq)
      simp only [if_neg hkind, hold, hxy, false_and, if_false]
    cases hy : t.rowId? y with
    | none =>
        have hxy : x ≠ y := by
          rintro rfl
          rw [hrow] at hy
          cases hy
        simp only [hxy, false_and, if_false]
    | some other =>
        obtain ⟨a, ha, hid, hname⟩ := h.mem
        have hlast := valuesOf_concat htidy.sound (hdefinitions.symm ▸ ha) (t.rowsOf y.kind)
          other row value
        rw [hid, hold] at hlast
        simp only [hkind, if_true] at hlast ⊢
        rw [hlast]
        by_cases hxy : x = y
        · subst hxy
          obtain rfl : row = other := Option.some.inj (hrow.symm.trans hy)
          rw [if_pos rfl, lastValue_concat]
          simp only [true_and, ← hname]
          rfl
        · have hrows : row ≠ other := fun heq => hxy (ht.eq_of_rowId? hkind hrow (heq ▸ hy))
          simp only [if_neg hrows, List.append_nil, hxy, false_and, if_false]

end Row

/-! ### Rows of holders -/

/-- Tables with the same definitions, values and conditions as other ones; their holders may differ. -/
structure SharesValues (t' t : Tables) : Prop where
  definitions : t'.definitions = t.definitions
  rowsOf : ∀ k, t'.rowsOf k = t.rowsOf k
  environment : t'.environment = t.environment
  rules : t'.rules = t.rules
  targets : t'.targets = t.targets

/-- An identifier that was not drawn yet has no values. -/
theorem valuesOf_identifier {rows : List ValueRow}
    (h : ∀ row ∈ rows, Drawn.IsSpent drawn row.holder) (t : Tables) :
    t.valuesOf (Drawn.identifier drawn) rows = [] := by
  have hnone : (rows.filter fun row => row.holder == Drawn.identifier drawn) = [] := by
    rw [List.filter_eq_nil_iff]
    intro row hrow heq
    exact h row hrow drawn (Nat.le_refl _) (beq_iff_eq.mp heq)
  rw [valuesOf, hnone, List.filterMap_nil]

namespace SharesValues

theorem attributesOf_of_rowId?_eq (h : t'.SharesValues t) (hid : t'.rowId? x = t.rowId? x) :
    t'.attributesOf x = t.attributesOf x := by
  rw [attributesOf, attributesOf, hid, h.rowsOf]
  cases t.rowId? x with
  | none => rfl
  | some id => simp only [valuesOf, definitionOf?, h.definitions]

/-- A holder that gets a row of its own has nothing, as it had nothing before. -/
theorem attributesOf_of_new (h : t'.SharesValues t) (hold : t.rowId? x = none)
    (hnew : t'.rowId? x = some (Drawn.identifier drawn))
    (hspent : ∀ row ∈ t.rowsOf x.kind, Drawn.IsSpent drawn row.holder) :
    t'.attributesOf x = t.attributesOf x := by
  rw [attributesOf, attributesOf, hold, hnew, h.rowsOf]
  exact valuesOf_identifier hspent t'

/-- A row for one more holder changes nobody's attributes. -/
theorem attributesOf_of_added {added : Holder} (h : t'.SharesValues t)
    (hold : t.rowId? added = none)
    (hrows : ∀ x, t'.rowId? x = if added = x then some (Drawn.identifier drawn) else t.rowId? x)
    (hspent : ∀ row ∈ t.rowsOf added.kind, Drawn.IsSpent drawn row.holder) (x : Holder) :
    t'.attributesOf x = t.attributesOf x := by
  have hx := hrows x
  by_cases hadded : added = x
  · subst hadded
    rw [if_pos rfl] at hx
    exact h.attributesOf_of_new hold hx hspent
  · rw [if_neg hadded] at hx
    exact h.attributesOf_of_rowId?_eq hx

/-- Rows of resources and actions with identifiers of their own keep tables tidy. -/
theorem tidy (h : t'.SharesValues t) (ht : t.IsTidy drawn) (hle : drawn ≤ drawn')
    (hresources : (t'.resources.map (·.id)).Nodup ∧
      ∀ row ∈ t'.resources, Drawn.IsSpent drawn' row.id)
    (hactions : (t'.actions.map (·.id)).Nodup ∧ ∀ row ∈ t'.actions, Drawn.IsSpent drawn' row.id) :
    t'.IsTidy drawn' where
  sound := by
    have hsound := ht.sound.mono hle
    exact ⟨h.definitions ▸ hsound.nodup, h.definitions ▸ hsound.definitions,
      h.rules ▸ hsound.rules, h.targets ▸ hsound.targets⟩
  defined := by
    intro k
    rw [h.rowsOf, h.definitions]
    exact ht.defined k
  resources := hresources.1
  resourceIds := hresources.2
  resourceValues := by
    intro row (hrow : row ∈ t'.rowsOf .resource)
    rw [h.rowsOf] at hrow
    exact (ht.resourceValues row hrow).mono hle
  actions := hactions.1
  actionIds := hactions.2
  actionValues := by
    intro row (hrow : row ∈ t'.rowsOf .action)
    rw [h.rowsOf] at hrow
    exact (ht.actionValues row hrow).mono hle

theorem fills (h : t'.SharesValues t) (htidy : t'.IsTidy drawn') (hle : drawn ≤ drawn')
    (hheld : ∀ x, t'.attributesOf x = t.attributesOf x) :
    t.Fills drawn { t.holdings with roleOf := t'.roleOf, ownerOf := t'.resourceOwner } t.environment
      t' drawn' where
  tidy := htidy
  drawn_le := hle
  subset := h.definitions ▸ List.Subset.refl _
  environment := h.environment
  holdings := by
    apply Holdings.ext
    · rfl
    · rfl
    · funext x n
      exact congrArg (lastValue n) (hheld x)

end SharesValues

section Rows

variable {ρ : Type} {rows : List ρ} {row : ρ}

/-- A list of rows with a new one in the end still has its own identifiers. -/
theorem nodup_concat {id : ρ → String} (h : (rows.map id).Nodup)
    (hspent : ∀ r ∈ rows, Drawn.IsSpent drawn (id r)) (hrow : id row = Drawn.identifier drawn) :
    ((rows ++ [row]).map id).Nodup ∧ ∀ r ∈ rows ++ [row], Drawn.IsSpent (drawn + 1) (id r) := by
  constructor
  · rw [List.map_append, List.nodup_append]
    refine ⟨h, List.pairwise_singleton _ _, ?_⟩
    intro key hkey key' hkey' heq
    obtain ⟨r, hr, rfl⟩ := List.mem_map.mp hkey
    refine hspent r hr drawn (Nat.le_refl _) (heq.trans ?_)
    rw [List.mem_singleton.mp hkey', hrow]
  · intro r hr
    rcases List.mem_append.mp hr with hold | hnew
    · exact (hspent r hold).mono (Nat.le_succ _)
    · rw [List.mem_singleton.mp hnew, hrow]
      exact Drawn.isSpent_identifier drawn

/-- In rows with a new one in the end, a name is found where it was, or it is that of the new row. -/
theorem find?_concat {name : ρ → String}
    (h : rows.find? (fun r => name r == name row) = none) (n : String) :
    (rows ++ [row]).find? (fun r => name r == n) =
      if name row = n then some row else rows.find? fun r => name r == n := by
  rw [List.find?_append]
  by_cases hn : name row = n
  · subst hn
    simp [h]
  · simp [hn]

end Rows

/-- A new role changes nothing about holders. -/
theorem IsTidy.fills_role (ht : t.IsTidy drawn) (hle : drawn ≤ drawn') (row : RoleRow) :
    t.Fills drawn t.holdings t.environment { t with roles := t.roles ++ [row] } drawn' := by
  have hshares : ({ t with roles := t.roles ++ [row] } : Tables).SharesValues t :=
    ⟨rfl, fun k => by cases k <;> rfl, rfl, rfl, rfl⟩
  have hlater := ht.mono hle
  refine hshares.fills (hshares.tidy ht hle ⟨ht.resources, hlater.resourceIds⟩
    ⟨ht.actions, hlater.actionIds⟩) hle fun x => hshares.attributesOf_of_rowId?_eq ?_
  obtain ⟨kind, id⟩ := x
  cases kind <;> rfl

/-- A new subject has its role. -/
theorem IsTidy.fills_user (ht : t.IsTidy drawn) (hle : drawn ≤ drawn') (row : UserRow)
    (hnew : t.users.any (·.id == row.id) = false) :
    t.Fills drawn (t.holdings.setRole row.id row.role) t.environment
      { t with users := t.users ++ [row] } drawn' := by
  have hshares : ({ t with users := t.users ++ [row] } : Tables).SharesValues t :=
    ⟨rfl, fun k => by cases k <;> rfl, rfl, rfl, rfl⟩
  have hlater := ht.mono hle
  have hnone : t.users.find? (fun u => u.id == row.id) = none := by
    rw [List.find?_eq_none]
    intro u hu heq
    have hany : t.users.any (·.id == row.id) = true := List.any_eq_true.mpr ⟨u, hu, heq⟩
    rw [hnew] at hany
    cases hany
  have hrole : ({ t with users := t.users ++ [row] } : Tables).roleOf =
      (t.holdings.setRole row.id row.role).roleOf := by
    funext subject
    rw [roleOf, find?_concat hnone]
    simp only [Holdings.setRole]
    split <;> rfl
  have hfills := hshares.fills (hshares.tidy ht hle ⟨ht.resources, hlater.resourceIds⟩
    ⟨ht.actions, hlater.actionIds⟩) hle fun x => hshares.attributesOf_of_rowId?_eq (x := x) (by
      obtain ⟨kind, id⟩ := x
      cases kind <;> rfl)
  rw [hrole] at hfills
  exact hfills

/-- A new resource has its owner and nothing else. -/
theorem IsTidy.fills_resource (ht : t.IsTidy drawn) (row : ResourceRow)
    (types : List ResourceTypeRow) (hnew : t.resource? row.resource = none)
    (hid : row.id = Drawn.identifier drawn) :
    t.Fills drawn (t.holdings.setOwner row.resource row.owner) t.environment
      { t with resourceTypes := types, resources := t.resources ++ [row] } (drawn + 1) := by
  generalize ht' :
    ({ t with resourceTypes := types, resources := t.resources ++ [row] } : Tables) = t'
  have hshares : t'.SharesValues t := by
    subst ht'
    exact ⟨rfl, fun k => by cases k <;> rfl, rfl, rfl, rfl⟩
  have hfound : ∀ n, t'.resource? n = if row.resource = n then some row else t.resource? n := by
    subst ht'
    exact find?_concat hnew
  have htidy : t'.IsTidy (drawn + 1) := by
    refine hshares.tidy ht (Nat.le_succ _) ?_ ?_
    · subst ht'
      exact nodup_concat ht.resources ht.resourceIds hid
    · subst ht'
      exact ⟨ht.actions, (ht.mono (Nat.le_succ _)).actionIds⟩
  have hold : t.rowId? ⟨.resource, row.resource⟩ = none := by
    simp only [rowId?, hnew, Option.map_none]
  have hrows : ∀ x, t'.rowId? x =
      if (⟨.resource, row.resource⟩ : Holder) = x then some (Drawn.identifier drawn)
      else t.rowId? x := by
    rintro ⟨kind, n⟩
    cases kind with
    | resource =>
        simp only [rowId?, hfound, Holder.mk.injEq, true_and]
        split
        · rw [Option.map_some, hid]
        · rfl
    | _ =>
        subst ht'
        rfl
  have hheld := hshares.attributesOf_of_added hold hrows ht.resourceValues
  have hroles : t'.roleOf = t.holdings.roleOf := by
    subst ht'
    rfl
  have howners : t'.resourceOwner = (t.holdings.setOwner row.resource row.owner).ownerOf := by
    funext resource
    rw [resourceOwner, hfound]
    simp only [Holdings.setOwner]
    split <;> rfl
  have hfills := hshares.fills htidy (Nat.le_succ drawn) hheld
  rw [hroles, howners] at hfills
  exact hfills

/-- A new action has nothing. -/
theorem IsTidy.fills_action (ht : t.IsTidy drawn) (row : ActionRow)
    (hnew : t.action? row.name = none) (hid : row.id = Drawn.identifier drawn) :
    t.Fills drawn t.holdings t.environment { t with actions := t.actions ++ [row] } (drawn + 1) ∧
      ({ t with actions := t.actions ++ [row] } : Tables).rowId? ⟨.action, row.name⟩ =
        some row.id := by
  generalize ht' : ({ t with actions := t.actions ++ [row] } : Tables) = t'
  have hshares : t'.SharesValues t := by
    subst ht'
    exact ⟨rfl, fun k => by cases k <;> rfl, rfl, rfl, rfl⟩
  have hfound : ∀ n, t'.action? n = if row.name = n then some row else t.action? n := by
    subst ht'
    exact find?_concat hnew
  have htidy : t'.IsTidy (drawn + 1) := by
    refine hshares.tidy ht (Nat.le_succ _) ?_ ?_
    · subst ht'
      exact ⟨ht.resources, (ht.mono (Nat.le_succ _)).resourceIds⟩
    · subst ht'
      exact nodup_concat ht.actions ht.actionIds hid
  have hold : t.rowId? ⟨.action, row.name⟩ = none := by
    simp only [rowId?, hnew, Option.map_none]
  have hrows : ∀ x, t'.rowId? x =
      if (⟨.action, row.name⟩ : Holder) = x then some (Drawn.identifier drawn)
      else t.rowId? x := by
    rintro ⟨kind, n⟩
    cases kind with
    | action =>
        simp only [rowId?, hfound, Holder.mk.injEq, true_and]
        split
        · rw [Option.map_some, hid]
        · rfl
    | _ =>
        subst ht'
        rfl
  have hheld := hshares.attributesOf_of_added hold hrows ht.actionValues
  have hrest : ({ t.holdings with roleOf := t'.roleOf, ownerOf := t'.resourceOwner } : Holdings) =
      t.holdings := by
    subst ht'
    rfl
  have hfills := hshares.fills htidy (Nat.le_succ drawn) hheld
  rw [hrest] at hfills
  exact ⟨hfills, by simp only [rowId?, hfound, if_true, Option.map_some]⟩

end Tables

end Clearance
