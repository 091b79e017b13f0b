/-
# Which policies are taken

A database takes a policy if it is complete and the type of each target is one that it knows, and then
files every target under the category of its type. A type that it knows normalizes to that category.
The converse does not hold. Two kinds of types are normalized where conditions are judged but not
where policies are stored: those with blanks at their ends, and the short name of the environment.

The scripts are followed from sessions whose waiting rows can all be written: from such a session each
step comes to its end, and leaves such a session.
-/

import Clearance.Proofs.Database.Learning
import Clearance.Proofs.Database.Meaning
import Clearance.Proofs.Text.Blank

namespace Clearance

open Script

/-! ## Types of targets -/

/-- A target whose type has no blanks at its ends and is not the short name of the environment. -/
def Target.IsPlain (t : Target) : Prop :=
  ∃ type, t.type = some type ∧ Text.strip type = type ∧ Text.lower type ≠ "env"

theorem Category.ofName?_eq_some_iff {name : String} {c : Category} :
    ofName? name = some c ↔ name = c.name := by
  constructor
  · intro h
    have hname := List.find?_some h
    exact (beq_iff_eq.mp hname).symm
  · rintro rfl
    cases c <;> decide

/-- The words that a type is known by. -/
def typeWords : List String := ["user", "role"] ++ Category.all.map Category.name

theorem isBlank_of_mem_typeWords {word : String} (hword : word ∈ typeWords) :
    ∀ c ∈ word.toList, Text.isBlank c.toNat = false := by
  have hall : typeWords.all (fun word => word.toList.all fun c => !Text.isBlank c.toNat) = true := by
    decide
  intro c hc
  have hchar := List.all_eq_true.mp (List.all_eq_true.mp hall word hword) c hc
  rwa [Bool.not_eq_true'] at hchar

theorem lower_mem_typeWords {type : String} {c : Category} (h : targetCategory? type = some c) :
    Text.lower type ∈ typeWords := by
  simp only [targetCategory?] at h
  split at h
  next hword =>
    rcases Bool.or_eq_true_iff.mp hword with hword | hword
    · rw [beq_iff_eq.mp hword]
      decide
    · rw [beq_iff_eq.mp hword]
      decide
  next =>
    rw [Category.ofName?_eq_some_iff.mp h]
    apply List.mem_append_right
    apply List.mem_map_of_mem
    cases c <;> decide

/-- Of a word in lower case other than `env`, both ways of reading a type make the same. -/
theorem category_of_word {word : String} (henv : word ≠ "env") (c : Category) :
    (if word == "user" || word == "role" then some .subject else Category.ofName? word) = some c ↔
      (match categoryAliases.lookup word with
        | some c => c.name
        | none => word) = c.name := by
  by_cases huser : word = "user"
  · subst huser
    cases c <;> decide
  · by_cases hrole : word = "role"
    · subst hrole
      cases c <;> decide
    · have hlookup : categoryAliases.lookup word = none := by
        simp only [categoryAliases, List.lookup_cons, List.lookup_nil,
          beq_eq_false_iff_ne.mpr huser, beq_eq_false_iff_ne.mpr hrole,
          beq_eq_false_iff_ne.mpr henv]
      have hnone : ¬(word == "user" || word == "role") = true := by simp [huser, hrole]
      rw [if_neg hnone, hlookup, Category.ofName?_eq_some_iff]

/-- A type is known as one of a category if it is plain and normalizes to the category. -/
theorem targetCategory?_eq_some_iff {type : String} {c : Category} :
    targetCategory? type = some c ↔
      (Text.strip type = type ∧ Text.lower type ≠ "env") ∧
        normalizeCategory (some type) = c.name := by
  constructor
  · intro h
    have hmem := lower_mem_typeWords h
    have hstrip := Text.strip_eq_self_of_lower (isBlank_of_mem_typeWords hmem)
    have henv : Text.lower type ≠ "env" := by
      intro heq
      rw [heq] at hmem
      exact absurd hmem (by decide)
    refine ⟨⟨hstrip, henv⟩, ?_⟩
    simp only [normalizeCategory, Option.getD_some, hstrip]
    exact (category_of_word henv c).mp h
  · rintro ⟨⟨hstrip, henv⟩, h⟩
    simp only [normalizeCategory, Option.getD_some, hstrip] at h
    exact (category_of_word henv c).mpr h

/-- A target is filed in the category that its type normalizes to, if its type is plain. -/
theorem Target.bind_targetCategory?_eq_some_iff {t : Target} {c : Category} :
    t.type.bind targetCategory? = some c ↔ t.IsPlain ∧ normalizeCategory t.type = c.name := by
  cases htype : t.type with
  | none =>
      constructor
      · exact nofun
      · rintro ⟨⟨type, hsome, -⟩, -⟩
        rw [htype] at hsome
        cases hsome
  | some type =>
      rw [Option.bind_some, targetCategory?_eq_some_iff]
      refine and_congr_left fun _ => ?_
      constructor
      · exact fun h => ⟨type, htype, h⟩
      · rintro ⟨type', hsome, h⟩
        rw [htype] at hsome
        cases hsome
        exact h

/-! ## Scripts that come to their end -/

/-- Every row that waits can be written. -/
def Session.IsWritable (s : Session) : Prop :=
  ∃ (rules : List RuleRow) (targets : List TargetRow),
    s.rules = rules.map some ∧ s.targets = targets.map some

namespace Script

/-- From every session whose rows can be written, a script comes to its end, and leaves such a session. -/
def Ends {α : Type} (x : Script α) : Prop :=
  ∀ s : Session, s.IsWritable → ∃ a s', execute x s = (.ok a, s') ∧ s'.IsWritable

namespace Ends

variable {α β : Type}

theorem pure (a : α) : Ends (Pure.pure a) := fun s hs => ⟨a, s, rfl, hs⟩

theorem bind {x : Script α} {f : α → Script β} (hx : Ends x) (hf : ∀ a, Ends (f a)) :
    Ends (x >>= f) := by
  intro s hs
  obtain ⟨a, s₁, hfirst, hs₁⟩ := hx s hs
  obtain ⟨b, s₂, hrest, hs₂⟩ := hf a s₁ hs₁
  exact ⟨b, s₂, execute_bind_eq_ok.mpr ⟨a, s₁, hfirst, hrest⟩, hs₂⟩

theorem draw : Ends draw := fun _ hs => ⟨_, _, execute_draw _, hs⟩

theorem change (f : Tables → Tables) : Ends (change f) := fun _ hs => ⟨_, _, execute_change f _, hs⟩

theorem notNull (column : String) (a : α) : Ends (notNull column (some a)) := pure a

theorem fitting {n : Int} (h : -largest - 1 ≤ n ∧ n ≤ largest) : Ends (fitting n) := by
  rw [Script.fitting, if_pos h]
  exact pure n

theorem spelled {v : Value} (h : v.HasString) : Ends (spelled v) := by
  rw [Script.spelled, h.spelled]
  exact pure v.string

/-- Rows that wait are written if all of them can be. -/
theorem flush : Ends flush := by
  rintro s ⟨rules, targets, hrules, htargets⟩
  refine ⟨(), s.written rules targets, ?_, [], [], rfl, rfl⟩
  rw [execute_flush, hrules, htargets, execute_bind, execute_writable]
  dsimp only
  rw [execute_bind, execute_change]
  dsimp only
  rw [execute_bind, execute_writable]
  rfl

/-- A definition that was not there can be made. -/
theorem definition (name : String) (category : Category) : Ends (definition (some name) category) := by
  intro s hs
  rw [Script.definition, execute_bind, execute_tables]
  dsimp only [Option.bind_some]
  cases hfound : s.tables.definition? name category with
  | some d => exact ⟨d.id, s, rfl, hs⟩
  | none =>
      -- The key was looked up and is free, so it cannot be taken when the definition is inserted.
      dsimp only
      rw [execute_define_of_free (by simp [hfound])]
      exact bind flush (fun _ => pure _) _ hs

theorem ruleDefinition (reference : String) : Ends (ruleDefinition (some reference)) := by
  simp only [Script.ruleDefinition]
  cases Reference.ofString reference with
  | qualified category name => exact definition name _
  | bare name =>
      intro s hs
      dsimp only
      rw [execute_bind, execute_tables]
      dsimp only
      cases s.tables.definitionNamed? name with
      | some d => exact ⟨d.id, s, rfl, hs⟩
      | none => exact definition name .subject s hs

/-- A rule with a reference, an operator and a value that has a string form can be written. -/
theorem addRule (policy : String) (position : Nat) {r : Rule} (hreference : r.reference.isSome)
    (hoperator : r.operator.isSome) (hvalue : r.value.HasString) :
    Ends (addRule policy position r) := by
  obtain ⟨reference, hreference⟩ := Option.isSome_iff_exists.mp hreference
  obtain ⟨operator, hoperator⟩ := Option.isSome_iff_exists.mp hoperator
  rw [Script.addRule, hreference]
  refine bind (ruleDefinition reference) fun definition => bind (spelled hvalue) fun value => ?_
  rintro s ⟨rules, targets, hrules, htargets⟩
  let row : RuleRow := ⟨policy, definition, operator, value, r.connective, r.group, position⟩
  refine ⟨(), { s with rules := s.rules ++ [some row] }, ?_, rules ++ [row], targets, ?_, htargets⟩
  · rw [hoperator]
    rfl
  · rw [hrules, List.map_append, List.map_singleton]

/-- A target with a name, an operator, a value that has a string form and a type that is known can be
written. -/
theorem addTarget (policy : String) (position : Nat) {t : Target} (hname : t.name.isSome)
    (hoperator : t.operator.isSome) (hvalue : t.value.HasString) {c : Category}
    (hcategory : t.type.bind targetCategory? = some c) : Ends (addTarget policy position t) := by
  obtain ⟨name, hname⟩ := Option.isSome_iff_exists.mp hname
  obtain ⟨operator, hoperator⟩ := Option.isSome_iff_exists.mp hoperator
  obtain ⟨type, htype, hcategory⟩ := Option.bind_eq_some_iff.mp hcategory
  have hfound : targetCategory t.type = Pure.pure (type, c) := by
    simp only [targetCategory, htype, hcategory]
  rw [Script.addTarget, hfound, hname]
  refine bind (pure _) fun found => bind (definition name _) fun definition =>
    bind (spelled hvalue) fun value => ?_
  rintro s ⟨rules, targets, hrules, htargets⟩
  let row : TargetRow := ⟨policy, found.1, definition, operator, value, position⟩
  refine ⟨(), { s with targets := s.targets ++ [some row] }, ?_, rules, targets ++ [row], hrules, ?_⟩
  · rw [hoperator]
    rfl
  · rw [htargets, List.map_append, List.map_singleton]

theorem eachFrom {act : Nat → α → Script Unit} {members : List α}
    (hact : ∀ n, ∀ a ∈ members, Ends (act n a)) (n : Nat) : Ends (eachFrom act n members) := by
  induction members generalizing n with
  | nil => exact pure ()
  | cons a rest ih =>
      refine bind (hact n a List.mem_cons_self) fun _ => ?_
      exact ih (fun n a ha => hact n a (List.mem_cons_of_mem _ ha)) (n + 1)

end Ends

end Script

/-! ## Policies that are taken -/

/-- A draft with all that is stored of a policy, but for the types of its targets. -/
structure PolicyDraft.IsComplete (draft : PolicyDraft) : Prop where
  effect : ∃ effect, Database.PolicyDraft.effect? draft = .ok effect
  name : draft.name.isSome
  priority : -largest - 1 ≤ draft.priority ∧ draft.priority ≤ largest
  rules : ∀ r ∈ draft.rules, r.reference.isSome ∧ r.operator.isSome ∧ r.value.HasString
  targets : ∀ t ∈ draft.targets, t.name.isSome ∧ t.operator.isSome ∧ t.value.HasString

namespace Session

variable {s : Session} {policy : String} {position drawn : Nat}

/-- Where a rule has a row, it has what the row is made of. -/
theorem TellsRule.isComplete {r : Rule} {row : RuleRow}
    (h : s.TellsRule policy position r (some row)) :
    r.reference.isSome ∧ r.operator.isSome ∧ r.value.HasString := by
  obtain ⟨definition, ⟨d, -, -, hname⟩, hvalue, hrow⟩ := h
  obtain ⟨operator, hoperator, -⟩ := Option.map_eq_some_iff.mp hrow.symm
  obtain ⟨reference, hreference, -⟩ := Option.map_eq_some_iff.mp hname.symm
  exact ⟨Option.isSome_of_mem hreference, Option.isSome_of_mem hoperator, hvalue⟩

/-- Where a target has a row, it has what the row is made of, and its type is known. -/
theorem TellsTarget.isComplete {target : Target} {row : TargetRow}
    (h : s.TellsTarget policy position target (some row)) :
    (target.name.isSome ∧ target.operator.isSome ∧ target.value.HasString) ∧
      ∃ c, target.type.bind Script.targetCategory? = some c := by
  obtain ⟨definition, type, category, ⟨d, -, -, hname, -⟩, htype, hcategory, hvalue, hrow⟩ := h
  obtain ⟨operator, hoperator, -⟩ := Option.map_eq_some_iff.mp hrow.symm
  refine ⟨⟨Option.isSome_of_mem hname.symm, Option.isSome_of_mem hoperator, hvalue⟩, category, ?_⟩
  rw [htype, Option.bind_some, hcategory]

/-- The row of a target refers to a definition in the category that the type normalizes to. -/
theorem TellsTarget.filed (hs : s.tables.IsSound drawn) {target : Target} {row : TargetRow}
    (h : s.TellsTarget policy position target (some row)) :
    row.policy = policy ∧ ∃ d, s.tables.definitionOf? row.definition = some d ∧
      some d.name = target.name ∧ d.category.name = normalizeCategory target.type := by
  obtain ⟨definition, type, category, ⟨d, hd, rfl, hname, rfl⟩, htype, hcategory, -, hrow⟩ := h
  obtain ⟨operator, -, rfl⟩ := Option.map_eq_some_iff.mp hrow.symm
  refine ⟨rfl, d, hs.definitionOf?_of_mem hd, hname, ?_⟩
  rw [htype, (targetCategory?_eq_some_iff.mp hcategory).2]

end Session

namespace Database

variable {db : Database} {t : Tables} {draft : PolicyDraft} {effect : Effect} {id : String}

/-- A complete policy whose targets all have a known type can be stored. -/
theorem ends_storePolicy (hdraft : draft.IsComplete)
    (htypes : ∀ target ∈ draft.targets, ∃ c, target.type.bind targetCategory? = some c)
    (effect : Effect) : Ends (storePolicy draft effect) := by
  obtain ⟨name, hname⟩ := Option.isSome_iff_exists.mp hdraft.name
  rw [storePolicy, hname]
  have hrules : ∀ id n, ∀ r ∈ draft.rules, Ends (addRule id n r) := by
    intro id n r hr
    obtain ⟨hreference, hoperator, hvalue⟩ := hdraft.rules r hr
    exact .addRule id n hreference hoperator hvalue
  have htargets : ∀ id n, ∀ target ∈ draft.targets, Ends (addTarget id n target) := by
    intro id n target htarget
    obtain ⟨hname, hoperator, hvalue⟩ := hdraft.targets target htarget
    obtain ⟨c, hc⟩ := htypes target htarget
    exact .addTarget id n hname hoperator hvalue hc
  exact .bind .draw fun id => .bind (.fitting hdraft.priority) fun _ => .bind (.notNull _ name)
    fun _ => .bind (.change _) fun _ => .bind (.eachFrom (hrules id) 0) fun _ =>
    .bind (.eachFrom (htargets id) 0) fun _ => .pure id

/-- A script that comes to its end is committed. -/
theorem exists_ok_of_ends {α : Type} {script : Script α} (h : Ends script) (t : Tables)
    (drawn : Nat) : ∃ a, (script.run t drawn).1 = .ok a := by
  have hcommitted : Ends (do let a ← script; flush; return a) :=
    .bind h fun a => .bind .flush fun _ => .pure a
  obtain ⟨a, s, hexecute, -⟩ := hcommitted { tables := t, drawn := drawn } ⟨[], [], rfl, rfl⟩
  refine ⟨a, ?_⟩
  rw [run_eq, hexecute]

/-- A policy that is stored has a name, and a priority that a column can hold. -/
theorem fits_of_storePolicy {s s' : Session}
    (h : execute (storePolicy draft effect) s = (.ok id, s')) :
    draft.name.isSome ∧ -largest - 1 ≤ draft.priority ∧ draft.priority ≤ largest := by
  obtain ⟨_, s₁, -, h⟩ := execute_bind_eq_ok.mp h
  obtain ⟨priority, s₂, hfitting, h⟩ := execute_bind_eq_ok.mp h
  obtain ⟨name, s₃, hname, -⟩ := execute_bind_eq_ok.mp h
  obtain ⟨hpriority, -⟩ := execute_fitting_eq_ok hfitting
  obtain ⟨hname, -⟩ := execute_notNull_eq_ok.mp hname
  exact ⟨Option.isSome_of_mem hname, hpriority⟩

/-- A database takes a policy exactly if it is complete and the type of each target is known. -/
theorem exists_createPolicy_eq_ok_iff (ht : db.tables? = some t) :
    (∃ id, (db.createPolicy draft).1 = .ok id) ↔
      draft.IsComplete ∧ ∀ target ∈ draft.targets,
        ∃ c, target.type.bind targetCategory? = some c := by
  constructor
  · rintro ⟨id, h⟩
    obtain ⟨_, effect, s, -, heffect, hexecute, -⟩ := exists_execute_of_createPolicy h
    obtain ⟨_, s₁, hstore, -⟩ := execute_bind_eq_ok.mp hexecute
    obtain ⟨hname, hpriority⟩ := fits_of_storePolicy hstore
    obtain ⟨-, rules, targets, -, -, hrules, htargets⟩ := rows_of_storePolicy hexecute
    have hruleTold := forall_mem_of_zipIdx
      (P := fun r => r.reference.isSome ∧ r.operator.isSome ∧ r.value.HasString)
      (hrules.imp fun _ _ h => h.isComplete)
    have htargetTold := forall_mem_of_zipIdx (P := fun target =>
        (target.name.isSome ∧ target.operator.isSome ∧ target.value.HasString) ∧
          ∃ c, target.type.bind targetCategory? = some c)
      (htargets.imp fun _ _ h => h.isComplete)
    exact ⟨⟨⟨effect, heffect⟩, hname, hpriority, hruleTold, fun target hmem =>
      (htargetTold target hmem).1⟩, fun target hmem => (htargetTold target hmem).2⟩
  · rintro ⟨hdraft, htypes⟩
    obtain ⟨effect, heffect⟩ := hdraft.effect
    obtain ⟨id, hid⟩ := exists_ok_of_ends (ends_storePolicy hdraft htypes effect) t db.drawn
    refine ⟨id, ?_⟩
    simp only [createPolicy, heffect]
    exact ((transact_of_tables? ht _ _ _ _).1 id).mpr hid

/-- **Which policies are taken.** A database with tables takes a policy exactly if it is complete and the
type of each target is plain and normalizes to a category. It then files each target, in order and behind
those that were there, under a definition of its name in just that category. -/
theorem createPolicy_takes (hdb : db.IsReached) (ht : db.tables? = some t) (draft : PolicyDraft) :
    ((∃ id, (db.createPolicy draft).1 = .ok id) ↔
        draft.IsComplete ∧ ∀ target ∈ draft.targets,
          target.IsPlain ∧ ∃ c : Category, normalizeCategory target.type = c.name) ∧
      ∀ id, (db.createPolicy draft).1 = .ok id →
        ∃ t' rows, (db.createPolicy draft).2.2.tables? = some t' ∧ t'.targets = t.targets ++ rows ∧
          List.Forall₂ (fun target row => row.policy = id ∧
            ∃ d, t'.definitionOf? row.definition = some d ∧ some d.name = target.name ∧
              d.category.name = normalizeCategory target.type) draft.targets rows := by
  constructor
  · simp only [exists_createPolicy_eq_ok_iff ht, Target.bind_targetCategory?_eq_some_iff,
      exists_and_left]
  · intro id h
    obtain ⟨t', effect, s, ht', -, hexecute, htables⟩ := exists_execute_of_createPolicy h
    obtain rfl : t = t' := Option.some.inj (ht.symm.trans ht')
    obtain ⟨-, rules, rows, -, hrows, -, htold⟩ := rows_of_storePolicy hexecute
    have hsound := (hdb.createPolicy draft).isSound s.tables htables
    refine ⟨s.tables, rows, htables, hrows, ?_⟩
    rw [← List.zipIdx_map_fst 0 draft.targets, List.forall₂_map_left_iff]
    exact htold.imp fun _ _ h => h.filed hsound

/-- A policy with one target: a value of the environment, under some type. -/
def nightPolicy (type : String) : PolicyDraft where
  name := some "night"
  effect := .text "permit"
  targets := [{ type := some type, name := some "current_time", operator := some "exists" }]

theorem isComplete_nightPolicy (type : String) : (nightPolicy type).IsComplete where
  effect := ⟨.permit, rfl⟩
  name := rfl
  priority := show -largest - 1 ≤ 0 ∧ 0 ≤ largest by decide
  rules := nofun
  targets := by
    intro target htarget
    obtain rfl := List.mem_singleton.mp htarget
    exact ⟨rfl, rfl, rfl⟩

theorem nightPolicy_taken :
    inMemory.IsReached ∧ inMemory.tables? = some {} ∧
      ∃ id t row d, (inMemory.createPolicy (nightPolicy "Environment")).1 = .ok id ∧
        (inMemory.createPolicy (nightPolicy "Environment")).2.2.tables? = some t ∧
        t.targets = [row] ∧ t.definitionOf? row.definition = some d ∧
        d.name = "current_time" ∧ d.category = .environment := by
  have hnormal : normalizeCategory (some "Environment") = Category.environment.name := by
    decide +kernel
  obtain ⟨hiff, hfiled⟩ :=
    createPolicy_takes isReached_inMemory tables?_inMemory (nightPolicy "Environment")
  have htypes : ∀ target ∈ (nightPolicy "Environment").targets,
      target.IsPlain ∧ ∃ c : Category, normalizeCategory target.type = c.name := by
    intro target htarget
    obtain rfl := List.mem_singleton.mp htarget
    exact ⟨⟨"Environment", rfl, by decide +kernel⟩, .environment, hnormal⟩
  obtain ⟨id, hid⟩ := hiff.mpr ⟨isComplete_nightPolicy _, htypes⟩
  obtain ⟨t, rows, ht, hrows, htold⟩ := hfiled id hid
  cases htold with
  | cons hrow hrest =>
      cases hrest
      obtain ⟨-, d, hd, hname, hcategory⟩ := hrow
      exact ⟨isReached_inMemory, tables?_inMemory, id, t, _, d, hid, ht, hrows, hd,
        Option.some.inj hname, Category.name_inj.mp (hcategory.trans hnormal)⟩

/-- The short name of the environment is normalized where targets are matched, but not where they are
stored. -/
theorem nightPolicy_refused :
    inMemory.IsReached ∧ (nightPolicy "env").IsComplete ∧
      (nightPolicy "env").targets.map (fun target => normalizeCategory target.type) =
        [Category.environment.name] ∧
      (inMemory.createPolicy (nightPolicy "env")).1 =
        .error (.failure (.policyStore "Unknown target type: env" none)) := by
  refine ⟨isReached_inMemory, isComplete_nightPolicy _, ?_, ?_⟩
  · decide +kernel
  · rw [inMemory_eq]
    rfl

end Database

end Clearance
