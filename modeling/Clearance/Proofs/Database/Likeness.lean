/-
# Sessions that differ in identifiers

An identifier that was drawn is only passed on; no script looks at what it is. So a script comes to
the same in two sessions whose rows have the same names, however many identifiers were drawn before:
either it goes on in both of them, and they stay alike, or it is aborted in both for the same reason.
-/

import Clearance.Proofs.Database.Script

namespace Clearance

section Rows

variable {α κ : Type} {l l' : List α} {key : α → κ}

/-- Whether a row of a key is there depends on the keys alone. -/
theorem any_eq_of_map_eq (h : l.map key = l'.map key) (p : κ → Bool) :
    l.any (fun a => p (key a)) = l'.any fun a => p (key a) := by
  calc l.any (fun a => p (key a)) = (l.map key).any p := List.any_map.symm
    _ = (l'.map key).any p := by rw [h]
    _ = l'.any fun a => p (key a) := List.any_map

theorem isSome_find?_eq_of_map_eq (h : l.map key = l'.map key) (p : κ → Bool) :
    (l.find? fun a => p (key a)).isSome = (l'.find? fun a => p (key a)).isSome := by
  rw [List.isSome_find?, List.isSome_find?]
  exact any_eq_of_map_eq h p

theorem rel_of_isSome_eq {o o' : Option α} (h : o.isSome = o'.isSome) :
    Option.Rel (fun _ _ => True) o o' := by
  cases o with
  | none =>
      cases o' with
      | none => exact .none
      | some _ => cases h
  | some a =>
      cases o' with
      | none => cases h
      | some b => exact .some trivial

end Rows

/-- Two states of the tables have rows of the same names, where names are looked for. -/
structure Tables.Alike (t t' : Tables) : Prop where
  definitions : t.definitions.map (fun d => (d.name, d.category)) =
    t'.definitions.map fun d => (d.name, d.category)
  roles : t.roles.map (·.name) = t'.roles.map (·.name)
  resourceTypes : t.resourceTypes.map (·.name) = t'.resourceTypes.map (·.name)
  resources : t.resources.map (·.resource) = t'.resources.map (·.resource)
  actions : t.actions.map (·.name) = t'.actions.map (·.name)

namespace Tables.Alike

variable {t t' : Tables}

theorem refl (t : Tables) : t.Alike t := ⟨rfl, rfl, rfl, rfl, rfl⟩

theorem definition?_isSome (h : t.Alike t') (name : String) (category : Category) :
    (t.definition? name category).isSome = (t'.definition? name category).isSome :=
  isSome_find?_eq_of_map_eq h.definitions fun key => key.1 == name && key.2 == category

theorem definitionNamed?_isSome (h : t.Alike t') (name : String) :
    (t.definitionNamed? name).isSome = (t'.definitionNamed? name).isSome :=
  isSome_find?_eq_of_map_eq h.definitions fun key => key.1 == name

theorem resource?_isSome (h : t.Alike t') (resource : String) :
    (t.resource? resource).isSome = (t'.resource? resource).isSome :=
  isSome_find?_eq_of_map_eq h.resources (· == resource)

theorem action?_isSome (h : t.Alike t') (name : String) :
    (t.action? name).isSome = (t'.action? name).isSome :=
  isSome_find?_eq_of_map_eq h.actions (· == name)

theorem isSome_bind_definition? (h : t.Alike t') (name : Option String) (category : Category) :
    (name.bind fun n => t.definition? n category).isSome =
      (name.bind fun n => t'.definition? n category).isSome := by
  cases name with
  | none => rfl
  | some name => exact h.definition?_isSome name category

theorem isSome_bind_resource? (h : t.Alike t') (resource : Option String) :
    (resource.bind t.resource?).isSome = (resource.bind t'.resource?).isSome := by
  cases resource with
  | none => rfl
  | some resource => exact h.resource?_isSome resource

theorem isSome_bind_action? (h : t.Alike t') (name : Option String) :
    (name.bind t.action?).isSome = (name.bind t'.action?).isSome := by
  cases name with
  | none => rfl
  | some name => exact h.action?_isSome name

end Tables.Alike

/-- Two sessions are alike if their tables are, and rows that can be written wait in the same places.
In both, at least so many identifiers were drawn. -/
structure Session.Alike (low : Nat) (s s' : Session) : Prop where
  tables : s.tables.Alike s'.tables
  rules : s.rules.map Option.isSome = s'.rules.map Option.isSome
  targets : s.targets.map Option.isSome = s'.targets.map Option.isSome
  low_le : low ≤ s.drawn
  low_le' : low ≤ s'.drawn

namespace Script

variable {α β γ δ : Type} {low : Nat} {R : α → β → Prop} {R' : γ → δ → Prop}

/-- Two scripts go on with related values in sessions that are alike, or they are aborted for the same
reason. -/
inductive EndAlike (low : Nat) (R : α → β → Prop) :
    Except Abort α × Session → Except Abort β × Session → Prop
  | ok {a : α} {b : β} {s s' : Session} (h : R a b) (hs : s.Alike low s') :
      EndAlike low R (.ok a, s) (.ok b, s')
  | error (abort : Abort) {s s' : Session} (h : low ≤ s.drawn) (h' : low ≤ s'.drawn) :
      EndAlike low R (.error abort, s) (.error abort, s')

/-- From sessions that are alike, two scripts come to the same. -/
def Alike (low : Nat) (R : α → β → Prop) (x : Script α) (x' : Script β) : Prop :=
  ∀ s s', s.Alike low s' → EndAlike low R (execute x s) (execute x' s')

namespace Alike

theorem pure {a : α} {b : β} (h : R a b) : Alike low R (Pure.pure a) (Pure.pure b) :=
  fun _ _ hs => .ok h hs

theorem throw (abort : Abort) : Alike low R (throw abort) (MonadExcept.throw abort) :=
  fun _ _ hs => .error abort hs.low_le hs.low_le'

theorem bind {x : Script α} {x' : Script β} {f : α → Script γ} {f' : β → Script δ}
    (hx : Alike low R x x') (hf : ∀ a b, R a b → Alike low R' (f a) (f' b)) :
    Alike low R' (x >>= f) (x' >>= f') := by
  intro s s' hs
  have hfirst := hx s s' hs
  rw [execute_bind, execute_bind]
  generalize execute x s = result at hfirst ⊢
  generalize execute x' s' = result' at hfirst ⊢
  cases hfirst with
  | ok h hs => exact hf _ _ h _ _ hs
  | error abort h h' => exact .error abort h h'

/-- What is drawn need not be the same. -/
theorem draw : Alike low (fun _ _ => True) draw draw := by
  intro s s' hs
  exact .ok trivial { hs with
    low_le := Nat.le_succ_of_le hs.low_le
    low_le' := Nat.le_succ_of_le hs.low_le' }

theorem tables : Alike low Tables.Alike tables tables := fun _ _ hs => .ok hs.tables hs

theorem change {f f' : Tables → Tables} (h : ∀ t t', t.Alike t' → (f t).Alike (f' t')) :
    Alike low (fun _ _ => True) (change f) (change f') :=
  fun _ _ hs => .ok trivial { hs with tables := h _ _ hs.tables }

theorem notNull (column : String) (o : Option α) :
    Alike low Eq (notNull column o) (Script.notNull column o) := by
  cases o with
  | none => exact throw _
  | some a => exact pure rfl

theorem unique (columns : String) {isTaken isTaken' : Bool} (h : isTaken = isTaken') :
    Alike low (fun _ _ => True) (unique columns isTaken) (Script.unique columns isTaken') := by
  subst h
  cases isTaken with
  | true => exact throw _
  | false => exact pure trivial

theorem fitting (n : Int) : Alike low Eq (fitting n) (Script.fitting n) := by
  simp only [Script.fitting]
  split
  · exact pure rfl
  · exact throw _

theorem spelled (v : Value) : Alike low Eq (spelled v) (Script.spelled v) := by
  simp only [Script.spelled]
  cases v.spelled with
  | error fault => exact throw _
  | ok text => exact pure rfl

theorem universal (m : Time.Moment) : Alike low Eq (universal m) (Script.universal m) := by
  simp only [Script.universal]
  cases m.universal? with
  | some u => exact pure rfl
  | none => exact throw _

theorem optionMapM {f : α → Script β} (hf : ∀ a, Alike low (fun _ _ => True) (f a) (f a))
    (o : Option α) : Alike low (fun _ _ => True) (o.mapM f) (o.mapM f) := by
  cases o with
  | none => exact pure trivial
  | some a => exact bind (hf a) fun _ _ _ => pure trivial

theorem eachFrom {act act' : Nat → α → Script Unit}
    (hact : ∀ n a, Alike low (fun _ _ => True) (act n a) (act' n a)) (n : Nat) (members : List α) :
    Alike low (fun _ _ => True) (eachFrom act n members) (eachFrom act' n members) := by
  induction members generalizing n with
  | nil => exact pure trivial
  | cons a rest ih => exact bind (hact n a) fun _ _ _ => ih (n + 1)

theorem mono {x : Script α} {x' : Script β} {R₂ : α → β → Prop} (hx : Alike low R x x')
    (h : ∀ a b, R a b → R₂ a b) : Alike low R₂ x x' := by
  intro s s' hs
  have hend := hx s s' hs
  generalize execute x s = result at hend ⊢
  generalize execute x' s' = result' at hend ⊢
  cases hend with
  | ok hab hs => exact .ok (h _ _ hab) hs
  | error abort h h' => exact .error abort h h'

end Alike

/-! ## Rows that wait -/

/-- Whether rows can be written depends on the places of those without an operator. -/
theorem alike_writable {ρ : Type} (column : String) {rows rows' : List (Option ρ)}
    (h : rows.map Option.isSome = rows'.map Option.isSome) :
    Alike low (fun _ _ => True) (writable column rows) (writable column rows') := by
  induction rows generalizing rows' with
  | nil =>
      obtain rfl : rows' = [] := List.map_eq_nil_iff.mp h.symm
      exact .pure trivial
  | cons row rest ih =>
      cases rows' with
      | nil => cases h
      | cons row' rest' =>
          obtain ⟨hrow, hrest⟩ := List.cons.inj h
          simp only [writable, List.mapM_cons] at ih ⊢
          refine .bind (R := fun _ _ => True) ?_ fun _ _ _ => .bind (ih hrest) fun _ _ _ =>
            .pure trivial
          cases rel_of_isSome_eq hrow with
          | none => exact .throw _
          | some _ => exact .pure trivial

theorem alike_flush : Alike low (fun _ _ => True) flush flush := by
  intro s s' hs
  rw [execute_flush, execute_flush]
  have hparts : Alike low (fun _ _ => True)
      (do
        let rules ← writable "policy_rules.operator" s.rules
        change fun t => { t with rules := t.rules ++ rules }
        let targets ← writable "policy_targets.operator" s.targets
        change fun t => { t with targets := t.targets ++ targets }
        modify fun s => { s with rules := [], targets := [] })
      (do
        let rules ← writable "policy_rules.operator" s'.rules
        change fun t => { t with rules := t.rules ++ rules }
        let targets ← writable "policy_targets.operator" s'.targets
        change fun t => { t with targets := t.targets ++ targets }
        modify fun s => { s with rules := [], targets := [] }) :=
    .bind (alike_writable _ hs.rules) fun _ _ _ => .bind (.change fun _ _ ht => { ht with })
      fun _ _ _ => .bind (alike_writable _ hs.targets) fun _ _ _ =>
      .bind (.change fun _ _ ht => { ht with }) fun _ _ _ _ _ hs =>
      .ok trivial { hs with rules := rfl, targets := rfl }
  exact hparts s s' hs

/-! ## Definitions and conditions -/

theorem alike_define (name : Option String) (category : Category) (type : String)
    (description validValues : Option String) :
    Alike low (fun _ _ => True) (define name category type description validValues)
      (define name category type description validValues) := by
  refine .bind .draw fun id id' _ => .bind (.notNull _ name) ?_
  rintro name _ rfl
  refine .bind .tables fun t t' ht => .bind (.unique _ (ht.definition?_isSome name category))
    fun _ _ _ => .bind (.change fun t t' ht => ?_) fun _ _ _ => .bind alike_flush fun _ _ _ =>
    .pure trivial
  exact { ht with definitions := by simp [ht.definitions] }

theorem alike_definition (name : Option String) (category : Category) :
    Alike low (fun _ _ => True) (definition name category) (definition name category) := by
  refine .bind .tables fun t t' ht => ?_
  have hfound := rel_of_isSome_eq (ht.isSome_bind_definition? name category)
  generalize (name.bind fun n => t.definition? n category) = found at hfound ⊢
  generalize (name.bind fun n => t'.definition? n category) = found' at hfound ⊢
  cases hfound with
  | none => exact alike_define _ category _ _ _
  | some _ => exact .pure trivial

theorem alike_ruleDefinition (reference : Option String) :
    Alike low (fun _ _ => True) (ruleDefinition reference) (ruleDefinition reference) := by
  cases reference with
  | none => exact .throw _
  | some reference =>
      simp only [ruleDefinition]
      cases Reference.ofString reference with
      | qualified category name => exact alike_definition _ _
      | bare name =>
          refine .bind .tables fun t t' ht => ?_
          have hfound := rel_of_isSome_eq (ht.definitionNamed?_isSome name)
          generalize t.definitionNamed? name = found at hfound ⊢
          generalize t'.definitionNamed? name = found' at hfound ⊢
          cases hfound with
          | none => exact alike_definition _ _
          | some _ => exact .pure trivial

theorem alike_targetCategory (type : Option String) :
    Alike low Eq (targetCategory type) (targetCategory type) := by
  cases type with
  | none => exact .throw _
  | some type =>
      simp only [targetCategory]
      cases targetCategory? type with
      | some category => exact .pure rfl
      | none => exact .throw _

/-- A row that waits for its operator waits in the same place, whatever its identifiers are. -/
theorem alike_addRule (policy policy' : String) (position : Nat) (r : Rule) :
    Alike low (fun _ _ => True) (addRule policy position r) (addRule policy' position r) := by
  refine .bind (alike_ruleDefinition _) fun _ _ _ => .bind (.spelled _) ?_
  rintro value _ rfl s s' hs
  refine .ok trivial { hs with rules := ?_ }
  simp [hs.rules]

theorem alike_addTarget (policy policy' : String) (position : Nat) (t : Target) :
    Alike low (fun _ _ => True) (addTarget policy position t) (addTarget policy' position t) := by
  refine .bind (alike_targetCategory _) ?_
  rintro ⟨type, category⟩ _ rfl
  refine .bind (alike_definition _ _) fun _ _ _ => .bind (.spelled _) ?_
  rintro value _ rfl s s' hs
  refine .ok trivial { hs with targets := ?_ }
  simp [hs.targets]

/-- Counting identifiers never goes back. -/
theorem Alike.keeps_drawn {x : Script α} (hx : Alike low (fun _ _ => True) x x) :
    Keeps (fun s => low ≤ s.drawn) x := by
  intro s hs
  have hend := hx s s ⟨.refl _, rfl, rfl, hs, hs⟩
  generalize execute x s = result at hend ⊢
  cases hend with
  | ok _ hs => exact hs.low_le
  | error _ h _ => exact h

end Script

open Script

namespace Database

variable {low : Nat}

theorem alike_resourceType (name : String) :
    Alike low (fun _ _ => True) (resourceType name) (resourceType name) := by
  refine .bind .tables fun t t' ht => ?_
  have hfound := rel_of_isSome_eq (isSome_find?_eq_of_map_eq ht.resourceTypes (· == name))
  generalize (t.resourceTypes.find? fun row => row.name == name) = found at hfound ⊢
  generalize (t'.resourceTypes.find? fun row => row.name == name) = found' at hfound ⊢
  cases hfound with
  | some _ => exact .pure trivial
  | none =>
      refine .bind .draw fun id id' _ => .bind (.change fun t t' ht => ?_) fun _ _ _ => .pure trivial
      exact { ht with resourceTypes := by simp [ht.resourceTypes] }

theorem alike_insertAction (name description : Option String) :
    Alike low (fun _ _ => True) (insertAction name description) (insertAction name description) := by
  refine .bind .draw fun id id' _ => .bind (.notNull _ name) ?_
  rintro name _ rfl
  refine .bind .tables fun t t' ht => .bind (.unique _ (ht.action?_isSome name)) fun _ _ _ =>
    .bind (.change fun t t' ht => ?_) fun _ _ _ => .pure trivial
  exact { ht with actions := by simp [ht.actions] }

theorem alike_storePolicy (draft : PolicyDraft) (effect : Effect) :
    Alike low (fun _ _ => True) (storePolicy draft effect) (storePolicy draft effect) := by
  refine .bind .draw fun id id' _ => .bind (.fitting _) ?_
  rintro priority _ rfl
  refine .bind (.notNull _ _) ?_
  rintro name _ rfl
  exact .bind (.change fun _ _ ht => { ht with }) fun _ _ _ =>
    .bind (.eachFrom (alike_addRule id id') 0 _) fun _ _ _ =>
    .bind (.eachFrom (alike_addTarget id id') 0 _) fun _ _ _ => .pure trivial

end Database

end Clearance
