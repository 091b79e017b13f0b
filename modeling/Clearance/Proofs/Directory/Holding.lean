/-
# What a directory holds

Filling a directory is of two kinds: somebody or something becomes known, or an attribute is assigned
to a holder. Who becomes known has nothing yet, and what the others hold stays. An assigned attribute
is the last one of its name that the holder has; every other name keeps its last value. Each
definition has an identifier of its own as long as no attribute is defined anew.
-/

import Clearance.Directory.Basic
import Clearance.Proofs.Attribute.Holdings
import Clearance.Proofs.Database.Soundness
import Clearance.Proofs.Ordered

namespace Clearance

namespace Directory

variable {d d' : Directory} {k : HolderKind} {x : Holder} {n : String}

/-- The table of the holders of a kind. -/
def table (d : Directory) : HolderKind → List (String × Assignments)
  | .subject => d.subjectValues
  | .role => d.roleValues
  | .resource => d.resourceValues
  | .action => d.actionValues

/-- A directory with another table of the holders of a kind. -/
def withTable (d : Directory) (k : HolderKind) (t : List (String × Assignments)) : Directory :=
  match k with
  | .subject => { d with subjectValues := t }
  | .role => { d with roleValues := t }
  | .resource => { d with resourceValues := t }
  | .action => { d with actionValues := t }

/-- What a holder has been assigned. -/
def held (d : Directory) (x : Holder) : Assignments := (Ordered.get? x.id (d.table x.kind)).getD []

/-- The attributes of a holder. -/
def attributesOf (d : Directory) (x : Holder) : List Attribute := valuesOf x.id (d.table x.kind)

/-- Make a holder known that is not. -/
def know (d : Directory) (x : Holder) : Directory :=
  match x.kind with
  | .subject => if Ordered.has x.id d.subjectRoles then d else d.addSubject x.id none
  | .role => if Ordered.has x.id d.roles then d else d.addRole x.id none
  | .resource => if Ordered.has x.id d.resources then d else d.addResource x.id none none
  | .action => if d.actions.contains x.id then d else d.addAction x.id

/-- Assign an attribute to a holder. -/
def give (d : Directory) (x : Holder) (name type : String) (value : Value) :
    Except Fault Unit × Directory :=
  match x.kind with
  | .subject => d.assignSubject x.id name type value
  | .role => d.assignRole x.id name type value
  | .resource => d.assignResource x.id name type value
  | .action => d.assignAction x.id name type value

theorem writing_eq {value : Value} (hvalue : value.HasString) (d : Directory)
    (write : String → Directory) : d.writing value write = (.ok (), write value.string) := by
  rw [writing, hvalue.spelled]

theorem writing_eq_ok_iff {d : Directory} {value : Value} {write : String → Directory} :
    (d.writing value write).1 = .ok () ↔ value.HasString := by
  rw [writing, Value.spelled, Value.HasString]
  cases value.stringFault? Value.room <;> simp

/-- Assigning makes the holder known, defines the attribute and writes the value, in this order. -/
theorem give_eq {value : Value} (hvalue : value.HasString) (d : Directory) (x : Holder)
    (name type : String) :
    (d.give x name type value).2 =
      let defined := (d.know x).definitionOf name x.kind.category type
      defined.2.withTable x.kind
        (assignTo x.id defined.1 value.string (defined.2.table x.kind)) := by
  obtain ⟨kind, id⟩ := x
  cases kind <;> exact congrArg Prod.snd (writing_eq hvalue _ _)

theorem table_withTable (d : Directory) (k k' : HolderKind) (t : List (String × Assignments)) :
    (d.withTable k t).table k' = if k = k' then t else d.table k' := by
  cases k <;> cases k' <;> rfl

@[simp]
theorem definitions_withTable (d : Directory) (k : HolderKind) (t : List (String × Assignments)) :
    (d.withTable k t).definitions = d.definitions := by
  cases k <;> rfl

@[simp]
theorem drawn_withTable (d : Directory) (k : HolderKind) (t : List (String × Assignments)) :
    (d.withTable k t).drawn = d.drawn := by
  cases k <;> rfl

@[simp]
theorem failing_withTable (d : Directory) (k : HolderKind) (t : List (String × Assignments)) :
    (d.withTable k t).failing = d.failing := by
  cases k <;> rfl

@[simp]
theorem environment_withTable (d : Directory) (k : HolderKind) (t : List (String × Assignments)) :
    (d.withTable k t).environment = d.environment := by
  cases k <;> rfl

@[simp]
theorem roleOf_withTable (d : Directory) (k : HolderKind) (t : List (String × Assignments))
    (subject : String) : (d.withTable k t).roleOf subject = d.roleOf subject := by
  cases k <;> rfl

/-! ## Becoming known -/

/-- The owner of a resource. -/
def ownerOf (d : Directory) (resource : String) : Option String :=
  (Ordered.get? resource d.resources).bind (·.owner)

@[simp]
theorem ownerOf_withTable (d : Directory) (k : HolderKind) (t : List (String × Assignments))
    (resource : String) : (d.withTable k t).ownerOf resource = d.ownerOf resource := by
  cases k <;> rfl

/-- What a directory keeps about holders. -/
def holdings (d : Directory) : Holdings where
  roleOf := d.roleOf
  ownerOf := d.ownerOf
  value? x n := lastValue n (d.attributesOf x)

/-- A directory defines, holds and refuses what another one does. -/
structure HoldsAs (d' d : Directory) : Prop where
  definitions : d'.definitions = d.definitions
  drawn : d'.drawn = d.drawn
  environment : d'.environment = d.environment
  failing : d'.failing = d.failing
  held : ∀ x, d'.held x = d.held x

namespace HoldsAs

theorem refl (d : Directory) : d.HoldsAs d := ⟨rfl, rfl, rfl, rfl, fun _ => rfl⟩

/-- A holder that is added to a table has nothing in it. -/
theorem get?_hold (holder other : String) (t : List (String × Assignments)) :
    (Ordered.get? other (hold holder t)).getD [] = (Ordered.get? other t).getD [] := by
  rw [hold]
  split
  · rfl
  case isFalse hnew =>
    rw [Ordered.get?_set]
    split
    case isTrue heq =>
      rw [Ordered.has, heq, Option.not_isSome_iff_eq_none] at hnew
      rw [hnew]
      rfl
    case isFalse => rfl

theorem addRole (d : Directory) (role : String) (name : Option String) :
    (d.addRole role name).HoldsAs d := by
  refine ⟨rfl, rfl, rfl, rfl, ?_⟩
  rintro ⟨kind, id⟩
  cases kind with
  | role => exact get?_hold role id d.roleValues
  | _ => rfl

theorem addResource (d : Directory) (resource : String) (type owner : Option String) :
    (d.addResource resource type owner).HoldsAs d := by
  refine ⟨rfl, rfl, rfl, rfl, ?_⟩
  rintro ⟨kind, id⟩
  cases kind with
  | resource => exact get?_hold resource id d.resourceValues
  | _ => rfl

theorem addAction (d : Directory) (action : String) : (d.addAction action).HoldsAs d := by
  refine ⟨rfl, rfl, rfl, rfl, ?_⟩
  rintro ⟨kind, id⟩
  cases kind with
  | action => exact get?_hold action id d.actionValues
  | _ => rfl

theorem addSubject (d : Directory) (subject : String) (role : Option String) :
    (d.addSubject subject role).HoldsAs d := by
  have hrole : ∀ d' : Directory, d'.HoldsAs d →
      ({ d' with
        subjectRoles := Ordered.set subject role d'.subjectRoles
        subjectValues := hold subject d'.subjectValues } : Directory).HoldsAs d := by
    intro d' h
    refine ⟨h.definitions, h.drawn, h.environment, h.failing, ?_⟩
    rintro ⟨kind, id⟩
    rw [← h.held]
    cases kind with
    | subject => exact get?_hold subject id d'.subjectValues
    | _ => rfl
  cases role with
  | none => exact hrole d (.refl d)
  | some r =>
      simp only [Directory.addSubject]
      split
      · exact hrole d (.refl d)
      · exact hrole _ (addRole d r none)

theorem know (d : Directory) (x : Holder) : (d.know x).HoldsAs d := by
  obtain ⟨kind, id⟩ := x
  cases kind <;> simp only [Directory.know] <;> split
  all_goals first
    | exact .refl d
    | exact addSubject d id none
    | exact addRole d id none
    | exact addResource d id none none
    | exact addAction d id

end HoldsAs

theorem HoldsAs.attributesOf (h : d'.HoldsAs d) (x : Holder) :
    d'.attributesOf x = d.attributesOf x :=
  congrArg (List.map _) (h.held x)

theorem HoldsAs.holdings_eq (h : d'.HoldsAs d) (hrole : ∀ subject, d'.roleOf subject = d.roleOf subject)
    (howner : ∀ resource, d'.ownerOf resource = d.ownerOf resource) : d'.holdings = d.holdings := by
  apply Holdings.ext
  · exact funext hrole
  · exact funext howner
  · funext x n
    exact congrArg (lastValue n) (h.attributesOf x)

theorem holdings_addRole (d : Directory) (role : String) (name : Option String) :
    (d.addRole role name).holdings = d.holdings :=
  (HoldsAs.addRole d role name).holdings_eq (fun _ => rfl) fun _ => rfl

theorem holdings_addAction (d : Directory) (action : String) :
    (d.addAction action).holdings = d.holdings :=
  (HoldsAs.addAction d action).holdings_eq (fun _ => rfl) fun _ => rfl

theorem holdings_addSubject (d : Directory) (subject : String) (role : Option String) :
    (d.addSubject subject role).holdings = d.holdings.setRole subject role := by
  have hset : ∀ roles : List (String × Option String), ∀ other,
      (Ordered.get? other (Ordered.set subject role roles)).join =
        if subject = other then role else (Ordered.get? other roles).join := by
    intro roles other
    rw [Ordered.get?_set]
    split <;> rfl
  apply Holdings.ext
  · funext other
    cases role with
    | none => exact hset d.subjectRoles other
    | some r =>
        show (d.addSubject subject (some r)).roleOf other = _
        simp only [addSubject]
        split
        · exact hset d.subjectRoles other
        · exact hset d.subjectRoles other
  · funext resource
    cases role with
    | none => rfl
    | some r =>
        show (d.addSubject subject (some r)).ownerOf resource = _
        simp only [addSubject]
        split <;> rfl
  · funext x n
    exact congrArg (lastValue n) ((HoldsAs.addSubject d subject role).attributesOf x)

theorem holdings_addResource (d : Directory) (resource : String) (type owner : Option String) :
    (d.addResource resource type owner).holdings = d.holdings.setOwner resource owner := by
  apply Holdings.ext
  · rfl
  · funext other
    show (Ordered.get? other (Ordered.set resource _ d.resources)).bind _ = _
    rw [Ordered.get?_set]
    simp only [Holdings.setOwner]
    split <;> rfl
  · funext x n
    exact congrArg (lastValue n) ((HoldsAs.addResource d resource type owner).attributesOf x)

/-- What was not known had no role, no owner and no values, and has none when it becomes known. -/
theorem holdings_know (d : Directory) (x : Holder) : (d.know x).holdings = d.holdings := by
  obtain ⟨kind, id⟩ := x
  cases kind <;> simp only [know] <;> split
  case subject.isFalse hnew =>
    rw [Ordered.has, Option.not_isSome_iff_eq_none] at hnew
    rw [holdings_addSubject]
    apply Holdings.ext
    · funext other
      simp only [Holdings.setRole]
      split
      case isTrue heq =>
        show none = (Ordered.get? other d.subjectRoles).join
        rw [← heq, hnew]
        rfl
      case isFalse => rfl
    · rfl
    · rfl
  case resource.isFalse hnew =>
    rw [Ordered.has, Option.not_isSome_iff_eq_none] at hnew
    rw [holdings_addResource]
    apply Holdings.ext
    · rfl
    · funext other
      simp only [Holdings.setOwner]
      split
      case isTrue heq =>
        show none = (Ordered.get? other d.resources).bind _
        rw [← heq, hnew]
        rfl
      case isFalse => rfl
    · rfl
  case role.isFalse => exact holdings_addRole d id none
  case action.isFalse => exact holdings_addAction d id
  all_goals rfl

/-! ## Definitions -/

/-- Each definition stands under its category and name and has an identifier of its own, and whatever
is held was defined. -/
structure IsTidy (d : Directory) : Prop where
  keyed : ∀ e ∈ d.definitions, e.1 = (e.2.category, e.2.name)
  nodup : (d.definitions.map (·.2.id)).Nodup
  spent : ∀ e ∈ d.definitions, Drawn.IsSpent d.drawn e.2.id
  defined : ∀ x, ∀ entry ∈ d.held x, entry.1 ∈ Ordered.values d.definitions

theorem IsTidy.empty : ({} : Directory).IsTidy where
  keyed := nofun
  nodup := List.nodup_nil
  spent := nofun
  defined := by
    rintro ⟨kind, id⟩ entry hentry
    cases kind <;> cases hentry

theorem IsTidy.of_holdsAs (h : d.IsTidy) (hsame : d'.HoldsAs d) : d'.IsTidy where
  keyed := hsame.definitions ▸ h.keyed
  nodup := hsame.definitions ▸ h.nodup
  spent := hsame.definitions ▸ hsame.drawn ▸ h.spent
  defined := by
    intro x entry hentry
    rw [hsame.held x] at hentry
    exact hsame.definitions ▸ h.defined x entry hentry

/-- Definitions of one identifier are one. -/
theorem IsTidy.eq_of_id_eq (h : d.IsTidy) {a b : AttributeDefinition}
    (ha : a ∈ Ordered.values d.definitions) (hb : b ∈ Ordered.values d.definitions)
    (hid : a.id = b.id) : a = b := by
  obtain ⟨e, he, rfl⟩ := List.mem_map.mp ha
  obtain ⟨e', he', rfl⟩ := List.mem_map.mp hb
  rw [List.inj_on_of_nodup_map h.nodup he he' hid]

/-- What is found or made as the definition of a name has this name and category, and nothing else in
the directory changes but that it is there. -/
structure Defines (d : Directory) (name : String) (category : Category)
    (a : AttributeDefinition) (d' : Directory) : Prop where
  tidy : d'.IsTidy
  mem : a ∈ Ordered.values d'.definitions
  name_eq : a.name = name
  category_eq : a.category = category
  rest : d' = { d with definitions := d'.definitions, drawn := d'.drawn }

/-- A name that has no definition in a category gets one with an identifier that is drawn. -/
theorem definitionOf_of_new {name : String} {category : Category}
    (h : Ordered.get? (category, name) d.definitions = none) (type : String) :
    d.definitionOf name category type =
      (⟨Drawn.identifier d.drawn, name, type, category, none, none⟩,
        { d with
          definitions := d.definitions ++
            [((category, name), ⟨Drawn.identifier d.drawn, name, type, category, none, none⟩)]
          drawn := d.drawn + 1 }) := by
  rw [definitionOf, h]
  simp only [addAttribute, identifier, Option.filter_none]
  rw [Ordered.set_of_not_mem (Ordered.get?_eq_none_iff.mp h)]

theorem defines_definitionOf (h : d.IsTidy) (name : String) (category : Category) (type : String) :
    d.Defines name category (d.definitionOf name category type).1
      (d.definitionOf name category type).2 := by
  cases hfound : Ordered.get? (category, name) d.definitions with
  | some a =>
      have hmem := Ordered.mem_of_get? hfound
      have hkey := h.keyed _ hmem
      injection hkey with hcategory hname
      rw [definitionOf, hfound]
      exact ⟨h, List.mem_map_of_mem hmem, hname.symm, hcategory.symm, rfl⟩
  | none =>
      rw [definitionOf_of_new hfound]
      refine ⟨⟨?_, ?_, ?_, ?_⟩, ?_, rfl, rfl, rfl⟩
      · intro e he
        rcases List.mem_append.mp he with hold | hnew
        · exact h.keyed e hold
        · rw [List.mem_singleton.mp hnew]
      · rw [List.map_append, List.nodup_append]
        refine ⟨h.nodup, List.pairwise_singleton _ _, ?_⟩
        intro id hid id' hid' heq
        obtain ⟨e, he, rfl⟩ := List.mem_map.mp hid
        exact h.spent e he d.drawn (Nat.le_refl _) (heq.trans (List.mem_singleton.mp hid'))
      · intro e he
        rcases List.mem_append.mp he with hold | hnew
        · exact (h.spent e hold).mono (Nat.le_succ _)
        · rw [List.mem_singleton.mp hnew]
          exact Drawn.isSpent_identifier d.drawn
      · intro x entry hentry
        rw [Ordered.values, List.map_append]
        exact List.mem_append_left _ (h.defined x entry hentry)
      · rw [Ordered.values, List.map_append]
        exact List.mem_append_right _ List.mem_cons_self

/-! ## Assigning -/

/-- Of a name, the last value is the one that was assigned last. -/
theorem lastValue_assign (h : d.IsTidy) {a : AttributeDefinition}
    (ha : a ∈ Ordered.values d.definitions) (value : String) (x : Holder) (n : String) :
    lastValue n ((assign a value (d.held x)).map fun entry => entry.1.withValue entry.2) =
      if a.name = n then some value
      else lastValue n ((d.held x).map fun entry => entry.1.withValue entry.2) := by
  rw [assign, List.map_append, List.map_singleton, lastValue_concat]
  have hname : (a.withValue value).name = a.name := rfl
  rw [hname]
  split
  · rfl
  case isFalse hother =>
    -- What makes way has the name of the definition, so it does not count.
    have hdefined := h.defined x
    generalize d.held x = held at hdefined
    induction held using List.reverseRecOn with
    | nil => rfl
    | append_singleton held entry ih =>
        have hrest := ih fun e he => hdefined e (List.mem_append_left _ he)
        rw [List.filter_append, List.map_append, List.map_append, List.map_singleton,
          lastValue_concat]
        by_cases hid : entry.1.id = a.id
        · have hsame : entry.1 = a :=
            h.eq_of_id_eq (hdefined entry (List.mem_append_right _ List.mem_cons_self)) ha hid
          have haway : (entry.1.withValue entry.2).name ≠ n := by
            rw [hsame]
            exact hother
          rw [if_neg haway, List.filter_cons_of_neg (by simpa using hid), List.filter_nil,
            List.map_nil, List.append_nil]
          exact hrest
        · rw [List.filter_cons_of_pos (by simpa using hid), List.filter_nil, List.map_singleton,
            lastValue_concat, hrest]

theorem held_withTable (d : Directory) (k : HolderKind) (t : List (String × Assignments))
    (y : Holder) :
    (d.withTable k t).held y =
      if k = y.kind then (Ordered.get? y.id t).getD [] else d.held y := by
  rw [held, table_withTable]
  split <;> rfl

/-- Assigning to a holder leaves what every other holder has. -/
theorem held_assignTo (d : Directory) (x y : Holder) (a : AttributeDefinition) (value : String) :
    (d.withTable x.kind (assignTo x.id a value (d.table x.kind))).held y =
      if x = y then assign a value (d.held x) else d.held y := by
  rw [held_withTable, assignTo, Ordered.get?_set]
  obtain ⟨kind, id⟩ := x
  obtain ⟨kind', id'⟩ := y
  by_cases hkind : kind = kind'
  · subst hkind
    by_cases hid : id = id'
    · subst hid
      simp [held]
    · simp [hid, held]
  · simp [hkind]

/-- What is assigned is held, and was defined. -/
theorem IsTidy.assignTo (h : d.IsTidy) {a : AttributeDefinition}
    (ha : a ∈ Ordered.values d.definitions) (x : Holder) (value : String) :
    (d.withTable x.kind (assignTo x.id a value (d.table x.kind))).IsTidy where
  keyed := by simpa using h.keyed
  nodup := by simpa using h.nodup
  spent := by simpa using h.spent
  defined := by
    intro y entry hentry
    rw [definitions_withTable]
    rw [held_assignTo] at hentry
    split at hentry
    · rcases List.mem_append.mp hentry with hkept | hnew
      · exact h.defined x entry (List.mem_filter.mp hkept).1
      · rw [List.mem_singleton.mp hnew]
        exact ha
    · exact h.defined y entry hentry

/-! ## Filling -/

/-- A directory is filled with something: it keeps this, and stays tidy. -/
structure Fills (d : Directory) (h : Holdings) (environment : List EnvironmentValue)
    (d' : Directory) : Prop where
  tidy : d'.IsTidy
  failing : d'.failing = d.failing
  environment : d'.environment = environment
  holdings : d'.holdings = h

theorem IsTidy.fills_of_holdsAs (h : d.IsTidy) (hsame : d'.HoldsAs d) :
    d.Fills d'.holdings d.environment d' :=
  ⟨h.of_holdsAs hsame, hsame.failing, hsame.environment, rfl⟩

/-- A value that is assigned is the last one of its name, and no other holder gets it. -/
theorem IsTidy.fills_give (h : d.IsTidy) (x : Holder) (name type : String) {value : Value}
    (hvalue : value.HasString) :
    d.Fills (d.holdings.give x name value.string) d.environment
      (d.give x name type value).2 := by
  have hknown := HoldsAs.know d x
  have hdefines := defines_definitionOf (h.of_holdsAs hknown) name x.kind.category type
  rw [← holdings_know d x, give_eq hvalue]
  generalize (d.know x).definitionOf name x.kind.category type = defined at hdefines
  obtain ⟨a, d'⟩ := defined
  obtain ⟨htidy, hmem, hname, -, hrest⟩ := hdefines
  dsimp only at htidy hmem hname hrest ⊢
  have hheld : ∀ y, d'.held y = (d.know x).held y := by
    rintro ⟨kind, id⟩
    rw [hrest]
    cases kind <;> rfl
  refine ⟨htidy.assignTo hmem x value.string, ?_, ?_, ?_⟩
  · rw [failing_withTable, hrest]
    exact hknown.failing
  · rw [environment_withTable, hrest]
    exact hknown.environment
  apply Holdings.ext
  · funext subject
    show (withTable d' _ _).roleOf subject = _
    rw [roleOf_withTable, hrest]
    rfl
  · funext resource
    show (withTable d' _ _).ownerOf resource = _
    rw [ownerOf_withTable, hrest]
    rfl
  · funext y n
    show lastValue n ((held _ y).map fun entry => entry.1.withValue entry.2) = _
    rw [held_assignTo]
    simp only [Holdings.give]
    by_cases hxy : x = y
    · subst hxy
      rw [if_pos rfl, lastValue_assign htidy hmem, hname, hheld]
      simp only [true_and]
      rfl
    · rw [if_neg hxy, hheld, if_neg fun hboth => hxy hboth.1]
      rfl

/-- A value of the environment comes after all others. -/
theorem IsTidy.fills_assignEnvironment (h : d.IsTidy) (name type : String) {value : Value}
    (hvalue : value.HasString) (window : Window) :
    ∃ a : AttributeDefinition, a.name = name ∧
      d.Fills d.holdings (d.environment ++ [⟨a, value.string, window⟩])
        (d.assignEnvironment name type value window).2 := by
  have hdefines := defines_definitionOf h name .environment type
  simp only [assignEnvironment, writing_eq hvalue]
  generalize d.definitionOf name .environment type = defined at hdefines
  obtain ⟨a, d'⟩ := defined
  obtain ⟨htidy, -, hname, -, hrest⟩ := hdefines
  dsimp only at htidy hname hrest ⊢
  refine ⟨a, hname, ⟨htidy.keyed, htidy.nodup, htidy.spent, ?_⟩, ?_, ?_, ?_⟩
  · rintro ⟨kind, id⟩ entry hentry
    exact htidy.defined ⟨kind, id⟩ entry (by cases kind <;> exact hentry)
  · rw [hrest]
  · rw [hrest]
  · rw [hrest]
    apply Holdings.ext
    · rfl
    · rfl
    · funext x n
      obtain ⟨kind, id⟩ := x
      cases kind <;> rfl

end Directory

end Clearance
