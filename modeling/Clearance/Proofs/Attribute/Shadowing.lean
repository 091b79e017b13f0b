/-
# When the context of a request hides an attribute

A reference that stands for an attribute of the subject, the resource or the action stands for the
same attribute whatever the context is, with one exception. A bare name is searched for as it is
written before it is searched for in the stored style. So a bare name that no stored attribute has,
and that only its stored style leads to an attribute, is taken over by a key of the context that is
spelt like it.
-/

import Clearance.Proofs.Attribute.Referring
import Clearance.Proofs.Directory.Loading
import Clearance.Proofs.Service.Life

namespace Clearance

namespace AttributeMap

variable {m : AttributeMap} {a : Attribute} {ref : Option String} {name : String}
  {context : List (String × Value)}

/-! ## Shadowing -/

/-- A key of the context is spelt like a bare name that no attribute has. -/
def IsShadowedBy (m : AttributeMap) (ref : Option String) (context : List (String × Value)) : Prop :=
  ∃ name, Reference.ofString (ref.getD "") = .bare name ∧ m.named name = [] ∧
    name ∈ context.map (·.1)

theorem isShadowedBy_iff_of_bare (href : Reference.ofString (ref.getD "") = .bare name) :
    m.IsShadowedBy ref context ↔ m.first name = none ∧ name ∈ context.map (·.1) := by
  rw [IsShadowedBy, href, first_eq_none_iff]
  constructor
  · rintro ⟨name', hname, hrest⟩
    cases hname
    exact hrest
  · exact fun hrest => ⟨name, rfl, hrest⟩

theorem not_isShadowedBy_of_qualified {category : String}
    (href : Reference.ofString (ref.getD "") = .qualified category name) :
    ¬m.IsShadowedBy ref context := by
  rintro ⟨name', hbare, _⟩
  rw [href] at hbare
  cases hbare

/-- A qualified reference to an attribute outside of the environment keeps its meaning. -/
theorem resolve_withContext_of_qualified (hm : m.IsKeyed) {category : String}
    (href : Reference.ofString (ref.getD "") = .qualified category name) {c : Category}
    (ha : m.resolve false ref = .found a) (hcategory : a.category = c.name)
    (hc : c ≠ .environment) (context : List (String × Value)) :
    (m.withContext context).resolve false ref = .found a := by
  obtain ⟨c', rfl⟩ := category_of_ofString href
  rw [resolve_eq_found_iff_of_qualified href] at ha ⊢
  have hc' : c' ≠ .environment := by
    intro henvironment
    have hfound := hm.category_of_findQualified ha
    rw [hcategory, henvironment] at hfound
    exact hc (Category.name_inj.mp hfound)
  rw [← (m.agrees_withContext context).findQualified (normalizeCategory_name c') hc']
  exact ha

/-- The first candidate of a bare name stays what it is unless only the stored style of the name leads
to it and the name is a key of the context. -/
theorem head?_candidates_withContext_iff (hm : m.IsKeyed) {c : Category}
    (ha : (m.candidates name).head? = some a) (hcategory : a.category = c.name)
    (hc : c ≠ .environment) (context : List (String × Value)) :
    ((m.withContext context).candidates name).head? = some a ↔
      ¬(m.first name = none ∧ name ∈ context.map (·.1)) := by
  rw [head?_candidates] at ha ⊢
  cases hfirst : m.first name with
  | some b =>
      rw [hfirst] at ha
      obtain rfl : b = a := Option.some.inj ha
      rw [first_withContext hm hfirst hcategory hc]
      simp
  | none =>
      rw [hfirst] at ha
      by_cases hsnake : snakeCase name = name
      · simp only [hsnake, if_true] at ha
        cases ha
      · simp only [hsnake, if_false] at ha ⊢
        by_cases hkey : name ∈ context.map (·.1)
        · -- The key of the context comes first now, and it belongs to the environment.
          have hsome : (m.withContext context).first name ≠ none := fun hnone =>
            ((first_withContext_eq_none_iff hm name context).mp hnone).2 hkey
          obtain ⟨b, hb⟩ := Option.ne_none_iff_exists'.mp hsome
          have hb' := category_first_withContext hm (by simp [hfirst]) hb
          have hne : b ≠ a := by
            rintro rfl
            exact hc (Category.name_inj.mp (hcategory.symm.trans hb'))
          rw [hb]
          simp [hne, hkey]
        · have hnone := (first_withContext_eq_none_iff hm name context).mpr ⟨hfirst, hkey⟩
          rw [hnone]
          simp only [first_withContext hm ha hcategory hc, hkey, and_false, not_false_eq_true]

/-- A reference to an attribute outside of the environment keeps its meaning in every context that
does not shadow it, and only there. -/
theorem resolve_withContext_iff (hm : m.IsKeyed) {c : Category}
    (ha : m.resolve false ref = .found a) (hcategory : a.category = c.name)
    (hc : c ≠ .environment) (context : List (String × Value)) :
    (m.withContext context).resolve false ref = .found a ↔ ¬m.IsShadowedBy ref context := by
  rcases href : Reference.ofString (ref.getD "") with ⟨category, name⟩ | name
  · have hfound := resolve_withContext_of_qualified hm href ha hcategory hc context
    exact ⟨fun _ => not_isShadowedBy_of_qualified href, fun _ => hfound⟩
  · rw [resolve_eq_found_iff_of_bare href] at ha ⊢
    rw [isShadowedBy_iff_of_bare href]
    exact head?_candidates_withContext_iff hm ha hcategory hc context

end AttributeMap

/-! ## Gathering with and without a context -/

namespace Service

variable {σ : Type} {service : Service σ} {w : World σ} {subject action : String}
  {resource resourceType : Option String} {m : AttributeMap}

/-- With a context that can be written, the map that is gathered is the one without it and the context
written over it; with another one, no map is gathered. -/
theorem gather_context_iff {m' : AttributeMap}
    (h : (service.gather subject action resource resourceType [] w).1 = some (.ok m))
    (context : List (String × Value)) :
    (service.gather subject action resource resourceType context w).1 = some (.ok m') ↔
      Value.HaveStrings context ∧ m' = m.withContext context := by
  obtain ⟨w', hyields⟩ := service.yields_of_attempt_eq_some h
  obtain ⟨stored, w₁, hstored, hwhole⟩ := gather_yields.mp ⟨w', hyields⟩
  have hwrite : ∀ stored : AttributeMap,
      stored.forRequest w.now resourceType [] = .ok m →
      (stored.forRequest w.now resourceType context = .ok m' ↔
        Value.HaveStrings context ∧ m' = m.withContext context) := by
    intro stored hwhole
    rw [AttributeMap.forRequest_eq_bind, hwhole]
    exact AttributeMap.addContext_eq_ok_iff
  constructor
  · intro hgather
    obtain ⟨w'', hyields'⟩ := service.yields_of_attempt_eq_some hgather
    obtain ⟨stored', w₁', hstored', hwhole'⟩ := gather_yields.mp ⟨w'', hyields'⟩
    cases hstored.symm.trans hstored'
    exact (hwrite stored hwhole).mp hwhole'
  · intro hcontext
    obtain ⟨w'', hyields'⟩ :=
      gather_yields.mpr ⟨stored, w₁, hstored, (hwrite stored hwhole).mpr hcontext⟩
    exact congrArg Prod.fst (service.attempt_of_yields hyields')

/-- **Shadowing.** Wherever a service lives, take a reference that stands for an attribute of the
subject, the resource or the action when the context is empty. With another context a map is gathered
exactly if the context can be written, and in that map the reference stands for the same attribute
exactly when the context does not shadow it. -/
theorem resolve_gather_iff (hw : service.Lives w)
    (h : (service.gather subject action resource resourceType [] w).1 = some (.ok m))
    {ref : Option String} {a : Attribute} {c : Category} (ha : m.resolve false ref = .found a)
    (hcategory : a.category = c.name) (hc : c ≠ .environment)
    (context : List (String × Value)) :
    ((∃ m', (service.gather subject action resource resourceType context w).1 = some (.ok m')) ↔
      Value.HaveStrings context) ∧
    ∀ m', (service.gather subject action resource resourceType context w).1 = some (.ok m') →
      (m'.resolve false ref = .found a ↔ ¬m.IsShadowedBy ref context) := by
  obtain ⟨w', hyields⟩ := service.yields_of_attempt_eq_some h
  have hm : m.IsKeyed := isKeyed_of_gather_yields hw.isKeyed hyields
  simp only [gather_context_iff h]
  constructor
  · exact ⟨fun ⟨_, hcontext, _⟩ => hcontext, fun hcontext => ⟨_, hcontext, rfl⟩⟩
  · rintro _ ⟨-, rfl⟩
    exact AttributeMap.resolve_withContext_iff hm ha hcategory hc context

end Service

namespace Directory

/-- The name of the action that is read in the reading room. -/
def readingAction : Attribute :=
  ⟨"dynamic-action-name", "action_name", "string", Category.action.name, "read"⟩

/-- A name in the stored style does not get between a reference and its attribute. -/
theorem readingRoom_resolve_actionName :
    ∃ m, ((service {}).gather "ann" "read" none none [("action_name", .text "delete")]
        readingWorld).1 = some (.ok m) ∧
      m.resolve false (some "actionName") = .found readingAction := by
  have hw : (service {}).Lives readingWorld :=
    .elsewhere (.begin rfl readingRoom readingWorld.now 0.0 false) rfl
  have hm : ((service {}).gather "ann" "read" none none [] readingWorld).1 =
      some (.ok readingMap) := rfl
  have ha : readingMap.resolve false (some "actionName") = .found readingAction := by
    decide +kernel
  obtain ⟨hgathers, hresolves⟩ := Service.resolve_gather_iff hw hm (c := .action) ha rfl nofun
    [("action_name", .text "delete")]
  obtain ⟨m, hgather⟩ := hgathers.mpr (by decide)
  refine ⟨m, hgather, (hresolves m hgather).mpr ?_⟩
  rintro ⟨name, hbare, -, hkey⟩
  have hname : Reference.ofString "actionName" = .bare "actionName" := by decide +kernel
  rw [Option.getD_some, hname] at hbare
  cases hbare
  revert hkey
  decide

/-- A key of the context that is spelt like the reference takes it over. -/
theorem readingRoom_actionName_shadowed :
    ∃ m m', ((service {}).gather "ann" "read" none none [] readingWorld).1 = some (.ok m) ∧
      m.resolve false (some "actionName") = .found readingAction ∧
      readingAction.category = Category.action.name ∧
      ((service {}).gather "ann" "read" none none [("actionName", .text "delete")]
        readingWorld).1 = some (.ok m') ∧
      m'.resolve false (some "actionName") ≠ .found readingAction := by
  refine ⟨readingMap, readingMap.withContext [("actionName", .text "delete")], rfl, ?_, rfl, rfl, ?_⟩
  · decide +kernel
  · decide +kernel

end Directory

end Clearance
