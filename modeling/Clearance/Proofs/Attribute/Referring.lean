/-
# What references come to

A qualified reference names a category, and what it comes to depends only on the attributes of that
category. A bare name is searched for in the whole map; outside of strict mode its first candidate
counts.
-/

import Clearance.Proofs.Attribute.Context
import Clearance.Proofs.Text.Blank

namespace Clearance

/-! ## Categories of references -/

theorem normalizeCategory_name (c : Category) : normalizeCategory (some c.name) = c.name := by
  cases c <;> decide +kernel

theorem exists_of_isCategoryName {name : String} (h : isCategoryName name) :
    ∃ c : Category, name = c.name := by
  simp only [isCategoryName] at h
  obtain ⟨c, hc⟩ := Option.isSome_iff_exists.mp h
  have hname := List.find?_some hc
  exact ⟨c, (beq_iff_eq.mp hname).symm⟩

/-- A qualified reference names one of the categories. -/
theorem category_of_ofString {s category name : String}
    (h : Reference.ofString s = .qualified category name) : ∃ c : Category, category = c.name := by
  simp only [Reference.ofString] at h
  rcases hcut : Text.cutAt '.' s.toList with _ | ⟨before, after⟩
  · rw [hcut] at h
    cases h
  · rw [hcut] at h
    dsimp only at h
    by_cases hname : (isCategoryName (normalizeCategory (some (String.ofList before))) &&
        !after.isEmpty) = true
    · rw [if_pos hname] at h
      obtain ⟨hcategory, -⟩ := Reference.qualified.inj h
      rw [← hcategory]
      exact exists_of_isCategoryName (Bool.and_eq_true_iff.mp hname).1
    · rw [if_neg hname] at h
      cases h

/-- A text is cut at the first mark in it. -/
theorem Text.cutAt_append {mark : Char} {before : List Char} (h : mark ∉ before)
    (after : List Char) : cutAt mark (before ++ mark :: after) = some (before, after) := by
  induction before with
  | nil => exact if_pos rfl
  | cons c rest ih =>
      obtain ⟨hc, hrest⟩ := not_or.mp (mt List.mem_cons.mpr h)
      rw [List.cons_append, cutAt, if_neg (Ne.symm hc), ih hrest, Option.map_some]

/-- A text that normalizes to a category has no point in it. -/
theorem point_not_mem_of_normalizeCategory {type : String} {c : Category}
    (h : normalizeCategory (some type) = c.name) : '.' ∉ type.toList := by
  intro hpoint
  have hword : '.' ∈ (Text.lower (Text.strip type)).toList := by
    apply Text.mem_lower (by decide)
    exact (Text.mem_strip_iff (by decide)).mpr hpoint
  simp only [normalizeCategory, Option.getD_some] at h
  generalize Text.lower (Text.strip type) = word at h hword
  by_cases halias : word ∈ categoryAliases.map Prod.fst
  · have hall : ∀ word ∈ categoryAliases.map Prod.fst, '.' ∉ word.toList := by decide
    exact hall word halias hword
  · have hlookup : categoryAliases.lookup word = none := by
      rw [List.lookup_eq_none_iff]
      intro entry hentry
      apply bne_iff_ne.mpr
      rintro rfl
      exact halias (List.mem_map_of_mem hentry)
    rw [hlookup] at h
    dsimp only at h
    rw [h] at hword
    cases c <;> exact absurd hword (by decide)

/-- A text that normalizes to a category, a point and a name that is not empty refer to the name in
this category. -/
theorem Reference.ofString_of_normalizeCategory {type n : String} {c : Category}
    (h : normalizeCategory (some type) = c.name) (hn : n ≠ "") :
    Reference.ofString (attributeKey type n) = .qualified c.name n := by
  have hcategory : isCategoryName c.name = true := by cases c <;> decide
  have hname : n.toList.isEmpty = false := by simpa using hn
  have hchars : (attributeKey type n).toList = type.toList ++ '.' :: n.toList := by
    simp [attributeKey]
  rw [ofString, hchars, Text.cutAt_append (point_not_mem_of_normalizeCategory h)]
  simp only [String.ofList_toList, h, hcategory, hname, Bool.not_false, Bool.and_self, if_true]

/-- The key of a name that is not empty refers to the name in its category. -/
theorem Reference.ofString_attributeKey (c : Category) {n : String} (hn : n ≠ "") :
    Reference.ofString (attributeKey c.name n) = .qualified c.name n :=
  ofString_of_normalizeCategory (normalizeCategory_name c) hn

/-- A bare reference is a name as it is written. -/
theorem eq_of_ofString_bare {s name : String} (h : Reference.ofString s = .bare name) :
    name = s := by
  simp only [Reference.ofString] at h
  split at h
  · split at h
    · cases h
    · exact (Reference.bare.inj h).symm
  · exact (Reference.bare.inj h).symm

namespace AttributeMap

variable {m m' : AttributeMap} {a : Attribute} {ref : Option String} {name : String}

/-! ## What a reference comes to -/

theorem head?_candidates (m : AttributeMap) (name : String) :
    (m.candidates name).head? =
      match m.first name with
      | some a => some a
      | none => if snakeCase name = name then none else m.first (snakeCase name) := by
  simp only [candidates, first]
  rcases m.named name with _ | ⟨a, rest⟩
  · by_cases hsnake : snakeCase name = name <;> simp [hsnake]
  · rfl

/-- A bare name stands for its first candidate. -/
theorem resolve_eq_found_iff_of_bare (href : Reference.ofString (ref.getD "") = .bare name) :
    m.resolve false ref = .found a ↔ (m.candidates name).head? = some a := by
  simp only [resolve]
  rw [href]
  rcases hcandidates : m.candidates name with _ | ⟨b, _ | ⟨b', rest⟩⟩ <;> simp [hcandidates]

theorem resolve_eq_found_iff_of_qualified {strict : Bool} {c : Category}
    (href : Reference.ofString (ref.getD "") = .qualified c.name name) :
    m.resolve strict ref = .found a ↔ m.findQualified (some c.name) name = some a := by
  simp only [resolve]
  rw [href]
  rcases hfound : m.findQualified (some c.name) name with _ | b <;> simp [hfound]

/-- An attribute that a qualified name stands for belongs to its category. -/
theorem IsKeyed.category_of_findQualified (hm : m.IsKeyed) {c : Category}
    (h : m.findQualified (some c.name) name = some a) : a.category = c.name := by
  rw [findQualified] at h
  rw [normalizeCategory_name] at h
  dsimp only at h
  split at h
  · rename_i found hfound
    cases h
    exact (hm.of_get? hfound).1
  · split at h
    · cases h
    · exact (hm.of_get? h).1

/-- An attribute is what its key refers to, unless its name is empty. -/
theorem IsKeyed.resolve_key (hm : m.IsKeyed) {e : String × Attribute} (he : e ∈ m.entries)
    (hname : e.2.name ≠ "") (strict : Bool) : m.resolve strict (some e.1) = .found e.2 := by
  obtain ⟨c, hc⟩ := hm.category e he
  have hkey : e.1 = attributeKey c.name e.2.name := by rw [hm.key_eq e he, Attribute.key, hc]
  have hfound : m.get? (attributeKey c.name e.2.name) = some e.2 :=
    Ordered.get?_of_mem hm.nodup (hkey ▸ he)
  have href : Reference.ofString ((some e.1).getD "") = .qualified c.name e.2.name := by
    rw [Option.getD_some, hkey]
    exact Reference.ofString_attributeKey c hname
  rw [resolve_eq_found_iff_of_qualified href, findQualified, normalizeCategory_name]
  simp only [hfound]

/-! ## Names without their category -/

/-- A name that is found in one category only stands for the attribute under its key. -/
theorem IsKeyed.named_eq_toList (hm : m.IsKeyed) {c : Category}
    (honly : ∀ a ∈ m.toList, a.name = name → a.category = c.name) :
    m.named name = (m.get? (attributeKey c.name name)).toList := by
  have hsame : ∀ e ∈ m.entries,
      decide (e.2.name = name) = decide (e.1 = attributeKey c.name name) := by
    intro e he
    rw [decide_eq_decide]
    constructor
    · intro hname
      have hcategory := honly e.2 (List.mem_map_of_mem he) hname
      rw [hm.key_eq e he, Attribute.key, hcategory, hname]
    · exact fun hkey => (hm.of_mem he hkey).2
  have hvalues := Ordered.values_filter_key hm.nodup (attributeKey c.name name)
  rw [get?, ← hvalues, named, toList, Ordered.values, List.filter_map, Ordered.values,
    ← List.filter_congr hsame]
  rfl

/-- A name that is found in one category only, as it is and in the stored style, has the attribute
that its qualified reference stands for as its only candidate. -/
theorem IsKeyed.candidates_eq_toList (hm : m.IsKeyed) {c : Category}
    (honly : ∀ a ∈ m.toList, a.name = name ∨ a.name = snakeCase name → a.category = c.name) :
    m.candidates name = (m.findQualified (some c.name) name).toList := by
  have hname := hm.named_eq_toList fun a ha h => honly a ha (.inl h)
  have hsnake := hm.named_eq_toList fun a ha h => honly a ha (.inr h)
  simp only [candidates, findQualified, normalizeCategory_name, hname, hsnake]
  cases m.get? (attributeKey c.name name) with
  | some a => rfl
  | none =>
      by_cases hstyle : snakeCase name = name
      · simp only [Option.toList_none, if_pos hstyle]
      · simp only [Option.toList_none, if_neg hstyle]

/-- A bare name that is found in one category only comes to what its qualified reference does, in
strict mode too. -/
theorem IsKeyed.resolve_bare (hm : m.IsKeyed) {s : String} {c : Category}
    (hs : Reference.ofString s = .qualified c.name name)
    (hname : Reference.ofString name = .bare name)
    (honly : ∀ a ∈ m.toList, a.name = name ∨ a.name = snakeCase name → a.category = c.name)
    (strict : Bool) : m.resolve strict (some name) = m.resolve strict (some s) := by
  have hcandidates := hm.candidates_eq_toList honly
  simp only [resolve, Option.getD_some]
  rw [hs, hname]
  simp only [hcandidates]
  cases m.findQualified (some c.name) name with
  | some a => rfl
  | none => rfl

/-! ## Agreement -/

/-- A qualified name of another category than the environment comes to the same on maps that agree. -/
theorem Agrees.findQualified (hm : m.Agrees m') {category : Option String} {c : Category}
    (hcategory : normalizeCategory category = c.name) (hc : c ≠ .environment) (name : String) :
    m.findQualified category name = m'.findQualified category name := by
  simp only [AttributeMap.findQualified]
  rw [hcategory]
  simp only [hm c hc]

end AttributeMap

end Clearance
