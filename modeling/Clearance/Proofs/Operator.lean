/-
# Comparing with string forms

A comparison reads the actual value only through its string form, and the expected one too. So it comes
to the same for two values that have string forms as it does for these forms. There is one exception:
where the expected value of a membership is a sequence, its items are compared, and its string form
brings them back only if there are any and none has a comma in it. This is the only exception: for each
such sequence there is a value on which its string form gives another answer.

A value without a string form has nothing to be compared by. Most comparisons that read it fail; one
that does not read it gives an answer all the same.
-/

import Clearance.Operator
import Clearance.Proofs.Text.Blank
import Clearance.Proofs.Value.Spelling
import Mathlib.Tactic.ByContra

namespace Clearance

/-! ## Pieces between separators -/

namespace Text

variable {separator : Char} {piece cs : List Char}

theorem splitAt_of_not_mem (h : separator ∉ piece) : splitAt separator piece = [piece] := by
  induction piece with
  | nil => rfl
  | cons c rest ih =>
      have hc : c ≠ separator := fun hc => h (hc ▸ List.mem_cons_self)
      have hrest : separator ∉ rest := fun hrest => h (List.mem_cons_of_mem c hrest)
      rw [splitAt, if_neg hc, ih hrest]

theorem splitAt_append (h : separator ∉ piece) (rest : List Char) :
    splitAt separator (piece ++ separator :: rest) = piece :: splitAt separator rest := by
  induction piece with
  | nil => exact if_pos rfl
  | cons c more ih =>
      have hc : c ≠ separator := fun hc => h (hc ▸ List.mem_cons_self)
      have hmore : separator ∉ more := fun hmore => h (List.mem_cons_of_mem c hmore)
      rw [List.cons_append, splitAt, if_neg hc, ih hmore]

theorem not_mem_of_mem_splitAt (h : piece ∈ splitAt separator cs) : separator ∉ piece := by
  induction cs generalizing piece with
  | nil =>
      rw [splitAt, List.mem_singleton] at h
      exact h ▸ List.not_mem_nil
  | cons c rest ih =>
      rw [splitAt] at h
      split at h
      next =>
        rcases List.mem_cons.mp h with rfl | hrest
        · exact List.not_mem_nil
        · exact ih hrest
      next hc =>
        have hne : separator ≠ c := fun heq => hc heq.symm
        -- the character goes to the front of the first piece; the other pieces stay
        cases hpieces : splitAt separator rest with
        | nil =>
            rw [hpieces, List.mem_singleton] at h
            rw [h, List.mem_singleton]
            exact hne
        | cons first others =>
            rw [hpieces] at h ih
            rcases List.mem_cons.mp h with rfl | hothers
            · rw [List.mem_cons, not_or]
              exact ⟨hne, ih List.mem_cons_self⟩
            · exact ih (List.mem_cons_of_mem first hothers)

end Text

namespace Value

/-- A sequence comes back from its string form: it has items, and no item has a comma in it. -/
def IsJoinable (v : Value) : Prop :=
  ∀ items, v.items? = some items → items ≠ [] ∧ ∀ item ∈ items, ',' ∉ item.string.toList

/-- The string form of items falls apart into the string forms of the items. -/
theorem split_stringItems {items : List Value} (hitems : items ≠ [])
    (hfree : ∀ item ∈ items, ',' ∉ item.string.toList) :
    Text.split ',' (stringItems items) = items.map string := by
  induction items with
  | nil => exact absurd rfl hitems
  | cons item rest ih =>
      have hitem : ',' ∉ item.string.toList := hfree item List.mem_cons_self
      cases rest with
      | nil =>
          rw [stringItems, Text.split, Text.splitAt_of_not_mem hitem]
          simp only [List.map_cons, List.map_nil, String.ofList_toList]
      | cons next more =>
          have hrest := ih (List.cons_ne_nil next more)
            fun i hi => hfree i (List.mem_cons_of_mem item hi)
          have hsplit : Text.split ',' (stringItems (item :: next :: more)) =
              item.string :: Text.split ',' (stringItems (next :: more)) := by
            simp only [Text.split, stringItems, String.toList_append, List.append_assoc]
            rw [show ",".toList = [','] from rfl, List.singleton_append,
              Text.splitAt_append hitem, List.map_cons, String.ofList_toList]
          rw [hsplit, hrest]
          rfl

/-- The string form of a sequence is that of its items. -/
theorem string_of_items? {v : Value} {items : List Value} (h : v.items? = some items) :
    v.string = stringItems items := by
  cases v <;> cases h <;> rfl

end Value

namespace Operator

/-- A comparison that asks for membership. -/
def IsMembership (o : Operator) : Prop := o = isIn ∨ o = notIn

/-- If an operator asks for membership, the expected value comes back from its string form. -/
def Joins (operator : Option String) (expected : Value) : Prop :=
  ∀ o, parse operator = some o → o.IsMembership → expected.IsJoinable

/-- What a text lists are its pieces between commas. -/
theorem items_text (s : String) :
    items (.text s) = .ok ((Text.split ',' s).map Text.strip) := rfl

/-- What a sequence lists are the string forms of its items. -/
theorem items_of_items? {v : Value} {values : List Value} (hv : v.HasString)
    (hvalues : v.items? = some values) :
    items v = .ok (values.map fun item => Text.strip item.string) := by
  have hspelled : ∀ item ∈ values,
      (item.spelled.map Text.strip) = .ok (Text.strip item.string) := by
    intro item hitem
    rw [(hv.item hvalues hitem).spelled]
    rfl
  simp only [items, hvalues]
  clear hvalues
  induction values with
  | nil => rfl
  | cons item rest ih =>
      rw [List.mapM_cons, hspelled item List.mem_cons_self,
        ih fun i hi => hspelled i (List.mem_cons_of_mem item hi)]
      rfl

theorem items_text_string {v : Value} (hv : v.HasString) (hjoin : v.IsJoinable) :
    items (.text v.string) = items v := by
  rw [items_text]
  cases hvalues : v.items? with
  | none =>
      simp only [items, hvalues, hv.spelled]
      rfl
  | some values =>
      obtain ⟨hne, hfree⟩ := hjoin values hvalues
      rw [items_of_items? hv hvalues, Value.string_of_items? hvalues,
        Value.split_stringItems hne hfree, List.map_map]
      rfl

/-- A string form spells the number that its value does; the words for truth values spell none. -/
theorem number?_text_string {v : Value} (hv : v.HasString) :
    number? (.text v.string) = number? v := by
  cases v with
  | bool b => cases b <;> rfl
  | _ =>
      simp only [number?, Value.spelled_text, hv.spelled]

/-! ## What may fail -/

section Outcomes

variable {α β : Type} {outcome : Except Fault α} {fault : Fault}

end Outcomes

/-- What an operator asks of the expected value before it looks at the actual one. -/
def read (o : Operator) (expected : Value) : Except Fault Unit :=
  match o with
  | equals | notEquals | contains | notContains | regex => expected.spelled.map fun _ => ()
  | greaterThan | lessThan => (number? expected).map fun _ => ()
  | isIn | notIn => (items expected).map fun _ => ()
  | present | absent => .ok ()

/-- A comparison with an expected value is refused: the value cannot be read, or it is searched for as a
pattern that is refused for more than its form. -/
def IsRefused (o : Operator) (expected : Value) (fault : Fault) : Prop :=
  o.read expected = .error fault ∨
    o = regex ∧ ∃ s refusal, expected.spelled = .ok s ∧ Pattern.read s = .error refusal ∧
      patternFault refusal = some fault

/-- A comparison with a value is one with its string form. -/
theorem apply_text_string {o : Operator} (actual : Value) {v : Value} (hv : v.HasString)
    (hjoin : o.IsMembership → v.IsJoinable) :
    o.apply actual (.text v.string) = o.apply actual v := by
  cases o with
  | isIn => simp only [apply, listed, items_text_string hv (hjoin (.inl rfl))]
  | notIn => simp only [apply, listed, items_text_string hv (hjoin (.inr rfl))]
  | greaterThan | lessThan => simp only [apply, compare, number?_text_string hv]
  | present | absent => rfl
  | _ => simp only [apply, same, includes, found, Value.spelled_text, hv.spelled]

theorem filled_text_string {v : Value} (hv : v.HasString) : filled (.text v.string) = filled v := by
  cases v with
  | null => rfl
  | _ => simp only [filled, Value.spelled_text, hv.spelled]

/-- A comparison of a value is one of its string form. -/
theorem apply_actual_text_string (o : Operator) {actual : Value} (ha : actual.HasString)
    (expected : Value) : o.apply (.text actual.string) expected = o.apply actual expected := by
  cases o with
  | greaterThan | lessThan => simp only [apply, compare, number?_text_string ha]
  | present | absent => simp only [apply, filled_text_string ha]
  | _ => simp only [apply, same, includes, listed, found, Value.spelled_text, ha.spelled]

/-! ## Both sides -/

/-- What a text lists has no comma in it. -/
theorem comma_not_mem_of_mem_items {s item : String}
    (h : item ∈ (Text.split ',' s).map Text.strip) : ',' ∉ item.toList := by
  rw [Text.split, List.map_map] at h
  obtain ⟨piece, hpiece, rfl⟩ := List.mem_map.mp h
  rw [Function.comp_apply, Text.mem_strip_iff rfl, String.toList_ofList]
  exact Text.not_mem_of_mem_splitAt hpiece

/-- Nothing is listed in the empty sequence, but the empty text is listed in its string form. An
item with a comma in it is listed in its sequence, but not in the string form of that sequence. -/
theorem exists_listed_ne {v : Value} (hv : v.HasString) (hjoin : ¬v.IsJoinable) :
    ∃ actual : Value, ∃ holds : Bool, actual.HasString ∧ listed actual v = .ok holds ∧
      listed actual (.text v.string) = .ok (!holds) := by
  simp only [Value.IsJoinable, not_forall] at hjoin
  obtain ⟨values, hvalues, hbad⟩ := hjoin
  have hitems := items_of_items? hv hvalues
  rw [not_and_or, not_not] at hbad
  rcases hbad with rfl | hcomma
  · have hstring : v.string = "" := Value.string_of_items? hvalues
    refine ⟨.text "", false, rfl, ?_, ?_⟩
    · rw [listed, hitems]
      rfl
    · rw [hstring]
      rfl
  · simp only [not_forall, not_not] at hcomma
    obtain ⟨item, hitem, hcomma⟩ := hcomma
    have hspelled := (hv.item hvalues hitem).spelled
    refine ⟨item, true, hv.item hvalues hitem, ?_, ?_⟩
    · have hmem : Text.strip item.string ∈ values.map fun item => Text.strip item.string :=
        List.mem_map_of_mem hitem
      rw [listed, hitems, hspelled]
      exact congrArg Except.ok (List.contains_iff_mem.mpr hmem)
    · have hmem : Text.strip item.string ∉ (Text.split ',' v.string).map Text.strip := by
        intro hmem
        apply comma_not_mem_of_mem_items hmem
        rw [Text.mem_strip_iff rfl]
        exact hcomma
      rw [listed, items_text, hspelled]
      exact congrArg Except.ok (Bool.eq_false_iff.mpr fun h => hmem (List.contains_iff_mem.mp h))

/-- An operator tells all values from a given one as it does their string forms exactly if the given
value comes back from its string form wherever the operator asks for membership. -/
theorem apply_string_iff (o : Operator) {expected : Value} (hv : expected.HasString) :
    (∀ actual : Value, actual.HasString →
        o.apply actual expected = o.apply (.text actual.string) (.text expected.string)) ↔
      (o.IsMembership → expected.IsJoinable) := by
  constructor
  · intro h hmember
    by_contra hjoin
    obtain ⟨actual, holds, hactual, hgiven, hwritten⟩ := exists_listed_ne hv hjoin
    have heq := h actual hactual
    rw [apply_actual_text_string o hactual] at heq
    rcases hmember with rfl | rfl
    · simp [apply, hgiven, hwritten] at heq
    · simp [apply, hgiven, hwritten, Except.map] at heq
  · intro hjoin actual hactual
    rw [apply_actual_text_string o hactual, apply_text_string actual hv hjoin]

theorem map_some_inj {outcome other : Except Fault Bool} :
    outcome.map some = other.map some ↔ outcome = other := by
  cases outcome <;> cases other <;> simp [Except.map]

/-- A comparison by name has the same outcome for two values that have string forms as for these
forms, unless it is a membership in a sequence that does not come back from its string form; then some
actual value with a string form tells the two apart. -/
theorem evaluate_string_iff (name : Value) {expected : Value} (hv : expected.HasString) :
    (∀ actual : Value, actual.HasString →
        evaluate name actual expected =
          evaluate name (.text actual.string) (.text expected.string)) ↔
      ∀ o, parseValue name = .ok (some o) → o.IsMembership → expected.IsJoinable := by
  rcases hparse : parseValue name with fault | _ | o
  · simp [evaluate, hparse, bind, Except.bind]
  · simp [evaluate, hparse, bind, Except.bind]
  · have hnamed : ∀ actual other : Value, evaluate name actual other =
        (o.apply actual other).map some := by
      intro actual other
      rw [evaluate, hparse]
      rcases happly : o.apply actual other with fault | holds <;>
        simp [happly, bind, Except.bind, pure, Except.pure, Except.map]
    simp only [hnamed, map_some_inj, apply_string_iff o hv, Except.ok.injEq, Option.some.injEq,
      forall_eq']

/-- Two items can be told apart in their string form. -/
theorem evaluate_string_pair :
    (Value.list [.int 1, .text "a"]).HasString ∧
      ∀ actual : Value, actual.HasString →
        evaluate (.text "in") actual (.list [.int 1, .text "a"]) =
          evaluate (.text "in") (.text actual.string)
            (.text (Value.list [.int 1, .text "a"]).string) := by
  have hpair : (Value.list [.int 1, .text "a"]).HasString := by decide +kernel
  refine ⟨hpair, (evaluate_string_iff (.text "in") hpair).mpr fun o _ _ items hitems => ?_⟩
  cases hitems
  exact ⟨List.cons_ne_nil _ _, by decide +kernel⟩

/-- Whatever there is exists, but what is nested too deeply has no string form to compare by. -/
theorem exists_nested_unwritten :
    evaluate (.text "exists") (.text "x") (.nested 340 (.list [])) = .ok (some true) ∧
      (do
        let actual ← (Value.text "x").spelled
        let expected ← (Value.nested 340 (.list [])).spelled
        evaluate (.text "exists") (.text actual) (.text expected)) =
        .error (.tooDeep depthMessage) := by
  refine ⟨rfl, ?_⟩
  have hdeep : (Value.nested 340 (.list [])).spelled = .error (.tooDeep depthMessage) := by
    rw [Value.spelled, Value.stringFault?_nested (by decide)]
  rw [hdeep]
  rfl

end Operator

end Clearance
