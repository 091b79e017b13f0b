/-
# What groups of rules mean

The rules of a group are joined one after the other, but what comes of it can be told without joining
anything. A group holds when one of its rules contributes truth, is the first one or stands behind a
disjunction, and from there on every rule behind a conjunction contributes truth as well. Groups are
told apart by their names, so it does not matter how their rules are mixed, and the connective of the
last rule of a group joins it with nothing.
-/

import Clearance.Proofs.Policy.Judging
import Clearance.Proofs.Policy.Qualified
import Mathlib.Data.List.Chain
import Mathlib.Data.List.Induction

namespace Clearance

/-- A rule contributes truth: its reference stands for an attribute, its operator is known, and the
comparison holds. -/
def Rule.Contributes (r : Rule) (strict : Bool) (m : AttributeMap) : Prop :=
  ∃ a o, m.resolve strict r.reference = .found a ∧ Operator.parse r.operator = some o ∧
    o.apply (.text a.value) r.value = .ok true

/-- The comparison of a rule does not fail, if there is one. -/
def Rule.IsUnfailing (r : Rule) (strict : Bool) (m : AttributeMap) : Prop :=
  ∀ a o fault, m.resolve strict r.reference = .found a → Operator.parse r.operator = some o →
    o.apply (.text a.value) r.value ≠ .error fault

/-- A rule is joined with the next one of its group by a disjunction. -/
def Rule.IsOr (r : Rule) : Prop := Connective.parse r.connective = some .or

/-- One of the members holds, is the first one or stands behind a disjunction, and from there on each
member that does not stand behind a disjunction holds. -/
def IsJoined {α : Type} (holds isOr : α → Prop) (members : List α) : Prop :=
  ∃ before a after, members = before ++ a :: after ∧ holds a ∧
    (∀ prior ∈ before.getLast?, isOr prior) ∧
    (a :: after).IsChain fun a next => isOr a ∨ holds next

/-- A group of rules is met. -/
def GroupIsMet (strict : Bool) (m : AttributeMap) (rules : List Rule) : Prop :=
  IsJoined (fun r : Rule => r.Contributes strict m) Rule.IsOr rules

/-! ## Joining -/

section Joining

variable {α : Type} {holds isOr : α → Prop} {a prior : α} {members : List α}

theorem isJoined_singleton : IsJoined holds isOr [a] ↔ holds a := by
  constructor
  · rintro ⟨before, b, after, hsplit, hb, -, -⟩
    rcases before with _ | ⟨_, before⟩
    · obtain ⟨rfl, -⟩ := List.cons_eq_cons.mp hsplit
      exact hb
    · simp at hsplit
  · exact fun ha => ⟨[], a, [], rfl, ha, nofun, .singleton a⟩

/-- A last member starts anew behind a disjunction, or it goes on with what came before. -/
theorem isJoined_concat (hlast : members.getLast? = some prior) :
    IsJoined holds isOr (members ++ [a]) ↔
      (isOr prior ∧ holds a) ∨ ((isOr prior ∨ holds a) ∧ IsJoined holds isOr members) := by
  constructor
  · rintro ⟨before, b, after, hsplit, hb, hprior, hchain⟩
    rcases List.eq_nil_or_concat after with rfl | ⟨after, c, rfl⟩
    · obtain ⟨rfl, hab⟩ := List.append_inj' hsplit rfl
      obtain rfl := List.singleton_inj.mp hab
      exact .inl ⟨hprior prior hlast, hb⟩
    · rw [List.concat_eq_append, ← List.cons_append, ← List.append_assoc] at hsplit
      obtain ⟨rfl, hac⟩ := List.append_inj' hsplit rfl
      obtain rfl := List.singleton_inj.mp hac
      rw [List.concat_eq_append, ← List.cons_append, List.isChain_append] at hchain
      obtain ⟨hchain, -, hend⟩ := hchain
      rw [List.getLast?_append_cons] at hlast
      exact .inr ⟨hend prior hlast a rfl, before, b, after, rfl, hb, hprior, hchain⟩
  · rintro (⟨hprior, ha⟩ | ⟨hend, before, b, after, rfl, hb, hprior, hchain⟩)
    · refine ⟨members, a, [], rfl, ha, fun c hc => ?_, .singleton a⟩
      obtain rfl := Option.some.inj (hlast.symm.trans hc)
      exact hprior
    · refine ⟨before, b, after ++ [a], by simp, hb, hprior, ?_⟩
      rw [List.getLast?_append_cons] at hlast
      rw [← List.cons_append, List.isChain_append]
      refine ⟨hchain, .singleton a, fun c hc d hd => ?_⟩
      obtain rfl := Option.some.inj (hlast.symm.trans hc)
      obtain rfl := Option.some.inj hd
      exact hend

theorem IsJoined.mono {holds' : α → Prop} (h : IsJoined holds isOr members)
    (himp : ∀ a, holds a → holds' a) : IsJoined holds' isOr members := by
  obtain ⟨before, a, after, hsplit, ha, hprior, hchain⟩ := h
  have hchain' : (a :: after).IsChain fun a next => isOr a ∨ holds' next := by
    apply hchain.imp
    intro b next hb
    exact hb.imp_right (himp next)
  exact ⟨before, a, after, hsplit, himp a ha, hprior, hchain'⟩

/-- The last truth value is joined by the connective of the one before. -/
theorem joinAll_concat {values : List (Bool × Connective)} {last : Bool × Connective}
    (hlast : values.getLast? = some last) (soFar : Bool) (pending : Connective)
    (value : Bool × Connective) :
    joinAll soFar pending (values ++ [value]) = last.2.join (joinAll soFar pending values) value.1 := by
  induction values generalizing soFar pending with
  | nil => cases hlast
  | cons first rest ih =>
      rcases rest with _ | ⟨second, rest⟩
      · obtain rfl := Option.some.inj hlast
        rfl
      · exact ih (by rwa [List.getLast?_cons_cons] at hlast) _ _

/-- Joining truth values tells whether they are joined. -/
theorem joinAll_eq_true_iff {f : α → Bool × Connective} (hne : members ≠ []) :
    joinAll true .and (members.map f) = true ↔
      IsJoined (fun a => (f a).1 = true) (fun a => (f a).2 = .or) members := by
  induction members using List.reverseRecOn with
  | nil => exact absurd rfl hne
  | append_singleton members a ih =>
      cases hlast : members.getLast? with
      | none =>
          rw [List.getLast?_eq_none_iff.mp hlast, List.nil_append, isJoined_singleton]
          exact Bool.eq_iff_iff.mp (Bool.true_and _)
      | some prior =>
          have hprior : (members.map f).getLast? = some (f prior) := by
            rw [List.getLast?_map, hlast, Option.map_some]
          have hmembers := ih (by rintro rfl; cases hlast)
          rw [List.map_append, List.map_singleton, joinAll_concat hprior, isJoined_concat hlast,
            ← hmembers]
          cases (f prior).2 <;> cases joinAll true .and (members.map f) <;> simp [Connective.join]

end Joining

/-! ## Rules -/

section Rules

variable {strict : Bool} {m : AttributeMap} {r : Rule} {rules : List Rule}

theorem Rule.isTrue_verdict_iff :
    isTrue (r.outcome strict m).verdict = true ↔ r.Contributes strict m := by
  simp only [Rule.outcome, Rule.Contributes]
  rcases m.resolve strict r.reference with _ | ⟨name, categories⟩ | a
  · simp [Outcome.verdict, isTrue]
  · simp [Outcome.verdict, isTrue]
  · simp only [Outcome.ofComparison]
    rcases Operator.parse r.operator with _ | o
    · simp [Outcome.verdict, isTrue]
    · rcases hvalue : o.apply (.text a.value) r.value with fault | holds <;>
        simp [Outcome.verdict, isTrue, hvalue]

theorem Rule.isUnfailing_iff :
    r.IsUnfailing strict m ↔ (r.outcome strict m).verdict.isOk = true := by
  simp only [Rule.outcome, Rule.IsUnfailing]
  rcases m.resolve strict r.reference with _ | ⟨name, categories⟩ | a
  · simp [Outcome.verdict, Except.isOk, Except.toBool]
  · simp [Outcome.verdict, Except.isOk, Except.toBool]
  · simp only [Outcome.ofComparison]
    rcases Operator.parse r.operator with _ | o
    · simp [Outcome.verdict, Except.isOk, Except.toBool]
    · rcases hvalue : o.apply (.text a.value) r.value with fault | holds
      · simp [Outcome.verdict, Except.isOk, Except.toBool, hvalue]
      · simp only [hvalue]
        refine iff_of_true ?_ rfl
        rintro _ _ fault ⟨⟩ ⟨⟩ hfault
        cases hvalue.symm.trans hfault

theorem Rule.joint_eq_or_iff : r.joint = .or ↔ r.IsOr := by
  simp only [Rule.joint, Rule.IsOr]
  rcases Connective.parse r.connective with _ | _ | _ <;> simp

/-- Members are all judged if none of them fails. -/
theorem verdicts_eq_ok {α : Type} {judge : α → Except Fault Bool} {members : List α}
    (h : ∀ a ∈ members, (judge a).isOk = true) :
    verdicts judge members = .ok (members.map fun a => isTrue (judge a)) := by
  induction members with
  | nil => rfl
  | cons a rest ih =>
      obtain ⟨holds, hjudge⟩ := ok_of_isOk (h a List.mem_cons_self)
      rw [verdicts, hjudge, ih fun b hb => h b (List.mem_cons_of_mem a hb)]
      simp only [List.map_cons, hjudge]
      rfl

/-- The truth value of a rule with its connective. -/
def Rule.term (strict : Bool) (m : AttributeMap) (r : Rule) : Bool × Connective :=
  (isTrue (r.outcome strict m).verdict, r.joint)

theorem groupHolds_eq_ok (h : ∀ r ∈ rules, r.IsUnfailing strict m) :
    groupHolds strict m rules = .ok (joinAll true .and (rules.map (Rule.term strict m))) := by
  rw [groupHolds, verdicts_eq_ok fun r hr => Rule.isUnfailing_iff.mp (h r hr), Except.map, List.zip_map']
  rfl

theorem joinAll_term_iff (hne : rules ≠ []) :
    joinAll true .and (rules.map (Rule.term strict m)) = true ↔ GroupIsMet strict m rules := by
  rw [joinAll_eq_true_iff hne, GroupIsMet]
  simp only [Rule.term, Rule.isTrue_verdict_iff, Rule.joint_eq_or_iff]

/-- The connective of the last rule of a group joins it with nothing. -/
theorem groupIsMet_concat_congr (connective : Option String) :
    GroupIsMet strict m (rules ++ [{ r with connective := connective }]) ↔
      GroupIsMet strict m (rules ++ [r]) := by
  simp only [GroupIsMet]
  cases hlast : rules.getLast? with
  | none =>
      rw [List.getLast?_eq_none_iff.mp hlast, List.nil_append, List.nil_append, isJoined_singleton,
        isJoined_singleton]
      exact Iff.rfl
  | some prior =>
      rw [isJoined_concat hlast, isJoined_concat hlast]
      exact Iff.rfl

/-! ## All groups -/

/-- Every group of the rules is met. -/
def GroupsAreMet (strict : Bool) (m : AttributeMap) (rules : List Rule) : Prop :=
  ∀ g ∈ rules.map Rule.groupId, GroupIsMet strict m (rules.filter (·.groupId = g))

theorem filter_groupId_ne_nil_iff {g : String} :
    rules.filter (·.groupId = g) ≠ [] ↔ g ∈ rules.map Rule.groupId := by
  simp [List.filter_eq_nil_iff]

/-- Rules that do not fail hold exactly if their groups are met. -/
theorem rulesHold_eq_ok_iff (h : ∀ r ∈ rules, r.IsUnfailing strict m) {holds : Bool} :
    rulesHold strict m rules = .ok holds ↔ (holds = true ↔ GroupsAreMet strict m rules) := by
  have hgroup (k : String) : groupHolds strict m (rules.filter (·.groupId = k)) =
      .ok (joinAll true .and ((rules.filter (·.groupId = k)).map (Rule.term strict m))) :=
    groupHolds_eq_ok fun r hr => h r (List.mem_filter.mp hr).1
  have hall : rulesHold strict m rules = .ok ((ruleGroups rules).all fun g =>
      isTrue (groupHolds strict m g.2)) := by
    rw [rulesHold, verdicts_eq_ok, Except.map, List.all_map]
    · rfl
    · intro g hg
      obtain ⟨k, -, rfl⟩ := List.mem_map.mp hg
      rw [hgroup k]
      rfl
  have hmet : ((ruleGroups rules).all fun g => isTrue (groupHolds strict m g.2)) = true ↔
      GroupsAreMet strict m rules := by
    rw [List.all_eq_true, ruleGroups, Ordered.groupBy, List.forall_mem_map]
    refine forall_congr' fun k => ?_
    constructor
    · intro hk hmem
      have hjoined := hk (Ordered.mem_distinct_of_mem hmem)
      rw [hgroup k] at hjoined
      exact (joinAll_term_iff (filter_groupId_ne_nil_iff.mpr hmem)).mp hjoined
    · intro hk hmem
      have hmem := Ordered.mem_of_mem_distinct hmem
      rw [hgroup k]
      exact (joinAll_term_iff (filter_groupId_ne_nil_iff.mpr hmem)).mpr (hk hmem)
  rw [hall, ← hmet, Except.ok.injEq, eq_comm, Bool.eq_iff_iff]

/-- Rules hold exactly if others do whose groups are met along with theirs. -/
theorem rulesHold_congr {others : List Rule} (h : ∀ r ∈ rules, r.IsUnfailing strict m)
    (hothers : ∀ r ∈ others, r.IsUnfailing strict m)
    (hmet : GroupsAreMet strict m rules ↔ GroupsAreMet strict m others) :
    rulesHold strict m others = rulesHold strict m rules := by
  classical
  have hrules := (rulesHold_eq_ok_iff h).mpr
    (decide_eq_true_iff (p := GroupsAreMet strict m rules))
  rw [hrules]
  exact (rulesHold_eq_ok_iff hothers).mpr (decide_eq_true_iff.trans hmet)

theorem filter_groupId_of_last (before : List Rule) {after : List Rule}
    (hlast : ∀ later ∈ after, later.groupId ≠ r.groupId) :
    (before ++ r :: after).filter (·.groupId = r.groupId) =
      before.filter (·.groupId = r.groupId) ++ [r] := by
  have hafter : after.filter (·.groupId = r.groupId) = [] :=
    List.filter_eq_nil_iff.mpr fun later hlater => by simpa using hlast later hlater
  rw [List.filter_append, List.filter_cons, if_pos (decide_eq_true rfl), hafter]

/-- The groups of rules are met whatever the connective of the last rule of a group is. -/
theorem groupsAreMet_last_congr {before after : List Rule} (connective : Option String)
    (hlast : ∀ later ∈ after, later.groupId ≠ r.groupId) :
    GroupsAreMet strict m (before ++ { r with connective := connective } :: after) ↔
      GroupsAreMet strict m (before ++ r :: after) := by
  have hgroups : (before ++ { r with connective := connective } :: after).map Rule.groupId =
      (before ++ r :: after).map Rule.groupId := by
    simp only [List.map_append, List.map_cons, Rule.groupId]
  rw [GroupsAreMet, GroupsAreMet, hgroups]
  refine forall₂_congr fun g _ => ?_
  by_cases hg : r.groupId = g
  · subst hg
    rw [filter_groupId_of_last before hlast]
    have hchanged := filter_groupId_of_last (r := { r with connective := connective }) before hlast
    exact hchanged ▸ groupIsMet_concat_congr connective
  · have hdrop (s : Rule) (hs : s.groupId ≠ g) :
        (s :: after).filter (·.groupId = g) = after.filter (·.groupId = g) :=
      List.filter_cons_of_neg (by simpa using hs)
    rw [List.filter_append, List.filter_append, hdrop r hg,
      hdrop { r with connective := connective } hg]

/-- Rules that do not fail hold exactly if each of their groups is met. It makes no difference how the
rules of the groups are mixed, and none what the connective of the last rule of a group is. -/
theorem rulesHold_means (h : ∀ r ∈ rules, r.IsUnfailing strict m) :
    (∃ holds, rulesHold strict m rules = .ok holds ∧
      (holds = true ↔ GroupsAreMet strict m rules)) ∧
    (∀ mixed : List Rule,
      (∀ g, mixed.filter (·.groupId = g) = rules.filter (·.groupId = g)) →
      rulesHold strict m mixed = rulesHold strict m rules) ∧
    ∀ before r after connective, rules = before ++ r :: after →
      (∀ later ∈ after, later.groupId ≠ r.groupId) →
      rulesHold strict m (before ++ { r with connective := connective } :: after) =
        rulesHold strict m rules := by
  classical
  refine ⟨⟨decide (GroupsAreMet strict m rules), (rulesHold_eq_ok_iff h).mpr decide_eq_true_iff,
    decide_eq_true_iff⟩, fun mixed hmixed => ?_, ?_⟩
  · have hmem (r : Rule) (hr : r ∈ mixed) : r ∈ rules := by
      have hgroup : r ∈ mixed.filter (·.groupId = r.groupId) :=
        List.mem_filter.mpr ⟨hr, decide_eq_true rfl⟩
      rw [hmixed r.groupId] at hgroup
      exact (List.mem_filter.mp hgroup).1
    refine rulesHold_congr h (fun r hr => h r (hmem r hr)) (forall_congr' fun g => ?_)
    rw [← filter_groupId_ne_nil_iff, ← filter_groupId_ne_nil_iff, hmixed g]
  · rintro before r after connective rfl hlast
    refine rulesHold_congr h (fun other hother => ?_) (groupsAreMet_last_congr connective hlast).symm
    rcases List.mem_append.mp hother with hbefore | hrest
    · exact h other (List.mem_append_left _ hbefore)
    rcases List.mem_cons.mp hrest with rfl | hafter
    · exact h r (List.mem_append_right _ List.mem_cons_self)
    · exact h other (List.mem_append_right _ (List.mem_cons_of_mem r hafter))

end Rules

/-! ## Two groups -/

/-- A nurse of the night shift. -/
def nightNurse : AttributeMap where
  entries := [("subject.role", ⟨"1", "role", "string", "subject", "nurse"⟩),
    ("subject.shift", ⟨"2", "shift", "string", "subject", "night"⟩)]

/-- Doctors, or nurses who are not known to be on leave; and, in a group of its own, the night shift. -/
def wardRules : List Rule :=
  [{ reference := some "subject.role", operator := some "equals", value := .text "doctor",
     connective := some "or" },
   { reference := some "subject.shift", operator := some "eq", value := .text "night",
     group := some "shifts" },
   { reference := some "subject.role", operator := some "equals", value := .text "nurse",
     connective := some "xor" },
   { reference := some "leave", operator := some "not_equals", value := .text "yes",
     connective := some "or", group := some "" }]

/-- Nothing is known about a leave, so that the nurse is refused. -/
theorem wardRules_mean :
    (∀ r ∈ wardRules, r.IsUnfailing true nightNurse) ∧
    rulesHold true nightNurse wardRules = .ok false ∧
    ¬ GroupsAreMet true nightNurse wardRules := by
  have h : ∀ r ∈ wardRules, r.IsUnfailing true nightNurse := by
    simp only [Rule.isUnfailing_iff]
    decide +kernel
  obtain ⟨⟨holds, hholds, hmeans⟩, -, -⟩ := rulesHold_means h
  have hrefused : (rulesHold true nightNurse wardRules).toOption = some false := by
    decide +kernel
  rw [hholds] at hrefused
  obtain rfl : holds = false := Option.some.inj hrefused
  exact ⟨h, hholds, fun hmet => Bool.false_ne_true (hmeans.mpr hmet)⟩

end Clearance
