/-
# Who decides

Of the evaluations that match, the one decides that has the greatest priority, and of several such the
earliest. Its place among the others is all that counts: whatever is put in that does not match or has
a lower priority leaves the ruling alone, and if all that have the greatest priority agree, then their
order does not matter for the decision. A list that ranks the matching evaluations, ties in the order
of evaluation, starts with the one that decides.
-/

import Clearance.Policy.Ranking
import Clearance.Proofs.Policy.Order

namespace Clearance

/-- The priority that an evaluation counts with: that of the last policy of its identifier, or its own
if there is no such policy. -/
def Evaluation.effectivePriority (policies : List Policy) (e : Evaluation) : Int :=
  match policies.reverse.find? fun p => p.id = e.policyId with
  | some p => p.priority
  | none => e.priority

/-- The earliest evaluation that matches with the greatest priority. -/
def IsWinner (policies : List Policy) (evaluations : List Evaluation) (w : Evaluation) : Prop :=
  ∃ before after, evaluations = before ++ w :: after ∧ w.isMatch = true ∧
    (∀ e ∈ before, e.isMatch = true →
      e.effectivePriority policies < w.effectivePriority policies) ∧
    ∀ e ∈ after, e.isMatch = true → e.effectivePriority policies ≤ w.effectivePriority policies

/-- One of the evaluations that match with the greatest priority. -/
structure IsTop (policies : List Policy) (evaluations : List Evaluation) (e : Evaluation) : Prop where
  mem : e ∈ evaluations
  isMatch : e.isMatch = true
  greatest : ∀ other ∈ evaluations, other.isMatch = true →
    other.effectivePriority policies ≤ e.effectivePriority policies

variable {policies : List Policy} {evaluations before after : List Evaluation} {e w : Evaluation}
  {rank : Evaluation → Int}

/-! ## Priorities -/

/-- Going through the policies ends with the priority of the last one of the identifier. -/
theorem Evaluation.rank_eq_effectivePriority (policies : List Policy) (e : Evaluation) :
    e.rank policies = e.effectivePriority policies := by
  rw [rank, effectivePriority, ← List.foldr_reverse]
  generalize policies.reverse = reversed
  induction reversed with
  | nil => rfl
  | cons p rest ih =>
      by_cases hid : p.id = e.policyId
      · simp [hid]
      · simpa [hid] using ih

/-! ## The first of the greatest -/

theorem highest_eq_none_iff : highest rank evaluations = none ↔ evaluations = [] := by
  cases evaluations with
  | nil => exact iff_of_true rfl rfl
  | cons e rest =>
      rw [highest]
      split
      · simp
      · split <;> simp

/-- An evaluation stands behind lower ones only, and before none that are higher. -/
def IsFirstHighest (rank : Evaluation → Int) (evaluations : List Evaluation) (w : Evaluation) : Prop :=
  ∃ before after, evaluations = before ++ w :: after ∧ (∀ e ∈ before, rank e < rank w) ∧
    ∀ e ∈ after, rank e ≤ rank w

theorem IsFirstHighest.le (hw : IsFirstHighest rank evaluations w) (he : e ∈ evaluations) :
    rank e ≤ rank w := by
  obtain ⟨before, after, rfl, hbefore, hafter⟩ := hw
  rw [List.mem_append, List.mem_cons] at he
  rcases he with he | rfl | he
  · exact Int.le_of_lt (hbefore e he)
  · exact Int.le_refl _
  · exact hafter e he

theorem isFirstHighest_of_highest (h : highest rank evaluations = some w) :
    IsFirstHighest rank evaluations w := by
  induction evaluations generalizing w with
  | nil => cases h
  | cons e rest ih =>
      rw [highest] at h
      cases hrest : highest rank rest with
      | none =>
          rw [hrest] at h
          obtain rfl := Option.some.inj h
          rw [highest_eq_none_iff.mp hrest]
          exact ⟨[], [], rfl, nofun, nofun⟩
      | some other =>
          rw [hrest] at h
          dsimp only at h
          by_cases hlower : rank e < rank other
          · rw [if_pos hlower] at h
            obtain rfl := Option.some.inj h
            obtain ⟨before, after, hsplit, hbefore, hafter⟩ := ih hrest
            have hfirst : ∀ a ∈ e :: before, rank a < rank other :=
              List.forall_mem_cons.mpr ⟨hlower, hbefore⟩
            exact ⟨e :: before, after, congrArg (e :: ·) hsplit, hfirst, hafter⟩
          · rw [if_neg hlower] at h
            obtain rfl := Option.some.inj h
            have hrank : ∀ a ∈ rest, rank a ≤ rank e := fun a ha =>
              Int.le_trans ((ih hrest).le ha) (Int.not_lt.mp hlower)
            exact ⟨[], rest, rfl, nofun, hrank⟩

theorem IsFirstHighest.highest_eq (hw : IsFirstHighest rank evaluations w) :
    highest rank evaluations = some w := by
  obtain ⟨before, after, rfl, hbefore, hafter⟩ := hw
  induction before with
  | nil =>
      rw [List.nil_append, highest]
      cases hrest : highest rank after with
      | none => rfl
      | some other =>
          obtain ⟨front, back, hsplit, -⟩ := isFirstHighest_of_highest hrest
          have hother : rank other ≤ rank w := hafter other (by simp [hsplit])
          exact if_neg (Int.not_lt.mpr hother)
  | cons first before ih =>
      obtain ⟨hfirst, hbefore⟩ := List.forall_mem_cons.mp hbefore
      rw [List.cons_append, highest, ih hbefore]
      exact if_pos hfirst

theorem highest_eq_some_iff :
    highest rank evaluations = some w ↔ IsFirstHighest rank evaluations w :=
  ⟨isFirstHighest_of_highest, IsFirstHighest.highest_eq⟩

/-- A lower evaluation that is put in somewhere leaves the highest one what it is. -/
theorem IsFirstHighest.insert (hw : IsFirstHighest rank (before ++ after) w) (he : rank e < rank w) :
    IsFirstHighest rank (before ++ e :: after) w := by
  obtain ⟨front, back, hsplit, hfront, hback⟩ := hw
  rcases List.append_eq_append_iff.mp hsplit with ⟨more, rfl, rfl⟩ | ⟨more, rfl, hmore⟩
  · have hbefore : ∀ a ∈ before ++ e :: more, rank a < rank w := by grind
    exact ⟨before ++ e :: more, back, by simp, hbefore, hback⟩
  · cases more with
    | nil =>
        obtain rfl : w :: back = after := hmore
        have hbefore : ∀ a ∈ front ++ [e], rank a < rank w := by grind
        exact ⟨front ++ [e], back, by simp, hbefore, hback⟩
    | cons first more =>
        obtain ⟨rfl, rfl⟩ := List.cons.inj hmore
        have hafter : ∀ a ∈ more ++ e :: after, rank a ≤ rank w := by grind
        exact ⟨front, more ++ e :: after, by simp, hfront, hafter⟩

/-- Every list that ranks evaluations starts with the first of the highest. -/
theorem IsRankingOf.head?_eq_highest {ranked : List Evaluation}
    (h : IsRankingOf rank evaluations ranked) : ranked.head? = highest rank evaluations := by
  cases ranked with
  | nil =>
      have hnil : evaluations = [] :=
        List.eq_nil_iff_forall_not_mem.mpr fun a ha => nomatch h.mem_iff.mpr ha
      rw [hnil]
      rfl
  | cons w rest =>
      symm
      rw [List.head?_cons, highest_eq_some_iff]
      have hle : ∀ a ∈ evaluations, rank a ≤ rank w := fun a ha =>
        key_le_head h.descending (h.mem_iff.mpr ha)
      -- Of the evaluations that tie with the first one, it is the first in the source as well.
      have hties := h.ties (rank w)
      rw [List.filter_cons_of_pos (by simp)] at hties
      obtain ⟨before, after, rfl, hother, -, -⟩ := List.filter_eq_cons_iff.mp hties.symm
      have hbefore : ∀ a ∈ before, rank a < rank w := by
        intro a ha
        have hne : rank a ≠ rank w := by simpa using hother a ha
        have hle := hle a (List.mem_append_left _ ha)
        omega
      exact ⟨before, after, rfl, hbefore, fun a ha => hle a (by simp [ha])⟩

/-! ## The winner -/

/-- The winner is the first of the highest among the evaluations that match. -/
theorem isWinner_iff :
    IsWinner policies evaluations w ↔
      IsFirstHighest (Evaluation.rank policies) (evaluations.filter Evaluation.isMatch) w := by
  simp only [IsWinner, IsFirstHighest, Evaluation.rank_eq_effectivePriority]
  constructor
  · rintro ⟨before, after, rfl, hw, hbefore, hafter⟩
    refine ⟨before.filter Evaluation.isMatch, after.filter Evaluation.isMatch, by simp [hw], ?_, ?_⟩
    · intro e he
      obtain ⟨he, hmatch⟩ := List.mem_filter.mp he
      exact hbefore e he hmatch
    · intro e he
      obtain ⟨he, hmatch⟩ := List.mem_filter.mp he
      exact hafter e he hmatch
  · rintro ⟨front, back, hsplit, hfront, hback⟩
    obtain ⟨before, rest, rfl, rfl, hrest⟩ := List.filter_eq_append_iff.mp hsplit
    obtain ⟨between, after, rfl, hother, hw, rfl⟩ := List.filter_eq_cons_iff.mp hrest
    refine ⟨before ++ between, after, by simp, hw, ?_, ?_⟩
    · intro e he hmatch
      rcases List.mem_append.mp he with he | he
      · exact hfront e (List.mem_filter.mpr ⟨he, hmatch⟩)
      · exact absurd hmatch (hother e he)
    · intro e he hmatch
      exact hback e (List.mem_filter.mpr ⟨he, hmatch⟩)

theorem exists_isWinner (policies : List Policy) (h : ∃ e ∈ evaluations, e.isMatch = true) :
    ∃ w, IsWinner policies evaluations w := by
  obtain ⟨e, he, hmatch⟩ := h
  cases hhighest : highest (Evaluation.rank policies) (evaluations.filter Evaluation.isMatch) with
  | none =>
      have hnone := List.filter_eq_nil_iff.mp (highest_eq_none_iff.mp hhighest)
      exact absurd hmatch (hnone e he)
  | some w => exact ⟨w, isWinner_iff.mpr (highest_eq_some_iff.mp hhighest)⟩

/-- The effect of the winner decides, and the reason names it. -/
theorem IsWinner.resolve_eq (hw : IsWinner policies evaluations w) :
    resolve evaluations policies = ⟨w.effect.decision, w.reasonText⟩ := by
  have hhighest := highest_eq_some_iff.mpr (isWinner_iff.mp hw)
  obtain ⟨before, after, rfl, -⟩ := hw
  have hempty : ¬(before ++ w :: after).isEmpty = true := by simp
  rw [resolve, if_neg hempty, hhighest]

theorem IsWinner.isTop (hw : IsWinner policies evaluations w) : IsTop policies evaluations w := by
  have hfirst := isWinner_iff.mp hw
  obtain ⟨before, after, rfl, hmatch, -⟩ := hw
  refine ⟨by simp, hmatch, fun e he hmatch => ?_⟩
  rw [← Evaluation.rank_eq_effectivePriority, ← Evaluation.rank_eq_effectivePriority]
  exact hfirst.le (List.mem_filter.mpr ⟨he, hmatch⟩)

theorem IsTop.of_perm {evaluations' : List Evaluation} (h : IsTop policies evaluations e)
    (hperm : evaluations.Perm evaluations') : IsTop policies evaluations' e where
  mem := hperm.mem_iff.mp h.mem
  isMatch := h.isMatch
  greatest other hother hmatch := h.greatest other (hperm.mem_iff.mpr hother) hmatch

/-- What has a lower priority than the winner can be put in anywhere. -/
theorem IsWinner.insert (hw : IsWinner policies (before ++ after) w)
    (he : e.effectivePriority policies < w.effectivePriority policies) :
    IsWinner policies (before ++ e :: after) w := by
  rw [isWinner_iff, List.filter_append] at hw ⊢
  rw [← Evaluation.rank_eq_effectivePriority, ← Evaluation.rank_eq_effectivePriority] at he
  cases hmatch : e.isMatch with
  | true =>
      rw [List.filter_cons_of_pos hmatch]
      exact hw.insert he
  | false =>
      rw [List.filter_cons_of_neg (by simp [hmatch])]
      exact hw

/-! ## The ruling -/

theorem resolve_of_forall_not_isMatch (h : ∀ e ∈ evaluations, e.isMatch = false) :
    resolve evaluations policies =
      if evaluations = [] then ⟨.notApplicable, "No applicable policies found"⟩
      else ⟨.deny, "No matching policies found"⟩ := by
  have hnone : evaluations.filter Evaluation.isMatch = [] := by simpa using h
  simp only [resolve, hnone, highest, List.isEmpty_iff]

/-- What does not match can be put in anywhere, unless nothing is there yet: then a policy applies for
the first time. -/
theorem resolve_insert_iff (he : e.isMatch = false) :
    resolve (before ++ e :: after) policies = resolve (before ++ after) policies ↔
      before ++ after ≠ [] := by
  have hfilter : (before ++ e :: after).filter Evaluation.isMatch =
      (before ++ after).filter Evaluation.isMatch := by
    simp [he]
  by_cases hempty : before ++ after = []
  · obtain ⟨rfl, rfl⟩ := List.append_eq_nil_iff.mp hempty
    have hone : ∀ other ∈ [e], other.isMatch = false := by simpa using he
    have hnone : ∀ other ∈ ([] : List Evaluation), other.isMatch = false := by simp
    rw [List.append_nil, List.nil_append, resolve_of_forall_not_isMatch hone,
      resolve_of_forall_not_isMatch hnone]
    simp
  · have hmore : (before ++ e :: after).isEmpty = false := by simp
    have hsome : (before ++ after).isEmpty = false := by simpa using hempty
    rw [resolve, resolve, hmore, hsome, hfilter]
    exact iff_of_true rfl hempty

/-- How a ruling depends on the order of the evaluations, and on those that do not win. -/
structure IsStable (policies : List Policy) (evaluations : List Evaluation) : Prop where
  /-- If some evaluation matches, the effect of the winner decides. -/
  decided : (∃ e ∈ evaluations, e.isMatch = true) → ∃ w, IsWinner policies evaluations w ∧
    resolve evaluations policies = ⟨w.effect.decision, w.reasonText⟩
  /-- The winner comes first in every list that ranks the matching evaluations by their priorities and
  leaves ties in their order. -/
  ranked : ∀ w ranked, IsWinner policies evaluations w →
    IsRankingOf (Evaluation.effectivePriority policies) (evaluations.filter Evaluation.isMatch) ranked →
      ranked.head? = some w
  /-- An evaluation that does not match changes nothing where it is put in, unless it is the only one. -/
  unmatched : ∀ before after e, evaluations = before ++ after → e.isMatch = false →
    (resolve (before ++ e :: after) policies = resolve evaluations policies ↔ evaluations ≠ [])
  /-- An evaluation of a lower priority than the winner changes nothing where it is put in. -/
  lower : ∀ before after e w, evaluations = before ++ after → IsWinner policies evaluations w →
    e.effectivePriority policies < w.effectivePriority policies →
      resolve (before ++ e :: after) policies = resolve evaluations policies
  /-- If the evaluations at the top have one effect, every order leads to the same decision. -/
  unanimous : (∀ e e', IsTop policies evaluations e → IsTop policies evaluations e' →
      e.effect = e'.effect) →
    ∀ evaluations', evaluations.Perm evaluations' →
      (resolve evaluations' policies).decision = (resolve evaluations policies).decision

/-- Rulings are stable. -/
theorem resolve_isStable (policies : List Policy) (evaluations : List Evaluation) :
    IsStable policies evaluations where
  decided hsome := by
    obtain ⟨w, hw⟩ := exists_isWinner policies hsome
    exact ⟨w, hw, hw.resolve_eq⟩
  ranked w ranked hw hranked := by
    rw [hranked.head?_eq_highest]
    have hpriority : Evaluation.effectivePriority policies = Evaluation.rank policies := by
      funext e
      exact (e.rank_eq_effectivePriority policies).symm
    rw [hpriority]
    exact (isWinner_iff.mp hw).highest_eq
  unmatched before after e hsplit he := by
    rw [hsplit]
    exact resolve_insert_iff he
  lower before after e w hsplit hw he := by
    subst hsplit
    rw [hw.resolve_eq, (hw.insert he).resolve_eq]
  unanimous hsame evaluations' hperm := by
    by_cases hsome : ∃ e ∈ evaluations, e.isMatch = true
    · obtain ⟨w, hw⟩ := exists_isWinner policies hsome
      obtain ⟨e, he, hmatch⟩ := hsome
      obtain ⟨w', hw'⟩ := exists_isWinner policies ⟨e, hperm.mem_iff.mp he, hmatch⟩
      rw [hw.resolve_eq, hw'.resolve_eq, hsame w w' hw.isTop (hw'.isTop.of_perm hperm.symm)]
    · have hnone : ∀ e ∈ evaluations, e.isMatch = false := by simpa using hsome
      have hnone' : ∀ e ∈ evaluations', e.isMatch = false := fun e he =>
        hnone e (hperm.mem_iff.mpr he)
      have hempty : evaluations' = [] ↔ evaluations = [] := by
        rw [← List.length_eq_zero_iff, ← List.length_eq_zero_iff, hperm.length_eq]
      simp only [resolve_of_forall_not_isMatch hnone, resolve_of_forall_not_isMatch hnone', hempty]

/-- Two policies of one identifier, and one of another. -/
def shiftPolicies : List Policy :=
  [⟨"night", "night shift", .permit, 9, true, none, none, [], []⟩,
    ⟨"day", "day shift", .permit, 5, true, none, none, [], []⟩,
    ⟨"night", "night shift", .permit, 1, true, none, none, [], []⟩]

/-- An evaluation at the priority that its policy lost, and two that tie at the top: one by its policy,
one by itself. -/
def shiftEvaluations : List Evaluation :=
  [⟨"night", "night shift", .permit, true, 9, none⟩, ⟨"guest", "guests", .deny, true, 5, none⟩,
    ⟨"day", "day shift", .permit, true, 0, none⟩]

theorem shiftEvaluations_isStable :
    resolve shiftEvaluations shiftPolicies =
        ⟨.deny, "Denied by highest priority policy: guests"⟩ ∧
      resolve (shiftEvaluations.take 1 ++ ⟨"late", "late", .permit, true, 4, none⟩ ::
          shiftEvaluations.drop 1) shiftPolicies =
        ⟨.deny, "Denied by highest priority policy: guests"⟩ := by
  have hstable := resolve_isStable shiftPolicies shiftEvaluations
  have hwinner : IsWinner shiftPolicies shiftEvaluations ⟨"guest", "guests", .deny, true, 5, none⟩ :=
    ⟨shiftEvaluations.take 1, shiftEvaluations.drop 2, rfl, rfl, by decide, by decide⟩
  refine ⟨by decide, ?_⟩
  rw [hstable.lower _ _ _ _ rfl hwinner (by decide)]
  decide

end Clearance
