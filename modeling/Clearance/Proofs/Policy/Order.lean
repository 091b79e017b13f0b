/-
# Order by priority

A list is ranked after another one if its keys descend and the members of each key stand in the order
of the other list. There is exactly one such list, so the order in which steps are taken does not
matter: to rank and then leave members out is to leave them out and then rank.
-/

import Mathlib.Data.List.Basic

namespace Clearance

variable {α : Type}

/-- A list has the members of a source, the greatest key first and those of one key in the order of
the source. -/
structure IsRankingOf (key : α → Int) (source ranked : List α) : Prop where
  descending : ranked.Pairwise fun a b => key b ≤ key a
  ties : ∀ n, ranked.filter (key · = n) = source.filter (key · = n)

namespace IsRankingOf

variable {key : α → Int} {source ranked ranked' : List α}

/-- Members can be left out before or after ranking. -/
theorem filter (h : IsRankingOf key source ranked) (p : α → Bool) :
    IsRankingOf key (source.filter p) (ranked.filter p) where
  descending := h.descending.filter p
  ties n := by
    rw [List.filter_comm, h.ties n, List.filter_comm]

private theorem filter_cons_self (a : α) (rest : List α) :
    (a :: rest).filter (key · = key a) = a :: rest.filter (key · = key a) := by
  simp

private theorem mem_of_ties (hties : ∀ n, ranked.filter (key · = n) = ranked'.filter (key · = n))
    {a : α} (ha : a ∈ ranked) : a ∈ ranked' := by
  have hmem : a ∈ ranked.filter (key · = key a) := by simpa using ha
  rw [hties] at hmem
  exact (List.mem_filter.mp hmem).1

theorem key_le_head {a b : α} {rest : List α}
    (hdesc : (b :: rest).Pairwise fun a b => key b ≤ key a) (ha : a ∈ b :: rest) :
    key a ≤ key b := by
  rcases List.mem_cons.mp ha with rfl | ha
  · exact Int.le_refl _
  · exact (List.pairwise_cons.mp hdesc).1 a ha

theorem mem_iff (h : IsRankingOf key source ranked) {a : α} : a ∈ ranked ↔ a ∈ source :=
  ⟨mem_of_ties h.ties, mem_of_ties fun n => (h.ties n).symm⟩

/-- A list is ranked in one way only. -/
theorem unique (h : IsRankingOf key source ranked) (h' : IsRankingOf key source ranked') :
    ranked = ranked' := by
  have hties : ∀ n, ranked.filter (key · = n) = ranked'.filter (key · = n) := fun n =>
    (h.ties n).trans (h'.ties n).symm
  have hdesc := h.descending
  have hdesc' := h'.descending
  clear h h'
  induction ranked generalizing ranked' with
  | nil =>
      cases ranked' with
      | nil => rfl
      | cons b rest => exact absurd (mem_of_ties (fun n => (hties n).symm) List.mem_cons_self) nofun
  | cons a rest ih =>
      cases ranked' with
      | nil => exact absurd (mem_of_ties hties List.mem_cons_self) nofun
      | cons b rest' =>
          -- Each head has the greatest key of its list, and each stands in the other list.
          have hkey : key a = key b := by
            apply Int.le_antisymm
            · exact key_le_head hdesc' (mem_of_ties hties List.mem_cons_self)
            · exact key_le_head hdesc (mem_of_ties (fun n => (hties n).symm) List.mem_cons_self)
          have hhead := hties (key a)
          rw [filter_cons_self, hkey, filter_cons_self] at hhead
          obtain ⟨rfl, -⟩ := List.cons.inj hhead
          have hrest : ∀ n, rest.filter (key · = n) = rest'.filter (key · = n) := by
            intro n
            have hn := hties n
            by_cases hkn : key a = n
            · simpa [hkn] using hn
            · simpa [hkn] using hn
          rw [ih hrest hdesc.of_cons hdesc'.of_cons]

end IsRankingOf

/-- Sorting ranks a list. -/
theorem isRankingOf_mergeSort (key : α → Int) (source : List α) :
    IsRankingOf key source (source.mergeSort fun a b => key b ≤ key a) := by
  have htrans : ∀ a b c : α, decide (key b ≤ key a) → decide (key c ≤ key b) →
      decide (key c ≤ key a) := by
    intro a b c hab hbc
    simp only [decide_eq_true_eq] at hab hbc ⊢
    exact Int.le_trans hbc hab
  have htotal : ∀ a b : α, decide (key b ≤ key a) || decide (key a ≤ key b) := by
    intro a b
    simp only [Bool.or_eq_true, decide_eq_true_eq]
    exact Int.le_total _ _
  refine ⟨?_, fun n => ?_⟩
  · have hsorted := List.pairwise_mergeSort htrans htotal source
    simpa only [decide_eq_true_eq] using hsorted
  · -- The members of one key are a sorted part of the source, so they stay in their order.
    have hpart : (source.filter (key · = n)).Sublist
        (source.mergeSort fun a b => key b ≤ key a) := by
      apply List.sublist_mergeSort htrans htotal _ List.filter_sublist
      apply List.pairwise_of_forall_mem_list
      intro a ha b hb
      simp only [List.mem_filter, decide_eq_true_eq] at ha hb
      simp [ha.2, hb.2]
    have hinto : (source.filter (key · = n)).Sublist
        ((source.mergeSort fun a b => key b ≤ key a).filter (key · = n)) := by
      have hfilter := hpart.filter (key · = n)
      simpa only [List.filter_filter, Bool.and_self] using hfilter
    have hperm := (List.mergeSort_perm source fun a b => key b ≤ key a).filter (key · = n)
    exact (hinto.eq_of_length hperm.length_eq.symm).symm

end Clearance
