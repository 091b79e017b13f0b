/-
# Levels of patterns

How the levels of a tree grow while it is read. A repetition puts one more on a part, but no repetition
is repeated; so parts are compared without it. Alternatives put one more on what they are alternatives
of, and a group one more on its body.
-/

import Clearance.Pattern.Reader

namespace Clearance.Pattern

variable {n : Nat} {node : Node} {nodes : List Node}

/-! ## Sequences and alternatives -/

theorem heightOf_le_iff : heightOf nodes ≤ n ↔ ∀ node ∈ nodes, node.height ≤ n := by
  induction nodes with
  | nil => simp [heightOf]
  | cons node rest ih => rw [heightOf, Nat.max_le, ih, List.forall_mem_cons]

theorem heightOfChoices_le_iff {choices : List (List Node)} :
    heightOfChoices choices ≤ n ↔ ∀ choice ∈ choices, heightOf choice ≤ n := by
  induction choices with
  | nil => simp [heightOfChoices]
  | cons choice rest ih => rw [heightOfChoices, Nat.max_le, ih, List.forall_mem_cons]

/-- A part has no more than so many levels, not counting its repetition. -/
def Node.IsWithin (levels : Nat) : Node → Prop
  | .loop _ _ _ body => heightOf body ≤ levels
  | node => node.height ≤ levels

/-- So have all parts. -/
def AreWithin (levels : Nat) (nodes : List Node) : Prop := ∀ node ∈ nodes, node.IsWithin levels

theorem Node.isWithin_of_height_le (h : node.height ≤ n) : node.IsWithin n := by
  cases node with
  | loop greed least most body => exact Nat.le_of_succ_le h
  | _ => exact h

theorem Node.IsWithin.height_le (h : node.IsWithin n) : node.height ≤ n + 1 := by
  cases node with
  | loop greed least most body => exact Nat.succ_le_succ h
  | _ => exact Nat.le_succ_of_le h

theorem Node.IsWithin.height_le_of_mayRepeat (h : node.IsWithin n) (hrepeat : node.mayRepeat) :
    node.height ≤ n := by
  cases node with
  | loop greed least most body => cases hrepeat
  | _ => exact h

theorem AreWithin.nil : AreWithin n [] := List.forall_mem_nil _

theorem AreWithin.heightOf_le (h : AreWithin n nodes) : heightOf nodes ≤ n + 1 :=
  heightOf_le_iff.mpr fun node hnode => (h node hnode).height_le

theorem AreWithin.cons (h : AreWithin n nodes) (hnode : node.height ≤ n) :
    AreWithin n (node :: nodes) :=
  List.forall_mem_cons.mpr ⟨Node.isWithin_of_height_le hnode, h⟩

theorem AreWithin.reverse (h : AreWithin n nodes) : AreWithin n nodes.reverse :=
  fun node hnode => h node (List.mem_reverse.mp hnode)

/-! ## What is read -/

/-- Opening a group that only holds together adds no level. -/
theorem AreWithin.opened (h : AreWithin n nodes) : AreWithin n (opened nodes) := by
  intro node hnode
  obtain ⟨outer, houter, hnode⟩ := List.mem_flatMap.mp hnode
  have hwithin := h outer houter
  split at hnode
  case h_1 on off body =>
    split at hnode
    · have hbody : heightOf body ≤ n := Nat.le_of_succ_le hwithin
      exact Node.isWithin_of_height_le (heightOf_le_iff.mp hbody node hnode)
    · rwa [List.mem_singleton.mp hnode]
  case h_2 => rwa [List.mem_singleton.mp hnode]

theorem heightOf_repeated_le (node : Node) : heightOf node.repeated ≤ node.height := by
  have hself : heightOf [node] ≤ node.height :=
    heightOf_le_iff.mpr fun other hother => List.mem_singleton.mp hother ▸ Nat.le_refl _
  unfold Node.repeated
  split
  case h_1 on off body =>
    split
    · exact Nat.le_succ _
    · exact hself
  case h_2 => exact hself

/-- What may be repeated has no repetition of its own. -/
theorem Node.IsWithin.repeated (h : node.IsWithin n) (hrepeat : node.mayRepeat) (greed : Greed)
    (least : Nat) (most : Option Nat) : (Node.loop greed least most node.repeated).IsWithin n :=
  Nat.le_trans (heightOf_repeated_le node) (h.height_le_of_mayRepeat hrepeat)

/-- Alternatives that are characters are one set, and others have a level of their own. -/
theorem heightOf_joinChoices_le {choices : List (List Node)}
    (h : ∀ choice ∈ choices, AreWithin n choice) : heightOf (joinChoices choices) ≤ n + 2 := by
  unfold joinChoices
  split
  case h_1 only =>
    exact Nat.le_succ_of_le (h only List.mem_cons_self).heightOf_le
  case h_2 =>
    split
    · simp [heightOf, Node.height]
    · have hchoices : heightOfChoices choices ≤ n + 1 :=
        heightOfChoices_le_iff.mpr fun choice hchoice => (h choice hchoice).heightOf_le
      simp only [heightOf, Node.height]
      omega

end Clearance.Pattern
