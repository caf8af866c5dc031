import Mathlib.Data.List.Perm.Subperm
import Mathlib.Logic.Relation
import DecafScopes.Proofs.Outline.Ancestry
import DecafScopes.Proofs.Outline.Rearrangement

/-!
# Nodes within a node

A node is within another when a path of nodes leads from the one outward to the
other, each of them directly inside the next (`Node.IsWithin`).  The nodes of a
program are the program and the nodes within it (`Program.mem_labels_iff_isWithin`).

A complete unfolding has room for a program when the program is one of its labels:
all nodes of the program are among the labels, each as often as it is in the
program (`Forest.Unfolds.subperm_labels`).  The starting list of an unfolding may
be put in another order, split and put together again; the labels are the same
ones throughout, apart from their order.

Since every node has a complete unfolding, what holds of a node as soon as it holds
of the nodes directly inside holds of all nodes (`Node.inside_induction`).
-/

set_option autoImplicit false

namespace DecafScopes

/-! ## The order of nodes -/

/-- A node is written inside of another, directly or further in. -/
def Node.IsWithin (inner outer : Node) : Prop :=
  Relation.TransGen (fun part whole => part ∈ whole.inside) inner outer

/-- A program has a node if the node is the program or within it. -/
theorem Program.exists_hasNode_iff {program : Program} {node : Node} :
    (∃ around, program.HasNode node around) ↔
      node = .program program ∨ node.IsWithin (.program program) := by
  constructor
  · rintro ⟨around, has⟩
    induction has with
    | whole => exact .inl rfl
    | part _ member ih =>
        rcases ih with rfl | within
        · exact .inr (.single member)
        · exact .inr (.head member within)
  · rintro (rfl | within)
    · exact ⟨[], .whole⟩
    · induction within using Relation.TransGen.head_induction_on with
      | single member => exact ⟨_, .part .whole member⟩
      | head member _ ih =>
          obtain ⟨around, has⟩ := ih
          exact ⟨_, has.part member⟩

/-- **The nodes of a program are the program and the nodes within it.** -/
theorem Program.mem_labels_iff_isWithin {program : Program} {node : Node} :
    node ∈ program.nodes.labels ↔ node = .program program ∨ node.IsWithin (.program program) :=
  mem_labels_iff.trans exists_hasNode_iff

/-! ## Unfolding a list in another order -/

namespace Forest.Unfolds

variable {α : Type} {inside : α → List α} {starting : List α} {forest : Forest α}

/-- The labels of complete unfoldings depend on the starting list only, and only
their order depends on its order. -/
theorem labels_perm (unfolds : forest.Unfolds inside starting) {starting' : List α}
    {forest' : Forest α} (unfolds' : forest'.Unfolds inside starting')
    (same : starting.Perm starting') : forest.labels.Perm forest'.labels := by
  rw [← Multiset.coe_eq_coe, ← Multiset.rel_eq] at same ⊢
  refine rel_labels ?_ unfolds unfolds' same
  rintro first second rfl
  exact Multiset.rel_eq.mpr rfl

/-- An unfolding of a list can be put in another order with the list. -/
theorem exists_of_perm (unfolds : forest.Unfolds inside starting) {starting' : List α}
    (same : starting.Perm starting') : ∃ forest' : Forest α, forest'.Unfolds inside starting' := by
  induction same generalizing forest with
  | nil => exact ⟨forest, unfolds⟩
  | cons _ _ ih =>
      obtain _ | ⟨below, right⟩ := unfolds
      obtain ⟨_, right'⟩ := ih right
      exact ⟨_, .node below right'⟩
  | swap =>
      obtain _ | ⟨below, right⟩ := unfolds
      obtain _ | ⟨below', right'⟩ := right
      exact ⟨_, .node below' (.node below right')⟩
  | trans _ _ first second =>
      obtain ⟨_, unfolds'⟩ := first unfolds
      exact second unfolds'

/-- An unfolding of two lists falls into unfoldings of the lists. -/
theorem exists_append {before after : List α}
    (unfolds : forest.Unfolds inside (before ++ after)) :
    ∃ first second : Forest α, first.Unfolds inside before ∧ second.Unfolds inside after ∧
      forest.labels = first.labels ++ second.labels := by
  induction before generalizing forest with
  | nil => exact ⟨.nil, forest, .nil, unfolds, rfl⟩
  | cons root _ ih =>
      obtain _ | @⟨_, parts, _, _, below, right⟩ := unfolds
      obtain ⟨first, second, isFirst, isSecond, labels⟩ := ih right
      refine ⟨.node root parts first, second, .node below isFirst, isSecond, ?_⟩
      rw [Forest.labels, Forest.labels, labels, List.cons_append, List.append_assoc]

/-- Below every label of an unfolding, there is an unfolding of what is inside. -/
theorem exists_below (unfolds : forest.Unfolds inside starting) {label : α}
    (member : label ∈ forest.labels) :
    ∃ parts : Forest α, parts.Unfolds inside (inside label) ∧
      (label :: parts.labels).Sublist forest.labels := by
  induction unfolds with
  | nil => cases member
  | @node root parts rest _ below _ inParts inRest =>
      rw [Forest.labels] at member ⊢
      rcases List.mem_cons.mp member with rfl | further
      · exact ⟨parts, below, (List.sublist_append_left _ _).cons_cons _⟩
      · rcases List.mem_append.mp further with here | beside
        · obtain ⟨found, unfolded, listed⟩ := inParts here
          exact ⟨found, unfolded, (listed.trans (List.sublist_append_left _ _)).cons _⟩
        · obtain ⟨found, unfolded, listed⟩ := inRest beside
          exact ⟨found, unfolded, (listed.trans (List.sublist_append_right _ _)).cons _⟩

/-- What is directly inside of a label is a label. -/
theorem inside_subset_labels (unfolds : forest.Unfolds inside starting) {label : α}
    (member : label ∈ forest.labels) : inside label ⊆ forest.labels := by
  obtain ⟨parts, below, listed⟩ := unfolds.exists_below member
  rw [← below.roots_eq]
  exact List.Subset.trans (parts.roots_subset_labels)
    (List.Subset.trans (List.subset_cons_self _ _) listed.subset)

/-- **An unfolding has room for the programs among its labels.** -/
theorem subperm_labels {starting : List Node} {forest : Forest Node} {program : Program}
    (unfolds : forest.Unfolds Node.inside starting)
    (member : .program program ∈ forest.labels) : program.nodes.labels.Subperm forest.labels := by
  obtain ⟨parts, below, listed⟩ := unfolds.exists_below member
  have whole : (Forest.node (.program program) parts .nil).Unfolds Node.inside
      [.program program] := .node below .nil
  have labels : program.nodes.labels.Perm (.program program :: parts.labels) := by
    rw [← List.append_nil parts.labels]
    exact program.unfolds_nodes.labels_perm whole (.refl _)
  exact labels.subperm.trans listed.subperm

end Forest.Unfolds

/-! ## Induction from the inside outward -/

/-- A complete unfolding reaches its starting list from the inside outward. -/
theorem Forest.Unfolds.inside_induction {α : Type} {inside : α → List α} {motive : α → Prop}
    (step : ∀ label, (∀ part ∈ inside label, motive part) → motive label) {starting : List α}
    {forest : Forest α} (unfolds : forest.Unfolds inside starting) :
    ∀ label ∈ starting, motive label := by
  induction unfolds with
  | nil => exact fun _ member => absurd member List.not_mem_nil
  | node _ _ parts others => exact List.forall_mem_cons.mpr ⟨step _ parts, others⟩

/-- Below every node, there is a complete unfolding of what is inside. -/
theorem Node.exists_unfolds_inside (node : Node) :
    ∃ parts : Forest Node, parts.Unfolds inside node.inside := by
  have below {label : Node} {forest : Forest Node}
      (unfolds : forest.Unfolds inside [label]) :
      ∃ parts : Forest Node, parts.Unfolds inside label.inside := by
    obtain _ | ⟨below, _⟩ := unfolds
    exact ⟨_, below⟩
  match node with
  | program whole => exact below whole.unfolds_nodes
  | declaration declared => exact below (declared.unfolds_nodes .nil)
  | block body | statement (.block body) =>
      have inBlock := below (body.unfolds_nodes .nil)
      exact inBlock
  | statement (.plain id span form) => exact ⟨_, form.unfolds_parts⟩
  | arm whole => exact below (whole.unfolds_nodes .nil)
  | expression whole => exact below (whole.unfolds_nodes .nil)

/-- What holds of a node as soon as it holds of the nodes directly inside, holds of
all nodes. -/
theorem Node.inside_induction {motive : Node → Prop}
    (step : ∀ node : Node, (∀ part ∈ node.inside, motive part) → motive node) (node : Node) :
    motive node := by
  obtain ⟨_, unfolds⟩ := node.exists_unfolds_inside
  exact step node (unfolds.inside_induction step)

end DecafScopes
