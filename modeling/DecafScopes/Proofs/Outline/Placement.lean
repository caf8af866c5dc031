import DecafScopes.Outline.Occurrence

/-!
# Places do not change an outline

Putting the nodes of a forest at their places keeps the nodes and how they are
nested, and listing the occurrences in a forest lists its labels in source
order.  The openers get the numbers from the place of the first node on, one
after the other in source order, and none is left out
(`Forest.numbers_placed`).
-/

set_option autoImplicit false

namespace DecafScopes

namespace Forest

/-! ## The nodes of a placed forest -/

@[simp] theorem map_node_roots_placed (forest : Forest Node) (place : Place) :
    (forest.placed place).roots.map Entry.node = forest.roots := by
  induction forest generalizing place with
  | nil => rfl
  | node label parts rest _ right =>
      simp only [placed, roots, List.map_cons, right]

@[simp] theorem map_node_labels_placed (forest : Forest Node) (place : Place) :
    (forest.placed place).labels.map Entry.node = forest.labels := by
  induction forest generalizing place with
  | nil => rfl
  | node label parts rest below right =>
      simp only [placed, labels, List.map_cons, List.map_append, below, right]

theorem roots_subset_labels {α : Type} (forest : Forest α) : forest.roots ⊆ forest.labels := by
  induction forest with
  | nil => exact List.Subset.refl _
  | node label parts rest _ right =>
      exact List.cons_subset_cons label (List.Subset.trans right (List.subset_append_right _ _))

/-- The occurrences in a forest are its labels in source order. -/
@[simp] theorem map_entry_occurrences (forest : Forest Entry) (outer : List Opener) :
    (forest.occurrences outer).map Occurrence.entry = forest.labels := by
  induction forest generalizing outer with
  | nil => rfl
  | node entry parts rest below right =>
      simp only [occurrences, labels, List.map_cons, List.map_append, below, right]

/-! ## The openers of a forest -/

/-- The openers in a forest in source order, each with its parts. -/
def openers : Forest Entry → List Opener
  | nil => []
  | node entry parts rest =>
      (if entry.node.opens?.isSome then [⟨entry, parts⟩] else []) ++
        (parts.openers ++ rest.openers)

/-- The openers are the labels that open a scope. -/
theorem map_entry_openers (forest : Forest Entry) :
    forest.openers.map Opener.entry = forest.labels.filter (·.node.opens?.isSome) := by
  induction forest with
  | nil => rfl
  | node entry parts rest below right =>
      rw [openers, labels, List.map_append, List.map_append, below, right, List.filter_cons,
        List.filter_append]
      split <;> rfl

/-- What stands around an occurrence in a forest is an opener in the forest, or
stands around the whole forest. -/
theorem mem_openers_of_mem_around {forest : Forest Entry} {outer : List Opener}
    {occurrence : Occurrence} (occurs : occurrence ∈ forest.occurrences outer) {opener : Opener}
    (around : opener ∈ occurrence.around) : opener ∈ outer ∨ opener ∈ forest.openers := by
  induction forest generalizing outer with
  | nil => cases occurs
  | node entry parts rest below right =>
      rw [occurrences] at occurs
      rw [openers]
      rcases List.mem_cons.mp occurs with rfl | further
      · exact .inl around
      rcases List.mem_append.mp further with inParts | inRest
      · rcases below inParts with outside | within
        · unfold Entry.aroundParts at outside
          split at outside
          next opens =>
            rw [if_pos opens]
            exact (List.mem_cons.mp outside).symm.imp_right fun here => by simp [here]
          · exact .inl outside
        · exact .inr (List.mem_append_right _ (List.mem_append_left _ within))
      · exact (right inRest).imp_right fun within =>
          List.mem_append_right _ (List.mem_append_right _ within)

/-! ## The numbers of the openers -/

/-- How many nodes of a forest open a scope. -/
def openerCount (forest : Forest Node) : Nat :=
  forest.labels.countP (·.opens?.isSome)

theorem openerCount_node (label : Node) (parts rest : Forest Node) :
    (node label parts rest).openerCount =
      (if label.opens?.isSome then 1 else 0) + parts.openerCount + rest.openerCount := by
  simp only [openerCount, labels, List.countP_cons, List.countP_append]
  omega

theorem scope_after (place : Place) (node : Node) :
    (place.after node).scope = place.scope + if node.opens?.isSome then 1 else 0 := by
  unfold Place.after
  split <;> simp

/-- A forest takes up as many numbers as it has openers. -/
theorem scope_foldl_after (forest : Forest Node) (place : Place) :
    (forest.foldl Place.after place).scope = place.scope + forest.openerCount := by
  induction forest generalizing place with
  | nil => rfl
  | node label parts rest below right =>
      rw [foldl, right, below, scope_after, openerCount_node]
      omega

/-- The number of the place right behind a first tree. -/
theorem scope_behind (label : Node) (parts : Forest Node) (place : Place) :
    (parts.foldl Place.after (place.after label)).scope =
      place.scope + (if label.opens?.isSome then 1 else 0) + parts.openerCount := by
  rw [scope_foldl_after, scope_after]

/-- **The openers of a forest are numbered in source order.** -/
theorem numbers_placed (forest : Forest Node) (place : Place) :
    ((forest.placed place).labels.filter (·.node.opens?.isSome)).map (·.place.scope) =
      List.range' place.scope forest.openerCount := by
  induction forest generalizing place with
  | nil => rfl
  | node label parts rest below right =>
      rw [openerCount_node, ← List.range'_append_1, ← List.range'_append_1, placed, labels,
        List.filter_cons]
      simp only [List.filter_append]
      split
      next opens =>
        simp only [List.map_cons, List.map_append, below, right, scope_behind, scope_after, opens,
          if_true, List.range'_one, List.cons_append, List.nil_append, Nat.add_assoc]
      next opens =>
        simp only [List.map_append, below, right, scope_behind, scope_after, opens,
          Bool.false_eq_true, if_false, List.range'_zero, List.nil_append, Nat.add_zero,
          Nat.zero_add]

end Forest

end DecafScopes
