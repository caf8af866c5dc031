import DecafScopes.Proofs.Outline.Placement

/-!
# Forests next to each other

A forest can be written to the right of another one.  Its nodes then come after those of the
first one in source order, so they get the places that follow, while the first forest keeps
its own.  The declarations of a program stand next to each other in this way
(`Declaration.nodesList_append`).
-/

set_option autoImplicit false

namespace DecafScopes

namespace Forest

variable {α : Type}

/-- The trees of a forest, and then those of another one. -/
def append : Forest α → Forest α → Forest α
  | nil, second => second
  | node label parts rest, second => node label parts (rest.append second)

theorem labels_append (first second : Forest α) :
    (first.append second).labels = first.labels ++ second.labels := by
  induction first with
  | nil => rfl
  | node label parts rest _ right =>
      rw [append, labels, labels, right, List.cons_append, List.append_assoc]

/-- The second forest is placed behind the first one. -/
theorem placed_append (first second : Forest Node) (place : Place) :
    (first.append second).placed place =
      (first.placed place).append (second.placed (first.foldl Place.after place)) := by
  induction first generalizing place with
  | nil => rfl
  | node label parts rest _ right =>
      rw [append, placed, right]
      rfl

end Forest

/-- A declaration is one tree, whatever stands to the right of it. -/
theorem Declaration.nodes_append (declaration : Declaration) (rest second : Forest Node) :
    (declaration.nodes rest).append second = declaration.nodes (rest.append second) := by
  cases declaration <;> rfl

/-- The nodes of two lists of declarations stand next to each other. -/
theorem Declaration.nodesList_append (first second : List Declaration) :
    Declaration.nodesList (first ++ second) .nil =
      (Declaration.nodesList first .nil).append (Declaration.nodesList second .nil) := by
  induction first with
  | nil => rfl
  | cons declaration others ih =>
      rw [List.cons_append, Declaration.nodesList, ih, Declaration.nodesList,
        Declaration.nodes_append]

end DecafScopes
