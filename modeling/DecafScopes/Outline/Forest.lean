/-!
# Ordered forests

A forest is a list of trees whose nodes carry labels.  It is given by its first
tree and what stands to the right of it: the label of the first root, the forest
below that root and the forest of the remaining trees.  Source order is the
order in which a node comes before everything below it, and that before
everything to its right.
-/

set_option autoImplicit false

namespace DecafScopes

/-- An ordered list of trees with labels at their nodes. -/
inductive Forest (α : Type) where
  | nil
  /-- A first tree with root `label` over `parts`, then the trees of `rest`. -/
  | node (label : α) (parts rest : Forest α)

namespace Forest

variable {α β : Type}

/-- The labels of the outermost nodes, from left to right. -/
def roots : Forest α → List α
  | nil => []
  | node label _ rest => label :: rest.roots

/-- All labels in source order. -/
def labels : Forest α → List α
  | nil => []
  | node label parts rest => label :: (parts.labels ++ rest.labels)

/-- Combines all labels in source order, without listing them. -/
def foldl (combine : β → α → β) : β → Forest α → β
  | start, nil => start
  | start, node label parts rest =>
      rest.foldl combine (parts.foldl combine (combine start label))

end Forest

end DecafScopes
