import DecafScopes.Proofs.Binding.Coverage

/-!
# The scopes stand in the order of their openers

The scopes of a program are the global one and one for each opener, numbered in
source order (`Program.exists_arena`).  It makes no difference that the members of
a class or an interface are announced before any of them is entered, since only
entering a node opens a scope.

The openers are taken from the nodes of the program, and these are all that is
written in it, each where it is written: they are the complete unfolding of the
table `Node.inside`, which is read off the constructors without a recursion
(`Program.unfolds_nodes`).
-/

set_option autoImplicit false

namespace DecafScopes

/-- The openers of a program in source order, each at its place: all nodes written in it
that open a scope (`Program.unfolds_nodes`). -/
def Program.openers (program : Program) : List Entry :=
  program.outline.labels.filter (·.node.opens?.isSome)

/-! ## What an opener is -/

/-- A scope belongs to the declaration that opened it, if a declaration did. -/
theorem Node.isSome_declaration?_of_opens {node : Node} {kind : ScopeKind}
    (opens : node.opens? = some kind) :
    node.declaration?.isSome = kind.belongsToDeclaration := by
  match node with
  | declaration (.classDecl _) | declaration (.interfaceDecl _) | declaration (.functionDecl _)
  | block _ | statement (.block _) | statement (.plain _ _ (.forLoop ..)) =>
      cases opens
      rfl

/-- The scopes of a tree are the global one and, in source order, those of the
openers of a program. -/
structure ScopeTree.IsArenaOf (program : Program) (tree : ScopeTree) : Prop where
  /-- There is one scope for each opener, and the global scope. -/
  size_eq : tree.size = program.openers.length + 1
  /-- Nothing is around the global scope, nothing opened it, and it belongs to
  nothing. -/
  outermost : ∃ scope, tree.scope ScopeTree.root = .ok scope ∧ scope.number = ScopeTree.root ∧
    scope.kind = .global ∧ scope.parent? = none ∧ scope.opener? = none ∧ scope.owner = none
  /-- Every opener opened the scope with its number in source order.  The scope
  belongs to the opener if that is a declaration, and lies where the opener is
  bound. -/
  opened : ∀ index entry, program.openers[index]? = some entry →
    ∃ scope, tree.scope (index + 1) = .ok scope ∧ scope.number = index + 1 ∧
      scope.opener? = some entry.id ∧ tree.openedBy? entry.id = some (index + 1) ∧
      entry.node.opens? = some scope.kind ∧
      scope.owner = entry.declared? ∧ scope.owner.isSome = scope.kind.belongsToDeclaration ∧
      scope.parent? = tree.scopeAround? entry.id ∧ scope.parent?.isSome
  /-- The children of a scope are the scopes whose parent it is, in ascending
  order. -/
  children : ∀ number scope, tree.scope number = .ok scope →
    scope.children.toList.Pairwise (· < ·) ∧ ∀ inner, inner ∈ scope.children.toList ↔
      ∃ child, tree.scope inner = .ok child ∧ child.parent? = some number
  /-- Nothing but an opener opened a scope. -/
  unopened : ∀ id, id ∉ program.openers.map Entry.id → tree.openedBy? id = none

namespace Program

variable {program : Program}

/-! ## The openers in the outline -/

theorem openers_steps (policy : BindingPolicy) (program : Program) :
    Step.openers (program.steps policy) = program.openers.map Entry.id :=
  Forest.openers_steps policy program.outline [] (.full true)

theorem length_openings (policy : BindingPolicy) (program : Program) :
    (Step.openings (program.steps policy)).length = program.openers.length := by
  have listed := congrArg List.length (program.openers_steps policy)
  rwa [Step.openers, List.length_map, List.length_map] at listed

/-- The number of an opener is its rank among all openers. -/
theorem scope_of_openers {index : Nat} {entry : Entry}
    (found : program.openers[index]? = some entry) : entry.place.scope = index + 1 := by
  have numbers : program.openers.map (·.place.scope) = _ :=
    Forest.numbers_placed program.nodes (Place.start 0)
  have ranked := congrArg (·[index]?) numbers
  simp only [List.getElem?_map, found, Option.map_some] at ranked
  obtain ⟨_, isRank⟩ := List.getElem?_eq_some_iff.mp ranked.symm
  rw [← isRank, List.getElem_range', Nat.one_mul, Nat.add_comm]
  rfl

theorem exists_occurrence_of_openers {entry : Entry} (member : entry ∈ program.openers) :
    ∃ occurrence ∈ program.occurrences, occurrence.entry = entry := by
  have listed := (List.mem_filter.mp member).1
  rw [← Forest.map_entry_occurrences program.outline []] at listed
  exact List.mem_map.mp listed

end Program

/-! ## The arena -/

/-- The result of the steps of a program has its scopes in the order of the
openers. -/
theorem ScopeTree.IsResult.isArenaOf {policy : BindingPolicy} {program : Program}
    {tree : ScopeTree} (result : tree.IsResult policy.redeclaration (program.steps policy)) :
    tree.IsArenaOf program := by
  have scopes {number : Nat} {scope : Scope} : tree.scope number = .ok scope ↔
      Step.scopeAt? policy.redeclaration (program.steps policy) number = some scope := by
    rw [ScopeTree.scope_eq_ok_iff, result.scope_eq]
  refine ⟨?size, ?outermost, ?opened, ?children, ?unopened⟩
  case size => rw [result.size_eq, Program.length_openings]
  case outermost => exact ⟨_, scopes.mpr rfl, rfl, rfl, rfl, rfl, rfl⟩
  case opened =>
    intro index entry found
    have rank := Program.scope_of_openers found
    have member := List.mem_of_getElem? found
    have opens := (List.mem_filter.mp member).2
    obtain ⟨kind, isKind⟩ := Option.isSome_iff_exists.mp opens
    obtain ⟨occurrence, occurs, rfl⟩ := Program.exists_occurrence_of_openers member
    have listed := Program.mem_numbered_steps policy occurs isKind
    have opened := result.openedBy?_eq occurs opens
    have around := result.scopeAround?_eq occurs
    rw [rank] at listed opened
    refine ⟨_, scopes.mpr (Step.scopeAt?_of_numbered _ _ _ listed), rfl, rfl, opened, isKind, rfl,
      ?_, around.symm, rfl⟩
    rw [← Node.isSome_declaration?_of_opens isKind]
    exact Option.isSome_map
  case children =>
    intro number scope found
    obtain ⟨_, children, _⟩ := Step.of_scopeAt?_eq_some _ _ _ (scopes.mp found)
    rw [children]
    refine ⟨Step.pairwise_openedIn _ _, ?_⟩
    intro inner
    simp only [scopes]
    exact Step.mem_openedIn_iff policy.redeclaration (program.steps policy) number
  case unopened =>
    intro id absent
    rw [← program.openers_steps policy] at absent
    exact result.openedBy?_eq_none absent

namespace Program

end Program

end DecafScopes
