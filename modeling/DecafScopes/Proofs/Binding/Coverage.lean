import DecafScopes.Proofs.Binding.Outcome

/-!
# Every node is bound once, under the right scopes

The nodes that are bound are the nodes of the program, each of them once.  The
way outward from a node leads through the scopes of the openers around it, the
innermost first, and ends at the global scope (`Program.scopeChain_eq_openers`); nothing
else on the way opens a scope, and the scope that a node opens itself is not on
its way.
-/

set_option autoImplicit false

namespace DecafScopes

namespace Program

variable {program : Program}

/-- The identities in the outline of a program are those of its nodes. -/
theorem mem_nodeIds_iff {id : NodeId} :
    id ∈ program.nodeIds ↔ ∃ node around, program.HasNode node around ∧ node.id = id := by
  rw [nodeIds, List.mem_map]
  constructor
  · rintro ⟨node, listed, isId⟩
    obtain ⟨around, has⟩ := mem_labels_iff.mp listed
    exact ⟨node, around, has, isId⟩
  · rintro ⟨node, around, has, isId⟩
    exact ⟨node, mem_labels_iff.mpr ⟨around, has⟩, isId⟩

end Program

namespace ScopeTree.IsResult

variable {policy : BindingPolicy} {program : Program} {tree : ScopeTree}

/-! ## What is bound -/

theorem isSome_scopeAround?_iff
    (result : tree.IsResult policy.redeclaration (program.steps policy)) {id : NodeId} :
    (tree.scopeAround? id).isSome ↔ id ∈ program.nodeIds := by
  rw [Option.isSome_iff_exists, ← Program.map_id_occurrences, List.mem_map]
  constructor
  · rintro ⟨scope, around⟩
    rw [result.around_iff, (program.bindings_steps policy).mem_iff] at around
    obtain ⟨occurrence, occurs, isBinding⟩ := List.mem_map.mp around
    exact ⟨occurrence, occurs, congrArg Prod.fst isBinding⟩
  · rintro ⟨occurrence, occurs, rfl⟩
    exact ⟨occurrence.scope, result.scopeAround?_eq occurs⟩

theorem bindingCount_eq_length
    (result : tree.IsResult policy.redeclaration (program.steps policy)) :
    tree.bindingCount = program.nodeIds.length := by
  rw [result.bindingCount_eq, (program.bindings_steps policy).length_eq, List.length_map,
    ← Program.map_id_occurrences, List.length_map]

/-! ## What is opened -/

/-- An occurrence that opens a scope opens the one with the number that the
outline has for it. -/
theorem openedBy?_eq (result : tree.IsResult policy.redeclaration (program.steps policy))
    {occurrence : Occurrence} (occurs : occurrence ∈ program.occurrences)
    (opens : occurrence.entry.node.opens?.isSome) :
    tree.openedBy? occurrence.entry.id = some occurrence.entry.place.scope := by
  obtain ⟨kind, isKind⟩ := Option.isSome_iff_exists.mp opens
  rw [result.opened_iff]
  exact ⟨_, Program.mem_numbered_steps policy occurs isKind, rfl⟩

/-- The openers around something opened the scopes that it lies in. -/
theorem map_openedBy?_eq (result : tree.IsResult policy.redeclaration (program.steps policy))
    {around : List Opener} (surround : program.Surround around) :
    around.map (tree.openedBy? ·.entry.id) = (around.map Opener.number).map some := by
  induction surround with
  | nil => rfl
  | cons opens occurs _ ih =>
      rw [List.map_cons, List.map_cons, List.map_cons, ih, result.openedBy?_eq occurs opens]
      rfl

/-- Scopes further out have smaller numbers. -/
theorem number_le_scopeInside
    (result : tree.IsResult policy.redeclaration (program.steps policy)) {around : List Opener}
    (surround : program.Surround around) {opener : Opener} (member : opener ∈ around) :
    opener.number ≤ scopeInside around := by
  induction surround with
  | nil => cases member
  | @cons inner further opens occurs _ ih =>
      obtain ⟨kind, isKind⟩ := Option.isSome_iff_exists.mp opens
      have smaller := result.parent_lt _ _ (Program.mem_numbered_steps policy occurs isKind)
      rcases List.mem_cons.mp member with rfl | outside
      · exact Nat.le_refl _
      · exact (ih outside).trans (Nat.le_of_lt smaller)

/-- A node stands outside of the scope that it opens. -/
theorem scope_lt_of_openedBy?
    (result : tree.IsResult policy.redeclaration (program.steps policy)) {occurrence : Occurrence}
    (occurs : occurrence ∈ program.occurrences) {inner : Nat}
    (opened : tree.openedBy? occurrence.entry.id = some inner) : occurrence.scope < inner := by
  obtain ⟨opening, listed, isOpener⟩ := (result.opened_iff _ _).mp opened
  have smaller := result.parent_lt _ _ listed
  rw [Program.numbered_steps] at listed
  obtain ⟨other, occursToo, isOpening⟩ := List.mem_filterMap.mp listed
  rw [Occurrence.opening?, Option.map_map] at isOpening
  obtain ⟨kind, _, isPair⟩ := Option.map_eq_some_iff.mp isOpening
  cases isPair
  have sameId : other.entry.id = occurrence.entry.id := isOpener
  have around := result.scopeAround?_eq occursToo
  rw [sameId, result.scopeAround?_eq occurs] at around
  rw [Option.some.inj around]
  exact smaller

end ScopeTree.IsResult

namespace Program

variable (policy : BindingPolicy) {program : Program}

/-- **Every node is bound once, under the right chain of scopes.**  In the tree of
a program whose nodes have distinct identities, exactly the nodes of the program
are bound.  The chain of scopes around a node consists of those that the openers
around the node opened, the innermost first, and of the global scope; the scope
that the node opens itself is not among them. -/
theorem scopeChain_eq_openers (distinct : program.nodeIds.Nodup) :
    ∃ tree, program.bind policy = .ok tree ∧
      (∀ id, (tree.scopeAround? id).isSome ↔
        ∃ node around, program.HasNode node around ∧ node.id = id) ∧
      tree.bindingCount = program.nodeIds.length ∧
      ∀ node around, program.HasNode node around →
        ∃ scope openers, tree.scopeAround? node.id = some scope ∧
          (around.filter (·.opens?.isSome)).map (tree.openedBy? ·.id) = openers.map some ∧
          tree.scopeChain scope = .ok (openers ++ [ScopeTree.root]) ∧
          ∀ inner, tree.openedBy? node.id = some inner → inner ∉ openers ++ [ScopeTree.root] := by
  obtain ⟨tree, bound, result⟩ := exists_bind policy distinct
  refine ⟨tree, bound, ?_, result.bindingCount_eq_length, ?_⟩
  · intro id
    exact result.isSome_scopeAround?_iff.trans mem_nodeIds_iff
  intro node around has
  obtain ⟨occurrence, occurs, isOf⟩ := exists_occurrence has
  have surround := program.surround occurs
  obtain ⟨scopes, way, numbers, _⟩ := result.exists_outward surround
  refine ⟨occurrence.scope, occurrence.around.map Opener.number, ?_, ?_, ?_, ?_⟩
  · rw [← isOf.node_eq]
    exact result.scopeAround?_eq occurs
  · rw [← isOf.around_eq, List.map_map, ← result.map_openedBy?_eq surround]
    rfl
  · rw [Occurrence.scope, ScopeTree.scopeChain_eq way, numbers]
  · intro inner opened listed
    rw [← isOf.node_eq] at opened
    have outside := result.scope_lt_of_openedBy? occurs opened
    rcases List.mem_append.mp listed with inChain | isRoot
    · obtain ⟨opener, member, rfl⟩ := List.mem_map.mp inChain
      exact absurd outside (Nat.not_lt.mpr (result.number_le_scopeInside surround member))
    · rw [List.mem_singleton.mp isRoot] at outside
      exact absurd outside (Nat.not_lt_zero _)

/-- Around the body of the sample loop, there are two blocks, the loop, the method
and the class. -/
theorem scopeChain_sample_use :
    Sample.program.nodeIds.Nodup ∧
      ∃ tree, Sample.program.bind .standard = .ok tree ∧ tree.bindingCount = 27 ∧
        ∃ scope openers, tree.scopeAround? ⟨14⟩ = some scope ∧
          [⟨12⟩, ⟨8⟩, ⟨7⟩, ⟨5⟩, ⟨2⟩].map tree.openedBy? = openers.map some ∧
          tree.scopeChain scope = .ok (openers ++ [ScopeTree.root]) := by
  have distinct : Sample.program.nodeIds.Nodup := by decide
  obtain ⟨tree, bound, _, counted, chains⟩ := scopeChain_eq_openers .standard distinct
  obtain ⟨scope, openers, around, opened, chain, _⟩ := chains _ _ Sample.hasNode_use
  exact ⟨distinct, tree, bound, counted, scope, openers, around, opened, chain⟩

end Program

end DecafScopes
