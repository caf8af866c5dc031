import DecafScopes.Proofs.Binding.Outcome

/-!
# Enclosing declarations

Of the nodes around a node, the classes, interfaces and functions are declarations
with an inside (`Node.owner?`).  The search for an enclosing declaration, outward
from the scope around the node, finds the innermost of them that fits
(`ScopeTree.IsResult.innermostOwner?_eq`).  It looks at no table, so it also finds a
declaration that does not hold its name.
-/

set_option autoImplicit false

namespace DecafScopes

/-- The declaration that a node is, if it is one with an inside and it fits. -/
def Node.owner? (fits : Declaration → Bool) (node : Node) : Option Declaration :=
  if node.opens?.isSome then node.declaration?.filter fits else none

/-- Only the openers among nodes have an inside. -/
theorem Node.findSome?_owner? (fits : Declaration → Bool) (nodes : List Node) :
    nodes.findSome? (owner? fits) =
      (nodes.filter (·.opens?.isSome)).findSome? (·.declaration?.filter fits) := by
  induction nodes with
  | nil => rfl
  | cons node others ih =>
      rw [List.findSome?_cons, List.filter_cons, ih, owner?]
      by_cases opens : node.opens?.isSome
      · rw [if_pos opens, if_pos opens, List.findSome?_cons]
      · rw [if_neg opens, if_neg opens]

theorem Entry.map_declaration_filter_declared? (fits : Declaration → Bool) (entry : Entry) :
    (entry.declared?.filter (fits ·.declaration)).map Declared.declaration =
      entry.node.declaration?.filter fits := by
  unfold declared?
  cases entry.node.declaration? with
  | none => rfl
  | some declaration => cases fitting : fits declaration <;> simp [Option.filter, fitting]

/-- What stands around something in a program occurs in it and opens a scope. -/
theorem Program.Surround.exists_occurrence {program : Program} {around : List Opener}
    (surround : program.Surround around) {opener : Opener} (member : opener ∈ around) :
    ∃ further, ⟨opener.entry, further⟩ ∈ program.occurrences ∧
      opener.entry.node.opens?.isSome := by
  induction surround with
  | nil => cases member
  | @cons inner further opens occurs _ ih =>
      rcases List.mem_cons.mp member with rfl | outside
      · exact ⟨further, occurs, opens⟩
      · exact ih outside

namespace ScopeTree.IsResult

variable {policy : BindingPolicy} {program : Program} {tree : ScopeTree}

/-- The scope of an opener belongs to the opener, if that is a declaration. -/
theorem owner_eq (result : tree.IsResult policy.redeclaration (program.steps policy))
    {around : List Opener} (surround : program.Surround around) {opener : Opener}
    (member : opener ∈ around) {scope : Scope}
    (found : tree.scopes[opener.number]? = some scope) :
    scope.owner = opener.entry.declared? := by
  obtain ⟨further, occurs, opens⟩ := surround.exists_occurrence member
  obtain ⟨kind, isKind⟩ := Option.isSome_iff_exists.mp opens
  have listed := Program.mem_numbered_steps policy occurs isKind
  have isScope := Step.scopeAt?_of_numbered policy.redeclaration _ _ listed
  rw [result.scope_eq] at found
  obtain rfl := Option.some.inj (isScope.symm.trans found)
  rfl

/-- The scopes outward from inside of openers belong to the openers, and the
global scope to nothing. -/
theorem exists_outward_owners
    (result : tree.IsResult policy.redeclaration (program.steps policy))
    {around : List Opener} (surround : program.Surround around) :
    ∃ scopes, tree.outward (scopeInside around) = ⟨scopes, .ok ()⟩ ∧
      scopes.map Scope.owner = around.map (·.entry.declared?) ++ [none] := by
  obtain ⟨scopes, way, numbers, present⟩ := result.exists_outward surround
  refine ⟨scopes, way, ?_⟩
  have owners : scopes.map Scope.owner =
      (scopes.map Scope.number).map fun number => tree.scopes[number]?.bind Scope.owner := by
    rw [List.map_map]
    apply List.map_congr_left
    intro scope member
    rw [Function.comp_apply, present scope member, Option.bind_some]
  have outermost : tree.scopes[root]?.bind Scope.owner = none := by
    rw [result.scope_eq]
    rfl
  rw [owners, numbers, List.map_append, List.map_map, List.map_singleton, outermost]
  apply congrArg (· ++ [none])
  apply List.map_congr_left
  intro opener member
  obtain ⟨scope, listed, isNumber⟩ : ∃ scope ∈ scopes, scope.number = opener.number := by
    apply List.mem_map.mp
    rw [numbers]
    exact List.mem_append_left _ (List.mem_map_of_mem member)
  have found := present scope listed
  rw [isNumber] at found
  rw [Function.comp_apply, found, Option.bind_some, result.owner_eq surround member found]

/-- The search for an enclosing declaration, outward from inside of openers, finds the
innermost of them that is a declaration and fits. -/
theorem innermostOwner?_eq_findSome?
    (result : tree.IsResult policy.redeclaration (program.steps policy))
    {around : List Opener} (surround : program.Surround around) (fits : Declaration → Bool) :
    tree.innermostOwner? (scopeInside around) fits =
      .ok (around.findSome? fun opener =>
        opener.entry.declared?.filter (fits ·.declaration)) := by
  obtain ⟨scopes, way, owners⟩ := result.exists_outward_owners surround
  have found : (scopes.findSome? fun scope => scope.owner.filter (fits ·.declaration)) =
      around.findSome? fun opener => opener.entry.declared?.filter (fits ·.declaration) := by
    calc (scopes.findSome? fun scope => scope.owner.filter (fits ·.declaration))
        = (scopes.map Scope.owner).findSome? fun owner =>
            owner.filter (fits ·.declaration) := by
          rw [List.findSome?_map]
          rfl
      _ = around.findSome? fun opener =>
            opener.entry.declared?.filter (fits ·.declaration) := by
          rw [owners, List.findSome?_append, List.findSome?_map]
          exact Option.or_none
  rw [innermostOwner?, searchOutward_eq way, found]

end ScopeTree.IsResult

/-- Seen as a declaration, the innermost of several openers that fits is the innermost
of their nodes that does. -/
theorem Opener.map_declaration_findSome? (fits : Declaration → Bool) {around : List Opener}
    {nodes : List Node}
    (listed : around.map (·.entry.node) = nodes.filter (·.opens?.isSome)) :
    (around.findSome? fun opener =>
        opener.entry.declared?.filter (fits ·.declaration)).map Declared.declaration =
      nodes.findSome? (Node.owner? fits) := by
  calc (around.findSome? fun opener =>
          opener.entry.declared?.filter (fits ·.declaration)).map Declared.declaration
      = around.findSome? fun opener => opener.entry.node.declaration?.filter fits := by
        rw [List.map_findSome?]
        apply congrArg (around.findSome? ·)
        funext opener
        exact opener.entry.map_declaration_filter_declared? fits
    _ = (around.map (·.entry.node)).findSome? (·.declaration?.filter fits) := by
        rw [List.findSome?_map]
        rfl
    _ = nodes.findSome? (Node.owner? fits) := by
        rw [listed, Node.findSome?_owner?]

/-- **The search for an enclosing declaration finds the innermost one around the
node.** -/
theorem ScopeTree.IsResult.innermostOwner?_eq {policy : BindingPolicy} {program : Program}
    {tree : ScopeTree} (result : tree.IsResult policy.redeclaration (program.steps policy))
    {occurrence : Occurrence} (occurs : occurrence ∈ program.occurrences) {node : Node}
    {around : List Node} (isOf : occurrence.IsOf node around) (fits : Declaration → Bool) :
    ∃ found, tree.innermostOwner? occurrence.scope fits = .ok found ∧
      found.map Declared.declaration = around.findSome? (Node.owner? fits) :=
  ⟨_, result.innermostOwner?_eq_findSome? (program.surround occurs) fits,
    Opener.map_declaration_findSome? fits isOf.around_eq⟩

end DecafScopes
