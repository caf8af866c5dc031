import Mathlib.Logic.Equiv.Basic
import DecafScopes.Proofs.Binding.Failure
import DecafScopes.Proofs.Binding.Simulation

/-!
# Binding does not depend on how things are called

Identities and names are compared with each other and nothing else is done with them.
If all identities and all names of a program are given others, different ones to
different ones, binding it leads to the same scopes, with the same nodes around and in
them, and every new name refers to the declaration at the site of the one that the old
name refers to (`Program.bind_rename`).  It makes no difference whether the renaming
keeps an order among the names or among the identities.
-/

set_option autoImplicit false

namespace DecafScopes

/-- A declaration at the same site, with other identities and names. -/
def Declared.rename (naming : Renaming) (declared : Declared) : Declared :=
  ⟨declared.site, declared.declaration.rename naming⟩

/-- A diagnostic about another name, with the same spans. -/
def Diagnostic.rename (naming : Renaming) : Diagnostic → Diagnostic
  | redeclared name span previous => redeclared (naming.name name) span previous
  | undeclared name span => undeclared (naming.name name) span

/-- A tree has the scopes of another one with other identities and names in them, and it
knows nothing of any other names and identities. -/
structure ScopeTree.Renamed (naming : Renaming) (tree tree' : ScopeTree) : Prop where
  size_eq : tree'.size = tree.size
  scope_eq : ∀ number scope scope', tree.scope number = .ok scope →
    tree'.scope number = .ok scope' →
      scope'.number = scope.number ∧ scope'.kind = scope.kind ∧
        scope'.parent? = scope.parent? ∧ scope'.children = scope.children ∧
        scope'.opener? = scope.opener?.map naming.node ∧
        scope'.owner = scope.owner.map (·.rename naming)
  scopeAround?_eq : ∀ node, tree'.scopeAround? (naming.node node) = tree.scopeAround? node
  scopeAround?_eq_none : ∀ node ∉ Set.range naming.node, tree'.scopeAround? node = none
  openedBy?_eq : ∀ node, tree'.openedBy? (naming.node node) = tree.openedBy? node
  openedBy?_eq_none : ∀ node ∉ Set.range naming.node, tree'.openedBy? node = none
  bindingCount_eq : tree'.bindingCount = tree.bindingCount
  /-- In every scope, a new name is held by what holds the old name. -/
  lookupHere?_eq : ∀ number name, tree'.lookupHere? number (naming.name name) =
    (tree.lookupHere? number name).map (·.map (·.rename naming))
  /-- From every scope, a new name refers to what the old name refers to. -/
  lookup?_eq : ∀ number name, tree'.lookup? number (naming.name name) =
    (tree.lookup? number name).map (·.map (·.rename naming))
  holder?_eq_none : ∀ number scope', tree'.scope number = .ok scope' →
    ∀ name ∉ Set.range naming.name, scope'.holder? name = none
  diagnostics_eq : tree'.diagnostics.toList = tree.diagnostics.toList.map (·.rename naming)

namespace Renaming

variable {naming : Renaming}

/-- What corresponds to a declaration is the declaration renamed. -/
theorem relatesDeclared_eq :
    naming.translation.RelatesDeclared = fun first second => second = first.rename naming := by
  funext first second
  obtain ⟨site, declaration⟩ := first
  obtain ⟨site', declaration'⟩ := second
  apply propext
  rw [Declared.rename, Declared.mk.injEq, and_comm]
  exact and_congr_left fun _ => Iff.of_eq (Node.declaration.injEq _ _)

/-- A diagnostic about declarations that correspond is the diagnostic renamed. -/
theorem eq_rename_of_alike {diagnostic diagnostic' : Diagnostic}
    (alike : diagnostic.Alike naming naming.translation.RelatesDeclared diagnostic') :
    diagnostic' = diagnostic.rename naming := by
  rw [relatesDeclared_eq] at alike
  obtain ⟨name, rfl, rfl⟩ := alike
  simp only [Diagnostic.rename, Declared.rename, Declared.span, Declaration.span_rename]

/-- **Trees that are alike up to a renaming are renamed.** -/
theorem renamed_of_alike {tree tree' : ScopeTree}
    (alike : naming.translation.AlikeTrees tree tree') : tree.Renamed naming tree' := by
  have related : tree.Alike naming (fun first second => second = first.rename naming) tree' := by
    rw [← relatesDeclared_eq]
    exact alike
  refine ⟨related.size_eq, ?scope, related.bindings.eq, related.bindings.eq_none,
    related.openings.eq, related.openings.eq_none, related.bindingCount_eq, ?here, ?outward,
    fun _ _ => related.holder?_eq_none, ?diagnostics⟩
  case scope =>
    intro number scope scope' found found'
    have same := related.scope number
    rw [found, found'] at same
    cases same with
    | ok here =>
        exact ⟨here.number_eq, here.kind_eq, here.parent?_eq, here.children_eq, here.opener?_eq,
          rel_eq_map_iff.mp here.owner⟩
  case here =>
    intro number name
    exact (related.lookupHere? number name).eq_map fun _ _ => rel_eq_map_iff.mp
  case outward =>
    intro number name
    exact (related.lookup? number name).eq_map fun _ _ => rel_eq_map_iff.mp
  case diagnostics =>
    exact eq_map_of_forall₂ (alike.diagnostics.imp fun _ _ => eq_rename_of_alike)

end Renaming

namespace Program

/-- The declarations of a renamed program stand at the sites of the original ones. -/
theorem declared_rename (program : Program) (naming : Renaming) :
    (program.rename naming).declared = program.declared.map (·.rename naming) := by
  have related : naming.translation.Relates (.program program)
      (.program (program.rename naming)) := rfl
  have corresponding := Translation.forall₂_declared related
  rw [Renaming.relatesDeclared_eq] at corresponding
  exact eq_map_of_forall₂ corresponding

/-- **Binding a renamed program.**  Its declarations stand at the sites of the original
ones.  Either binding fails with and without the renaming, in one case with an identity
and in the other with the identity that it is given, or it leads to trees of which one is
the other renamed. -/
theorem bind_rename (naming : Renaming) (policy : BindingPolicy) (program : Program) :
    (program.rename naming).declared = program.declared.map (·.rename naming) ∧
    ((∃ node, program.bind policy = .error (.boundTwice node) ∧
      (program.rename naming).bind policy = .error (.boundTwice (naming.node node))) ∨
    ∃ tree tree', program.bind policy = .ok tree ∧
      (program.rename naming).bind policy = .ok tree' ∧ tree.Renamed naming tree') := by
  refine ⟨program.declared_rename naming, ?_⟩
  have related : naming.translation.Relates (.program program)
      (.program (program.rename naming)) := rfl
  have alike := Translation.bind_alike policy related
  generalize isOutcome : (program.rename naming).bind policy = outcome at alike
  by_cases distinct : program.nodeIds.Nodup
  · obtain ⟨tree, bound, _⟩ := exists_bind policy distinct
    rw [bound] at alike
    cases alike with
    | ok here => exact .inr ⟨tree, _, bound, rfl, Renaming.renamed_of_alike here⟩
  · have twice : ¬ program.bindingOrder.Nodup := fun once =>
      distinct (program.bindingOrder_perm_nodeIds.nodup_iff.mp once)
    obtain ⟨node, _, failed⟩ := exists_bind_eq_error policy program twice
    rw [failed] at alike
    cases alike
    exact .inl ⟨node, failed, rfl⟩

end Program

namespace Sample

/-- Exchanges the identities of the class and of a parameter, and two names. -/
def exchange : Renaming where
  node := Equiv.swap ⟨2⟩ ⟨20⟩
  name := Equiv.swap "x" "a"
  node_injective := Equiv.injective _
  name_injective := Equiv.injective _

end Sample

/-- In the sample program with two names exchanged, the diagnostics are about the other
name, and the class opens the first scope under its new identity. -/
theorem Program.bind_rename_sample :
    ∃ tree, (Sample.program.rename Sample.exchange).bind .standard = .ok tree ∧
      tree.openedBy? ⟨20⟩ = some 1 ∧
      tree.diagnostics.toList =
        [.redeclared "a" (Sample.line 4) (Sample.line 3),
          .redeclared "a" (Sample.line 15) (Sample.line 4),
          .redeclared "a" (Sample.line 18) (Sample.line 1),
          .redeclared "x" (Sample.line 20) (Sample.line 19)] := by
  have distinct : Sample.program.nodeIds.Nodup := by decide
  obtain ⟨tree, bound, result⟩ := exists_bind .standard distinct
  rcases (bind_rename Sample.exchange .standard Sample.program).2 with ⟨_, failed, _⟩ | trees
  · rw [bound] at failed
    cases failed
  · obtain ⟨_, tree', bound', isRenamed, renamed⟩ := trees
    cases bound.symm.trans bound'
    have node : (⟨20⟩ : NodeId) = Sample.exchange.node ⟨2⟩ := by decide
    refine ⟨tree', isRenamed, ?_, ?_⟩
    · rw [node, renamed.openedBy?_eq, result.opened_iff]
      exact ⟨⟨0, ⟨2⟩, .classBody, some ⟨⟨0, 1⟩, .classDecl Sample.classDecl⟩⟩,
        List.mem_of_getElem? (i := 0) rfl, rfl⟩
    · rw [renamed.diagnostics_eq, result.diagnostics_eq]
      decide

end DecafScopes
