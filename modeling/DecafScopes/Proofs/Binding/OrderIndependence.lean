import DecafScopes.Proofs.Binding.Correspondence
import DecafScopes.Proofs.Binding.Coverage
import DecafScopes.Proofs.Binding.ScopeContents
import DecafScopes.Proofs.Outline.Rearrangement

/-!
# The order of declarations does not matter

Rearranging a program changes the numbers of its scopes, the order in which its nodes
are bound and the order of its diagnostics.  It does not change what each node adds
under any one name, and this is all that a lookup and a refusal depend on.  So in a
rearranged program every name refers to the same declaration everywhere, the same
declarations enclose every node, and the same diagnostics are raised
(`Program.seesAlike_of_rearrangedTo`).
-/

set_option autoImplicit false

namespace DecafScopes

/-! ## What nodes add -/

/-- Lists rearranged after changes that keep a value and the names have the same
values under every name. -/
theorem RearrangedAfter.sameByName {α β : Type} {changed : α → α → Prop}
    {declaration : α → Declaration} {list list' : List α}
    (rearranged : RearrangedAfter changed (fun item => (declaration item).name) list list')
    {value : Declaration → β}
    (within : ∀ first second, changed first second →
      (declaration first).RearrangedTo (declaration second))
    (kept : ∀ first second : Declaration, first.RearrangedTo second →
      value first = value second) :
    SameByName value (list.map declaration) (list'.map declaration) := by
  intro name
  rw [List.filter_map, List.filter_map, List.map_map, List.map_map]
  refine rearranged.map_filter_eq ?_ ?_ name
  · intro first second here
    exact kept _ _ (within first second here)
  · intro first second here
    exact (within first second here).name_eq

theorem VariableDecl.sameByName_of_rearranged {β : Type} {list list' : List VariableDecl}
    (rearranged : Rearranged (·.name.name) list list') (value : Declaration → β)
    (kept : ∀ first second : Declaration, first.RearrangedTo second →
      value first = value second) :
    SameByName value (list.map .variableDecl) (list'.map .variableDecl) := by
  refine RearrangedAfter.sameByName rearranged.after ?_ kept
  rintro declared _ rfl
  exact .variableDecl declared

theorem SameByName.refl {α : Type} (value : Declaration → α) (list : List Declaration) :
    SameByName value list list :=
  fun _ => rfl

namespace Node.RearrangedTo

variable {node node' : Node}

/-- **A rearranged node adds the same declarations under every name**, each
rearranged within itself. -/
theorem sameByName_adds (policy : BindingPolicy) (rearranged : node.RearrangedTo node')
    {β : Type} (value : Declaration → β)
    (kept : ∀ first second : Declaration, first.RearrangedTo second →
      value first = value second) :
    SameByName value (node.adds policy) (node'.adds policy) := by
  cases rearranged with
  | program _ => exact .refl value []
  | declaration inside =>
      cases inside with
      | variableDecl declared => exact .refl value []
      | classDecl inside =>
          cases inside with
          | intro members =>
              exact members.sameByName (fun _ _ rearranged => rearranged.declaration) kept
      | interfaceDecl inside =>
          cases inside with
          | intro prototypes =>
              exact prototypes.sameByName (fun _ _ rearranged => .functionDecl rearranged) kept
      | functionDecl inside =>
          cases inside with
          | intro parameters _ =>
              rw [adds, adds]
              split
              · exact VariableDecl.sameByName_of_rearranged parameters value kept
              · exact .refl value []
  | block inside =>
      cases inside with
      | intro locals _ => exact VariableDecl.sameByName_of_rearranged locals value kept
  | statement inside =>
      cases inside with
      | block inside =>
          cases inside with
          | intro locals _ => exact VariableDecl.sameByName_of_rearranged locals value kept
      | plain inside =>
          cases inside with
          | @forLoop start => cases start <;> exact .refl value _
          | ifElse | whileLoop | switch | leave | print | exitLoop | evaluate =>
              exact .refl value []
  | arm _ => exact .refl value []
  | expression _ => exact .refl value _

/-- A rearranged node corresponds to the node that it was before. -/
theorem corresponds (policy : BindingPolicy) (rearranged : node.RearrangedTo node') :
    node.Corresponds policy node' where
  opens_eq := rearranged.opens?_eq
  declared_eq := by
    cases rearranged with
    | declaration inside =>
        exact congrArg some (Prod.ext inside.id_eq inside.kind_eq)
    | program _ | block _ | statement _ | arm _ | expression _ => rfl
  sameByName := by
    apply rearranged.sameByName_adds policy
    intro first second inside
    exact inside.id_eq

end Node.RearrangedTo

namespace Program.RearrangedTo

variable {program program' : Program}

theorem sameByName_declarations (rearranged : program.RearrangedTo program') {β : Type}
    (value : Declaration → β)
    (kept : ∀ first second : Declaration, first.RearrangedTo second →
      value first = value second) :
    SameByName value program.declarations program'.declarations := by
  cases rearranged with
  | @intro _ _ declarations declarations' inside =>
      have same := inside.sameByName (fun _ _ rearranged => rearranged) kept
      rw [List.map_id', List.map_id'] at same
      exact same

/-- Every node of a program is in the rearranged one, with the nodes around it
rearranged. -/
theorem exists_rearranged (rearranged : program.RearrangedTo program') {node : Node}
    {around : List Node} (has : program.HasNode node around) :
    ∃ node' around', program'.HasNode node' around' ∧ node.RearrangedTo node' ∧
      List.Forall₂ Node.RearrangedTo around around' := by
  refine has.exists_related (.program rearranged) ?_
  intro outer _ outer' inside part member
  exact Multiset.exists_mem_of_rel_of_mem inside.rel_inside member

/-- Every node of the rearranged program was in the program before. -/
theorem exists_original (rearranged : program.RearrangedTo program') {node' : Node}
    {around' : List Node} (has : program'.HasNode node' around') :
    ∃ node around, program.HasNode node around ∧ node.RearrangedTo node' := by
  have whole : flip Node.RearrangedTo (.program program') (.program program) :=
    .program rearranged
  obtain ⟨node, around, has, same, _⟩ := has.exists_related whole <| by
    intro outer _ outer' inside part member
    exact Multiset.exists_mem_of_rel_of_mem (Multiset.rel_flip.mpr inside.rel_inside) member
  exact ⟨node, around, has, same⟩

/-! ## Diagnostics -/

/-- In every scope the declarations of every name are at the same places in the
text. -/
theorem sameByName_registrations (policy : BindingPolicy)
    (rearranged : program.RearrangedTo program') (distinct : program.nodeIds.Nodup)
    (scope : Option NodeId) :
    SameByName Declaration.span
      (Registration.declaredIn scope (program.registrations policy))
      (Registration.declaredIn scope (program'.registrations policy)) := by
  have distinct' := rearranged.nodeIds_perm.nodup_iff.mp distinct
  have kept : ∀ first second : Declaration, first.RearrangedTo second →
      first.span = second.span := by
    intro first second inside
    exact inside.span_eq
  cases scope with
  | none =>
      rw [declaredIn_registrations_none distinct, declaredIn_registrations_none distinct']
      exact rearranged.sameByName_declarations Declaration.span kept
  | some id =>
      by_cases opener : ∃ node around,
        program.HasNode node around ∧ node.opens?.isSome ∧ node.id = id
      · obtain ⟨node, around, has, opens, rfl⟩ := opener
        obtain ⟨node', around', has', inside, _⟩ := rearranged.exists_rearranged has
        have opens' : node'.opens?.isSome := inside.opens?_eq ▸ opens
        rw [declaredIn_registrations_opener distinct has opens, inside.id_eq,
          declaredIn_registrations_opener distinct' has' opens']
        exact inside.sameByName_adds policy Declaration.span kept
      · have closed : ∀ node around, program.HasNode node around → node.opens?.isSome →
            node.id ≠ id := by
          intro node around has opens isId
          exact opener ⟨node, around, has, opens, isId⟩
        have closed' : ∀ node around, program'.HasNode node around → node.opens?.isSome →
            node.id ≠ id := by
          intro node' around' has' opens' isId
          obtain ⟨node, around, has, inside⟩ := rearranged.exists_original has'
          have opens : node.opens?.isSome := inside.opens?_eq ▸ opens'
          exact closed node around has opens (inside.id_eq.trans isId)
        rw [declaredIn_registrations_eq_nil distinct closed,
          declaredIn_registrations_eq_nil distinct' closed']
        exact .refl Declaration.span []

end Program.RearrangedTo

/-! ## Trees -/

namespace Program

/-- **The order of declarations does not matter.**  A rearranged program has the same
nodes bound, from each of them the same can be seen, and the same diagnostics are
raised, apart from their order. -/
theorem seesAlike_of_rearrangedTo (policy : BindingPolicy) {program program' : Program}
    (rearranged : program.RearrangedTo program') (distinct : program.nodeIds.Nodup) :
    ∃ tree tree', program.bind policy = .ok tree ∧ program'.bind policy = .ok tree' ∧
      (∀ node, (tree.scopeAround? node = none ∧ tree'.scopeAround? node = none) ∨
        tree.SeesAlike tree' node) ∧
      tree'.diagnostics.toList.Perm tree.diagnostics.toList := by
  have sameIds := rearranged.nodeIds_perm
  have distinct' := sameIds.nodup_iff.mp distinct
  obtain ⟨tree, bound, result⟩ := exists_bind policy distinct
  obtain ⟨tree', bound', result'⟩ := exists_bind policy distinct'
  refine ⟨tree, tree', bound, bound', ?nodes, ?diagnostics⟩
  case nodes =>
    intro node
    by_cases among : node ∈ program.nodeIds
    · right
      obtain ⟨found, around, has, rfl⟩ := mem_nodeIds_iff.mp among
      obtain ⟨found', around', has', inside, nested⟩ := rearranged.exists_rearranged has
      have topLevel : SameByName Declaration.id program.declarations program'.declarations := by
        apply rearranged.sameByName_declarations
        intro first second same
        exact same.id_eq
      refine result.seesAlike result' topLevel has has' inside.id_eq (nested.imp ?_)
      intro outer outer' same
      exact same.corresponds policy
    · left
      have amongNot : node ∉ program'.nodeIds := fun member => among (sameIds.mem_iff.mpr member)
      rw [← result.isSome_scopeAround?_iff, Option.not_isSome_iff_eq_none] at among
      rw [← result'.isSome_scopeAround?_iff, Option.not_isSome_iff_eq_none] at amongNot
      exact ⟨among, amongNot⟩
  case diagnostics =>
    rw [(result.isRecordOf distinct).diagnostics_eq, (result'.isRecordOf distinct').diagnostics_eq]
    refine (policy.redeclaration.refusals_perm ?_).symm
    intro scope name
    exact rearranged.sameByName_registrations policy distinct scope name

/-- The sample class with its method before two of its fields. -/
def rearrangedClass : ClassDecl :=
  { Sample.classDecl with
    members := [.field (Sample.var 3 "x"), .method Sample.method, .field (Sample.var 4 "x"),
      .field (Sample.var 15 "x")] }

/-- The sample program with its class in front. -/
def rearrangedSample : Program :=
  ⟨⟨0⟩, Sample.line 0, [.classDecl rearrangedClass, .variableDecl (Sample.var 1 "x"),
    .interfaceDecl ⟨⟨16⟩, Sample.line 16, ⟨"I", Sample.line 16⟩,
      [⟨⟨17⟩, Sample.line 17, ⟨"p", Sample.line 17⟩, .void, [], none⟩]⟩,
    .functionDecl Sample.function]⟩

/-- In the sample program, the class and the method in it can be moved, and nothing
changes for the use of a name in the method. -/
theorem seesAlike_rearrangedSample :
    Sample.program.RearrangedTo rearrangedSample ∧ Sample.program.nodeIds.Nodup ∧
      ∃ tree tree', Sample.program.bind .standard = .ok tree ∧
        rearrangedSample.bind .standard = .ok tree' ∧
        ((tree.scopeAround? ⟨14⟩ = none ∧ tree'.scopeAround? ⟨14⟩ = none) ∨
          tree.SeesAlike tree' ⟨14⟩) ∧
        tree'.diagnostics.toList.Perm tree.diagnostics.toList := by
  have distinct : Sample.program.nodeIds.Nodup := by decide
  have sameMembers : List.Forall₂ Member.RearrangedTo Sample.classDecl.members
      Sample.classDecl.members :=
    List.forall₂_same.mpr fun member _ => .refl member
  have inClass : Sample.classDecl.RearrangedTo rearrangedClass := by
    exact .intro ⟨_, sameMembers, .cons _ (.swap (by decide) _)⟩
  have rearranged : Sample.program.RearrangedTo rearrangedSample := by
    have within : List.Forall₂ Declaration.RearrangedTo Sample.program.declarations _ :=
      .cons (.refl _) (.cons (.classDecl inClass) (.cons (.refl _) (.cons (.refl _) .nil)))
    exact .intro ⟨_, within, .swap (by decide) _⟩
  obtain ⟨tree, tree', bound, bound', alike, diagnostics⟩ :=
    seesAlike_of_rearrangedTo .standard rearranged distinct
  exact ⟨rearranged, distinct, tree, tree', bound, bound', alike ⟨14⟩, diagnostics⟩

end Program

end DecafScopes
