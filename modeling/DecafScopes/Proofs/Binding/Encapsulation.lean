import DecafScopes.Proofs.Binding.Correspondence
import DecafScopes.Proofs.Outline.Hiding

/-!
# What is written in an opener cannot be seen from outside

Two programs that differ only inside one opener have the same nodes elsewhere, and
the nodes around these add the same declarations under every name.  So from every
node that is not written in the opener, the opener itself included, every name
refers to the same declaration in both programs, and the same declarations enclose
the node (`Program.seesAlike_of_hide_eq`), although the scopes may be numbered
differently.
-/

set_option autoImplicit false

namespace DecafScopes

/-- Declarations that differ only inside an opener are the same by name. -/
theorem sameByName_of_map_hide (opener : NodeId) {first second : List Declaration}
    (same : first.map (·.hide opener) = second.map (·.hide opener)) :
    SameByName Declaration.id first second := by
  have seen (name : String) (list : List Declaration) :
      (list.filter (·.name == name)).map Declaration.id =
        ((list.map (·.hide opener)).filter (·.name == name)).map Declaration.id := by
    rw [List.filter_map, List.map_map]
    simp only [Function.comp_def, Declaration.name_hide, Declaration.id_hide]
  intro name
  rw [seen name first, seen name second, same]

/-- **A node other than the opener adds the same declarations**, as far as they
can be seen from outside of the opener. -/
theorem Node.adds_hide (policy : BindingPolicy) {opener : NodeId} {node : Node}
    (other : node.id ≠ opener) :
    (node.hide opener).adds policy = (node.adds policy).map (·.hide opener) := by
  have kept := node.opens?_hide opener
  cases opens : node.opens? with
  | none =>
      rw [opens] at kept
      rw [adds_eq_nil policy opens, adds_eq_nil policy kept, List.map_nil]
  | some kind =>
      rw [opens] at kept
      rw [← filterMap_declaration?_inside policy opens,
        ← filterMap_declaration?_inside policy kept, inside_hide other]
      split
      · rw [List.filterMap_map, List.map_filterMap]
        apply List.filterMap_congr
        intro part _
        exact part.declaration?_hide opener
      · rfl

/-- Nodes that agree outside of the opener and are not the opener correspond to
each other. -/
theorem Node.AgreeOutside.corresponds (policy : BindingPolicy) {opener : NodeId}
    {first second : Node} (agree : first.AgreeOutside opener second) (other : first.id ≠ opener) :
    first.Corresponds policy second where
  opens_eq := by
    rw [← first.opens?_hide opener, agree, second.opens?_hide opener]
  declared_eq := by
    have declared := congrArg Node.declaration? agree
    rw [declaration?_hide, declaration?_hide] at declared
    have seen := congrArg (Option.map fun declared => (declared.id, declared.kind)) declared
    simpa only [Option.map_map, Function.comp_def, Declaration.id_hide, Declaration.kind_hide]
      using seen
  sameByName := by
    have otherToo : second.id ≠ opener := agree.id_eq ▸ other
    apply sameByName_of_map_hide opener
    rw [← adds_hide policy other, agree, adds_hide policy otherToo]

namespace Program

/-- A node with a given identity is in a program, and it is not written in a given
opener. -/
def HasOutside (program : Program) (opener node : NodeId) : Prop :=
  ∃ found around, program.HasNode found around ∧ found.id = node ∧
    ∀ outer ∈ around, outer.id ≠ opener

variable {opener : NodeId} {first second : Program}

/-- **Whatever is not written in the opener is in both programs**, with
corresponding nodes around it. -/
theorem exists_corresponding_of_hide_eq (policy : BindingPolicy)
    (same : first.hide opener = second.hide opener) {node : Node} {around : List Node}
    (has : first.HasNode node around) (outside : ∀ outer ∈ around, outer.id ≠ opener) :
    ∃ node' around', second.HasNode node' around' ∧ node.id = node'.id ∧
      (∀ outer ∈ around', outer.id ≠ opener) ∧
      List.Forall₂ (Node.Corresponds policy) around around' := by
  have whole : (Node.program first).AgreeOutside opener (.program second) :=
    congrArg Node.program same
  obtain ⟨node', around', has', agree, nested⟩ := has.exists_related whole <| by
    intro outer listed outer' alike part member
    exact alike.exists_inside (outside outer listed) member
  have ids : around.map Node.id = around'.map Node.id := by
    rw [← List.forall₂_eq_eq_eq]
    refine List.rel_map ?_ nested
    intro outer outer' alike
    exact alike.id_eq
  refine ⟨node', around', has', agree.id_eq, ?outside, ?nested⟩
  case outside =>
    intro outer' listed' isOpener
    have listed : outer'.id ∈ around.map Node.id := ids ▸ List.mem_map_of_mem listed'
    obtain ⟨outer, member, alikeId⟩ := List.mem_map.mp listed
    exact outside outer member (alikeId.trans isOpener)
  case nested =>
    refine ((List.forall₂_and_left _ _).mpr ⟨outside, nested⟩).imp ?_
    intro outer outer' ⟨other, alike⟩
    exact alike.corresponds policy other

/-- **What is written in an opener has no influence on what can be seen outside of
it.**  If two programs differ only inside one opener, the same nodes are outside of
it, and from each of them the same can be seen in the trees of both. -/
theorem seesAlike_of_hide_eq (policy : BindingPolicy)
    (distinct : first.nodeIds.Nodup) (distinct' : second.nodeIds.Nodup)
    (same : first.hide opener = second.hide opener) :
    ∃ tree tree', first.bind policy = .ok tree ∧ second.bind policy = .ok tree' ∧
      ∀ node, (first.HasOutside opener node ↔ second.HasOutside opener node) ∧
        (first.HasOutside opener node → tree.SeesAlike tree' node) := by
  obtain ⟨tree, bound, result⟩ := exists_bind policy distinct
  obtain ⟨tree', bound', result'⟩ := exists_bind policy distinct'
  have topLevel : SameByName Declaration.id first.declarations second.declarations :=
    sameByName_of_map_hide opener (congrArg Program.declarations same)
  refine ⟨tree, tree', bound, bound', ?_⟩
  intro node
  refine ⟨⟨?forward, ?backward⟩, ?alike⟩
  case forward =>
    rintro ⟨found, around, has, rfl, outside⟩
    obtain ⟨found', around', has', sameId, outside', _⟩ :=
      exists_corresponding_of_hide_eq policy same has outside
    exact ⟨found', around', has', sameId.symm, outside'⟩
  case backward =>
    rintro ⟨found, around, has, rfl, outside⟩
    obtain ⟨found', around', has', sameId, outside', _⟩ :=
      exists_corresponding_of_hide_eq policy same.symm has outside
    exact ⟨found', around', has', sameId.symm, outside'⟩
  case alike =>
    rintro ⟨found, around, has, rfl, outside⟩
    obtain ⟨found', around', has', sameId, _, nested⟩ :=
      exists_corresponding_of_hide_eq policy same has outside
    exact result.seesAlike result' topLevel has has' sameId nested

/-- The sample program with another class of the same name in it. -/
def withOtherClass : Program :=
  ⟨⟨0⟩, Sample.line 0, [.variableDecl (Sample.var 1 "x"),
    .classDecl ⟨⟨2⟩, Sample.line 30, ⟨"C", Sample.line 30⟩, some ⟨"D", Sample.line 30⟩, [],
      [.field (Sample.var 31 "a")]⟩,
    .interfaceDecl ⟨⟨16⟩, Sample.line 16, ⟨"I", Sample.line 16⟩,
      [⟨⟨17⟩, Sample.line 17, ⟨"p", Sample.line 17⟩, .void, [], none⟩]⟩,
    .functionDecl Sample.function]⟩

/-- The sample program can be given another class, with other members and another
superclass, and nothing changes for the use of a name in its function. -/
theorem seesAlike_withOtherClass :
    Sample.program.nodeIds.Nodup ∧ withOtherClass.nodeIds.Nodup ∧
      Sample.program.hide ⟨2⟩ = withOtherClass.hide ⟨2⟩ ∧
      ∃ tree tree', Sample.program.bind .standard = .ok tree ∧
        withOtherClass.bind .standard = .ok tree' ∧ tree.SeesAlike tree' ⟨24⟩ := by
  have distinct : Sample.program.nodeIds.Nodup := by decide
  have distinct' : withOtherClass.nodeIds.Nodup := by decide
  have same : Sample.program.hide ⟨2⟩ = withOtherClass.hide ⟨2⟩ := by rfl
  have inFunction : Sample.program.HasNode Sample.function.node _ :=
    .part .whole (List.mem_of_getElem? (i := 3) rfl)
  have inBlock : Sample.program.HasNode (.block _) _ :=
    .part inFunction (List.mem_of_getElem? (i := 2) rfl)
  have inSwitch : Sample.program.HasNode (.statement _) _ :=
    .part inBlock (List.mem_of_getElem? (i := 1) rfl)
  have use : Sample.program.HasOutside ⟨2⟩ ⟨24⟩ :=
    ⟨.expression (Sample.use 24 "a"), _, .part inSwitch (List.mem_of_getElem? (i := 0) rfl), rfl,
      by decide⟩
  obtain ⟨tree, tree', bound, bound', alike⟩ :=
    seesAlike_of_hide_eq .standard distinct distinct' same
  exact ⟨distinct, distinct', same, tree, tree', bound, bound', (alike ⟨24⟩).2 use⟩

end Program

end DecafScopes
