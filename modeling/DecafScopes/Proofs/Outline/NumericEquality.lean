import DecafScopes.Proofs.Outline.DoubleLiterals
import DecafScopes.Proofs.Outline.EqualNodes

/-!
# What equality of programs means

Two programs are equal when neither has a NaN in it and they are the same program
once every negative zero is written as the positive one
(`Program.equality_characterised`).  So equality is symmetric and transitive, and a
program fails to be equal to itself just when it has a NaN somewhere.

The argument is an induction over nodes from the inside outward
(`Node.inside_induction`).  At a node without NaNs, equality is the comparison of
images (`ComparedBy`) if it is so for the nodes directly inside, with one case for
every construct; and a node that is equal to any other has no NaN within.
-/

set_option autoImplicit false

namespace DecafScopes

/-! ## A node that is equal to another has no NaN within -/

/-- What holds of both sides of all related pairs holds of all members of related
lists. -/
theorem forall_mem_of_forall₂ {α : Type} {relates : α → α → Prop} {holds : α → Prop}
    {list list' : List α} (related : List.Forall₂ relates list list')
    (both : ∀ first ∈ list, ∀ second, relates first second → holds first ∧ holds second) :
    (∀ first ∈ list, holds first) ∧ ∀ second ∈ list', holds second := by
  induction related with
  | nil => exact ⟨List.forall_mem_nil _, List.forall_mem_nil _⟩
  | @cons first second rest rest' here _ ih =>
      obtain ⟨left, right⟩ := both first List.mem_cons_self second here
      obtain ⟨lefts, rights⟩ := ih fun part member => both part (List.mem_cons_of_mem _ member)
      exact ⟨List.forall_mem_cons.mpr ⟨left, lefts⟩, List.forall_mem_cons.mpr ⟨right, rights⟩⟩

theorem Literal.isNaN_eq_false_of_equals {value value' : Literal}
    (equal : value.equals value' = true) : value.isNaN = false ∧ value'.isNaN = false := by
  revert equal
  fun_cases Literal.equals value value' with
  | case2 number number' =>
      intro equal
      obtain ⟨here, here', _⟩ := (number.equals_iff number').mp equal
      exact ⟨here, here'⟩
  | case1 | case3 | case4 | case5 => exact fun _ => ⟨rfl, rfl⟩
  | case6 => exact fun equal => absurd equal Bool.false_ne_true

theorem ExpressionForm.isNaN_eq_false_of_equals {form form' : ExpressionForm}
    (equal : form.equals form' = true) : form.isNaN = false ∧ form'.isNaN = false := by
  revert equal
  fun_cases ExpressionForm.equals form form' with
  | case2 value value' => exact Literal.isNaN_eq_false_of_equals
  | case15 => exact fun equal => absurd equal Bool.false_ne_true
  | _ => exact fun _ => ⟨rfl, rfl⟩

namespace Node

variable {node node' : Node}

theorem isNaN_eq_false_of_equal (equal : Equal node node') :
    node.isNaN = false ∧ node'.isNaN = false := by
  revert equal
  change node.equals node' = true → _
  fun_cases Node.equals node node' with
  | case6 whole whole' =>
      intro equal
      obtain ⟨_, _, form⟩ := Expression.equal_iff.mp equal
      exact ExpressionForm.isNaN_eq_false_of_equals form
  | case7 => exact fun equal => absurd equal Bool.false_ne_true
  | _ => exact fun _ => ⟨rfl, rfl⟩

/-- **Nodes that are equal are free of NaNs.** -/
theorem naNFree_of_equal (equal : Equal node node') : node.NaNFree ∧ node'.NaNFree := by
  induction node using inside_induction generalizing node' with
  | step node ih =>
      obtain ⟨here, here'⟩ := isNaN_eq_false_of_equal equal
      obtain ⟨parts, parts'⟩ := forall_mem_of_forall₂ (forall₂_inside_of_equal equal)
        fun part member _ equalParts => ih part member equalParts
      exact ⟨naNFree_iff.mpr ⟨here, parts⟩, naNFree_iff.mpr ⟨here', parts'⟩⟩

end Node

/-! ## Comparing images -/

/-- A value is equal to those that have the same image, and to no others. -/
def ComparedBy {α : Type} [BEq α] (image : α → α) (value : α) : Prop :=
  ∀ other : α, Equal value other ↔ image value = image other

section Images

variable {α : Type} [BEq α] {image : α → α}

/-- Lists are compared by their images when their members are. -/
theorem comparedBy_map {list : List α} (members : ∀ value ∈ list, ComparedBy image value) :
    ComparedBy (List.map image) list := by
  induction list with
  | nil =>
      rintro (_ | ⟨first', rest'⟩)
      · exact ⟨fun _ => rfl, fun _ => rfl⟩
      · exact ⟨fun equal => absurd equal Bool.false_ne_true, fun same => by cases same⟩
  | cons first rest ih =>
      obtain ⟨here, further⟩ := List.forall_mem_cons.mp members
      rintro (_ | ⟨first', rest'⟩)
      · exact ⟨fun equal => absurd equal Bool.false_ne_true, fun same => by cases same⟩
      · rw [Equal, List.cons_beq_cons, Bool.and_eq_true, List.map_cons, List.map_cons,
          List.cons.injEq]
        exact and_congr (here first') (ih further rest')

/-- Optional values are compared by their images when what is there is. -/
theorem comparedBy_optionMap {value : Option α}
    (present : ∀ found ∈ value.toList, ComparedBy image found) :
    ComparedBy (Option.map image) value := by
  rintro other
  cases value with
  | none =>
      cases other with
      | none => exact ⟨fun _ => rfl, fun _ => rfl⟩
      | some _ => exact ⟨fun equal => absurd equal Bool.false_ne_true, fun same => by cases same⟩
  | some found =>
      cases other with
      | none => exact ⟨fun equal => absurd equal Bool.false_ne_true, fun same => by cases same⟩
      | some found' =>
          rw [Option.map_some, Option.map_some, Option.some.injEq]
          exact present found (List.mem_singleton_self _) found'

end Images

/-! ## One case for every construct -/

section Constructs

variable {change : Binary64 → Binary64}

theorem ExpressionForm.equals_iff_mapDoubles {form : ExpressionForm}
    (literals : ∀ value, form = .literal value → ComparedBy (Literal.mapDoubles change) value)
    (operands : ∀ operand ∈ form.operands, ComparedBy (Expression.mapDoubles change) operand)
    (form' : ExpressionForm) :
    form.equals form' = true ↔ form.mapDoubles change = form'.mapDoubles change := by
  cases form with
  | omitted | this => cases form' <;> simp [equals, mapDoubles]
  | literal value =>
      have compared := literals value rfl
      cases form' with
      | literal value' =>
          rw [equals, mapDoubles, mapDoubles, literal.injEq]
          exact compared value'
      | _ => simp [equals, mapDoubles]
  | name | newObject | input => cases form' <;> simp [equals, mapDoubles]
  | field object member =>
      have compared := operands object (List.mem_singleton_self _)
      cases form' with
      | field object' member' =>
          rw [equals, mapDoubles, mapDoubles, field.injEq, Bool.and_eq_true, beq_iff_eq]
          exact and_congr_left' (compared object')
      | _ => simp [equals, mapDoubles]
  | call receiver callee arguments =>
      have receivers := comparedBy_optionMap fun found member =>
        operands found (List.mem_append_left _ member)
      have others := comparedBy_map fun found member =>
        operands found (List.mem_append_right _ member)
      cases form' with
      | call receiver' callee' arguments' =>
          rw [equals, mapDoubles, mapDoubles, call.injEq, Bool.and_eq_true, Bool.and_eq_true,
            beq_iff_eq, and_assoc, Expression.equalsOption_eq_beq, Expression.equalsList_eq_beq,
            Expression.mapDoublesOption_eq_map, Expression.mapDoublesOption_eq_map,
            Expression.mapDoublesList_eq_map, Expression.mapDoublesList_eq_map]
          exact and_congr (receivers receiver') (and_congr_right' (others arguments'))
      | _ => simp [equals, mapDoubles]
  | assign target value =>
      obtain ⟨targets, further⟩ := List.forall_mem_cons.mp operands
      have values := further value (List.mem_singleton_self _)
      cases form' with
      | assign target' value' =>
          rw [equals, mapDoubles, mapDoubles, assign.injEq, Bool.and_eq_true]
          exact and_congr (targets target') (values value')
      | _ => simp [equals, mapDoubles]
  | binary op left right =>
      obtain ⟨lefts, further⟩ := List.forall_mem_cons.mp operands
      have rights := further right (List.mem_singleton_self _)
      cases form' with
      | binary op' left' right' =>
          rw [equals, mapDoubles, mapDoubles, binary.injEq, Bool.and_eq_true, Bool.and_eq_true,
            beq_iff_eq, and_assoc]
          exact and_congr_right' (and_congr (lefts left') (rights right'))
      | _ => simp [equals, mapDoubles]
  | unary op operand =>
      have compared := operands operand (List.mem_singleton_self _)
      cases form' with
      | unary op' operand' =>
          rw [equals, mapDoubles, mapDoubles, unary.injEq, Bool.and_eq_true, beq_iff_eq]
          exact and_congr_right' (compared operand')
      | _ => simp [equals, mapDoubles]
  | post op operand =>
      have compared := operands operand (List.mem_singleton_self _)
      cases form' with
      | post op' operand' =>
          rw [equals, mapDoubles, mapDoubles, post.injEq, Bool.and_eq_true, beq_iff_eq]
          exact and_congr_right' (compared operand')
      | _ => simp [equals, mapDoubles]
  | element array index =>
      obtain ⟨arrays, further⟩ := List.forall_mem_cons.mp operands
      have indices := further index (List.mem_singleton_self _)
      cases form' with
      | element array' index' =>
          rw [equals, mapDoubles, mapDoubles, element.injEq, Bool.and_eq_true]
          exact and_congr (arrays array') (indices index')
      | _ => simp [equals, mapDoubles]
  | newArray length elementType =>
      have compared := operands length (List.mem_singleton_self _)
      cases form' with
      | newArray length' elementType' =>
          rw [equals, mapDoubles, mapDoubles, newArray.injEq, Bool.and_eq_true, beq_iff_eq]
          exact and_congr_left' (compared length')
      | _ => simp [equals, mapDoubles]

/-! ### Parts that are nodes -/

theorem Expression.comparedBy_of_node {expression : Expression}
    (compared : ComparedBy (Node.mapDoubles change) (.expression expression)) :
    ComparedBy (Expression.mapDoubles change) expression := fun other =>
  (compared (.expression other)).trans (Node.expression.injEq _ _ ▸ Iff.rfl)

theorem Block.comparedBy_of_node {body : Block}
    (compared : ComparedBy (Node.mapDoubles change) (.block body)) :
    ComparedBy (Block.mapDoubles change) body := fun other =>
  (compared (.block other)).trans (Node.block.injEq _ _ ▸ Iff.rfl)

theorem Arm.comparedBy_of_node {arm : Arm}
    (compared : ComparedBy (Node.mapDoubles change) (.arm arm)) :
    ComparedBy (Arm.mapDoubles change) arm := fun other =>
  (compared (.arm other)).trans (Node.arm.injEq _ _ ▸ Iff.rfl)

theorem Declaration.comparedBy_of_node {declared : Declaration}
    (compared : ComparedBy (Node.mapDoubles change) (.declaration declared)) :
    ComparedBy (Declaration.mapDoubles change) declared := fun other =>
  (compared (.declaration other)).trans (Node.declaration.injEq _ _ ▸ Iff.rfl)

theorem FunctionDecl.comparedBy_of_node {declared : FunctionDecl}
    (compared : ComparedBy (Node.mapDoubles change) declared.node) :
    ComparedBy (FunctionDecl.mapDoubles change) declared := fun other =>
  (Declaration.comparedBy_of_node compared (.functionDecl other)).trans
    (Declaration.functionDecl.injEq _ _ ▸ Iff.rfl)

theorem Member.comparedBy_of_node {member : Member}
    (compared : ComparedBy (Node.mapDoubles change) member.node) :
    ComparedBy (Member.mapDoubles change) member := by
  intro other
  change member.equals other = true ↔ _
  cases member with
  | field declared => cases other <;> simp [equals, mapDoubles]
  | method declared =>
      cases other with
      | field => simp [equals, mapDoubles]
      | method declared' =>
          rw [mapDoubles, mapDoubles, method.injEq]
          exact FunctionDecl.comparedBy_of_node compared declared'

theorem LoopStart.comparedBy_of_node {start : LoopStart}
    (compared : ComparedBy (Node.mapDoubles change) start.node) :
    ComparedBy (LoopStart.mapDoubles change) start := by
  intro other
  change start.equals other = true ↔ _
  cases start with
  | variableDecl declared => cases other <;> simp [equals, mapDoubles]
  | expression value =>
      cases other with
      | variableDecl => simp [equals, mapDoubles]
      | expression value' =>
          rw [mapDoubles, mapDoubles, expression.injEq]
          exact Expression.comparedBy_of_node compared value'

theorem Statement.comparedBy_of_node {statement : Statement}
    (compared : ComparedBy (Node.mapDoubles change) statement.node) :
    ComparedBy (Statement.mapDoubles change) statement := by
  intro other
  change statement.equals other = true ↔ _
  cases statement with
  | block body =>
      cases other with
      | block body' =>
          rw [equals, mapDoubles, mapDoubles, block.injEq]
          exact Block.comparedBy_of_node compared body'
      | plain => simp [equals, mapDoubles]
  | plain id span form =>
      cases other with
      | block => simp [equals, mapDoubles]
      | plain id' span' form' =>
          have whole := compared (.statement (.plain id' span' form'))
          rw [Statement.node, Node.mapDoubles, Node.mapDoubles, Node.statement.injEq] at whole
          exact whole

theorem StatementForm.equals_iff_mapDoubles {form : StatementForm}
    (parts : ∀ part ∈ form.inside, ComparedBy (Node.mapDoubles change) part)
    (form' : StatementForm) :
    form.equals form' = true ↔ form.mapDoubles change = form'.mapDoubles change := by
  cases form with
  | ifElse test whenTrue whenFalse =>
      obtain ⟨tests, further⟩ := List.forall_mem_cons.mp parts
      obtain ⟨whenTrues, optional⟩ := List.forall_mem_cons.mp further
      have whenFalses := comparedBy_optionMap fun found member =>
        Statement.comparedBy_of_node (optional found.node (List.mem_map_of_mem member))
      cases form' with
      | ifElse test' whenTrue' whenFalse' =>
          rw [equals, mapDoubles, mapDoubles, ifElse.injEq, Bool.and_eq_true, Bool.and_eq_true,
            and_assoc, Statement.equalsOption_eq_beq, Statement.mapDoublesOption_eq_map,
            Statement.mapDoublesOption_eq_map]
          exact and_congr (Expression.comparedBy_of_node tests test')
            (and_congr (Statement.comparedBy_of_node whenTrues whenTrue') (whenFalses whenFalse'))
      | _ => simp [equals, mapDoubles]
  | whileLoop test body =>
      obtain ⟨tests, further⟩ := List.forall_mem_cons.mp parts
      have bodies := further body.node (List.mem_singleton_self _)
      cases form' with
      | whileLoop test' body' =>
          rw [equals, mapDoubles, mapDoubles, whileLoop.injEq, Bool.and_eq_true]
          exact and_congr (Expression.comparedBy_of_node tests test')
            (Statement.comparedBy_of_node bodies body')
      | _ => simp [equals, mapDoubles]
  | forLoop start test step body =>
      obtain ⟨starts, further⟩ := List.forall_mem_cons.mp parts
      obtain ⟨tests, further⟩ := List.forall_mem_cons.mp further
      obtain ⟨steps, further⟩ := List.forall_mem_cons.mp further
      have bodies := further body.node (List.mem_singleton_self _)
      cases form' with
      | forLoop start' test' step' body' =>
          rw [equals, mapDoubles, mapDoubles, forLoop.injEq, Bool.and_eq_true, Bool.and_eq_true,
            Bool.and_eq_true, and_assoc, and_assoc]
          exact and_congr (LoopStart.comparedBy_of_node starts start')
            (and_congr (Expression.comparedBy_of_node tests test')
              (and_congr (Expression.comparedBy_of_node steps step')
                (Statement.comparedBy_of_node bodies body')))
      | _ => simp [equals, mapDoubles]
  | switch test arms fallback =>
      obtain ⟨tests, further⟩ := List.forall_mem_cons.mp parts
      have choices := comparedBy_map fun found member => Arm.comparedBy_of_node
        (further (.arm found) (List.mem_append_left _ (List.mem_map_of_mem member)))
      have fallbacks := comparedBy_optionMap fun found member => Arm.comparedBy_of_node
        (further (.arm found) (List.mem_append_right _ (List.mem_map_of_mem member)))
      cases form' with
      | switch test' arms' fallback' =>
          rw [equals, mapDoubles, mapDoubles, switch.injEq, Bool.and_eq_true, Bool.and_eq_true,
            and_assoc, Arm.equalsList_eq_beq, Arm.equalsOption_eq_beq, Arm.mapDoublesList_eq_map,
            Arm.mapDoublesList_eq_map, Arm.mapDoublesOption_eq_map, Arm.mapDoublesOption_eq_map]
          exact and_congr (Expression.comparedBy_of_node tests test')
            (and_congr (choices arms') (fallbacks fallback'))
      | _ => simp [equals, mapDoubles]
  | leave value =>
      have values := comparedBy_optionMap fun found member =>
        Expression.comparedBy_of_node (parts (.expression found) (List.mem_map_of_mem member))
      cases form' with
      | leave value' =>
          rw [equals, mapDoubles, mapDoubles, leave.injEq]
          exact values value'
      | _ => simp [equals, mapDoubles]
  | print arguments =>
      have printed := comparedBy_map fun found member =>
        Expression.comparedBy_of_node (parts (.expression found) (List.mem_map_of_mem member))
      cases form' with
      | print arguments' =>
          rw [equals, mapDoubles, mapDoubles, print.injEq]
          exact printed arguments'
      | _ => simp [equals, mapDoubles]
  | exitLoop => cases form' <;> simp [equals, mapDoubles]
  | evaluate value =>
      have values := parts (.expression value) (List.mem_singleton_self _)
      cases form' with
      | evaluate value' =>
          rw [equals, mapDoubles, mapDoubles, evaluate.injEq]
          exact Expression.comparedBy_of_node values value'
      | _ => simp [equals, mapDoubles]

/-! ### Nodes -/

theorem Expression.comparedBy_of_inside {expression : Expression}
    (literals : ∀ value, expression.form = .literal value →
      ComparedBy (Literal.mapDoubles change) value)
    (parts : ∀ part ∈ (Node.expression expression).inside,
      ComparedBy (Node.mapDoubles change) part) :
    ComparedBy (Expression.mapDoubles change) expression := by
  intro other
  have compared := ExpressionForm.equals_iff_mapDoubles literals
    (fun operand member => comparedBy_of_node
      (parts (.expression operand) (List.mem_map_of_mem member))) other.form
  rw [Expression.equal_iff]
  obtain ⟨id, span, form⟩ := expression
  obtain ⟨id', span', form'⟩ := other
  rw [mapDoubles, mapDoubles, Expression.mk.injEq]
  exact and_congr_right' (and_congr_right' compared)

theorem Block.comparedBy_of_inside {body : Block}
    (parts : ∀ part ∈ body.inside, ComparedBy (Node.mapDoubles change) part) :
    ComparedBy (Block.mapDoubles change) body := by
  intro other
  have stated := comparedBy_map fun found member => Statement.comparedBy_of_node
    (parts found.node (List.mem_append_right _ (List.mem_map_of_mem member)))
  rw [Block.equal_iff]
  obtain ⟨id, span, locals, statements⟩ := body
  obtain ⟨id', span', locals', statements'⟩ := other
  rw [mapDoubles, mapDoubles, Block.mk.injEq, Statement.mapDoublesList_eq_map,
    Statement.mapDoublesList_eq_map]
  exact and_congr_right' (and_congr_right' (and_congr_right' (stated statements')))

theorem Statement.comparedBy_of_inside {statement : Statement}
    (parts : ∀ part ∈ (Node.statement statement).inside,
      ComparedBy (Node.mapDoubles change) part) :
    ComparedBy (Statement.mapDoubles change) statement := by
  intro other
  change statement.equals other = true ↔ _
  cases statement with
  | block body =>
      cases other with
      | block body' =>
          rw [equals, mapDoubles, mapDoubles, block.injEq]
          exact Block.comparedBy_of_inside parts body'
      | plain => simp [equals, mapDoubles]
  | plain id span form =>
      cases other with
      | block => simp [equals, mapDoubles]
      | plain id' span' form' =>
          rw [equals, mapDoubles, mapDoubles, plain.injEq, Bool.and_eq_true, Bool.and_eq_true,
            beq_iff_eq, beq_iff_eq, and_assoc]
          exact and_congr_right' (and_congr_right' (form.equals_iff_mapDoubles parts form'))

theorem Arm.comparedBy_of_inside {arm : Arm}
    (parts : ∀ part ∈ (Node.arm arm).inside, ComparedBy (Node.mapDoubles change) part) :
    ComparedBy (Arm.mapDoubles change) arm := by
  intro other
  have labels := comparedBy_optionMap fun found member => Expression.comparedBy_of_node
    (parts (.expression found) (List.mem_append_left _ (List.mem_map_of_mem member)))
  have stated := comparedBy_map fun found member => Statement.comparedBy_of_node
    (parts found.node (List.mem_append_right _ (List.mem_map_of_mem member)))
  rw [Arm.equal_iff]
  obtain ⟨id, span, label, statements⟩ := arm
  obtain ⟨id', span', label', statements'⟩ := other
  rw [mapDoubles, mapDoubles, Arm.mk.injEq, Statement.mapDoublesList_eq_map,
    Statement.mapDoublesList_eq_map]
  exact and_congr_right' (and_congr_right' (and_congr (labels label') (stated statements')))

theorem FunctionDecl.comparedBy_of_body {declared : FunctionDecl}
    (body : ∀ found ∈ declared.body.toList, ComparedBy (Block.mapDoubles change) found) :
    ComparedBy (FunctionDecl.mapDoubles change) declared := by
  intro other
  have compared := comparedBy_optionMap body other.body
  rw [FunctionDecl.equal_iff, mapDoubles, mapDoubles, FunctionDecl.mk.injEq]
  exact and_congr_right' (and_congr_right' (and_congr_right' (and_congr_right'
    (and_congr_right' compared))))

theorem ClassDecl.comparedBy_of_members {declared : ClassDecl}
    (members : ∀ member ∈ declared.members, ComparedBy (Member.mapDoubles change) member) :
    ComparedBy (ClassDecl.mapDoubles change) declared := by
  intro other
  have compared := comparedBy_map members other.members
  rw [ClassDecl.equal_iff, mapDoubles, mapDoubles, ClassDecl.mk.injEq]
  exact and_congr_right' (and_congr_right' (and_congr_right' (and_congr_right'
    (and_congr_right' compared))))

theorem InterfaceDecl.comparedBy_of_prototypes {declared : InterfaceDecl}
    (prototypes : ∀ prototype ∈ declared.prototypes,
      ComparedBy (FunctionDecl.mapDoubles change) prototype) :
    ComparedBy (InterfaceDecl.mapDoubles change) declared := by
  intro other
  have compared := comparedBy_map prototypes other.prototypes
  rw [InterfaceDecl.equal_iff, mapDoubles, mapDoubles, InterfaceDecl.mk.injEq]
  exact and_congr_right' (and_congr_right' (and_congr_right' compared))

theorem Declaration.comparedBy_of_inside {declared : Declaration}
    (parts : ∀ part ∈ (Node.declaration declared).inside,
      ComparedBy (Node.mapDoubles change) part) :
    ComparedBy (Declaration.mapDoubles change) declared := by
  intro other
  change declared.equals other = true ↔ _
  cases declared with
  | variableDecl declared => cases other <;> simp [equals, mapDoubles]
  | classDecl declared =>
      have compared := ClassDecl.comparedBy_of_members fun member listed =>
        Member.comparedBy_of_node (parts member.node (List.mem_map_of_mem listed))
      cases other with
      | classDecl declared' =>
          rw [mapDoubles, mapDoubles, classDecl.injEq]
          exact compared declared'
      | _ => simp [equals, mapDoubles]
  | interfaceDecl declared =>
      have compared := InterfaceDecl.comparedBy_of_prototypes fun prototype listed =>
        FunctionDecl.comparedBy_of_node (parts prototype.node (List.mem_map_of_mem listed))
      cases other with
      | interfaceDecl declared' =>
          rw [mapDoubles, mapDoubles, interfaceDecl.injEq]
          exact compared declared'
      | _ => simp [equals, mapDoubles]
  | functionDecl declared =>
      have compared := FunctionDecl.comparedBy_of_body fun body listed =>
        Block.comparedBy_of_node
          (parts (.block body) (List.mem_append_right _ (List.mem_map_of_mem listed)))
      cases other with
      | functionDecl declared' =>
          rw [mapDoubles, mapDoubles, functionDecl.injEq]
          exact compared declared'
      | _ => simp [equals, mapDoubles]

theorem Program.comparedBy_of_inside {program : Program}
    (parts : ∀ part ∈ (Node.program program).inside,
      ComparedBy (Node.mapDoubles change) part) :
    ComparedBy (Program.mapDoubles change) program := by
  intro other
  have compared := comparedBy_map (fun declared listed =>
    Declaration.comparedBy_of_node (parts (.declaration declared) (List.mem_map_of_mem listed)))
    other.declarations
  rw [Program.equal_iff, mapDoubles, mapDoubles, Program.mk.injEq]
  exact and_congr_right' (and_congr_right' compared)

/-- A literal other than a NaN is compared as it is without negative zeros. -/
theorem Literal.comparedBy_withPositiveZero {value : Literal} (number : value.isNaN = false) :
    ComparedBy (Literal.mapDoubles Binary64.withPositiveZero) value := by
  intro other
  change value.equals other = true ↔ _
  cases value with
  | double first =>
      cases other with
      | double second =>
          rw [equals, mapDoubles, mapDoubles, double.injEq, Binary64.equals_iff]
          refine ⟨fun equal => equal.2.2, fun same => ⟨number, ?_, same⟩⟩
          rw [← Binary64.isNaN_withPositiveZero, ← same, Binary64.isNaN_withPositiveZero]
          exact number
      | _ => simp [equals, mapDoubles]
  | _ => cases other <;> simp [equals, mapDoubles]

/-- One node: it is compared by its image if the literal that it may be is, and if
the nodes directly inside are. -/
theorem Node.comparedBy_of_inside {node : Node}
    (literals : ∀ whole value, node = .expression whole → whole.form = .literal value →
      ComparedBy (Literal.mapDoubles change) value)
    (parts : ∀ part ∈ node.inside, ComparedBy (Node.mapDoubles change) part) :
    ComparedBy (Node.mapDoubles change) node := by
  intro other
  change node.equals other = true ↔ _
  cases node with
  | program whole =>
      cases other with
      | program whole' =>
          rw [equals, mapDoubles, mapDoubles, program.injEq]
          exact Program.comparedBy_of_inside parts whole'
      | _ => simp [equals, mapDoubles]
  | declaration declared =>
      cases other with
      | declaration declared' =>
          rw [equals, mapDoubles, mapDoubles, declaration.injEq]
          exact Declaration.comparedBy_of_inside parts declared'
      | _ => simp [equals, mapDoubles]
  | block body =>
      cases other with
      | block body' =>
          rw [equals, mapDoubles, mapDoubles, block.injEq]
          exact Block.comparedBy_of_inside parts body'
      | _ => simp [equals, mapDoubles]
  | statement whole =>
      cases other with
      | statement whole' =>
          rw [equals, mapDoubles, mapDoubles, statement.injEq]
          exact Statement.comparedBy_of_inside parts whole'
      | _ => simp [equals, mapDoubles]
  | arm whole =>
      cases other with
      | arm whole' =>
          rw [equals, mapDoubles, mapDoubles, arm.injEq]
          exact Arm.comparedBy_of_inside parts whole'
      | _ => simp [equals, mapDoubles]
  | expression whole =>
      have here := Expression.comparedBy_of_inside (fun value => literals whole value rfl) parts
      cases other with
      | expression whole' =>
          rw [equals, mapDoubles, mapDoubles, expression.injEq]
          exact here whole'
      | _ => simp [equals, mapDoubles]

end Constructs

/-! ## Equality without negative zeros -/

/-- The program with the positive zero in place of every negative one. -/
def Program.withPositiveZeros (program : Program) : Program :=
  program.mapDoubles Binary64.withPositiveZero

/-- **Nodes without NaNs are compared as they are without negative zeros.** -/
theorem Node.comparedBy_of_naNFree {node : Node} (free : node.NaNFree) :
    ComparedBy (Node.mapDoubles Binary64.withPositiveZero) node := by
  induction node using inside_induction with
  | step node ih =>
      obtain ⟨number, parts⟩ := naNFree_iff.mp free
      refine comparedBy_of_inside ?_ fun part member => ih part member (parts part member)
      rintro whole value rfl same
      rw [isNaN, same] at number
      exact Literal.comparedBy_withPositiveZero number

namespace Program

/-- Two programs are equal if neither has a NaN and they are the same without
negative zeros. -/
theorem beq_iff_withPositiveZeros (program other : Program) :
    (program == other) = true ↔ ¬ program.HasNaN ∧ ¬ other.HasNaN ∧
      program.withPositiveZeros = other.withPositiveZeros := by
  have compared (free : (Node.program program).NaNFree) :
      (program == other) = true ↔ program.withPositiveZeros = other.withPositiveZeros :=
    (Node.comparedBy_of_naNFree free (.program other)).trans (Node.program.injEq _ _ ▸ Iff.rfl)
  constructor
  · intro equal
    have nodes : Equal (Node.program program) (.program other) := equal
    obtain ⟨free, free'⟩ := Node.naNFree_of_equal nodes
    exact ⟨not_hasNaN_iff.mpr free, not_hasNaN_iff.mpr free', (compared free).mp equal⟩
  · rintro ⟨free, -, same⟩
    exact (compared (not_hasNaN_iff.mp free)).mpr same

/-- **What equality of programs is.**  Two programs are equal if there is no NaN in
either and they become the same program when every negative zero is replaced by the
positive one.  So equality is symmetric and transitive, and a program is equal to
itself if it has no NaN. -/
theorem equality_characterised :
    (∀ program other : Program, (program == other) = true ↔
      ¬ program.HasNaN ∧ ¬ other.HasNaN ∧
        program.withPositiveZeros = other.withPositiveZeros) ∧
      (∀ program other : Program, (program == other) = true → (other == program) = true) ∧
      (∀ first second third : Program, (first == second) = true → (second == third) = true →
        (first == third) = true) ∧
      ∀ program : Program, (program == program) = true ↔ ¬ program.HasNaN := by
  refine ⟨beq_iff_withPositiveZeros, fun program other equal => ?_,
    fun first second third equal equal' => ?_, fun program => ?_⟩
  · obtain ⟨free, free', same⟩ := (beq_iff_withPositiveZeros program other).mp equal
    exact (beq_iff_withPositiveZeros other program).mpr ⟨free', free, same.symm⟩
  · obtain ⟨free, -, same⟩ := (beq_iff_withPositiveZeros first second).mp equal
    obtain ⟨-, free', same'⟩ := (beq_iff_withPositiveZeros second third).mp equal'
    exact (beq_iff_withPositiveZeros first third).mpr ⟨free, free', same.trans same'⟩
  · rw [beq_iff_withPositiveZeros]
    exact ⟨fun equal => equal.1, fun free => ⟨free, free, rfl⟩⟩

end Program

namespace Sample

/-- A program with one function, which prints a double. -/
def printing (number : Binary64) : Program :=
  let span : Span := ⟨⟨1, 1, 1⟩, ⟨1, 1, 2⟩⟩
  let value : Expression := ⟨⟨4⟩, span, .literal (.double number)⟩
  let body : Block := ⟨⟨2⟩, span, [], [.plain ⟨3⟩ span (.print [value])]⟩
  ⟨⟨0⟩, span, [.functionDecl ⟨⟨1⟩, span, ⟨"main", span⟩, .void, [], some body⟩]⟩

/-- The program has a NaN if it prints one. -/
theorem hasNaN_printing_iff (number : Binary64) :
    (printing number).HasNaN ↔ number.isNaN = true := by
  simp [Program.HasNaN, printing, Program.nodes, Declaration.nodesList, Declaration.nodes,
    FunctionDecl.nodes, VariableDecl.nodesList, Block.nodes, Statement.nodesList,
    Statement.nodes, StatementForm.parts, Expression.nodesList, Expression.nodes,
    ExpressionForm.parts, Forest.labels, Node.isNaN, ExpressionForm.isNaN, Literal.isNaN]

/-- The program prints the positive zero if it printed the negative one. -/
theorem withPositiveZeros_printing (number : Binary64) :
    (printing number).withPositiveZeros = printing number.withPositiveZero := by
  simp [Program.withPositiveZeros, Program.mapDoubles, printing, Declaration.mapDoubles,
    FunctionDecl.mapDoubles, Block.mapDoubles, Statement.mapDoublesList, Statement.mapDoubles,
    StatementForm.mapDoubles, Expression.mapDoubles, ExpressionForm.mapDoubles,
    Literal.mapDoubles]

/-- The positive zero. -/
def zero : Binary64 := ⟨0⟩

/-- The negative zero, which is another bit pattern. -/
def negativeZero : Binary64 := ⟨0x8000000000000000⟩

/-- A NaN. -/
def nan : Binary64 := ⟨0x7ff8000000000000⟩

end Sample

/-- Programs that print the two zeros are equal, and a program that prints a NaN is
not even equal to itself. -/
theorem Program.equality_characterised_sample :
    (Sample.printing Sample.zero == Sample.printing Sample.negativeZero) = true ∧
      (Sample.printing Sample.negativeZero == Sample.printing Sample.zero) = true ∧
      (Sample.printing Sample.negativeZero == Sample.printing Sample.negativeZero) = true ∧
      ¬ (Sample.printing Sample.nan == Sample.printing Sample.nan) = true := by
  obtain ⟨equal_iff, symmetric, transitive, self_iff⟩ := Program.equality_characterised
  have numbers : Sample.zero.isNaN = false ∧ Sample.negativeZero.isNaN = false ∧
      Sample.nan.isNaN = true := by decide
  have equal : (Sample.printing Sample.zero == Sample.printing Sample.negativeZero) = true := by
    refine (equal_iff _ _).mpr ⟨?_, ?_, ?_⟩
    · rw [Sample.hasNaN_printing_iff, numbers.1]
      exact Bool.false_ne_true
    · rw [Sample.hasNaN_printing_iff, numbers.2.1]
      exact Bool.false_ne_true
    · rw [Sample.withPositiveZeros_printing, Sample.withPositiveZeros_printing]
      rfl
  have equal' := symmetric _ _ equal
  refine ⟨equal, equal', transitive _ _ _ equal' equal, ?_⟩
  rw [self_iff, not_not, Sample.hasNaN_printing_iff]
  exact numbers.2.2

end DecafScopes
