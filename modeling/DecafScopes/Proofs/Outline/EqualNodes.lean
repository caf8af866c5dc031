import DecafScopes.Syntax.Equality
import DecafScopes.Proofs.Outline.Shape

/-!
# Equal programs correspond

Equality of programs is computed along the syntax, and it is no equivalence: a program
with a NaN in it is not equal to itself, and programs that differ in the sign of a zero are
equal.  What it compares at a node and what it leaves to the nodes directly inside can be
told apart (`Node.forall₂_inside_of_equal`), and so programs that are equal correspond node
by node (`Translation.ofEquality`), with equal spans.
-/

set_option autoImplicit false

namespace DecafScopes

instance : BEq Statement := ⟨Statement.equals⟩

instance : BEq Arm := ⟨Arm.equals⟩

/-- Equality of nodes. -/
def Node.equals : Node → Node → Bool
  | program whole, program whole' => whole == whole'
  | declaration declared, declaration declared' => declared == declared'
  | block body, block body' => body == body'
  | statement whole, statement whole' => whole == whole'
  | arm whole, arm whole' => whole == whole'
  | expression whole, expression whole' => whole == whole'
  | _, _ => false

instance : BEq Node := ⟨Node.equals⟩

/-- Both are equal, as far as equality of programs goes. -/
abbrev Equal {α : Type} [BEq α] (first second : α) : Prop :=
  (first == second) = true

theorem forall₂_of_beq {α : Type} [BEq α] : ∀ {list list' : List α}, Equal list list' →
    List.Forall₂ Equal list list'
  | [], [], _ => .nil
  | _ :: _, _ :: _, equal => by
      rw [Equal, List.cons_beq_cons, Bool.and_eq_true] at equal
      exact .cons equal.1 (forall₂_of_beq equal.2)

theorem forall₂_toList_of_beq {α : Type} [BEq α] {value value' : Option α}
    (equal : Equal value value') : List.Forall₂ Equal value.toList value'.toList := by
  cases value <;> cases value'
  · exact .nil
  · cases equal
  · cases equal
  · exact .cons equal .nil

section Images

variable {α : Type} [BEq α] (image : α → Node)
  (kept : ∀ {first second : α}, Equal first second → Equal (image first) (image second))

include kept

theorem forall₂_map_of_beq {list list' : List α} (equal : Equal list list') :
    List.Forall₂ Equal (list.map image) (list'.map image) := by
  rw [List.forall₂_map_left_iff, List.forall₂_map_right_iff]
  exact (forall₂_of_beq equal).imp fun _ _ => kept

theorem forall₂_map_toList_of_beq {value value' : Option α} (equal : Equal value value') :
    List.Forall₂ Equal (value.toList.map image) (value'.toList.map image) := by
  rw [List.forall₂_map_left_iff, List.forall₂_map_right_iff]
  exact (forall₂_toList_of_beq equal).imp fun _ _ => kept

end Images

/-- Comparing optional values case by case is comparing them with `==`. -/
theorem eq_beq_of_option {α : Type} [BEq α] {equals : Option α → Option α → Bool}
    (nothing : equals none none = true)
    (both : ∀ first second, equals (some first) (some second) = (first == second))
    (left : ∀ first, equals (some first) none = false)
    (right : ∀ second, equals none (some second) = false) : equals = BEq.beq := by
  funext value value'
  cases value with
  | none =>
      cases value' with
      | none => exact nothing
      | some second => exact right second
  | some first =>
      cases value' with
      | none => exact left first
      | some second => exact both first second

/-- Comparing lists one by one is comparing them with `==`. -/
theorem eq_beq_of_list {α : Type} [BEq α] {equals : List α → List α → Bool}
    (nothing : equals [] [] = true)
    (both : ∀ first rest second rest',
      equals (first :: rest) (second :: rest') = (first == second && equals rest rest'))
    (left : ∀ first rest, equals (first :: rest) [] = false)
    (right : ∀ second rest', equals [] (second :: rest') = false) : equals = BEq.beq := by
  funext list list'
  induction list generalizing list' with
  | nil =>
      cases list' with
      | nil => exact nothing
      | cons second rest' => exact right second rest'
  | cons first rest ih =>
      cases list' with
      | nil => exact left first rest
      | cons second rest' => rw [both, ih, List.cons_beq_cons]

theorem Expression.equalsOption_eq_beq : Expression.equalsOption = BEq.beq :=
  eq_beq_of_option (by rw [equalsOption]) (fun _ _ => by rw [equalsOption]; rfl)
    (by simp [equalsOption]) (by simp [equalsOption])

theorem Expression.equalsList_eq_beq : Expression.equalsList = BEq.beq :=
  eq_beq_of_list (by rw [equalsList]) (fun _ _ _ _ => by rw [equalsList]; rfl)
    (by simp [equalsList]) (by simp [equalsList])

theorem Statement.equalsOption_eq_beq : Statement.equalsOption = BEq.beq :=
  eq_beq_of_option (by rw [equalsOption]) (fun _ _ => by rw [equalsOption]; rfl)
    (by simp [equalsOption]) (by simp [equalsOption])

theorem Statement.equalsList_eq_beq : Statement.equalsList = BEq.beq :=
  eq_beq_of_list (by rw [equalsList]) (fun _ _ _ _ => by rw [equalsList]; rfl)
    (by simp [equalsList]) (by simp [equalsList])

theorem Arm.equalsOption_eq_beq : Arm.equalsOption = BEq.beq :=
  eq_beq_of_option (by rw [equalsOption]) (fun _ _ => by rw [equalsOption]; rfl)
    (by simp [equalsOption]) (by simp [equalsOption])

theorem Arm.equalsList_eq_beq : Arm.equalsList = BEq.beq :=
  eq_beq_of_list (by rw [equalsList]) (fun _ _ _ _ => by rw [equalsList]; rfl)
    (by simp [equalsList]) (by simp [equalsList])

theorem ExpressionForm.forall₂_operands_of_equals {form form' : ExpressionForm}
    (equal : form.equals form' = true) : List.Forall₂ Equal form.operands form'.operands := by
  revert equal
  fun_cases ExpressionForm.equals form form' with
  | case1 | case2 | case3 | case4 | case12 | case14 => exact fun _ => .nil
  | case5 object member object' member' =>
      rw [Bool.and_eq_true]
      exact fun equal => .cons equal.1 .nil
  | case6 receiver callee arguments receiver' callee' arguments' =>
      rw [Bool.and_eq_true, Bool.and_eq_true, Expression.equalsOption_eq_beq,
        Expression.equalsList_eq_beq]
      exact fun equal =>
        List.rel_append (forall₂_toList_of_beq equal.1.1) (forall₂_of_beq equal.2)
  | case7 target value target' value' =>
      rw [Bool.and_eq_true]
      exact fun equal => .cons equal.1 (.cons equal.2 .nil)
  | case8 op left right op' left' right' =>
      rw [Bool.and_eq_true, Bool.and_eq_true]
      exact fun equal => .cons equal.1.2 (.cons equal.2 .nil)
  | case9 op operand op' operand' =>
      rw [Bool.and_eq_true]
      exact fun equal => .cons equal.2 .nil
  | case10 op operand op' operand' =>
      rw [Bool.and_eq_true]
      exact fun equal => .cons equal.2 .nil
  | case11 array index array' index' =>
      rw [Bool.and_eq_true]
      exact fun equal => .cons equal.1 (.cons equal.2 .nil)
  | case13 length elementType length' elementType' =>
      rw [Bool.and_eq_true]
      exact fun equal => .cons equal.1 .nil
  | case15 => exact fun equal => absurd equal Bool.false_ne_true

theorem Statement.equal_node {statement statement' : Statement}
    (equal : Equal statement statement') : Equal statement.node statement'.node := by
  cases statement <;> cases statement' <;> change Statement.equals _ _ = true at equal
  case block.block body body' =>
    rw [Statement.equals] at equal
    exact equal
  case plain.plain => exact equal
  all_goals simp [Statement.equals] at equal

theorem LoopStart.equal_node {start start' : LoopStart} (equal : Equal start start') :
    Equal start.node start'.node := by
  cases start <;> cases start'
  case variableDecl.variableDecl => exact equal
  case expression.expression => exact equal
  all_goals cases equal

theorem Member.equal_node {member member' : Member} (equal : Equal member member') :
    Equal member.node member'.node := by
  cases member <;> cases member'
  case field.field => exact equal
  case method.method => exact equal
  all_goals cases equal

theorem Block.forall₂_inside_of_equal {body body' : Block} (equal : Equal body body') :
    List.Forall₂ Equal body.inside body'.inside := by
  obtain ⟨id, span, locals, statements⟩ := body
  change Block.equals _ _ = true at equal
  rw [Block.equals, Bool.and_eq_true, Bool.and_eq_true, Bool.and_eq_true,
    Statement.equalsList_eq_beq] at equal
  exact List.rel_append (forall₂_map_of_beq VariableDecl.node (fun here => here) equal.1.2)
    (forall₂_map_of_beq Statement.node Statement.equal_node equal.2)

theorem StatementForm.forall₂_inside_of_equals {form form' : StatementForm}
    (equal : form.equals form' = true) : List.Forall₂ Equal form.inside form'.inside := by
  revert equal
  fun_cases StatementForm.equals form form' with
  | case1 test whenTrue whenFalse test' whenTrue' whenFalse' =>
      rw [Bool.and_eq_true, Bool.and_eq_true, Statement.equalsOption_eq_beq]
      exact fun equal => .cons equal.1.1 (.cons (Statement.equal_node equal.1.2)
        (forall₂_map_toList_of_beq Statement.node Statement.equal_node equal.2))
  | case2 test body test' body' =>
      rw [Bool.and_eq_true]
      exact fun equal => .cons equal.1 (.cons (Statement.equal_node equal.2) .nil)
  | case3 start test step body start' test' step' body' =>
      rw [Bool.and_eq_true, Bool.and_eq_true, Bool.and_eq_true]
      exact fun equal => .cons (LoopStart.equal_node equal.1.1.1)
        (.cons equal.1.1.2 (.cons equal.1.2 (.cons (Statement.equal_node equal.2) .nil)))
  | case4 test arms fallback test' arms' fallback' =>
      rw [Bool.and_eq_true, Bool.and_eq_true, Arm.equalsList_eq_beq, Arm.equalsOption_eq_beq]
      exact fun equal => .cons equal.1.1
        (List.rel_append (forall₂_map_of_beq Node.arm (fun here => here) equal.1.2)
          (forall₂_map_toList_of_beq Node.arm (fun here => here) equal.2))
  | case5 value value' =>
      exact fun equal => forall₂_map_toList_of_beq Node.expression (fun here => here) equal
  | case6 arguments arguments' =>
      exact fun equal => forall₂_map_of_beq Node.expression (fun here => here) equal
  | case7 => exact fun _ => .nil
  | case8 value value' => exact fun equal => .cons equal .nil
  | case9 => exact fun equal => absurd equal Bool.false_ne_true

/-- What equality compares of two functions. -/
theorem FunctionDecl.equal_iff {declared declared' : FunctionDecl} :
    Equal declared declared' ↔ declared.id = declared'.id ∧ declared.span = declared'.span ∧
      declared.name = declared'.name ∧ declared.result = declared'.result ∧
      declared.parameters = declared'.parameters ∧ Equal declared.body declared'.body := by
  change FunctionDecl.equals _ _ = true ↔ _
  simp only [FunctionDecl.equals, Bool.and_eq_true, beq_iff_eq, and_assoc]

/-- What equality compares of two classes. -/
theorem ClassDecl.equal_iff {declared declared' : ClassDecl} :
    Equal declared declared' ↔ declared.id = declared'.id ∧ declared.span = declared'.span ∧
      declared.name = declared'.name ∧ declared.superclass = declared'.superclass ∧
      declared.interfaces = declared'.interfaces ∧ Equal declared.members declared'.members := by
  change ClassDecl.equals _ _ = true ↔ _
  simp only [ClassDecl.equals, Bool.and_eq_true, beq_iff_eq, and_assoc]

/-- What equality compares of two interfaces. -/
theorem InterfaceDecl.equal_iff {declared declared' : InterfaceDecl} :
    Equal declared declared' ↔ declared.id = declared'.id ∧ declared.span = declared'.span ∧
      declared.name = declared'.name ∧ Equal declared.prototypes declared'.prototypes := by
  change InterfaceDecl.equals _ _ = true ↔ _
  simp only [InterfaceDecl.equals, Bool.and_eq_true, beq_iff_eq, and_assoc]

namespace Declaration

variable {declared declared' : Declaration}

/-- Declarations that are equal have one identity, one span and one name. -/
theorem eq_of_equal (equal : Equal declared declared') :
    declared'.id = declared.id ∧ declared'.span = declared.span ∧
      declared'.name = declared.name := by
  cases declared <;> cases declared'
  case variableDecl.variableDecl declared declared' =>
    have same : declared = declared' := eq_of_beq equal
    rw [same]
    exact ⟨rfl, rfl, rfl⟩
  case classDecl.classDecl =>
    obtain ⟨sameId, sameSpan, sameName, _⟩ := ClassDecl.equal_iff.mp equal
    exact ⟨sameId.symm, sameSpan.symm, congrArg Identifier.name sameName.symm⟩
  case interfaceDecl.interfaceDecl =>
    obtain ⟨sameId, sameSpan, sameName, _⟩ := InterfaceDecl.equal_iff.mp equal
    exact ⟨sameId.symm, sameSpan.symm, congrArg Identifier.name sameName.symm⟩
  case functionDecl.functionDecl =>
    obtain ⟨sameId, sameSpan, sameName, _⟩ := FunctionDecl.equal_iff.mp equal
    exact ⟨sameId.symm, sameSpan.symm, congrArg Identifier.name sameName.symm⟩
  all_goals cases equal

theorem forall₂_inside_of_equal (equal : Equal declared declared') :
    List.Forall₂ Equal (Node.declaration declared).inside
      (Node.declaration declared').inside := by
  cases declared <;> cases declared'
  case variableDecl.variableDecl => exact .nil
  case classDecl.classDecl =>
    obtain ⟨_, _, _, _, _, members⟩ := ClassDecl.equal_iff.mp equal
    exact forall₂_map_of_beq Member.node Member.equal_node members
  case interfaceDecl.interfaceDecl =>
    obtain ⟨_, _, _, prototypes⟩ := InterfaceDecl.equal_iff.mp equal
    exact forall₂_map_of_beq FunctionDecl.node (fun here => here) prototypes
  case functionDecl.functionDecl =>
    obtain ⟨_, _, _, _, parameters, body⟩ := FunctionDecl.equal_iff.mp equal
    have same := beq_iff_eq.mpr parameters
    exact List.rel_append (forall₂_map_of_beq VariableDecl.node (fun here => here) same)
      (forall₂_map_toList_of_beq Node.block (fun here => here) body)
  all_goals cases equal

end Declaration

theorem Arm.equal_iff {arm arm' : Arm} :
    Equal arm arm' ↔ arm.id = arm'.id ∧ arm.span = arm'.span ∧ Equal arm.label arm'.label ∧
      Equal arm.statements arm'.statements := by
  obtain ⟨id, span, label, statements⟩ := arm
  change Arm.equals _ _ = true ↔ _
  rw [Arm.equals, Statement.equalsList_eq_beq]
  simp only [Bool.and_eq_true, beq_iff_eq, and_assoc]

theorem Block.equal_iff {body body' : Block} :
    Equal body body' ↔ body.id = body'.id ∧ body.span = body'.span ∧
      body.locals = body'.locals ∧ Equal body.statements body'.statements := by
  obtain ⟨id, span, locals, statements⟩ := body
  change Block.equals _ _ = true ↔ _
  rw [Block.equals, Statement.equalsList_eq_beq]
  simp only [Bool.and_eq_true, beq_iff_eq, and_assoc]

theorem Program.equal_iff {program program' : Program} :
    Equal program program' ↔ program.id = program'.id ∧ program.span = program'.span ∧
      Equal program.declarations program'.declarations := by
  change Program.equals _ _ = true ↔ _
  simp only [Program.equals, Bool.and_eq_true, beq_iff_eq, and_assoc]

theorem Expression.equal_iff {expression expression' : Expression} :
    Equal expression expression' ↔ expression.id = expression'.id ∧
      expression.span = expression'.span ∧
        expression.form.equals expression'.form = true := by
  obtain ⟨id, span, form⟩ := expression
  change Expression.equals _ _ = true ↔ _
  rw [Expression.equals]
  simp only [Bool.and_eq_true, beq_iff_eq, and_assoc]

namespace Node

variable {node node' : Node}

theorem forall₂_inside_of_equal (equal : Equal node node') :
    List.Forall₂ Equal node.inside node'.inside := by
  revert equal
  change node.equals node' = true → _
  fun_cases Node.equals node node' with
  | case1 whole whole' =>
      intro equal
      obtain ⟨_, _, declarations⟩ := Program.equal_iff.mp equal
      exact forall₂_map_of_beq Node.declaration (fun here => here) declarations
  | case2 declared declared' => exact Declaration.forall₂_inside_of_equal
  | case3 body body' => exact Block.forall₂_inside_of_equal
  | case4 whole whole' =>
      change whole.equals whole' = true → _
      fun_cases Statement.equals whole whole' with
      | case1 body body' => exact Block.forall₂_inside_of_equal
      | case2 id span form id' span' form' =>
          rw [Bool.and_eq_true, Bool.and_eq_true]
          exact fun equal => StatementForm.forall₂_inside_of_equals equal.2
      | case3 => exact fun equal => absurd equal Bool.false_ne_true
  | case5 whole whole' =>
      intro equal
      obtain ⟨_, _, label, statements⟩ := Arm.equal_iff.mp equal
      exact List.rel_append (forall₂_map_toList_of_beq Node.expression (fun here => here) label)
        (forall₂_map_of_beq Statement.node Statement.equal_node statements)
  | case6 whole whole' =>
      intro equal
      obtain ⟨_, _, form⟩ := Expression.equal_iff.mp equal
      have same := ExpressionForm.forall₂_operands_of_equals form
      simp only [inside, List.forall₂_map_left_iff, List.forall₂_map_right_iff]
      exact same
  | case7 => exact fun equal => absurd equal Bool.false_ne_true

theorem id_of_equal (equal : Equal node node') : node'.id = node.id := by
  revert equal
  change node.equals node' = true → _
  fun_cases Node.equals node node' with
  | case1 whole whole' => exact fun equal => (Program.equal_iff.mp equal).1.symm
  | case2 declared declared' => exact fun equal => (Declaration.eq_of_equal equal).1
  | case3 body body' => exact fun equal => (Block.equal_iff.mp equal).1.symm
  | case4 whole whole' =>
      change whole.equals whole' = true → _
      fun_cases Statement.equals whole whole' with
      | case1 body body' => exact fun equal => (Block.equal_iff.mp equal).1.symm
      | case2 id span form id' span' form' =>
          rw [Bool.and_eq_true, Bool.and_eq_true]
          exact fun equal => (eq_of_beq equal.1.1).symm
      | case3 => exact fun equal => absurd equal Bool.false_ne_true
  | case5 whole whole' => exact fun equal => (Arm.equal_iff.mp equal).1.symm
  | case6 whole whole' => exact fun equal => (Expression.equal_iff.mp equal).1.symm
  | case7 => exact fun equal => absurd equal Bool.false_ne_true

theorem opens?_of_equal (equal : Equal node node') : node'.opens? = node.opens? := by
  revert equal
  change node.equals node' = true → _
  fun_cases Node.equals node node' with
  | case1 | case3 | case5 | case6 => exact fun _ => rfl
  | case2 declared declared' =>
      change declared.equals declared' = true → _
      fun_cases Declaration.equals declared declared' with
      | case1 | case2 | case3 | case4 => exact fun _ => rfl
      | case5 => exact fun equal => absurd equal Bool.false_ne_true
  | case4 whole whole' =>
      change whole.equals whole' = true → _
      fun_cases Statement.equals whole whole' with
      | case1 body body' => exact fun _ => rfl
      | case2 id span form id' span' form' =>
          rw [Bool.and_eq_true]
          rintro ⟨_, sameForm⟩
          revert sameForm
          fun_cases StatementForm.equals form form' with
          | case9 => exact fun equal => absurd equal Bool.false_ne_true
          | _ => exact fun _ => rfl
      | case3 => exact fun equal => absurd equal Bool.false_ne_true
  | case7 => exact fun equal => absurd equal Bool.false_ne_true

theorem isSome_declaration?_of_equal (equal : Equal node node') :
    node'.declaration?.isSome = node.declaration?.isSome := by
  revert equal
  change node.equals node' = true → _
  fun_cases Node.equals node node' with
  | case7 => exact fun equal => absurd equal Bool.false_ne_true
  | _ => exact fun _ => rfl

end Node

/-- Programs that are equal correspond node by node. -/
def Translation.ofEquality : Translation where
  toRenaming := .identity
  Relates := Equal
  id_eq := Node.id_of_equal
  opens?_eq := Node.opens?_of_equal
  isSome_declaration?_eq := Node.isSome_declaration?_of_equal
  name_eq equal := (Declaration.eq_of_equal equal).2.2
  forall₂_inside := Node.forall₂_inside_of_equal

end DecafScopes
