import DecafScopes.Outline.Node

/-!
# The outline unfolds the syntax

What is written directly inside a node can be read off its constructor, without
any recursion (`Node.inside`).  The forest of a program is the complete unfolding
of that table: its only root is the program, and the roots below every node are
what the table has for the node, in the order of the source
(`Program.unfolds_nodes`).  No node is left out, none is doubled and none stands
at another place than it is written.
-/

set_option autoImplicit false

namespace DecafScopes

/-! ## What is directly inside a node -/

/-- The operands of an expression, from left to right. -/
def ExpressionForm.operands : ExpressionForm → List Expression
  | .field object _ => [object]
  | .call receiver _ arguments => receiver.toList ++ arguments
  | .assign target value => [target, value]
  | .binary _ left right => [left, right]
  | .unary _ operand => [operand]
  | .post _ operand => [operand]
  | .element array index => [array, index]
  | .newArray length _ => [length]
  | .omitted | .literal _ | .this | .name _ | .newObject _ | .input _ => []

/-- The node that a variable is. -/
def VariableDecl.node (declared : VariableDecl) : Node :=
  .declaration (.variableDecl declared)

/-- The node that a function is. -/
def FunctionDecl.node (declared : FunctionDecl) : Node :=
  .declaration (.functionDecl declared)

/-- The node that a member of a class is. -/
def Member.node : Member → Node
  | .field declared => declared.node
  | .method declared => declared.node

/-- The declaration that a member of a class is. -/
def Member.declaration : Member → Declaration
  | .field declared => .variableDecl declared
  | .method declared => .functionDecl declared

/-- The node that a loop starts with. -/
def LoopStart.node : LoopStart → Node
  | .variableDecl declared => declared.node
  | .expression value => .expression value

/-- The node that a statement is. -/
def Statement.node : Statement → Node
  | .block body => .block body
  | .plain id span form => .statement (.plain id span form)

/-- The nodes directly inside a statement that is not a block. -/
def StatementForm.inside : StatementForm → List Node
  | .ifElse test whenTrue whenFalse =>
      .expression test :: whenTrue.node :: whenFalse.toList.map Statement.node
  | .whileLoop test body => [.expression test, body.node]
  | .forLoop start test step body =>
      [start.node, .expression test, .expression step, body.node]
  | .switch test arms fallback =>
      .expression test :: (arms.map Node.arm ++ fallback.toList.map Node.arm)
  | .leave value => value.toList.map Node.expression
  | .print arguments => arguments.map Node.expression
  | .exitLoop => []
  | .evaluate value => [.expression value]

/-- The nodes directly inside a block: its variables, then its statements. -/
def Block.inside (body : Block) : List Node :=
  body.locals.map VariableDecl.node ++ body.statements.map Statement.node

/-- The nodes directly inside a node, from left to right. -/
def Node.inside : Node → List Node
  | program whole => whole.declarations.map Node.declaration
  | declaration (.variableDecl _) => []
  | declaration (.classDecl declared) => declared.members.map Member.node
  | declaration (.interfaceDecl declared) => declared.prototypes.map FunctionDecl.node
  | declaration (.functionDecl declared) =>
      declared.parameters.map VariableDecl.node ++ declared.body.toList.map Node.block
  | block body => body.inside
  | statement (.block body) => body.inside
  | statement (.plain _ _ form) => form.inside
  | arm whole => whole.label.toList.map Node.expression ++ whole.statements.map Statement.node
  | expression whole => whole.form.operands.map Node.expression

/-! ## Where declarations stand -/

@[simp] theorem Node.declaration?_block (body : Block) : (Node.block body).declaration? = none :=
  rfl

@[simp] theorem Node.declaration?_expression (whole : Expression) :
    (Node.expression whole).declaration? = none :=
  rfl

@[simp] theorem VariableDecl.declaration?_node (declared : VariableDecl) :
    declared.node.declaration? = some (.variableDecl declared) :=
  rfl

@[simp] theorem FunctionDecl.declaration?_node (declared : FunctionDecl) :
    declared.node.declaration? = some (.functionDecl declared) :=
  rfl

@[simp] theorem Member.declaration?_node (member : Member) :
    member.node.declaration? = some member.declaration := by
  cases member <;> rfl

@[simp] theorem Statement.declaration?_node (statement : Statement) :
    statement.node.declaration? = none := by
  cases statement <;> rfl

@[simp] theorem Member.node_ne_program (member : Member) (whole : Program) :
    member.node ≠ .program whole := by
  cases member <;> exact Node.noConfusion

@[simp] theorem LoopStart.node_ne_program (start : LoopStart) (whole : Program) :
    start.node ≠ .program whole := by
  cases start <;> exact Node.noConfusion

@[simp] theorem Statement.node_ne_program (statement : Statement) (whole : Program) :
    statement.node ≠ .program whole := by
  cases statement <;> exact Node.noConfusion

@[simp] theorem Statement.node_ne_declaration (statement : Statement) (declared : Declaration) :
    statement.node ≠ .declaration declared := by
  cases statement <;> exact Node.noConfusion

namespace Node

/-- No program is written inside of a node. -/
theorem program_notMem_inside (node : Node) (whole : Program) :
    .program whole ∉ node.inside := by
  match node with
  | program _ => simp [inside]
  | declaration (.variableDecl _) => simp [inside]
  | declaration (.classDecl _) => simp [inside]
  | declaration (.interfaceDecl _) => simp [inside, FunctionDecl.node]
  | declaration (.functionDecl _) => simp [inside, VariableDecl.node]
  | block _ => simp [inside, Block.inside, VariableDecl.node]
  | statement (.block _) => simp [inside, Block.inside, VariableDecl.node]
  | statement (.plain _ _ form) =>
      have starts (start : LoopStart) : .program whole ≠ start.node :=
        (start.node_ne_program whole).symm
      have stands (statement : Statement) : .program whole ≠ statement.node :=
        (statement.node_ne_program whole).symm
      cases form <;> simp [inside, StatementForm.inside, starts, stands]
  | arm _ => simp [inside]
  | expression _ => simp [inside]

/-- Nodes that are parts of a program, not whole programs. -/
def AllParts (nodes : List Node) : Prop :=
  ∀ node ∈ nodes, ∀ whole, node ≠ .program whole

theorem allParts_inside (node : Node) : AllParts node.inside := by
  intro part member whole same
  exact node.program_notMem_inside whole (same ▸ member)

theorem AllParts.tail {first : Node} {others : List Node} (parts : AllParts (first :: others)) :
    AllParts others :=
  fun node member => parts node (List.mem_cons_of_mem first member)

/-- Declarations stand only directly in an opener or directly in the program. -/
theorem declaration_notMem_inside {node : Node} (isPart : ∀ whole, node ≠ .program whole)
    (closed : node.opens? = none) (declared : Declaration) :
    .declaration declared ∉ node.inside := by
  match node with
  | program whole => exact absurd rfl (isPart whole)
  | declaration (.variableDecl _) => simp [inside]
  | statement (.plain _ _ form) =>
      have stands (statement : Statement) : .declaration declared ≠ statement.node :=
        (statement.node_ne_declaration declared).symm
      cases form with
      | forLoop => cases closed
      | ifElse | whileLoop | switch | leave | print | exitLoop | evaluate =>
          simp [inside, StatementForm.inside, stands]
  | arm _ => simp [inside]
  | expression _ => simp [inside]

end Node

/-! ## Complete unfoldings -/

/-- A forest with given roots that has, below every node, what `inside` has for
the node. -/
inductive Forest.Unfolds {α : Type} (inside : α → List α) : List α → Forest α → Prop where
  | nil : Unfolds inside [] .nil
  | node {label : α} {parts rest : Forest α} {others : List α} :
      Unfolds inside (inside label) parts → Unfolds inside others rest →
        Unfolds inside (label :: others) (.node label parts rest)

theorem Forest.Unfolds.roots_eq {α : Type} {inside : α → List α} {starting : List α}
    {forest : Forest α} (unfolds : forest.Unfolds inside starting) : forest.roots = starting := by
  induction unfolds with
  | nil => rfl
  | node _ _ _ right => simp only [Forest.roots, right]

/-! ## One case for every construct -/

section Constructs

variable {rest : Forest Node} {others : List Node}

mutual

theorem Expression.unfolds_nodes : ∀ (expression : Expression) {rest : Forest Node}
    {others : List Node}, rest.Unfolds Node.inside others →
      (expression.nodes rest).Unfolds Node.inside (.expression expression :: others)
  | ⟨_, _, form⟩, _, _, right => by
      rw [Expression.nodes]
      exact .node form.unfolds_parts right

theorem ExpressionForm.unfolds_parts : ∀ form : ExpressionForm,
    form.parts.Unfolds Node.inside (form.operands.map Node.expression)
  | .field object _ => object.unfolds_nodes .nil
  | .call receiver _ arguments => by
      have right := Expression.unfolds_nodesList arguments .nil
      rw [List.append_nil] at right
      rw [ExpressionForm.parts, ExpressionForm.operands, List.map_append]
      exact Expression.unfolds_nodesOption receiver right
  | .assign target value => target.unfolds_nodes (value.unfolds_nodes .nil)
  | .binary _ left right => left.unfolds_nodes (right.unfolds_nodes .nil)
  | .unary _ operand => operand.unfolds_nodes .nil
  | .post _ operand => operand.unfolds_nodes .nil
  | .element array index => array.unfolds_nodes (index.unfolds_nodes .nil)
  | .newArray length _ => length.unfolds_nodes .nil
  | .omitted | .literal _ | .this | .name _ | .newObject _ | .input _ => .nil

theorem Expression.unfolds_nodesOption : ∀ (expression : Option Expression)
    {rest : Forest Node} {others : List Node}, rest.Unfolds Node.inside others →
      (Expression.nodesOption expression rest).Unfolds Node.inside
        (expression.toList.map Node.expression ++ others)
  | none, _, _, right => right
  | some expression, _, _, right => expression.unfolds_nodes right

theorem Expression.unfolds_nodesList : ∀ (expressions : List Expression) {rest : Forest Node}
    {others : List Node}, rest.Unfolds Node.inside others →
      (Expression.nodesList expressions rest).Unfolds Node.inside
        (expressions.map Node.expression ++ others)
  | [], _, _, right => right
  | expression :: further, _, _, right =>
      expression.unfolds_nodes (Expression.unfolds_nodesList further right)

end

theorem VariableDecl.unfolds_nodes (declared : VariableDecl)
    (right : rest.Unfolds Node.inside others) :
    (declared.nodes rest).Unfolds Node.inside (declared.node :: others) :=
  .node .nil right

theorem VariableDecl.unfolds_nodesList (list : List VariableDecl)
    (right : rest.Unfolds Node.inside others) :
    (VariableDecl.nodesList list rest).Unfolds Node.inside
      (list.map VariableDecl.node ++ others) := by
  induction list with
  | nil => exact right
  | cons declared _ ih => exact declared.unfolds_nodes ih

theorem LoopStart.unfolds_nodes (start : LoopStart) (right : rest.Unfolds Node.inside others) :
    (start.nodes rest).Unfolds Node.inside (start.node :: others) := by
  cases start with
  | variableDecl declared => exact declared.unfolds_nodes right
  | expression value => exact value.unfolds_nodes right

mutual

theorem Block.unfolds_nodes : ∀ (body : Block) {rest : Forest Node} {others : List Node},
    rest.Unfolds Node.inside others →
      (body.nodes rest).Unfolds Node.inside (.block body :: others)
  | ⟨_, _, locals, statements⟩, _, _, right => by
      have below := Statement.unfolds_nodesList statements .nil
      rw [List.append_nil] at below
      rw [Block.nodes]
      exact .node (VariableDecl.unfolds_nodesList locals below) right

theorem Statement.unfolds_nodes : ∀ (statement : Statement) {rest : Forest Node}
    {others : List Node}, rest.Unfolds Node.inside others →
      (statement.nodes rest).Unfolds Node.inside (statement.node :: others)
  | .block body, _, _, right => body.unfolds_nodes right
  | .plain _ _ form, _, _, right => by
      rw [Statement.nodes]
      exact .node form.unfolds_parts right

theorem StatementForm.unfolds_parts : ∀ form : StatementForm,
    form.parts.Unfolds Node.inside form.inside
  | .ifElse test whenTrue whenFalse => by
      have right := Statement.unfolds_nodesOption whenFalse .nil
      rw [List.append_nil] at right
      exact test.unfolds_nodes (whenTrue.unfolds_nodes right)
  | .whileLoop test body => test.unfolds_nodes (body.unfolds_nodes .nil)
  | .forLoop start test step body =>
      start.unfolds_nodes (test.unfolds_nodes (step.unfolds_nodes (body.unfolds_nodes .nil)))
  | .switch test arms fallback => by
      have right := Arm.unfolds_nodesOption fallback .nil
      rw [List.append_nil] at right
      exact test.unfolds_nodes (Arm.unfolds_nodesList arms right)
  | .leave value => by
      have below := Expression.unfolds_nodesOption value .nil
      rwa [List.append_nil] at below
  | .print arguments => by
      have below := Expression.unfolds_nodesList arguments .nil
      rwa [List.append_nil] at below
  | .exitLoop => .nil
  | .evaluate value => value.unfolds_nodes .nil

theorem Arm.unfolds_nodes : ∀ (arm : Arm) {rest : Forest Node} {others : List Node},
    rest.Unfolds Node.inside others →
      (arm.nodes rest).Unfolds Node.inside (.arm arm :: others)
  | ⟨_, _, label, statements⟩, _, _, right => by
      have below := Statement.unfolds_nodesList statements .nil
      rw [List.append_nil] at below
      rw [Arm.nodes]
      exact .node (Expression.unfolds_nodesOption label below) right

theorem Statement.unfolds_nodesOption : ∀ (statement : Option Statement) {rest : Forest Node}
    {others : List Node}, rest.Unfolds Node.inside others →
      (Statement.nodesOption statement rest).Unfolds Node.inside
        (statement.toList.map Statement.node ++ others)
  | none, _, _, right => right
  | some statement, _, _, right => statement.unfolds_nodes right

theorem Statement.unfolds_nodesList : ∀ (statements : List Statement) {rest : Forest Node}
    {others : List Node}, rest.Unfolds Node.inside others →
      (Statement.nodesList statements rest).Unfolds Node.inside
        (statements.map Statement.node ++ others)
  | [], _, _, right => right
  | statement :: further, _, _, right =>
      statement.unfolds_nodes (Statement.unfolds_nodesList further right)

theorem Arm.unfolds_nodesOption : ∀ (arm : Option Arm) {rest : Forest Node}
    {others : List Node}, rest.Unfolds Node.inside others →
      (Arm.nodesOption arm rest).Unfolds Node.inside (arm.toList.map Node.arm ++ others)
  | none, _, _, right => right
  | some arm, _, _, right => arm.unfolds_nodes right

theorem Arm.unfolds_nodesList : ∀ (arms : List Arm) {rest : Forest Node}
    {others : List Node}, rest.Unfolds Node.inside others →
      (Arm.nodesList arms rest).Unfolds Node.inside (arms.map Node.arm ++ others)
  | [], _, _, right => right
  | arm :: further, _, _, right => arm.unfolds_nodes (Arm.unfolds_nodesList further right)

end

theorem FunctionDecl.unfolds_nodes (declared : FunctionDecl)
    (right : rest.Unfolds Node.inside others) :
    (declared.nodes rest).Unfolds Node.inside (declared.node :: others) := by
  obtain ⟨id, span, name, result, parameters, body⟩ := declared
  cases body with
  | none => exact .node (VariableDecl.unfolds_nodesList parameters .nil) right
  | some body =>
      exact .node (VariableDecl.unfolds_nodesList parameters (body.unfolds_nodes .nil)) right

theorem FunctionDecl.unfolds_nodesList (functions : List FunctionDecl)
    (right : rest.Unfolds Node.inside others) :
    (FunctionDecl.nodesList functions rest).Unfolds Node.inside
      (functions.map FunctionDecl.node ++ others) := by
  induction functions with
  | nil => exact right
  | cons declared _ ih => exact declared.unfolds_nodes ih

theorem Member.unfolds_nodes (member : Member) (right : rest.Unfolds Node.inside others) :
    (member.nodes rest).Unfolds Node.inside (member.node :: others) := by
  cases member with
  | field declared => exact declared.unfolds_nodes right
  | method declared => exact declared.unfolds_nodes right

theorem Member.unfolds_nodesList (members : List Member)
    (right : rest.Unfolds Node.inside others) :
    (Member.nodesList members rest).Unfolds Node.inside
      (members.map Member.node ++ others) := by
  induction members with
  | nil => exact right
  | cons member _ ih => exact member.unfolds_nodes ih

theorem Declaration.unfolds_nodes (declaration : Declaration)
    (right : rest.Unfolds Node.inside others) :
    (declaration.nodes rest).Unfolds Node.inside (.declaration declaration :: others) := by
  cases declaration with
  | variableDecl declared => exact declared.unfolds_nodes right
  | classDecl declared =>
      have below := Member.unfolds_nodesList declared.members .nil
      rw [List.append_nil] at below
      exact .node below right
  | interfaceDecl declared =>
      have below := FunctionDecl.unfolds_nodesList declared.prototypes .nil
      rw [List.append_nil] at below
      exact .node below right
  | functionDecl declared => exact declared.unfolds_nodes right

theorem Declaration.unfolds_nodesList (declarations : List Declaration)
    (right : rest.Unfolds Node.inside others) :
    (Declaration.nodesList declarations rest).Unfolds Node.inside
      (declarations.map Node.declaration ++ others) := by
  induction declarations with
  | nil => exact right
  | cons declaration _ ih => exact declaration.unfolds_nodes ih

end Constructs

/-- **The nodes of a program are the complete unfolding of the program.** -/
theorem Program.unfolds_nodes (program : Program) :
    program.nodes.Unfolds Node.inside [.program program] := by
  have below := Declaration.unfolds_nodesList program.declarations .nil
  rw [List.append_nil] at below
  exact .node below .nil

end DecafScopes
