import Mathlib.Logic.Function.Defs
import DecafScopes.Proofs.Outline.Unfolding

/-!
# Other identities and other names

A renaming gives every identity and every name another one, and never the same to two.
Renaming a program changes all identities and all identifiers in it: those that are
declared, those that are used, and those in written types and in the headers of classes.
Spans, literals and operators stay as they are, and so does the shape of the program:
what is directly inside of a node is renamed piece by piece (`Node.inside_rename`).
-/

set_option autoImplicit false

namespace DecafScopes

/-- Other identities and other names, different ones for different ones. -/
structure Renaming where
  node : NodeId → NodeId
  name : String → String
  node_injective : Function.Injective node
  name_injective : Function.Injective name

/-! ## Renaming -/

/-- An identifier under another name, at the same place. -/
def Identifier.rename (naming : Renaming) (identifier : Identifier) : Identifier :=
  { identifier with name := naming.name identifier.name }

/-- A written type with other names of classes and interfaces. -/
def TypeExpr.rename (naming : Renaming) : TypeExpr → TypeExpr
  | .named identifier => .named (identifier.rename naming)
  | .array element => .array (element.rename naming)
  | .int => .int
  | .double => .double
  | .bool => .bool
  | .string => .string
  | .void => .void
  | .null => .null

mutual

/-- An expression with other identities and names. -/
def Expression.rename (naming : Renaming) : Expression → Expression
  | ⟨id, span, form⟩ => ⟨naming.node id, span, form.rename naming⟩

/-- What an expression is put together from, with other identities and names. -/
def ExpressionForm.rename (naming : Renaming) : ExpressionForm → ExpressionForm
  | .omitted => .omitted
  | .literal value => .literal value
  | .this => .this
  | .name identifier => .name (identifier.rename naming)
  | .field object member => .field (object.rename naming) (member.rename naming)
  | .call receiver callee arguments =>
      .call (Expression.renameOption naming receiver) (callee.rename naming)
        (Expression.renameList naming arguments)
  | .assign target value => .assign (target.rename naming) (value.rename naming)
  | .binary op left right => .binary op (left.rename naming) (right.rename naming)
  | .unary op operand => .unary op (operand.rename naming)
  | .post op operand => .post op (operand.rename naming)
  | .element array index => .element (array.rename naming) (index.rename naming)
  | .newObject className => .newObject (className.rename naming)
  | .newArray length elementType =>
      .newArray (length.rename naming) (elementType.rename naming)
  | .input item => .input item

def Expression.renameOption (naming : Renaming) : Option Expression → Option Expression
  | none => none
  | some expression => some (expression.rename naming)

def Expression.renameList (naming : Renaming) : List Expression → List Expression
  | [] => []
  | expression :: others => expression.rename naming :: Expression.renameList naming others

end

/-- A variable with another identity and other names. -/
def VariableDecl.rename (naming : Renaming) (declared : VariableDecl) : VariableDecl :=
  ⟨naming.node declared.id, declared.span, declared.name.rename naming,
    declared.type.rename naming⟩

/-- What a loop starts with, with other identities and names. -/
def LoopStart.rename (naming : Renaming) : LoopStart → LoopStart
  | .variableDecl declared => .variableDecl (declared.rename naming)
  | .expression value => .expression (value.rename naming)

mutual

/-- A block with other identities and names. -/
def Block.rename (naming : Renaming) : Block → Block
  | ⟨id, span, locals, statements⟩ =>
      ⟨naming.node id, span, locals.map (·.rename naming),
        Statement.renameList naming statements⟩

/-- A statement with other identities and names. -/
def Statement.rename (naming : Renaming) : Statement → Statement
  | .block body => .block (body.rename naming)
  | .plain id span form => .plain (naming.node id) span (form.rename naming)

/-- What a statement is put together from, with other identities and names. -/
def StatementForm.rename (naming : Renaming) : StatementForm → StatementForm
  | .ifElse test whenTrue whenFalse =>
      .ifElse (test.rename naming) (whenTrue.rename naming)
        (Statement.renameOption naming whenFalse)
  | .whileLoop test body => .whileLoop (test.rename naming) (body.rename naming)
  | .forLoop start test step body =>
      .forLoop (start.rename naming) (test.rename naming) (step.rename naming)
        (body.rename naming)
  | .switch test arms fallback =>
      .switch (test.rename naming) (Arm.renameList naming arms)
        (Arm.renameOption naming fallback)
  | .leave value => .leave (value.map (·.rename naming))
  | .print arguments => .print (arguments.map (·.rename naming))
  | .exitLoop => .exitLoop
  | .evaluate value => .evaluate (value.rename naming)

/-- An arm of a `switch` with other identities and names. -/
def Arm.rename (naming : Renaming) : Arm → Arm
  | ⟨id, span, label, statements⟩ =>
      ⟨naming.node id, span, label.map (·.rename naming),
        Statement.renameList naming statements⟩

def Statement.renameOption (naming : Renaming) : Option Statement → Option Statement
  | none => none
  | some statement => some (statement.rename naming)

def Statement.renameList (naming : Renaming) : List Statement → List Statement
  | [] => []
  | statement :: others => statement.rename naming :: Statement.renameList naming others

def Arm.renameOption (naming : Renaming) : Option Arm → Option Arm
  | none => none
  | some arm => some (arm.rename naming)

def Arm.renameList (naming : Renaming) : List Arm → List Arm
  | [] => []
  | arm :: others => arm.rename naming :: Arm.renameList naming others

end

/-- A function with other identities and names. -/
def FunctionDecl.rename (naming : Renaming) (declared : FunctionDecl) : FunctionDecl :=
  ⟨naming.node declared.id, declared.span, declared.name.rename naming,
    declared.result.rename naming, declared.parameters.map (·.rename naming),
    declared.body.map (·.rename naming)⟩

/-- A member of a class with other identities and names. -/
def Member.rename (naming : Renaming) : Member → Member
  | .field declared => .field (declared.rename naming)
  | .method declared => .method (declared.rename naming)

/-- A class with other identities and names. -/
def ClassDecl.rename (naming : Renaming) (declared : ClassDecl) : ClassDecl :=
  ⟨naming.node declared.id, declared.span, declared.name.rename naming,
    declared.superclass.map (·.rename naming), declared.interfaces.map (·.rename naming),
    declared.members.map (·.rename naming)⟩

/-- An interface with other identities and names. -/
def InterfaceDecl.rename (naming : Renaming) (declared : InterfaceDecl) : InterfaceDecl :=
  ⟨naming.node declared.id, declared.span, declared.name.rename naming,
    declared.prototypes.map (·.rename naming)⟩

/-- A declaration with other identities and names. -/
def Declaration.rename (naming : Renaming) : Declaration → Declaration
  | .variableDecl declared => .variableDecl (declared.rename naming)
  | .classDecl declared => .classDecl (declared.rename naming)
  | .interfaceDecl declared => .interfaceDecl (declared.rename naming)
  | .functionDecl declared => .functionDecl (declared.rename naming)

/-- A program with other identities and names. -/
def Program.rename (naming : Renaming) (program : Program) : Program :=
  ⟨naming.node program.id, program.span, program.declarations.map (·.rename naming)⟩

/-- A node with other identities and names. -/
def Node.rename (naming : Renaming) : Node → Node
  | program whole => program (whole.rename naming)
  | declaration declared => declaration (declared.rename naming)
  | block body => block (body.rename naming)
  | statement whole => statement (whole.rename naming)
  | arm whole => arm (whole.rename naming)
  | expression whole => expression (whole.rename naming)

section Kept

variable (naming : Renaming)

theorem Expression.renameOption_eq_map (expression : Option Expression) :
    Expression.renameOption naming expression = expression.map (·.rename naming) := by
  cases expression with
  | none => rw [Expression.renameOption, Option.map_none]
  | some expression => rw [Expression.renameOption, Option.map_some]

theorem Expression.renameList_eq_map (expressions : List Expression) :
    Expression.renameList naming expressions = expressions.map (·.rename naming) := by
  induction expressions with
  | nil => rw [Expression.renameList, List.map_nil]
  | cons expression others ih => rw [Expression.renameList, List.map_cons, ih]

theorem Statement.renameOption_eq_map (statement : Option Statement) :
    Statement.renameOption naming statement = statement.map (·.rename naming) := by
  cases statement with
  | none => rw [Statement.renameOption, Option.map_none]
  | some statement => rw [Statement.renameOption, Option.map_some]

theorem Statement.renameList_eq_map (statements : List Statement) :
    Statement.renameList naming statements = statements.map (·.rename naming) := by
  induction statements with
  | nil => rw [Statement.renameList, List.map_nil]
  | cons statement others ih => rw [Statement.renameList, List.map_cons, ih]

theorem Arm.renameOption_eq_map (arm : Option Arm) :
    Arm.renameOption naming arm = arm.map (·.rename naming) := by
  cases arm with
  | none => rw [Arm.renameOption, Option.map_none]
  | some arm => rw [Arm.renameOption, Option.map_some]

theorem Arm.renameList_eq_map (arms : List Arm) :
    Arm.renameList naming arms = arms.map (·.rename naming) := by
  induction arms with
  | nil => rw [Arm.renameList, List.map_nil]
  | cons arm others ih => rw [Arm.renameList, List.map_cons, ih]

/-! ## What is renamed and what stays -/

@[simp] theorem Expression.id_rename (expression : Expression) :
    (expression.rename naming).id = naming.node expression.id := by
  obtain ⟨id, span, form⟩ := expression
  rw [Expression.rename]

@[simp] theorem Block.id_rename (body : Block) :
    (body.rename naming).id = naming.node body.id := by
  obtain ⟨id, span, locals, statements⟩ := body
  rw [Block.rename]

@[simp] theorem Statement.id_rename (statement : Statement) :
    (statement.rename naming).id = naming.node statement.id := by
  cases statement with
  | block body =>
      rw [Statement.rename]
      exact body.id_rename naming
  | plain id span form =>
      rw [Statement.rename]
      rfl

@[simp] theorem Arm.id_rename (arm : Arm) :
    (arm.rename naming).id = naming.node arm.id := by
  obtain ⟨id, span, label, statements⟩ := arm
  rw [Arm.rename]

@[simp] theorem Declaration.id_rename (declared : Declaration) :
    (declared.rename naming).id = naming.node declared.id := by
  cases declared <;> rfl

@[simp] theorem Declaration.name_rename (declared : Declaration) :
    (declared.rename naming).name = naming.name declared.name := by
  cases declared <;> rfl

@[simp] theorem Declaration.span_rename (declared : Declaration) :
    (declared.rename naming).span = declared.span := by
  cases declared <;> rfl

@[simp] theorem Node.id_rename (node : Node) :
    (node.rename naming).id = naming.node node.id := by
  cases node with
  | program whole => rfl
  | declaration declared => exact declared.id_rename naming
  | block body => exact body.id_rename naming
  | statement whole => exact whole.id_rename naming
  | arm whole => exact whole.id_rename naming
  | expression whole => exact whole.id_rename naming

theorem Node.declaration?_rename (node : Node) :
    (node.rename naming).declaration? = node.declaration?.map (·.rename naming) := by
  cases node <;> rfl

@[simp] theorem Node.opens?_rename (node : Node) :
    (node.rename naming).opens? = node.opens? := by
  match node with
  | program _ => rfl
  | declaration declared => cases declared <;> rfl
  | block _ => rfl
  | statement (.block _) =>
      rw [rename, Statement.rename]
      rfl
  | statement (.plain id span form) =>
      rw [rename, Statement.rename]
      cases form <;> rw [StatementForm.rename] <;> rfl
  | arm _ => rfl
  | expression _ => rfl

/-! ## Inside of nodes -/

theorem Statement.node_rename (statement : Statement) :
    (statement.rename naming).node = statement.node.rename naming := by
  cases statement with
  | block body => rw [Statement.rename, node, node, Node.rename]
  | plain id span form => rw [node, Node.rename, Statement.rename, node]

theorem Member.node_rename (member : Member) :
    (member.rename naming).node = member.node.rename naming := by
  cases member <;> rfl

theorem LoopStart.node_rename (start : LoopStart) :
    (start.rename naming).node = start.node.rename naming := by
  cases start <;> rfl

theorem VariableDecl.map_node_rename (list : List VariableDecl) :
    (list.map (·.rename naming)).map VariableDecl.node =
      (list.map VariableDecl.node).map (·.rename naming) := by
  rw [List.map_map, List.map_map]
  rfl

theorem Statement.map_node_rename (statements : List Statement) :
    (statements.map (·.rename naming)).map Statement.node =
      (statements.map Statement.node).map (·.rename naming) := by
  rw [List.map_map, List.map_map]
  apply List.map_congr_left
  intro statement _
  exact statement.node_rename naming

theorem ExpressionForm.operands_rename (form : ExpressionForm) :
    (form.rename naming).operands = form.operands.map (·.rename naming) := by
  cases form with
  | call receiver callee arguments =>
      rw [ExpressionForm.rename, Expression.renameOption_eq_map, Expression.renameList_eq_map]
      cases receiver <;> simp [operands]
  | omitted | literal | this | name | field | assign | binary | unary | post | element
  | newObject | newArray | input =>
      rw [ExpressionForm.rename]
      rfl

theorem StatementForm.inside_rename (form : StatementForm) :
    (form.rename naming).inside = form.inside.map (·.rename naming) := by
  cases form with
  | ifElse test whenTrue whenFalse =>
      rw [StatementForm.rename, Statement.renameOption_eq_map]
      cases whenFalse <;> simp [inside, Statement.node_rename, Node.rename]
  | whileLoop test body =>
      rw [StatementForm.rename]
      simp [inside, Statement.node_rename, Node.rename]
  | forLoop start test step body =>
      rw [StatementForm.rename]
      simp [inside, Statement.node_rename, LoopStart.node_rename, Node.rename]
  | switch test arms fallback =>
      rw [StatementForm.rename, Arm.renameList_eq_map, Arm.renameOption_eq_map]
      cases fallback <;> simp [inside, Node.rename]
  | leave value =>
      rw [StatementForm.rename]
      cases value <;> rfl
  | print arguments =>
      rw [StatementForm.rename]
      simp [inside, Node.rename]
  | exitLoop =>
      rw [StatementForm.rename]
      rfl
  | evaluate value =>
      rw [StatementForm.rename]
      rfl

theorem Block.inside_rename (body : Block) :
    (body.rename naming).inside = body.inside.map (·.rename naming) := by
  obtain ⟨id, span, locals, statements⟩ := body
  rw [Block.rename, Statement.renameList_eq_map]
  simp only [inside, VariableDecl.map_node_rename, Statement.map_node_rename, List.map_append]

theorem Declaration.inside_rename (declared : Declaration) :
    (Node.declaration (declared.rename naming)).inside =
      (Node.declaration declared).inside.map (·.rename naming) := by
  cases declared with
  | variableDecl declared => rfl
  | classDecl declared => simp [rename, ClassDecl.rename, Node.inside, Member.node_rename]
  | interfaceDecl declared =>
      simp only [rename, InterfaceDecl.rename, Node.inside, List.map_map]
      rfl
  | functionDecl declared =>
      simp only [rename, FunctionDecl.rename, Node.inside, VariableDecl.map_node_rename,
        List.map_append]
      cases declared.body <;> rfl

/-- **What is directly inside of a node is renamed piece by piece.** -/
theorem Node.inside_rename (node : Node) :
    (node.rename naming).inside = node.inside.map (·.rename naming) := by
  match node with
  | program whole => simp [rename, inside, Program.rename]
  | declaration declared => exact declared.inside_rename naming
  | block body => exact body.inside_rename naming
  | statement (.block body) =>
      rw [rename, Statement.rename]
      exact body.inside_rename naming
  | statement (.plain id span form) =>
      rw [rename, Statement.rename]
      exact form.inside_rename naming
  | arm ⟨id, span, label, statements⟩ =>
      rw [rename, Arm.rename, Statement.renameList_eq_map]
      simp only [inside, Statement.map_node_rename, List.map_append]
      cases label <;> rfl
  | expression ⟨id, span, form⟩ =>
      rw [rename, Expression.rename]
      simp [inside, ExpressionForm.operands_rename, rename]

end Kept

end DecafScopes
