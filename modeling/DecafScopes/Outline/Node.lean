import DecafScopes.Syntax.Program
import DecafScopes.Outline.Forest
import DecafScopes.Scope.Kind

/-!
# The nodes of a program

A program has a node for itself, for every declaration, block, statement and
arm of a `switch`, and for every expression, the omitted ones included.  Its
nodes form a forest as they are written: the parts of a node are the nodes
directly inside it, from left to right.

A node may declare a name, and it may open a scope for its parts.  Classes,
interfaces and functions do both; variables only declare; blocks and `for` loops
only open.  All other nodes do neither.
-/

set_option autoImplicit false

namespace DecafScopes

/-- A node of a program, with everything written in it. -/
inductive Node where
  | program (whole : Program)
  | declaration (declared : Declaration)
  | block (body : Block)
  | statement (whole : Statement)
  | arm (whole : Arm)
  | expression (whole : Expression)

namespace Node

/-- The identity of a node. -/
def id : Node → NodeId
  | program whole => whole.id
  | declaration declared => declared.id
  | block body => body.id
  | statement whole => whole.id
  | arm whole => whole.id
  | expression whole => whole.id

/-- The declaration that a node is, if it is one. -/
def declaration? : Node → Option Declaration
  | declaration declared => some declared
  | _ => none

/-- The kind of scope that a node opens for its parts, if it opens one. -/
def opens? : Node → Option ScopeKind
  | declaration (.classDecl _) => some .classBody
  | declaration (.interfaceDecl _) => some .interfaceBody
  | declaration (.functionDecl _) => some .functionBody
  | block _ => some .block
  | statement (.block _) => some .block
  | statement (.plain _ _ (.forLoop ..)) => some .loopHeader
  | _ => none

/-- The identifier that a node looks up by itself: a name on its own, the class
of a new object, or what is called without a receiver. -/
def reference? : Node → Option Identifier
  | expression ⟨_, _, .name identifier⟩ => some identifier
  | expression ⟨_, _, .newObject className⟩ => some className
  | expression ⟨_, _, .call none callee _⟩ => some callee
  | _ => none

end Node

/-! ## From syntax to nodes

Every function below puts the nodes of one piece of syntax in front of the
forest that stands to the right of it.
-/

mutual

/-- The nodes of an expression, in front of `rest`. -/
def Expression.nodes : Expression → Forest Node → Forest Node
  | ⟨id, span, form⟩, rest => .node (.expression ⟨id, span, form⟩) form.parts rest

/-- The nodes of the operands of an expression. -/
def ExpressionForm.parts : ExpressionForm → Forest Node
  | .field object _ => object.nodes .nil
  | .call receiver _ arguments =>
      Expression.nodesOption receiver (Expression.nodesList arguments .nil)
  | .assign target value => target.nodes (value.nodes .nil)
  | .binary _ left right => left.nodes (right.nodes .nil)
  | .unary _ operand => operand.nodes .nil
  | .post _ operand => operand.nodes .nil
  | .element array index => array.nodes (index.nodes .nil)
  | .newArray length _ => length.nodes .nil
  | .omitted | .literal _ | .this | .name _ | .newObject _ | .input _ => .nil

/-- The nodes of an expression that may be missing, in front of `rest`. -/
def Expression.nodesOption : Option Expression → Forest Node → Forest Node
  | none, rest => rest
  | some expression, rest => expression.nodes rest

/-- The nodes of a list of expressions, in front of `rest`. -/
def Expression.nodesList : List Expression → Forest Node → Forest Node
  | [], rest => rest
  | expression :: others, rest => expression.nodes (Expression.nodesList others rest)

end

/-- The node of a variable, in front of `rest`. -/
def VariableDecl.nodes (declared : VariableDecl) (rest : Forest Node) : Forest Node :=
  .node (.declaration (.variableDecl declared)) .nil rest

/-- The nodes of a list of variables, in front of `rest`. -/
def VariableDecl.nodesList : List VariableDecl → Forest Node → Forest Node
  | [], rest => rest
  | declared :: others, rest => declared.nodes (VariableDecl.nodesList others rest)

/-- The nodes of what a loop starts with, in front of `rest`. -/
def LoopStart.nodes : LoopStart → Forest Node → Forest Node
  | .variableDecl declared, rest => declared.nodes rest
  | .expression value, rest => value.nodes rest

mutual

/-- The nodes of a block, in front of `rest`. -/
def Block.nodes : Block → Forest Node → Forest Node
  | ⟨id, span, locals, statements⟩, rest =>
      .node (.block ⟨id, span, locals, statements⟩)
        (VariableDecl.nodesList locals (Statement.nodesList statements .nil)) rest

/-- The nodes of a statement, in front of `rest`. -/
def Statement.nodes : Statement → Forest Node → Forest Node
  | .block body, rest => body.nodes rest
  | .plain id span form, rest => .node (.statement (.plain id span form)) form.parts rest

/-- The nodes of what a statement is put together from. -/
def StatementForm.parts : StatementForm → Forest Node
  | .ifElse test whenTrue whenFalse =>
      test.nodes (whenTrue.nodes (Statement.nodesOption whenFalse .nil))
  | .whileLoop test body => test.nodes (body.nodes .nil)
  | .forLoop start test step body => start.nodes (test.nodes (step.nodes (body.nodes .nil)))
  | .switch test arms fallback =>
      test.nodes (Arm.nodesList arms (Arm.nodesOption fallback .nil))
  | .leave value => Expression.nodesOption value .nil
  | .print arguments => Expression.nodesList arguments .nil
  | .exitLoop => .nil
  | .evaluate value => value.nodes .nil

/-- The nodes of an arm of a `switch`, in front of `rest`. -/
def Arm.nodes : Arm → Forest Node → Forest Node
  | ⟨id, span, label, statements⟩, rest =>
      .node (.arm ⟨id, span, label, statements⟩)
        (Expression.nodesOption label (Statement.nodesList statements .nil)) rest

/-- The nodes of a statement that may be missing, in front of `rest`. -/
def Statement.nodesOption : Option Statement → Forest Node → Forest Node
  | none, rest => rest
  | some statement, rest => statement.nodes rest

/-- The nodes of a list of statements, in front of `rest`. -/
def Statement.nodesList : List Statement → Forest Node → Forest Node
  | [], rest => rest
  | statement :: others, rest => statement.nodes (Statement.nodesList others rest)

/-- The nodes of an arm that may be missing, in front of `rest`. -/
def Arm.nodesOption : Option Arm → Forest Node → Forest Node
  | none, rest => rest
  | some arm, rest => arm.nodes rest

/-- The nodes of a list of arms, in front of `rest`. -/
def Arm.nodesList : List Arm → Forest Node → Forest Node
  | [], rest => rest
  | arm :: others, rest => arm.nodes (Arm.nodesList others rest)

end

/-- The nodes of a function, in front of `rest`. -/
def FunctionDecl.nodes (declared : FunctionDecl) (rest : Forest Node) : Forest Node :=
  .node (.declaration (.functionDecl declared))
    (VariableDecl.nodesList declared.parameters
      (match declared.body with
        | none => .nil
        | some body => body.nodes .nil))
    rest

/-- The nodes of a list of functions, in front of `rest`. -/
def FunctionDecl.nodesList : List FunctionDecl → Forest Node → Forest Node
  | [], rest => rest
  | declared :: others, rest => declared.nodes (FunctionDecl.nodesList others rest)

/-- The nodes of a member of a class, in front of `rest`. -/
def Member.nodes : Member → Forest Node → Forest Node
  | .field declared, rest => declared.nodes rest
  | .method declared, rest => declared.nodes rest

/-- The nodes of a list of members, in front of `rest`. -/
def Member.nodesList : List Member → Forest Node → Forest Node
  | [], rest => rest
  | member :: others, rest => member.nodes (Member.nodesList others rest)

/-- The nodes of a declaration, in front of `rest`. -/
def Declaration.nodes : Declaration → Forest Node → Forest Node
  | .variableDecl declared, rest => declared.nodes rest
  | .classDecl declared, rest =>
      .node (.declaration (.classDecl declared)) (Member.nodesList declared.members .nil) rest
  | .interfaceDecl declared, rest =>
      .node (.declaration (.interfaceDecl declared))
        (FunctionDecl.nodesList declared.prototypes .nil) rest
  | .functionDecl declared, rest => declared.nodes rest

/-- The nodes of a list of declarations, in front of `rest`. -/
def Declaration.nodesList : List Declaration → Forest Node → Forest Node
  | [], rest => rest
  | declaration :: others, rest => declaration.nodes (Declaration.nodesList others rest)

/-- The nodes of a program, under one node for the program itself. -/
def Program.nodes (program : Program) : Forest Node :=
  .node (.program program) (Declaration.nodesList program.declarations .nil) .nil

end DecafScopes
