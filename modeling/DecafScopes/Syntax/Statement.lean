import DecafScopes.Syntax.Expression

/-!
# Statements

Variable declarations, blocks, statements and the arms of a `switch`.  In a
block all declarations come before all statements.
-/

set_option autoImplicit false

namespace DecafScopes

/-- A variable with its type: a global, a field, a parameter or a local. -/
structure VariableDecl where
  id : NodeId
  span : Span
  name : Identifier
  type : TypeExpr
deriving DecidableEq

/-- What a `for` loop starts with. -/
inductive LoopStart where
  /-- A variable of the loop's own. -/
  | variableDecl (declared : VariableDecl)
  /-- An expression, an omitted one when the clause has been left out. -/
  | expression (value : Expression)

mutual

/-- A block in braces: a function body, or a statement on its own. -/
structure Block where
  id : NodeId
  span : Span
  locals : List VariableDecl
  statements : List Statement

/-- A statement. -/
inductive Statement where
  /-- A block in statement position, which has its own identity and span. -/
  | block (body : Block)
  /-- Any other statement, with its identity and span. -/
  | plain (id : NodeId) (span : Span) (form : StatementForm)

/-- How a statement other than a block is put together. -/
inductive StatementForm where
  | ifElse (test : Expression) (whenTrue : Statement) (whenFalse : Option Statement)
  | whileLoop (test : Expression) (body : Statement)
  | forLoop (start : LoopStart) (test step : Expression) (body : Statement)
  | switch (test : Expression) (arms : List Arm) (fallback : Option Arm)
  /-- Leaving a function, with a value or without. -/
  | leave (value : Option Expression)
  | print (arguments : List Expression)
  /-- Leaving a loop. -/
  | exitLoop
  /-- An expression evaluated for what it does. -/
  | evaluate (value : Expression)

/-- An arm of a `switch`. -/
structure Arm where
  id : NodeId
  span : Span
  /-- The value that leads to the arm; the default arm has none. -/
  label : Option Expression
  statements : List Statement

end

namespace Statement

/-- The identity of a statement. -/
def id : Statement → NodeId
  | block body => body.id
  | plain id _ _ => id

/-- The span of a statement. -/
def span : Statement → Span
  | block body => body.span
  | plain _ span _ => span

end Statement

/-- An arm without a label is the one for all other values. -/
def Arm.isFallback (arm : Arm) : Bool :=
  arm.label.isNone

end DecafScopes
