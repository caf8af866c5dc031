import DecafScopes.Syntax.Span
import DecafScopes.Syntax.NodeId
import DecafScopes.Syntax.Binary64

/-!
# Expressions

Identifiers, written types, operators, literals and expressions of Decaf.
Expressions carry an identity and a span each; identifiers and types carry no
identity, because no scope is ever attached to them.
-/

set_option autoImplicit false

namespace DecafScopes

/-- A name as it is written at some place. -/
structure Identifier where
  name : String
  span : Span
deriving DecidableEq

/-- A type as it is written in a declaration. -/
inductive TypeExpr where
  | int
  | double
  | bool
  | string
  | void
  /-- The type of the `null` literal. -/
  | null
  /-- A class or an interface, by its name. -/
  | named (name : Identifier)
  | array (element : TypeExpr)
deriving DecidableEq

/-! ## Operators and literals -/

/-- Operators between two operands. -/
inductive BinaryOp where
  | add | sub | mul | div | mod
  | less | lessEqual | greater | greaterEqual
  | equal | notEqual
  | both | either
deriving DecidableEq

/-- Operators written before their operand. -/
inductive UnaryOp where
  | minus | not
deriving DecidableEq

/-- Operators written after their operand. -/
inductive PostOp where
  | increment | decrement
deriving DecidableEq

/-- How an operator between two operands is written. -/
def BinaryOp.symbol : BinaryOp → String
  | .add => "+"
  | .sub => "-"
  | .mul => "*"
  | .div => "/"
  | .mod => "%"
  | .less => "<"
  | .lessEqual => "<="
  | .greater => ">"
  | .greaterEqual => ">="
  | .equal => "=="
  | .notEqual => "!="
  | .both => "&&"
  | .either => "||"

/-- Every operator between two operands. -/
def BinaryOp.all : List BinaryOp :=
  [.add, .sub, .mul, .div, .mod, .less, .lessEqual, .greater, .greaterEqual, .equal, .notEqual,
    .both, .either]

/-- How an operator before its operand is written. -/
def UnaryOp.symbol : UnaryOp → String
  | .minus => "-"
  | .not => "!"

/-- Every operator before its operand. -/
def UnaryOp.all : List UnaryOp := [.minus, .not]

/-- How an operator after its operand is written. -/
def PostOp.symbol : PostOp → String
  | .increment => "++"
  | .decrement => "--"

/-- Every operator after its operand. -/
def PostOp.all : List PostOp := [.increment, .decrement]

/-- A value written out. -/
inductive Literal where
  | int (value : Int32)
  | double (value : Binary64)
  | bool (value : Bool)
  | string (value : String)
  | null

/-- What is read from the input. -/
inductive InputItem where
  | integer | line
deriving DecidableEq

/-! ## Expressions -/

mutual

/-- An expression with its identity and span. -/
structure Expression where
  id : NodeId
  span : Span
  form : ExpressionForm

/-- How an expression is put together. -/
inductive ExpressionForm where
  /-- Stands where an optional expression has been left out. -/
  | omitted
  | literal (value : Literal)
  /-- The object whose method is running. -/
  | this
  /-- A name on its own. -/
  | name (identifier : Identifier)
  /-- A field of an object. -/
  | field (object : Expression) (member : Identifier)
  /-- A call, of a method when there is a receiver before the dot. -/
  | call (receiver : Option Expression) (callee : Identifier) (arguments : List Expression)
  | assign (target value : Expression)
  | binary (op : BinaryOp) (left right : Expression)
  | unary (op : UnaryOp) (operand : Expression)
  | post (op : PostOp) (operand : Expression)
  /-- An element of an array. -/
  | element (array index : Expression)
  /-- A new object of a class. -/
  | newObject (className : Identifier)
  /-- A new array of a given length. -/
  | newArray (length : Expression) (elementType : TypeExpr)
  | input (item : InputItem)

end

end DecafScopes
