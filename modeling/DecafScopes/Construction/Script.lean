import DecafScopes.Construction.Builder

/-!
# Construction scripts

A construction script is a list of orders to a builder.  The piece that an order
makes goes into the next slot of a workbench, and later orders name it by the
number of its slot.  Using a piece takes it out of its slot, so that no piece is
ever built into two others.  A script that names an empty slot, or a piece that
does not fit, has no result.
-/

set_option autoImplicit false

namespace DecafScopes

/-! ## Pieces -/

/-- A piece of syntax that an order makes. -/
inductive Piece where
  | identifier (made : Identifier)
  | program (made : Program)
  | declaration (made : Declaration)
  | block (made : Block)
  | statement (made : Statement)
  | arm (made : Arm)
  | expression (made : Expression)

namespace Piece

/-- The identity of a piece; an identifier has none. -/
def id? : Piece → Option NodeId
  | identifier _ => none
  | program made => some made.id
  | declaration made => some made.id
  | block made => some made.id
  | statement made => some made.id
  | arm made => some made.id
  | expression made => some made.id

/-- The span of a piece. -/
def span : Piece → Span
  | identifier made => made.span
  | program made => made.span
  | declaration made => made.span
  | block made => made.span
  | statement made => made.span
  | arm made => made.span
  | expression made => made.span

/-- A piece as an identifier. -/
def toIdentifier? : Piece → Option Identifier
  | identifier made => some made
  | _ => none

/-- A piece as a program. -/
def toProgram? : Piece → Option Program
  | program made => some made
  | _ => none

/-- A piece as a declaration. -/
def toDeclaration? : Piece → Option Declaration
  | declaration made => some made
  | _ => none

/-- A piece as a variable. -/
def toVariable? (piece : Piece) : Option VariableDecl :=
  piece.toDeclaration?.bind Declaration.toVariable?

/-- A piece as a function. -/
def toFunction? (piece : Piece) : Option FunctionDecl :=
  piece.toDeclaration?.bind Declaration.toFunction?

/-- A piece as a member of a class. -/
def toMember? : Piece → Option Member
  | declaration (.variableDecl made) => some (.field made)
  | declaration (.functionDecl made) => some (.method made)
  | _ => none

/-- A piece as a block. -/
def toBlock? : Piece → Option Block
  | block made => some made
  | _ => none

/-- A piece as a statement; a block is one. -/
def toStatement? : Piece → Option Statement
  | statement made => some made
  | block made => some (.block made)
  | _ => none

/-- A piece as an arm of a `switch`. -/
def toArm? : Piece → Option Arm
  | arm made => some made
  | _ => none

/-- A piece as an expression. -/
def toExpression? : Piece → Option Expression
  | expression made => some made
  | _ => none

/-- A piece as what a `for` loop starts with. -/
def toLoopStart? : Piece → Option LoopStart
  | declaration (.variableDecl made) => some (.variableDecl made)
  | expression made => some (.expression made)
  | _ => none

end Piece

/-! ## Orders -/

/-- A type in an order. -/
inductive TypeArgument where
  /-- The type itself. -/
  | given (type : TypeExpr)
  /-- The type named by the identifier in a slot. -/
  | slot (number : Nat)
  | array (element : TypeArgument)

/-- An order to a builder.  Pieces are named by the numbers of their slots. -/
inductive Order where
  | identifier (name : String)
  | program (declarations : List Nat)
  | variableDecl (name : String) (type : TypeArgument)
  | classDecl (name : String) (superclass : Option String) (interfaces : List String)
      (members : List Nat)
  | interfaceDecl (name : String) (prototypes : List Nat)
  | functionDecl (name : String) (result : TypeArgument) (parameters : List Nat)
      (body : Option Nat)
  | block (locals statements : List Nat)
  | ifElse (test whenTrue : Nat) (whenFalse : Option Nat)
  | whileLoop (test body : Nat)
  | forLoop (start test step body : Nat)
  | switch (test : Nat) (arms : List Nat) (fallback : Option Nat)
  | arm (label : Option Nat) (statements : List Nat)
  | leave (value : Option Nat)
  | print (arguments : List Nat)
  | exitLoop
  | evaluate (value : Nat)
  /-- An expression whose operands, if it has any, are given as they are. -/
  | expression (form : ExpressionForm)
  | reference (name : String)
  | field (object : Nat) (member : String)
  | call (receiver : Option Nat) (callee : String) (arguments : List Nat)
  | assign (target value : Nat)
  | binary (op : BinaryOp) (left right : Nat)
  | unary (op : UnaryOp) (operand : Nat)
  | post (op : PostOp) (operand : Nat)
  | element (array index : Nat)
  | newObject (className : String)
  | newArray (length : Nat) (elementType : TypeArgument)

/-! ## The workbench -/

/-- The supply of a builder with the slots filled so far.  A slot whose piece has
been taken is empty. -/
structure Workbench where
  supply : Supply
  slots : Array (Option Piece)

/-- The workbench before the first order. -/
def Workbench.initial : Workbench := ⟨.full, #[]⟩

/-- Work at a workbench, without a result when a piece is missing or does not
fit. -/
abbrev Assembly := StateT Workbench Option

namespace Assembly

/-- Takes the piece out of a slot, in the shape that `shape?` gives it. -/
def take {α : Type} (shape? : Piece → Option α) (slot : Nat) : Assembly α := fun bench => do
  let piece ← (bench.slots[slot]?).join
  let shaped ← shape? piece
  return (shaped, { bench with slots := bench.slots.setIfInBounds slot none })

/-- Takes the pieces out of several slots, in the order given. -/
def takeAll {α : Type} (shape? : Piece → Option α) (slots : List Nat) : Assembly (List α) :=
  slots.mapM (take shape?)

/-- Takes the piece out of a slot, if one is given. -/
def takeOption {α : Type} (shape? : Piece → Option α) (slot : Option Nat) :
    Assembly (Option α) :=
  slot.mapM (take shape?)

/-- The type that an argument stands for. -/
def takeType : TypeArgument → Assembly TypeExpr
  | .given type => return type
  | .slot number => return .named (← take Piece.toIdentifier? number)
  | .array element => return .array (← takeType element)

/-- Makes something with the builder of the workbench. -/
def make {α : Type} (builder : Builder α) : Assembly α := fun bench =>
  let (made, supply) := builder.run bench.supply
  some (made, { bench with supply })

/-- Puts a piece into the next slot. -/
def put (piece : Piece) : Assembly Unit :=
  modify fun bench => { bench with slots := bench.slots.push (some piece) }

end Assembly

open Assembly in
/-- The piece that an order makes. -/
def Order.piece : Order → Assembly Piece
  | .identifier name => .identifier <$> make (Builder.identifier name)
  | .program declarations => do
      let declarations ← takeAll Piece.toDeclaration? declarations
      .program <$> make (Builder.program declarations)
  | .variableDecl name type => do
      let type ← takeType type
      (.declaration <| .variableDecl ·) <$> make (Builder.variableDecl name type)
  | .classDecl name superclass interfaces members => do
      let members ← takeAll Piece.toMember? members
      (.declaration <| .classDecl ·) <$>
        make (Builder.classDecl name superclass interfaces members)
  | .interfaceDecl name prototypes => do
      let prototypes ← takeAll Piece.toFunction? prototypes
      (.declaration <| .interfaceDecl ·) <$> make (Builder.interfaceDecl name prototypes)
  | .functionDecl name result parameters body => do
      let result ← takeType result
      let parameters ← takeAll Piece.toVariable? parameters
      let body ← takeOption Piece.toBlock? body
      (.declaration <| .functionDecl ·) <$>
        make (Builder.functionDecl name result parameters body)
  | .block locals statements => do
      let locals ← takeAll Piece.toVariable? locals
      let statements ← takeAll Piece.toStatement? statements
      .block <$> make (Builder.block locals statements)
  | .ifElse test whenTrue whenFalse => do
      let test ← take Piece.toExpression? test
      let whenTrue ← take Piece.toStatement? whenTrue
      let whenFalse ← takeOption Piece.toStatement? whenFalse
      .statement <$> make (Builder.statement (.ifElse test whenTrue whenFalse))
  | .whileLoop test body => do
      let test ← take Piece.toExpression? test
      let body ← take Piece.toStatement? body
      .statement <$> make (Builder.statement (.whileLoop test body))
  | .forLoop start test step body => do
      let start ← take Piece.toLoopStart? start
      let test ← take Piece.toExpression? test
      let step ← take Piece.toExpression? step
      let body ← take Piece.toStatement? body
      .statement <$> make (Builder.statement (.forLoop start test step body))
  | .switch test arms fallback => do
      let test ← take Piece.toExpression? test
      let arms ← takeAll Piece.toArm? arms
      let fallback ← takeOption Piece.toArm? fallback
      .statement <$> make (Builder.statement (.switch test arms fallback))
  | .arm label statements => do
      let label ← takeOption Piece.toExpression? label
      let statements ← takeAll Piece.toStatement? statements
      .arm <$> make (Builder.arm label statements)
  | .leave value => do
      let value ← takeOption Piece.toExpression? value
      .statement <$> make (Builder.statement (.leave value))
  | .print arguments => do
      let arguments ← takeAll Piece.toExpression? arguments
      .statement <$> make (Builder.statement (.print arguments))
  | .exitLoop => .statement <$> make (Builder.statement .exitLoop)
  | .evaluate value => do
      let value ← take Piece.toExpression? value
      .statement <$> make (Builder.statement (.evaluate value))
  | .expression form => .expression <$> make (Builder.expression form)
  | .reference name => .expression <$> make (Builder.reference name)
  | .field object member => do
      let object ← take Piece.toExpression? object
      .expression <$> make (Builder.field object member)
  | .call receiver callee arguments => do
      let receiver ← takeOption Piece.toExpression? receiver
      let arguments ← takeAll Piece.toExpression? arguments
      .expression <$> make (Builder.call receiver callee arguments)
  | .assign target value => do
      let target ← take Piece.toExpression? target
      let value ← take Piece.toExpression? value
      .expression <$> make (Builder.expression (.assign target value))
  | .binary op left right => do
      let left ← take Piece.toExpression? left
      let right ← take Piece.toExpression? right
      .expression <$> make (Builder.expression (.binary op left right))
  | .unary op operand => do
      let operand ← take Piece.toExpression? operand
      .expression <$> make (Builder.expression (.unary op operand))
  | .post op operand => do
      let operand ← take Piece.toExpression? operand
      .expression <$> make (Builder.expression (.post op operand))
  | .element array index => do
      let array ← take Piece.toExpression? array
      let index ← take Piece.toExpression? index
      .expression <$> make (Builder.expression (.element array index))
  | .newObject className => .expression <$> make (Builder.newObject className)
  | .newArray length elementType => do
      let length ← take Piece.toExpression? length
      let elementType ← takeType elementType
      .expression <$> make (Builder.expression (.newArray length elementType))

/-! ## Running a script -/

/-- What an order leaves on record: the identity and the span of its piece, and
how many identities had been given out after it. -/
structure OrderRecord where
  id : Option NodeId
  span : Span
  idsGiven : Nat

/-- Carries out an order and fills the next slot. -/
def Order.run (order : Order) : Assembly OrderRecord := do
  let piece ← order.piece
  Assembly.put piece
  return ⟨piece.id?, piece.span, (← get).supply.ids.next⟩

/-- Carries out a script at a new workbench. -/
def runScript (script : List Order) : Option (List OrderRecord × Workbench) :=
  (script.mapM Order.run).run .initial

namespace Workbench

/-- The pieces that have not been taken, with their slots. -/
def remaining (bench : Workbench) : List (Nat × Piece) :=
  bench.slots.toList.zipIdx.filterMap fun (piece, slot) => piece.map (slot, ·)

/-- The last program that has not been taken. -/
def lastProgram? (bench : Workbench) : Option Program :=
  (bench.remaining.filterMap (·.2.toProgram?)).getLast?

end Workbench

end DecafScopes
