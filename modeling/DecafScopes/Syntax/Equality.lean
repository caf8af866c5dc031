import DecafScopes.Syntax.Program

/-!
# Equality of programs

Two programs are equal when they have the same shape, the same identities, the
same spans and the same names and types throughout.  Only double literals are
compared as numbers: a program that contains a NaN is not equal to itself, and a
negative zero is equal to a positive one.
-/

set_option autoImplicit false

namespace DecafScopes

/-! ## Expressions -/

/-- Equality of literals. -/
def Literal.equals : Literal → Literal → Bool
  | .int value, .int value' => value == value'
  | .double value, .double value' => value.equals value'
  | .bool value, .bool value' => value == value'
  | .string value, .string value' => value == value'
  | .null, .null => true
  | _, _ => false

instance : BEq Literal := ⟨Literal.equals⟩

mutual

/-- Equality of expressions. -/
def Expression.equals : Expression → Expression → Bool
  | ⟨id, span, form⟩, other => id == other.id && span == other.span && form.equals other.form

/-- Equality of how two expressions are put together. -/
def ExpressionForm.equals : ExpressionForm → ExpressionForm → Bool
  | .omitted, .omitted => true
  | .literal value, .literal value' => value == value'
  | .this, .this => true
  | .name identifier, .name identifier' => identifier == identifier'
  | .field object member, .field object' member' => object.equals object' && member == member'
  | .call receiver callee arguments, .call receiver' callee' arguments' =>
      Expression.equalsOption receiver receiver' && callee == callee' &&
        Expression.equalsList arguments arguments'
  | .assign target value, .assign target' value' => target.equals target' && value.equals value'
  | .binary op left right, .binary op' left' right' =>
      op == op' && left.equals left' && right.equals right'
  | .unary op operand, .unary op' operand' => op == op' && operand.equals operand'
  | .post op operand, .post op' operand' => op == op' && operand.equals operand'
  | .element array index, .element array' index' => array.equals array' && index.equals index'
  | .newObject className, .newObject className' => className == className'
  | .newArray length elementType, .newArray length' elementType' =>
      length.equals length' && elementType == elementType'
  | .input item, .input item' => item == item'
  | _, _ => false

/-- Equality of optional expressions. -/
def Expression.equalsOption : Option Expression → Option Expression → Bool
  | none, none => true
  | some first, some second => first.equals second
  | _, _ => false

/-- Equality of lists of expressions. -/
def Expression.equalsList : List Expression → List Expression → Bool
  | [], [] => true
  | first :: rest, second :: rest' => first.equals second && Expression.equalsList rest rest'
  | _, _ => false

end

instance : BEq Expression := ⟨Expression.equals⟩

/-! ## Statements -/

/-- Equality of what two loops start with. -/
def LoopStart.equals : LoopStart → LoopStart → Bool
  | .variableDecl declared, .variableDecl declared' => declared == declared'
  | .expression value, .expression value' => value == value'
  | _, _ => false

instance : BEq LoopStart := ⟨LoopStart.equals⟩

mutual

/-- Equality of blocks. -/
def Block.equals : Block → Block → Bool
  | ⟨id, span, locals, statements⟩, other =>
      id == other.id && span == other.span && locals == other.locals &&
        Statement.equalsList statements other.statements

/-- Equality of statements. -/
def Statement.equals : Statement → Statement → Bool
  | .block body, .block body' => body.equals body'
  | .plain id span form, .plain id' span' form' => id == id' && span == span' && form.equals form'
  | _, _ => false

/-- Equality of how two statements are put together. -/
def StatementForm.equals : StatementForm → StatementForm → Bool
  | .ifElse test whenTrue whenFalse, .ifElse test' whenTrue' whenFalse' =>
      test == test' && whenTrue.equals whenTrue' && Statement.equalsOption whenFalse whenFalse'
  | .whileLoop test body, .whileLoop test' body' => test == test' && body.equals body'
  | .forLoop start test step body, .forLoop start' test' step' body' =>
      start == start' && test == test' && step == step' && body.equals body'
  | .switch test arms fallback, .switch test' arms' fallback' =>
      test == test' && Arm.equalsList arms arms' && Arm.equalsOption fallback fallback'
  | .leave value, .leave value' => value == value'
  | .print arguments, .print arguments' => arguments == arguments'
  | .exitLoop, .exitLoop => true
  | .evaluate value, .evaluate value' => value == value'
  | _, _ => false

/-- Equality of the arms of a `switch`. -/
def Arm.equals : Arm → Arm → Bool
  | ⟨id, span, label, statements⟩, other =>
      id == other.id && span == other.span && label == other.label &&
        Statement.equalsList statements other.statements

/-- Equality of optional statements. -/
def Statement.equalsOption : Option Statement → Option Statement → Bool
  | none, none => true
  | some first, some second => first.equals second
  | _, _ => false

/-- Equality of lists of statements. -/
def Statement.equalsList : List Statement → List Statement → Bool
  | [], [] => true
  | first :: rest, second :: rest' => first.equals second && Statement.equalsList rest rest'
  | _, _ => false

/-- Equality of optional arms. -/
def Arm.equalsOption : Option Arm → Option Arm → Bool
  | none, none => true
  | some first, some second => first.equals second
  | _, _ => false

/-- Equality of lists of arms. -/
def Arm.equalsList : List Arm → List Arm → Bool
  | [], [] => true
  | first :: rest, second :: rest' => first.equals second && Arm.equalsList rest rest'
  | _, _ => false

end

instance : BEq Block := ⟨Block.equals⟩

/-! ## Declarations -/

/-- Equality of functions. -/
def FunctionDecl.equals (first second : FunctionDecl) : Bool :=
  first.id == second.id && first.span == second.span && first.name == second.name &&
    first.result == second.result && first.parameters == second.parameters &&
    first.body == second.body

instance : BEq FunctionDecl := ⟨FunctionDecl.equals⟩

/-- Equality of members. -/
def Member.equals : Member → Member → Bool
  | .field declared, .field declared' => declared == declared'
  | .method declared, .method declared' => declared == declared'
  | _, _ => false

instance : BEq Member := ⟨Member.equals⟩

/-- Equality of classes. -/
def ClassDecl.equals (first second : ClassDecl) : Bool :=
  first.id == second.id && first.span == second.span && first.name == second.name &&
    first.superclass == second.superclass && first.interfaces == second.interfaces &&
    first.members == second.members

instance : BEq ClassDecl := ⟨ClassDecl.equals⟩

/-- Equality of interfaces. -/
def InterfaceDecl.equals (first second : InterfaceDecl) : Bool :=
  first.id == second.id && first.span == second.span && first.name == second.name &&
    first.prototypes == second.prototypes

instance : BEq InterfaceDecl := ⟨InterfaceDecl.equals⟩

/-- Equality of declarations. -/
def Declaration.equals : Declaration → Declaration → Bool
  | .variableDecl declared, .variableDecl declared' => declared == declared'
  | .classDecl declared, .classDecl declared' => declared == declared'
  | .interfaceDecl declared, .interfaceDecl declared' => declared == declared'
  | .functionDecl declared, .functionDecl declared' => declared == declared'
  | _, _ => false

instance : BEq Declaration := ⟨Declaration.equals⟩

/-- Equality of programs. -/
def Program.equals (first second : Program) : Bool :=
  first.id == second.id && first.span == second.span &&
    first.declarations == second.declarations

instance : BEq Program := ⟨Program.equals⟩

end DecafScopes
