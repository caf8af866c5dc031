import DecafScopes.Syntax.Statement

/-!
# Declarations and programs

Functions, classes and interfaces, the declarations that may stand at the top
level of a program, and the program itself.
-/

set_option autoImplicit false

namespace DecafScopes

/-- A function, a method, or, without a body, a prototype. -/
structure FunctionDecl where
  id : NodeId
  span : Span
  name : Identifier
  result : TypeExpr
  parameters : List VariableDecl
  body : Option Block

/-- A member of a class. -/
inductive Member where
  | field (declared : VariableDecl)
  | method (declared : FunctionDecl)

/-- A class with the class it extends and the interfaces it implements. -/
structure ClassDecl where
  id : NodeId
  span : Span
  name : Identifier
  superclass : Option Identifier
  interfaces : List Identifier
  members : List Member

/-- An interface. -/
structure InterfaceDecl where
  id : NodeId
  span : Span
  name : Identifier
  prototypes : List FunctionDecl

/-- A declaration of any kind. -/
inductive Declaration where
  | variableDecl (declared : VariableDecl)
  | classDecl (declared : ClassDecl)
  | interfaceDecl (declared : InterfaceDecl)
  | functionDecl (declared : FunctionDecl)

/-- A compilation unit: its declarations in source order. -/
structure Program where
  id : NodeId
  span : Span
  declarations : List Declaration

/-- The four kinds of declaration. -/
inductive DeclarationKind where
  | variableDecl | classDecl | interfaceDecl | functionDecl
deriving DecidableEq

/-- What a kind of declaration is called in messages. -/
def DeclarationKind.text : DeclarationKind → String
  | .variableDecl => "variable"
  | .classDecl => "class"
  | .interfaceDecl => "interface"
  | .functionDecl => "function"

namespace Declaration

/-- The identity of the declaration. -/
def id : Declaration → NodeId
  | variableDecl declared => declared.id
  | classDecl declared => declared.id
  | interfaceDecl declared => declared.id
  | functionDecl declared => declared.id

/-- The span of the whole declaration. -/
def span : Declaration → Span
  | variableDecl declared => declared.span
  | classDecl declared => declared.span
  | interfaceDecl declared => declared.span
  | functionDecl declared => declared.span

/-- The declared name with its own span. -/
def identifier : Declaration → Identifier
  | variableDecl declared => declared.name
  | classDecl declared => declared.name
  | interfaceDecl declared => declared.name
  | functionDecl declared => declared.name

/-- The declared name. -/
def name (declaration : Declaration) : String :=
  declaration.identifier.name

/-- The kind of the declaration. -/
def kind : Declaration → DeclarationKind
  | variableDecl _ => .variableDecl
  | classDecl _ => .classDecl
  | interfaceDecl _ => .interfaceDecl
  | functionDecl _ => .functionDecl

/-- The variable that is declared, if one is. -/
def toVariable? : Declaration → Option VariableDecl
  | variableDecl declared => some declared
  | _ => none

/-- The class that is declared, if one is. -/
def toClass? : Declaration → Option ClassDecl
  | classDecl declared => some declared
  | _ => none

/-- The interface that is declared, if one is. -/
def toInterface? : Declaration → Option InterfaceDecl
  | interfaceDecl declared => some declared
  | _ => none

/-- The function, method or prototype that is declared, if one is. -/
def toFunction? : Declaration → Option FunctionDecl
  | functionDecl declared => some declared
  | _ => none

end Declaration

end DecafScopes
