import DecafScopes.Syntax.Program

/-!
# Building programs

A builder makes syntax nodes one by one, from the inside outward.  Every node
gets the next identity, and every node and every identifier gets a span on a line
of its own, so that no two of them are ever confused.

Where a node and identifiers are made together, the lines are given out in a
fixed order: a declaration comes before its name and the names it extends and
implements, an expression comes after the identifier in it.
-/

set_option autoImplicit false

namespace DecafScopes

/-- The identities and lines that a builder has not given out yet. -/
structure Supply where
  ids : IdSupply
  /-- The line before the next one, which is how many places have been given out.  It
  has no bound.  No identity and no line that has been given out is beyond it
  (`Workbench.IsReachedBy.next_le_line`, `Workbench.IsReachedBy.line_le`), so that a
  builder with counters of 32 bits does the same as long as it gives out fewer than
  `2 ^ 32 - 1` places. -/
  line : Nat
deriving DecidableEq

/-- The supply of a new builder, whose lines begin with the first one. -/
def Supply.full : Supply := ⟨.full, 0⟩

/-- The span of the first column of a line. -/
def Span.onLine (line : Nat) : Span :=
  ⟨⟨0, line, 1⟩, ⟨0, line, 2⟩⟩

/-- Making syntax while drawing identities and lines from a supply. -/
abbrev Builder := StateM Supply

namespace Builder

/-- The next identity. -/
def newId : Builder NodeId :=
  fun supply => (supply.ids.draw.1, { supply with ids := supply.ids.draw.2 })

/-- A span on the next line. -/
def newSpan : Builder Span :=
  fun supply => (.onLine (supply.line + 1), { supply with line := supply.line + 1 })

/-- An identifier, which has a span and no identity. -/
def identifier (name : String) : Builder Identifier := do
  return ⟨name, ← newSpan⟩

/-! ## Declarations -/

/-- A program around its declarations. -/
def program (declarations : List Declaration) : Builder Program := do
  return ⟨← newId, ← newSpan, declarations⟩

/-- A variable. -/
def variableDecl (name : String) (type : TypeExpr) : Builder VariableDecl := do
  return ⟨← newId, ← newSpan, ← identifier name, type⟩

/-- A class with the class it extends and the interfaces it implements. -/
def classDecl (name : String) (superclass : Option String) (interfaces : List String)
    (members : List Member) : Builder ClassDecl := do
  return ⟨← newId, ← newSpan, ← identifier name, ← superclass.mapM identifier,
    ← interfaces.mapM identifier, members⟩

/-- An interface around its prototypes. -/
def interfaceDecl (name : String) (prototypes : List FunctionDecl) : Builder InterfaceDecl := do
  return ⟨← newId, ← newSpan, ← identifier name, prototypes⟩

/-- A function, or a prototype when there is no body. -/
def functionDecl (name : String) (result : TypeExpr) (parameters : List VariableDecl)
    (body : Option Block) : Builder FunctionDecl := do
  return ⟨← newId, ← newSpan, ← identifier name, result, parameters, body⟩

/-! ## Statements -/

/-- A block. -/
def block (locals : List VariableDecl) (statements : List Statement) : Builder Block := do
  return ⟨← newId, ← newSpan, locals, statements⟩

/-- A statement other than a block. -/
def statement (form : StatementForm) : Builder Statement := do
  return .plain (← newId) (← newSpan) form

/-- An arm of a `switch`, the default one when there is no label. -/
def arm (label : Option Expression) (statements : List Statement) : Builder Arm := do
  return ⟨← newId, ← newSpan, label, statements⟩

/-! ## Expressions -/

/-- An expression of any form. -/
def expression (form : ExpressionForm) : Builder Expression := do
  return ⟨← newId, ← newSpan, form⟩

/-- A name on its own. -/
def reference (name : String) : Builder Expression := do
  expression (.name (← identifier name))

/-- A field of an object. -/
def field (object : Expression) (member : String) : Builder Expression := do
  expression (.field object (← identifier member))

/-- A call, of a method when there is a receiver. -/
def call (receiver : Option Expression) (callee : String) (arguments : List Expression) :
    Builder Expression := do
  expression (.call receiver (← identifier callee) arguments)

/-- A new object of a class. -/
def newObject (className : String) : Builder Expression := do
  expression (.newObject (← identifier className))

end Builder

end DecafScopes
