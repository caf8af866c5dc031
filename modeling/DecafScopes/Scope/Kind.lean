/-!
# Kinds of scope

A scope is the global one, the inside of a class, an interface or a function, a
block, or the header of a `for` loop.
-/

set_option autoImplicit false

namespace DecafScopes

/-- What a scope is the inside of. -/
inductive ScopeKind where
  | global
  | classBody
  | interfaceBody
  /-- The parameters of a function together with its body. -/
  | functionBody
  | block
  /-- The header of a `for` loop, with the loop's body nested in it. -/
  | loopHeader
deriving DecidableEq

namespace ScopeKind

/-- What a kind of scope is called in messages. -/
def text : ScopeKind → String
  | global => "Global"
  | classBody => "Class"
  | interfaceBody => "Interface"
  | functionBody => "Function"
  | block => "Block"
  | loopHeader => "ForHeader"

/-- Every kind of scope. -/
def all : List ScopeKind :=
  [global, classBody, interfaceBody, functionBody, block, loopHeader]

/-- The kinds of scope that are the inside of a declaration. -/
def belongsToDeclaration : ScopeKind → Bool
  | classBody | interfaceBody | functionBody => true
  | global | block | loopHeader => false

end ScopeKind

end DecafScopes
