import DecafScopes.Scope.SymbolTable
import DecafScopes.Scope.Diagnostic
import DecafScopes.Scope.Policy

/-!
# Scope trees

A scope tree holds the scopes of one compilation unit in the order of their
creation, each under its number, and it records for every node the scope around
the node and the scope that the node opened, if any.  It begins with the global
scope alone and only grows: there are operations to open a scope, to declare a
name, to bind a node and to report a diagnostic, and none to take anything away.
-/

set_option autoImplicit false

namespace DecafScopes

/-! ## Scopes -/

/-- How a scope is attached to the scopes around it. -/
structure Attachment where
  /-- The number of the scope directly around it. -/
  parent : Nat
  /-- The node that opened it. -/
  opener : NodeId
deriving DecidableEq

/-- One lexical environment. -/
structure Scope where
  /-- The number of the scope in its tree. -/
  number : Nat
  kind : ScopeKind
  /-- Nothing is around the global scope, and nothing opened it. -/
  attachment : Option Attachment
  /-- The numbers of the scopes directly inside, in the order of their creation. -/
  children : Array Nat
  /-- The declaration whose inside the scope is. -/
  owner : Option Declared
  /-- The names declared directly in the scope. -/
  table : SymbolTable

namespace Scope

/-- The number of the scope directly around a scope. -/
def parent? (scope : Scope) : Option Nat :=
  scope.attachment.map Attachment.parent

/-- The node that opened a scope. -/
def opener? (scope : Scope) : Option NodeId :=
  scope.attachment.map Attachment.opener

/-- Nothing is around the outermost scope. -/
def isOutermost (scope : Scope) : Bool :=
  scope.attachment.isNone

/-- The declaration that holds a name in this very scope. -/
def holder? (scope : Scope) (name : String) : Option Declared :=
  scope.table.find? name

end Scope

/-! ## Trees -/

/-- All scopes of one compilation unit. -/
structure ScopeTree where
  /-- The scopes by their numbers. -/
  scopes : Array Scope
  /-- The scope around each bound node. -/
  bindings : Std.TreeMap NodeId Nat
  /-- The scope that each opener opened. -/
  openings : Std.TreeMap NodeId Nat
  /-- The reported diagnostics, the oldest first. -/
  diagnostics : Array Diagnostic

namespace ScopeTree

/-- The number of the global scope. -/
def root : Nat := 0

/-- The tree that holds only the global scope. -/
def initial : ScopeTree where
  scopes := #[⟨root, .global, none, #[], none, .empty⟩]
  bindings := ∅
  openings := ∅
  diagnostics := #[]

/-- The number of scopes. -/
def size (tree : ScopeTree) : Nat :=
  tree.scopes.size

/-- Whether there is no scope at all. -/
def isEmpty (tree : ScopeTree) : Bool :=
  tree.scopes.isEmpty

/-- The scope with a given number. -/
def scope (tree : ScopeTree) (number : Nat) : Except Fault Scope :=
  match tree.scopes[number]? with
  | some found => .ok found
  | none => .error (.noSuchScope tree.size number)

/-- The scope around a bound node. -/
def scopeAround? (tree : ScopeTree) (node : NodeId) : Option Nat :=
  tree.bindings[node]?

/-- The scope that a node opened. -/
def openedBy? (tree : ScopeTree) (node : NodeId) : Option Nat :=
  tree.openings[node]?

/-- The number of bound nodes. -/
def bindingCount (tree : ScopeTree) : Nat :=
  tree.bindings.size

/-! ## How a tree grows -/

/-- Opens a scope in `parent` on behalf of the node `opener`, and returns its
number.  The new scope counts as present when its parent is looked for. -/
def openScope (tree : ScopeTree) (parent : Nat) (opener : NodeId) (kind : ScopeKind)
    (owner : Option Declared) : Except Fault (Nat × ScopeTree) :=
  let number := tree.size
  let scopes := tree.scopes.push ⟨number, kind, some ⟨parent, opener⟩, #[], owner, .empty⟩
  if scopes.size ≤ parent then
    .error (.noSuchScope scopes.size parent)
  else if tree.openings.contains opener then
    .error (.openedTwice opener)
  else
    .ok (number, { tree with
      scopes := scopes.modify parent fun outer =>
        { outer with children := outer.children.push number }
      openings := tree.openings.insert opener number })

/-- Lets a declaration hold a name in a scope, whatever held it before. -/
def setHolder (tree : ScopeTree) (number : Nat) (name : String) (declared : Declared) :
    ScopeTree :=
  { tree with
    scopes := tree.scopes.modify number fun changed =>
      { changed with table := (changed.table.add name declared).2 } }

/-- Declares a name in a scope.  If a declaration holds the name there already,
`redeclaration` decides which one holds it from now on, and a diagnostic with the
spans of both is returned; reporting it is left to the caller. -/
def declare (tree : ScopeTree) (number : Nat) (name : String) (declared : Declared)
    (redeclaration : Redeclaration) : Except Fault (Option Diagnostic × ScopeTree) :=
  match tree.scope number with
  | .error fault => .error fault
  | .ok scope =>
    match scope.holder? name with
    | none => .ok (none, tree.setHolder number name declared)
    | some previous =>
      let refusal := Diagnostic.redeclared name declared.span previous.span
      match redeclaration with
      | .lastWins => .ok (some refusal, tree.setHolder number name declared)
      | .firstWins => .ok (some refusal, tree)

/-- Binds a node to the scope around it.  A node is bound at most once. -/
def bind (tree : ScopeTree) (node : NodeId) (number : Nat) : Except Fault ScopeTree :=
  if tree.bindings.contains node then
    .error (.boundTwice node)
  else
    .ok { tree with bindings := tree.bindings.insert node number }

/-- Adds a diagnostic to those of the tree. -/
def report (tree : ScopeTree) (diagnostic : Diagnostic) : ScopeTree :=
  { tree with diagnostics := tree.diagnostics.push diagnostic }

end ScopeTree

end DecafScopes
