import DecafScopes.Syntax.Expression

/-!
# Diagnostics and faults

A diagnostic is a finding about the program that is being bound: a name declared
twice in one scope, or a name that no enclosing scope declares.  A fault is a
misuse of a scope tree, which ends the run that commits it.
-/

set_option autoImplicit false

namespace DecafScopes

/-- A finding about a program. -/
inductive Diagnostic where
  /-- `name` is declared at `span`, while the declaration at `previous` holds it. -/
  | redeclared (name : String) (span previous : Span)
  /-- `name` is used at `span`, and no scope around the place declares it. -/
  | undeclared (name : String) (span : Span)
deriving DecidableEq

namespace Diagnostic

/-- The name that the finding is about. -/
def name : Diagnostic → String
  | redeclared name _ _ => name
  | undeclared name _ => name

/-- The place that the finding is about. -/
def span : Diagnostic → Span
  | redeclared _ span _ => span
  | undeclared _ span => span

/-- The finding in words. -/
def message : Diagnostic → String
  | redeclared name span previous =>
      "duplicate declaration of `" ++ name ++ "` at " ++ span.text ++
        " (previous declaration at " ++ previous.text ++ ")"
  | undeclared name span =>
      "no declaration found for `" ++ name ++ "` at " ++ span.text

end Diagnostic

/-- A misuse of a scope tree. -/
inductive Fault where
  /-- A node that is bound already is bound again. -/
  | boundTwice (node : NodeId)
  /-- A node that has opened a scope opens another one. -/
  | openedTwice (node : NodeId)
  /-- There are `size` scopes, and `number` is not the number of one. -/
  | noSuchScope (size number : Nat)
  /-- The way outward from a scope does not lead to a scope with a smaller
  number, so that it never ends. -/
  | endlessWay (number : Nat)
deriving DecidableEq

/-- The misuse in words. -/
def Fault.message : Fault → String
  | boundTwice node => "node " ++ node.text ++ " bound twice"
  | openedTwice node => "node " ++ node.text ++ " opened two scopes"
  | noSuchScope size number =>
      "index out of bounds: the len is " ++ toString size ++
        " but the index is " ++ toString number
  | endlessWay number => "the scopes around scope " ++ toString number ++ " have no end"

end DecafScopes
