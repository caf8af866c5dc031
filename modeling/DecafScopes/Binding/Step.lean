import DecafScopes.Outline.Place
import DecafScopes.Scope.Policy

/-!
# The steps of binding a program

Binding a program consists of three kinds of step: a node is bound to a scope, a
declaration is entered into a scope, a scope is opened.  Which steps are taken,
and in which order, follows from the outline of the program alone, because the
outline already carries the number of every scope.

That the numbers come from the outline is a way to write the steps down, and not
something that the pass relies on.  Performing the steps is the recursion that goes
through the nodes one by one and opens every scope under the number that is next in
the tree as it is then (`Forest.bindIn_node`, `Forest.enterIn_eq`), for a whole
program from the tree that holds only the global scope
(`Program.bindLogged_eq_bindIn`).

Nodes are announced and entered.  To announce a node is to bind it to the scope
around it and, if it is a declaration, to declare its name there.  To enter a
node is to open its scope, if it has one, and to go through its parts.  The parts
of a class or an interface are all announced before the first of them is entered,
so that members see each other in any order; everywhere else each part is entered
as soon as it has been announced.  The parameters of a function are declared only
if the policy says so.
-/

set_option autoImplicit false

namespace DecafScopes

/-- One step of binding a program. -/
inductive Step where
  /-- Binds a node to the scope around it. -/
  | bind (node : NodeId) (scope : Nat)
  /-- Enters a declaration into a scope, under its own name. -/
  | declare (scope : Nat) (declared : Declared)
  /-- Opens the next scope. -/
  | openScope (parent : Nat) (opener : NodeId) (kind : ScopeKind) (owner : Option Declared)

/-- The kinds of scope whose parts are all announced before any is entered. -/
def ScopeKind.announcesFirst : ScopeKind → Bool
  | .classBody | .interfaceBody => true
  | .global | .functionBody | .block | .loopHeader => false

/-- Announcing a node in a scope: it is bound, and declared if it is a
declaration and `declaring` holds. -/
def Entry.announce (scope : Nat) (declaring : Bool) (entry : Entry) : List Step :=
  .bind entry.id scope ::
    match entry.declared? with
    | some declared => if declaring then [.declare scope declared] else []
    | none => []

/-- How the trees of a forest are gone through. -/
inductive Visit where
  /-- Each root is announced and then entered. -/
  | full (declaring : Bool)
  /-- The roots have been announced before and are only entered. -/
  | inside
deriving DecidableEq

/-- What is done at a root before it is entered. -/
def Visit.announce (visit : Visit) (scope : Nat) (entry : Entry) : List Step :=
  match visit with
  | full declaring => entry.announce scope declaring
  | inside => []

/-- The steps of going through a forest whose roots stand in `scope`. -/
def Forest.steps (policy : BindingPolicy) (scope : Nat) (visit : Visit) :
    Forest Entry → List Step
  | nil => []
  | node entry parts rest =>
      visit.announce scope entry ++
        (match entry.opens? with
          | none => parts.steps policy scope (.full true)
          | some (number, kind) =>
            .openScope scope entry.id kind entry.declared? ::
              if kind.announcesFirst then
                parts.roots.flatMap (Entry.announce number (policy.declaresIn kind)) ++
                  parts.steps policy number .inside
              else
                parts.steps policy number (.full (policy.declaresIn kind))) ++
        rest.steps policy scope visit

/-- The steps of binding a program, which itself stands in the global scope. -/
def Program.steps (policy : BindingPolicy) (program : Program) : List Step :=
  program.outline.steps policy 0 (.full true)

end DecafScopes
