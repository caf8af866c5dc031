import DecafScopes.Binding.Step
import DecafScopes.Binding.Log

/-!
# Binding a program

The steps of binding a program are performed one after the other on a scope tree
that begins with the global scope alone.  A redeclaration is reported in the tree
and does not stop the pass; a fault does, and then nothing is left of the tree.
-/

set_option autoImplicit false

namespace DecafScopes

/-- A scope tree with the log of how it came about. -/
structure LoggedTree where
  tree : ScopeTree
  log : Array LogEntry

namespace LoggedTree

/-- The tree that holds only the global scope, with nothing logged. -/
def initial : LoggedTree := ⟨.initial, #[]⟩

/-- Performs one step. -/
def perform (redeclaration : Redeclaration) (state : LoggedTree) :
    Step → Except Fault LoggedTree
  | .bind node scope => do
      let tree ← state.tree.bind node scope
      return { state with tree }
  | .declare scope declared => do
      let (refusal, tree) ← state.tree.declare scope declared.name declared redeclaration
      match refusal with
      | none =>
        let entry := LogEntry.declared declared.declaration.kind declared.name scope
        return ⟨tree, state.log.push entry⟩
      | some diagnostic => return ⟨tree.report diagnostic, state.log.push (.refused diagnostic)⟩
  | .openScope parent opener kind owner => do
      let (number, tree) ← state.tree.openScope parent opener kind owner
      return ⟨tree, state.log.push (.opened number parent opener kind owner)⟩

/-- Performs steps one after the other, up to the first fault. -/
def performAll (redeclaration : Redeclaration) (state : LoggedTree) (steps : List Step) :
    Except Fault LoggedTree :=
  steps.foldlM (perform redeclaration) state

/-- Logs the end of a pass. -/
def finish (state : LoggedTree) : LoggedTree :=
  let tree := state.tree
  { state with
    log := state.log.push (.finished tree.size tree.bindingCount tree.diagnostics.size) }

end LoggedTree

namespace Program

/-- Binds a program and keeps the log of the pass. -/
def bindLogged (policy : BindingPolicy) (program : Program) : Except Fault LoggedTree :=
  (LoggedTree.initial.performAll policy.redeclaration (program.steps policy)).map
    LoggedTree.finish

/-- The scope tree of a program. -/
def bind (policy : BindingPolicy) (program : Program) : Except Fault ScopeTree :=
  (program.bindLogged policy).map LoggedTree.tree

end Program

end DecafScopes
