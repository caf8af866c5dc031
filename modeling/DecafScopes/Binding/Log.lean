import DecafScopes.Scope.ScopeTree

/-!
# The log of a binding pass

Opening a scope, declaring a name, refusing a redeclaration and finishing each
leave one line in the log.  Lines about names that were declared without trouble
are of the finer level `trace`; all others are of level `debug`.
-/

set_option autoImplicit false

namespace DecafScopes

/-- How much detail a line gives. -/
inductive LogLevel where
  | debug
  /-- Finer than `debug`. -/
  | trace
deriving DecidableEq

/-- How a level is written. -/
def LogLevel.text : LogLevel → String
  | debug => "debug"
  | trace => "trace"

/-- One event of a binding pass. -/
inductive LogEntry where
  /-- A scope was opened, for its owner if it has one. -/
  | opened (number parent : Nat) (opener : NodeId) (kind : ScopeKind) (owner : Option Declared)
  /-- A name was declared that nothing held in the scope before. -/
  | declared (kind : DeclarationKind) (name : String) (scope : Nat)
  /-- A name was declared that a declaration in the scope held already. -/
  | refused (diagnostic : Diagnostic)
  /-- The pass came to its end. -/
  | finished (scopes bindings diagnostics : Nat)

namespace LogEntry

/-- How much detail the line of an event gives. -/
def level : LogEntry → LogLevel
  | declared .. => .trace
  | opened .. | refused _ | finished .. => .debug

/-- An event in words. -/
def text : LogEntry → String
  | opened number parent opener kind owner =>
      "opened " ++ kind.text ++ " scope " ++ toString number ++ " in " ++ toString parent ++
        " at node " ++ opener.text ++
        match owner with
        | some introduced => " for `" ++ introduced.name ++ "`"
        | none => ""
  | declared kind name scope =>
      "declared " ++ kind.text ++ " `" ++ name ++ "` in scope " ++ toString scope
  | refused diagnostic => diagnostic.message
  | finished scopes bindings diagnostics =>
      "scope tree built: " ++ toString scopes ++ " scopes, " ++ toString bindings ++
        " bound nodes, " ++ toString diagnostics ++ " errors"

/-- The line of an event: its level, then the event in words. -/
def line (entry : LogEntry) : String :=
  entry.level.text ++ " " ++ entry.text

end LogEntry

end DecafScopes
