import DecafScopes.Outline.Occurrence
import DecafScopes.Scope.Policy

/-!
# Lexical scoping

What a name refers to at a node is said here of the syntax alone, without
building a scope tree.  Lookup goes through levels: the declarations directly in
the innermost opener around the node, then those in the next one, and so on, and
at last the top-level declarations.  The first level that declares the name at
all decides, and within the level the first or the last declaration of the name.
-/

set_option autoImplicit false

namespace DecafScopes

/-- The declarations directly in an opener, in source order: the members of a
class or an interface, the parameters of a function, the variables of a block,
the variable of a `for` loop. -/
def Opener.declared (opener : Opener) : List Declared :=
  opener.parts.roots.filterMap Entry.declared?

/-- The declarations that an opener adds to what can be seen inside it. -/
def Opener.level (policy : BindingPolicy) (opener : Opener) : List Declared :=
  match opener.entry.node.opens? with
  | some kind => if policy.declaresIn kind then opener.declared else []
  | none => []

/-- Of the declarations in a level, the one that a name refers to. -/
def Redeclaration.winner? (redeclaration : Redeclaration) (name : String)
    (level : List Declared) : Option Declared :=
  match redeclaration with
  | .lastWins => level.reverse.find? (·.name == name)
  | .firstWins => level.find? (·.name == name)

/-- What a name refers to at an occurrence in a program. -/
def Program.referent? (policy : BindingPolicy) (program : Program) (occurrence : Occurrence)
    (name : String) : Option Declared :=
  (occurrence.around.map (Opener.level policy) ++ [program.topLevel]).findSome?
    (policy.redeclaration.winner? name)

end DecafScopes
