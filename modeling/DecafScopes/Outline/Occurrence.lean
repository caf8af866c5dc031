import DecafScopes.Outline.Place

/-!
# Occurrences

An occurrence is a node of an outline together with the openers around it, the
innermost first: the nodes that it is written in and that open a scope.  A node
does not count among the openers around itself.
-/

set_option autoImplicit false

namespace DecafScopes

/-- A node that opens a scope, with its parts. -/
structure Opener where
  entry : Entry
  parts : Forest Entry

/-- A node with the openers around it. -/
structure Occurrence where
  entry : Entry
  /-- The openers around the node, the innermost first. -/
  around : List Opener

/-- The openers around the parts of a node that has `outer` around itself. -/
def Entry.aroundParts (entry : Entry) (parts : Forest Entry) (outer : List Opener) :
    List Opener :=
  if entry.node.opens?.isSome then ⟨entry, parts⟩ :: outer else outer

/-- The occurrences in a forest with the openers `outer` around it, in source
order. -/
def Forest.occurrences (outer : List Opener) : Forest Entry → List Occurrence
  | .nil => []
  | .node entry parts rest =>
      ⟨entry, outer⟩ ::
        (parts.occurrences (entry.aroundParts parts outer) ++ rest.occurrences outer)

/-- The occurrences in a program, in source order. -/
def Program.occurrences (program : Program) : List Occurrence :=
  program.outline.occurrences []

end DecafScopes
