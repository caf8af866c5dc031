import DecafScopes.Outline.Node

/-!
# Places in source order

Counting what has been written before a node, in source order, gives each
declaration its identity and each scope its number.  A declaration is
identified by its site, the compilation unit and its rank among the unit's
declarations; two declarations are the same only if their sites are, however
much they may look alike.  The scopes of a program are numbered from one in the
order of the nodes that open them; zero is the global scope.

The outline of a program carries these counts at every node.
-/

set_option autoImplicit false

namespace DecafScopes

/-! ## Declarations at their sites -/

/-- Where a declaration stands. -/
structure Site where
  /-- The compilation unit. -/
  unit : Nat
  /-- How many declarations stand before it in its unit. -/
  rank : Nat
deriving DecidableEq

/-- A declaration together with where it stands. -/
structure Declared where
  site : Site
  declaration : Declaration

namespace Declared

/-- Declarations are the same when they stand at the same site. -/
def isSame (first second : Declared) : Bool :=
  first.site == second.site

/-- The declared name. -/
def name (declared : Declared) : String :=
  declared.declaration.name

/-- The span of the whole declaration. -/
def span (declared : Declared) : Span :=
  declared.declaration.span

end Declared

/-! ## Counting along the source -/

/-- What the next opener and the next declaration in source order will get. -/
structure Place where
  /-- The number of the next scope to be opened. -/
  scope : Nat
  /-- The site of the next declaration. -/
  site : Site

namespace Place

/-- The place at which a compilation unit begins. -/
def start (unit : Nat) : Place := ⟨1, ⟨unit, 0⟩⟩

/-- The place right after the beginning of `node`, where its parts begin. -/
def after (place : Place) (node : Node) : Place where
  scope := if node.opens?.isSome then place.scope + 1 else place.scope
  site :=
    if node.declaration?.isSome then ⟨place.site.unit, place.site.rank + 1⟩ else place.site

end Place

/-- A node at its place. -/
structure Entry where
  node : Node
  place : Place

namespace Entry

/-- The identity of the node. -/
def id (entry : Entry) : NodeId :=
  entry.node.id

/-- The declaration that the node is, at its site. -/
def declared? (entry : Entry) : Option Declared :=
  entry.node.declaration?.map (⟨entry.place.site, ·⟩)

/-- The number of the scope that the node opens, with its kind. -/
def opens? (entry : Entry) : Option (Nat × ScopeKind) :=
  entry.node.opens?.map (entry.place.scope, ·)

end Entry

/-- Puts every node of a forest at its place, the first of them at `place`. -/
def Forest.placed (place : Place) : Forest Node → Forest Entry
  | .nil => .nil
  | .node label parts rest =>
      .node ⟨label, place⟩ (parts.placed (place.after label))
        (rest.placed (parts.foldl Place.after (place.after label)))

/-! ## The outline of a program -/

namespace Program

/-- The nodes of a program at their places, when it is compilation unit `unit`. -/
def outlineIn (unit : Nat) (program : Program) : Forest Entry :=
  program.nodes.placed (Place.start unit)

/-- The nodes of a program at their places. -/
def outline (program : Program) : Forest Entry :=
  program.outlineIn 0

/-- The identities of all nodes in source order. -/
def nodeIds (program : Program) : List NodeId :=
  program.nodes.labels.map Node.id

/-- All declarations in source order, nested ones included, when the program is
compilation unit `unit`. -/
def declaredIn (unit : Nat) (program : Program) : List Declared :=
  (program.outlineIn unit).labels.filterMap Entry.declared?

/-- All declarations in source order, nested ones included. -/
def declared (program : Program) : List Declared :=
  program.declaredIn 0

/-- The top-level declarations in source order. -/
def topLevel (program : Program) : List Declared :=
  match program.outline with
  | .nil => []
  | .node _ parts _ => parts.roots.filterMap Entry.declared?

/-- The identifiers that are looked up, each with the node that does so, in
source order. -/
def references (program : Program) : List (NodeId × Identifier) :=
  program.nodes.labels.filterMap fun node => node.reference?.map (node.id, ·)

end Program

end DecafScopes
