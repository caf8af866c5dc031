import DecafScopes.Construction.Script
import DecafScopes.Proofs.Outline.Unfolding

/-!
# What an order takes and what it makes

The live nodes of a workbench are the nodes that lie in its slots.  Taking a piece
out of a slot takes one node away and leaves the supply alone (`Assembly.Takes`).
An order for a node first takes some nodes and then makes one with the next
identity; what is directly inside of the new node is what the order was given
and what it has taken, from left to right, and nothing else (`Assembly.Builds`).
All orders but those for identifiers are of this form (`Order.builds_piece`).
-/

set_option autoImplicit false

namespace DecafScopes

/-! ## Nodes among the pieces -/

/-- The node that a piece is; an identifier is none. -/
def Piece.node? : Piece → Option Node
  | identifier _ => none
  | program made => some (.program made)
  | declaration made => some (.declaration made)
  | block made => some (.block made)
  | statement made => some made.node
  | arm made => some (.arm made)
  | expression made => some (.expression made)

/-- In the shape that `shape?` gives to pieces, `nodes` finds the node of the piece,
if it has one. -/
def Piece.Reads {α : Type} (shape? : Piece → Option α) (nodes : α → List Node) : Prop :=
  ∀ ⦃piece shaped⦄, shape? piece = some shaped → piece.node?.toList = nodes shaped

namespace Piece

/-- The identity of a piece is that of its node. -/
theorem id?_eq (piece : Piece) : piece.id? = piece.node?.map Node.id := by
  match piece with
  | statement (.block _) | statement (.plain ..) => rfl
  | identifier _ | program _ | declaration _ | block _ | arm _ | expression _ => rfl

theorem reads_identifier : Reads toIdentifier? fun _ => []
  | .identifier _, _, _ => rfl

theorem reads_declaration : Reads toDeclaration? fun made => [.declaration made]
  | .declaration _, _, rfl => rfl

theorem reads_variable : Reads toVariable? fun made => [made.node]
  | .declaration (.variableDecl _), _, rfl => rfl

theorem reads_function : Reads toFunction? fun made => [made.node]
  | .declaration (.functionDecl _), _, rfl => rfl

theorem reads_member : Reads toMember? fun made => [made.node]
  | .declaration (.variableDecl _), _, rfl => rfl
  | .declaration (.functionDecl _), _, rfl => rfl

theorem reads_block : Reads toBlock? fun made => [.block made]
  | .block _, _, rfl => rfl

theorem reads_statement : Reads toStatement? fun made => [made.node]
  | .statement _, _, rfl => rfl
  | .block _, _, rfl => rfl

theorem reads_arm : Reads toArm? fun made => [.arm made]
  | .arm _, _, rfl => rfl

theorem reads_expression : Reads toExpression? fun made => [.expression made]
  | .expression _, _, rfl => rfl

theorem reads_loopStart : Reads toLoopStart? fun made => [made.node]
  | .declaration (.variableDecl _), _, rfl => rfl
  | .expression _, _, rfl => rfl

end Piece

/-! ## Nodes at a workbench -/

/-- The nodes that lie in the slots of a workbench. -/
def Workbench.live (bench : Workbench) : List Node :=
  bench.slots.toList.filterMap (·.bind Piece.node?)

/-- A piece in the next slot adds its node. -/
theorem Workbench.live_push (supply supply' : Supply) (slots : Array (Option Piece))
    (piece : Piece) : live ⟨supply, slots.push (some piece)⟩ =
      live ⟨supply', slots⟩ ++ piece.node?.toList := by
  rw [live, live, Array.toList_push, List.filterMap_append, List.filterMap_cons]
  dsimp only [Option.bind_some]
  cases piece.node? <;> rfl

/-- Emptying a place of a list takes away what `read?` had read there. -/
theorem perm_filterMap_set {α β : Type} {read? : α → Option β} {list : List α} {index : Nat}
    {value vacant : α} (found : list[index]? = some value) (nothing : read? vacant = none) :
    (list.filterMap read?).Perm
      ((read? value).toList ++ (list.set index vacant).filterMap read?) := by
  induction list generalizing index with
  | nil => cases found
  | cons first others ih =>
      cases index with
      | zero =>
          cases found
          rw [List.set_cons_zero, List.filterMap_cons_none nothing, List.filterMap_cons]
          cases read? value <;> exact .refl _
      | succ index =>
          have below := ih found
          rw [List.set_cons_succ, List.filterMap_cons, List.filterMap_cons]
          cases read? first with
          | none => exact below
          | some kept => exact (below.cons kept).trans List.perm_middle.symm

namespace Assembly

variable {α β : Type}

/-! ## Work in sequence -/

/-- Work in two steps has a result when both steps have one. -/
theorem run_bind_eq_some_iff {work : Assembly α} {rest : α → Assembly β} {bench last : Workbench}
    {result : β} : (work >>= rest).run bench = some (result, last) ↔
      ∃ value next, work.run bench = some (value, next) ∧
        (rest value).run next = some (result, last) := by
  rw [StateT.run_bind, Option.bind_eq_bind, Option.bind_eq_some_iff, Prod.exists]

/-- Wrapping the result of some work keeps the workbench. -/
theorem run_map_eq_some_iff {work : Assembly α} {wrap : α → β} {bench last : Workbench}
    {result : β} : (wrap <$> work).run bench = some (result, last) ↔
      ∃ value, work.run bench = some (value, last) ∧ wrap value = result := by
  rw [StateT.run_map, Option.map_eq_map, Option.map_eq_some_iff, Prod.exists]
  constructor
  · rintro ⟨value, next, ran, same⟩
    cases same
    exact ⟨value, ran, rfl⟩
  · rintro ⟨value, ran, rfl⟩
    exact ⟨value, last, ran, rfl⟩

/-! ## Taking -/

/-- The work takes nothing from a workbench but the nodes `nodes` of its result. -/
def Takes (work : Assembly α) (nodes : α → List Node) : Prop :=
  ∀ ⦃bench value next⦄, work.run bench = some (value, next) →
    next.supply = bench.supply ∧ bench.live.Perm (nodes value ++ next.live)

/-- Taking a piece takes its node. -/
theorem takes_take {shape? : Piece → Option α} {nodes : α → List Node}
    (reads : Piece.Reads shape? nodes) (slot : Nat) : (take shape? slot).Takes nodes := by
  intro bench shaped next ran
  obtain ⟨piece, filled, ran⟩ := Option.bind_eq_some_iff.mp ran
  obtain ⟨_, isShape, ran⟩ := Option.bind_eq_some_iff.mp ran
  cases ran
  have found : bench.slots.toList[slot]? = some (some piece) := by
    rw [Array.getElem?_toList]
    exact Option.join_eq_some_iff.mp filled
  refine ⟨rfl, ?_⟩
  rw [← reads isShape]
  simp only [Workbench.live, Array.toList_setIfInBounds]
  exact perm_filterMap_set found rfl

/-- The type in an order takes no node. -/
theorem takes_takeType (type : TypeArgument) : (takeType type).Takes fun _ => [] := by
  induction type with
  | given type =>
      intro bench _ _ ran
      cases ran
      exact ⟨rfl, .refl _⟩
  | slot number =>
      intro bench _ _ ran
      obtain ⟨_, _, taken, returned⟩ := run_bind_eq_some_iff.mp ran
      cases returned
      exact takes_take Piece.reads_identifier number taken
  | array element ih =>
      intro bench _ _ ran
      obtain ⟨_, _, taken, returned⟩ := run_bind_eq_some_iff.mp ran
      cases returned
      exact ih taken

section Several

variable {shape? : Piece → Option α} {node : α → Node}

/-- Taking several pieces takes their nodes. -/
theorem takes_takeAll (reads : Piece.Reads shape? fun shaped => [node shaped])
    (slots : List Nat) : (takeAll shape? slots).Takes (List.map node) := by
  induction slots with
  | nil =>
      intro bench _ _ ran
      cases ran
      exact ⟨rfl, .refl _⟩
  | cons slot slots ih =>
      intro bench _ last ran
      rw [takeAll, List.mapM_cons] at ran
      obtain ⟨first, next, taken, ran⟩ := run_bind_eq_some_iff.mp ran
      obtain ⟨others, _, takenToo, returned⟩ := run_bind_eq_some_iff.mp ran
      cases returned
      obtain ⟨supply, live⟩ := takes_take reads slot taken
      obtain ⟨supplyToo, liveToo⟩ := ih takenToo
      exact ⟨supplyToo.trans supply, live.trans (liveToo.cons _)⟩

/-- Taking a piece that may be missing takes its node if there is one. -/
theorem takes_takeOption (reads : Piece.Reads shape? fun shaped => [node shaped])
    (slot : Option Nat) :
    (takeOption shape? slot).Takes fun shaped => shaped.toList.map node := by
  intro bench _ last ran
  cases slot with
  | none =>
      cases ran
      exact ⟨rfl, .refl _⟩
  | some slot =>
      obtain ⟨shaped, taken, rfl⟩ := run_map_eq_some_iff.mp ran
      exact takes_take reads slot taken

end Several

/-! ## Making -/

/-- What the work makes is a new node with the next identity.  Directly inside of
it are the nodes `given` and then the nodes that the work takes. -/
def Builds (work : Assembly Piece) (given : List Node) : Prop :=
  ∀ ⦃bench piece next⦄, work.run bench = some (piece, next) →
    ∃ node taken, piece.node? = some node ∧ node.inside = given ++ taken ∧
      node.id = ⟨bench.supply.ids.next⟩ ∧
      next.supply.ids.next = bench.supply.ids.next + 1 ∧
      bench.live.Perm (taken ++ next.live)

/-- What has been taken before is inside of the new node. -/
theorem Takes.builds {work : Assembly α} {nodes : α → List Node} {rest : α → Assembly Piece}
    {given : List Node} (takes : work.Takes nodes)
    (further : ∀ value, (rest value).Builds (given ++ nodes value)) :
    (work >>= rest).Builds given := by
  intro bench piece last ran
  obtain ⟨value, next, taken, ran⟩ := run_bind_eq_some_iff.mp ran
  obtain ⟨supply, live⟩ := takes taken
  obtain ⟨node, others, isNode, inside, id, drawn, kept⟩ := further value ran
  refine ⟨node, nodes value ++ others, isNode, ?_, ?_, ?_, ?_⟩
  · rw [inside, List.append_assoc]
  · rw [id, supply]
  · rw [drawn, supply]
  · rw [List.append_assoc]
    exact live.trans (kept.append_left _)

/-- A builder that draws one identity for a node makes this node. -/
theorem builds_make {builder : Builder α} {wrap : α → Piece} {given : List Node}
    (builds : ∀ supply, ∃ node, (wrap (builder.run supply).1).node? = some node ∧
      node.inside = given ∧ node.id = ⟨supply.ids.next⟩ ∧
      (builder.run supply).2.ids.next = supply.ids.next + 1) :
    (wrap <$> make builder).Builds given := by
  intro bench piece next ran
  obtain ⟨node, isNode, inside, id, drawn⟩ := builds bench.supply
  cases ran
  refine ⟨node, [], isNode, ?_, id, drawn, .refl _⟩
  rw [inside, List.append_nil]

end Assembly

/-! ## Builders -/

/-- Identifiers draw no identity. -/
theorem Builder.ids_mapM_identifier (names : List String) (supply : Supply) :
    ((names.mapM Builder.identifier).run supply).2.ids = supply.ids := by
  induction names generalizing supply with
  | nil => rfl
  | cons name names ih =>
      rw [List.mapM_cons]
      exact ih _

/-! ## Orders -/

/-- The operands that an order gives as they are. -/
def Order.givenOperands : Order → List Expression
  | .expression form => form.operands
  | _ => []

/-- An order makes a node unless it is for an identifier. -/
def Order.makesNode : Order → Bool
  | .identifier _ => false
  | _ => true

theorem Order.exists_identifier {order : Order} (makes : order.makesNode = false) :
    ∃ name, order = .identifier name := by
  cases order with
  | identifier name => exact ⟨name, rfl⟩
  | _ => cases makes

open Assembly Piece in
/-- **An order for a node makes one around what it was given and what it takes.** -/
theorem Order.builds_piece (order : Order) (makes : order.makesNode) :
    order.piece.Builds (order.givenOperands.map Node.expression) := by
  cases order with
  | identifier name => cases makes
  | program declarations =>
      exact (takes_takeAll reads_declaration declarations).builds fun _ =>
        builds_make fun _ => ⟨_, rfl, rfl, rfl, rfl⟩
  | variableDecl name type =>
      exact (takes_takeType type).builds fun _ => builds_make fun _ => ⟨_, rfl, rfl, rfl, rfl⟩
  | classDecl name superclass interfaces members =>
      -- The names of a class get their spans after the identity of the class is drawn.
      refine (takes_takeAll reads_member members).builds fun _ =>
        builds_make fun _ => ⟨_, rfl, rfl, rfl, ?_⟩
      cases superclass <;>
        exact congrArg IdSupply.next (Builder.ids_mapM_identifier interfaces _)
  | interfaceDecl name prototypes =>
      exact (takes_takeAll reads_function prototypes).builds fun _ =>
        builds_make fun _ => ⟨_, rfl, rfl, rfl, rfl⟩
  | functionDecl name result parameters body =>
      exact (takes_takeType result).builds fun _ =>
        (takes_takeAll reads_variable parameters).builds fun _ =>
          (takes_takeOption reads_block body).builds fun _ =>
            builds_make fun _ => ⟨_, rfl, rfl, rfl, rfl⟩
  | block locals statements =>
      exact (takes_takeAll reads_variable locals).builds fun _ =>
        (takes_takeAll reads_statement statements).builds fun _ =>
          builds_make fun _ => ⟨_, rfl, rfl, rfl, rfl⟩
  | ifElse test whenTrue whenFalse =>
      exact (takes_take reads_expression test).builds fun _ =>
        (takes_take reads_statement whenTrue).builds fun _ =>
          (takes_takeOption reads_statement whenFalse).builds fun _ =>
            builds_make fun _ => ⟨_, rfl, rfl, rfl, rfl⟩
  | whileLoop test body =>
      exact (takes_take reads_expression test).builds fun _ =>
        (takes_take reads_statement body).builds fun _ =>
          builds_make fun _ => ⟨_, rfl, rfl, rfl, rfl⟩
  | forLoop start test step body =>
      exact (takes_take reads_loopStart start).builds fun _ =>
        (takes_take reads_expression test).builds fun _ =>
          (takes_take reads_expression step).builds fun _ =>
            (takes_take reads_statement body).builds fun _ =>
              builds_make fun _ => ⟨_, rfl, rfl, rfl, rfl⟩
  | switch test arms fallback =>
      exact (takes_take reads_expression test).builds fun _ =>
        (takes_takeAll reads_arm arms).builds fun _ =>
          (takes_takeOption reads_arm fallback).builds fun _ =>
            builds_make fun _ => ⟨_, rfl, rfl, rfl, rfl⟩
  | arm label statements =>
      exact (takes_takeOption reads_expression label).builds fun _ =>
        (takes_takeAll reads_statement statements).builds fun _ =>
          builds_make fun _ => ⟨_, rfl, rfl, rfl, rfl⟩
  | leave value =>
      exact (takes_takeOption reads_expression value).builds fun _ =>
        builds_make fun _ => ⟨_, rfl, rfl, rfl, rfl⟩
  | print arguments =>
      exact (takes_takeAll reads_expression arguments).builds fun _ =>
        builds_make fun _ => ⟨_, rfl, rfl, rfl, rfl⟩
  | exitLoop => exact builds_make fun _ => ⟨_, rfl, rfl, rfl, rfl⟩
  | evaluate value =>
      exact (takes_take reads_expression value).builds fun _ =>
        builds_make fun _ => ⟨_, rfl, rfl, rfl, rfl⟩
  | expression form => exact builds_make fun _ => ⟨_, rfl, rfl, rfl, rfl⟩
  | reference name => exact builds_make fun _ => ⟨_, rfl, rfl, rfl, rfl⟩
  | field object member =>
      exact (takes_take reads_expression object).builds fun _ =>
        builds_make fun _ => ⟨_, rfl, rfl, rfl, rfl⟩
  | call receiver callee arguments =>
      exact (takes_takeOption reads_expression receiver).builds fun _ =>
        (takes_takeAll reads_expression arguments).builds fun _ =>
          builds_make fun _ => ⟨_, rfl, List.map_append, rfl, rfl⟩
  | assign target value =>
      exact (takes_take reads_expression target).builds fun _ =>
        (takes_take reads_expression value).builds fun _ =>
          builds_make fun _ => ⟨_, rfl, rfl, rfl, rfl⟩
  | binary op left right =>
      exact (takes_take reads_expression left).builds fun _ =>
        (takes_take reads_expression right).builds fun _ =>
          builds_make fun _ => ⟨_, rfl, rfl, rfl, rfl⟩
  | unary op operand =>
      exact (takes_take reads_expression operand).builds fun _ =>
        builds_make fun _ => ⟨_, rfl, rfl, rfl, rfl⟩
  | post op operand =>
      exact (takes_take reads_expression operand).builds fun _ =>
        builds_make fun _ => ⟨_, rfl, rfl, rfl, rfl⟩
  | element array index =>
      exact (takes_take reads_expression array).builds fun _ =>
        (takes_take reads_expression index).builds fun _ =>
          builds_make fun _ => ⟨_, rfl, rfl, rfl, rfl⟩
  | newObject className => exact builds_make fun _ => ⟨_, rfl, rfl, rfl, rfl⟩
  | newArray length elementType =>
      exact (takes_take reads_expression length).builds fun _ =>
        (takes_takeType elementType).builds fun _ =>
          builds_make fun _ => ⟨_, rfl, rfl, rfl, rfl⟩

/-- Carrying out an order puts its piece into the next slot. -/
theorem Order.run_eq_some {order : Order} {bench last : Workbench} {record : OrderRecord}
    (ran : order.run.run bench = some (record, last)) :
    ∃ piece next, order.piece.run bench = some (piece, next) ∧
      record = ⟨piece.id?, piece.span, next.supply.ids.next⟩ ∧
      last = ⟨next.supply, next.slots.push (some piece)⟩ := by
  obtain ⟨piece, next, made, ran⟩ := Assembly.run_bind_eq_some_iff.mp ran
  cases ran
  exact ⟨piece, next, made, rfl, rfl⟩

end DecafScopes
