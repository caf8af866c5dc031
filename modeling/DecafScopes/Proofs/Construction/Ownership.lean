import DecafScopes.Proofs.Binding.Coverage
import DecafScopes.Proofs.Construction.Assembly
import DecafScopes.Proofs.Outline.Descent

/-!
# Programs from a builder

Orders are carried out one after another at a new workbench, and every node that
an order uses is the result of an earlier order and used once
(`Workbench.IsReachedBy`).  Where no order gives operands as they are, this is
running a script (`exists_isReachedBy_iff_runScript`).

The nodes made so far are then the labels of one complete unfolding that starts from
the live nodes: a node is live or inside of exactly one other (`Workbench.Holds`).
Every order keeps this, because a new node takes the nodes inside of it away from the
live ones (`Workbench.Holds.makeNode`).  So a program has each of its nodes once among
those made, and it can be bound (`Workbench.bind_of_isReachedBy`).
-/

set_option autoImplicit false

namespace DecafScopes

/-! ## Runs of orders -/

/-- An order that has been carried out, with what it left on record and the piece
that it made. -/
structure Making where
  order : Order
  record : OrderRecord
  piece : Piece

namespace Making

/-- The order is carried out at the workbench `bench`, which becomes `next`.  What
the order gives as operands has been taken out of slots right before, so that
these are results of earlier orders and not used by others. -/
def TakesPlace (making : Making) (bench next : Workbench) : Prop :=
  ∃ slots ready,
    (Assembly.takeAll Piece.toExpression? slots).run bench =
      some (making.order.givenOperands, ready) ∧
    making.order.run.run ready = some (making.record, next) ∧
    next.slots.back? = some (some making.piece)

/-- The node that has been made, if the order was for one. -/
def node? (making : Making) : Option Node :=
  making.piece.node?

end Making

/-- The workbench is reached from a new one by carrying out orders. -/
inductive Workbench.IsReachedBy : Workbench → List Making → Prop where
  | initial : IsReachedBy .initial []
  | concat {bench next : Workbench} {makings : List Making} {making : Making} :
      IsReachedBy bench makings → making.TakesPlace bench next →
        IsReachedBy next (makings ++ [making])

/-- The nodes made by the orders, in the order in which they were made. -/
def nodesMade (makings : List Making) : List Node :=
  makings.filterMap Making.node?

theorem nodesMade_concat (makings : List Making) (making : Making) :
    nodesMade (makings ++ [making]) = nodesMade makings ++ making.node?.toList := by
  rw [nodesMade, nodesMade, List.filterMap_append, List.filterMap_cons]
  cases making.node? <;> rfl

/-! ## What one order does -/

namespace Making.TakesPlace

variable {making : Making} {bench next : Workbench}

/-- The given operands are taken, then the order makes its piece, and the piece is put
into the next slot. -/
theorem exists_ready (takes : making.TakesPlace bench next) :
    ∃ ready done, ready.supply = bench.supply ∧
      bench.live.Perm (making.order.givenOperands.map Node.expression ++ ready.live) ∧
      making.order.piece.run ready = some (making.piece, done) ∧
      making.record = ⟨making.piece.id?, making.piece.span, done.supply.ids.next⟩ ∧
      next = ⟨done.supply, done.slots.push (some making.piece)⟩ := by
  obtain ⟨slots, ready, given, ran, back⟩ := takes
  obtain ⟨supply, live⟩ := Assembly.takes_takeAll Piece.reads_expression slots given
  obtain ⟨piece, done, made, isRecord, rfl⟩ := Order.run_eq_some ran
  rw [Array.back?_push] at back
  cases back
  exact ⟨ready, done, supply, live, made, isRecord, rfl⟩

/-- The record of an order has the identity of its node and says how many identities
have been given out. -/
theorem record_eq (takes : making.TakesPlace bench next) :
    making.record.id = making.node?.map Node.id ∧
      making.record.idsGiven = next.supply.ids.next := by
  obtain ⟨_, _, _, _, _, isRecord, isNext⟩ := takes.exists_ready
  rw [isRecord, isNext]
  exact ⟨making.piece.id?_eq, rfl⟩

/-- An order for an identifier makes no node and uses none. -/
theorem effect_of_identifier (takes : making.TakesPlace bench next)
    (makes : making.order.makesNode = false) : making.node? = none ∧
      next.supply.ids.next = bench.supply.ids.next ∧ bench.live.Perm next.live := by
  obtain ⟨ready, done, supply, live, made, _, rfl⟩ := takes.exists_ready
  obtain ⟨name, isOrder⟩ := Order.exists_identifier makes
  rw [isOrder] at made live
  obtain ⟨isPiece, rfl⟩ := Prod.mk.inj (Option.some.inj made)
  rw [node?, Workbench.live_push _ ready.supply, ← isPiece]
  refine ⟨rfl, congrArg (·.ids.next) supply, ?_⟩
  exact live.trans (.of_eq (List.append_nil _).symm)

/-- **Any other order makes a node with the next identity out of live nodes**, which are
those inside of it. -/
theorem effect (takes : making.TakesPlace bench next) (makes : making.order.makesNode = true) :
    ∃ node kept, making.node? = some node ∧ node.id = ⟨bench.supply.ids.next⟩ ∧
      next.supply.ids.next = bench.supply.ids.next + 1 ∧
      bench.live.Perm (node.inside ++ kept) ∧ next.live = kept ++ [node] := by
  obtain ⟨ready, done, supply, live, made, _, rfl⟩ := takes.exists_ready
  obtain ⟨node, taken, isNode, inside, id, drawn, kept⟩ :=
    making.order.builds_piece makes made
  rw [supply] at id drawn
  refine ⟨node, done.live, isNode, id, drawn, ?_, ?_⟩
  · rw [inside, List.append_assoc]
    exact live.trans (kept.append_left _)
  · rw [Workbench.live_push _ done.supply, isNode]
    rfl

/-- There is a node if the order is for one. -/
theorem isSome_node? (takes : making.TakesPlace bench next) :
    making.node?.isSome = making.order.makesNode := by
  cases makes : making.order.makesNode with
  | false => rw [(takes.effect_of_identifier makes).1, Option.isSome_none]
  | true =>
      obtain ⟨node, _, isNode, _⟩ := takes.effect makes
      rw [isNode, Option.isSome_some]

end Making.TakesPlace

/-! ## Running a script -/

/-- An order that gives no operands takes place whenever it can be carried out. -/
theorem Making.exists_takesPlace_iff {order : Order} {record : OrderRecord}
    {bench next : Workbench} (plain : order.givenOperands = []) :
    (∃ piece, TakesPlace ⟨order, record, piece⟩ bench next) ↔
      order.run.run bench = some (record, next) := by
  constructor
  · rintro ⟨piece, slots, ready, given, ran, _⟩
    rw [plain] at given
    cases slots with
    | nil =>
        cases given
        exact ran
    | cons slot slots =>
        rw [Assembly.takeAll, List.mapM_cons] at given
        obtain ⟨_, _, _, given⟩ := Assembly.run_bind_eq_some_iff.mp given
        obtain ⟨_, _, _, returned⟩ := Assembly.run_bind_eq_some_iff.mp given
        cases returned
  · intro ran
    obtain ⟨piece, done, _, _, isNext⟩ := Order.run_eq_some ran
    refine ⟨piece, [], bench, ?_, ran, ?_⟩
    · rw [plain]
      rfl
    · rw [isNext, Array.back?_push]

/-- A script is run by running all orders but the last, and then that one. -/
theorem runScript_concat_eq_some_iff {script : List Order} {order : Order}
    {records : List OrderRecord} {last : Workbench} :
    runScript (script ++ [order]) = some (records, last) ↔
      ∃ earlier bench record, runScript script = some (earlier, bench) ∧
        order.run.run bench = some (record, last) ∧ records = earlier ++ [record] := by
  rw [runScript, List.mapM_append, List.mapM_cons, List.mapM_nil]
  simp only [Assembly.run_bind_eq_some_iff]
  constructor
  · rintro ⟨earlier, bench, first, _, _, ⟨record, _, ran, _, _, nothing, returned⟩, together⟩
    cases nothing
    cases returned
    cases together
    exact ⟨earlier, bench, record, first, ran, rfl⟩
  · rintro ⟨earlier, bench, record, first, ran, rfl⟩
    exact ⟨earlier, bench, first, [record], last, ⟨record, last, ran, [], last, rfl, rfl⟩, rfl⟩

/-- Orders that reach a workbench and give no operands are a script for it. -/
theorem Workbench.IsReachedBy.runScript_eq {bench : Workbench} {makings : List Making}
    (reached : bench.IsReachedBy makings)
    (plain : ∀ making ∈ makings, making.order.givenOperands = []) :
    runScript (makings.map Making.order) = some (makings.map Making.record, bench) := by
  induction reached with
  | initial => rfl
  | @concat between bench makings making _ takes ih =>
      have ranBefore := ih fun earlier member => plain earlier (List.mem_append_left _ member)
      have plainLast : making.order.givenOperands = [] :=
        plain making (List.mem_append_right _ (List.mem_singleton_self making))
      have ran := (Making.exists_takesPlace_iff plainLast).mp ⟨making.piece, takes⟩
      rw [List.map_append, List.map_append]
      exact runScript_concat_eq_some_iff.mpr ⟨_, between, making.record, ranBefore, ran, rfl⟩

/-- A script none of whose orders gives operands reaches its workbench. -/
theorem exists_isReachedBy_of_runScript {script : List Order} {records : List OrderRecord}
    {bench : Workbench} (plain : ∀ order ∈ script, order.givenOperands = [])
    (ran : runScript script = some (records, bench)) :
    ∃ makings, bench.IsReachedBy makings ∧ makings.map Making.order = script ∧
      makings.map Making.record = records := by
  induction script using List.reverseRecOn generalizing records bench with
  | nil =>
      cases ran
      exact ⟨[], .initial, rfl, rfl⟩
  | append_singleton script order ih =>
      have plainLast : order.givenOperands = [] :=
        plain order (List.mem_append_right _ (List.mem_singleton_self order))
      obtain ⟨earlier, between, record, first, last, rfl⟩ := runScript_concat_eq_some_iff.mp ran
      obtain ⟨makings, reached, rfl, rfl⟩ :=
        ih (fun before member => plain before (List.mem_append_left _ member)) first
      obtain ⟨piece, takes⟩ := (Making.exists_takesPlace_iff plainLast).mpr last
      exact ⟨makings ++ [⟨order, record, piece⟩], reached.concat takes, List.map_append,
        List.map_append⟩

/-- **Running a script is reaching its workbench**, if none of its orders gives operands
as they are.  This is the part of the relation that can be run.  An order that gives
operands can be carried out as well, but then they are not taken out of slots, and
nothing keeps them from being syntax that no order has made, or that is used elsewhere
too.  That they are made before and used once is what `Making.TakesPlace` demands of
whoever gives such an order; of any other order it demands only that it is carried
out. -/
theorem exists_isReachedBy_iff_runScript {script : List Order} {records : List OrderRecord}
    {bench : Workbench} (plain : ∀ order ∈ script, order.givenOperands = []) :
    (∃ makings, bench.IsReachedBy makings ∧ makings.map Making.order = script ∧
      makings.map Making.record = records) ↔ runScript script = some (records, bench) := by
  refine ⟨?_, exists_isReachedBy_of_runScript plain⟩
  rintro ⟨makings, reached, rfl, rfl⟩
  exact reached.runScript_eq fun making member => plain _ (List.mem_map_of_mem member)

/-! ## The invariant -/

/-- A workbench holds the nodes made so far: their identities are those given out,
in this order, every one of them is live or inside of exactly one other, and what
is inside of a node has been made before. -/
structure Workbench.Holds (bench : Workbench) (made : List Node) : Prop where
  numbers : made.map (·.id.number) = List.range bench.supply.ids.next
  owned : ∃ forest : Forest Node,
    forest.Unfolds Node.inside bench.live ∧ forest.labels.Perm made
  smaller : ∀ node ∈ made, ∀ part ∈ node.inside, part.id.number < node.id.number

namespace Workbench.Holds

variable {bench next : Workbench} {made : List Node}

theorem initial : Workbench.initial.Holds [] where
  numbers := rfl
  owned := ⟨.nil, .nil, .refl _⟩
  smaller := by
    intro _ member
    cases member

theorem next_eq (holds : bench.Holds made) : bench.supply.ids.next = made.length := by
  rw [← List.length_range (n := bench.supply.ids.next), ← holds.numbers, List.length_map]

theorem nodup_ids (holds : bench.Holds made) : (made.map Node.id).Nodup := by
  have numbers : (made.map Node.id).map NodeId.number = List.range bench.supply.ids.next := by
    rw [List.map_map]
    exact holds.numbers
  refine List.Nodup.of_map NodeId.number ?_
  rw [numbers]
  exact List.nodup_range

theorem number_lt (holds : bench.Holds made) {node : Node} (member : node ∈ made) :
    node.id.number < bench.supply.ids.next := by
  rw [← List.mem_range, ← holds.numbers]
  exact List.mem_map_of_mem member

theorem live_subset (holds : bench.Holds made) : bench.live ⊆ made := by
  obtain ⟨forest, unfolds, labels⟩ := holds.owned
  rw [← unfolds.roots_eq]
  exact List.Subset.trans forest.roots_subset_labels labels.subset

theorem inside_subset (holds : bench.Holds made) {node : Node} (member : node ∈ made) :
    node.inside ⊆ made := by
  obtain ⟨forest, unfolds, labels⟩ := holds.owned
  exact List.Subset.trans (unfolds.inside_subset_labels (labels.mem_iff.mpr member)) labels.subset

/-- What grows from the parts of every node to the node grows from all nodes within
to the node. -/
theorem measure_lt_of_isWithin (holds : bench.Holds made) {measure : Node → Nat}
    (grows : ∀ node ∈ made, ∀ part ∈ node.inside, measure part < measure node)
    {inner node : Node} (member : node ∈ made) (within : inner.IsWithin node) :
    inner ∈ made ∧ measure inner < measure node := by
  induction within using Relation.TransGen.head_induction_on with
  | single isPart => exact ⟨holds.inside_subset member isPart, grows _ member _ isPart⟩
  | head isPart _ ih =>
      obtain ⟨between, smaller⟩ := ih
      exact ⟨holds.inside_subset between isPart, (grows _ between _ isPart).trans smaller⟩

/-- What is within a node has been made before it. -/
theorem lt_of_isWithin (holds : bench.Holds made) {inner node : Node} (member : node ∈ made)
    (within : inner.IsWithin node) : inner ∈ made ∧ inner.id.number < node.id.number :=
  holds.measure_lt_of_isWithin holds.smaller member within

/-- Work that makes no node and uses none changes nothing. -/
theorem keep (holds : bench.Holds made)
    (undrawn : next.supply.ids.next = bench.supply.ids.next) (live : bench.live.Perm next.live) :
    next.Holds made where
  numbers := by rw [undrawn, holds.numbers]
  owned := by
    obtain ⟨forest, unfolds, labels⟩ := holds.owned
    obtain ⟨forest', unfolds'⟩ := unfolds.exists_of_perm live
    exact ⟨forest', unfolds', (unfolds.labels_perm unfolds' live).symm.trans labels⟩
  smaller := holds.smaller

/-- **A node that is made out of live nodes is held with the others.** -/
theorem makeNode (holds : bench.Holds made) {node : Node} {kept : List Node}
    (id : node.id = ⟨bench.supply.ids.next⟩)
    (drawn : next.supply.ids.next = bench.supply.ids.next + 1)
    (used : bench.live.Perm (node.inside ++ kept)) (live : next.live = kept ++ [node]) :
    next.Holds (made ++ [node]) where
  numbers := by
    rw [List.map_append, holds.numbers, drawn, List.range_succ, List.map_singleton, id]
  owned := by
    obtain ⟨forest, unfolds, labels⟩ := holds.owned
    obtain ⟨split, unfolded⟩ := unfolds.exists_of_perm used
    obtain ⟨parts, others, below, beside, together⟩ := unfolded.exists_append
    have moved : (node :: kept).Perm next.live := by
      rw [live]
      exact (List.perm_append_singleton node kept).symm
    -- The nodes inside of the new one move from the roots to below it.
    have grown : (Forest.node node parts others).Unfolds Node.inside (node :: kept) :=
      .node below beside
    obtain ⟨forest', unfolds'⟩ := grown.exists_of_perm moved
    refine ⟨forest', unfolds', (grown.labels_perm unfolds' moved).symm.trans ?_⟩
    rw [Forest.labels, ← together]
    exact (((unfolds.labels_perm unfolded used).symm.trans labels).cons node).trans
      (List.perm_append_singleton node made).symm
  smaller := by
    intro outer member part isPart
    rcases List.mem_append.mp member with old | new
    · exact holds.smaller outer old part isPart
    · cases List.mem_singleton.mp new
      rw [id]
      exact holds.number_lt (holds.live_subset (used.mem_iff.mpr (List.mem_append_left _ isPart)))

/-- A program that has been made has its nodes among those made. -/
theorem subperm_labels (holds : bench.Holds made) {program : Program}
    (member : .program program ∈ made) : program.nodes.labels.Subperm made := by
  obtain ⟨forest, unfolds, labels⟩ := holds.owned
  exact (unfolds.subperm_labels (labels.mem_iff.mpr member)).trans labels.subperm

/-- The nodes of a program that has been made have distinct identities. -/
theorem nodup_nodeIds (holds : bench.Holds made) {program : Program}
    (member : .program program ∈ made) : program.nodeIds.Nodup := by
  obtain ⟨among, same, listed⟩ := holds.subperm_labels member
  rw [Program.nodeIds, ← (same.map Node.id).nodup_iff]
  exact holds.nodup_ids.sublist (listed.map Node.id)

/-- A program has at most as many nodes as have been made, and as many exactly if
all of them are its nodes. -/
theorem length_nodeIds (holds : bench.Holds made) {program : Program}
    (member : .program program ∈ made) :
    program.nodeIds.length ≤ bench.supply.ids.next ∧
      (program.nodeIds.length = bench.supply.ids.next ↔
        ∀ node ∈ made, node = .program program ∨ node.IsWithin (.program program)) := by
  have among := holds.subperm_labels member
  rw [Program.nodeIds, List.length_map, holds.next_eq]
  refine ⟨among.length_le, ?_, ?_⟩
  · intro full node isMade
    rw [← Program.mem_labels_iff_isWithin]
    exact (among.perm_of_length_le full.ge).mem_iff.mpr isMade
  · intro all
    have distinct : made.Nodup := holds.nodup_ids.of_map Node.id
    refine among.length_le.antisymm (distinct.subperm ?_).length_le
    intro node isMade
    exact Program.mem_labels_iff_isWithin.mpr (all node isMade)

end Workbench.Holds

namespace Workbench

variable {bench : Workbench} {makings : List Making}

/-! ## Runs -/

/-- Every workbench that is reached holds the nodes that have been made. -/
theorem IsReachedBy.holds (reached : bench.IsReachedBy makings) :
    bench.Holds (nodesMade makings) := by
  induction reached with
  | initial => exact .initial
  | @concat _ _ _ making _ takes ih =>
      rw [nodesMade_concat]
      cases makes : making.order.makesNode with
      | false =>
          obtain ⟨isNone, undrawn, live⟩ := takes.effect_of_identifier makes
          rw [isNone, Option.toList_none, List.append_nil]
          exact ih.keep undrawn live
      | true =>
          obtain ⟨node, kept, isNode, id, drawn, used, live⟩ := takes.effect makes
          rw [isNode]
          exact ih.makeNode id drawn used live

/-- Every order but those for identifiers made a node, and has its identity on
record. -/
theorem IsReachedBy.record_id (reached : bench.IsReachedBy makings) :
    ∀ making ∈ makings, making.record.id = making.node?.map Node.id ∧
      making.node?.isSome = making.order.makesNode := by
  induction reached with
  | initial =>
      intro _ member
      cases member
  | concat _ takes ih =>
      intro making member
      rcases List.mem_append.mp member with old | new
      · exact ih making old
      · cases List.mem_singleton.mp new
        exact ⟨takes.record_eq.1, takes.isSome_node?⟩

/-- The last order has on record how many identities have been given out. -/
theorem IsReachedBy.record_idsGiven (reached : bench.IsReachedBy makings) :
    ∀ making ∈ makings.getLast?, making.record.idsGiven = bench.supply.ids.next := by
  cases reached with
  | initial =>
      intro _ member
      cases member
  | concat _ takes =>
      intro making member
      rw [List.getLast?_concat] at member
      cases member
      exact takes.record_eq.2

/-- **Programs from a builder can be bound.**  When orders are carried out one after
another at a new workbench, and every node that an order uses is the result of an
earlier order and used once:

* every order but those for identifiers makes a node, and the nodes have the
  identities 0, 1, 2 and so on in the order in which they were made, as many as
  have been given out;
* every node has a larger identity than any node within it;
* every program that was made has nodes with distinct identities, so that it can
  be bound under every policy.  It has at most as many bindings as identities
  have been given out, and as many exactly if all nodes made are the program and
  those within it. -/
theorem bind_of_isReachedBy (reached : bench.IsReachedBy makings) :
    (∀ making ∈ makings, making.record.id = making.node?.map Node.id ∧
      making.node?.isSome = making.order.makesNode) ∧
    (∀ making ∈ makings.getLast?, making.record.idsGiven = bench.supply.ids.next) ∧
    bench.supply.ids.next = (nodesMade makings).length ∧
    (nodesMade makings).map (·.id.number) = List.range (nodesMade makings).length ∧
    (∀ node ∈ nodesMade makings, ∀ inner : Node, inner.IsWithin node →
      inner.id.number < node.id.number) ∧
    ∀ program, .program program ∈ nodesMade makings →
      program.nodeIds.Nodup ∧
      ∀ policy, ∃ tree, program.bind policy = .ok tree ∧
        tree.bindingCount ≤ bench.supply.ids.next ∧
        (tree.bindingCount = bench.supply.ids.next ↔
          ∀ node ∈ nodesMade makings, node = .program program ∨
            node.IsWithin (.program program)) := by
  have holds := reached.holds
  refine ⟨reached.record_id, reached.record_idsGiven, holds.next_eq, ?_, ?_, ?_⟩
  · rw [holds.numbers, holds.next_eq]
  · intro node member inner within
    exact (holds.lt_of_isWithin member within).2
  · intro program member
    have distinct := holds.nodup_nodeIds member
    refine ⟨distinct, ?_⟩
    intro policy
    obtain ⟨tree, bound, result⟩ := Program.exists_bind policy distinct
    refine ⟨tree, bound, ?_⟩
    rw [result.bindingCount_eq_length]
    exact holds.length_nodeIds member

end Workbench

/-! ## A sample run -/

namespace Sample

/-- Reading an integer. -/
def reading : Expression := ⟨⟨0⟩, .onLine 1, .input .integer⟩

/-- A new array of the length that is read. -/
def allocation : Expression := ⟨⟨1⟩, .onLine 2, .newArray reading .int⟩

/-- A statement that makes an array, after an identifier has been made. -/
def allocating : Statement := .plain ⟨2⟩ (.onLine 4) (.evaluate allocation)

/-- A block around the statement. -/
def allocatingBody : Block := ⟨⟨3⟩, .onLine 5, [], [allocating]⟩

/-- A function around the block. -/
def allocatingFunction : FunctionDecl :=
  ⟨⟨4⟩, .onLine 6, ⟨"main", .onLine 7⟩, .void, [], some allocatingBody⟩

/-- A program around the function. -/
def allocatingProgram : Program := ⟨⟨5⟩, .onLine 8, [.functionDecl allocatingFunction]⟩

/-- The orders for the program.  The second one is given its operand as it is. -/
def allocatingMakings : List Making :=
  [⟨.expression (.input .integer), ⟨some ⟨0⟩, .onLine 1, 1⟩, .expression reading⟩,
    ⟨.expression (.newArray reading .int), ⟨some ⟨1⟩, .onLine 2, 2⟩, .expression allocation⟩,
    ⟨.identifier "unused", ⟨none, .onLine 3, 2⟩, .identifier ⟨"unused", .onLine 3⟩⟩,
    ⟨.evaluate 1, ⟨some ⟨2⟩, .onLine 4, 3⟩, .statement allocating⟩,
    ⟨.block [] [3], ⟨some ⟨3⟩, .onLine 5, 4⟩, .block allocatingBody⟩,
    ⟨.functionDecl "main" (.given .void) [] (some 4), ⟨some ⟨4⟩, .onLine 6, 5⟩,
      .declaration (.functionDecl allocatingFunction)⟩,
    ⟨.program [5], ⟨some ⟨5⟩, .onLine 8, 6⟩, .program allocatingProgram⟩]

/-- A workbench with a number of identities and lines given out. -/
def benchAfter (ids line : Nat) (slots : List (Option Piece)) : Workbench :=
  ⟨⟨⟨ids⟩, line⟩, slots.toArray⟩

theorem exists_isReachedBy_allocatingMakings :
    ∃ bench : Workbench, bench.IsReachedBy allocatingMakings := by
  let unused : Option Piece := some (.identifier ⟨"unused", .onLine 3⟩)
  have read : (benchAfter 1 1 [some (.expression reading)]).IsReachedBy
      ([] ++ [allocatingMakings[0]]) := .concat .initial ⟨[], _, rfl, rfl, rfl⟩
  have allocated : (benchAfter 2 2 [none, some (.expression allocation)]).IsReachedBy
      (_ ++ [allocatingMakings[1]]) := .concat read ⟨[0], _, rfl, rfl, rfl⟩
  have named : (benchAfter 2 3 [none, some (.expression allocation), unused]).IsReachedBy
      (_ ++ [allocatingMakings[2]]) := .concat allocated ⟨[], _, rfl, rfl, rfl⟩
  have evaluated : (benchAfter 3 4 [none, none, unused, some (.statement allocating)]).IsReachedBy
      (_ ++ [allocatingMakings[3]]) := .concat named ⟨[], _, rfl, rfl, rfl⟩
  have enclosed : (benchAfter 4 5 [none, none, unused, none,
      some (.block allocatingBody)]).IsReachedBy
      (_ ++ [allocatingMakings[4]]) := .concat evaluated ⟨[], _, rfl, rfl, rfl⟩
  have declared : (benchAfter 5 7 [none, none, unused, none, none,
      some (.declaration (.functionDecl allocatingFunction))]).IsReachedBy
      (_ ++ [allocatingMakings[5]]) := .concat enclosed ⟨[], _, rfl, rfl, rfl⟩
  have built : (benchAfter 6 8 [none, none, unused, none, none, none,
      some (.program allocatingProgram)]).IsReachedBy
      (_ ++ [allocatingMakings[6]]) := .concat declared ⟨[], _, rfl, rfl, rfl⟩
  exact ⟨_, built⟩

end Sample

open Sample in
/-- Six orders for nodes, with an identifier between them, make a program that has
six bindings. -/
theorem Workbench.bind_of_isReachedBy_allocating :
    ∃ bench, IsReachedBy bench allocatingMakings ∧ bench.supply.ids.next = 6 ∧
      ∃ tree, allocatingProgram.bind .standard = .ok tree ∧ tree.bindingCount = 6 := by
  obtain ⟨bench, reached⟩ := exists_isReachedBy_allocatingMakings
  obtain ⟨_, _, drawn, _, _, programs⟩ := bind_of_isReachedBy reached
  have all : nodesMade allocatingMakings = allocatingProgram.nodes.labels.reverse := rfl
  have member : Node.program allocatingProgram ∈ nodesMade allocatingMakings := by
    rw [all, List.mem_reverse]
    exact List.mem_cons_self
  obtain ⟨tree, bound, _, full⟩ := (programs _ member).2 .standard
  refine ⟨bench, reached, drawn, tree, bound, (full.mpr ?_).trans drawn⟩
  intro node isMade
  rw [all, List.mem_reverse] at isMade
  exact Program.mem_labels_iff_isWithin.mp isMade

end DecafScopes
