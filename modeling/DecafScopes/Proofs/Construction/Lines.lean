import DecafScopes.Proofs.Binding.Locations
import DecafScopes.Proofs.Construction.Ownership

/-!
# Every node on a line of its own

A builder gives out the lines 1, 2, 3 and so on, one to every node and one to every
identifier.  Which spans an order gives out, and in which order, can be read off the
piece that it makes (`Making.issued`): the identifiers of a declaration come after
it, and the identifier that an expression is made with comes before it.

Over a whole run, the spans given out are those on the first lines, one on each
(`Workbench.IsReachedBy.issued_eq`).  A node is made after the nodes within it, so it
stands on a later line; and the nodes of a program stand on different lines, so that
the diagnostics about the program are told apart by their places
(`Workbench.located_of_isReachedBy`).
-/

set_option autoImplicit false

namespace DecafScopes

/-! ## What an order gives out -/

/-- The identifiers that are made with a declaration: its name, and what a class
extends and implements. -/
def Declaration.identifiers : Declaration → List Identifier
  | variableDecl declared => [declared.name]
  | classDecl declared => declared.name :: (declared.superclass.toList ++ declared.interfaces)
  | interfaceDecl declared => [declared.name]
  | functionDecl declared => [declared.name]

/-- The identifier that is written in an expression by itself, outside of its
operands. -/
def ExpressionForm.identifier? : ExpressionForm → Option Identifier
  | .name identifier | .newObject identifier => some identifier
  | .field _ member => some member
  | .call _ callee _ => some callee
  | _ => none

/-- Whether an order for an expression makes the identifier in it. -/
def Order.makesIdentifier : Order → Bool
  | .reference _ | .field .. | .call .. | .newObject _ => true
  | _ => false

/-- The spans that an order has given out when it has made a piece, in the order in
which it gives them out. -/
def Order.issued (order : Order) : Piece → List Span
  | .declaration made => made.span :: made.identifiers.map Identifier.span
  | .expression made =>
      if order.makesIdentifier then
        made.form.identifier?.toList.map Identifier.span ++ [made.span]
      else [made.span]
  | piece => [piece.span]

/-- The spans that an order has given out. -/
def Making.issued (making : Making) : List Span :=
  making.order.issued making.piece

/-! ## Lines drawn from a supply -/

/-- The lines between two supplies have been given to `spans`, one by one. -/
structure Supply.Issued (before : Supply) (spans : List Span) (after : Supply) : Prop where
  spans_eq : spans = (List.range' (before.line + 1) spans.length).map Span.onLine
  line_eq : after.line = before.line + spans.length

namespace Supply.Issued

variable {before between after : Supply} {spans further : List Span}

theorem trans (first : before.Issued spans between) (second : between.Issued further after) :
    before.Issued (spans ++ further) after where
  spans_eq := by
    have later := second.spans_eq
    rw [first.line_eq, Nat.add_right_comm] at later
    rw [List.length_append, ← List.range'_append_1, List.map_append, ← first.spans_eq, ← later]
  line_eq := by
    rw [second.line_eq, first.line_eq, List.length_append, Nat.add_assoc]

end Supply.Issued

/-- Names get the next lines, one each. -/
theorem Builder.issued_mapM_identifier (names : List String) (supply : Supply) :
    supply.Issued (((names.mapM Builder.identifier).run supply).1.map Identifier.span)
      ((names.mapM Builder.identifier).run supply).2 := by
  induction names generalizing supply with
  | nil => exact ⟨rfl, rfl⟩
  | cons name names ih =>
      rw [List.mapM_cons]
      have first : supply.Issued [.onLine (supply.line + 1)]
          { supply with line := supply.line + 1 } := ⟨rfl, rfl⟩
      exact first.trans (ih _)

namespace Assembly

variable {α : Type}

/-- The work gives out the spans `issued` of the piece that it makes. -/
def Issues (work : Assembly Piece) (issued : Piece → List Span) : Prop :=
  ∀ ⦃bench piece next⦄, work.run bench = some (piece, next) →
    bench.supply.Issued (issued piece) next.supply

/-- Taking pieces gives out nothing. -/
theorem Takes.issues {work : Assembly α} {nodes : α → List Node} {rest : α → Assembly Piece}
    {issued : Piece → List Span} (takes : work.Takes nodes)
    (further : ∀ value, (rest value).Issues issued) : (work >>= rest).Issues issued := by
  intro bench piece last ran
  obtain ⟨value, next, taken, ran⟩ := run_bind_eq_some_iff.mp ran
  rw [← (takes taken).1]
  exact further value ran

/-- A builder gives out what it draws. -/
theorem issues_make {builder : Builder α} {wrap : α → Piece} {issued : Piece → List Span}
    (draws : ∀ supply : Supply,
      supply.Issued (issued (wrap (builder.run supply).1)) (builder.run supply).2) :
    (wrap <$> make builder).Issues issued := by
  intro bench piece next ran
  cases ran
  exact draws bench.supply

end Assembly

open Assembly Piece in
/-- **Every order gives out the next lines**, as many as it makes nodes and
identifiers. -/
theorem Order.issues_piece (order : Order) : order.piece.Issues order.issued := by
  cases order with
  | identifier name => exact issues_make fun _ => ⟨rfl, rfl⟩
  | program declarations =>
      exact (takes_takeAll reads_declaration declarations).issues fun _ =>
        issues_make fun _ => ⟨rfl, rfl⟩
  | variableDecl name type =>
      exact (takes_takeType type).issues fun _ => issues_make fun _ => ⟨rfl, rfl⟩
  | classDecl name superclass interfaces members =>
      refine (takes_takeAll reads_member members).issues fun _ => issues_make fun supply => ?_
      cases superclass with
      | none =>
          have first : supply.Issued [.onLine (supply.line + 1), .onLine (supply.line + 2)]
              ⟨supply.ids.draw.2, supply.line + 2⟩ := ⟨rfl, rfl⟩
          exact first.trans (Builder.issued_mapM_identifier interfaces _)
      | some superclass =>
          have first : supply.Issued [.onLine (supply.line + 1), .onLine (supply.line + 2),
              .onLine (supply.line + 3)] ⟨supply.ids.draw.2, supply.line + 3⟩ := ⟨rfl, rfl⟩
          exact first.trans (Builder.issued_mapM_identifier interfaces _)
  | interfaceDecl name prototypes =>
      exact (takes_takeAll reads_function prototypes).issues fun _ =>
        issues_make fun _ => ⟨rfl, rfl⟩
  | functionDecl name result parameters body =>
      exact (takes_takeType result).issues fun _ =>
        (takes_takeAll reads_variable parameters).issues fun _ =>
          (takes_takeOption reads_block body).issues fun _ => issues_make fun _ => ⟨rfl, rfl⟩
  | block locals statements =>
      exact (takes_takeAll reads_variable locals).issues fun _ =>
        (takes_takeAll reads_statement statements).issues fun _ =>
          issues_make fun _ => ⟨rfl, rfl⟩
  | ifElse test whenTrue whenFalse =>
      exact (takes_take reads_expression test).issues fun _ =>
        (takes_take reads_statement whenTrue).issues fun _ =>
          (takes_takeOption reads_statement whenFalse).issues fun _ =>
            issues_make fun _ => ⟨rfl, rfl⟩
  | whileLoop test body =>
      exact (takes_take reads_expression test).issues fun _ =>
        (takes_take reads_statement body).issues fun _ => issues_make fun _ => ⟨rfl, rfl⟩
  | forLoop start test step body =>
      exact (takes_take reads_loopStart start).issues fun _ =>
        (takes_take reads_expression test).issues fun _ =>
          (takes_take reads_expression step).issues fun _ =>
            (takes_take reads_statement body).issues fun _ => issues_make fun _ => ⟨rfl, rfl⟩
  | switch test arms fallback =>
      exact (takes_take reads_expression test).issues fun _ =>
        (takes_takeAll reads_arm arms).issues fun _ =>
          (takes_takeOption reads_arm fallback).issues fun _ => issues_make fun _ => ⟨rfl, rfl⟩
  | arm label statements =>
      exact (takes_takeOption reads_expression label).issues fun _ =>
        (takes_takeAll reads_statement statements).issues fun _ =>
          issues_make fun _ => ⟨rfl, rfl⟩
  | leave value =>
      exact (takes_takeOption reads_expression value).issues fun _ =>
        issues_make fun _ => ⟨rfl, rfl⟩
  | print arguments =>
      exact (takes_takeAll reads_expression arguments).issues fun _ =>
        issues_make fun _ => ⟨rfl, rfl⟩
  | exitLoop => exact issues_make fun _ => ⟨rfl, rfl⟩
  | evaluate value =>
      exact (takes_take reads_expression value).issues fun _ => issues_make fun _ => ⟨rfl, rfl⟩
  | expression form => exact issues_make fun _ => ⟨rfl, rfl⟩
  | reference name => exact issues_make fun _ => ⟨rfl, rfl⟩
  | field object member =>
      exact (takes_take reads_expression object).issues fun _ => issues_make fun _ => ⟨rfl, rfl⟩
  | call receiver callee arguments =>
      exact (takes_takeOption reads_expression receiver).issues fun _ =>
        (takes_takeAll reads_expression arguments).issues fun _ =>
          issues_make fun _ => ⟨rfl, rfl⟩
  | assign target value =>
      exact (takes_take reads_expression target).issues fun _ =>
        (takes_take reads_expression value).issues fun _ => issues_make fun _ => ⟨rfl, rfl⟩
  | binary op left right =>
      exact (takes_take reads_expression left).issues fun _ =>
        (takes_take reads_expression right).issues fun _ => issues_make fun _ => ⟨rfl, rfl⟩
  | unary op operand =>
      exact (takes_take reads_expression operand).issues fun _ => issues_make fun _ => ⟨rfl, rfl⟩
  | post op operand =>
      exact (takes_take reads_expression operand).issues fun _ => issues_make fun _ => ⟨rfl, rfl⟩
  | element array index =>
      exact (takes_take reads_expression array).issues fun _ =>
        (takes_take reads_expression index).issues fun _ => issues_make fun _ => ⟨rfl, rfl⟩
  | newObject className => exact issues_make fun _ => ⟨rfl, rfl⟩
  | newArray length elementType =>
      exact (takes_take reads_expression length).issues fun _ =>
        (takes_takeType elementType).issues fun _ => issues_make fun _ => ⟨rfl, rfl⟩

/-! ## Where nodes stand -/

/-- The place of a node is among those that have been given out when it was made. -/
theorem Making.span_mem_issued {making : Making} {node : Node} (made : making.node? = some node) :
    node.span ∈ making.issued := by
  obtain ⟨order, record, piece⟩ := making
  match piece with
  | .identifier _ => cases made
  | .declaration _ =>
      cases made
      exact List.mem_cons_self
  | .expression _ =>
      cases made
      rw [issued, Order.issued]
      split
      · exact List.mem_append_right _ (List.mem_singleton_self _)
      · exact List.mem_singleton_self _
  | .statement (.block _) | .statement (.plain ..) | .program _ | .block _ | .arm _ =>
      cases made
      exact List.mem_singleton_self _

namespace Making.TakesPlace

variable {making : Making} {bench next : Workbench}

/-- One order gives out the next lines. -/
theorem issued (takes : making.TakesPlace bench next) :
    bench.supply.Issued making.issued next.supply := by
  obtain ⟨ready, done, supply, _, made, _, rfl⟩ := takes.exists_ready
  have issues := making.order.issues_piece made
  rw [supply] at issues
  exact issues

/-- A node stands on one of the lines that are given out when it is made. -/
theorem line_of_node (takes : making.TakesPlace bench next) {node : Node}
    (made : making.node? = some node) :
    bench.supply.line < node.span.start.line ∧ node.span.start.line ≤ next.supply.line := by
  have among := making.span_mem_issued made
  rw [takes.issued.spans_eq] at among
  obtain ⟨line, drawn, isSpan⟩ := List.mem_map.mp among
  have bounds := List.mem_range'_1.mp drawn
  rw [← isSpan, takes.issued.line_eq]
  change bench.supply.line < line ∧ line ≤ _
  omega

end Making.TakesPlace

/-! ## Runs -/

theorem Span.onLine_injective : Function.Injective Span.onLine :=
  fun _ _ same => congrArg (·.start.line) same

/-- The places of the nodes are among those that have been given out, in the same
order. -/
theorem map_span_nodesMade_sublist (makings : List Making) :
    ((nodesMade makings).map Node.span).Sublist (makings.flatMap Making.issued) := by
  induction makings with
  | nil => exact .refl _
  | cons making others ih =>
      rw [List.flatMap_cons]
      cases made : making.node? with
      | none =>
          rw [nodesMade, List.filterMap_cons_none made]
          exact ih.trans (List.sublist_append_right _ _)
      | some node =>
          rw [nodesMade, List.filterMap_cons_some made, List.map_cons]
          exact (List.singleton_sublist.mpr (making.span_mem_issued made)).append ih

namespace Workbench

variable {bench : Workbench} {makings : List Making}

/-- A run gives out the lines from the first one on. -/
theorem IsReachedBy.issued (reached : bench.IsReachedBy makings) :
    Supply.full.Issued (makings.flatMap Making.issued) bench.supply := by
  induction reached with
  | initial => exact ⟨rfl, rfl⟩
  | concat _ takes ih =>
      rw [List.flatMap_append, List.flatMap_singleton]
      exact ih.trans takes.issued

/-- **What has been given out is one span on each of the first lines**, in their
order. -/
theorem IsReachedBy.issued_eq (reached : bench.IsReachedBy makings) :
    makings.flatMap Making.issued = (List.range' 1 bench.supply.line).map Span.onLine := by
  have lines : bench.supply.line = (makings.flatMap Making.issued).length :=
    reached.issued.line_eq.trans (Nat.zero_add _)
  rw [lines]
  exact reached.issued.spans_eq

theorem IsReachedBy.nodup_issued (reached : bench.IsReachedBy makings) :
    (makings.flatMap Making.issued).Nodup := by
  rw [reached.issued_eq]
  exact List.Nodup.map Span.onLine_injective List.nodup_range'

/-- The nodes that have been made stand on lines that have been given out. -/
theorem IsReachedBy.line_le (reached : bench.IsReachedBy makings) {node : Node}
    (made : node ∈ nodesMade makings) : node.span.start.line ≤ bench.supply.line := by
  have among := (map_span_nodesMade_sublist makings).subset (List.mem_map_of_mem made)
  rw [reached.issued_eq] at among
  obtain ⟨line, drawn, isSpan⟩ := List.mem_map.mp among
  have bounds := List.mem_range'_1.mp drawn
  rw [← isSpan]
  change line ≤ _
  omega

/-- No more identities than lines have been given out, since every node has got one of
the lines. -/
theorem IsReachedBy.next_le_line (reached : bench.IsReachedBy makings) :
    bench.supply.ids.next ≤ bench.supply.line := by
  have listed := (map_span_nodesMade_sublist makings).length_le
  rwa [reached.issued_eq, List.length_map, List.length_map, List.length_range',
    ← reached.holds.next_eq] at listed

/-- A node stands on a later line than the nodes directly inside of it. -/
theorem IsReachedBy.line_lt_of_mem_inside (reached : bench.IsReachedBy makings) :
    ∀ node ∈ nodesMade makings, ∀ part ∈ node.inside,
      part.span.start.line < node.span.start.line := by
  induction reached with
  | initial =>
      intro _ member
      cases member
  | @concat bench _ makings making reached takes ih =>
      intro node member part isPart
      rw [nodesMade_concat] at member
      rcases List.mem_append.mp member with old | new
      · exact ih node old part isPart
      · have made : making.node? = some node := Option.mem_toList.mp new
        have makes : making.order.makesNode = true := by
          rw [← takes.isSome_node?, made, Option.isSome_some]
        obtain ⟨_, kept, isNode, _, _, used, _⟩ := takes.effect makes
        obtain rfl := Option.some.inj (made.symm.trans isNode)
        -- What is inside was live, so it was made, and its line given out, before.
        have before := reached.holds.live_subset (used.mem_iff.mpr (List.mem_append_left _ isPart))
        exact (reached.line_le before).trans_lt (takes.line_of_node made).1

/-- The nodes of a program that has been made are told apart by their spans. -/
theorem IsReachedBy.nodup_spans (reached : bench.IsReachedBy makings) {program : Program}
    (made : .program program ∈ nodesMade makings) :
    (program.nodes.labels.map Node.span).Nodup := by
  have all : ((nodesMade makings).map Node.span).Nodup :=
    reached.nodup_issued.sublist (map_span_nodesMade_sublist makings)
  obtain ⟨among, same, listed⟩ := reached.holds.subperm_labels made
  rw [← (same.map Node.span).nodup_iff]
  exact all.sublist (listed.map Node.span)

/-- **Diagnostics of programs from a builder can be told apart by their places.**
When orders are carried out one after another at a new workbench, and every node
that an order uses is the result of an earlier order and used once:

* the spans that have been given out to nodes and identifiers are one on each of
  the lines 1, 2, 3 and so on, in this order; so no two of them are the same;
* the place of a node is one of those that were given out when it was made;
* every node stands on a later line than any node within it;
* every program that was made can be bound under every policy, and then the
  diagnostics are about different places, each of them the place of exactly one
  declaration of the program, and the previous place is that of exactly one other
  declaration. -/
theorem located_of_isReachedBy (reached : bench.IsReachedBy makings) :
    makings.flatMap Making.issued = (List.range' 1 bench.supply.line).map Span.onLine ∧
    (makings.flatMap Making.issued).map (·.start.line) = List.range' 1 bench.supply.line ∧
    (makings.flatMap Making.issued).Nodup ∧
    (∀ making ∈ makings, ∀ node ∈ making.node?, node.span ∈ making.issued) ∧
    (∀ node ∈ nodesMade makings, ∀ inner : Node, inner.IsWithin node →
      inner.span.start.line < node.span.start.line) ∧
    ∀ program, .program program ∈ nodesMade makings →
      ∀ policy, ∃ tree, program.bind policy = .ok tree ∧
        program.LocatedBy tree.diagnostics.toList := by
  refine ⟨reached.issued_eq, ?_, reached.nodup_issued, ?_, ?_, ?_⟩
  · rw [reached.issued_eq, List.map_map]
    exact List.map_id _
  · exact fun making _ node made => making.span_mem_issued made
  · intro node member inner within
    exact (reached.holds.measure_lt_of_isWithin reached.line_lt_of_mem_inside member within).2
  · intro program made policy
    exact program.exists_located policy (reached.holds.nodup_nodeIds made)
      (reached.nodup_spans made)

end Workbench

/-! ## A sample run -/

namespace Sample

/-- A variable, with its name on the next line. -/
def firstOfTwo : VariableDecl := ⟨⟨0⟩, .onLine 1, ⟨"x", .onLine 2⟩, .int⟩

/-- Another variable of the same name. -/
def secondOfTwo : VariableDecl := ⟨⟨1⟩, .onLine 3, ⟨"x", .onLine 4⟩, .bool⟩

/-- A program with both variables. -/
def twoVariables : Program :=
  ⟨⟨2⟩, .onLine 5, [.variableDecl firstOfTwo, .variableDecl secondOfTwo]⟩

/-- The orders for the program. -/
def makingsOfTwo : List Making :=
  [⟨.variableDecl "x" (.given .int), ⟨some ⟨0⟩, .onLine 1, 1⟩,
      .declaration (.variableDecl firstOfTwo)⟩,
    ⟨.variableDecl "x" (.given .bool), ⟨some ⟨1⟩, .onLine 3, 2⟩,
      .declaration (.variableDecl secondOfTwo)⟩,
    ⟨.program [0, 1], ⟨some ⟨2⟩, .onLine 5, 3⟩, .program twoVariables⟩]

theorem exists_isReachedBy_makingsOfTwo :
    ∃ bench : Workbench, bench.IsReachedBy makingsOfTwo := by
  let first : Option Piece := some (.declaration (.variableDecl firstOfTwo))
  let second : Option Piece := some (.declaration (.variableDecl secondOfTwo))
  have one : (benchAfter 1 2 [first]).IsReachedBy ([] ++ [makingsOfTwo[0]]) :=
    .concat .initial ⟨[], _, rfl, rfl, rfl⟩
  have two : (benchAfter 2 4 [first, second]).IsReachedBy (_ ++ [makingsOfTwo[1]]) :=
    .concat one ⟨[], _, rfl, rfl, rfl⟩
  have three : (benchAfter 3 5 [none, none, some (.program twoVariables)]).IsReachedBy
      (_ ++ [makingsOfTwo[2]]) := .concat two ⟨[], _, rfl, rfl, rfl⟩
  exact ⟨_, three⟩

end Sample

open Sample in
/-- Two variables of one name and a program around them get five lines, and the one
diagnostic is about the third line and the first. -/
theorem Workbench.located_of_isReachedBy_two :
    ∃ bench, IsReachedBy bench makingsOfTwo ∧
      makingsOfTwo.flatMap Making.issued =
        [.onLine 1, .onLine 2, .onLine 3, .onLine 4, .onLine 5] ∧
      bench.supply.line = 5 ∧
      ∃ tree, twoVariables.bind .standard = .ok tree ∧
        tree.diagnostics.toList = [.redeclared "x" (.onLine 3) (.onLine 1)] ∧
        twoVariables.LocatedBy tree.diagnostics.toList := by
  obtain ⟨bench, reached⟩ := exists_isReachedBy_makingsOfTwo
  obtain ⟨issued, _, _, _, _, programs⟩ := located_of_isReachedBy reached
  have made : Node.program twoVariables ∈ nodesMade makingsOfTwo :=
    List.mem_of_getLast? rfl
  have lines : bench.supply.line = 5 := by
    have counted := congrArg List.length issued
    rw [List.length_map, List.length_range'] at counted
    exact counted.symm
  obtain ⟨tree, bound, located⟩ := programs _ made .standard
  obtain ⟨same, boundToo, record⟩ :=
    Program.exists_record .standard (reached.holds.nodup_nodeIds made)
  obtain rfl := Except.ok.inj (boundToo.symm.trans bound)
  refine ⟨bench, reached, rfl, lines, same, bound, ?_, located⟩
  rw [record.diagnostics_eq]
  decide

end DecafScopes
