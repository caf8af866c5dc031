import Mathlib.Data.List.Forall2
import Mathlib.Data.List.Nodup
import DecafScopes.Proofs.Outline.Placement
import DecafScopes.Proofs.Outline.Unfolding

/-!
# The nodes around a node

A program has a node inside of others when a path of nodes leads to it, each of
them directly inside the one before (`Program.HasNode`).  This is said of the
syntax alone.  The occurrences in the outline of a program are exactly these
nodes, each with the openers among the nodes around it
(`Program.exists_occurrence`, `Program.exists_hasNode`).
-/

set_option autoImplicit false

namespace DecafScopes

/-- A node of a program with all nodes that it is written in, the innermost
first. -/
inductive Program.HasNode (program : Program) : Node → List Node → Prop where
  /-- The program itself is written in nothing. -/
  | whole : HasNode program (.program program) []
  | part {node part : Node} {around : List Node} :
      HasNode program node around → part ∈ node.inside → HasNode program part (node :: around)

/-- **Related programs have related nodes**, with related nodes around them, if what
is directly inside of related nodes is related. -/
theorem Program.HasNode.exists_related {related : Node → Node → Prop} {program other : Program}
    (whole : related (.program program) (.program other)) {node : Node} {around : List Node}
    (has : program.HasNode node around)
    (inside : ∀ outer ∈ around, ∀ outer', related outer outer' →
      ∀ part ∈ outer.inside, ∃ part' ∈ outer'.inside, related part part') :
    ∃ node' around', other.HasNode node' around' ∧ related node node' ∧
      List.Forall₂ related around around' := by
  induction has with
  | whole => exact ⟨_, [], .whole, whole, .nil⟩
  | @part node part around _ member ih =>
      obtain ⟨node', around', has', here, nested⟩ :=
        ih fun outer listed => inside outer (List.mem_cons_of_mem _ listed)
      obtain ⟨part', member', same⟩ := inside node List.mem_cons_self node' here part member
      exact ⟨part', node' :: around', .part has' member', same, .cons here nested⟩

/-- An occurrence is that of a node: it has the openers among the nodes around
it, and every opener has as its parts what is written directly in it. -/
structure Occurrence.IsOf (occurrence : Occurrence) (node : Node) (around : List Node) :
    Prop where
  node_eq : occurrence.entry.node = node
  around_eq : occurrence.around.map (·.entry.node) = around.filter (·.opens?.isSome)
  parts_eq : ∀ opener ∈ occurrence.around,
    opener.parts.roots.map Entry.node = opener.entry.node.inside

namespace Forest

variable {starting : List Node} {forest : Forest Node}

/-- The roots of a forest occur in it with nothing but the outer openers around. -/
theorem exists_occurrence_of_root (unfolds : forest.Unfolds Node.inside starting) (place : Place)
    (outer : List Opener) {root : Node} (member : root ∈ starting) :
    ∃ occurrence ∈ (forest.placed place).occurrences outer,
      occurrence.entry.node = root ∧ occurrence.around = outer := by
  induction unfolds generalizing place with
  | nil => cases member
  | node _ _ _ right =>
      rw [placed, occurrences]
      rcases List.mem_cons.mp member with rfl | further
      · exact ⟨_, List.mem_cons_self, rfl, rfl⟩
      · obtain ⟨occurrence, found, same⟩ := right _ further
        exact ⟨occurrence, List.mem_cons_of_mem _ (List.mem_append_right _ found), same⟩

/-- What is directly inside a node that occurs in a forest occurs in it too. -/
theorem exists_occurrence_of_inside (unfolds : forest.Unfolds Node.inside starting) (place : Place)
    (outer : List Opener) {occurrence : Occurrence}
    (occurs : occurrence ∈ (forest.placed place).occurrences outer) {part : Node}
    (member : part ∈ occurrence.entry.node.inside) :
    ∃ parts, parts.roots.map Entry.node = occurrence.entry.node.inside ∧
      ∃ inner ∈ (forest.placed place).occurrences outer, inner.entry.node = part ∧
        inner.around = occurrence.entry.aroundParts parts occurrence.around := by
  induction unfolds generalizing place outer with
  | nil => cases occurs
  | @node label parts rest _ unfolded _ below right =>
      rw [placed, occurrences] at occurs ⊢
      rcases List.mem_cons.mp occurs with rfl | further
      · obtain ⟨inner, found, same, around⟩ := exists_occurrence_of_root unfolded
          (place.after label) (Entry.aroundParts ⟨label, place⟩ (parts.placed (place.after label))
            outer) member
        refine ⟨parts.placed (place.after label), ?_, inner, ?_, same, around⟩
        · rw [map_node_roots_placed, unfolded.roots_eq]
        · exact List.mem_cons_of_mem _ (List.mem_append_left _ found)
      · rcases List.mem_append.mp further with inParts | inRest
        · obtain ⟨whole, listed, inner, found, same⟩ := below _ _ inParts
          exact ⟨whole, listed, inner, List.mem_cons_of_mem _ (List.mem_append_left _ found), same⟩
        · obtain ⟨whole, listed, inner, found, same⟩ := right _ _ inRest
          exact ⟨whole, listed, inner, List.mem_cons_of_mem _ (List.mem_append_right _ found),
            same⟩

/-- The parts of an opener in a forest are what is written directly in it. -/
theorem map_node_roots_of_mem_openers (unfolds : forest.Unfolds Node.inside starting)
    {place : Place} {opener : Opener} (member : opener ∈ (forest.placed place).openers) :
    opener.parts.roots.map Entry.node = opener.entry.node.inside := by
  induction unfolds generalizing place with
  | nil => cases member
  | @node label parts rest _ unfolded _ below right =>
      rw [placed, openers] at member
      rcases List.mem_append.mp member with here | further
      · split at here
        · rw [List.mem_singleton.mp here, map_node_roots_placed, unfolded.roots_eq]
        · cases here
      · exact (List.mem_append.mp further).elim below right

/-- Every occurrence in a forest is that of a node of the program, if the roots
of the forest are nodes of the program and `outer` is around them. -/
theorem exists_hasNode_of_occurrence {program : Program}
    (unfolds : forest.Unfolds Node.inside starting) (place : Place) {outer : List Opener}
    (around : List Node) (known : ∀ root ∈ starting, program.HasNode root around)
    (listed : outer.map (·.entry.node) = around.filter (·.opens?.isSome))
    (complete : ∀ opener ∈ outer, opener.parts.roots.map Entry.node = opener.entry.node.inside)
    {occurrence : Occurrence} (occurs : occurrence ∈ (forest.placed place).occurrences outer) :
    ∃ nodes, program.HasNode occurrence.entry.node nodes ∧
      occurrence.IsOf occurrence.entry.node nodes := by
  induction unfolds generalizing place outer around with
  | nil => cases occurs
  | @node label parts rest _ unfolded _ below right =>
      have here := known label List.mem_cons_self
      rw [placed, occurrences] at occurs
      rcases List.mem_cons.mp occurs with rfl | further
      · exact ⟨around, here, rfl, listed, complete⟩
      · rcases List.mem_append.mp further with inParts | inRest
        · refine below _ _ (fun part member => here.part member) ?_ ?_ inParts
          · rw [List.filter_cons, ← listed]
            unfold Entry.aroundParts
            split <;> rfl
          · unfold Entry.aroundParts
            split
            · intro opener member
              rcases List.mem_cons.mp member with rfl | old
              · rw [map_node_roots_placed, unfolded.roots_eq]
              · exact complete opener old
            · exact complete
        · exact right _ _ (fun root member => known root (List.mem_cons_of_mem _ member)) listed
            complete inRest

end Forest

/-- A node that is a declaration has the identity of the declaration. -/
theorem Entry.id_of_declared? (entry : Entry) {declared : Declared}
    (declares : entry.declared? = some declared) : entry.id = declared.declaration.id := by
  obtain ⟨declaration, isDeclaration, rfl⟩ := Option.map_eq_some_iff.mp declares
  unfold Entry.id
  cases node : entry.node with
  | declaration _ =>
      rw [node] at isDeclaration
      cases isDeclaration
      rfl
  | program _ | block _ | statement _ | arm _ | expression _ =>
      rw [node] at isDeclaration
      cases isDeclaration

namespace Program

variable {program : Program}

/-- **Every node of a program occurs in its outline**, with the openers among the
nodes around it. -/
theorem exists_occurrence {node : Node} {around : List Node}
    (has : program.HasNode node around) :
    ∃ occurrence ∈ program.occurrences, occurrence.IsOf node around := by
  induction has with
  | whole =>
      obtain ⟨occurrence, found, same, outermost⟩ :=
        Forest.exists_occurrence_of_root program.unfolds_nodes (Place.start 0) []
          (List.mem_singleton_self _)
      refine ⟨occurrence, found, same, ?_, ?_⟩
      · rw [outermost]
        rfl
      · rw [outermost]
        intro opener member
        cases member
  | @part outside _ around _ member ih =>
      obtain ⟨occurrence, found, isOf⟩ := ih
      rw [← isOf.node_eq] at member
      obtain ⟨parts, complete, inner, occurs, same, nested⟩ :=
        Forest.exists_occurrence_of_inside program.unfolds_nodes (Place.start 0) [] found member
      refine ⟨inner, occurs, same, ?_, ?_⟩
      · rw [nested, List.filter_cons, ← isOf.around_eq, ← isOf.node_eq]
        unfold Entry.aroundParts
        split <;> rfl
      · rw [nested]
        unfold Entry.aroundParts
        split
        · intro opener listed
          rcases List.mem_cons.mp listed with rfl | old
          · exact complete
          · exact isOf.parts_eq opener old
        · exact isOf.parts_eq

/-- **Every occurrence in the outline of a program is that of a node of it.** -/
theorem exists_hasNode {occurrence : Occurrence} (occurs : occurrence ∈ program.occurrences) :
    ∃ around, program.HasNode occurrence.entry.node around ∧
      occurrence.IsOf occurrence.entry.node around := by
  refine Forest.exists_hasNode_of_occurrence program.unfolds_nodes (Place.start 0) [] ?_ rfl ?_
    occurs
  · intro root member
    rw [List.mem_singleton.mp member]
    exact .whole
  · intro opener member
    cases member

/-- The identities in the outline of a program are those of its nodes. -/
theorem map_id_outline (program : Program) :
    program.outline.labels.map Entry.id = program.nodeIds := by
  rw [nodeIds, ← Forest.map_node_labels_placed program.nodes (Place.start 0), List.map_map]
  rfl

/-- A declaration stands at one site only, if nodes have distinct identities. -/
theorem eq_of_mem_declared (distinct : program.nodeIds.Nodup) {first second : Declared}
    (isFirst : first ∈ program.declared) (isSecond : second ∈ program.declared)
    (same : first.declaration = second.declaration) : first = second := by
  rw [← map_id_outline] at distinct
  obtain ⟨entry, listed, declares⟩ := List.mem_filterMap.mp isFirst
  obtain ⟨other, listedToo, declaresToo⟩ := List.mem_filterMap.mp isSecond
  have sameEntry : entry = other := by
    apply List.inj_on_of_nodup_map distinct listed listedToo
    rw [entry.id_of_declared? declares, other.id_of_declared? declaresToo, same]
  rw [sameEntry, declaresToo] at declares
  exact (Option.some.inj declares).symm

/-- The occurrences in a program, as nodes, are its nodes in source order. -/
theorem map_node_occurrences (program : Program) :
    program.occurrences.map (·.entry.node) = program.nodes.labels := by
  have entries := Forest.map_entry_occurrences program.outline []
  have nodes := Forest.map_node_labels_placed program.nodes (Place.start 0)
  rw [← nodes, ← outlineIn, ← outline, ← entries, List.map_map]
  rfl

/-- The nodes in the forest of a program are the nodes that it has. -/
theorem mem_labels_iff {node : Node} :
    node ∈ program.nodes.labels ↔ ∃ around, program.HasNode node around := by
  rw [← map_node_occurrences, List.mem_map]
  constructor
  · rintro ⟨occurrence, occurs, rfl⟩
    obtain ⟨around, has, _⟩ := exists_hasNode occurs
    exact ⟨around, has⟩
  · rintro ⟨around, has⟩
    obtain ⟨occurrence, occurs, isOf⟩ := exists_occurrence has
    exact ⟨occurrence, occurs, isOf.node_eq⟩

end Program

end DecafScopes
