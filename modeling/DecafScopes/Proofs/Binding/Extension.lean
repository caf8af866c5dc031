import DecafScopes.Proofs.Binding.Beginnings
import DecafScopes.Proofs.Binding.Coverage
import DecafScopes.Proofs.Binding.Resolution
import DecafScopes.Proofs.Outline.Juxtaposition

/-!
# More top-level declarations

A program to which top-level declarations are added at its end is bound like the program
itself, and then the added declarations are gone through (`Program.steps_extendedBy`).  What
is done for them concerns the global scope and scopes that are not there before.

So nothing else changes.  The global scope may get more names and children, and a name that
is found there, or nowhere, may be found elsewhere from now on; everything further inside
stays as it is (`Program.bind_extendedBy`).
-/

set_option autoImplicit false

namespace DecafScopes

namespace Forest

variable (policy : BindingPolicy)

/-- A forest and what is to the right of it are gone through one after the other. -/
theorem steps_append (first second : Forest Entry) (scope : Nat) (visit : Visit) :
    (first.append second).steps policy scope visit =
      first.steps policy scope visit ++ second.steps policy scope visit := by
  induction first with
  | nil => rfl
  | node entry parts rest _ right =>
      rw [append, steps_node, steps_node, right]
      simp only [List.append_assoc]

/-- Scopes are opened in the global scope, or in others that are opened for the same
forest. -/
theorem parent_of_mem_openings (forest : Forest Node) (place : Place) (visit : Visit)
    {opening : Opening}
    (member : opening ∈ Step.openings ((forest.placed place).steps policy ScopeTree.root visit)) :
    opening.parent = ScopeTree.root ∨ place.scope ≤ opening.parent := by
  rw [show ScopeTree.root = scopeInside [] from rfl, openings_steps] at member
  obtain ⟨occurrence, occurs, isOpening⟩ := List.mem_filterMap.mp member
  obtain ⟨kind, _, rfl⟩ := Option.map_eq_some_iff.mp isOpening
  cases around : occurrence.around with
  | nil =>
      left
      rw [Occurrence.scope, around]
      rfl
  | cons opener further =>
      right
      have inner : opener ∈ occurrence.around := around ▸ List.mem_cons_self
      have inForest := (mem_openers_of_mem_around occurs inner).resolve_left List.not_mem_nil
      have listed := List.mem_map_of_mem (f := (·.place.scope))
        (List.mem_map_of_mem (f := Opener.entry) inForest)
      rw [map_entry_openers, numbers_placed] at listed
      rw [Occurrence.scope, around]
      exact (List.mem_range'_1.mp listed).1

end Forest

namespace Program

variable (policy : BindingPolicy) (program : Program) (later : List Declaration)

/-! ## The steps for the added declarations -/

/-- A program with more top-level declarations at its end. -/
def extendedBy : Program :=
  { program with declarations := program.declarations ++ later }

/-- The place behind a program. -/
def behind : Place :=
  program.contents.foldl Place.after (Place.start 0)

/-- The steps for declarations that are added to a program. -/
def furtherSteps : List Step :=
  ((Declaration.nodesList later .nil).placed program.behind).steps policy ScopeTree.root
    (.full true)

theorem contents_extendedBy : (program.extendedBy later).contents =
    program.contents.append (Declaration.nodesList later .nil) :=
  Declaration.nodesList_append program.declarations later

/-- **An extended program is bound like the program itself, and then come the added
declarations.** -/
theorem steps_extendedBy :
    (program.extendedBy later).steps policy =
      program.steps policy ++ program.furtherSteps policy later := by
  rw [steps_eq, steps_eq, contents_extendedBy, Forest.placed_append, Forest.steps_append]
  rfl

theorem nodeIds_extendedBy :
    (program.extendedBy later).nodeIds =
      program.nodeIds ++ (Declaration.nodesList later .nil).labels.map Node.id := by
  have ids (whole : Program) : whole.nodeIds = whole.id :: whole.contents.labels.map Node.id := by
    rw [nodeIds, nodes, Forest.labels, List.map_cons, Forest.labels, List.append_nil]
    rfl
  rw [ids, ids, contents_extendedBy, Forest.labels_append, List.map_append]
  rfl

variable {policy program later}

/-- The place behind a program has the number of the next scope. -/
theorem size_eq_behind {tree : ScopeTree}
    (result : tree.IsResult policy.redeclaration (program.steps policy)) :
    tree.size = program.behind.scope := by
  have opened : (Step.openings ((program.contents.placed (Place.start 0)).steps policy 0
      (.full true))).length = program.contents.openerCount :=
    Forest.length_openings_steps policy program.contents (Place.start 0) [] (.full true)
  rw [result.size_eq, steps_eq, Step.openings_cons, Step.opening?, Option.toList_none,
    List.nil_append, opened, behind, Forest.scope_foldl_after, Nat.add_comm]
  rfl

/-- The added declarations declare nothing in scopes that are there before, except in the
global one. -/
theorem declaredIn_furtherSteps {number : Nat} (notRoot : number ≠ ScopeTree.root)
    (within : number < program.behind.scope) :
    Step.declaredIn number (program.furtherSteps policy later) = [] :=
  Forest.declaredIn_other policy _ program.behind (.full true) notRoot (.inl within)

/-- In the global scope they declare themselves. -/
theorem declaration_mem_of_furtherSteps {declared : Declared}
    (member : declared ∈ Step.declaredIn ScopeTree.root (program.furtherSteps policy later)) :
    declared.declaration ∈ later := by
  have unfolds := Declaration.unfolds_nodesList later .nil
  have parts : Node.AllParts (later.map Node.declaration ++ []) := by
    intro node listed whole isProgram
    rw [List.append_nil] at listed
    obtain ⟨declaration, _, rfl⟩ := List.mem_map.mp listed
    cases isProgram
  have positive : ScopeTree.root < program.behind.scope := by
    rw [behind, Forest.scope_foldl_after]
    exact Nat.lt_of_lt_of_le Nat.zero_lt_one (Nat.le_add_right _ _)
  rw [furtherSteps, Forest.declaredIn_own policy unfolds parts _ _ positive] at member
  have listed := List.mem_map_of_mem (f := Declared.declaration) member
  rw [Visit.declared, Forest.declared, Entry.map_declaration_filterMap_declared?,
    Forest.map_node_roots_placed, unfolds.roots_eq, List.append_nil, List.filterMap_map] at listed
  simpa [Node.declaration?] using listed

/-- Nor do they open a scope in them. -/
theorem parent_of_furtherSteps {opening : Opening}
    (member : opening ∈ Step.openings (program.furtherSteps policy later)) :
    opening.parent = ScopeTree.root ∨ program.behind.scope ≤ opening.parent :=
  Forest.parent_of_mem_openings policy _ program.behind (.full true) member

/-- Only nodes that they bind open scopes. -/
theorem mem_bound_of_furtherSteps {node : NodeId}
    (member : node ∈ Step.openers (program.furtherSteps policy later)) :
    node ∈ Step.bound (program.furtherSteps policy later) := by
  have counted := Forest.count_openers_steps_le policy
    ((Declaration.nodesList later .nil).placed program.behind) [] (.full true) node
  rw [Visit.outstanding_full, List.map_nil, List.count_nil, Nat.zero_add] at counted
  exact List.count_pos_iff.mp ((List.count_pos_iff.mpr member).trans_le counted)

theorem nodup_of_extendedBy (distinct : (program.extendedBy later).nodeIds.Nodup) :
    program.nodeIds.Nodup := by
  rw [nodeIds_extendedBy] at distinct
  exact (List.nodup_append.mp distinct).1

end Program

/-! ## What an extension keeps -/

/-- A tree has become another one by adding top-level declarations to its program. -/
structure ScopeTree.ExtendedBy (redeclaration : Redeclaration) (program : Program)
    (later : List Declaration) (tree extended : ScopeTree) : Prop where
  size_le : tree.size ≤ extended.size
  /-- All scopes but the global one are the same. -/
  scope_eq : ∀ number < tree.size, number ≠ root → extended.scope number = tree.scope number
  /-- The global scope keeps its children and its names.  If the last declaration wins, the
  added declarations take over the names that they declare. -/
  global : ∃ scope scope', tree.scope root = .ok scope ∧ extended.scope root = .ok scope' ∧
    scope' = { scope with children := scope'.children, table := scope'.table } ∧
    scope.children.toList <+: scope'.children.toList ∧
    ∀ name declared, scope.holder? name = some declared →
      ∃ declared', scope'.holder? name = some declared' ∧
        (declared' = declared ∨
          redeclaration = .lastWins ∧ name ∈ later.map Declaration.name)
  scopeAround?_eq : ∀ id ∈ program.nodeIds, extended.scopeAround? id = tree.scopeAround? id
  openedBy?_eq : ∀ id ∈ program.nodeIds, extended.openedBy? id = tree.openedBy? id
  diagnostics_prefix : tree.diagnostics.toList <+: extended.diagnostics.toList
  /-- A name is looked up with another outcome only if the added declarations declare it, and
  it was found in the global scope or not at all. -/
  lookup?_eq : ∀ node around, program.HasNode node around →
    ∃ scope, tree.scopeAround? node.id = some scope ∧ ∀ name,
      (extended.lookupWithScope? scope name = tree.lookupWithScope? scope name ∧
        extended.lookup? scope name = tree.lookup? scope name) ∨
      name ∈ later.map Declaration.name ∧
        (tree.lookupWithScope? scope name = .ok none ∨
          ∃ declared, tree.lookupWithScope? scope name = .ok (some (root, declared)))

namespace ScopeTree.IsResult

variable {policy : BindingPolicy} {program : Program} {later : List Declaration}
  {tree extended : ScopeTree}
  (result : tree.IsResult policy.redeclaration (program.steps policy))
  (result' : extended.IsResult policy.redeclaration
    (program.steps policy ++ program.furtherSteps policy later))

include result result'

/-- All scopes but the global one are the same. -/
theorem scope_extendedBy {number : Nat} (within : number < tree.size) (notRoot : number ≠ root) :
    extended.scope number = tree.scope number := by
  have before : number < program.behind.scope := Program.size_eq_behind result ▸ within
  refine result.scope_later result' (Program.declaredIn_furtherSteps notRoot before) within ?_
  intro opening member isParent
  rcases Program.parent_of_furtherSteps member with isRoot | beyond
  · exact notRoot (isParent.symm.trans isRoot)
  · exact absurd before (Nat.not_lt.mpr (isParent ▸ beyond))

/-- The global scope keeps its names. -/
theorem holder?_extendedBy {scope scope' : Scope} (found : tree.scopes[root]? = some scope)
    (found' : extended.scopes[root]? = some scope') {name : String} {declared : Declared}
    (holds : scope.holder? name = some declared) :
    ∃ declared', scope'.holder? name = some declared' ∧
      (declared' = declared ∨
        policy.redeclaration = .lastWins ∧ name ∈ later.map Declaration.name) := by
  rw [result.holder?_eq found] at holds
  rw [result'.holder?_eq found', Step.declaredIn_append, Redeclaration.winner?_append, holds]
  cases policy.redeclaration with
  | firstWins => exact ⟨declared, Option.some_or, .inl rfl⟩
  | lastWins =>
      cases wins : Redeclaration.winner? .lastWins name
          (Step.declaredIn root (program.furtherSteps policy later)) with
      | none => exact ⟨declared, Option.none_or, .inl rfl⟩
      | some declared' =>
          obtain ⟨member, isName⟩ := Redeclaration.mem_of_winner? wins
          exact ⟨declared', Option.some_or, .inr ⟨rfl, isName ▸
            List.mem_map_of_mem (Program.declaration_mem_of_furtherSteps member)⟩⟩

/-- Nodes of the program open the scopes that they open without the added declarations. -/
theorem openedBy?_extendedBy
    (distinct : (Step.bound (program.steps policy ++ program.furtherSteps policy later)).Nodup)
    {id : NodeId} (member : id ∈ program.nodeIds) :
    extended.openedBy? id = tree.openedBy? id := by
  by_cases opened : (tree.openedBy? id).isSome
  case pos => exact result.openedBy?_later result' opened
  case neg =>
    rw [Option.not_isSome_iff_eq_none.mp opened, Option.eq_none_iff_forall_ne_some]
    intro number opens
    obtain ⟨opening, listed, rfl⟩ := (result'.opened_iff id number).mp opens
    rw [Step.numbered, Step.openings_append, List.zipIdx_append] at listed
    rcases List.mem_append.mp listed with old | new
    · have opens := (result.opened_iff opening.opener number).mpr ⟨opening, old, rfl⟩
      exact opened (by rw [opens, Option.isSome_some])
    -- The added declarations bind what they open scopes for, and nothing is bound twice.
    · have opens := List.mem_map_of_mem (f := Opening.opener) (List.fst_mem_of_mem_zipIdx new)
      obtain ⟨around, boundBefore⟩ :=
        Option.isSome_iff_exists.mp (result.isSome_scopeAround?_iff.mpr member)
      have before := List.mem_map_of_mem (f := Prod.fst)
        ((result.around_iff opening.opener around).mp boundBefore)
      rw [Step.bound_append, List.nodup_append] at distinct
      exact distinct.2.2 _ before _ (Program.mem_bound_of_furtherSteps opens) rfl

/-- Lookups that do not come to the global scope, and lookups of other names than those of the
added declarations, find what they find without these. -/
theorem lookupWithScope?_extendedBy (wellFormed : tree.WellFormed)
    (wellFormed' : extended.WellFormed) {viewpoint : Nat} (within : viewpoint < tree.size)
    (name : String) :
    extended.lookupWithScope? viewpoint name = tree.lookupWithScope? viewpoint name ∨
      name ∈ later.map Declaration.name ∧
        (tree.lookupWithScope? viewpoint name = .ok none ∨
          ∃ declared, tree.lookupWithScope? viewpoint name = .ok (some (root, declared))) := by
  have quiet {number : Nat} (inTree : number < tree.size) (notRoot : number ≠ root) :
      Step.declaredIn number (program.furtherSteps policy later) = [] :=
    Program.declaredIn_furtherSteps notRoot (Program.size_eq_behind result ▸ inTree)
  by_cases declares : name ∈ later.map Declaration.name
  case neg =>
    refine .inl (result.lookupWithScope?_later_of_undeclared result' within ?_)
    intro number inTree declared member isName
    by_cases isRoot : number = root
    · subst isRoot
      exact declares (isName ▸
        List.mem_map_of_mem (Program.declaration_mem_of_furtherSteps member))
    · rw [quiet inTree isRoot] at member
      cases member
  case pos =>
    obtain ⟨scopes, way, leads⟩ := wellFormed.exists_outward result.parentsFirst within
    obtain ⟨scopes', way', _⟩ := wellFormed'.exists_outward result'.parentsFirst
      (within.trans_le (result.size_le result'))
    have chain := result.scopeChain_later result' within
    rw [scopeChain_eq way, scopeChain_eq way', Except.ok.injEq] at chain
    obtain ⟨found, answer⟩ := (everyWalk_returns way).lookupWithScope? name
    cases found with
    | none => exact .inr ⟨declares, .inl answer⟩
    | some place =>
        obtain ⟨holder, declared⟩ := place
        by_cases isRoot : holder = root
        · exact .inr ⟨declares, .inr ⟨declared, isRoot ▸ answer⟩⟩
        left
        rw [answer]
        refine wellFormed.lookupWithScope?_of_agree wellFormed' way way' chain leads.descending ?_
          answer
        intro number listed inner
        obtain ⟨scope, member, rfl⟩ := List.mem_map.mp listed
        have inTree := lt_size_of_getElem? (wellFormed.getElem?_of_mem_outward (by rwa [way]))
        have notRoot : scope.number ≠ root := by
          have := Nat.pos_of_ne_zero isRoot
          exact Nat.ne_of_gt (this.trans_le inner)
        exact result.lookupHere?_later result' (quiet inTree notRoot) inTree name

end ScopeTree.IsResult

namespace Program

/-- **Adding top-level declarations at the end changes nothing but the global scope.** -/
theorem bind_extendedBy (policy : BindingPolicy) {program : Program} {later : List Declaration}
    (distinct : (program.extendedBy later).nodeIds.Nodup) :
    ∃ tree extended, program.bind policy = .ok tree ∧
      (program.extendedBy later).bind policy = .ok extended ∧
      tree.ExtendedBy policy.redeclaration program later extended := by
  obtain ⟨tree, bound, result⟩ := exists_bind policy (nodup_of_extendedBy distinct)
  obtain ⟨extended, bound', result'⟩ := exists_bind policy distinct
  have once : (Step.bound ((program.extendedBy later).steps policy)).Nodup := nodup_bound distinct
  rw [steps_extendedBy] at result' once
  refine ⟨tree, extended, bound, bound', ?_⟩
  constructor
  case size_le => exact result.size_le result'
  case scope_eq => exact fun number => result.scope_extendedBy result'
  case global =>
    obtain ⟨scope, found⟩ : ∃ scope, tree.scopes[ScopeTree.root]? = some scope :=
      ⟨_, result.scope_eq ScopeTree.root⟩
    have kept := result.getElem?_later result' result.size_pos
    rw [found, Option.map_some] at kept
    refine ⟨scope, _, ScopeTree.scope_eq_ok_iff.mpr found, ScopeTree.scope_eq_ok_iff.mpr kept, rfl,
      ?_, fun _ _ => result.holder?_extendedBy result' found kept⟩
    rw [result.children_eq found]
    exact Step.openedIn_prefix _ _ _
  case scopeAround?_eq =>
    intro id member
    exact result.scopeAround?_later result' (result.isSome_scopeAround?_iff.mpr member)
  case openedBy?_eq => exact fun id => result.openedBy?_extendedBy result' once
  case diagnostics_prefix => exact result.diagnostics_prefix result'
  case lookup?_eq =>
    intro node around has
    obtain ⟨occurrence, occurs, isOf⟩ := exists_occurrence has
    have around := result.scopeAround?_eq occurs
    rw [show occurrence.entry.id = node.id from congrArg Node.id isOf.node_eq] at around
    refine ⟨occurrence.scope, around, fun name => ?_⟩
    have within := result.scopeInside_lt_size (program.surround occurs)
    refine (result.lookupWithScope?_extendedBy result' (wellFormed_bind bound)
      (wellFormed_bind bound') within name).imp_left fun same => ⟨same, ?_⟩
    rw [ScopeTree.lookup?, ScopeTree.lookup?, same]

/-- Declaring one more variable after the sample program takes its name over in the global
scope; the class keeps its field with that name. -/
theorem bind_extendedBy_sample :
    (Sample.program.extendedBy [.variableDecl (Sample.var 30 "x")]).nodeIds.Nodup ∧
      ∃ tree extended, Sample.program.bind .standard = .ok tree ∧
        (Sample.program.extendedBy [.variableDecl (Sample.var 30 "x")]).bind .standard =
          .ok extended ∧
        extended.scope 1 = tree.scope 1 ∧
        extended.openedBy? ⟨2⟩ = tree.openedBy? ⟨2⟩ ∧
        tree.diagnostics.toList <+: extended.diagnostics.toList := by
  have distinct : (Sample.program.extendedBy [.variableDecl (Sample.var 30 "x")]).nodeIds.Nodup :=
    by decide
  obtain ⟨tree, extended, bound, bound', kept⟩ := bind_extendedBy .standard distinct
  have opened : 1 < tree.size := by
    obtain ⟨tree', same, result⟩ := exists_bind .standard (nodup_of_extendedBy distinct)
    cases bound.symm.trans same
    rw [result.size_eq]
    decide
  exact ⟨distinct, tree, extended, bound, bound', kept.scope_eq 1 opened (by decide),
    kept.openedBy?_eq ⟨2⟩ (by decide), kept.diagnostics_prefix⟩

end Program

end DecafScopes
