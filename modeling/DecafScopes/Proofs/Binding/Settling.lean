import DecafScopes.Proofs.Binding.Beginnings
import DecafScopes.Proofs.Binding.Narration
import DecafScopes.Proofs.Binding.Preparation

/-!
# Tables are complete before anything nested is visited

When a scope is opened, the tables of the scopes around it have their final contents, and
when a piece of code is bound, so has the table of its own scope; only the global scope may
still get names.  A lookup that is made while the pass is going on, at the moment when a
piece of code is bound, therefore finds what it will find in the end, unless it has to look
into the global scope (`Program.complete_tables`).
-/

set_option autoImplicit false

namespace DecafScopes

/-- The table of a scope has its final contents: none of the steps to come declares anything
there, and the table is that of the final tree. -/
structure ScopeTree.Complete (tree final : ScopeTree) (later : List Step) (number : Nat) :
    Prop where
  undeclared : ∀ declared, Step.declare number declared ∉ later
  table_eq : ∃ table, (tree.scope number).map Scope.table = .ok table ∧
    (final.scope number).map Scope.table = .ok table

/-- What can be seen from a scope, through the scopes of `chain`, is settled up to the global
scope. -/
structure ScopeTree.SettledAt (tree final : ScopeTree) (later : List Step) (number : Nat)
    (chain : List Nat) : Prop where
  scopeChain_eq : tree.scopeChain number = .ok chain
  scopeChain_final : final.scopeChain number = .ok chain
  complete : ∀ outer ∈ chain, outer ≠ root → tree.Complete final later outer
  /-- What some other scope than the global one holds in the end is found already. -/
  lookupWithScope?_eq : ∀ name, (∃ holder ∈ final.holdersAmong chain name, holder ≠ root) →
    tree.lookupWithScope? number name = final.lookupWithScope? number name
  lookup?_eq : ∀ name, (∃ holder ∈ final.holdersAmong chain name, holder ≠ root) →
    tree.lookup? number name = final.lookup? number name

namespace ScopeTree.IsResult

variable {redeclaration : Redeclaration} {before after : List Step} {tree final : ScopeTree}

/-- A scope in which nothing more is declared is complete. -/
theorem complete (result : tree.IsResult redeclaration before)
    (later : final.IsResult redeclaration (before ++ after)) {number : Nat}
    (within : number < tree.size) (quiet : Step.declaredIn number after = []) :
    tree.Complete final after number := by
  have found := Array.getElem?_eq_getElem within
  obtain ⟨scope', found', _⟩ := result.exists_later later number _ found
  have same := result.table_later later quiet found found'
  refine ⟨Step.declaredIn_eq_nil_iff.mp quiet, tree.scopes[number].table, ?_, ?_⟩
  · rw [scope_eq_ok_iff.mpr found]
    rfl
  · rw [scope_eq_ok_iff.mpr found', ← same]
    rfl

end ScopeTree.IsResult

namespace Program

variable {policy : BindingPolicy} {program : Program}

/-- The scopes around what stands in some openers are those of the openers and the global
one, at the end of a pass and at every moment since there is the innermost of them. -/
theorem scopeChain_eq_of_surround {before after : List Step} {tree final : ScopeTree}
    (isPart : program.steps policy = before ++ after)
    (result : tree.IsResult policy.redeclaration before)
    (later : final.IsResult policy.redeclaration (program.steps policy)) {around : List Opener}
    (surround : program.Surround around) (within : scopeInside around < tree.size) :
    tree.scopeChain (scopeInside around) = .ok (around.map Opener.number ++ [ScopeTree.root]) ∧
      final.scopeChain (scopeInside around) =
        .ok (around.map Opener.number ++ [ScopeTree.root]) := by
  obtain ⟨scopes, way, numbers, _⟩ := later.exists_outward surround
  have atLast : final.scopeChain (scopeInside around) = _ :=
    ScopeTree.scopeChain_eq way
  rw [numbers] at atLast
  rw [isPart] at later
  exact ⟨(result.scopeChain_later later within).symm.trans atLast, atLast⟩

/-- No opener opened the global scope. -/
theorem scopeInside_ne_root {around : List Opener} (surround : program.Surround around)
    (nonempty : around ≠ []) : scopeInside around ≠ ScopeTree.root := by
  cases surround with
  | nil => exact absurd rfl nonempty
  | cons opens occurs _ =>
      obtain ⟨kind, isKind⟩ := Option.isSome_iff_exists.mp opens
      have listed := mem_numbered_steps .standard occurs isKind
      exact Nat.ne_of_gt (List.mem_zipIdx listed).1

/-- A node occurs once. -/
theorem occurrence_eq_of_id_eq (distinct : program.nodeIds.Nodup) {occurrence other : Occurrence}
    (occurs : occurrence ∈ program.occurrences) (occursToo : other ∈ program.occurrences)
    (same : occurrence.entry.id = other.entry.id) : occurrence = other := by
  rw [← map_id_occurrences] at distinct
  exact List.inj_on_of_nodup_map distinct occurs occursToo same

/-- What can be seen from the scope inside of some openers is settled if nothing more is
declared in the scopes of the openers. -/
theorem settledAt {before after : List Step} {tree final : ScopeTree}
    (isPart : program.steps policy = before ++ after) (wellFormed : tree.WellFormed)
    (result : tree.IsResult policy.redeclaration before) (wellFormed' : final.WellFormed)
    (later : final.IsResult policy.redeclaration (program.steps policy)) {around : List Opener}
    (surround : program.Surround around) (within : scopeInside around < tree.size)
    (spared : Step.SpareAll around after) :
    tree.SettledAt final after (scopeInside around)
      (around.map Opener.number ++ [ScopeTree.root]) := by
  obtain ⟨now, atLast⟩ := scopeChain_eq_of_surround isPart result later surround within
  have quiet : ∀ number ∈ around.map Opener.number ++ [ScopeTree.root],
      number ≠ ScopeTree.root →
      number < tree.size ∧ Step.declaredIn number after = [] := by
    intro number listed notRoot
    rcases List.mem_append.mp listed with isOpener | isRoot
    · obtain ⟨opener, member, rfl⟩ := List.mem_map.mp isOpener
      exact ⟨(later.number_le_scopeInside surround member).trans_lt within, spared opener member⟩
    · exact absurd (List.mem_singleton.mp isRoot) notRoot
  obtain ⟨scopes, way, leads⟩ := wellFormed.exists_outward result.parentsFirst within
  rw [isPart] at later
  obtain ⟨scopes', way', _⟩ := wellFormed'.exists_outward later.parentsFirst
    (within.trans_le (result.size_le later))
  have numbers := Except.ok.inj ((ScopeTree.scopeChain_eq way).symm.trans now)
  have numbers' := Except.ok.inj ((ScopeTree.scopeChain_eq way').symm.trans atLast)
  have same : ∀ name, (∃ holder ∈ final.holdersAmong
      (around.map Opener.number ++ [ScopeTree.root]) name, holder ≠ ScopeTree.root) →
      tree.lookupWithScope? (scopeInside around) name =
        final.lookupWithScope? (scopeInside around) name := by
    intro name held
    rw [← numbers] at held quiet
    refine wellFormed.lookupWithScope?_congr_of_held wellFormed' way way'
      (numbers'.trans numbers.symm) leads.descending ?_ held
    intro number listed notRoot
    obtain ⟨inTree, nothing⟩ := quiet number listed notRoot
    exact (result.lookupHere?_later later nothing inTree name).symm
  constructor
  case scopeChain_eq => exact now
  case scopeChain_final => exact atLast
  case complete =>
    intro number listed notRoot
    obtain ⟨inTree, nothing⟩ := quiet number listed notRoot
    exact result.complete later inTree nothing
  case lookupWithScope?_eq => exact same
  case lookup?_eq =>
    intro name held
    rw [ScopeTree.lookup?, ScopeTree.lookup?, same name held]

/-- **Tables are complete before anything nested is visited.**  Once a scope has been opened,
nothing more is declared in the scopes around it, the global one excepted.  When a piece of
code is bound, the same holds of its own scope and of all scopes around that; so what some
scope besides the global one holds in the end is found already. -/
theorem complete_tables (policy : BindingPolicy) {program : Program}
    (distinct : program.nodeIds.Nodup) :
    ∃ final, program.bind policy = .ok final ∧
      (∀ before parent opener kind owner after,
        program.steps policy = before ++ .openScope parent opener kind owner :: after →
        ∃ state number further,
          LoggedTree.initial.performAll policy.redeclaration
            (before ++ [.openScope parent opener kind owner]) = .ok state ∧
          state.tree.openedBy? opener = some number ∧
          state.tree.scopeChain number = .ok (number :: further) ∧
          final.scopeChain number = .ok (number :: further) ∧
          state.tree.SettledAt final after parent further) ∧
      ∀ before id scope after, program.steps policy = before ++ .bind id scope :: after →
        ∀ node around, program.HasNode node around → node.isCode → node.id = id →
        ∃ state chain, LoggedTree.initial.performAll policy.redeclaration before = .ok state ∧
          final.scopeAround? id = some scope ∧ scope ≠ ScopeTree.root ∧
          state.tree.SettledAt final (.bind id scope :: after) scope chain := by
  obtain ⟨final, bound, later⟩ := exists_bind policy distinct
  have wellFormed' := wellFormed_bind bound
  refine ⟨final, bound, ?openings, ?bindings⟩
  case openings =>
    intro before parent opener kind owner after isPart
    obtain ⟨occurrence, occurs, isOpening, spared⟩ := prepared_of_append isPart
    have isPart' : program.steps policy =
        before ++ [.openScope parent opener kind owner] ++ after := by
      rw [isPart, List.append_assoc, List.singleton_append]
    obtain ⟨state, run, result, _⟩ := exists_isLog_of_append distinct isPart'
    have wellFormed := LoggedTree.wellFormed_performAll ScopeTree.WellFormed.initial run
    -- The new scope has the next number and lies in its parent.
    have listed : (⟨parent, opener, kind, owner⟩, (Step.openings before).length + 1) ∈
        Step.numbered (before ++ [.openScope parent opener kind owner]) := by
      rw [Step.numbered_concat_openScope]
      exact List.mem_append_right _ (List.mem_singleton_self _)
    obtain ⟨inTree, chain⟩ := result.scopeChain_of_numbered listed
    obtain rfl : occurrence.scope = parent := by
      obtain ⟨_, _, isThis⟩ := Option.map_eq_some_iff.mp isOpening
      exact congrArg Opening.parent isThis
    have settled : state.tree.SettledAt final after occurrence.scope _ :=
      settledAt isPart' wellFormed result wellFormed' later (program.surround occurs)
        ((result.parent_lt _ _ listed).trans inTree) spared
    rw [settled.scopeChain_eq] at chain
    refine ⟨state, _, _, run, (result.opened_iff _ _).mpr ⟨_, listed, rfl⟩, chain, ?_, settled⟩
    rw [isPart'] at later
    exact (result.scopeChain_later later inTree).trans chain
  case bindings =>
    intro before id scope after isPart node around has code isId
    obtain ⟨occurrence, occurs, isBinding, ready⟩ := prepared_of_append isPart
    obtain ⟨other, occursToo, isOf⟩ := exists_occurrence has
    obtain ⟨rfl, rfl⟩ := Prod.mk.inj isBinding
    have sameId : occurrence.entry.id = other.entry.id :=
      isId.symm.trans (congrArg Node.id isOf.node_eq.symm)
    rw [← isOf.node_eq, ← occurrence_eq_of_id_eq distinct occurs occursToo sameId] at code
    obtain ⟨nonempty, spared⟩ := ready code
    obtain ⟨state, run, result, _⟩ := exists_isLog_of_append distinct isPart
    have wellFormed := LoggedTree.wellFormed_performAll ScopeTree.WellFormed.initial run
    have grounded := allGrounded_steps policy program
    rw [isPart, Step.allGrounded_append] at grounded
    have within : occurrence.scope < state.tree.size := by
      rw [result.size_eq]
      exact Nat.lt_succ_of_le grounded.2.1
    exact ⟨state, _, run, later.scopeAround?_eq occurs,
      scopeInside_ne_root (program.surround occurs) nonempty,
      settledAt isPart wellFormed result wellFormed' later (program.surround occurs) within spared⟩

/-- When the test of the sample loop is bound, the variable of the loop is found as it is in
the end. -/
theorem complete_tables_sample :
    Sample.program.nodeIds.Nodup ∧
      ∃ final before after state, Sample.program.bind .standard = .ok final ∧
        Sample.program.steps .standard = before ++ .bind ⟨10⟩ 4 :: after ∧
        LoggedTree.initial.performAll .lastWins before = .ok state ∧
        state.tree.lookup? 4 "i" = final.lookup? 4 "i" := by
  have distinct : Sample.program.nodeIds.Nodup := by decide
  have inClass : Sample.program.HasNode (.declaration (.classDecl Sample.classDecl)) _ :=
    .part .whole (List.mem_of_getElem? (i := 1) rfl)
  have inMethod : Sample.program.HasNode (.block Sample.methodBody) _ :=
    .part (.part inClass (List.mem_of_getElem? (i := 2) rfl)) (List.mem_of_getElem? (i := 1) rfl)
  have has : Sample.program.HasNode (.expression (Sample.use 10 "i")) _ :=
    .part (.part inMethod (List.mem_of_getElem? (i := 0) rfl)) (List.mem_of_getElem? (i := 1) rfl)
  obtain ⟨before, after, isPart⟩ : ∃ before after,
      Sample.program.steps .standard = before ++ .bind ⟨10⟩ 4 :: after := by
    apply List.append_of_mem
    have bound : ((⟨10⟩, 4) : NodeId × Nat) ∈ Step.bindings (Sample.program.steps .standard) := by
      decide
    obtain ⟨step, listed, isStep⟩ := List.mem_filterMap.mp bound
    cases step with
    | bind node scope =>
        cases isStep
        exact listed
    | declare scope declared => cases isStep
    | openScope parent opener kind owner => cases isStep
  obtain ⟨final, bound, _, bindings⟩ := complete_tables .standard distinct
  obtain ⟨state, chain, run, _, _, settled⟩ :=
    bindings before ⟨10⟩ 4 after isPart _ _ has rfl rfl
  obtain ⟨final', bound', result⟩ := exists_bind .standard distinct
  cases bound.symm.trans bound'
  have within : 4 < final.size := by
    rw [result.size_eq]
    decide
  refine ⟨distinct, final, before, after, state, bound, isPart, run,
    settled.lookup?_eq "i" ⟨4, ⟨?_, ?_⟩, by decide⟩⟩
  · obtain ⟨scopes, way, leads⟩ :=
      (wellFormed_bind bound).exists_outward result.parentsFirst within
    rw [← Except.ok.inj ((ScopeTree.scopeChain_eq way).symm.trans settled.scopeChain_final)]
    exact List.mem_of_head? leads.head?_eq
  · exact ⟨_, result.lookupHere?_eq within "i"⟩

end Program

end DecafScopes
