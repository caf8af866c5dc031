import DecafScopes.Binding.Pass
import DecafScopes.Proofs.Binding.Steps
import DecafScopes.Proofs.Scope.Calls

/-!
# What steps lead to

A tree is the result of a sequence of steps if everything in it is what can be
read off the steps (`ScopeTree.IsResult`).  Each step takes the result of what
came before it to the result of one step more, so that steps which use only what
is there can be performed, and bring about their result, as long as no node is
bound twice (`LoggedTree.exists_performAll`).
-/

set_option autoImplicit false

namespace DecafScopes

/-- A tree in which everything is what can be read off the steps that led to
it. -/
structure ScopeTree.IsResult (redeclaration : Redeclaration) (steps : List Step)
    (tree : ScopeTree) : Prop where
  size_eq : tree.size = (Step.openings steps).length + 1
  scope_eq : ∀ number, tree.scopes[number]? = Step.scopeAt? redeclaration steps number
  around_iff : ∀ node number,
    tree.scopeAround? node = some number ↔ (node, number) ∈ Step.bindings steps
  bindingCount_eq : tree.bindingCount = (Step.bindings steps).length
  opened_iff : ∀ node number, tree.openedBy? node = some number ↔
    ∃ opening, (opening, number) ∈ Step.numbered steps ∧ opening.opener = node
  diagnostics_eq :
    tree.diagnostics.toList = redeclaration.refusals (Step.registrations steps)
  /-- Every scope is opened in one that has a smaller number. -/
  parent_lt : ∀ opening number, (opening, number) ∈ Step.numbered steps → opening.parent < number
  /-- Declarations are entered only into scopes that have been opened. -/
  declaredIn_eq_nil : ∀ number, (Step.openings steps).length < number →
    Step.declaredIn number steps = []

namespace ScopeTree.IsResult

variable {redeclaration : Redeclaration} {steps : List Step} {tree : ScopeTree}

/-- The tree with only the global scope is the result of no steps. -/
theorem initial (redeclaration : Redeclaration) :
    ScopeTree.initial.IsResult redeclaration [] where
  size_eq := rfl
  scope_eq number := by
    cases number with
    | zero => rfl
    | succ index => simp [ScopeTree.initial, Step.scopeAt?]
  around_iff node number := by
    simp [scopeAround?, ScopeTree.initial]
  bindingCount_eq := rfl
  opened_iff node number := by
    simp [openedBy?, ScopeTree.initial, Step.numbered]
  diagnostics_eq := rfl
  parent_lt opening number member := by simp [Step.numbered] at member
  declaredIn_eq_nil _ _ := rfl

theorem scopeAround?_eq_none (result : tree.IsResult redeclaration steps) {node : NodeId}
    (fresh : node ∉ Step.bound steps) : tree.scopeAround? node = none := by
  cases found : tree.scopeAround? node with
  | none => rfl
  | some number =>
      have listed := (result.around_iff node number).mp found
      exact absurd (List.mem_map_of_mem listed) fresh

theorem openedBy?_eq_none (result : tree.IsResult redeclaration steps) {node : NodeId}
    (fresh : node ∉ Step.openers steps) : tree.openedBy? node = none := by
  cases found : tree.openedBy? node with
  | none => rfl
  | some number =>
      obtain ⟨opening, member, rfl⟩ := (result.opened_iff node number).mp found
      have listed := (List.mem_zipIdx member).2.2
      exact absurd (List.mem_map_of_mem (listed ▸ List.getElem_mem _)) fresh

/-- Nothing has been opened in the scope that will be opened next. -/
theorem openedIn_next (result : tree.IsResult redeclaration steps) :
    Step.openedIn ((Step.openings steps).length + 1) steps = [] := by
  apply List.filterMap_eq_nil_iff.mpr
  rintro ⟨opening, inner⟩ member
  have smaller := result.parent_lt opening inner member
  have bound := (List.mem_zipIdx member).2.1
  exact if_neg (by omega)

/-! ## One step -/

theorem bind (result : tree.IsResult redeclaration steps) {node : NodeId}
    (fresh : node ∉ Step.bound steps) (scope : Nat) :
    IsResult redeclaration (steps ++ [.bind node scope])
      { tree with bindings := tree.bindings.insert node scope } where
  size_eq := by simpa [ScopeTree.size] using result.size_eq
  scope_eq number := by
    rw [Step.scopeAt?_concat_bind]
    exact result.scope_eq number
  around_iff other number := by
    rw [scopeAround?_insert_eq_some_iff (result.scopeAround?_eq_none fresh), result.around_iff]
    simp [eq_comm]
  bindingCount_eq := by
    rw [bindingCount_insert (result.scopeAround?_eq_none fresh), result.bindingCount_eq]
    simp
  opened_iff other number := by
    simpa [Step.numbered, openedBy?] using result.opened_iff other number
  diagnostics_eq := by simpa using result.diagnostics_eq
  parent_lt opening number member :=
    result.parent_lt opening number (by simpa [Step.numbered] using member)
  declaredIn_eq_nil number above := by
    simpa using result.declaredIn_eq_nil number (by simpa using above)

theorem openScope (result : tree.IsResult redeclaration steps) {parent : Nat} {opener : NodeId}
    (inside : parent ≤ (Step.openings steps).length)
    (fresh : opener ∉ Step.openers steps) (kind : ScopeKind)
    (owner : Option Declared) :
    IsResult redeclaration (steps ++ [.openScope parent opener kind owner])
      { tree with
        scopes := (tree.scopes.push
          ⟨tree.size, kind, some ⟨parent, opener⟩, #[], owner, .empty⟩).modify parent
            fun outer => { outer with children := outer.children.push tree.size }
        openings := tree.openings.insert opener tree.size } where
  size_eq := by simpa [ScopeTree.size] using result.size_eq
  scope_eq number := by
    have size := result.size_eq
    rw [Step.scopeAt?_concat_openScope redeclaration steps number opener kind owner inside
      result.openedIn_next (result.declaredIn_eq_nil _ (Nat.lt_succ_self _)),
      Array.getElem?_modify, Array.getElem?_push, result.scope_eq, ← size]
    unfold ScopeTree.size at size ⊢
    by_cases last : number = tree.scopes.size
    · have outside : parent ≠ number := by omega
      simp only [last, if_true, if_neg (last ▸ outside)]
    · simp only [last, if_false]
  around_iff other number := by simpa [scopeAround?] using result.around_iff other number
  bindingCount_eq := by simpa [bindingCount] using result.bindingCount_eq
  opened_iff other number := by
    have opened : (tree.attach parent opener kind owner).openedBy? other = some number ↔ _ :=
      openedBy?_attach_eq_some_iff _ _ _ (result.openedBy?_eq_none fresh)
    refine opened.trans ?_
    simp only [result.opened_iff, result.size_eq, Step.numbered_concat_openScope,
      List.mem_append, List.mem_singleton, or_and_right, exists_or, Prod.mk.injEq, and_assoc,
      exists_eq_left]
    simp [eq_comm, and_comm]
  diagnostics_eq := by simpa using result.diagnostics_eq
  parent_lt opening number member := by
    rw [Step.numbered_concat_openScope, List.mem_append, List.mem_singleton] at member
    rcases member with old | new
    · exact result.parent_lt opening number old
    · cases new
      exact Nat.lt_succ_of_le inside
  declaredIn_eq_nil number above := by
    simpa using result.declaredIn_eq_nil number (by simp at above; omega)

theorem declare (result : tree.IsResult redeclaration steps) {scope : Nat}
    (inside : scope ≤ (Step.openings steps).length) (declared : Declared) :
    IsResult redeclaration (steps ++ [.declare scope declared])
      { tree.enter redeclaration scope declared with
        diagnostics := tree.diagnostics ++ (redeclaration.refusal? (Step.registrations steps)
          ⟨scope, declared.declaration⟩).toArray } where
  size_eq := by simpa [ScopeTree.size, ScopeTree.enter] using result.size_eq
  scope_eq number := by
    rw [Step.scopeAt?_concat_declare, ScopeTree.enter, Array.getElem?_modify, result.scope_eq]
  around_iff other number := by
    simpa [scopeAround?, ScopeTree.enter] using result.around_iff other number
  bindingCount_eq := by simpa [bindingCount, ScopeTree.enter] using result.bindingCount_eq
  opened_iff other number := by
    simpa [openedBy?, ScopeTree.enter, Step.numbered] using result.opened_iff other number
  diagnostics_eq := by
    rw [Step.registrations_append, Step.registrations_cons, Step.registration?,
      Option.toList_some, Step.registrations_nil, List.append_nil,
      Redeclaration.refusals_concat, ← result.diagnostics_eq, Array.toList_append]
    cases redeclaration.refusal? (Step.registrations steps) ⟨scope, declared.declaration⟩ <;> rfl
  parent_lt opening number member :=
    result.parent_lt opening number (by simpa [Step.numbered] using member)
  declaredIn_eq_nil number above := by
    have old := result.declaredIn_eq_nil number (by simpa using above)
    have other : scope ≠ number := by simp at above; omega
    simp [old, other]

/-- The table of a scope that steps lead to consists of what they have entered into
the scope. -/
theorem table_eq (result : tree.IsResult redeclaration steps) {number : Nat} {scope : Scope}
    (found : tree.scopes[number]? = some scope) :
    scope.table = .ofLevel redeclaration (Step.declaredIn number steps) := by
  rw [result.scope_eq] at found
  exact (Step.of_scopeAt?_eq_some redeclaration steps number found).2.2

/-- In a scope that steps lead to, the winner of what they have entered into it
holds a name. -/
theorem holder?_eq (result : tree.IsResult redeclaration steps) {number : Nat} {scope : Scope}
    (found : tree.scopes[number]? = some scope) (name : String) :
    scope.holder? name = redeclaration.winner? name (Step.declaredIn number steps) := by
  rw [Scope.holder?, result.table_eq found, SymbolTable.find?_ofLevel]

end ScopeTree.IsResult

/-! ## Runs -/

namespace LoggedTree

variable {redeclaration : Redeclaration} {state : LoggedTree}

/-- A node that is not bound yet is bound. -/
theorem perform_bind {node : NodeId} (fresh : state.tree.scopeAround? node = none)
    (scope : Nat) :
    state.perform redeclaration (.bind node scope) =
      .ok ⟨{ state.tree with bindings := state.tree.bindings.insert node scope }, state.log⟩ := by
  simp only [perform, ScopeTree.bind_eq_ok fresh]
  rfl

/-- A declaration is entered into any scope that is there, and the diagnostic is kept if a
declaration holds the name. -/
theorem exists_perform_declare {number : Nat} {scope : Scope}
    (found : state.tree.scopes[number]? = some scope) (declared : Declared) :
    ∃ next, state.perform redeclaration (.declare number declared) = .ok next ∧
      next.tree = { state.tree.enter redeclaration number declared with
        diagnostics := state.tree.diagnostics ++
          ((scope.holder? declared.name).map fun previous =>
            .redeclared declared.name declared.span previous.span).toArray } := by
  simp only [perform, ScopeTree.declare_eq_ok found declared redeclaration]
  cases scope.holder? declared.name with
  | none => exact ⟨_, rfl, by simp [ScopeTree.enter]⟩
  | some previous => exact ⟨_, rfl, by simp [ScopeTree.report, ScopeTree.enter]⟩

/-- A scope is opened in any scope that is there, by a node that has opened none. -/
theorem perform_openScope {parent : Nat} {opener : NodeId} (inside : parent < state.tree.size)
    (fresh : state.tree.openedBy? opener = none) (kind : ScopeKind) (owner : Option Declared) :
    state.perform redeclaration (.openScope parent opener kind owner) =
      .ok ⟨state.tree.attach parent opener kind owner,
        state.log.push (.opened state.tree.size parent opener kind owner)⟩ := by
  simp only [perform, ScopeTree.openScope_eq_ok inside fresh]
  rfl

variable {before : List Step}

/-- **A step that uses only what is there leads from a result to the next one**,
unless it binds a node for the second time. -/
theorem exists_perform (result : state.tree.IsResult redeclaration before) {step : Step}
    (grounded : step.Grounded before)
    (distinct : (Step.bound (before ++ [step])).Nodup) :
    ∃ next, state.perform redeclaration step = .ok next ∧
      next.tree.IsResult redeclaration (before ++ [step]) := by
  cases step with
  | bind node scope =>
      have fresh : node ∉ Step.bound before := by
        rw [Step.bound_append, List.nodup_append] at distinct
        intro listed
        exact distinct.2.2 node listed node (List.mem_singleton_self node) rfl
      exact ⟨_, perform_bind (result.scopeAround?_eq_none fresh) scope, result.bind fresh scope⟩
  | declare scope declared =>
      have present : scope < state.tree.scopes.size := by
        have size := result.size_eq
        unfold ScopeTree.size at size
        have inside : scope ≤ (Step.openings before).length := grounded
        omega
      have found := Array.getElem?_eq_getElem present
      have refused := Step.refusal?_registrations redeclaration before scope declared
      rw [← result.holder?_eq found] at refused
      obtain ⟨next, performed, isNext⟩ := exists_perform_declare found declared
      refine ⟨next, performed, ?_⟩
      rw [isNext, ← refused]
      exact result.declare grounded declared
  | openScope parent opener kind owner =>
      obtain ⟨inside, unopened⟩ := grounded
      -- An opener has opened fewer scopes than it was bound, so it has not opened any.
      have once : (Step.bound before).count opener ≤ 1 := by
        rw [Step.bound_append] at distinct
        exact List.nodup_iff_count.mp (List.nodup_append.mp distinct).1 opener
      have fresh : opener ∉ Step.openers before :=
        List.count_eq_zero.mp (by omega)
      have present : parent < state.tree.size := by
        rw [result.size_eq]
        exact Nat.lt_succ_of_le inside
      exact ⟨_, perform_openScope present (result.openedBy?_eq_none fresh) kind owner,
        result.openScope inside fresh kind owner⟩

/-- **Steps that use only what is there bring about their result**, if no node is
bound twice. -/
theorem exists_performAll (result : state.tree.IsResult redeclaration before) {steps : List Step}
    (grounded : Step.AllGrounded before steps)
    (distinct : (Step.bound (before ++ steps)).Nodup) :
    ∃ final, state.performAll redeclaration steps = .ok final ∧
      final.tree.IsResult redeclaration (before ++ steps) := by
  induction steps generalizing state before with
  | nil => exact ⟨state, rfl, by simpa using result⟩
  | cons step later ih =>
      have regrouped : before ++ step :: later = before ++ [step] ++ later := by simp
      rw [regrouped] at distinct ⊢
      have first : (Step.bound (before ++ [step])).Nodup := by
        rw [Step.bound_append] at distinct
        exact (List.nodup_append.mp distinct).1
      obtain ⟨next, performed, reached⟩ := exists_perform result grounded.1 first
      obtain ⟨final, rest, last⟩ := ih reached grounded.2 distinct
      refine ⟨final, ?_, last⟩
      unfold performAll at rest ⊢
      rw [List.foldlM_cons, performed]
      exact rest

end LoggedTree

end DecafScopes
