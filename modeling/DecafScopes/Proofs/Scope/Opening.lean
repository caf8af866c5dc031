import DecafScopes.Proofs.Scope.Declaring

/-!
# What opening a scope changes

Opening a scope fails in two ways and in no other: its parent is beyond the number that
the new scope gets, or its opener has opened a scope before.  The first is looked for
first.

A scope that is opened in one that is there before changes nothing for the others: the
ways outward from them cannot come to it, so every lookup from an old scope finds what it
found before (`ScopeTree.KeptByOpening`).  The new scope itself is empty and shows what can
be seen from its parent, except that it may have an owner of its own
(`ScopeTree.SeesThrough`).
-/

set_option autoImplicit false

namespace DecafScopes

namespace ScopeTree

variable {tree next : ScopeTree}

/-! ## The new scope and the old ones -/

/-- Opening a scope in `parent` on behalf of `opener` has kept everything else. -/
structure KeptByOpening (parent : Nat) (opener : NodeId) (tree next : ScopeTree) : Prop where
  /-- The parent has one more child, which comes last; all other scopes are the same. -/
  scope_eq : ∀ number < tree.size, next.scope number = (tree.scope number).map fun scope =>
    if number = parent then { scope with children := scope.children.push tree.size } else scope
  scopeChain_eq : ∀ number < tree.size, next.scopeChain number = tree.scopeChain number
  lookupHere?_eq : ∀ number < tree.size, ∀ name,
    next.lookupHere? number name = tree.lookupHere? number name
  lookupWithScope?_eq : ∀ number < tree.size, ∀ name,
    next.lookupWithScope? number name = tree.lookupWithScope? number name
  enclosingDeclaration?_eq : ∀ number < tree.size,
    next.enclosingDeclaration? number = tree.enclosingDeclaration? number
  enclosingClass?_eq : ∀ number < tree.size,
    next.enclosingClass? number = tree.enclosingClass? number
  enclosingFunction?_eq : ∀ number < tree.size,
    next.enclosingFunction? number = tree.enclosingFunction? number
  scopeAround?_eq : ∀ node, next.scopeAround? node = tree.scopeAround? node
  bindingCount_eq : next.bindingCount = tree.bindingCount
  openedBy?_eq : ∀ node ≠ opener, next.openedBy? node = tree.openedBy? node
  diagnostics_eq : next.diagnostics = tree.diagnostics

/-- The scope with a number is empty and lies in `parent`, and from there outward it shows
what can be seen from its parent. -/
structure SeesThrough (parent : Nat) (opener : NodeId) (kind : ScopeKind)
    (owner : Option Declared) (tree : ScopeTree) (number : Nat) : Prop where
  scope_eq : tree.scope number =
    .ok ⟨number, kind, some ⟨parent, opener⟩, #[], owner, .empty⟩
  openedBy?_eq : tree.openedBy? opener = some number
  scopeChain_eq : ∃ chain, tree.scopeChain parent = .ok chain ∧
    tree.scopeChain number = .ok (number :: chain)
  lookupHere?_eq : ∀ name, tree.lookupHere? number name = .ok none
  lookupWithScope?_eq : ∀ name,
    tree.lookupWithScope? number name = tree.lookupWithScope? parent name
  /-- The owner encloses the scope, whatever it is. -/
  enclosingDeclaration?_eq : tree.enclosingDeclaration? number =
    match owner with
    | some declared => .ok (some declared)
    | none => tree.enclosingDeclaration? parent
  /-- The owner is the class around the scope if it is a class. -/
  enclosingClass?_eq : tree.enclosingClass? number =
    match owner.filter (·.declaration.toClass?.isSome) with
    | some declared => .ok (some declared)
    | none => tree.enclosingClass? parent
  /-- The owner is the function around the scope if it is a function. -/
  enclosingFunction?_eq : tree.enclosingFunction? number =
    match owner.filter (·.declaration.toFunction?.isSome) with
    | some declared => .ok (some declared)
    | none => tree.enclosingFunction? parent

section Attach

variable (parent : Nat) (opener : NodeId) (kind : ScopeKind) (owner : Option Declared)

/-- Every scope is kept, but for its children. -/
theorem exists_children_attach (number : Nat) (scope : Scope)
    (found : tree.scopes[number]? = some scope) :
    ∃ scope', (tree.attach parent opener kind owner).scopes[number]? = some scope' ∧
      scope'.parent? = scope.parent? ∧
        ∃ children, scope' = { scope with children := children } := by
  have old : number ≠ tree.size := Nat.ne_of_lt (lt_size_of_getElem? found)
  rw [getElem?_scopes_attach, if_neg old, found]
  exact ⟨_, rfl, rfl, _, rfl⟩

/-- A search from an old scope that does not look at children finds what it found
before. -/
theorem searchOutward_attach {α : Type} {answer? : Scope → Option α}
    (blind : ∀ (scope : Scope) (children : Array Nat),
      answer? { scope with children := children } = answer? scope)
    {number : Nat} (within : number < tree.size) :
    (tree.attach parent opener kind owner).searchOutward number answer? =
      tree.searchOutward number answer? := by
  refine searchOutward_congr (exists_children_attach parent opener kind owner) within ?_
  rintro scope _ ⟨children, rfl⟩
  exact blind scope children

/-- **Nothing changes for the scopes that are there**, whatever is opened. -/
theorem keptByOpening_attach :
    tree.KeptByOpening parent opener (tree.attach parent opener kind owner) where
  scope_eq number within := by
    have old : number ≠ tree.size := Nat.ne_of_lt within
    have found := Array.getElem?_eq_getElem within
    simp only [ScopeTree.scope, getElem?_scopes_attach, if_neg old, found, Option.map_some,
      Except.map, eq_comm (a := parent)]
    split <;> rfl
  scopeChain_eq number within := by
    refine scopeChain_congr (exists_children_attach parent opener kind owner) within ?_
    rintro scope _ ⟨children, rfl⟩
    rfl
  lookupHere?_eq number within name := by
    have found := Array.getElem?_eq_getElem within
    obtain ⟨scope', found', _, children, rfl⟩ :=
      exists_children_attach parent opener kind owner number _ found
    simp only [lookupHere?, scope_eq_ok_iff.mpr found, scope_eq_ok_iff.mpr found']
    rfl
  lookupWithScope?_eq number within name :=
    searchOutward_attach parent opener kind owner (fun _ _ => rfl) within
  enclosingDeclaration?_eq number within :=
    searchOutward_attach parent opener kind owner (fun _ _ => rfl) within
  enclosingClass?_eq number within :=
    searchOutward_attach parent opener kind owner (fun _ _ => rfl) within
  enclosingFunction?_eq number within :=
    searchOutward_attach parent opener kind owner (fun _ _ => rfl) within
  scopeAround?_eq _ := rfl
  bindingCount_eq := rfl
  openedBy?_eq node other := by rw [openedBy?_attach, if_neg (Ne.symm other)]
  diagnostics_eq := rfl

/-- **A scope that is opened in one that is there shows what can be seen from there.** -/
theorem WellFormed.seesThrough_attach (wellFormed : tree.WellFormed)
    (parentsFirst : tree.ParentsFirst) {parent : Nat} (inside : parent < tree.size) :
    (tree.attach parent opener kind owner).SeesThrough parent opener kind owner tree.size := by
  have found : (tree.attach parent opener kind owner).scopes[tree.size]? =
      some ⟨tree.size, kind, some ⟨parent, opener⟩, #[], owner, .empty⟩ := by
    rw [getElem?_scopes_attach, if_pos rfl, Option.map_some, if_neg (Nat.ne_of_lt inside)]
  have further {α : Type} (answer? : Scope → Option α) :=
    searchOutward_of_parent found rfl inside answer?
  constructor
  case scope_eq => exact scope_eq_ok_iff.mpr found
  case openedBy?_eq => rw [openedBy?_attach, if_pos rfl]
  case scopeChain_eq =>
    obtain ⟨scopes, way, _⟩ := wellFormed.exists_outward parentsFirst inside
    have kept := (keptByOpening_attach parent opener kind owner).scopeChain_eq parent inside
    rw [scopeChain_eq way] at kept
    exact ⟨_, kept, (scopeChain_of_parent found rfl inside).trans (congrArg _ kept)⟩
  case lookupHere?_eq =>
    intro name
    rw [lookupHere?_eq_none_iff found]
    exact SymbolTable.find?_empty name
  case lookupWithScope?_eq =>
    intro name
    rw [lookupWithScope?, further, Scope.holder?, SymbolTable.find?_empty]
    rfl
  case enclosingDeclaration?_eq =>
    rw [enclosingDeclaration?, innermostOwner?, further]
    cases owner <;> rfl
  case enclosingClass?_eq =>
    rw [enclosingClass?, innermostOwner?, further]
    dsimp only
    cases owner.filter (·.declaration.toClass?.isSome) <;> rfl
  case enclosingFunction?_eq =>
    rw [enclosingFunction?, innermostOwner?, further]
    dsimp only
    cases owner.filter (·.declaration.toFunction?.isSome) <;> rfl

end Attach

/-! ## The effect of opening a scope -/

/-- **What opening a scope does, and when it fails.**  It fails if the parent is beyond the
number that the new scope gets, and otherwise if the opener has opened a scope before.  If
it succeeds in a parent that is there, all old scopes are as before and have the same ways
outward and the same lookups, and the new one shows what can be seen from its parent. -/
theorem openScope_effect {start : ScopeTree} (begins : start.Begins) {calls : List Call}
    (inside : start.RunsInside calls) (run : start.callAll calls = .ok tree) (parent : Nat)
    (opener : NodeId) (kind : ScopeKind) (owner : Option Declared) :
    (∀ fault, tree.openScope parent opener kind owner = .error fault ↔
      (tree.size < parent ∧ fault = .noSuchScope (tree.size + 1) parent ∧
        fault.message = "index out of bounds: the len is " ++ toString (tree.size + 1) ++
          " but the index is " ++ toString parent) ∨
      (parent ≤ tree.size ∧ (tree.openedBy? opener).isSome ∧ fault = .openedTwice opener ∧
        fault.message = "node #" ++ toString opener.number ++ " opened two scopes")) ∧
    (parent ≤ tree.size → tree.openedBy? opener = none →
      ∃ next, tree.openScope parent opener kind owner = .ok (tree.size, next)) ∧
    ∀ number next, tree.openScope parent opener kind owner = .ok (number, next) →
      number = tree.size ∧ next.size = tree.size + 1 ∧
        (parent < tree.size → tree.KeptByOpening parent opener next ∧
          next.SeesThrough parent opener kind owner tree.size) := by
  refine ⟨?faults, ?opens, ?effect⟩
  case faults =>
    intro fault
    rcases Nat.lt_or_ge tree.size parent with beyond | within
    · rw [openScope_of_beyond beyond, Except.error.injEq]
      constructor
      · rintro rfl
        exact .inl ⟨beyond, rfl, rfl⟩
      · rintro (⟨_, rfl, _⟩ | ⟨within, _⟩)
        · rfl
        · exact absurd beyond (Nat.not_lt.mpr within)
    cases opened : tree.openedBy? opener with
    | none =>
        rw [openScope_eq_ok_iff.mpr ⟨within, opened, rfl⟩]
        refine iff_of_false nofun ?_
        rintro (⟨beyond, _⟩ | ⟨_, again, _⟩)
        · exact absurd beyond (Nat.not_lt.mpr within)
        · cases again
    | some other =>
        rw [openScope_of_again within (by rw [opened, Option.isSome_some]), Except.error.injEq]
        constructor
        · rintro rfl
          exact .inr ⟨within, rfl, rfl, rfl⟩
        · rintro (⟨beyond, _⟩ | ⟨_, _, rfl, _⟩)
          · exact absurd beyond (Nat.not_lt.mpr within)
          · rfl
  case opens =>
    intro within fresh
    exact ⟨_, openScope_eq_ok_iff.mpr ⟨within, fresh, rfl⟩⟩
  case effect =>
    intro number next opens
    obtain ⟨_, _, isOpened⟩ := openScope_eq_ok_iff.mp opens
    cases isOpened
    refine ⟨rfl, size_attach parent opener kind owner, fun within => ?_⟩
    have wellFormed := begins.wellFormed.callAll run
    have parentsFirst := (parentsFirst_callAll_iff run).mpr ⟨begins.parentsFirst, inside⟩
    exact ⟨keptByOpening_attach parent opener kind owner,
      wellFormed.seesThrough_attach opener kind owner parentsFirst within⟩

/-- A block that is opened in a class shows the field of the class and has it around itself;
it cannot be opened beyond itself, and the class cannot be opened again. -/
theorem openScope_effect_class_run :
    ∃ tree next, ScopeTree.initial.callAll
        [.openScope 0 ⟨2⟩ .classBody (some ⟨⟨0, 0⟩, .classDecl Sample.classDecl⟩),
          .declare 1 "x" ⟨⟨0, 1⟩, .variableDecl (Sample.var 3 "x")⟩ .lastWins] = .ok tree ∧
      tree.openScope 1 ⟨7⟩ .block none = .ok (2, next) ∧
      next.lookupWithScope? 2 "x" = tree.lookupWithScope? 1 "x" ∧
      next.enclosingClass? 2 = tree.enclosingClass? 1 ∧
      tree.openScope 3 ⟨2⟩ .block none = .error (.noSuchScope 3 3) ∧
      tree.openScope 1 ⟨2⟩ .block none = .error (.openedTwice ⟨2⟩) := by
  obtain ⟨tree, run, size, fresh, opened⟩ : ∃ tree, ScopeTree.initial.callAll
        [.openScope 0 ⟨2⟩ .classBody (some ⟨⟨0, 0⟩, .classDecl Sample.classDecl⟩),
          .declare 1 "x" ⟨⟨0, 1⟩, .variableDecl (Sample.var 3 "x")⟩ .lastWins] = .ok tree ∧
      tree.size = 2 ∧ tree.openedBy? ⟨7⟩ = none ∧ tree.openedBy? ⟨2⟩ = some 1 :=
    ⟨_, rfl, rfl, rfl, rfl⟩
  have inside : ScopeTree.initial.RunsInside
      [.openScope 0 ⟨2⟩ .classBody (some ⟨⟨0, 0⟩, .classDecl Sample.classDecl⟩),
        .declare 1 "x" ⟨⟨0, 1⟩, .variableDecl (Sample.var 3 "x")⟩ .lastWins] := by
    refine ⟨Nat.one_pos, ?_⟩
    rintro _ ⟨⟩
    exact ⟨trivial, fun _ _ => trivial⟩
  have within : 1 < tree.size := size ▸ Nat.one_lt_two
  obtain ⟨_, opens, effect⟩ := openScope_effect .initial inside run 1 ⟨7⟩ .block none
  obtain ⟨next, isNext⟩ := opens (Nat.le_of_lt within) fresh
  obtain ⟨_, _, leads⟩ := effect _ next isNext
  obtain ⟨kept, sees⟩ := leads within
  obtain ⟨beyond, _⟩ := openScope_effect .initial inside run 3 ⟨2⟩ .block none
  obtain ⟨again, _⟩ := openScope_effect .initial inside run 1 ⟨2⟩ .block none
  rw [size] at isNext sees beyond again
  refine ⟨tree, next, run, isNext, ?_, ?_, ?_, ?_⟩
  · exact (sees.lookupWithScope?_eq "x").trans (kept.lookupWithScope?_eq 1 within "x")
  · exact sees.enclosingClass?_eq.trans (kept.enclosingClass?_eq 1 within)
  · exact (beyond _).mpr (.inl ⟨by decide, rfl, rfl⟩)
  · exact (again _).mpr (.inr ⟨by decide, by rw [opened]; rfl, rfl, rfl⟩)

end ScopeTree

end DecafScopes
