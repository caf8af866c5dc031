import DecafScopes.Proofs.Binding.Failure
import DecafScopes.Proofs.Scope.Termination

/-!
# What declaring a name changes

Declaring a name writes into the table of one scope.  The scopes whose lookups can see
the change are those from which the way outward comes to that scope and meets no other
holder of the name before (`ScopeTree.Sees`).  From all other scopes, and for all other
names, lookups find what they found before, in the same scope; and nothing else in the
tree changes at all (`ScopeTree.declare_effect`).

This holds in every tree that is reached by opening scopes only in ones that are there
before, since then every way outward comes to an end.
-/

set_option autoImplicit false

namespace DecafScopes

namespace ScopeTree

variable {tree : ScopeTree}

/-! ## Trees that runs lead to -/

/-- The result of steps has every scope in one with a smaller number. -/
theorem IsResult.parentsFirst {redeclaration : Redeclaration} {steps : List Step}
    (result : tree.IsResult redeclaration steps) : tree.ParentsFirst := by
  intro number scope found parent inside
  rw [result.scope_eq] at found
  cases number with
  | zero =>
      cases found
      cases inside
  | succ index =>
      obtain ⟨opening, opened, rfl⟩ := Option.map_eq_some_iff.mp found
      cases inside
      exact result.parent_lt opening (index + 1) (Step.mem_numbered_iff.mpr opened)

theorem Begins.wellFormed {start : ScopeTree} (begins : start.Begins) : start.WellFormed := by
  cases begins with
  | initial => exact .initial
  | built bound => exact Program.wellFormed_bind bound

theorem Begins.parentsFirst {start : ScopeTree} (begins : start.Begins) :
    start.ParentsFirst := by
  cases begins with
  | initial => exact parentsFirst_initial
  | @built policy program _ bound =>
      have once : program.bindingOrder.Nodup := by
        by_contra twice
        obtain ⟨node, _, failed⟩ := Program.exists_bind_eq_error policy program twice
        rw [failed] at bound
        cases bound
      obtain ⟨tree, bound', result⟩ :=
        Program.exists_bind policy (program.bindingOrder_perm_nodeIds.nodup_iff.mp once)
      rw [bound'] at bound
      cases bound
      exact result.parentsFirst

end ScopeTree

/-! ## A scope that gets a holder -/

namespace Scope

variable (number : Nat) (name : String) (declared : Declared)

/-- A scope, in which a declaration holds a name from now on if the scope has a given
number. -/
def withHolder (scope : Scope) : Scope :=
  if scope.number = number then { scope with table := (scope.table.add name declared).2 }
  else scope

variable (scope : Scope)

@[simp] theorem number_withHolder : (scope.withHolder number name declared).number =
    scope.number := by
  unfold withHolder
  split <;> rfl

@[simp] theorem owner_withHolder : (scope.withHolder number name declared).owner =
    scope.owner := by
  unfold withHolder
  split <;> rfl

@[simp] theorem parent?_withHolder : (scope.withHolder number name declared).parent? =
    scope.parent? := by
  unfold withHolder
  split <;> rfl

@[simp] theorem frame_withHolder : (scope.withHolder number name declared).frame =
    scope.frame := by
  unfold withHolder
  split <;> rfl

theorem withHolder_of_ne {number : Nat} {scope : Scope} (other : scope.number ≠ number) :
    scope.withHolder number name declared = scope :=
  if_neg other

/-- The new holder is found under its name in its scope; nothing else is found in another
way. -/
theorem holder?_withHolder (sought : String) :
    (scope.withHolder number name declared).holder? sought =
      if scope.number = number ∧ sought = name then some declared
      else scope.holder? sought := by
  unfold withHolder
  by_cases here : scope.number = number
  · rw [if_pos here, holder?, SymbolTable.find?_add]
    simp only [here, true_and, eq_comm, holder?]
  · rw [if_neg here, if_neg (fun both => here both.1)]

/-- The declaration that holds a name in a scope, with the number of the scope. -/
def numberedHolder? (name : String) (scope : Scope) : Option (Nat × Declared) :=
  (scope.holder? name).map (scope.number, ·)

variable {number name} {before : List Scope}

/-- Where no scope before the changed one holds the name, the new holder is found. -/
theorem findSome?_withHolder_of_vacant {here : Scope} (isHere : here.number = number)
    (vacant : ∀ nearer ∈ before, nearer.number ≠ number ∧ nearer.holder? name = none)
    (after : List Scope) :
    ((before ++ here :: after).map (withHolder number name declared)).findSome?
      (numberedHolder? name) = some (number, declared) := by
  have nothing : (before.map (withHolder number name declared)).findSome?
      (numberedHolder? name) = none := by
    rw [List.findSome?_eq_none_iff]
    intro changed member
    obtain ⟨nearer, listed, rfl⟩ := List.mem_map.mp member
    obtain ⟨other, unheld⟩ := vacant nearer listed
    rw [withHolder_of_ne name declared other, numberedHolder?, unheld, Option.map_none]
  have found : (here.withHolder number name declared).numberedHolder? name =
      some (number, declared) := by
    rw [numberedHolder?, holder?_withHolder, if_pos ⟨isHere, rfl⟩, number_withHolder, isHere]
    rfl
  rw [List.map_append, List.findSome?_append, nothing, List.map_cons, List.findSome?_cons, found]
  rfl

/-- Where a scope before the changed one holds the name, its holder is found as before. -/
theorem findSome?_withHolder_of_held (others : ∀ nearer ∈ before, nearer.number ≠ number)
    (held : ∃ nearer ∈ before, nearer.holder? name ≠ none) (after : List Scope) :
    ((before ++ after).map (withHolder number name declared)).findSome? (numberedHolder? name) =
      (before ++ after).findSome? (numberedHolder? name) := by
  have same : before.map (withHolder number name declared) = before := by
    refine (List.map_congr_left fun nearer listed => ?_).trans (List.map_id before)
    exact withHolder_of_ne name declared (others nearer listed)
  have finds : (before.findSome? (numberedHolder? name)).isSome := by
    obtain ⟨nearer, listed, holds⟩ := held
    rw [List.findSome?_isSome_iff]
    refine ⟨nearer, listed, ?_⟩
    rw [numberedHolder?, Option.isSome_map]
    exact Option.isSome_iff_ne_none.mpr holds
  obtain ⟨found, isFound⟩ := Option.isSome_iff_exists.mp finds
  rw [List.map_append, same, List.findSome?_append, List.findSome?_append, isFound,
    Option.some_or, Option.some_or]

end Scope

namespace ScopeTree

variable {tree : ScopeTree}

/-! ## Ways outward after a declaration -/

/-- Whether the holder of a name in one scope can be seen from another one: the way
outward from there comes to the scope, and no scope before it holds the name. -/
def Sees (tree : ScopeTree) (viewpoint number : Nat) (name : String) : Prop :=
  ∃ nearer further, tree.scopeChain viewpoint = .ok (nearer ++ number :: further) ∧
    ∀ inner ∈ nearer, tree.lookupHere? inner name = .ok none

section SetHolder

variable (number : Nat) (name : String) (declared : Declared)

theorem WellFormed.getElem?_scopes_setHolder (wellFormed : tree.WellFormed) (other : Nat) :
    (tree.setHolder number name declared).scopes[other]? =
      tree.scopes[other]?.map (Scope.withHolder number name declared) := by
  rw [setHolder, Array.getElem?_modify]
  cases found : tree.scopes[other]? with
  | none => simp
  | some scope =>
      have isNumber := wellFormed.number_eq other scope found
      simp only [Option.map_some, Scope.withHolder, isNumber, eq_comm]
      split <;> rfl

@[simp] theorem size_setHolder : (tree.setHolder number name declared).size = tree.size :=
  Array.size_modify

/-- **The ways outward go through the same scopes as before**, one of which has a new
holder. -/
theorem WellFormed.outward_setHolder (wellFormed : tree.WellFormed) (viewpoint : Nat) :
    (tree.setHolder number name declared).outward viewpoint =
      ⟨(tree.outward viewpoint).scopes.map (Scope.withHolder number name declared),
        (tree.outward viewpoint).ending⟩ := by
  rcases Nat.lt_or_ge viewpoint tree.size with within | beyond
  · have kept (other : Nat) (scope : Scope) (found : tree.scopes[other]? = some scope) :
        ∃ scope', (tree.setHolder number name declared).scopes[other]? = some scope' ∧
          scope'.parent? = scope.parent? ∧ scope' = scope.withHolder number name declared := by
      refine ⟨_, ?_, scope.parent?_withHolder number name declared, rfl⟩
      rw [wellFormed.getElem?_scopes_setHolder, found, Option.map_some]
    obtain ⟨way, ends⟩ := forall₂_outward kept within
    rw [← eq_map_of_forall₂ way, ← ends]
  · have beyond' : (tree.setHolder number name declared).size ≤ viewpoint :=
      (size_setHolder number name declared).symm ▸ beyond
    rw [outward_of_missing (Array.getElem?_eq_none beyond),
      outward_of_missing (Array.getElem?_eq_none beyond'), size_setHolder]
    rfl

/-- A search that does not look into tables finds what it found before. -/
theorem WellFormed.searchOutward_setHolder (wellFormed : tree.WellFormed) {α : Type}
    {answer? : Scope → Option α}
    (blind : ∀ scope, answer? (scope.withHolder number name declared) = answer? scope)
    (viewpoint : Nat) :
    (tree.setHolder number name declared).searchOutward viewpoint answer? =
      tree.searchOutward viewpoint answer? := by
  have same : answer? ∘ Scope.withHolder number name declared = answer? := funext blind
  simp only [searchOutward, wellFormed.outward_setHolder, List.findSome?_map, same]

theorem WellFormed.scopeChain_setHolder (wellFormed : tree.WellFormed) (viewpoint : Nat) :
    (tree.setHolder number name declared).scopeChain viewpoint = tree.scopeChain viewpoint := by
  have same : Scope.number ∘ Scope.withHolder number name declared = Scope.number :=
    funext fun scope => scope.number_withHolder number name declared
  simp only [scopeChain, wellFormed.outward_setHolder, List.map_map, same]

theorem WellFormed.innermostOwner?_setHolder (wellFormed : tree.WellFormed)
    (fits : Declaration → Bool) (viewpoint : Nat) :
    (tree.setHolder number name declared).innermostOwner? viewpoint fits =
      tree.innermostOwner? viewpoint fits :=
  wellFormed.searchOutward_setHolder number name declared (fun scope => by simp) viewpoint

end SetHolder

/-! ## Lookups after a declaration -/

/-- Every scope on a way outward stands in the tree. -/
theorem WellFormed.getElem?_of_mem_outward (wellFormed : tree.WellFormed) {viewpoint : Nat}
    {scope : Scope} (member : scope ∈ (tree.outward viewpoint).scopes) :
    tree.scopes[scope.number]? = some scope := by
  induction viewpoint using Nat.strongRecOn with
  | ind viewpoint ih =>
    cases found : tree.scopes[viewpoint]? with
    | none =>
        rw [outward_of_missing found] at member
        cases member
    | some first =>
        have stands : tree.scopes[first.number]? = some first := by
          rw [wellFormed.number_eq viewpoint first found]
          exact found
        cases inside : first.parent? with
        | none =>
            rw [outward_of_outermost found inside] at member
            rwa [List.mem_singleton.mp member]
        | some parent =>
            by_cases smaller : parent < viewpoint
            · rw [outward_of_parent found inside smaller] at member
              rcases List.mem_cons.mp member with rfl | further
              · exact stands
              · exact ih parent smaller further
            · rw [outward_of_endless found inside smaller] at member
              rwa [List.mem_singleton.mp member]

theorem lookupHere?_eq_none_iff {number : Nat} {scope : Scope}
    (found : tree.scopes[number]? = some scope) (name : String) :
    tree.lookupHere? number name = .ok none ↔ scope.holder? name = none := by
  rw [lookupHere?, scope_eq_ok_iff.mpr found, Except.map, Except.ok.injEq]

section Lookups

variable (wellFormed : tree.WellFormed) {viewpoint : Nat} {scopes : List Scope}
  (way : tree.outward viewpoint = ⟨scopes, .ok ()⟩)
  (descending : (scopes.map Scope.number).Pairwise (· > ·)) (number : Nat) (name : String)

include wellFormed way descending

/-- The holder in a scope is seen if no scope before it on the way holds the name. -/
theorem WellFormed.sees_iff : tree.Sees viewpoint number name ↔
    ∃ before here after, scopes = before ++ here :: after ∧ here.number = number ∧
      ∀ nearer ∈ before, nearer.number ≠ number ∧ nearer.holder? name = none := by
  have stands {scope : Scope} (member : scope ∈ scopes) :
      tree.scopes[scope.number]? = some scope :=
    wellFormed.getElem?_of_mem_outward (by rwa [way])
  have vacant {scope : Scope} (member : scope ∈ scopes) :=
    lookupHere?_eq_none_iff (stands member) name
  rw [Sees, scopeChain_eq way]
  constructor
  · rintro ⟨nearer, further, isChain, unheld⟩
    obtain ⟨before, rest, rfl, rfl, isRest⟩ := List.map_eq_append_iff.mp (Except.ok.inj isChain)
    obtain ⟨here, after, rfl, rfl, rfl⟩ := List.map_eq_cons_iff.mp isRest
    refine ⟨before, here, after, rfl, rfl, ?_⟩
    intro scope member
    rw [List.map_append, List.map_cons] at descending
    have larger := (List.pairwise_append.mp descending).2.2 scope.number
      (List.mem_map_of_mem member) here.number List.mem_cons_self
    exact ⟨Nat.ne_of_gt larger, (vacant (List.mem_append_left _ member)).mp
      (unheld _ (List.mem_map_of_mem member))⟩
  · rintro ⟨before, here, after, rfl, rfl, unheld⟩
    refine ⟨before.map Scope.number, after.map Scope.number, by simp, ?_⟩
    intro inner member
    obtain ⟨scope, listed, rfl⟩ := List.mem_map.mp member
    exact (vacant (List.mem_append_left _ listed)).mpr (unheld scope listed).2

variable {number name} (declared : Declared)

/-- Whoever sees the changed scope finds the new holder there. -/
theorem WellFormed.lookupWithScope?_of_sees (sees : tree.Sees viewpoint number name) :
    (tree.setHolder number name declared).lookupWithScope? viewpoint name =
      .ok (some (number, declared)) := by
  obtain ⟨before, here, after, rfl, isHere, vacant⟩ :=
    (wellFormed.sees_iff way descending number name).mp sees
  have changed := wellFormed.outward_setHolder number name declared viewpoint
  rw [way] at changed
  exact (searchOutward_eq changed _).trans
    (congrArg Except.ok (Scope.findSome?_withHolder_of_vacant declared isHere vacant after))

/-- Whoever does not see the changed scope finds what was found before. -/
theorem WellFormed.lookupWithScope?_of_not_sees (blind : ¬ tree.Sees viewpoint number name) :
    (tree.setHolder number name declared).lookupWithScope? viewpoint name =
      tree.lookupWithScope? viewpoint name := by
  have changed := wellFormed.outward_setHolder number name declared viewpoint
  rw [way] at changed
  refine (searchOutward_eq changed _).trans (.trans (congrArg Except.ok ?_)
    (searchOutward_eq way _).symm)
  by_cases onWay : number ∈ scopes.map Scope.number
  · obtain ⟨nearer, further, isChain, others⟩ := List.eq_append_cons_of_mem onWay
    obtain ⟨before, rest, rfl, rfl, isRest⟩ := List.map_eq_append_iff.mp isChain
    obtain ⟨here, after, rfl, isHere, rfl⟩ := List.map_eq_cons_iff.mp isRest
    have different : ∀ nearer ∈ before, nearer.number ≠ number := by
      rintro nearer listed rfl
      exact others (List.mem_map_of_mem listed)
    refine Scope.findSome?_withHolder_of_held declared different ?_ (here :: after)
    by_contra vacant
    push Not at vacant
    exact blind ((wellFormed.sees_iff way descending number name).mpr
      ⟨before, here, after, rfl, isHere, fun nearer listed =>
        ⟨different nearer listed, vacant nearer listed⟩⟩)
  · have same : scopes.map (Scope.withHolder number name declared) = scopes := by
      refine (List.map_congr_left fun scope listed => ?_).trans (List.map_id scopes)
      refine Scope.withHolder_of_ne name declared ?_
      rintro rfl
      exact onWay (List.mem_map_of_mem listed)
    rw [same]

end Lookups

/-- Other names are found where they were found before. -/
theorem WellFormed.lookupWithScope?_of_ne (wellFormed : tree.WellFormed) (number viewpoint : Nat)
    {name sought : String} (other : sought ≠ name) (declared : Declared) :
    (tree.setHolder number name declared).lookupWithScope? viewpoint sought =
      tree.lookupWithScope? viewpoint sought := by
  refine wellFormed.searchOutward_setHolder number name declared (fun scope => ?_) viewpoint
  rw [Scope.number_withHolder, Scope.holder?_withHolder, if_neg (fun both => other both.2)]

/-! ## The effect of a declaration -/

/-- A tree agrees with another one in everything but the table of one scope. -/
structure AgreesOutside (number : Nat) (tree next : ScopeTree) : Prop where
  size_eq : next.size = tree.size
  scope_eq : ∀ other ≠ number, next.scope other = tree.scope other
  /-- The scope itself is the same without its table. -/
  frame_eq : (next.scope number).map Scope.frame = (tree.scope number).map Scope.frame
  scopeChain_eq : ∀ viewpoint, next.scopeChain viewpoint = tree.scopeChain viewpoint
  enclosingDeclaration?_eq : ∀ viewpoint,
    next.enclosingDeclaration? viewpoint = tree.enclosingDeclaration? viewpoint
  enclosingClass?_eq : ∀ viewpoint, next.enclosingClass? viewpoint = tree.enclosingClass? viewpoint
  enclosingFunction?_eq : ∀ viewpoint,
    next.enclosingFunction? viewpoint = tree.enclosingFunction? viewpoint
  scopeAround?_eq : ∀ node, next.scopeAround? node = tree.scopeAround? node
  openedBy?_eq : ∀ node, next.openedBy? node = tree.openedBy? node
  bindingCount_eq : next.bindingCount = tree.bindingCount
  diagnostics_eq : next.diagnostics = tree.diagnostics

theorem AgreesOutside.refl (number : Nat) (tree : ScopeTree) : AgreesOutside number tree tree where
  size_eq := rfl
  scope_eq _ _ := rfl
  frame_eq := rfl
  scopeChain_eq _ := rfl
  enclosingDeclaration?_eq _ := rfl
  enclosingClass?_eq _ := rfl
  enclosingFunction?_eq _ := rfl
  scopeAround?_eq _ := rfl
  openedBy?_eq _ := rfl
  bindingCount_eq := rfl
  diagnostics_eq := rfl

/-- Letting a declaration hold a name changes the table of one scope alone. -/
theorem WellFormed.agreesOutside_setHolder (wellFormed : tree.WellFormed) (number : Nat)
    (name : String) (declared : Declared) :
    AgreesOutside number tree (tree.setHolder number name declared) where
  size_eq := size_setHolder number name declared
  scope_eq other different := by
    have unchanged : (tree.setHolder number name declared).scopes[other]? =
        tree.scopes[other]? := by
      rw [setHolder, Array.getElem?_modify, if_neg (Ne.symm different)]
    rw [ScopeTree.scope, ScopeTree.scope, unchanged, size_setHolder]
  frame_eq := by
    rw [ScopeTree.scope, ScopeTree.scope, wellFormed.getElem?_scopes_setHolder, size_setHolder]
    cases tree.scopes[number]? with
    | none => rfl
    | some scope => exact congrArg Except.ok (scope.frame_withHolder number name declared)
  scopeChain_eq := wellFormed.scopeChain_setHolder number name declared
  enclosingDeclaration?_eq := wellFormed.innermostOwner?_setHolder number name declared _
  enclosingClass?_eq := wellFormed.innermostOwner?_setHolder number name declared _
  enclosingFunction?_eq := wellFormed.innermostOwner?_setHolder number name declared _
  scopeAround?_eq _ := rfl
  openedBy?_eq _ := rfl
  bindingCount_eq := rfl
  diagnostics_eq := rfl

/-- **What declaring a name in a scope changes.**  It is refused exactly if a declaration
holds the name there, with a diagnostic about the two.  Afterwards the name is found in
the scope, as the new declaration, from wherever the scope is seen, unless the name was
held there and the first declaration wins; all other lookups find what they found before,
and nothing but the table of the scope has changed. -/
theorem declare_effect {start : ScopeTree} (begins : start.Begins) {calls : List Call}
    (inside : start.RunsInside calls) (run : start.callAll calls = .ok tree) {number : Nat}
    (within : number < tree.size) (name : String) (declared : Declared)
    (redeclaration : Redeclaration) :
    ∃ holder next, tree.lookupHere? number name = .ok holder ∧
      tree.declare number name declared redeclaration =
        .ok (holder.map fun previous => .redeclared name declared.span previous.span, next) ∧
      (∀ viewpoint < tree.size, ∀ sought,
        (sought = name ∧ tree.Sees viewpoint number name ∧
            (holder = none ∨ redeclaration = .lastWins) →
          next.lookupWithScope? viewpoint sought = .ok (some (number, declared))) ∧
        (¬ (sought = name ∧ tree.Sees viewpoint number name ∧
            (holder = none ∨ redeclaration = .lastWins)) →
          next.lookupWithScope? viewpoint sought = tree.lookupWithScope? viewpoint sought)) ∧
      tree.AgreesOutside number next ∧
      (redeclaration = .firstWins → holder.isSome → next = tree) := by
  have wellFormed := begins.wellFormed.callAll run
  have parentsFirst := (parentsFirst_callAll_iff run).mpr ⟨begins.parentsFirst, inside⟩
  have found : tree.scopes[number]? = some tree.scopes[number] := Array.getElem?_eq_getElem within
  generalize tree.scopes[number] = scope at found
  refine ⟨scope.holder? name, _, ?_, declare_eq_ok_iff.mpr ⟨scope, found, rfl⟩, ?lookups, ?frame,
    ?kept⟩
  · rw [lookupHere?, scope_eq_ok_iff.mpr found]
    rfl
  case kept =>
    intro first held
    exact if_pos ⟨first, held⟩
  case frame =>
    split
    · exact .refl number tree
    · exact wellFormed.agreesOutside_setHolder number name declared
  case lookups =>
    intro viewpoint inTree sought
    obtain ⟨scopes, way, leads⟩ := wellFormed.exists_outward parentsFirst inTree
    split
    next refused =>
      refine ⟨?_, fun _ => rfl⟩
      rintro ⟨_, _, vacant | last⟩
      · rw [vacant] at refused
        cases refused.2
      · rw [last] at refused
        cases refused.1
    next entered =>
      have taken : scope.holder? name = none ∨ redeclaration = .lastWins := by
        cases redeclaration with
        | lastWins => exact .inr rfl
        | firstWins => exact .inl (by simpa using entered)
      constructor
      · rintro ⟨rfl, sees, _⟩
        exact wellFormed.lookupWithScope?_of_sees way leads.descending declared sees
      · intro unseen
        by_cases same : sought = name
        · subst same
          exact wellFormed.lookupWithScope?_of_not_sees way leads.descending declared
            fun sees => unseen ⟨rfl, sees, taken⟩
        · exact wellFormed.lookupWithScope?_of_ne number viewpoint same declared

/-- In a block within a block, a name that the outer one declares again is found as its
second declaration from the inner one, and from outside nothing changes. -/
theorem declare_effect_nested_run :
    ∃ tree next, ScopeTree.initial.callAll
        [.openScope 0 ⟨1⟩ .block none, .openScope 1 ⟨2⟩ .block none,
          .declare 1 "x" ⟨⟨0, 0⟩, .variableDecl (Sample.var 3 "x")⟩ .lastWins] = .ok tree ∧
      tree.declare 1 "x" ⟨⟨0, 1⟩, .variableDecl (Sample.var 4 "x")⟩ .lastWins =
        .ok (some (.redeclared "x" (Sample.line 4) (Sample.line 3)), next) ∧
      next.lookupWithScope? 2 "x" =
        .ok (some (1, ⟨⟨0, 1⟩, .variableDecl (Sample.var 4 "x")⟩)) ∧
      next.lookupWithScope? 0 "x" = tree.lookupWithScope? 0 "x" := by
  obtain ⟨tree, run, size, isHeld, ⟨inner, isInner, inOuter, isTwo, vacant⟩,
      ⟨outer, isOuter, inGlobal, isOne⟩, ⟨outermost, isOutermost, inNothing, isZero⟩⟩ : ∃ tree,
      ScopeTree.initial.callAll
          [.openScope 0 ⟨1⟩ .block none, .openScope 1 ⟨2⟩ .block none,
            .declare 1 "x" ⟨⟨0, 0⟩, .variableDecl (Sample.var 3 "x")⟩ .lastWins] = .ok tree ∧
        tree.size = 3 ∧
        tree.lookupHere? 1 "x" = .ok (some ⟨⟨0, 0⟩, .variableDecl (Sample.var 3 "x")⟩) ∧
        (∃ scope, tree.scopes[2]? = some scope ∧ scope.parent? = some 1 ∧ scope.number = 2 ∧
          scope.table = .empty) ∧
        (∃ scope, tree.scopes[1]? = some scope ∧ scope.parent? = some 0 ∧ scope.number = 1) ∧
        ∃ scope, tree.scopes[0]? = some scope ∧ scope.parent? = none ∧ scope.number = 0 :=
    ⟨_, rfl, rfl, rfl, ⟨_, rfl, rfl, rfl, rfl⟩, ⟨_, rfl, rfl, rfl⟩, _, rfl, rfl, rfl⟩
  have inside : ScopeTree.initial.RunsInside [.openScope 0 ⟨1⟩ .block none,
      .openScope 1 ⟨2⟩ .block none,
      .declare 1 "x" ⟨⟨0, 0⟩, .variableDecl (Sample.var 3 "x")⟩ .lastWins] := by
    refine ⟨Nat.one_pos, ?_⟩
    rintro _ ⟨⟩
    refine ⟨Nat.lt_succ_self 1, ?_⟩
    rintro _ ⟨⟩
    exact ⟨trivial, fun _ _ => trivial⟩
  have fromGlobal := outward_of_outermost isOutermost inNothing
  have fromOuter := outward_of_parent isOuter inGlobal Nat.zero_lt_one
  have fromInner := outward_of_parent isInner inOuter Nat.one_lt_two
  rw [fromGlobal] at fromOuter
  rw [fromOuter] at fromInner
  have sees : tree.Sees 2 1 "x" := by
    refine ⟨[2], [0], ?_, ?_⟩
    · rw [scopeChain_eq fromInner]
      simp [isTwo, isOne, isZero]
    · simp only [List.mem_singleton, forall_eq]
      rw [lookupHere?_eq_none_iff isInner, Scope.holder?, vacant, SymbolTable.find?_empty]
  have unseen : ¬ tree.Sees 0 1 "x" := by
    rintro ⟨nearer, further, isChain, _⟩
    rw [scopeChain_eq fromGlobal, Except.ok.injEq] at isChain
    have listed : 1 ∈ [outermost].map Scope.number := isChain ▸ by simp
    simp [isZero] at listed
  obtain ⟨holder, next, holds, declares, lookups, _⟩ := declare_effect .initial inside run
    (size ▸ by decide : 1 < tree.size) "x" ⟨⟨0, 1⟩, .variableDecl (Sample.var 4 "x")⟩ .lastWins
  rw [isHeld] at holds
  cases holds
  exact ⟨tree, next, run, declares, (lookups 2 (size ▸ by decide) "x").1 ⟨rfl, sees, .inr rfl⟩,
    (lookups 0 (size ▸ by decide) "x").2 fun seen => unseen seen.2.1⟩

end ScopeTree

end DecafScopes
