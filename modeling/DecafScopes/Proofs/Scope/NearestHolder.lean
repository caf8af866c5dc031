import Mathlib.Order.Bounds.Defs
import DecafScopes.Proofs.Scope.Declaring

/-!
# Walks outward find the nearest holder

All walks along the scopes around a scope are safe in a tree that is reached by opening
scopes only in ones that are there before: from a scope that exists, each of them comes to
an end, and from a number that no scope has, each fails in the same way
(`ScopeTree.EveryWalk`).

The scopes around a scope have smaller and smaller numbers, so the nearest one that holds a
name is the one with the greatest number.  That is where a lookup finds the name, from the
scope itself and from all scopes between the two (`ScopeTree.FindsNearest`).
-/

set_option autoImplicit false

namespace DecafScopes

namespace ScopeTree

variable {tree : ScopeTree}

/-! ## All walks at once -/

/-- Every walk outward from a scope has an outcome of a certain sort. -/
structure EveryWalk (fits : ∀ {α : Type}, Except Fault α → Prop) (tree : ScopeTree)
    (viewpoint : Nat) : Prop where
  scopeChain : fits (tree.scopeChain viewpoint)
  lookupWithScope? : ∀ name, fits (tree.lookupWithScope? viewpoint name)
  lookup? : ∀ name, fits (tree.lookup? viewpoint name)
  resolve : ∀ identifier, fits (tree.resolve viewpoint identifier)
  enclosingDeclaration? : fits (tree.enclosingDeclaration? viewpoint)
  enclosingClass? : fits (tree.enclosingClass? viewpoint)
  enclosingFunction? : fits (tree.enclosingFunction? viewpoint)

/-- A walk comes to an end and returns something. -/
def Returns {α : Type} (outcome : Except Fault α) : Prop :=
  ∃ value, outcome = .ok value

/-- All walks are searches, and what a search finds is at most translated. -/
theorem EveryWalk.of_searches {fits : ∀ {α : Type}, Except Fault α → Prop} {viewpoint : Nat}
    (translated : ∀ {α β : Type} (f : α → β) (outcome : Except Fault α),
      fits outcome → fits (outcome.map f))
    (chain : fits (tree.scopeChain viewpoint))
    (searches : ∀ {α : Type} (answer? : Scope → Option α),
      fits (tree.searchOutward viewpoint answer?)) :
    tree.EveryWalk fits viewpoint where
  scopeChain := chain
  lookupWithScope? _ := searches _
  lookup? _ := translated _ _ (searches _)
  resolve _ := translated _ _ (translated _ _ (searches _))
  enclosingDeclaration? := searches _
  enclosingClass? := searches _
  enclosingFunction? := searches _

/-- Where the way comes to an end, every walk returns. -/
theorem everyWalk_returns {viewpoint : Nat} {scopes : List Scope}
    (way : tree.outward viewpoint = ⟨scopes, .ok ()⟩) : tree.EveryWalk Returns viewpoint := by
  refine .of_searches ?_ ⟨_, scopeChain_eq way⟩ fun answer? => ⟨_, searchOutward_eq way answer?⟩
  rintro α β f _ ⟨value, rfl⟩
  exact ⟨f value, rfl⟩

/-- Where no scope has the number, every walk fails. -/
theorem everyWalk_fails {viewpoint : Nat} (beyond : tree.size ≤ viewpoint) :
    tree.EveryWalk (· = .error (.noSuchScope tree.size viewpoint)) viewpoint := by
  have way := outward_of_missing (Array.getElem?_eq_none beyond)
  refine .of_searches ?_ ?_ fun answer? => ?_
  · rintro α β f _ rfl
    rfl
  · rw [scopeChain, way]
    rfl
  · rw [searchOutward, way]
    rfl

/-! ## Ways within ways -/

/-- A way begins with the scope that it is taken from, and goes on as the way from the scope
around it. -/
theorem WellFormed.outward_eq_cons (wellFormed : tree.WellFormed) {viewpoint : Nat}
    {first : Scope} {later : List Scope}
    (way : tree.outward viewpoint = ⟨first :: later, .ok ()⟩) :
    first.number = viewpoint ∧
      (later = [] ∨ ∃ parent, tree.outward parent = ⟨later, .ok ()⟩) := by
  cases found : tree.scopes[viewpoint]? with
  | none =>
      rw [outward_of_missing found] at way
      cases way
  | some scope =>
      have isNumber := wellFormed.number_eq viewpoint scope found
      cases inside : scope.parent? with
      | none =>
          rw [outward_of_outermost found inside] at way
          cases way
          exact ⟨isNumber, .inl rfl⟩
      | some parent =>
          by_cases smaller : parent < viewpoint
          · rw [outward_of_parent found inside smaller] at way
            obtain ⟨isWay, ends⟩ := OutwardWay.mk.inj way
            obtain ⟨rfl, rfl⟩ := List.cons.inj isWay
            exact ⟨isNumber, .inr ⟨parent, congrArg (OutwardWay.mk _) ends⟩⟩
          · rw [outward_of_endless found inside smaller] at way
            cases way

/-- **The way from a scope on a way is the rest of that way.** -/
theorem WellFormed.outward_of_append (wellFormed : tree.WellFormed) {viewpoint : Nat}
    {before further : List Scope} {outer : Scope}
    (way : tree.outward viewpoint = ⟨before ++ outer :: further, .ok ()⟩) :
    tree.outward outer.number = ⟨outer :: further, .ok ()⟩ := by
  induction before generalizing viewpoint with
  | nil =>
      obtain ⟨rfl, _⟩ := wellFormed.outward_eq_cons way
      exact way
  | cons first before ih =>
      obtain ⟨_, isEmpty | ⟨parent, goesOn⟩⟩ := wellFormed.outward_eq_cons way
      · simp at isEmpty
      · exact ih goesOn

/-! ## The nearest holder -/

/-- The scopes among some that hold a name. -/
def holdersAmong (tree : ScopeTree) (chain : List Nat) (name : String) : Set Nat :=
  {number | number ∈ chain ∧ ∃ declared, tree.lookupHere? number name = .ok (some declared)}

/-- From a scope with a certain way outward, a name is found in the nearest scope that holds
it. -/
structure FindsNearest (tree : ScopeTree) (viewpoint : Nat) (chain : List Nat)
    (name : String) : Prop where
  /-- The nearest holder is the one with the greatest number. -/
  eq_some_iff : ∀ holder declared,
    tree.lookupWithScope? viewpoint name = .ok (some (holder, declared)) ↔
      IsGreatest (tree.holdersAmong chain name) holder ∧
        tree.lookupHere? holder name = .ok (some declared)
  eq_none_iff : tree.lookupWithScope? viewpoint name = .ok none ↔
    ∀ number ∈ chain, tree.lookupHere? number name = .ok none
  /-- The scopes in between find what is found from inside them. -/
  eq_between : ∀ holder declared,
    tree.lookupWithScope? viewpoint name = .ok (some (holder, declared)) →
      ∀ between ∈ chain, holder ≤ between →
        tree.lookupWithScope? between name = .ok (some (holder, declared))

section Descending

variable (wellFormed : tree.WellFormed) {viewpoint : Nat} {scopes : List Scope}
  (way : tree.outward viewpoint = ⟨scopes, .ok ()⟩)

include wellFormed way

/-- A scope on the way is asked under its number. -/
theorem WellFormed.lookupHere?_of_mem {scope : Scope} (member : scope ∈ scopes) (name : String) :
    tree.lookupHere? scope.number name = .ok (scope.holder? name) := by
  rw [lookupHere?, scope_eq_ok_iff.mpr (wellFormed.getElem?_of_mem_outward (by rwa [way]))]
  rfl

theorem WellFormed.mem_holdersAmong_iff {number : Nat} {name : String} :
    number ∈ tree.holdersAmong (scopes.map Scope.number) name ↔
      ∃ scope ∈ scopes, scope.number = number ∧ (scope.holder? name).isSome := by
  have asked {scope : Scope} (member : scope ∈ scopes) :=
    wellFormed.lookupHere?_of_mem way member name
  constructor
  · rintro ⟨listed, declared, holds⟩
    obtain ⟨scope, member, rfl⟩ := List.mem_map.mp listed
    rw [asked member, Except.ok.injEq] at holds
    exact ⟨scope, member, rfl, by rw [holds, Option.isSome_some]⟩
  · rintro ⟨scope, member, rfl, held⟩
    obtain ⟨declared, holds⟩ := Option.isSome_iff_exists.mp held
    exact ⟨List.mem_map_of_mem member, declared, by rw [asked member, holds]⟩

theorem WellFormed.lookupWithScope?_eq_none_iff (name : String) :
    tree.lookupWithScope? viewpoint name = .ok none ↔
      ∀ number ∈ scopes.map Scope.number, tree.lookupHere? number name = .ok none := by
  have asked {scope : Scope} (member : scope ∈ scopes) :=
    wellFormed.lookupHere?_of_mem way member name
  rw [lookupWithScope?, searchOutward_eq way, Except.ok.injEq, List.findSome?_eq_none_iff,
    List.forall_mem_map]
  refine forall₂_congr fun scope member => ?_
  rw [asked member, Except.ok.injEq, Option.map_eq_none_iff]

variable (descending : (scopes.map Scope.number).Pairwise (· > ·))

include descending

/-- **Along descending numbers, a name is found in the holder with the greatest one.** -/
theorem WellFormed.lookupWithScope?_eq_some_iff (name : String) (holder : Nat)
    (declared : Declared) :
    tree.lookupWithScope? viewpoint name = .ok (some (holder, declared)) ↔
      IsGreatest (tree.holdersAmong (scopes.map Scope.number) name) holder ∧
        tree.lookupHere? holder name = .ok (some declared) := by
  have asked {scope : Scope} (member : scope ∈ scopes) :=
    wellFormed.lookupHere?_of_mem way member name
  rw [lookupWithScope?, searchOutward_eq way, Except.ok.injEq, List.findSome?_eq_some_iff]
  constructor
  · rintro ⟨before, scope, further, rfl, answers, vacant⟩
    obtain ⟨_, holds, ⟨rfl, rfl⟩⟩ := Option.map_eq_some_iff.mp answers
    have member : scope ∈ before ++ scope :: further := by simp
    refine ⟨⟨(wellFormed.mem_holdersAmong_iff way).mpr ⟨scope, member, rfl, ?_⟩, ?_⟩, ?_⟩
    · rw [holds, Option.isSome_some]
    · intro number listed
      obtain ⟨other, inWay, rfl, held⟩ := (wellFormed.mem_holdersAmong_iff way).mp listed
      rcases List.mem_append.mp inWay with nearer | rest
      · rw [Option.map_eq_none_iff.mp (vacant other nearer)] at held
        cases held
      rcases List.mem_cons.mp rest with rfl | outer
      · exact Nat.le_refl _
      · rw [List.map_append, List.map_cons] at descending
        have fromHere := (List.pairwise_append.mp descending).2.1
        exact Nat.le_of_lt
          ((List.pairwise_cons.mp fromHere).1 _ (List.mem_map_of_mem outer))
    · rw [asked member, holds]
  · rintro ⟨⟨listed, greatest⟩, holds⟩
    obtain ⟨scope, member, rfl, _⟩ := (wellFormed.mem_holdersAmong_iff way).mp listed
    rw [asked member, Except.ok.injEq] at holds
    obtain ⟨before, further, rfl⟩ := List.append_of_mem member
    refine ⟨before, scope, further, rfl, by rw [holds, Option.map_some], ?_⟩
    intro nearer inBefore
    rw [Option.map_eq_none_iff, ← Option.not_isSome_iff_eq_none]
    intro held
    -- A nearer scope has a greater number, so it cannot hold the name.
    have larger : scope.number < nearer.number := by
      rw [List.map_append, List.map_cons] at descending
      exact (List.pairwise_append.mp descending).2.2 _ (List.mem_map_of_mem inBefore) _
        List.mem_cons_self
    exact absurd (greatest ((wellFormed.mem_holdersAmong_iff way).mpr
      ⟨nearer, List.mem_append_left _ inBefore, rfl, held⟩)) (Nat.not_le.mpr larger)

/-- Along descending numbers, the nearest holder is found from all scopes that are not
beyond it. -/
theorem WellFormed.findsNearest (name : String) :
    tree.FindsNearest viewpoint (scopes.map Scope.number) name where
  eq_some_iff := wellFormed.lookupWithScope?_eq_some_iff way descending name
  eq_none_iff := wellFormed.lookupWithScope?_eq_none_iff way name
  eq_between holder declared found between onWay within := by
    obtain ⟨⟨⟨listed, held⟩, greatest⟩, holds⟩ :=
      (wellFormed.lookupWithScope?_eq_some_iff way descending name holder declared).mp found
    obtain ⟨outer, member, rfl⟩ := List.mem_map.mp onWay
    obtain ⟨before, further, rfl⟩ := List.append_of_mem member
    rw [List.map_append] at listed greatest descending
    obtain ⟨_, fromOuter, larger⟩ := List.pairwise_append.mp descending
    have rest := wellFormed.outward_of_append way
    refine (wellFormed.lookupWithScope?_eq_some_iff rest fromOuter name holder declared).mpr
      ⟨⟨⟨?_, held⟩, ?_⟩, holds⟩
    · rcases List.mem_append.mp listed with nearer | further
      · exact absurd (larger holder nearer outer.number List.mem_cons_self)
          (Nat.not_lt.mpr within)
      · exact further
    · rintro number ⟨further, holds⟩
      exact greatest ⟨List.mem_append_right _ further, holds⟩

end Descending

/-- **What is further out than the holder makes no difference.**  If two trees have the same
way outward, and all scopes on it up to the holder hold the name alike, then what is found in
the one is found in the other. -/
theorem WellFormed.lookupWithScope?_of_agree {next : ScopeTree} (wellFormed : tree.WellFormed)
    (wellFormed' : next.WellFormed) {viewpoint : Nat} {scopes scopes' : List Scope}
    (way : tree.outward viewpoint = ⟨scopes, .ok ()⟩)
    (way' : next.outward viewpoint = ⟨scopes', .ok ()⟩)
    (numbers : scopes'.map Scope.number = scopes.map Scope.number)
    (descending : (scopes.map Scope.number).Pairwise (· > ·)) {name : String} {holder : Nat}
    {declared : Declared}
    (agree : ∀ number ∈ scopes.map Scope.number, holder ≤ number →
      next.lookupHere? number name = tree.lookupHere? number name)
    (found : tree.lookupWithScope? viewpoint name = .ok (some (holder, declared))) :
    next.lookupWithScope? viewpoint name = .ok (some (holder, declared)) := by
  obtain ⟨⟨⟨listed, held⟩, greatest⟩, holds⟩ :=
    (wellFormed.lookupWithScope?_eq_some_iff way descending name holder declared).mp found
  have here := (agree holder listed (Nat.le_refl holder)).trans holds
  refine (wellFormed'.lookupWithScope?_eq_some_iff way' (numbers ▸ descending) name holder
    declared).mpr ⟨⟨⟨numbers ▸ listed, declared, here⟩, ?_⟩, here⟩
  rintro number ⟨onWay, other, holdsToo⟩
  rw [numbers] at onWay
  rcases Nat.le_total number holder with outer | inner
  · exact outer
  · exact greatest ⟨onWay, other, (agree number onWay inner).symm.trans holdsToo⟩

/-- A name that is held by some scope besides the global one is found alike in two trees that
agree about it in all scopes on the way but the global one. -/
theorem WellFormed.lookupWithScope?_congr_of_held {next : ScopeTree} (wellFormed : tree.WellFormed)
    (wellFormed' : next.WellFormed) {number : Nat} {scopes scopes' : List Scope}
    (way : tree.outward number = ⟨scopes, .ok ()⟩)
    (way' : next.outward number = ⟨scopes', .ok ()⟩)
    (numbers : scopes'.map Scope.number = scopes.map Scope.number)
    (descending : (scopes.map Scope.number).Pairwise (· > ·)) {name : String}
    (agree : ∀ number ∈ scopes.map Scope.number, number ≠ root →
      tree.lookupHere? number name = next.lookupHere? number name)
    (held : ∃ holder ∈ next.holdersAmong (scopes.map Scope.number) name, holder ≠ root) :
    tree.lookupWithScope? number name = next.lookupWithScope? number name := by
  obtain ⟨holder, ⟨listed, declared, holds⟩, notRoot⟩ := held
  rw [← numbers] at descending listed agree
  -- The name is found, and not further out than the holder, which is not the global scope.
  have finds := wellFormed'.findsNearest way' descending name
  obtain ⟨found, answer⟩ := (everyWalk_returns way').lookupWithScope? name
  cases found with
  | none =>
      rw [finds.eq_none_iff.mp answer holder listed] at holds
      cases holds
  | some place =>
      obtain ⟨nearest, nearestDeclared⟩ := place
      have greatest := ((finds.eq_some_iff nearest nearestDeclared).mp answer).1.2
      have inner : holder ≤ nearest := greatest ⟨listed, declared, holds⟩
      rw [answer]
      refine wellFormed'.lookupWithScope?_of_agree wellFormed way' way numbers.symm descending ?_
        answer
      intro other onWay within
      refine agree other onWay ?_
      have := Nat.pos_of_ne_zero notRoot
      exact Nat.ne_of_gt (Nat.lt_of_lt_of_le this (inner.trans within))

/-! ## Walks in trees that runs lead to -/

/-- **Walks outward are safe and find the nearest holder.**  From every scope that exists
the way outward descends to the global scope, through scopes that exist, and the way from
each of them is the rest of it; every walk returns, and every name is found in the nearest
scope that holds it.  From a number that no scope has, every walk fails. -/
theorem walks_of_callAll {start : ScopeTree} (begins : start.Begins) {calls : List Call}
    (inside : start.RunsInside calls) (run : start.callAll calls = .ok tree) :
    (∀ viewpoint < tree.size, tree.EveryWalk Returns viewpoint ∧
      ∃ chain, tree.scopeChain viewpoint = .ok chain ∧ LeadsToRoot viewpoint chain ∧
        (∀ number ∈ chain, number < tree.size) ∧
        (∀ before outer further, chain = before ++ outer :: further →
          tree.scopeChain outer = .ok (outer :: further)) ∧
        ∀ name, tree.FindsNearest viewpoint chain name) ∧
    ∀ viewpoint ≥ tree.size,
      tree.EveryWalk (· = .error (.noSuchScope tree.size viewpoint)) viewpoint ∧
        (Fault.noSuchScope tree.size viewpoint).message =
          "index out of bounds: the len is " ++ toString tree.size ++
            " but the index is " ++ toString viewpoint := by
  have wellFormed := begins.wellFormed.callAll run
  have parentsFirst := (parentsFirst_callAll_iff run).mpr ⟨begins.parentsFirst, inside⟩
  refine ⟨?within, fun viewpoint beyond => ⟨everyWalk_fails beyond, rfl⟩⟩
  intro viewpoint within
  obtain ⟨scopes, way, leads⟩ := wellFormed.exists_outward parentsFirst within
  refine ⟨everyWalk_returns way, scopes.map Scope.number, scopeChain_eq way, leads, ?inTree, ?rest,
    fun name => wellFormed.findsNearest way leads.descending name⟩
  case inTree =>
    intro number listed
    obtain ⟨scope, member, rfl⟩ := List.mem_map.mp listed
    exact lt_size_of_getElem? (wellFormed.getElem?_of_mem_outward (by rwa [way]))
  case rest =>
    intro before outer further isChain
    obtain ⟨nearer, rest, rfl, rfl, isRest⟩ := List.map_eq_append_iff.mp isChain
    obtain ⟨scope, beyond, rfl, rfl, rfl⟩ := List.map_eq_cons_iff.mp isRest
    rw [scopeChain_eq (wellFormed.outward_of_append way), List.map_cons]

/-- From the inner one of two nested blocks a name of the outer one is found there, as it is
from the outer block itself; and there is no third block. -/
theorem walks_of_nested_run :
    ∃ tree, ScopeTree.initial.callAll
        [.openScope 0 ⟨1⟩ .block none, .openScope 1 ⟨2⟩ .block none,
          .declare 1 "x" ⟨⟨0, 0⟩, .variableDecl (Sample.var 3 "x")⟩ .lastWins] = .ok tree ∧
      tree.scopeChain 2 = .ok [2, 1, 0] ∧
      tree.lookupWithScope? 2 "x" =
        .ok (some (1, ⟨⟨0, 0⟩, .variableDecl (Sample.var 3 "x")⟩)) ∧
      tree.lookupWithScope? 1 "x" =
        .ok (some (1, ⟨⟨0, 0⟩, .variableDecl (Sample.var 3 "x")⟩)) ∧
      tree.lookup? 3 "x" = .error (.noSuchScope 3 3) := by
  obtain ⟨tree, run, size, inInner, inOuter, ⟨inner, isInner, fromInner, isTwo⟩,
      ⟨outer, isOuter, fromOuter, isOne⟩, ⟨outermost, isOutermost, inNothing, isZero⟩⟩ :
      ∃ tree, ScopeTree.initial.callAll
          [.openScope 0 ⟨1⟩ .block none, .openScope 1 ⟨2⟩ .block none,
            .declare 1 "x" ⟨⟨0, 0⟩, .variableDecl (Sample.var 3 "x")⟩ .lastWins] = .ok tree ∧
        tree.size = 3 ∧
        tree.lookupHere? 2 "x" = .ok none ∧
        tree.lookupHere? 1 "x" = .ok (some ⟨⟨0, 0⟩, .variableDecl (Sample.var 3 "x")⟩) ∧
        (∃ scope, tree.scopes[2]? = some scope ∧ scope.parent? = some 1 ∧ scope.number = 2) ∧
        (∃ scope, tree.scopes[1]? = some scope ∧ scope.parent? = some 0 ∧ scope.number = 1) ∧
        ∃ scope, tree.scopes[0]? = some scope ∧ scope.parent? = none ∧ scope.number = 0 :=
    ⟨_, rfl, rfl, rfl, rfl, ⟨_, rfl, rfl, rfl⟩, ⟨_, rfl, rfl, rfl⟩, _, rfl, rfl, rfl⟩
  have inside : ScopeTree.initial.RunsInside [.openScope 0 ⟨1⟩ .block none,
      .openScope 1 ⟨2⟩ .block none,
      .declare 1 "x" ⟨⟨0, 0⟩, .variableDecl (Sample.var 3 "x")⟩ .lastWins] := by
    refine ⟨Nat.one_pos, ?_⟩
    rintro _ ⟨⟩
    refine ⟨Nat.lt_succ_self 1, ?_⟩
    rintro _ ⟨⟩
    exact ⟨trivial, fun _ _ => trivial⟩
  have isChain : tree.scopeChain 2 = .ok [2, 1, 0] := by
    rw [scopeChain_of_parent isInner fromInner Nat.one_lt_two,
      scopeChain_of_parent isOuter fromOuter Nat.zero_lt_one,
      scopeChain_eq (outward_of_outermost isOutermost inNothing), List.map_singleton,
      isTwo, isOne, isZero]
    rfl
  obtain ⟨safe, fails⟩ := walks_of_callAll .initial inside run
  obtain ⟨_, _, isChain', _, _, _, finds⟩ := safe 2 (size ▸ by decide)
  obtain rfl := Except.ok.inj (isChain.symm.trans isChain')
  have found : tree.lookupWithScope? 2 "x" =
      .ok (some (1, ⟨⟨0, 0⟩, .variableDecl (Sample.var 3 "x")⟩)) := by
    refine ((finds "x").eq_some_iff _ _).mpr ⟨⟨⟨by decide, _, inOuter⟩, ?_⟩, inOuter⟩
    rintro number ⟨listed, declared, holds⟩
    rcases List.mem_cons.mp listed with rfl | further
    · rw [inInner] at holds
      cases holds
    · have : number = 1 ∨ number = 0 := by simpa using further
      omega
  have beyond := (fails 3 (Nat.le_of_eq size)).1.lookup? "x"
  rw [size] at beyond
  exact ⟨tree, run, isChain, found, (finds "x").eq_between _ _ found 1 (by decide) (Nat.le_refl 1),
    beyond⟩

end ScopeTree

end DecafScopes
