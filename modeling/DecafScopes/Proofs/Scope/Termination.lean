import DecafScopes.Proofs.Scope.Outward
import DecafScopes.Proofs.Scope.Representation

/-!
# When all ways outward end

No parent has a larger number than its child, so a way outward either leads over smaller
and smaller numbers to the global scope, or it comes to a scope that is its own parent
and goes no further.

Scopes that are their own parents do occur: one that is opened counts as present when its
parent is looked for, so that it may be opened in itself.  A tree has none, and all ways
in it end, if and only if every scope was opened in one that was there before
(`ScopeTree.leadsToRoot_iff_of_callAll`).
-/

set_option autoImplicit false

namespace DecafScopes

/-- Whether a call opens a scope only in one that is there before. -/
def Call.OpensInside (tree : ScopeTree) : Call → Prop
  | openScope parent .. => parent < tree.size
  | declare .. | bind .. => True

namespace ScopeTree

variable {tree : ScopeTree}

/-- Whether all scopes that a run of calls opens are opened in scopes that are there
before. -/
def RunsInside (tree : ScopeTree) : List Call → Prop
  | [] => True
  | first :: later =>
      first.OpensInside tree ∧ ∀ next, tree.call first = .ok next → next.RunsInside later

/-- Every parent has a smaller number than its child. -/
def ParentsFirst (tree : ScopeTree) : Prop :=
  ∀ (number : Nat) (scope : Scope), tree.scopes[number]? = some scope →
    ∀ parent, scope.parent? = some parent → parent < number

/-- A scope that lies directly in itself. -/
def OwnParent (tree : ScopeTree) (number : Nat) : Prop :=
  ∃ scope, tree.scopes[number]? = some scope ∧ scope.parent? = some number

/-! ## Which runs put parents first -/

theorem parentsFirst_initial : ScopeTree.initial.ParentsFirst := by
  intro number scope found parent inside
  obtain ⟨rfl, rfl⟩ := eq_of_getElem?_initial found
  cases inside

/-- Only the scopes without their tables matter. -/
theorem ParentsFirst.congr {next : ScopeTree} (parentsFirst : tree.ParentsFirst)
    (frames : next.scopes.map Scope.frame = tree.scopes.map Scope.frame) :
    next.ParentsFirst := by
  intro number scope found parent inside
  obtain ⟨old, isOld, same⟩ := exists_of_map_frame_eq frames found
  obtain ⟨_, _, attachment, _⟩ := Scope.frame_eq_frame_iff.mp same
  refine parentsFirst number old isOld parent ?_
  rw [Scope.parent?, attachment]
  exact inside

/-- Parents that come first at some moment came first before. -/
theorem ParentsFirst.of_keptBy {calls : List Call} {final : ScopeTree}
    (parentsFirst : final.ParentsFirst) (kept : KeptBy calls tree final) :
    tree.ParentsFirst := by
  intro number scope found parent inside
  obtain ⟨scope', found', _, same, _⟩ := kept.scope_eq number scope found
  exact parentsFirst number scope' found' parent (same.trans inside)

theorem ParentsFirst.attach (parentsFirst : tree.ParentsFirst) {parent : Nat}
    (within : parent < tree.size) (opener : NodeId) (kind : ScopeKind)
    (owner : Option Declared) : (tree.attach parent opener kind owner).ParentsFirst := by
  intro number scope found outer isOuter
  rw [Scope.parent?] at isOuter
  rcases WellFormed.attach_cases found with ⟨rfl, _, attached, _⟩ | ⟨old, isOld, _, attached, _⟩
  · rw [attached] at isOuter
    cases isOuter
    exact within
  · rw [attached] at isOuter
    exact parentsFirst number old isOld outer isOuter

/-- **A call keeps parents first if it opens a scope in one that is there.** -/
theorem parentsFirst_call_iff {call : Call} {next : ScopeTree}
    (made : tree.call call = .ok next) :
    next.ParentsFirst ↔ tree.ParentsFirst ∧ call.OpensInside tree := by
  have before (parentsFirst : next.ParentsFirst) : tree.ParentsFirst :=
    parentsFirst.of_keptBy (.of_call made)
  cases call with
  | openScope parent opener kind owner =>
      obtain ⟨_, _, rfl⟩ := call_openScope_eq_ok_iff.mp made
      constructor
      · intro parentsFirst
        obtain ⟨scope, found, attached⟩ := (WellFormed.exists_attach_iff
          fun attachment => attachment = some ⟨parent, opener⟩).mpr (by rw [if_pos rfl])
        exact ⟨before parentsFirst, parentsFirst tree.size scope found parent
          (by rw [Scope.parent?, attached, Option.map_some])⟩
      · rintro ⟨parentsFirst, within⟩
        exact parentsFirst.attach within opener kind owner
  | declare number name declared redeclaration =>
      refine ⟨fun parentsFirst => ⟨before parentsFirst, trivial⟩, ?_⟩
      rintro ⟨parentsFirst, _⟩
      rcases eq_or_eq_setHolder_of_call_declare made with rfl | rfl
      · exact parentsFirst
      · exact parentsFirst.congr (map_frame_setHolder number name declared)
  | bind node number =>
      obtain ⟨_, rfl⟩ := bind_eq_ok_iff.mp made
      exact ⟨fun parentsFirst => ⟨parentsFirst, trivial⟩, And.left⟩

/-- **A run keeps parents first if all scopes are opened in ones that are there.** -/
theorem parentsFirst_callAll_iff {calls : List Call} {final : ScopeTree}
    (run : tree.callAll calls = .ok final) :
    final.ParentsFirst ↔ tree.ParentsFirst ∧ tree.RunsInside calls := by
  induction calls generalizing tree with
  | nil =>
      cases run
      simp [RunsInside]
  | cons first later ih =>
      obtain ⟨next, made, rest⟩ := callAll_cons_eq_ok_iff.mp run
      rw [ih rest, parentsFirst_call_iff made, RunsInside]
      simp [made, and_assoc]

/-- Where no scope is its own parent, parents come first. -/
theorem WellFormed.parentsFirst_iff (wellFormed : tree.WellFormed) :
    tree.ParentsFirst ↔ ∀ number, ¬ tree.OwnParent number := by
  constructor
  · rintro parentsFirst number ⟨scope, found, itself⟩
    exact absurd (parentsFirst number scope found number itself) (Nat.lt_irrefl number)
  · intro none number scope found parent inside
    refine Nat.lt_of_le_of_ne (wellFormed.parent_le number scope found parent inside) ?_
    rintro rfl
    exact none parent ⟨scope, found, inside⟩

/-! ## Where ways lead -/

/-- A list of numbers that begins with a given one and descends to that of the global
scope. -/
structure LeadsToRoot (number : Nat) (chain : List Nat) : Prop where
  head?_eq : chain.head? = some number
  getLast?_eq : chain.getLast? = some root
  descending : chain.Pairwise (· > ·)

theorem LeadsToRoot.singleton_root : LeadsToRoot root [root] :=
  ⟨rfl, rfl, List.pairwise_singleton _ _⟩

theorem LeadsToRoot.cons {parent number : Nat} {chain : List Nat}
    (leads : LeadsToRoot parent chain) (smaller : parent < number) :
    LeadsToRoot number (number :: chain) := by
  obtain ⟨isHead, isLast, descending⟩ := leads
  cases chain with
  | nil => cases isHead
  | cons first further =>
      cases isHead
      refine ⟨rfl, isLast, List.pairwise_cons.mpr ⟨?_, descending⟩⟩
      intro outer member
      rcases List.mem_cons.mp member with rfl | member
      · exact smaller
      · exact Nat.lt_trans ((List.pairwise_cons.mp descending).1 outer member) smaller

/-- **A way outward descends to the global scope, or comes to a scope that is its own
parent.** -/
theorem WellFormed.outward_cases (wellFormed : tree.WellFormed) {number : Nat}
    (within : number < tree.size) :
    (∃ scopes, tree.outward number = ⟨scopes, .ok ()⟩ ∧
        LeadsToRoot number (scopes.map Scope.number)) ∨
      ∃ scopes stuck, tree.outward number = ⟨scopes, .error (.endlessWay stuck)⟩ ∧
        stuck ≤ number ∧ tree.OwnParent stuck := by
  induction number using Nat.strongRecOn with
  | ind number ih =>
    have found : tree.scopes[number]? = some tree.scopes[number] :=
      Array.getElem?_eq_getElem within
    have isNumber := wellFormed.number_eq number _ found
    generalize tree.scopes[number] = scope at found isNumber
    cases inside : scope.parent? with
    | none =>
        obtain rfl := (wellFormed.parent?_eq_none_iff number scope found).mp inside
        refine .inl ⟨[scope], outward_of_outermost found inside, ?_⟩
        rw [List.map_singleton, isNumber]
        exact .singleton_root
    | some parent =>
        have noLarger := wellFormed.parent_le number scope found parent inside
        rcases Nat.lt_or_eq_of_le noLarger with smaller | rfl
        · have oneStep := outward_of_parent found inside smaller
          rcases ih parent smaller (Nat.lt_trans smaller within) with
            ⟨scopes, way, leads⟩ | ⟨scopes, stuck, way, noLarger', isStuck⟩
          · refine .inl ⟨scope :: scopes, by rw [oneStep, way], ?_⟩
            rw [List.map_cons, isNumber]
            exact leads.cons smaller
          · exact .inr ⟨scope :: scopes, stuck, by rw [oneStep, way],
              Nat.le_trans noLarger' noLarger, isStuck⟩
        · exact .inr ⟨[scope], parent, outward_of_endless found inside (Nat.lt_irrefl parent),
            Nat.le_refl parent, scope, found, inside⟩

/-- In a tree where parents come first, every way leads to the global scope. -/
theorem WellFormed.exists_outward (wellFormed : tree.WellFormed)
    (parentsFirst : tree.ParentsFirst) {number : Nat} (within : number < tree.size) :
    ∃ scopes, tree.outward number = ⟨scopes, .ok ()⟩ ∧
      LeadsToRoot number (scopes.map Scope.number) := by
  rcases wellFormed.outward_cases within with leads | ⟨_, stuck, _, _, isStuck⟩
  · exact leads
  · exact absurd isStuck (wellFormed.parentsFirst_iff.mp parentsFirst stuck)

section OwnParent

variable {number : Nat} {scope : Scope} (found : tree.scopes[number]? = some scope)
  (itself : scope.parent? = some number)

include found itself

/-- The way from a scope that is its own parent has no end. -/
theorem scopeChain_of_ownParent : tree.scopeChain number = .error (.endlessWay number) := by
  rw [scopeChain, outward_of_endless found itself (Nat.lt_irrefl number)]
  rfl

/-- A name that the scope does not hold is sought in vain from there. -/
theorem lookup?_of_ownParent {name : String} (unheld : scope.holder? name = none) :
    tree.lookup? number name = .error (.endlessWay number) := by
  rw [lookup?, lookupWithScope?, searchOutward,
    outward_of_endless found itself (Nat.lt_irrefl number)]
  simp [unheld, Except.map]

end OwnParent

/-- **The ways in a tree all end at the global scope if and only if every scope that its
run opened was opened in one that was there before.**  Otherwise some scope is its own
parent, and every way that does not end comes to one; a name that it does not hold is
sought from there forever. -/
theorem leadsToRoot_iff_of_callAll {calls : List Call}
    (run : ScopeTree.initial.callAll calls = .ok tree) :
    (ScopeTree.initial.RunsInside calls ↔ tree.ParentsFirst) ∧
      (tree.ParentsFirst ↔ ∀ number < tree.size,
        (∃ chain, tree.scopeChain number = .ok chain ∧ LeadsToRoot number chain) ∧
          ∀ name, ∃ answer, tree.lookup? number name = .ok answer) ∧
      (tree.ParentsFirst ↔ ∀ number, ¬ tree.OwnParent number) ∧
      (∀ number < tree.size,
        (∃ chain, tree.scopeChain number = .ok chain ∧ LeadsToRoot number chain) ∨
          ∃ stuck ≤ number, tree.OwnParent stuck ∧
            tree.scopeChain number = .error (.endlessWay stuck)) ∧
      ∀ (number : Nat) (scope : Scope), tree.scopes[number]? = some scope →
        scope.parent? = some number →
          tree.scopeChain number = .error (.endlessWay number) ∧
            ∀ name, scope.holder? name = none →
              tree.lookup? number name = .error (.endlessWay number) := by
  have wellFormed := WellFormed.initial.callAll run
  refine ⟨?runs, ⟨?ends, ?first⟩, wellFormed.parentsFirst_iff, ?ways, ?stuck⟩
  case runs =>
    rw [parentsFirst_callAll_iff run]
    exact (and_iff_right parentsFirst_initial).symm
  case ends =>
    intro parentsFirst number within
    obtain ⟨scopes, way, leads⟩ := wellFormed.exists_outward parentsFirst within
    exact ⟨⟨_, scopeChain_eq way, leads⟩, fun name => ⟨_, lookup?_eq way name⟩⟩
  case first =>
    intro ends
    apply wellFormed.parentsFirst_iff.mpr
    rintro number ⟨scope, found, itself⟩
    obtain ⟨⟨chain, isChain, _⟩, _⟩ := ends number (lt_size_of_getElem? found)
    rw [scopeChain_of_ownParent found itself] at isChain
    cases isChain
  case ways =>
    intro number within
    rcases wellFormed.outward_cases within with
      ⟨scopes, way, leads⟩ | ⟨scopes, stuck, way, noLarger, isStuck⟩
    · exact .inl ⟨_, scopeChain_eq way, leads⟩
    · exact .inr ⟨stuck, noLarger, isStuck, by rw [scopeChain, way]; rfl⟩
  case stuck =>
    intro number scope found itself
    exact ⟨scopeChain_of_ownParent found itself,
      fun name unheld => lookup?_of_ownParent found itself unheld⟩

/-- A block in a class leads to the global scope. -/
theorem leadsToRoot_nested_run :
    ∃ tree, ScopeTree.initial.callAll
        [.openScope 0 ⟨4⟩ .classBody none, .openScope 1 ⟨2⟩ .block none, .bind ⟨8⟩ 2] = .ok tree ∧
      ∃ chain, tree.scopeChain 2 = .ok chain ∧ LeadsToRoot 2 chain := by
  obtain ⟨tree, run, size⟩ : ∃ tree, ScopeTree.initial.callAll
        [.openScope 0 ⟨4⟩ .classBody none, .openScope 1 ⟨2⟩ .block none, .bind ⟨8⟩ 2] = .ok tree ∧
      2 < tree.size :=
    ⟨_, rfl, Nat.lt_succ_self 2⟩
  obtain ⟨inside, ends, _⟩ := leadsToRoot_iff_of_callAll run
  refine ⟨tree, run, (ends.mp (inside.mp ?_) 2 size).1⟩
  refine ⟨Nat.one_pos, ?_⟩
  rintro _ ⟨⟩
  refine ⟨Nat.lt_succ_self 1, ?_⟩
  rintro _ ⟨⟩
  exact ⟨trivial, fun _ _ => trivial⟩

/-- A scope opened in itself: the call succeeds, and the way from the scope never ends. -/
theorem exists_endless_run :
    ∃ tree, ScopeTree.initial.callAll [.openScope 1 ⟨0⟩ .block none] = .ok tree ∧
      1 < tree.size ∧ ¬ ScopeTree.initial.RunsInside [.openScope 1 ⟨0⟩ .block none] ∧
      ¬ tree.ParentsFirst ∧ tree.scopeChain 1 = .error (.endlessWay 1) ∧
      ∀ name, tree.lookup? 1 name = .error (.endlessWay 1) := by
  obtain ⟨tree, scope, run, found, itself, vacant⟩ : ∃ tree scope,
      ScopeTree.initial.callAll [.openScope 1 ⟨0⟩ .block none] = .ok tree ∧
        tree.scopes[1]? = some scope ∧ scope.parent? = some 1 ∧ scope.table = .empty :=
    ⟨_, _, rfl, rfl, rfl, rfl⟩
  have outside : ¬ ScopeTree.initial.RunsInside [.openScope 1 ⟨0⟩ .block none] :=
    fun inside => absurd inside.1 (Nat.lt_irrefl 1)
  refine ⟨tree, run, lt_size_of_getElem? found, outside, ?_,
    scopeChain_of_ownParent found itself, ?_⟩
  · intro parentsFirst
    exact outside ((parentsFirst_callAll_iff run).mp parentsFirst).2
  · intro name
    refine lookup?_of_ownParent found itself ?_
    rw [Scope.holder?, vacant, SymbolTable.find?_empty]

end ScopeTree

end DecafScopes
