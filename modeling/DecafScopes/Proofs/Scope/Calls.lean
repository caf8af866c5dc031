import DecafScopes.Proofs.Scope.Growth

/-!
# Calls on a scope tree

A scope tree is changed by three kinds of call: a scope is opened, a name is declared, a
node is bound.  The arguments may be anything; nothing but a fault keeps a call from
being made.  What each call does is said by one equivalence: it succeeds under a plain
condition, and then it leads to one tree.

A scope is opened in a tree by attaching it to its parent (`ScopeTree.attach`).  The
parent may be a scope that is there, and it may be the very scope that is being opened,
because the new scope counts as present when its parent is looked for
(`ScopeTree.openScope_eq_ok_iff`).
-/

set_option autoImplicit false

namespace DecafScopes

/-! ## Outcomes of composite operations -/

section Outcomes

variable {α β : Type} {first : Except Fault α} {value : β}

theorem except_bind_eq_ok_iff {further : α → Except Fault β} :
    first >>= further = .ok value ↔ ∃ middle, first = .ok middle ∧ further middle = .ok value := by
  cases first with
  | error fault => simp [Bind.bind, Except.bind]
  | ok middle => simp [Bind.bind, Except.bind]

theorem except_map_eq_ok_iff {f : α → β} :
    first.map f = .ok value ↔ ∃ middle, first = .ok middle ∧ f middle = value := by
  cases first with
  | error fault => simp [Except.map]
  | ok middle => simp [Except.map]

end Outcomes

/-! ## Calls -/

/-- A call that changes a scope tree. -/
inductive Call where
  | openScope (parent : Nat) (opener : NodeId) (kind : ScopeKind) (owner : Option Declared)
  /-- Declares a name that need not be the declaration's own. -/
  | declare (scope : Nat) (name : String) (declared : Declared) (redeclaration : Redeclaration)
  /-- Binds a node to a scope that need not exist. -/
  | bind (node : NodeId) (scope : Nat)

/-- Whether a call binds a node. -/
def Call.binds : Call → Bool
  | bind .. => true
  | openScope .. | declare .. => false

/-- A scope without its table. -/
def Scope.frame (scope : Scope) : Scope :=
  { scope with table := .empty }

theorem Scope.frame_eq_frame_iff {scope other : Scope} :
    scope.frame = other.frame ↔
      scope.number = other.number ∧ scope.kind = other.kind ∧
        scope.attachment = other.attachment ∧ scope.children = other.children ∧
        scope.owner = other.owner := by
  simp only [frame, Scope.mk.injEq, and_true]

namespace ScopeTree

variable {tree : ScopeTree}

/-- Makes one call; what it returns besides the tree is left out. -/
def call (tree : ScopeTree) : Call → Except Fault ScopeTree
  | .openScope parent opener kind owner =>
      (tree.openScope parent opener kind owner).map Prod.snd
  | .declare scope name declared redeclaration =>
      (tree.declare scope name declared redeclaration).map Prod.snd
  | .bind node scope => tree.bind node scope

/-- Makes calls one after the other, up to the first fault. -/
def callAll (tree : ScopeTree) (calls : List Call) : Except Fault ScopeTree :=
  calls.foldlM call tree

/-- A run of calls goes on from the tree that its first call leads to. -/
theorem callAll_cons_eq_ok_iff {first : Call} {later : List Call} {final : ScopeTree} :
    tree.callAll (first :: later) = .ok final ↔
      ∃ next, tree.call first = .ok next ∧ next.callAll later = .ok final := by
  rw [callAll, List.foldlM_cons]
  exact except_bind_eq_ok_iff

/-- Trees whose scopes are the same without their tables have scopes under the same
numbers. -/
theorem exists_of_map_frame_eq {other : ScopeTree}
    (frames : tree.scopes.map Scope.frame = other.scopes.map Scope.frame) {number : Nat}
    {scope : Scope} (found : tree.scopes[number]? = some scope) :
    ∃ scope', other.scopes[number]? = some scope' ∧ scope'.frame = scope.frame := by
  apply Option.map_eq_some_iff.mp
  rw [← Array.getElem?_map, ← frames, Array.getElem?_map, found, Option.map_some]

/-! ## Opening a scope -/

/-- The tree with one more scope, which is among the children of its parent. -/
def attach (tree : ScopeTree) (parent : Nat) (opener : NodeId) (kind : ScopeKind)
    (owner : Option Declared) : ScopeTree :=
  { tree with
    scopes := (tree.scopes.push
      ⟨tree.size, kind, some ⟨parent, opener⟩, #[], owner, .empty⟩).modify parent
        fun outer => { outer with children := outer.children.push tree.size }
    openings := tree.openings.insert opener tree.size }

/-- **A scope is opened if its parent is there or is the scope itself, and its opener has
opened none.** -/
theorem openScope_eq_ok_iff {parent : Nat} {opener : NodeId} {kind : ScopeKind}
    {owner : Option Declared} {opened : Nat × ScopeTree} :
    tree.openScope parent opener kind owner = .ok opened ↔
      parent ≤ tree.size ∧ tree.openedBy? opener = none ∧
        opened = (tree.size, tree.attach parent opener kind owner) := by
  have fresh : tree.openings.contains opener = false ↔ tree.openedBy? opener = none := by
    rw [Std.TreeMap.contains_eq_isSome_getElem?, openedBy?, ← Option.not_isSome_iff_eq_none,
      Bool.not_eq_true]
  have present : ¬ tree.scopes.size + 1 ≤ parent ↔ parent ≤ tree.size := by
    unfold size
    omega
  unfold openScope
  simp only [Array.size_push]
  split
  next beyond =>
    constructor
    · rintro ⟨⟩
    · rintro ⟨inside, _, _⟩
      exact absurd beyond (present.mpr inside)
  next within =>
    split
    next again =>
      constructor
      · rintro ⟨⟩
      · rintro ⟨_, unopened, _⟩
        rw [fresh.mpr unopened] at again
        cases again
    next once =>
      rw [Bool.not_eq_true] at once
      rw [Except.ok.injEq]
      constructor
      · rintro rfl
        exact ⟨present.mp within, fresh.mp once, rfl⟩
      · rintro ⟨_, _, rfl⟩
        rfl

/-- A scope is not opened beyond the scope itself. -/
theorem openScope_of_beyond {parent : Nat} (beyond : tree.size < parent) (opener : NodeId)
    (kind : ScopeKind) (owner : Option Declared) :
    tree.openScope parent opener kind owner = .error (.noSuchScope (tree.size + 1) parent) := by
  have missing : tree.scopes.size + 1 ≤ parent := beyond
  simp only [openScope, size, Array.size_push, missing, if_true]

/-- A scope is not opened for a node that has opened one. -/
theorem openScope_of_again {parent : Nat} (inside : parent ≤ tree.size) {opener : NodeId}
    (again : (tree.openedBy? opener).isSome) (kind : ScopeKind) (owner : Option Declared) :
    tree.openScope parent opener kind owner = .error (.openedTwice opener) := by
  have present : ¬ tree.scopes.size + 1 ≤ parent := by
    unfold size at inside
    omega
  have listed : tree.openings.contains opener = true := by
    rw [Std.TreeMap.contains_eq_isSome_getElem?]
    exact again
  simp only [openScope, size, Array.size_push, present, listed, if_false, if_true]

theorem call_openScope_eq_ok_iff {parent : Nat} {opener : NodeId} {kind : ScopeKind}
    {owner : Option Declared} {next : ScopeTree} :
    tree.call (.openScope parent opener kind owner) = .ok next ↔
      parent ≤ tree.size ∧ tree.openedBy? opener = none ∧
        next = tree.attach parent opener kind owner := by
  rw [call, except_map_eq_ok_iff]
  simp only [openScope_eq_ok_iff]
  constructor
  · rintro ⟨_, ⟨inside, fresh, rfl⟩, rfl⟩
    exact ⟨inside, fresh, rfl⟩
  · rintro ⟨inside, fresh, rfl⟩
    exact ⟨_, ⟨inside, fresh, rfl⟩, rfl⟩

section Attach

variable (parent : Nat) (opener : NodeId) (kind : ScopeKind) (owner : Option Declared)

@[simp] theorem size_attach : (tree.attach parent opener kind owner).size = tree.size + 1 := by
  simp [attach, size]

/-- A tree with one more scope has the scopes that it had before and the new one, and
the new one is the last of the children of its parent. -/
theorem getElem?_scopes_attach (number : Nat) :
    (tree.attach parent opener kind owner).scopes[number]? =
      (if number = tree.size then
          some ⟨tree.size, kind, some ⟨parent, opener⟩, #[], owner, .empty⟩
        else tree.scopes[number]?).map fun scope =>
          { scope with
            children :=
              if parent = number then scope.children.push tree.size else scope.children } := by
  simp only [attach, Array.getElem?_modify, Array.getElem?_push, size]
  split
  · rfl
  · exact (Option.map_id' (x := _)).symm

theorem openedBy?_attach (node : NodeId) :
    (tree.attach parent opener kind owner).openedBy? node =
      if opener = node then some tree.size else tree.openedBy? node := by
  simp only [attach, openedBy?, Std.TreeMap.getElem?_insert, Std.LawfulEqCmp.compare_eq_iff_eq]

/-- An opener that has opened no scope has opened the new one, and nothing else changes. -/
theorem openedBy?_attach_eq_some_iff {opener : NodeId} (fresh : tree.openedBy? opener = none)
    {node : NodeId} {number : Nat} :
    (tree.attach parent opener kind owner).openedBy? node = some number ↔
      tree.openedBy? node = some number ∨ opener = node ∧ tree.size = number := by
  rw [openedBy?_attach]
  by_cases same : opener = node
  · subst same
    simp [fresh]
  · simp [same]

end Attach

/-! ## Declaring a name -/

/-- **A name is declared in any scope that is there.**  If a declaration holds it, it is
refused, and the holder changes only if the last declaration wins. -/
theorem declare_eq_ok_iff {number : Nat} {name : String} {declared : Declared}
    {redeclaration : Redeclaration} {answer : Option Diagnostic × ScopeTree} :
    tree.declare number name declared redeclaration = .ok answer ↔
      ∃ scope, tree.scopes[number]? = some scope ∧
        answer = ((scope.holder? name).map fun previous =>
            .redeclared name declared.span previous.span,
          if redeclaration = .firstWins ∧ (scope.holder? name).isSome then tree
          else tree.setHolder number name declared) := by
  unfold declare
  cases found : tree.scopes[number]? with
  | none =>
      have missing : tree.scope number = .error (.noSuchScope tree.size number) := by
        simp only [ScopeTree.scope, found]
      simp [missing]
  | some scope =>
      simp only [scope_eq_ok_iff.mpr found, Option.some.injEq, exists_eq_left']
      cases held : scope.holder? name with
      | none => simp [eq_comm]
      | some previous => cases redeclaration <;> simp [eq_comm]

/-- Declaring a name leaves a tree as it is, or lets a declaration hold the name. -/
theorem eq_or_eq_setHolder_of_call_declare {number : Nat} {name : String} {declared : Declared}
    {redeclaration : Redeclaration} {next : ScopeTree}
    (made : tree.call (.declare number name declared redeclaration) = .ok next) :
    next = tree ∨ next = tree.setHolder number name declared := by
  obtain ⟨answer, declares, rfl⟩ := except_map_eq_ok_iff.mp made
  obtain ⟨scope, _, isAnswer⟩ := declare_eq_ok_iff.mp declares
  rw [Prod.mk.injEq] at isAnswer
  split at isAnswer
  · exact .inl isAnswer.2
  · exact .inr isAnswer.2

/-- Letting a declaration hold a name changes no scope but for its table. -/
theorem map_frame_setHolder (number : Nat) (name : String) (declared : Declared) :
    (tree.setHolder number name declared).scopes.map Scope.frame =
      tree.scopes.map Scope.frame := by
  apply Array.ext_getElem?
  intro other
  simp only [setHolder, Array.getElem?_map, Array.getElem?_modify]
  split
  · rw [Option.map_map]
    rfl
  · rfl

/-! ## Binding a node -/

/-- **A node is bound if it has not been bound before.** -/
theorem bind_eq_ok_iff {node : NodeId} {number : Nat} {next : ScopeTree} :
    tree.bind node number = .ok next ↔
      tree.scopeAround? node = none ∧
        next = { tree with bindings := tree.bindings.insert node number } := by
  cases around : tree.scopeAround? node with
  | none =>
      rw [bind_eq_ok around, Except.ok.injEq]
      simp [eq_comm]
  | some scope =>
      rw [bind_eq_error (by rw [around, Option.isSome_some])]
      simp

end ScopeTree

end DecafScopes
