import Mathlib.Data.List.Induction
import DecafScopes.Binding.Lexical
import DecafScopes.Scope.Lookup

/-!
# What each operation does to a scope tree

A declaration enters a symbol table under its own name, and a redeclaration
changes the table only if the last declaration wins.  A table into which the
declarations of a level have been entered one after the other gives, for every
name, the winner of the level (`SymbolTable.find?_ofLevel`).

Every operation on a scope tree succeeds under a plain condition, and what it
leaves is said by one equation each: `ScopeTree.bind_eq_ok`,
`ScopeTree.openScope_eq_ok` and `ScopeTree.declare_eq_ok`.
-/

set_option autoImplicit false

namespace DecafScopes

/-! ## Winners of growing levels -/

namespace Redeclaration

@[simp] theorem winner?_nil (redeclaration : Redeclaration) (name : String) :
    redeclaration.winner? name [] = none := by
  cases redeclaration <;> rfl

/-- One more declaration at the end of a level wins its own name, unless the
first one wins and there is an earlier one. -/
theorem winner?_concat (redeclaration : Redeclaration) (name : String) (level : List Declared)
    (declared : Declared) :
    redeclaration.winner? name (level ++ [declared]) =
      if declared.name = name then
        match redeclaration with
        | .lastWins => some declared
        | .firstWins => (redeclaration.winner? name level).or (some declared)
      else redeclaration.winner? name level := by
  cases redeclaration with
  | lastWins =>
      simp only [winner?, List.reverse_append, List.reverse_singleton, List.singleton_append,
        List.find?_cons]
      split
      next same => rw [if_pos (beq_iff_eq.mp same)]
      next other => rw [if_neg (beq_eq_false_iff_ne.mp other)]
  | firstWins =>
      simp only [winner?, List.find?_append, List.find?_singleton, beq_iff_eq]
      split
      · rfl
      · exact Option.or_none

/-- The winner is one of the declarations of a level and has the name. -/
theorem mem_of_winner? {redeclaration : Redeclaration} {name : String} {level : List Declared}
    {declared : Declared} (wins : redeclaration.winner? name level = some declared) :
    declared ∈ level ∧ declared.name = name := by
  cases redeclaration with
  | lastWins =>
      rw [winner?] at wins
      have named := List.find?_some wins
      exact ⟨List.mem_reverse.mp (List.mem_of_find?_eq_some wins), beq_iff_eq.mp named⟩
  | firstWins =>
      rw [winner?] at wins
      have named := List.find?_some wins
      exact ⟨List.mem_of_find?_eq_some wins, beq_iff_eq.mp named⟩

end Redeclaration

/-! ## Tables -/

namespace SymbolTable

/-- Enters a declaration under its own name. -/
def enter (redeclaration : Redeclaration) (table : SymbolTable) (declared : Declared) :
    SymbolTable :=
  match redeclaration, table.find? declared.name with
  | .firstWins, some _ => table
  | .firstWins, none | .lastWins, _ => (table.add declared.name declared).2

/-- The table into which the declarations of a level have been entered. -/
def ofLevel (redeclaration : Redeclaration) (level : List Declared) : SymbolTable :=
  level.foldl (enter redeclaration) .empty

theorem ofLevel_concat (redeclaration : Redeclaration) (level : List Declared)
    (declared : Declared) :
    ofLevel redeclaration (level ++ [declared]) =
      (ofLevel redeclaration level).enter redeclaration declared := by
  simp only [ofLevel, List.foldl_append, List.foldl_cons, List.foldl_nil]

theorem find?_enter (redeclaration : Redeclaration) (table : SymbolTable) (declared : Declared)
    (name : String) :
    (table.enter redeclaration declared).find? name =
      if declared.name = name then
        match redeclaration with
        | .lastWins => some declared
        | .firstWins => (table.find? name).or (some declared)
      else table.find? name := by
  by_cases same : declared.name = name
  · subst same
    rw [if_pos rfl]
    cases redeclaration with
    | lastWins => simp only [enter, find?_add, if_true]
    | firstWins =>
        cases held : table.find? declared.name with
        | none => simp only [enter, held, find?_add, if_true, Option.none_or]
        | some previous => simp only [enter, held, Option.some_or]
  · rw [if_neg same]
    unfold enter
    split
    · rfl
    all_goals rw [find?_add, if_neg same]

/-- **A table gives every name to the winner of the level that was entered.** -/
theorem find?_ofLevel (redeclaration : Redeclaration) (level : List Declared) (name : String) :
    (ofLevel redeclaration level).find? name = redeclaration.winner? name level := by
  induction level using List.reverseRecOn with
  | nil => rw [Redeclaration.winner?_nil]; exact find?_empty name
  | append_singleton level declared ih =>
      rw [ofLevel_concat, find?_enter, Redeclaration.winner?_concat, ih]

/-- Entering a declaration makes a table larger if its name was not held. -/
theorem size_enter (redeclaration : Redeclaration) (table : SymbolTable) (declared : Declared) :
    (table.enter redeclaration declared).size =
      if (table.find? declared.name).isSome then table.size else table.size + 1 := by
  have added := size_add table declared.name declared
  rw [contains_eq_isSome_find?] at added
  unfold enter
  split
  next held => simp only [held, Option.isSome_some, if_true]
  all_goals exact added

/-- A table lists as many names as it has. -/
theorem length_toList (table : SymbolTable) : table.toList.length = table.size :=
  Std.TreeMap.length_toList

end SymbolTable

/-! ## Operations -/

namespace ScopeTree

variable {tree : ScopeTree}

theorem scope_eq_ok_iff {number : Nat} {scope : Scope} :
    tree.scope number = .ok scope ↔ tree.scopes[number]? = some scope := by
  unfold ScopeTree.scope
  cases tree.scopes[number]? with
  | none => simp
  | some found => simp

/-- A node that is not bound yet can be bound to any scope. -/
theorem bind_eq_ok {node : NodeId} (fresh : tree.scopeAround? node = none) (number : Nat) :
    tree.bind node number = .ok { tree with bindings := tree.bindings.insert node number } := by
  have missing : tree.bindings[node]? = none := fresh
  have unbound : tree.bindings.contains node = false := by
    rw [Std.TreeMap.contains_eq_isSome_getElem?, missing, Option.isSome_none]
  simp only [ScopeTree.bind, unbound, Bool.false_eq_true, if_false]

/-- A node that is bound cannot be bound again. -/
theorem bind_eq_error {node : NodeId} (bound : (tree.scopeAround? node).isSome) (number : Nat) :
    tree.bind node number = .error (.boundTwice node) := by
  have listed : tree.bindings.contains node = true := by
    rw [Std.TreeMap.contains_eq_isSome_getElem?]
    exact bound
  simp only [ScopeTree.bind, listed, if_true]

theorem scopeAround?_insert (node : NodeId) (number : Nat) (sought : NodeId) :
    ({ tree with bindings := tree.bindings.insert node number } : ScopeTree).scopeAround? sought =
      if node = sought then some number else tree.scopeAround? sought := by
  simp only [scopeAround?, Std.TreeMap.getElem?_insert, Std.LawfulEqCmp.compare_eq_iff_eq]

/-- A node that has not been bound is bound, and nothing else changes. -/
theorem scopeAround?_insert_eq_some_iff {node : NodeId} (fresh : tree.scopeAround? node = none)
    {number scope : Nat} {sought : NodeId} :
    ({ tree with bindings := tree.bindings.insert node number } : ScopeTree).scopeAround? sought =
        some scope ↔
      tree.scopeAround? sought = some scope ∨ node = sought ∧ number = scope := by
  rw [scopeAround?_insert]
  by_cases same : node = sought
  · subst same
    simp [fresh]
  · simp [same]

/-- A node that has not been bound counts when it is. -/
theorem bindingCount_insert {node : NodeId} (fresh : tree.scopeAround? node = none)
    (number : Nat) :
    ({ tree with bindings := tree.bindings.insert node number } : ScopeTree).bindingCount =
      tree.bindingCount + 1 := by
  have missing : tree.bindings[node]? = none := fresh
  have unbound : tree.bindings.contains node = false := by
    rw [Std.TreeMap.contains_eq_isSome_getElem?, missing, Option.isSome_none]
  rw [bindingCount, Std.TreeMap.size_insert]
  exact if_neg (Bool.not_eq_true _ ▸ unbound)

/-- A scope can be opened in any scope that exists, by a node that has opened
none. -/
theorem openScope_eq_ok {parent : Nat} {opener : NodeId} (inside : parent < tree.size)
    (fresh : tree.openedBy? opener = none) (kind : ScopeKind) (owner : Option Declared) :
    tree.openScope parent opener kind owner =
      .ok (tree.size, { tree with
        scopes := (tree.scopes.push
          ⟨tree.size, kind, some ⟨parent, opener⟩, #[], owner, .empty⟩).modify parent
            fun outer => { outer with children := outer.children.push tree.size }
        openings := tree.openings.insert opener tree.size }) := by
  have missing : tree.openings[opener]? = none := fresh
  have closed : tree.openings.contains opener = false := by
    rw [Std.TreeMap.contains_eq_isSome_getElem?, missing, Option.isSome_none]
  have present : ¬ tree.scopes.size + 1 ≤ parent := by
    unfold size at inside
    omega
  simp only [openScope, size, Array.size_push, present, closed, Bool.false_eq_true, if_false]

/-- Enters a declaration into a scope. -/
def enter (redeclaration : Redeclaration) (tree : ScopeTree) (number : Nat)
    (declared : Declared) : ScopeTree :=
  { tree with
    scopes := tree.scopes.modify number fun changed =>
      { changed with table := changed.table.enter redeclaration declared } }

/-- A name can be declared in any scope that exists, and it is refused if a
declaration holds it there. -/
theorem declare_eq_ok {number : Nat} {scope : Scope} (found : tree.scopes[number]? = some scope)
    (declared : Declared) (redeclaration : Redeclaration) :
    tree.declare number declared.name declared redeclaration =
      .ok ((scope.holder? declared.name).map fun previous =>
          .redeclared declared.name declared.span previous.span,
        tree.enter redeclaration number declared) := by
  have within := scope_eq_ok_iff.mpr found
  have entered (changed : Scope → Scope)
      (same : changed scope =
        { scope with table := scope.table.enter redeclaration declared }) :
      ({ tree with scopes := tree.scopes.modify number changed } : ScopeTree) =
        tree.enter redeclaration number declared := by
    unfold enter
    congr 1
    apply Array.ext_getElem?
    intro index
    rw [Array.getElem?_modify, Array.getElem?_modify]
    split
    next here =>
      rw [← here, found]
      exact congrArg some same
    · rfl
  unfold declare
  rw [within]
  cases held : scope.table.find? declared.name with
  | none =>
      have changes := entered
        (fun changed => { changed with table := (changed.table.add declared.name declared).2 })
        (by cases redeclaration <;> simp only [SymbolTable.enter, held])
      simp only [Scope.holder?, held, Option.map_none, setHolder, changes]
  | some previous =>
      cases redeclaration with
      | lastWins =>
          have changes := entered
            (fun changed => { changed with table := (changed.table.add declared.name declared).2 })
            (by simp only [SymbolTable.enter])
          simp only [Scope.holder?, held, Option.map_some, setHolder, changes]
      | firstWins =>
          have unchanged := entered id (by simp only [SymbolTable.enter, held]; rfl)
          have same : tree.scopes.modify number id = tree.scopes := by
            apply Array.ext_getElem?
            intro index
            rw [Array.getElem?_modify]
            split <;> simp
          rw [same] at unchanged
          simp only [Scope.holder?, held, Option.map_some, ← unchanged]

end ScopeTree

end DecafScopes
