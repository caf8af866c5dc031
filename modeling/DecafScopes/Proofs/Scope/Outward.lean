import Mathlib.Data.List.Forall2
import DecafScopes.Scope.Lookup
import DecafScopes.Proofs.Scope.Growth

/-!
# Ways outward

A way outward goes from a scope to the scope around it, as long as that has a
smaller number, and ends at a scope with nothing around it.  Everything that is
sought along a way that comes to an end can be read off the scopes on it.

A tree that keeps the scopes of another one, each in the same parent, has the same
ways outward from them (`ScopeTree.forall₂_outward`), so searches that cannot tell
the scopes apart give the same answers in both trees.
-/

set_option autoImplicit false

namespace DecafScopes

/-- Lists that are related as by a function are images of each other. -/
theorem eq_map_of_forall₂ {α β : Type} {f : α → β} {list : List α} {list' : List β}
    (related : List.Forall₂ (fun a b => b = f a) list list') : list' = list.map f := by
  induction related with
  | nil => rfl
  | cons here _ ih => rw [here, ih, List.map_cons]

namespace ScopeTree

variable {tree : ScopeTree}

/-! ## One step outward -/

theorem outward_of_outermost {number : Nat} {scope : Scope}
    (found : tree.scopes[number]? = some scope) (outermost : scope.parent? = none) :
    tree.outward number = ⟨[scope], .ok ()⟩ := by
  rw [outward]
  simp only [scope_eq_ok_iff.mpr found, outermost]

theorem outward_of_parent {number parent : Nat} {scope : Scope}
    (found : tree.scopes[number]? = some scope) (inside : scope.parent? = some parent)
    (smaller : parent < number) :
    tree.outward number =
      ⟨scope :: (tree.outward parent).scopes, (tree.outward parent).ending⟩ := by
  rw [outward]
  simp only [scope_eq_ok_iff.mpr found, inside, smaller, if_true]

/-- A way goes no further from a scope whose parent has no smaller number. -/
theorem outward_of_endless {number parent : Nat} {scope : Scope}
    (found : tree.scopes[number]? = some scope) (inside : scope.parent? = some parent)
    (noSmaller : ¬ parent < number) :
    tree.outward number = ⟨[scope], .error (.endlessWay number)⟩ := by
  rw [outward]
  simp only [scope_eq_ok_iff.mpr found, inside, noSmaller, if_false]

theorem outward_of_missing {number : Nat} (missing : tree.scopes[number]? = none) :
    tree.outward number = ⟨[], .error (.noSuchScope tree.size number)⟩ := by
  rw [outward]
  simp only [ScopeTree.scope, missing]

/-- A search that is not answered by a scope goes on in the scope around it. -/
theorem searchOutward_of_parent {number parent : Nat} {scope : Scope}
    (found : tree.scopes[number]? = some scope) (inside : scope.parent? = some parent)
    (smaller : parent < number) {α : Type} (answer? : Scope → Option α) :
    tree.searchOutward number answer? =
      match answer? scope with
      | some answer => .ok (some answer)
      | none => tree.searchOutward parent answer? := by
  simp only [searchOutward, outward_of_parent found inside smaller, List.findSome?_cons]
  cases answer? scope <;> rfl

theorem scopeChain_of_parent {number parent : Nat} {scope : Scope}
    (found : tree.scopes[number]? = some scope) (inside : scope.parent? = some parent)
    (smaller : parent < number) :
    tree.scopeChain number = (tree.scopeChain parent).map (scope.number :: ·) := by
  simp only [scopeChain, outward_of_parent found inside smaller]
  cases (tree.outward parent).ending <;> rfl

/-! ## What is read off a way -/

section

variable {number : Nat} {scopes : List Scope}

theorem searchOutward_eq (way : tree.outward number = ⟨scopes, .ok ()⟩) {α : Type}
    (answer? : Scope → Option α) :
    tree.searchOutward number answer? = .ok (scopes.findSome? answer?) := by
  simp only [searchOutward, way]
  cases scopes.findSome? answer? <;> rfl

theorem scopeChain_eq (way : tree.outward number = ⟨scopes, .ok ()⟩) :
    tree.scopeChain number = .ok (scopes.map Scope.number) := by
  simp only [scopeChain, way]
  rfl

/-- A name is looked up in one scope on the way after the other. -/
theorem lookup?_eq (way : tree.outward number = ⟨scopes, .ok ()⟩) (name : String) :
    tree.lookup? number name = .ok (scopes.findSome? (·.holder? name)) := by
  rw [lookup?, lookupWithScope?, searchOutward_eq way]
  apply congrArg Except.ok
  beta_reduce
  rw [List.map_findSome?]
  apply congrArg (scopes.findSome? ·)
  funext scope
  rw [Function.comp_apply, Option.map_map]
  exact Option.map_id'

end

/-! ## Ways in two trees -/

section TwoTrees

variable {next : ScopeTree} {related : Scope → Scope → Prop}
  (kept : ∀ (number : Nat) (scope : Scope), tree.scopes[number]? = some scope →
    ∃ scope', next.scopes[number]? = some scope' ∧ scope'.parent? = scope.parent? ∧
      related scope scope')
  {number : Nat} (within : number < tree.size)

include kept within

/-- **Where scopes are kept, each in its parent, the ways outward are kept.** -/
theorem forall₂_outward :
    List.Forall₂ related (tree.outward number).scopes (next.outward number).scopes ∧
      (next.outward number).ending = (tree.outward number).ending := by
  induction number using Nat.strongRecOn with
  | ind number ih =>
    obtain ⟨scope', found', sameParent, here⟩ :=
      kept number _ (Array.getElem?_eq_getElem within)
    have found : tree.scopes[number]? = some tree.scopes[number] :=
      Array.getElem?_eq_getElem within
    generalize tree.scopes[number] = scope at found sameParent here
    cases inside : scope.parent? with
    | none =>
        rw [inside] at sameParent
        rw [outward_of_outermost found inside, outward_of_outermost found' sameParent]
        exact ⟨.cons here .nil, rfl⟩
    | some parent =>
        rw [inside] at sameParent
        by_cases smaller : parent < number
        · obtain ⟨further, ends⟩ := ih parent smaller (Nat.lt_trans smaller within)
          rw [outward_of_parent found inside smaller, outward_of_parent found' sameParent smaller]
          exact ⟨.cons here further, ends⟩
        · rw [outward_of_endless found inside smaller,
            outward_of_endless found' sameParent smaller]
          exact ⟨.cons here .nil, rfl⟩

/-- A search gives the same answer in both trees if related scopes do. -/
theorem searchOutward_congr {α : Type} {answer? : Scope → Option α}
    (same : ∀ scope scope', related scope scope' → answer? scope' = answer? scope) :
    next.searchOutward number answer? = tree.searchOutward number answer? := by
  obtain ⟨way, sameEnding⟩ := forall₂_outward kept within
  have answers : (next.outward number).scopes.findSome? answer? =
      (tree.outward number).scopes.findSome? answer? := by
    generalize (tree.outward number).scopes = scopes, (next.outward number).scopes = scopes' at way
    induction way with
    | nil => rfl
    | cons here _ ih => rw [List.findSome?_cons, List.findSome?_cons, same _ _ here, ih]
  simp only [searchOutward, answers, sameEnding]

/-- The way is the same in both trees if related scopes have the same numbers. -/
theorem scopeChain_congr
    (same : ∀ scope scope', related scope scope' → scope'.number = scope.number) :
    next.scopeChain number = tree.scopeChain number := by
  obtain ⟨way, sameEnding⟩ := forall₂_outward kept within
  have numbers : (next.outward number).scopes.map Scope.number =
      (tree.outward number).scopes.map Scope.number := by
    generalize (tree.outward number).scopes = scopes, (next.outward number).scopes = scopes' at way
    induction way with
    | nil => rfl
    | cons here _ ih => rw [List.map_cons, List.map_cons, same _ _ here, ih]
  simp only [scopeChain, numbers, sameEnding]

end TwoTrees

end ScopeTree

end DecafScopes
