import DecafScopes.Proofs.Binding.Outcome
import DecafScopes.Proofs.Scope.NearestHolder

/-!
# What more steps leave as it is

The steps of a pass can be cut anywhere.  Whatever the steps after the cut do, the scopes
from before it stay where they are, under their numbers and in their parents; what they may
get is further children and further names (`ScopeTree.IsResult.getElem?_later`).  So all
ways outward from them are the same before and after, and a scope into which nothing more is
declared gives the same answers.

Bindings, openings and diagnostics are not taken back either.
-/

set_option autoImplicit false

namespace DecafScopes

namespace Redeclaration

variable (redeclaration : Redeclaration)

/-- More registrations lead to more refusals. -/
theorem refusals_prefix {κ : Type} [DecidableEq κ] (earlier later : List (Registration κ)) :
    redeclaration.refusals earlier <+: redeclaration.refusals (earlier ++ later) := by
  induction later using List.reverseRecOn with
  | nil => simpa only [List.append_nil] using List.prefix_refl (redeclaration.refusals earlier)
  | append_singleton later new ih =>
      rw [← List.append_assoc, refusals_concat]
      exact ih.trans (List.prefix_append _ _)

/-- Of two levels, the second one decides if the last declaration wins, and the first one if
the first declaration does. -/
theorem winner?_append (name : String) (level further : List Declared) :
    redeclaration.winner? name (level ++ further) =
      match redeclaration with
      | .lastWins =>
          (redeclaration.winner? name further).or (redeclaration.winner? name level)
      | .firstWins =>
          (redeclaration.winner? name level).or (redeclaration.winner? name further) := by
  cases redeclaration with
  | lastWins => simp only [winner?, List.reverse_append, List.find?_append]
  | firstWins => simp only [winner?, List.find?_append]

end Redeclaration

/-! ## Reading off more steps -/

namespace Step

variable (number : Nat) (first second : List Step)

/-- The scopes that are opened later inside a scope come after those that are there. -/
theorem openedIn_append :
    openedIn number (first ++ second) = openedIn number first ++
      ((openings second).zipIdx (1 + (openings first).length)).filterMap
        fun (opening, inner) => if opening.parent = number then some inner else none := by
  rw [openedIn, numbered, openings_append, List.zipIdx_append, List.filterMap_append]
  rfl

theorem openedIn_prefix : openedIn number first <+: openedIn number (first ++ second) := by
  rw [openedIn_append]
  exact List.prefix_append _ _

variable {number second} in
theorem openedIn_append_of_forall
    (elsewhere : ∀ opening ∈ openings second, opening.parent ≠ number) :
    openedIn number (first ++ second) = openedIn number first := by
  rw [openedIn_append, List.append_right_eq_self, List.filterMap_eq_nil_iff]
  rintro ⟨opening, inner⟩ member
  exact if_neg (elsewhere opening (List.fst_mem_of_mem_zipIdx member))

/-- Nothing is declared in a scope if no step does it. -/
theorem declaredIn_eq_nil_iff {number : Nat} {steps : List Step} :
    declaredIn number steps = [] ↔ ∀ declared, declare number declared ∉ steps := by
  rw [declaredIn, List.filterMap_eq_nil_iff]
  constructor
  · intro none declared member
    have nothing := none _ member
    rw [declaredIn?, if_pos rfl] at nothing
    cases nothing
  · intro none step member
    cases step with
    | bind node scope => rfl
    | openScope parent opener kind owner => rfl
    | declare scope declared =>
        refine if_neg ?_
        rintro rfl
        exact none declared member

/-- A scope from before is the same later, but for its children and its table. -/
theorem scopeAt?_append (redeclaration : Redeclaration) {number : Nat} (first second : List Step)
    (within : number ≤ (openings first).length) :
    scopeAt? redeclaration (first ++ second) number =
      (scopeAt? redeclaration first number).map fun scope =>
        { scope with
          children := (openedIn number (first ++ second)).toArray
          table := .ofLevel redeclaration (declaredIn number (first ++ second)) } := by
  cases number with
  | zero => rfl
  | succ index =>
      rw [scopeAt?, scopeAt?, openings_append, List.getElem?_append_left within, Option.map_map]
      rfl

end Step

/-! ## The results of some steps and of more -/

namespace ScopeTree.IsResult

variable {redeclaration : Redeclaration} {before after : List Step} {tree final : ScopeTree}
  (result : tree.IsResult redeclaration before)
  (later : final.IsResult redeclaration (before ++ after))

/-- Every scope has the number it is found under. -/
theorem number_eq (result : tree.IsResult redeclaration before) {number : Nat} {scope : Scope}
    (found : tree.scopes[number]? = some scope) : scope.number = number := by
  rw [result.scope_eq] at found
  exact (Step.of_scopeAt?_eq_some redeclaration before number found).1

theorem children_eq (result : tree.IsResult redeclaration before) {number : Nat} {scope : Scope}
    (found : tree.scopes[number]? = some scope) :
    scope.children.toList = Step.openedIn number before := by
  rw [result.scope_eq] at found
  exact (Step.of_scopeAt?_eq_some redeclaration before number found).2.1

/-- In every scope the winner of what has been declared there holds a name. -/
theorem lookupHere?_eq (result : tree.IsResult redeclaration before) {number : Nat}
    (within : number < tree.size) (name : String) :
    tree.lookupHere? number name =
      .ok (redeclaration.winner? name (Step.declaredIn number before)) := by
  have found := Array.getElem?_eq_getElem within
  rw [lookupHere?, scope_eq_ok_iff.mpr found, ← result.holder?_eq found name]
  rfl

/-- The way outward from a scope goes on from its parent. -/
theorem scopeChain_of_numbered (result : tree.IsResult redeclaration before) {opening : Opening}
    {number : Nat} (listed : (opening, number) ∈ Step.numbered before) :
    number < tree.size ∧
      tree.scopeChain number = (tree.scopeChain opening.parent).map (number :: ·) := by
  have found := (result.scope_eq number).trans (Step.scopeAt?_of_numbered _ _ _ listed)
  exact ⟨lt_size_of_getElem? found,
    scopeChain_of_parent found rfl (result.parent_lt opening number listed)⟩

theorem size_pos (result : tree.IsResult redeclaration before) : root < tree.size := by
  rw [result.size_eq]
  exact Nat.succ_pos _

/-- What stands in openers of a program stands in a scope of its tree. -/
theorem scopeInside_lt_size {policy : BindingPolicy} {program : Program}
    (result : tree.IsResult policy.redeclaration (program.steps policy)) {around : List Opener}
    (surround : program.Surround around) : scopeInside around < tree.size := by
  cases surround with
  | nil => exact result.size_pos
  | cons opens occurs _ =>
      obtain ⟨kind, isKind⟩ := Option.isSome_iff_exists.mp opens
      exact (result.scopeChain_of_numbered (Program.mem_numbered_steps policy occurs isKind)).1

include result later

/-- **Scopes stay where they are.**  What they may get are children and names. -/
theorem getElem?_later {number : Nat} (within : number < tree.size) :
    final.scopes[number]? = tree.scopes[number]?.map fun scope =>
      { scope with
        children := (Step.openedIn number (before ++ after)).toArray
        table := .ofLevel redeclaration (Step.declaredIn number (before ++ after)) } := by
  rw [later.scope_eq, result.scope_eq]
  refine Step.scopeAt?_append redeclaration before after ?_
  rw [result.size_eq] at within
  exact Nat.le_of_lt_succ within

theorem size_le : tree.size ≤ final.size := by
  rw [result.size_eq, later.size_eq, Step.openings_append, List.length_append]
  omega

/-- Every scope from before is in the same parent later and holds there what it holds. -/
theorem exists_later (number : Nat) (scope : Scope) (found : tree.scopes[number]? = some scope) :
    ∃ scope', final.scopes[number]? = some scope' ∧ scope'.parent? = scope.parent? ∧
      scope'.number = scope.number ∧
      ∀ name, scope'.holder? name =
        redeclaration.winner? name (Step.declaredIn scope.number (before ++ after)) := by
  have kept := result.getElem?_later later (lt_size_of_getElem? found)
  rw [found] at kept
  refine ⟨_, kept, rfl, rfl, fun name => ?_⟩
  rw [result.number_eq found]
  exact later.holder?_eq kept name

/-- The way outward from a scope is what it was. -/
theorem scopeChain_later {number : Nat} (within : number < tree.size) :
    final.scopeChain number = tree.scopeChain number :=
  scopeChain_congr (result.exists_later later) within fun _ _ same => same.1

/-- A name that no later step declares anywhere in the tree is found where it was found. -/
theorem lookupWithScope?_later_of_undeclared {number : Nat} (within : number < tree.size)
    {name : String}
    (unnamed : ∀ inner < tree.size, ∀ declared ∈ Step.declaredIn inner after,
      declared.name ≠ name) :
    final.lookupWithScope? number name = tree.lookupWithScope? number name := by
  have kept : ∀ (number : Nat) (scope : Scope), tree.scopes[number]? = some scope →
      ∃ scope', final.scopes[number]? = some scope' ∧ scope'.parent? = scope.parent? ∧
        scope'.number = scope.number ∧ scope'.holder? name = scope.holder? name := by
    intro number scope found
    obtain ⟨scope', found', sameParent, sameNumber, holders⟩ :=
      result.exists_later later number scope found
    refine ⟨scope', found', sameParent, sameNumber, ?_⟩
    have none : redeclaration.winner? name (Step.declaredIn number after) = none := by
      rw [Option.eq_none_iff_forall_ne_some]
      intro declared wins
      obtain ⟨member, isName⟩ := Redeclaration.mem_of_winner? wins
      exact unnamed number (lt_size_of_getElem? found) declared member isName
    rw [holders, result.number_eq found, result.holder?_eq found, Step.declaredIn_append,
      Redeclaration.winner?_append, none]
    cases redeclaration with
    | lastWins => exact Option.none_or
    | firstWins => exact Option.or_none
  refine searchOutward_congr kept within ?_
  rintro scope scope' ⟨sameNumber, sameHolder⟩
  rw [sameNumber, sameHolder]

section Quiet

variable {number : Nat} (quiet : Step.declaredIn number after = [])

include quiet

/-- Where nothing more is declared, the table is what it was. -/
theorem table_later {scope scope' : Scope} (found : tree.scopes[number]? = some scope)
    (found' : final.scopes[number]? = some scope') : scope'.table = scope.table := by
  rw [result.table_eq found, later.table_eq found', Step.declaredIn_append, quiet,
    List.append_nil]

theorem lookupHere?_later (within : number < tree.size) (name : String) :
    final.lookupHere? number name = tree.lookupHere? number name := by
  rw [result.lookupHere?_eq within, later.lookupHere?_eq (within.trans_le (result.size_le later)),
    Step.declaredIn_append, quiet, List.append_nil]

/-- Where nothing more is declared or opened, the scope is the same. -/
theorem scope_later (within : number < tree.size)
    (elsewhere : ∀ opening ∈ Step.openings after, opening.parent ≠ number) :
    final.scope number = tree.scope number := by
  have found := Array.getElem?_eq_getElem within
  have kept := result.getElem?_later later within
  have children := result.children_eq found
  have table := result.table_eq found
  generalize tree.scopes[number] = scope at found children table
  rw [found, Step.openedIn_append_of_forall before elsewhere, ← children, Step.declaredIn_append,
    quiet, List.append_nil, ← table] at kept
  rw [scope_eq_ok_iff.mpr found]
  exact scope_eq_ok_iff.mpr kept

end Quiet

/-! ## Nodes and diagnostics -/

theorem scopeAround?_later {node : NodeId} (bound : (tree.scopeAround? node).isSome) :
    final.scopeAround? node = tree.scopeAround? node := by
  obtain ⟨number, around⟩ := Option.isSome_iff_exists.mp bound
  rw [around, later.around_iff, Step.bindings_append]
  exact List.mem_append_left _ ((result.around_iff node number).mp around)

theorem openedBy?_later {node : NodeId} (opened : (tree.openedBy? node).isSome) :
    final.openedBy? node = tree.openedBy? node := by
  obtain ⟨number, opens⟩ := Option.isSome_iff_exists.mp opened
  obtain ⟨opening, listed, isOpener⟩ := (result.opened_iff node number).mp opens
  rw [opens, later.opened_iff]
  refine ⟨opening, ?_, isOpener⟩
  rw [Step.numbered, Step.openings_append, List.zipIdx_append]
  exact List.mem_append_left _ listed

theorem diagnostics_prefix : tree.diagnostics.toList <+: final.diagnostics.toList := by
  rw [result.diagnostics_eq, later.diagnostics_eq, Step.registrations_append]
  exact Redeclaration.refusals_prefix _ _ _

end ScopeTree.IsResult

end DecafScopes
