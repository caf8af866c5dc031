import DecafScopes.Binding.Pass
import DecafScopes.Proofs.Binding.Registration
import DecafScopes.Proofs.Scope.Growth

/-!
# Reading off steps

What a sequence of steps binds, opens and registers, and which scopes it leads
to, is said of the sequence alone.  Scopes are numbered from one in the order in
which they are opened; the table of a scope is what its declarations leave
(`Step.scopeAt?`).  One more step at the end changes this the way it should
change a tree: the number of a bound node appears, a declaration enters one
table, an opened scope is added and becomes a child.

A step is grounded if it uses only what earlier steps have made.
-/

set_option autoImplicit false

namespace DecafScopes

/-! ## Reading off steps -/

/-- The opening of a scope. -/
structure Opening where
  parent : Nat
  opener : NodeId
  kind : ScopeKind
  owner : Option Declared

namespace Step

@[simp] def binding? : Step → Option (NodeId × Nat)
  | bind node scope => some (node, scope)
  | declare .. | openScope .. => none

@[simp] def opening? : Step → Option Opening
  | openScope parent opener kind owner => some ⟨parent, opener, kind, owner⟩
  | bind .. | declare .. => none

@[simp] def registration? : Step → Option (Registration Nat)
  | declare scope declared => some ⟨scope, declared.declaration⟩
  | bind .. | openScope .. => none

@[simp] def declaredIn? (number : Nat) : Step → Option Declared
  | declare scope declared => if scope = number then some declared else none
  | bind .. | openScope .. => none

/-- The nodes that are bound, each with its scope. -/
def bindings (steps : List Step) : List (NodeId × Nat) :=
  steps.filterMap binding?

/-- The scopes that are opened. -/
def openings (steps : List Step) : List Opening :=
  steps.filterMap opening?

/-- The nodes that are bound. -/
def bound (steps : List Step) : List NodeId :=
  (bindings steps).map Prod.fst

/-- The nodes that open a scope. -/
def openers (steps : List Step) : List NodeId :=
  (openings steps).map Opening.opener

/-- The declarations that are entered, each into its scope. -/
def registrations (steps : List Step) : List (Registration Nat) :=
  steps.filterMap registration?

/-- The declarations that are entered into one scope. -/
def declaredIn (number : Nat) (steps : List Step) : List Declared :=
  steps.filterMap (declaredIn? number)

/-- The scopes that are opened, each with its number. -/
def numbered (steps : List Step) : List (Opening × Nat) :=
  (openings steps).zipIdx 1

/-- The numbers of the scopes that are opened directly inside one scope. -/
def openedIn (number : Nat) (steps : List Step) : List Nat :=
  (numbered steps).filterMap fun (opening, inner) =>
    if opening.parent = number then some inner else none

/-- The scope with a given number that steps lead to. -/
def scopeAt? (redeclaration : Redeclaration) (steps : List Step) : Nat → Option Scope
  | 0 => some ⟨0, .global, none, (openedIn 0 steps).toArray, none,
      .ofLevel redeclaration (declaredIn 0 steps)⟩
  | index + 1 => (openings steps)[index]?.map fun opening =>
      ⟨index + 1, opening.kind, some ⟨opening.parent, opening.opener⟩,
        (openedIn (index + 1) steps).toArray, opening.owner,
        .ofLevel redeclaration (declaredIn (index + 1) steps)⟩

section Lists

variable (number : Nat) (step : Step) (steps first second : List Step)

@[simp] theorem bindings_nil : bindings [] = [] := rfl

@[simp] theorem bindings_cons :
    bindings (step :: steps) = step.binding?.toList ++ bindings steps := by
  cases step <;> rfl

@[simp] theorem bindings_append :
    bindings (first ++ second) = bindings first ++ bindings second :=
  List.filterMap_append

@[simp] theorem openings_nil : openings [] = [] := rfl

@[simp] theorem openings_cons :
    openings (step :: steps) = step.opening?.toList ++ openings steps := by
  cases step <;> rfl

@[simp] theorem openings_append :
    openings (first ++ second) = openings first ++ openings second :=
  List.filterMap_append

@[simp] theorem bound_append : bound (first ++ second) = bound first ++ bound second := by
  simp only [bound, bindings_append, List.map_append]

theorem bound_cons :
    bound (step :: steps) = step.binding?.toList.map Prod.fst ++ bound steps := by
  simp only [bound, bindings_cons, List.map_append]

@[simp] theorem bound_singleton :
    bound [step] = step.binding?.toList.map Prod.fst := by
  simp only [bound, bindings_cons, bindings_nil, List.append_nil]

@[simp] theorem openers_singleton :
    openers [step] = step.opening?.toList.map Opening.opener := by
  simp only [openers, openings_cons, openings_nil, List.append_nil]

@[simp] theorem openers_append :
    openers (first ++ second) = openers first ++ openers second := by
  simp only [openers, openings_append, List.map_append]

@[simp] theorem registrations_nil : registrations [] = [] := rfl

@[simp] theorem registrations_cons :
    registrations (step :: steps) = step.registration?.toList ++ registrations steps := by
  cases step <;> rfl

@[simp] theorem registrations_append :
    registrations (first ++ second) = registrations first ++ registrations second :=
  List.filterMap_append

@[simp] theorem declaredIn_nil : declaredIn number [] = [] := rfl

@[simp] theorem declaredIn_cons :
    declaredIn number (step :: steps) =
      (step.declaredIn? number).toList ++ declaredIn number steps := by
  unfold declaredIn
  rw [List.filterMap_cons]
  cases step.declaredIn? number <;> rfl

@[simp] theorem declaredIn_append :
    declaredIn number (first ++ second) = declaredIn number first ++ declaredIn number second :=
  List.filterMap_append

end Lists

/-! ## One more step -/

section Concat

variable (redeclaration : Redeclaration) (steps : List Step) (number : Nat)

/-- Every scope that steps lead to has the number it is found under, and the
children and the table that can be read off for that number. -/
theorem of_scopeAt?_eq_some {scope : Scope}
    (found : scopeAt? redeclaration steps number = some scope) :
    scope.number = number ∧ scope.children.toList = openedIn number steps ∧
      scope.table = .ofLevel redeclaration (declaredIn number steps) := by
  cases number with
  | zero =>
      cases found
      exact ⟨rfl, rfl, rfl⟩
  | succ index =>
      obtain ⟨_, _, rfl⟩ := Option.map_eq_some_iff.mp found
      exact ⟨rfl, rfl, rfl⟩

theorem mem_numbered_iff {steps : List Step} {opening : Opening} {index : Nat} :
    (opening, index + 1) ∈ numbered steps ↔ (openings steps)[index]? = some opening := by
  rw [numbered, Nat.add_comm]
  exact List.mk_add_mem_zipIdx_iff_getElem?

/-- A scope that has been opened has what it was opened with. -/
theorem scopeAt?_of_numbered {opening : Opening}
    (member : (opening, number) ∈ numbered steps) :
    scopeAt? redeclaration steps number =
      some ⟨number, opening.kind, some ⟨opening.parent, opening.opener⟩,
        (openedIn number steps).toArray, opening.owner,
        .ofLevel redeclaration (declaredIn number steps)⟩ := by
  obtain ⟨index, rfl⟩ := Nat.exists_eq_add_of_le' (List.mem_zipIdx member).1
  simp only [scopeAt?, mem_numbered_iff.mp member, Option.map_some]

/-- The scopes opened inside a scope are numbered in ascending order. -/
theorem pairwise_openedIn : (openedIn number steps).Pairwise (· < ·) := by
  have ascending : (numbered steps).Pairwise fun first second => first.2 < second.2 := by
    rw [← List.pairwise_map, numbered, List.zipIdx_map_snd]
    exact List.pairwise_lt_range'
  refine ascending.filterMap _ ?_
  intro first second smaller earlier isEarlier later isLater
  simp only [Option.ite_none_right_eq_some, Option.some.injEq] at isEarlier isLater
  omega

/-- The scopes opened inside a scope are those that have it as their parent. -/
theorem mem_openedIn_iff {inner : Nat} :
    inner ∈ openedIn number steps ↔
      ∃ scope, scopeAt? redeclaration steps inner = some scope ∧ scope.parent? = some number := by
  constructor
  · intro member
    obtain ⟨⟨opening, rank⟩, listed, isInner⟩ := List.mem_filterMap.mp member
    obtain ⟨isParent, isRank⟩ := Option.ite_none_right_eq_some.mp isInner
    cases isRank
    exact ⟨_, scopeAt?_of_numbered redeclaration steps _ listed, congrArg some isParent⟩
  · rintro ⟨scope, found, isParent⟩
    cases inner with
    | zero =>
        cases found
        cases isParent
    | succ index =>
        obtain ⟨opening, opened, rfl⟩ := Option.map_eq_some_iff.mp found
        exact List.mem_filterMap.mpr ⟨(opening, index + 1), mem_numbered_iff.mpr opened,
          if_pos (Option.some.inj isParent)⟩

/-- Binding a node leaves all scopes as they are. -/
theorem scopeAt?_concat_bind (node : NodeId) (scope : Nat) :
    scopeAt? redeclaration (steps ++ [bind node scope]) number =
      scopeAt? redeclaration steps number := by
  cases number <;> simp [scopeAt?, openedIn, numbered]

/-- Entering a declaration changes the table of one scope. -/
theorem scopeAt?_concat_declare (scope : Nat) (declared : Declared) :
    scopeAt? redeclaration (steps ++ [declare scope declared]) number =
      if scope = number then
        (scopeAt? redeclaration steps number).map fun changed =>
          { changed with table := changed.table.enter redeclaration declared }
      else scopeAt? redeclaration steps number := by
  have opened : openedIn number (steps ++ [declare scope declared]) = openedIn number steps := by
    simp [openedIn, numbered]
  split
  next here =>
    subst here
    cases scope <;> simp [scopeAt?, opened, SymbolTable.ofLevel_concat, Function.comp_def]
  next other => cases number <;> simp [scopeAt?, opened, other]

theorem numbered_concat_openScope (parent : Nat) (opener : NodeId) (kind : ScopeKind)
    (owner : Option Declared) :
    numbered (steps ++ [openScope parent opener kind owner]) =
      numbered steps ++ [(⟨parent, opener, kind, owner⟩, (openings steps).length + 1)] := by
  simp [numbered, List.zipIdx_append, Nat.add_comm]

/-- Opening a scope adds it, and makes it a child of its parent, if nothing has
been said of its number before. -/
theorem scopeAt?_concat_openScope {parent : Nat} (opener : NodeId) (kind : ScopeKind)
    (owner : Option Declared) (inside : parent ≤ (openings steps).length)
    (childless : openedIn ((openings steps).length + 1) steps = [])
    (nameless : declaredIn ((openings steps).length + 1) steps = []) :
    scopeAt? redeclaration (steps ++ [openScope parent opener kind owner]) number =
      if number = (openings steps).length + 1 then
        some ⟨(openings steps).length + 1, kind, some ⟨parent, opener⟩, #[], owner, .empty⟩
      else if parent = number then
        (scopeAt? redeclaration steps number).map fun outer =>
          { outer with children := outer.children.push ((openings steps).length + 1) }
      else scopeAt? redeclaration steps number := by
  have opened : openedIn number (steps ++ [openScope parent opener kind owner]) =
      openedIn number steps ++ if parent = number then [(openings steps).length + 1] else [] := by
    simp only [openedIn, numbered_concat_openScope, List.filterMap_append, List.filterMap_cons,
      List.filterMap_nil]
    split <;> simp_all
  split
  next last =>
    subst last
    have outside : parent ≠ (openings steps).length + 1 := by omega
    simp [scopeAt?, opened, childless, nameless, outside, SymbolTable.ofLevel]
  next other =>
    cases number with
    | zero => split <;> simp_all [scopeAt?]
    | succ index =>
        have same : (openings (steps ++ [openScope parent opener kind owner]))[index]? =
            (openings steps)[index]? := by
          rw [openings_append]
          by_cases present : index < (openings steps).length
          · exact List.getElem?_append_left present
          · rw [List.getElem?_eq_none (by simp; omega), List.getElem?_eq_none (by omega)]
        have entered : declaredIn (index + 1) (steps ++ [openScope parent opener kind owner]) =
            declaredIn (index + 1) steps := by
          simp
        simp only [scopeAt?, same, opened, entered]
        split
        · rw [Option.map_map]
          simp only [Function.comp_def, List.push_toArray]
        · rw [List.append_nil]

end Concat

/-! ## Refusals through the tables -/

/-- The registration that stands for a name in a scope is that of the winner
among the declarations entered there. -/
theorem standing?_registrations (redeclaration : Redeclaration) (steps : List Step) (scope : Nat)
    (name : String) :
    redeclaration.standing? scope name (registrations steps) =
      (redeclaration.winner? name (declaredIn scope steps)).map fun declared =>
        ⟨scope, declared.declaration⟩ := by
  induction steps using List.reverseRecOn with
  | nil => cases redeclaration <;> rfl
  | append_singleton earlier step ih =>
      cases step with
      | bind node number => simpa using ih
      | openScope parent opener kind owner => simpa using ih
      | declare number declared =>
          simp only [registrations_append, registrations_cons, registration?, Option.toList_some,
            registrations_nil, List.append_nil, Redeclaration.standing?_concat, ih,
            Registration.isFor, Bool.and_eq_true, decide_eq_true_eq, beq_iff_eq,
            declaredIn_append, declaredIn_cons, declaredIn?, declaredIn_nil]
          by_cases here : number = scope
          · subst here
            simp only [if_true, Option.toList_some, Redeclaration.winner?_concat, true_and]
            by_cases same : declared.declaration.name = name
            · rw [if_pos same, if_pos (show declared.name = name from same)]
              cases redeclaration with
              | lastWins => rfl
              | firstWins =>
                  cases Redeclaration.winner? .firstWins name (declaredIn number earlier) <;> rfl
            · rw [if_neg same, if_neg (show declared.name ≠ name from same)]
          · simp [here]

/-- A registration is refused if a declaration in its scope wins its name. -/
theorem refusal?_registrations (redeclaration : Redeclaration) (steps : List Step) (scope : Nat)
    (declared : Declared) :
    redeclaration.refusal? (registrations steps) ⟨scope, declared.declaration⟩ =
      (redeclaration.winner? declared.name (declaredIn scope steps)).map fun previous =>
        .redeclared declared.name declared.span previous.span := by
  rw [Redeclaration.refusal?, standing?_registrations, Option.map_map]
  rfl

/-! ## Steps that use only what is there -/

/-- A step that uses only what earlier steps have made: a scope is used after it
has been opened, and a node opens no more scopes than it has been bound. -/
def Grounded (before : List Step) : Step → Prop
  | bind _ scope => scope ≤ (openings before).length
  | declare scope _ => scope ≤ (openings before).length
  | openScope parent opener _ _ =>
      parent ≤ (openings before).length ∧
        (openers before).count opener < (bound before).count opener

/-- Steps each of which uses only what the steps before it have made. -/
def AllGrounded (before : List Step) : List Step → Prop
  | [] => True
  | step :: later => Grounded before step ∧ AllGrounded (before ++ [step]) later

theorem allGrounded_append {before first second : List Step} :
    AllGrounded before (first ++ second) ↔
      AllGrounded before first ∧ AllGrounded (before ++ first) second := by
  induction first generalizing before with
  | nil => simp [AllGrounded]
  | cons step later ih =>
      simp only [List.cons_append, AllGrounded, ih, List.append_assoc, List.nil_append, and_assoc]

end Step

end DecafScopes
