import Mathlib.Algebra.BigOperators.Group.Finset.Piecewise
import DecafScopes.Proofs.Binding.Numbering
import DecafScopes.Proofs.Binding.SourceOrder

/-!
# Redeclarations are reported exactly

The diagnostics of a program are those about its registrations in the order of the
source, each refused by the one that stands for the name in the same scope at that
moment (`Program.exists_record`).  In the end the tables of the scopes hold what
stands then, and every registration has either been refused or has brought a new
name into a table.
-/

set_option autoImplicit false

namespace DecafScopes

/-! ## The node that opened a scope -/

/-- The node that opens the scope with a given number. -/
def Program.opener? (program : Program) : Nat → Option NodeId
  | 0 => none
  | index + 1 => program.openers[index]?.map Entry.id

namespace Program

variable {policy : BindingPolicy} {program : Program}

theorem opener?_scope {entry : Entry} (member : entry ∈ program.openers) :
    program.opener? entry.place.scope = some entry.id := by
  obtain ⟨index, found⟩ := List.mem_iff_getElem?.mp member
  rw [scope_of_openers found, opener?, found, Option.map_some]

theorem nodup_openers (distinct : program.nodeIds.Nodup) :
    (program.openers.map Entry.id).Nodup := by
  rw [← map_id_outline] at distinct
  exact distinct.sublist (List.filter_sublist.map Entry.id)

/-- Different scopes are opened by different nodes. -/
theorem opener?_injective (distinct : program.nodeIds.Nodup) {first second : Nat}
    (within : first ≤ program.openers.length) (within' : second ≤ program.openers.length)
    (same : program.opener? first = program.opener? second) : first = second := by
  have some_of {index : Nat} (bound : index + 1 ≤ program.openers.length) :
      (program.opener? (index + 1)).isSome := by
    simp only [opener?, Option.isSome_map, isSome_getElem?]
    exact bound
  cases first with
  | zero =>
      cases second with
      | zero => rfl
      | succ index =>
          have present := some_of within'
          rw [← same] at present
          cases present
  | succ index =>
      cases second with
      | zero =>
          have present := some_of within
          rw [same] at present
          cases present
      | succ other =>
          simp only [opener?, ← List.getElem?_map] at same
          have bound : index < (program.openers.map Entry.id).length := by
            rw [List.length_map]
            exact within
          rw [(List.getElem?_inj bound (nodup_openers distinct)).mp same]

/-- **The steps of a program register what its syntax says**, in the same
order. -/
theorem map_registrations_steps (policy : BindingPolicy) (program : Program) :
    (Step.registrations (program.steps policy)).map (Registration.map program.opener?) =
      program.registrations policy := by
  rw [← registrations_nodes]
  refine Forest.map_registrations_steps program.opener? policy program.nodes ?_ 0 (.full true)
  intro entry member opens
  exact opener?_scope (List.mem_filter.mpr ⟨member, opens⟩)

end Program

/-! ## Nothing is lost -/

namespace Step

theorem exists_of_mem_registrations {steps : List Step} {registration : Registration Nat}
    (member : registration ∈ registrations steps) :
    ∃ declared ∈ declaredIn registration.scope steps,
      declared.declaration = registration.declaration := by
  obtain ⟨step, listed, registers⟩ := List.mem_filterMap.mp member
  cases step with
  | bind node scope => cases registers
  | openScope parent opener kind owner => cases registers
  | declare scope declared =>
      cases registers
      exact ⟨declared, List.mem_filterMap.mpr ⟨_, listed, if_pos rfl⟩, rfl⟩

/-- Entering a declaration adds a name to the table of one scope, if the name was
not in it. -/
theorem size_ofLevel_concat_declare (redeclaration : Redeclaration) (earlier : List Step)
    (scope number : Nat) (declared : Declared) :
    (SymbolTable.ofLevel redeclaration
        (declaredIn number (earlier ++ [declare scope declared]))).size =
      (SymbolTable.ofLevel redeclaration (declaredIn number earlier)).size +
        if number = scope then
          if (redeclaration.winner? declared.name (declaredIn scope earlier)).isSome then 0 else 1
        else 0 := by
  rw [declaredIn_append, declaredIn_cons, declaredIn?]
  by_cases same : number = scope
  · subst same
    rw [if_pos rfl, if_pos rfl, Option.toList_some, declaredIn_nil, List.append_nil,
      SymbolTable.ofLevel_concat, SymbolTable.size_enter, SymbolTable.find?_ofLevel]
    split <;> rfl
  · rw [if_neg (Ne.symm same), if_neg same, Option.toList_none, declaredIn_nil, List.append_nil,
      List.append_nil, Nat.add_zero]

/-- The registrations that have not been refused have brought a name into a
table. -/
theorem length_registrations (redeclaration : Redeclaration) (steps : List Step) {size : Nat}
    (within : ∀ registration ∈ registrations steps, registration.scope < size) :
    (registrations steps).length =
      (redeclaration.refusals (registrations steps)).length +
        ∑ number ∈ Finset.range size,
          (SymbolTable.ofLevel redeclaration (declaredIn number steps)).size := by
  induction steps using List.reverseRecOn with
  | nil =>
      have empty : ∀ number ∈ Finset.range size,
          (SymbolTable.ofLevel redeclaration (declaredIn number [])).size = 0 :=
        fun _ _ => rfl
      rw [Finset.sum_eq_zero empty]
      rfl
  | append_singleton earlier step ih =>
      simp only [registrations_append, List.forall_mem_append] at within
      have before := ih within.1
      cases step with
      | bind node scope => simpa using before
      | openScope parent opener kind owner => simpa using before
      | declare scope declared =>
          have here : scope < size := by simpa using within.2
          -- Only the table of the scope grows, and only if nothing holds the name.
          simp only [size_ofLevel_concat_declare]
          rw [Finset.sum_add_distrib, Finset.sum_ite_eq', if_pos (Finset.mem_range.mpr here),
            registrations_append, registrations_cons, registration?, registrations_nil,
            Option.toList_some, List.append_nil, Redeclaration.refusals_concat,
            refusal?_registrations, List.length_append, List.length_append, before]
          cases redeclaration.winner? declared.name (declaredIn scope earlier) with
          | none => simp [Nat.add_assoc]
          | some previous => simp [Nat.add_right_comm]

end Step

/-! ## The record of the registrations -/

/-- A tree tells exactly what the registrations of a program, made one after the
other, lead to. -/
structure ScopeTree.IsRecordOf (policy : BindingPolicy) (program : Program) (tree : ScopeTree) :
    Prop where
  /-- The diagnostics are those about registrations that meet an earlier one of the
  same name in the same scope, in the order of the registrations. -/
  diagnostics_eq :
    tree.diagnostics.toList = policy.redeclaration.refusals (program.registrations policy)
  /-- Every registration is made in one of the scopes. -/
  exists_scope : ∀ registration ∈ program.registrations policy,
    ∃ number scope, tree.scope number = .ok scope ∧ scope.opener? = registration.scope
  /-- The names in a table are those that have been registered in its scope. -/
  contains_iff : ∀ number scope, tree.scope number = .ok scope → ∀ name,
    scope.table.contains name ↔ ∃ registration ∈ program.registrations policy,
      registration.scope = scope.opener? ∧ registration.declaration.name = name
  /-- A name is held by the declaration that stands for it in the end. -/
  holder?_eq : ∀ number scope, tree.scope number = .ok scope → ∀ name,
    (scope.holder? name).map Declared.declaration =
      (policy.redeclaration.standing? scope.opener? name (program.registrations policy)).map
        Registration.declaration
  /-- What holds a name stands in the program. -/
  mem_declared : ∀ number scope, tree.scope number = .ok scope → ∀ name,
    ∀ declared ∈ scope.holder? name, declared ∈ program.declared
  /-- A registration has been refused or has brought a new name into a table. -/
  length_eq : (program.registrations policy).length =
    tree.diagnostics.size + (tree.scopes.toList.flatMap (·.table.toList)).length

namespace ScopeTree.IsResult

variable {policy : BindingPolicy} {program : Program} {tree : ScopeTree}

/-- Registrations are made only in scopes of the program. -/
theorem scope_le_of_mem_registrations
    (result : tree.IsResult policy.redeclaration (program.steps policy))
    {registration : Registration Nat}
    (member : registration ∈ Step.registrations (program.steps policy)) :
    registration.scope ≤ program.openers.length := by
  obtain ⟨declared, entered, _⟩ := Step.exists_of_mem_registrations member
  rw [← Program.length_openings policy]
  apply Nat.le_of_not_lt
  intro above
  rw [result.declaredIn_eq_nil _ above] at entered
  cases entered

theorem opener?_eq (result : tree.IsResult policy.redeclaration (program.steps policy))
    {number : Nat} {scope : Scope} (found : tree.scopes[number]? = some scope) :
    scope.opener? = program.opener? number := by
  rw [result.scope_eq] at found
  cases number with
  | zero =>
      cases found
      rfl
  | succ index =>
      obtain ⟨opening, opened, rfl⟩ := Option.map_eq_some_iff.mp found
      rw [Program.opener?, ← List.getElem?_map, ← program.openers_steps policy, Step.openers,
        List.getElem?_map, opened]
      rfl

/-- What stands for a name in a scope holds it. -/
theorem map_declaration_holder?
    (result : tree.IsResult policy.redeclaration (program.steps policy))
    (distinct : program.nodeIds.Nodup) {number : Nat} {scope : Scope}
    (found : tree.scopes[number]? = some scope) (name : String) :
    (scope.holder? name).map Declared.declaration =
      (policy.redeclaration.standing? scope.opener? name (program.registrations policy)).map
        Registration.declaration := by
  have within : number ≤ program.openers.length := by
    have bound := (Array.getElem?_eq_some_iff.mp found).1
    have size := result.size_eq
    rw [Program.length_openings, ScopeTree.size] at size
    omega
  have separate : ∀ registration ∈ Step.registrations (program.steps policy),
      program.opener? registration.scope = program.opener? number →
        registration.scope = number := by
    intro registration member
    exact Program.opener?_injective distinct (result.scope_le_of_mem_registrations member) within
  rw [result.opener?_eq found, ← program.map_registrations_steps policy,
    Redeclaration.standing?_map _ _ separate, Step.standing?_registrations,
    result.holder?_eq found, Option.map_map, Option.map_map]
  rfl

/-- The names in all tables together. -/
theorem length_tables (result : tree.IsResult policy.redeclaration (program.steps policy)) :
    (tree.scopes.toList.flatMap (·.table.toList)).length =
      ∑ number ∈ Finset.range tree.size,
        (SymbolTable.ofLevel policy.redeclaration
          (Step.declaredIn number (program.steps policy))).size := by
  have tables : tree.scopes.toList.map (·.table.toList.length) =
      (List.range tree.size).map fun number =>
        (SymbolTable.ofLevel policy.redeclaration
          (Step.declaredIn number (program.steps policy))).size := by
    apply List.ext_getElem (by simp [ScopeTree.size])
    intro number present _
    have found := Array.getElem?_eq_getElem (by simpa using present : number < tree.scopes.size)
    simp [result.table_eq found, SymbolTable.length_toList]
  rw [List.length_flatMap, tables]
  rfl

/-- The result of the steps of a program is the record of its registrations. -/
theorem isRecordOf (result : tree.IsResult policy.redeclaration (program.steps policy))
    (distinct : program.nodeIds.Nodup) : tree.IsRecordOf policy program where
  diagnostics_eq := by
    rw [result.diagnostics_eq, ← program.map_registrations_steps policy]
    refine (Redeclaration.refusals_map _ ?_).symm
    intro first member second member' same
    exact Program.opener?_injective distinct (result.scope_le_of_mem_registrations member)
      (result.scope_le_of_mem_registrations member') same
  exists_scope registration member := by
    rw [← program.map_registrations_steps policy] at member
    obtain ⟨original, listed, rfl⟩ := List.mem_map.mp member
    have within := result.scope_le_of_mem_registrations listed
    have present : original.scope < tree.scopes.size := by
      have size := result.size_eq
      rw [Program.length_openings, ScopeTree.size] at size
      omega
    have found := Array.getElem?_eq_getElem present
    exact ⟨_, _, scope_eq_ok_iff.mpr found, result.opener?_eq found⟩
  contains_iff number scope found name := by
    have held := congrArg Option.isSome
      (result.map_declaration_holder? distinct (scope_eq_ok_iff.mp found) name)
    rw [Option.isSome_map, Option.isSome_map] at held
    rw [SymbolTable.contains_eq_isSome_find?, ← Redeclaration.isSome_standing?_iff, ← held]
    rfl
  holder?_eq number scope found :=
    result.map_declaration_holder? distinct (scope_eq_ok_iff.mp found)
  mem_declared number scope found name declared holds := by
    rw [result.holder?_eq (scope_eq_ok_iff.mp found)] at holds
    exact program.mem_declared_of_mem_declaredIn policy (Redeclaration.mem_of_winner? holds).1
  length_eq := by
    have within : ∀ registration ∈ Step.registrations (program.steps policy),
        registration.scope < tree.size := by
      intro registration member
      rw [result.size_eq, Program.length_openings]
      exact Nat.lt_succ_of_le (result.scope_le_of_mem_registrations member)
    rw [result.length_tables, ← Array.length_toList, result.diagnostics_eq,
      ← Step.length_registrations policy.redeclaration _ within,
      ← program.map_registrations_steps policy, List.length_map]

end ScopeTree.IsResult

/-- **Redeclarations are reported exactly, in order, and nothing is lost.** -/
theorem Program.exists_record (policy : BindingPolicy) {program : Program}
    (distinct : program.nodeIds.Nodup) :
    ∃ tree, program.bind policy = .ok tree ∧ tree.IsRecordOf policy program := by
  obtain ⟨tree, bound, result⟩ := exists_bind policy distinct
  exact ⟨tree, bound, result.isRecordOf distinct⟩

/-- In the sample program, the class declares one field three times, the function
has the name of a variable, and its parameters have one name. -/
theorem Program.exists_record_sample :
    Sample.program.nodeIds.Nodup ∧
      ∃ tree, Sample.program.bind .standard = .ok tree ∧
        tree.diagnostics.toList =
          [.redeclared "x" (Sample.line 4) (Sample.line 3),
            .redeclared "x" (Sample.line 15) (Sample.line 4),
            .redeclared "x" (Sample.line 18) (Sample.line 1),
            .redeclared "a" (Sample.line 20) (Sample.line 19)] := by
  have distinct : Sample.program.nodeIds.Nodup := by decide
  obtain ⟨tree, bound, record⟩ := exists_record .standard distinct
  refine ⟨distinct, tree, bound, ?_⟩
  rw [record.diagnostics_eq]
  decide

end DecafScopes
