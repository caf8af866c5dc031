import DecafScopes.Proofs.Binding.Redeclarations
import DecafScopes.Proofs.Binding.Refusals
import DecafScopes.Proofs.Binding.Resolution

/-!
# What is registered in each scope

In the global scope the top-level declarations of a program are registered
(`Program.declaredIn_registrations_none`), in the scope of an opener what the
opener adds (`Program.declaredIn_registrations_opener`), and nothing anywhere else.
This is said of the registrations in the order of the source, where a scope is
known by the node that opens it.
-/

set_option autoImplicit false

namespace DecafScopes

/-- What steps register in a scope is what they enter into it. -/
theorem Step.declaredIn_registrations (number : Nat) (steps : List Step) :
    Registration.declaredIn number (registrations steps) =
      (declaredIn number steps).map Declared.declaration := by
  induction steps with
  | nil => rfl
  | cons step later ih =>
      unfold Registration.declaredIn at ih ⊢
      rw [registrations_cons, List.filter_append, List.map_append, declaredIn_cons,
        List.map_append, ih]
      congr 1
      cases step with
      | bind node scope => rfl
      | openScope parent opener kind owner => rfl
      | declare scope declared => by_cases here : scope = number <;> simp [here]

namespace Program

variable {policy : BindingPolicy} {program : Program}

/-- The steps of a program register only in scopes that they open, and in the global
one. -/
theorem scope_le_of_mem_registrations_steps (distinct : program.nodeIds.Nodup)
    {registration : Registration Nat}
    (member : registration ∈ Step.registrations (program.steps policy)) :
    registration.scope ≤ program.openers.length := by
  obtain ⟨tree, _, result⟩ := exists_bind policy distinct
  exact result.scope_le_of_mem_registrations member

/-- What a program registers in a scope is what its steps enter into it. -/
theorem declaredIn_registrations (distinct : program.nodeIds.Nodup) {number : Nat}
    (within : number ≤ program.openers.length) :
    Registration.declaredIn (program.opener? number) (program.registrations policy) =
      (Step.declaredIn number (program.steps policy)).map Declared.declaration := by
  rw [← program.map_registrations_steps policy, Registration.declaredIn_map,
    Step.declaredIn_registrations]
  intro registration member
  exact opener?_injective distinct (scope_le_of_mem_registrations_steps distinct member) within

/-- **In the global scope the top-level declarations are registered.** -/
theorem declaredIn_registrations_none (distinct : program.nodeIds.Nodup) :
    Registration.declaredIn none (program.registrations policy) = program.declarations := by
  rw [← program.map_declaration_topLevel, ← program.declaredIn_steps_root policy]
  exact declaredIn_registrations distinct (Nat.zero_le program.openers.length)

/-- A node that opens a scope is among the openers in the outline. -/
theorem exists_opener {node : Node} {around : List Node} (has : program.HasNode node around)
    (opens : node.opens?.isSome) :
    ∃ opener ∈ program.outline.openers, opener.entry.node = node ∧
      opener.entry ∈ program.openers := by
  obtain ⟨occurrence, occurs, isOf⟩ := exists_occurrence has
  have listed : occurrence.entry ∈ program.openers := by
    refine List.mem_filter.mpr ⟨?_, ?_⟩
    · rw [← Forest.map_entry_occurrences program.outline []]
      exact List.mem_map_of_mem occurs
    · rw [isOf.node_eq]
      exact opens
  have among := listed
  rw [openers, ← Forest.map_entry_openers] at among
  obtain ⟨opener, member, same⟩ := List.mem_map.mp among
  refine ⟨opener, member, ?_, ?_⟩
  · rw [same, isOf.node_eq]
  · rw [same]
    exact listed

/-- **In the scope of an opener, what the opener adds is registered.** -/
theorem declaredIn_registrations_opener (distinct : program.nodeIds.Nodup) {node : Node}
    {around : List Node} (has : program.HasNode node around) (opens : node.opens?.isSome) :
    Registration.declaredIn (some node.id) (program.registrations policy) =
      node.adds policy := by
  obtain ⟨opener, member, rfl, listed⟩ := exists_opener has opens
  have within : opener.number ≤ program.openers.length := by
    obtain ⟨index, found⟩ := List.mem_iff_getElem?.mp listed
    have rank : opener.number = index + 1 := scope_of_openers found
    have bound := (List.getElem?_eq_some_iff.mp found).1
    omega
  have isOpener : program.opener? opener.number = some opener.entry.node.id := opener?_scope listed
  have parts := Forest.map_node_roots_of_mem_openers program.unfolds_nodes member
  rw [← isOpener, declaredIn_registrations distinct within,
    program.declaredIn_steps_of_mem_openers policy member,
    Opener.map_declaration_level policy opens parts]

/-- Registrations are made in the global scope and in those of the openers. -/
theorem exists_opener_of_mem_registrations (distinct : program.nodeIds.Nodup)
    {registration : SourceRegistration} (member : registration ∈ program.registrations policy) :
    registration.scope = none ∨ ∃ node around, program.HasNode node around ∧
      node.opens?.isSome ∧ registration.scope = some node.id := by
  rw [← program.map_registrations_steps policy] at member
  obtain ⟨original, listed, rfl⟩ := List.mem_map.mp member
  have within := scope_le_of_mem_registrations_steps distinct listed
  cases isNumber : original.scope with
  | zero =>
      left
      rw [Registration.map, isNumber]
      rfl
  | succ index =>
      right
      rw [isNumber] at within
      have found := List.getElem?_eq_getElem within
      obtain ⟨occurrence, occurs, isEntry⟩ :=
        exists_occurrence_of_openers (List.getElem_mem within)
      obtain ⟨around, has, _⟩ := exists_hasNode occurs
      refine ⟨_, around, has, ?_, ?_⟩
      · rw [isEntry]
        exact (List.mem_filter.mp (List.getElem_mem within)).2
      · rw [Registration.map, isNumber, opener?, found, isEntry]
        rfl

/-- **Nothing is registered in the scope of a node that is not an opener.** -/
theorem declaredIn_registrations_eq_nil (distinct : program.nodeIds.Nodup) {id : NodeId}
    (closed : ∀ node around, program.HasNode node around → node.opens?.isSome → node.id ≠ id) :
    Registration.declaredIn (some id) (program.registrations policy) = [] := by
  rw [Registration.declaredIn, List.map_eq_nil_iff, List.filter_eq_nil_iff]
  intro registration member here
  have inScope : registration.scope = some id := of_decide_eq_true here
  rcases exists_opener_of_mem_registrations distinct member with isGlobal | isOpener
  · rw [isGlobal] at inScope
    cases inScope
  · obtain ⟨node, around, has, opens, isScope⟩ := isOpener
    exact closed node around has opens (Option.some.inj (isScope.symm.trans inScope))

end Program

/-! ## No declaration is registered twice -/

/-- The nodes that are declared. -/
def Step.declaredNodes (steps : List Step) : List NodeId :=
  (registrations steps).map (·.declaration.id)

@[simp] theorem Step.declaredNodes_append (first second : List Step) :
    declaredNodes (first ++ second) = declaredNodes first ++ declaredNodes second := by
  rw [declaredNodes, registrations_append, List.map_append]
  rfl

theorem Entry.declaredNodes_announce (scope : Nat) (declaring : Bool) (entry : Entry) :
    (Step.declaredNodes (entry.announce scope declaring)).Sublist
      (Step.bound (entry.announce scope declaring)) := by
  rw [Step.bound, bindings_announce]
  unfold announce
  cases declares : entry.declared? with
  | none => exact List.nil_sublist _
  | some declared =>
      have same := entry.id_of_declared? declares
      cases declaring with
      | false => exact List.nil_sublist _
      | true =>
          rw [same]
          exact .refl _

theorem Entry.declaredNodes_flatMap_announce (scope : Nat) (declaring : Bool)
    (entries : List Entry) :
    (Step.declaredNodes (entries.flatMap (announce scope declaring))).Sublist
      (Step.bound (entries.flatMap (announce scope declaring))) := by
  induction entries with
  | nil => exact .refl _
  | cons entry others ih =>
      rw [List.flatMap_cons, Step.declaredNodes_append, Step.bound_append]
      exact (entry.declaredNodes_announce scope declaring).append ih

/-- Every declaration is bound before it is declared, so the declared nodes are among
the bound ones, in the same order. -/
theorem Forest.declaredNodes_steps (policy : BindingPolicy) (forest : Forest Entry) (scope : Nat)
    (visit : Visit) :
    (Step.declaredNodes (forest.steps policy scope visit)).Sublist
      (Step.bound (forest.steps policy scope visit)) := by
  induction forest generalizing scope visit with
  | nil => exact .refl _
  | node entry parts rest below right =>
      have announced : (Step.declaredNodes (visit.announce scope entry)).Sublist
          (Step.bound (visit.announce scope entry)) := by
        cases visit with
        | full declaring => exact entry.declaredNodes_announce scope declaring
        | inside => exact .refl _
      have entered : (Step.declaredNodes (entering policy scope entry parts)).Sublist
          (Step.bound (entering policy scope entry parts)) := by
        cases opens : entry.node.opens? with
        | none =>
            rw [entering_of_closed policy opens]
            exact below scope (.full true)
        | some kind =>
            have inner := (Entry.declaredNodes_flatMap_announce entry.place.scope
              (policy.declaresIn kind) ((Visit.ofKind policy kind).outstanding parts)).append
                (below entry.place.scope (.ofKind policy kind))
            rw [← Step.declaredNodes_append, ← Step.bound_append] at inner
            rw [entering_of_opens policy opens]
            exact inner
      rw [steps_node, Step.declaredNodes_append, Step.declaredNodes_append, Step.bound_append,
        Step.bound_append]
      exact announced.append (entered.append (right scope visit))

namespace Program

variable {policy : BindingPolicy} {program : Program}

/-- **No declaration is registered twice.** -/
theorem nodup_registrations (distinct : program.nodeIds.Nodup) :
    (program.registrations policy).Nodup := by
  have declared : (Step.declaredNodes (program.steps policy)).Nodup :=
    (nodup_bound distinct).sublist (program.outline.declaredNodes_steps policy 0 (.full true))
  have ids : Step.declaredNodes (program.steps policy) =
      (program.registrations policy).map (·.declaration.id) := by
    rw [← program.map_registrations_steps policy, List.map_map]
    rfl
  rw [ids] at declared
  exact declared.of_map _

end Program

end DecafScopes
