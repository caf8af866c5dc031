import DecafScopes.Proofs.Binding.BindingOrder
import DecafScopes.Proofs.Binding.Outcome

/-!
# When binding a program fails

Binding a program fails if and only if two of its nodes have one identity, and
then with the first identity that is bound for the second time, in the order of
binding (`Program.bind_eq_error_iff`).  It never fails because a node would open
two scopes or a scope would be missing: up to the failing step, every step has used
only what the steps before it have made.  The order of binding does not depend on
the policy, so neither does the failure.
-/

set_option autoImplicit false

namespace DecafScopes

/-! ## The first repetition in a list -/

/-- An identity stands at a position of a list and at an earlier one. -/
def RepeatsAt (nodes : List NodeId) (position : Nat) (node : NodeId) : Prop :=
  nodes[position]? = some node ∧ node ∈ nodes.take position

/-- An identity stands at the first position at which a list repeats one. -/
def IsFirstRepeat (nodes : List NodeId) (node : NodeId) : Prop :=
  ∃ position, RepeatsAt nodes position node ∧
    ∀ earlier < position, ∀ other, ¬ RepeatsAt nodes earlier other

/-- A list of different identities repeats none. -/
theorem RepeatsAt.not_nodup {nodes : List NodeId} {position : Nat} {node : NodeId}
    (repeats : RepeatsAt nodes position node) : ¬ nodes.Nodup := by
  intro distinct
  obtain ⟨here, before⟩ := repeats
  have behind : node ∈ nodes.drop position := by
    rw [List.mem_iff_getElem?]
    exact ⟨0, by rw [List.getElem?_drop, Nat.add_zero, here]⟩
  exact List.disjoint_take_drop distinct (Nat.le_refl position) before behind

/-- What stands again right behind different identities is the first repetition. -/
theorem isFirstRepeat_append {before later : List NodeId} {node : NodeId}
    (distinct : before.Nodup) (again : node ∈ before) :
    IsFirstRepeat (before ++ node :: later) node := by
  refine ⟨before.length, ⟨?here, ?before⟩, ?first⟩
  case here =>
    rw [List.getElem?_append_right (Nat.le_refl _), Nat.sub_self, List.getElem?_cons_zero]
  case before => rwa [List.take_left]
  case first =>
    intro earlier inside other repeats
    have within : RepeatsAt before earlier other := by
      obtain ⟨here, stood⟩ := repeats
      rw [List.getElem?_append_left inside] at here
      rw [List.take_append_of_le_length (Nat.le_of_lt inside)] at stood
      exact ⟨here, stood⟩
    exact within.not_nodup distinct

/-- There is only one first repetition. -/
theorem IsFirstRepeat.unique {nodes : List NodeId} {node other : NodeId}
    (first : IsFirstRepeat nodes node) (second : IsFirstRepeat nodes other) : node = other := by
  obtain ⟨position, repeats, none⟩ := first
  obtain ⟨position', repeats', none'⟩ := second
  obtain smaller | same | greater := Nat.lt_trichotomy position position'
  · exact absurd repeats (none' position smaller node)
  · subst same
    exact Option.some.inj (repeats.1.symm.trans repeats'.1)
  · exact absurd repeats' (none position' greater other)

/-! ## The step that fails -/

namespace Step

/-- Steps that do not bind different nodes come to one that binds a node again,
after others that bind different nodes. -/
theorem exists_repeat {steps : List Step} (twice : ¬ (bound steps).Nodup) :
    ∃ before node scope later, steps = before ++ bind node scope :: later ∧
      (bound before).Nodup ∧ node ∈ bound before := by
  induction steps using List.reverseRecOn with
  | nil => exact absurd List.nodup_nil twice
  | append_singleton earlier step ih =>
      by_cases distinct : (bound earlier).Nodup
      · -- The repetition is at the last step, so that step binds a node.
        cases step with
        | bind node scope =>
            refine ⟨earlier, node, scope, [], rfl, distinct, ?_⟩
            by_contra fresh
            apply twice
            rw [bound_append]
            refine List.nodup_append.mpr ⟨distinct, List.nodup_singleton node, ?_⟩
            rintro first isFirst second isSecond rfl
            have same : first = node := List.mem_singleton.mp isSecond
            exact fresh (same ▸ isFirst)
        | declare scope declared => simp [distinct] at twice
        | openScope parent opener kind owner => simp [distinct] at twice
      · obtain ⟨before, node, scope, later, rfl, different, again⟩ := ih distinct
        exact ⟨before, node, scope, later ++ [step], by simp, different, again⟩

end Step

/-- **Steps that use only what is there fail exactly at the step that binds a node
again.** -/
theorem LoggedTree.performAll_eq_error {redeclaration : Redeclaration} {state : LoggedTree}
    {before later : List Step} {node : NodeId} {scope : Nat}
    (result : state.tree.IsResult redeclaration [])
    (grounded : Step.AllGrounded [] (before ++ .bind node scope :: later))
    (distinct : (Step.bound before).Nodup) (again : node ∈ Step.bound before) :
    state.performAll redeclaration (before ++ .bind node scope :: later) =
      .error (.boundTwice node) := by
  obtain ⟨next, performed, reached⟩ :=
    exists_performAll result (Step.allGrounded_append.mp grounded).1 distinct
  have bound : (next.tree.scopeAround? node).isSome := by
    obtain ⟨⟨_, number⟩, listed, rfl⟩ := List.mem_map.mp again
    rw [Option.isSome_iff_exists]
    exact ⟨number, (reached.around_iff _ number).mpr listed⟩
  have fails : next.perform redeclaration (.bind node scope) = .error (.boundTwice node) := by
    simp only [perform, ScopeTree.bind_eq_error bound]
    rfl
  calc state.performAll redeclaration (before ++ .bind node scope :: later)
      = (state.performAll redeclaration before >>= fun reached =>
          reached.performAll redeclaration (.bind node scope :: later)) := List.foldlM_append
    _ = next.performAll redeclaration (.bind node scope :: later) := by
        rw [performed]
        rfl
    _ = (next.perform redeclaration (.bind node scope) >>= fun reached =>
          reached.performAll redeclaration later) := List.foldlM_cons
    _ = .error (.boundTwice node) := by
        rw [fails]
        rfl

namespace Program

variable (policy : BindingPolicy) (program : Program)

/-- A program binds as many nodes as it has, under the identities that they
have. -/
theorem bindingOrder_perm_nodeIds : program.bindingOrder.Perm program.nodeIds := by
  have ids := (program.bindings_steps .standard).map Prod.fst
  rw [List.map_map] at ids
  rw [← map_id_occurrences, ← bound_steps .standard]
  exact ids

/-- A program of which two nodes have one identity cannot be bound. -/
theorem exists_bind_eq_error (twice : ¬ program.bindingOrder.Nodup) :
    ∃ node, IsFirstRepeat program.bindingOrder node ∧
      program.bind policy = .error (.boundTwice node) := by
  have grounded := allGrounded_steps policy program
  rw [← bound_steps policy] at twice ⊢
  obtain ⟨before, node, scope, later, split, distinct, again⟩ := Step.exists_repeat twice
  rw [split] at grounded
  have started : LoggedTree.initial.tree.IsResult policy.redeclaration [] := .initial _
  have failed := LoggedTree.performAll_eq_error started grounded distinct again
  refine ⟨node, ?_, ?_⟩
  · rw [split, Step.bound_append, Step.bound_cons]
    exact isFirstRepeat_append distinct again
  · rw [bind, bindLogged, split, failed]
    rfl

/-- **Binding a program fails exactly when the order of binding repeats an
identity, and with the first one that it repeats.**  The failure is of no other
kind, and it is the same whatever the policy. -/
theorem bind_eq_error_iff :
    ((∃ fault, program.bind policy = .error fault) ↔ ¬ program.bindingOrder.Nodup) ∧
    (∀ fault, program.bind policy = .error fault ↔
      ∃ node, IsFirstRepeat program.bindingOrder node ∧ fault = .boundTwice node ∧
        fault.message = "node #" ++ toString node.number ++ " bound twice") ∧
    ∀ other fault, program.bind other = .error fault ↔ program.bind policy = .error fault := by
  have fails (policy : BindingPolicy) (fault : Fault) : program.bind policy = .error fault ↔
      ∃ node, IsFirstRepeat program.bindingOrder node ∧ fault = .boundTwice node := by
    constructor
    · intro failed
      have twice : ¬ program.bindingOrder.Nodup := by
        intro distinct
        obtain ⟨tree, bound, _⟩ :=
          exists_bind policy (program.bindingOrder_perm_nodeIds.nodup_iff.mp distinct)
        rw [bound] at failed
        cases failed
      obtain ⟨node, first, fails⟩ := exists_bind_eq_error policy program twice
      exact ⟨node, first, Except.error.inj (failed.symm.trans fails)⟩
    · rintro ⟨node, first, rfl⟩
      have ⟨position, repeats, _⟩ := first
      obtain ⟨other, isFirst, failed⟩ := exists_bind_eq_error policy program repeats.not_nodup
      rw [first.unique isFirst, failed]
  refine ⟨?twice, ?first, ?independent⟩
  case twice =>
    constructor
    · rintro ⟨fault, failed⟩
      obtain ⟨node, ⟨position, repeats, _⟩, _⟩ := (fails policy fault).mp failed
      exact repeats.not_nodup
    · intro twice
      obtain ⟨node, _, failed⟩ := exists_bind_eq_error policy program twice
      exact ⟨_, failed⟩
  case first =>
    intro fault
    rw [fails]
    constructor
    · rintro ⟨node, first, rfl⟩
      exact ⟨node, first, rfl, rfl⟩
    · rintro ⟨node, first, isFault, _⟩
      exact ⟨node, first, isFault⟩
  case independent =>
    intro other fault
    rw [fails, fails]

end Program

end DecafScopes
