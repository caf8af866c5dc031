import DecafScopes.Proofs.Binding.ScopeContents

/-!
# Diagnostics told apart by their places

When no two nodes of a program have the same span, a span says which declaration
is meant.  The diagnostics of the program then can be told apart by the places
they are about: no declaration is refused twice, and a diagnostic names the place
of one declaration and the previous place of another (`Program.exists_located`).
-/

set_option autoImplicit false

namespace DecafScopes

/-- The span of a node. -/
def Node.span : Node → Span
  | program whole => whole.span
  | declaration declared => declared.span
  | block body => body.span
  | statement whole => whole.span
  | arm whole => whole.span
  | expression whole => whole.span

/-! ## What is raised -/

namespace Redeclaration

variable {κ : Type} [DecidableEq κ] (redeclaration : Redeclaration)

/-- A registration is refused once at most. -/
theorem map_fst_raised_sublist (registrations : List (Registration κ)) :
    ((redeclaration.raised registrations).map Prod.fst).Sublist registrations := by
  induction registrations using List.reverseRecOn with
  | nil => exact .refl _
  | append_singleton earlier new ih =>
      rw [raised_concat, List.map_append]
      refine ih.append ?_
      cases redeclaration.refusal? earlier new with
      | none => exact List.nil_sublist _
      | some _ => exact .refl _

/-- What is raised by a registration names its own place, and that of an earlier
registration of the name in the same scope. -/
theorem exists_of_mem_raised {registrations : List (Registration κ)} {new : Registration κ}
    {diagnostic : Diagnostic} (member : (new, diagnostic) ∈ redeclaration.raised registrations) :
    ∃ earlier later previous, registrations = earlier ++ new :: later ∧ previous ∈ earlier ∧
      previous.key = new.key ∧
      diagnostic =
        .redeclared new.declaration.name new.declaration.span previous.declaration.span := by
  induction registrations using List.reverseRecOn with
  | nil => cases member
  | append_singleton before last ih =>
      rw [raised_concat] at member
      rcases List.mem_append.mp member with old | here
      · obtain ⟨earlier, later, previous, rfl, found⟩ := ih old
        exact ⟨earlier, later ++ [last], previous, by simp, found⟩
      · obtain ⟨refused, raised, same⟩ :=
          Option.map_eq_some_iff.mp (Option.mem_toList.mp here)
        obtain ⟨rfl, rfl⟩ := Prod.mk.inj same
        obtain ⟨previous, stands, rfl⟩ := Option.map_eq_some_iff.mp raised
        obtain ⟨listed, sameKey⟩ := mem_of_standing? redeclaration stands
        exact ⟨before, [], previous, rfl, listed, sameKey, rfl⟩

end Redeclaration

/-! ## Places of declarations -/

/-- Reading something off the members that have it, and then a value off that, gives
some of the values of all members, in their order. -/
theorem map_filterMap_sublist {α β γ : Type} {read? : α → Option β} {value : α → γ}
    {value' : β → γ}
    (same : ∀ first second, read? first = some second → value' second = value first)
    (list : List α) : ((list.filterMap read?).map value').Sublist (list.map value) := by
  induction list with
  | nil => exact .refl _
  | cons first rest ih =>
      cases read : read? first with
      | none =>
          rw [List.filterMap_cons_none read, List.map_cons]
          exact ih.cons _
      | some second =>
          rw [List.filterMap_cons_some read, List.map_cons, List.map_cons, same first second read]
          exact ih.cons_cons _

namespace Program

/-- A declaration of the program, and the only one at its place. -/
def HasOnlyAtItsSpan (program : Program) (declared : Declared) : Prop :=
  ∀ other : Declared,
    other ∈ program.declared ∧ other.span = declared.span ↔ other = declared

/-- The diagnostics are told apart by the places they are about, and each of them
names the places of two declarations, with nothing else declared there. -/
structure LocatedBy (program : Program) (diagnostics : List Diagnostic) : Prop where
  nodup_spans : (diagnostics.map Diagnostic.span).Nodup
  exists_declared : ∀ diagnostic ∈ diagnostics, ∃ new old : Declared, new ≠ old ∧
    diagnostic = .redeclared new.name new.span old.span ∧
      program.HasOnlyAtItsSpan new ∧ program.HasOnlyAtItsSpan old

variable {policy : BindingPolicy} {program : Program}

/-- Where the nodes of a program are told apart by their spans, so are its
declarations. -/
theorem nodup_map_span_declared (places : (program.nodes.labels.map Node.span).Nodup) :
    (program.declared.map Declared.span).Nodup := by
  have nodes : program.outline.labels.map Entry.node = program.nodes.labels :=
    program.nodes.map_node_labels_placed _
  rw [← nodes, List.map_map] at places
  refine places.sublist (map_filterMap_sublist ?_ _)
  intro entry declared isDeclared
  obtain ⟨declaration, isDeclaration, rfl⟩ := Option.map_eq_some_iff.mp isDeclared
  cases node : entry.node with
  | declaration found =>
      rw [node] at isDeclaration
      cases isDeclaration
      rw [Function.comp_apply, node]
      rfl
  | program | block | statement | arm | expression =>
      rw [node] at isDeclaration
      cases isDeclaration

/-- A declaration of the program is the only one at its place, if no two nodes have
the same span. -/
theorem hasOnlyAtItsSpan (places : (program.nodes.labels.map Node.span).Nodup)
    {declared : Declared} (member : declared ∈ program.declared) :
    program.HasOnlyAtItsSpan declared := by
  intro other
  constructor
  · rintro ⟨listed, same⟩
    exact List.inj_on_of_nodup_map (nodup_map_span_declared places) listed member same
  · rintro rfl
    exact ⟨member, rfl⟩

/-- Where the nodes of a program are told apart by their spans, so are the
registrations of its steps. -/
theorem nodup_map_span_registrations (policy : BindingPolicy) (distinct : program.nodeIds.Nodup)
    (places : (program.nodes.labels.map Node.span).Nodup) :
    ((Step.registrations (program.steps policy)).map (·.declaration.span)).Nodup := by
  have ids : ((Step.registrations (program.steps policy)).map (·.declaration.id)).Nodup :=
    (nodup_bound distinct).sublist (program.outline.declaredNodes_steps policy 0 (.full true))
  refine List.Nodup.map_on ?_ (ids.of_map _)
  intro first member second member' same
  obtain ⟨declared, entered, isFirst⟩ := Step.exists_of_mem_registrations member
  obtain ⟨declared', entered', isSecond⟩ := Step.exists_of_mem_registrations member'
  rw [← isFirst, ← isSecond] at same
  have one : declared = declared' :=
    List.inj_on_of_nodup_map (nodup_map_span_declared places)
      (program.mem_declared_of_mem_declaredIn policy entered)
      (program.mem_declared_of_mem_declaredIn policy entered') same
  refine List.inj_on_of_nodup_map ids member member' ?_
  rw [← isFirst, ← isSecond, one]

/-- **Diagnostics can be told apart by their places**, if the nodes of the program
can. -/
theorem exists_located (policy : BindingPolicy) (distinct : program.nodeIds.Nodup)
    (places : (program.nodes.labels.map Node.span).Nodup) :
    ∃ tree, program.bind policy = .ok tree ∧ program.LocatedBy tree.diagnostics.toList := by
  obtain ⟨tree, bound, result⟩ := exists_bind policy distinct
  have spans := nodup_map_span_registrations policy distinct places
  have declared {registration : Registration Nat}
      (member : registration ∈ Step.registrations (program.steps policy)) :
      ∃ declared ∈ program.declared, declared.declaration = registration.declaration := by
    obtain ⟨declared, entered, isDeclared⟩ := Step.exists_of_mem_registrations member
    exact ⟨declared, program.mem_declared_of_mem_declaredIn policy entered, isDeclared⟩
  refine ⟨tree, bound, ?_, ?_⟩
  · rw [result.diagnostics_eq, ← Redeclaration.map_snd_raised, List.map_map]
    have own : (policy.redeclaration.raised (Step.registrations (program.steps policy))).map
        (Diagnostic.span ∘ Prod.snd) =
        ((policy.redeclaration.raised (Step.registrations (program.steps policy))).map
          Prod.fst).map (·.declaration.span) := by
      rw [List.map_map]
      refine List.map_congr_left fun refused member => ?_
      obtain ⟨_, _, _, _, _, _, same⟩ := policy.redeclaration.exists_of_mem_raised member
      rw [Function.comp_apply, same]
      rfl
    rw [own]
    exact spans.sublist ((policy.redeclaration.map_fst_raised_sublist _).map _)
  · intro diagnostic member
    rw [result.diagnostics_eq, ← Redeclaration.map_snd_raised] at member
    obtain ⟨⟨refused, _⟩, raised, rfl⟩ := List.mem_map.mp member
    obtain ⟨earlier, later, previous, split, before, _, same⟩ :=
      policy.redeclaration.exists_of_mem_raised raised
    have registered : refused ∈ Step.registrations (program.steps policy) := by
      rw [split]
      exact List.mem_append_right _ List.mem_cons_self
    have registered' : previous ∈ Step.registrations (program.steps policy) := by
      rw [split]
      exact List.mem_append_left _ before
    obtain ⟨new, isMember, isNew⟩ := declared registered
    obtain ⟨old, isMember', isOld⟩ := declared registered'
    refine ⟨new, old, ?_, ?_, hasOnlyAtItsSpan places isMember, hasOnlyAtItsSpan places isMember'⟩
    · rintro rfl
      rw [split, List.map_append, List.map_cons] at spans
      refine (List.nodup_append.mp spans).2.2 previous.declaration.span
        (List.mem_map_of_mem before) refused.declaration.span List.mem_cons_self ?_
      rw [← isNew, ← isOld]
    · rw [same, ← isNew, ← isOld]
      rfl

end Program

end DecafScopes
