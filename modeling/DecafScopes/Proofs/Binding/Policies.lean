import DecafScopes.Proofs.Binding.Failure
import DecafScopes.Proofs.Binding.ScopeContents
import DecafScopes.Proofs.Scope.Calls

/-!
# What the policy changes

The policy of a binding pass decides about tables and diagnostics, and about nothing
else: whether the pass fails, which scopes there are and where nodes are bound is the
same under every policy (`ScopeTree.SameShape`).  The choice between two
declarations of one name decides who holds the name, which makes a difference
exactly if there is such a choice, and leaves the set of names and the places of the
diagnostics as they are.  Not declaring parameters empties the scopes of the
functions and takes away the diagnostics that parameters raise
(`Program.bind_policies`).
-/

set_option autoImplicit false

namespace DecafScopes

/-! ## The shape of a tree -/

/-- Two trees have the same scopes apart from their tables, and the same nodes are
bound in them and have opened them. -/
structure ScopeTree.SameShape (first second : ScopeTree) : Prop where
  frames_eq : first.scopes.map Scope.frame = second.scopes.map Scope.frame
  scopeAround?_eq : ∀ node, first.scopeAround? node = second.scopeAround? node
  openedBy?_eq : ∀ node, first.openedBy? node = second.openedBy? node

/-- The scopes that steps lead to are, apart from their tables, determined by what
the steps open. -/
theorem Step.map_frame_scopeAt? (first second : Redeclaration) {steps steps' : List Step}
    (same : openings steps = openings steps') (number : Nat) :
    (scopeAt? first steps number).map Scope.frame =
      (scopeAt? second steps' number).map Scope.frame := by
  cases number with
  | zero => simp only [scopeAt?, openedIn, numbered, same, Option.map_some, Scope.frame]
  | succ index =>
      simp only [scopeAt?, openedIn, numbered, same, Option.map_map]
      rfl

namespace ScopeTree.IsResult

variable {first second : BindingPolicy} {program : Program} {tree tree' : ScopeTree}

/-- **The shape of the tree does not depend on the policy.** -/
theorem sameShape (result : tree.IsResult first.redeclaration (program.steps first))
    (result' : tree'.IsResult second.redeclaration (program.steps second)) :
    tree.SameShape tree' where
  frames_eq := by
    have opened : Step.openings (program.steps first) = Step.openings (program.steps second) := by
      rw [program.openings_steps first, program.openings_steps second]
    apply Array.ext_getElem?
    intro number
    rw [Array.getElem?_map, Array.getElem?_map, result.scope_eq, result'.scope_eq]
    exact Step.map_frame_scopeAt? _ _ opened number
  scopeAround?_eq node := by
    apply Option.ext
    intro number
    rw [result.around_iff, result'.around_iff, (program.bindings_steps first).mem_iff,
      (program.bindings_steps second).mem_iff]
  openedBy?_eq node := by
    apply Option.ext
    intro number
    rw [result.opened_iff, result'.opened_iff, program.numbered_steps first,
      program.numbered_steps second]

end ScopeTree.IsResult

namespace ScopeTree.SameShape

variable {tree tree' : ScopeTree} {number : Nat} {scope scope' : Scope}

/-- Scopes of one number differ only in their tables. -/
theorem frame_eq (shape : tree.SameShape tree') (found : tree.scope number = .ok scope)
    (found' : tree'.scope number = .ok scope') : scope.frame = scope'.frame := by
  have same := congrArg (·[number]?) shape.frames_eq
  simp only [Array.getElem?_map, scope_eq_ok_iff.mp found, scope_eq_ok_iff.mp found',
    Option.map_some, Option.some.injEq] at same
  exact same

theorem opener?_eq (shape : tree.SameShape tree') (found : tree.scope number = .ok scope)
    (found' : tree'.scope number = .ok scope') : scope.opener? = scope'.opener? := by
  have same : scope.frame.opener? = scope'.frame.opener? := by
    rw [shape.frame_eq found found']
  exact same

theorem kind_eq (shape : tree.SameShape tree') (found : tree.scope number = .ok scope)
    (found' : tree'.scope number = .ok scope') : scope.kind = scope'.kind := by
  have same : scope.frame.kind = scope'.frame.kind := by
    rw [shape.frame_eq found found']
  exact same

/-- There are scopes of the same numbers. -/
theorem exists_scope (shape : tree.SameShape tree') (found : tree.scope number = .ok scope) :
    ∃ scope', tree'.scope number = .ok scope' := by
  have same := congrArg (·[number]?) shape.frames_eq
  simp only [Array.getElem?_map, scope_eq_ok_iff.mp found, Option.map_some] at same
  obtain ⟨scope', found', _⟩ := Option.map_eq_some_iff.mp same.symm
  exact ⟨scope', scope_eq_ok_iff.mpr found'⟩

end ScopeTree.SameShape

/-! ## Who wins -/

/-- In the scopes of one number, the same names are held. -/
def ScopeTree.SameNames (first second : ScopeTree) : Prop :=
  ∀ number scope scope', first.scope number = .ok scope → second.scope number = .ok scope' →
    ∀ name, scope.table.contains name = scope'.table.contains name

/-- In the scopes of one number, every name is held by the same declaration, or by
none. -/
def ScopeTree.SameHolders (first second : ScopeTree) : Prop :=
  ∀ number scope scope', first.scope number = .ok scope → second.scope number = .ok scope' →
    ∀ name, scope.holder? name = scope'.holder? name

/-- What a program registers depends on the policy only by whether parameters are
declared. -/
theorem Program.registrations_congr {first second : BindingPolicy}
    (same : first.declaresParameters = second.declaresParameters) (program : Program) :
    program.registrations first = program.registrations second := by
  obtain ⟨declares, redeclaration⟩ := first
  obtain ⟨declares', redeclaration'⟩ := second
  obtain rfl : declares = declares' := same
  rfl

namespace ScopeTree.IsResult

variable {first second : BindingPolicy} {program : Program} {tree tree' : ScopeTree}

section Redeclarations

variable (result : tree.IsResult first.redeclaration (program.steps first))
  (result' : tree'.IsResult second.redeclaration (program.steps second))
  (distinct : program.nodeIds.Nodup)
  (declares : first.declaresParameters = second.declaresParameters)

include result result' distinct declares

/-- The same names are held, whichever declaration wins. -/
theorem sameNames : tree.SameNames tree' := by
  intro number scope scope' found found' name
  rw [Bool.eq_iff_iff, (result.isRecordOf distinct).contains_iff number scope found,
    (result'.isRecordOf distinct).contains_iff number scope' found',
    program.registrations_congr declares, (result.sameShape result').opener?_eq found found']

/-- The same names are reported at the same places, whichever declaration wins. -/
theorem map_name_span_diagnostics :
    tree.diagnostics.toList.map (fun diagnostic => (diagnostic.name, diagnostic.span)) =
      tree'.diagnostics.toList.map fun diagnostic => (diagnostic.name, diagnostic.span) := by
  rw [(result.isRecordOf distinct).diagnostics_eq, (result'.isRecordOf distinct).diagnostics_eq,
    program.registrations_congr declares]
  exact first.redeclaration.map_name_span_refusals second.redeclaration _

/-- The holders are the same if and only if, for every name in every scope, the same
registration stands for it under both policies. -/
theorem sameHolders_iff_standing? :
    tree.SameHolders tree' ↔ ∀ scope name,
      first.redeclaration.standing? scope name (program.registrations second) =
        second.redeclaration.standing? scope name (program.registrations second) := by
  have record := result.isRecordOf distinct
  have record' := result'.isRecordOf distinct
  have shape := result.sameShape result'
  have held (number : Nat) (scope scope' : Scope) (found : tree.scope number = .ok scope)
      (found' : tree'.scope number = .ok scope') (name : String) :
      (scope.holder? name).map Declared.declaration =
          (first.redeclaration.standing? scope.opener? name
            (program.registrations second)).map Registration.declaration ∧
        (scope'.holder? name).map Declared.declaration =
          (second.redeclaration.standing? scope.opener? name
            (program.registrations second)).map Registration.declaration := by
    constructor
    · rw [record.holder?_eq number scope found, program.registrations_congr declares]
    · rw [record'.holder?_eq number scope' found', shape.opener?_eq found found']
  constructor
  · intro same scope name
    by_cases registered :
      (scope, name) ∈ (program.registrations second).map Registration.key
    · -- The scope of a registration is in both trees, so the holders there can be compared.
      obtain ⟨registration, member, isKey⟩ := List.mem_map.mp registered
      rw [← program.registrations_congr declares] at member
      obtain ⟨number, found, opened, isScope⟩ := record.exists_scope registration member
      obtain ⟨found', opened'⟩ := shape.exists_scope opened
      have inScope : found.opener? = scope := isScope.trans (congrArg Prod.fst isKey)
      obtain ⟨holds, holds'⟩ := held number found found' opened opened' name
      apply Redeclaration.standing?_eq_of_map_declaration
      rw [← inScope, ← holds, ← holds', same number found found' opened opened' name]
    · rw [Redeclaration.standing?_eq_none _ registered,
        Redeclaration.standing?_eq_none _ registered]
  · intro same number scope scope' found found' name
    obtain ⟨holds, holds'⟩ := held number scope scope' found found' name
    rw [same, ← holds'] at holds
    cases isHolder : scope.holder? name with
    | none =>
        rw [isHolder, Option.map_none] at holds
        exact (Option.map_eq_none_iff.mp holds.symm).symm
    | some declared =>
        rw [isHolder, Option.map_some] at holds
        obtain ⟨other, isHolder', sameDeclaration⟩ := Option.map_eq_some_iff.mp holds.symm
        -- A declaration is one node of the program, so it is held as one node as well.
        have among := record.mem_declared number scope found name declared isHolder
        have among' := record'.mem_declared number scope' found' name other isHolder'
        rw [isHolder', Program.eq_of_mem_declared distinct among' among sameDeclaration]

/-- **It makes a difference which declaration wins exactly if something is reported.** -/
theorem sameHolders_iff (differ : first.redeclaration ≠ second.redeclaration) :
    tree.SameHolders tree' ↔ tree.diagnostics.toList = [] := by
  rw [result.sameHolders_iff_standing? result' distinct declares,
    (result.isRecordOf distinct).diagnostics_eq, Redeclaration.refusals_eq_nil_iff,
    program.registrations_congr declares,
    ← Redeclaration.standing?_eq_iff (Program.nodup_registrations distinct)]
  cases isFirst : first.redeclaration with
  | lastWins =>
      cases isSecond : second.redeclaration with
      | lastWins => exact absurd (isFirst.trans isSecond.symm) differ
      | firstWins => exact Iff.rfl
  | firstWins =>
      cases isSecond : second.redeclaration with
      | lastWins => exact forall₂_congr fun _ _ => eq_comm
      | firstWins => exact absurd (isFirst.trans isSecond.symm) differ

end Redeclarations

end ScopeTree.IsResult

/-! ## Parameters -/

/-- What a scope receives depends on the policy only by whether declarations are
declared in scopes of its kind. -/
theorem ScopeTree.IsResult.exists_level {policy : BindingPolicy} {program : Program}
    {tree : ScopeTree} (result : tree.IsResult policy.redeclaration (program.steps policy))
    {number : Nat} {scope : Scope} (found : tree.scope number = .ok scope) :
    ∃ level, ∀ policy : BindingPolicy, Step.declaredIn number (program.steps policy) =
      if policy.declaresIn scope.kind then level else [] := by
  have present := scope_eq_ok_iff.mp found
  cases number with
  | zero =>
      rw [result.scope_eq] at present
      cases present
      exact ⟨program.topLevel, program.declaredIn_steps_root⟩
  | succ index =>
      have bound := (Array.getElem?_eq_some_iff.mp present).1
      have size := result.isArenaOf.size_eq
      rw [ScopeTree.size] at size
      have listed := List.getElem?_eq_getElem (show index < program.openers.length by omega)
      obtain ⟨scope', found', _, _, _, opens, _⟩ := result.isArenaOf.opened index _ listed
      obtain rfl : scope = scope' := Except.ok.inj (found.symm.trans found')
      have among : program.openers[index] ∈ program.outline.openers.map Opener.entry := by
        rw [Forest.map_entry_openers]
        exact List.getElem_mem _
      obtain ⟨opener, member, isEntry⟩ := List.mem_map.mp among
      have rank : opener.number = index + 1 := by
        rw [Opener.number, isEntry]
        exact Program.scope_of_openers listed
      refine ⟨opener.declared, fun policy => ?_⟩
      rw [← rank, program.declaredIn_steps_of_mem_openers policy member, Opener.level, isEntry,
        opens]

/-- A registration enters a parameter of a function into the scope of the function. -/
def FunctionDecl.registersParameter (registration : SourceRegistration)
    (declared : FunctionDecl) : Bool :=
  decide (registration.scope = some declared.id) &&
    declared.parameters.any fun parameter => decide (parameter.id = registration.declaration.id)

/-- All functions in a program, methods and prototypes included. -/
def Program.functions (program : Program) : List FunctionDecl :=
  program.nodes.labels.filterMap fun node => node.declaration?.bind Declaration.toFunction?

/-- A registration enters a parameter of some function in a program. -/
def Program.registersParameter (program : Program) (registration : SourceRegistration) : Bool :=
  program.functions.any (FunctionDecl.registersParameter registration)

/-- Only functions add something else if parameters are declared than if they are
not. -/
theorem Node.adds_eq_or (first second : BindingPolicy) (node : Node) :
    node.adds first = node.adds second ∨ ∃ declared : FunctionDecl, node = declared.node := by
  match node with
  | declaration (.functionDecl declared) => exact .inr ⟨declared, rfl⟩
  | program _ | declaration (.variableDecl _) | declaration (.classDecl _)
  | declaration (.interfaceDecl _) | block _ | statement (.block _) | arm _ | expression _ =>
      exact .inl rfl
  | statement (.plain _ _ form) =>
      cases form with
      | @forLoop start => cases start <;> exact .inl rfl
      | ifElse | whileLoop | switch | leave | print | exitLoop | evaluate => exact .inl rfl

namespace Program

variable {program : Program}

theorem mem_functions_iff {declared : FunctionDecl} :
    declared ∈ program.functions ↔ ∃ around, program.HasNode declared.node around := by
  rw [← mem_labels_iff, functions, List.mem_filterMap]
  constructor
  · rintro ⟨node, listed, isFunction⟩
    obtain ⟨declaration, isDeclaration, toFunction⟩ := Option.bind_eq_some_iff.mp isFunction
    cases declaration with
    | functionDecl whole =>
        obtain rfl : whole = declared := Option.some.inj toFunction
        cases node with
        | declaration _ =>
            cases isDeclaration
            exact listed
        | program _ | block _ | statement _ | arm _ | expression _ => cases isDeclaration
    | variableDecl _ | classDecl _ | interfaceDecl _ => cases toFunction
  · intro listed
    exact ⟨declared.node, listed, rfl⟩

/-- Whatever a function adds are its parameters. -/
theorem registersParameter_of_mem_adds {policy : BindingPolicy} {declared : FunctionDecl}
    {around : List Node} (has : program.HasNode declared.node around) {declaration : Declaration}
    (among : declaration ∈ declared.node.adds policy) :
    program.registersParameter ⟨some declared.node.id, declaration⟩ = true := by
  rw [FunctionDecl.node, Node.adds] at among
  split at among
  · obtain ⟨parameter, listed, rfl⟩ := List.mem_map.mp among
    refine List.any_eq_true.mpr ⟨declared, mem_functions_iff.mpr ⟨around, has⟩, ?_⟩
    refine Bool.and_eq_true_iff.mpr ⟨decide_eq_true rfl, ?_⟩
    exact List.any_eq_true.mpr ⟨parameter, listed, decide_eq_true rfl⟩
  · cases among

/-- A parameter is registered in the scope of a function. -/
theorem exists_function_of_registersParameter {registration : SourceRegistration}
    (isParameter : program.registersParameter registration = true) :
    ∃ (declared : FunctionDecl) (around : List Node), program.HasNode declared.node around ∧
      registration.scope = some declared.node.id := by
  obtain ⟨declared, listed, enters⟩ := List.any_eq_true.mp isParameter
  obtain ⟨around, has⟩ := mem_functions_iff.mp listed
  exact ⟨declared, around, has, of_decide_eq_true (Bool.and_eq_true_iff.mp enters).1⟩

/-- All registrations in the scope of a function are of parameters. -/
theorem registersParameter_of_scope {policy : BindingPolicy} (distinct : program.nodeIds.Nodup)
    {declared : FunctionDecl} {around : List Node} (has : program.HasNode declared.node around)
    {registration : SourceRegistration} (member : registration ∈ program.registrations policy)
    (inScope : registration.scope = some declared.node.id) :
    program.registersParameter registration = true := by
  obtain ⟨scope, declaration⟩ := registration
  obtain rfl : scope = some declared.node.id := inScope
  have among := Registration.mem_declaredIn_iff.mpr member
  rw [declaredIn_registrations_opener distinct has rfl] at among
  exact registersParameter_of_mem_adds has among

/-- Of the registrations in one scope, either all are of parameters or none is. -/
theorem registersParameter_congr {policy : BindingPolicy} (distinct : program.nodeIds.Nodup)
    {first second : SourceRegistration} (isFirst : first ∈ program.registrations policy)
    (isSecond : second ∈ program.registrations policy) (same : first.scope = second.scope) :
    program.registersParameter first = program.registersParameter second := by
  rw [Bool.eq_iff_iff]
  constructor
  · intro isParameter
    obtain ⟨declared, around, has, inScope⟩ := exists_function_of_registersParameter isParameter
    exact registersParameter_of_scope distinct has isSecond (same.symm.trans inScope)
  · intro isParameter
    obtain ⟨declared, around, has, inScope⟩ := exists_function_of_registersParameter isParameter
    exact registersParameter_of_scope distinct has isFirst (same.trans inScope)

end Program

/-! ## Only parameters are missing -/

section Silent

variable {first second : BindingPolicy} (silent : second.declaresParameters = false)

include silent

theorem FunctionDecl.registrations_sublist (declared : FunctionDecl) :
    (declared.registrations second).Sublist (declared.registrations first) := by
  unfold registrations
  rw [silent, if_neg Bool.false_ne_true]
  exact List.sublist_append_right _ _

theorem Member.registrations_sublist (member : Member) :
    (member.registrations second).Sublist (member.registrations first) := by
  cases member with
  | field _ => exact .refl _
  | method declared => exact declared.registrations_sublist silent

theorem Declaration.registrations_sublist (declaration : Declaration) :
    (declaration.registrations second).Sublist (declaration.registrations first) := by
  cases declaration with
  | variableDecl _ => exact .refl _
  | classDecl declared =>
      refine List.Sublist.append (.refl _) (List.Sublist.flatMap_right _ ?_)
      intro member _
      exact member.registrations_sublist silent
  | interfaceDecl declared =>
      refine List.Sublist.append (.refl _) (List.Sublist.flatMap_right _ ?_)
      intro prototype _
      exact prototype.registrations_sublist silent
  | functionDecl declared => exact declared.registrations_sublist silent

namespace Program

variable {program : Program}

/-- If parameters are not declared, some registrations may be missing, but the others
keep their order. -/
theorem registrations_sublist (program : Program) :
    (program.registrations second).Sublist (program.registrations first) := by
  refine List.Sublist.flatMap_right _ ?_
  intro declaration _
  exact (declaration.registrations_sublist silent).cons_cons _

/-- Where parameters are not declared, none is registered. -/
theorem registersParameter_eq_false (distinct : program.nodeIds.Nodup)
    {registration : SourceRegistration} (member : registration ∈ program.registrations second) :
    program.registersParameter registration = false := by
  rw [Bool.eq_false_iff]
  intro isParameter
  obtain ⟨declared, around, has, inScope⟩ := exists_function_of_registersParameter isParameter
  have empty : declared.node.adds second = [] := by
    rw [FunctionDecl.node, Node.adds, silent, if_neg Bool.false_ne_true]
  have among : registration.declaration ∈
      Registration.declaredIn (some declared.node.id) (program.registrations second) := by
    rw [Registration.mem_declaredIn_iff, ← inScope]
    exact member
  rw [declaredIn_registrations_opener distinct has rfl, empty] at among
  cases among

omit silent in
/-- What is not a parameter is registered under every policy. -/
theorem mem_registrations_of_registersParameter_eq_false (distinct : program.nodeIds.Nodup)
    {registration : SourceRegistration} (member : registration ∈ program.registrations first)
    (other : program.registersParameter registration = false) :
    registration ∈ program.registrations second := by
  obtain ⟨scope, declaration⟩ := registration
  have among := Registration.mem_declaredIn_iff.mpr member
  rcases exists_opener_of_mem_registrations distinct member with isGlobal | isOpener
  · obtain rfl : scope = none := isGlobal
    rw [declaredIn_registrations_none distinct] at among
    rw [← Registration.mem_declaredIn_iff, declaredIn_registrations_none distinct]
    exact among
  · obtain ⟨node, around, has, opens, isScope⟩ := isOpener
    obtain rfl : scope = some node.id := isScope
    rw [declaredIn_registrations_opener distinct has opens] at among
    rw [← Registration.mem_declaredIn_iff, declaredIn_registrations_opener distinct has opens]
    rcases Node.adds_eq_or first second node with same | ⟨declared, rfl⟩
    · exact same ▸ among
    · rw [registersParameter_of_mem_adds has among] at other
      cases other

/-- **If parameters are not declared, exactly the registrations of parameters are
missing.** -/
theorem registrations_eq_filter (distinct : program.nodeIds.Nodup) :
    program.registrations second =
      (program.registrations first).filter (!program.registersParameter ·) := by
  have kept : (program.registrations second).filter (!program.registersParameter ·) =
      program.registrations second := by
    apply List.filter_eq_self.mpr
    intro registration member
    rw [registersParameter_eq_false silent distinct member]
    rfl
  have sublist : (program.registrations second).Sublist
      ((program.registrations first).filter (!program.registersParameter ·)) := by
    rw [← kept]
    exact (program.registrations_sublist silent).filter _
  have contained : (program.registrations first).filter (!program.registersParameter ·) ⊆
      program.registrations second := by
    intro registration listed
    obtain ⟨member, other⟩ := List.mem_filter.mp listed
    rw [Bool.not_eq_true_eq_eq_false] at other
    exact mem_registrations_of_registersParameter_eq_false distinct member other
  -- Nothing is registered twice, so a sublist in which nothing is missing is the whole list.
  have once : ((program.registrations first).filter (!program.registersParameter ·)).Nodup :=
    (nodup_registrations distinct).filter _
  exact sublist.eq_of_length_le (List.subperm_of_subset once contained).length_le

end Program

end Silent

/-! ## The two choices together -/

/-- A tree has the tables and diagnostics that another tree has, without those that
are due to the parameters of functions. -/
structure ScopeTree.LacksParameters (policy : BindingPolicy) (program : Program)
    (tree other : ScopeTree) : Prop where
  /-- All scopes but those of functions have the same tables. -/
  table_eq : ∀ number scope scope', tree.scope number = .ok scope →
    other.scope number = .ok scope' → scope.kind ≠ .functionBody → scope.table = scope'.table
  /-- The scopes of functions are empty. -/
  table_eq_empty : ∀ number scope, tree.scope number = .ok scope →
    scope.kind = .functionBody → scope.table = .empty
  /-- The other tree has the diagnostics that all registrations raise. -/
  raised_eq : other.diagnostics.toList =
    (policy.redeclaration.raised (program.registrations policy)).map Prod.snd
  /-- The tree has those that are raised by anything but parameters. -/
  remaining_eq : tree.diagnostics.toList =
    ((policy.redeclaration.raised (program.registrations policy)).filter
      (!program.registersParameter ·.1)).map Prod.snd

/-- **A policy that does not declare parameters leaves out what is due to them, and
nothing else.** -/
theorem ScopeTree.IsResult.lacksParameters {first second : BindingPolicy} {program : Program}
    {tree tree' : ScopeTree}
    (result : tree.IsResult first.redeclaration (program.steps first))
    (result' : tree'.IsResult second.redeclaration (program.steps second))
    (distinct : program.nodeIds.Nodup) (same : first.redeclaration = second.redeclaration)
    (silent : second.declaresParameters = false) :
    tree'.LacksParameters first program tree where
  table_eq number scope' scope found' found other := by
    obtain ⟨level, received⟩ := result.exists_level found
    have sameKind := (result.sameShape result').kind_eq found found'
    rw [result.table_eq (scope_eq_ok_iff.mp found), result'.table_eq (scope_eq_ok_iff.mp found'),
      received, received, same]
    rw [← sameKind] at other
    cases isKind : scope.kind with
    | functionBody => exact absurd isKind other
    | global | classBody | interfaceBody | block | loopHeader => rfl
  table_eq_empty number scope' found' isFunction := by
    obtain ⟨level, received⟩ := result'.exists_level found'
    rw [result'.table_eq (scope_eq_ok_iff.mp found'), received, isFunction,
      BindingPolicy.declaresIn, silent, if_neg Bool.false_ne_true]
    rfl
  raised_eq := by
    rw [Redeclaration.map_snd_raised]
    exact (result.isRecordOf distinct).diagnostics_eq
  remaining_eq := by
    -- What has one key is in one scope, and a scope has either only parameters or none.
    have alike : ∀ registration ∈ program.registrations first,
        ∀ other ∈ program.registrations first, registration.key = other.key →
          (!program.registersParameter registration) = !program.registersParameter other := by
      intro registration member other member' sameKey
      have sameScope : registration.scope = other.scope := congrArg Prod.fst sameKey
      rw [Program.registersParameter_congr distinct member member' sameScope]
    rw [← Redeclaration.raised_filter _ alike, ← Program.registrations_eq_filter silent distinct,
      Redeclaration.map_snd_raised, same]
    exact (result'.isRecordOf distinct).diagnostics_eq

namespace Program

/-- **What the policy changes.**  Under two policies, either the pass fails with the
same fault, or it leads to trees of the same shape.  If both declare parameters or
neither does, the same names are held and the same names are reported at the same
places; if different declarations win, the names are held by the same ones exactly
if nothing is reported.  If the same declarations win and the second policy does not
declare parameters, exactly what is due to parameters is missing from its tree. -/
theorem bind_policies (first second : BindingPolicy) (program : Program) :
    (∃ fault, program.bind first = .error fault ∧ program.bind second = .error fault) ∨
    ∃ tree tree', program.bind first = .ok tree ∧ program.bind second = .ok tree' ∧
      tree.SameShape tree' ∧
      (first.declaresParameters = second.declaresParameters →
        tree.SameNames tree' ∧
        tree.diagnostics.toList.map (fun diagnostic => (diagnostic.name, diagnostic.span)) =
          tree'.diagnostics.toList.map (fun diagnostic => (diagnostic.name, diagnostic.span)) ∧
        (first.redeclaration ≠ second.redeclaration →
          (tree.SameHolders tree' ↔ tree.diagnostics.toList = []))) ∧
      (first.redeclaration = second.redeclaration → second.declaresParameters = false →
        tree'.LacksParameters first program tree) := by
  by_cases distinct : program.nodeIds.Nodup
  · right
    obtain ⟨tree, bound, result⟩ := exists_bind first distinct
    obtain ⟨tree', bound', result'⟩ := exists_bind second distinct
    refine ⟨tree, tree', bound, bound', result.sameShape result', ?winners, ?parameters⟩
    case winners =>
      intro declares
      refine ⟨result.sameNames result' distinct declares,
        result.map_name_span_diagnostics result' distinct declares, ?_⟩
      intro differ
      exact result.sameHolders_iff result' distinct declares differ
    case parameters =>
      intro same silent
      exact result.lacksParameters result' distinct same silent
  · left
    have twice : ¬ program.bindingOrder.Nodup := fun once =>
      distinct (program.bindingOrder_perm_nodeIds.nodup_iff.mp once)
    obtain ⟨node, isFirst, failed⟩ := exists_bind_eq_error first program twice
    obtain ⟨node', isFirst', failed'⟩ := exists_bind_eq_error second program twice
    refine ⟨.boundTwice node, failed, ?_⟩
    rw [failed', isFirst'.unique isFirst]

/-- In the sample program, the diagnostic about the second parameter disappears if
parameters are not declared. -/
theorem bind_policies_sample :
    ∃ tree tree', Sample.program.bind .standard = .ok tree ∧
      Sample.program.bind ⟨false, .lastWins⟩ = .ok tree' ∧ tree.SameShape tree' ∧
      tree'.diagnostics.toList =
        [.redeclared "x" (Sample.line 4) (Sample.line 3),
          .redeclared "x" (Sample.line 15) (Sample.line 4),
          .redeclared "x" (Sample.line 18) (Sample.line 1)] := by
  have distinct : Sample.program.nodeIds.Nodup := by decide
  rcases bind_policies .standard ⟨false, .lastWins⟩ Sample.program with failing | trees
  · obtain ⟨fault, failed, _⟩ := failing
    obtain ⟨tree, bound, _⟩ := exists_bind .standard distinct
    rw [bound] at failed
    cases failed
  · obtain ⟨tree, tree', bound, bound', shape, _, parameters⟩ := trees
    refine ⟨tree, tree', bound, bound', shape, ?_⟩
    rw [(parameters rfl rfl).remaining_eq]
    decide

end Program

end DecafScopes
