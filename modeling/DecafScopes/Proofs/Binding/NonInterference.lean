import DecafScopes.Proofs.Binding.Failure
import DecafScopes.Proofs.Binding.Simulation
import DecafScopes.Proofs.Outline.EqualNodes

/-!
# What binding does not look at

Binding a program takes notice of its shape, of its identities and of the names that it
declares, and of nothing else.  Programs that agree in these may differ in their types,
in what classes extend and implement, in literals, in operators, in the identifiers in
expressions and in all spans: both are bound, to trees of which one has declarations of
the one program where the other has those at the same positions of the other program, or
neither is, with the same fault (`Program.bind_of_sameShape`).  Spans reach the diagnostics
alone, as the spans of corresponding declarations.
-/

set_option autoImplicit false

namespace DecafScopes

/-- Two outcomes are related values, or one and the same fault. -/
abbrev OutcomesAgree {α β : Type} (relates : α → β → Prop) :
    Except Fault α → Except Fault β → Prop :=
  OutcomesAlike id relates

/-- Declarations that stand at the same position in two programs: at the same site, and at
the end of the same path from the root. -/
structure Program.SamePosition (program program' : Program) (declared declared' : Declared) :
    Prop where
  site_eq : declared'.site = declared.site
  path : ∃ path, (Node.program program).at? path = some (.declaration declared.declaration) ∧
    (Node.program program').at? path = some (.declaration declared'.declaration)

/-- Two diagnostics about one name that is declared again, each with the spans of
declarations of its own program, at the same positions. -/
inductive Diagnostic.SamePositions (program program' : Program) :
    Diagnostic → Diagnostic → Prop where
  | redeclared (name : String) {declared declared' previous previous' : Declared} :
      program.SamePosition program' declared declared' →
        program.SamePosition program' previous previous' →
          Diagnostic.SamePositions program program'
            (.redeclared name declared.span previous.span)
            (.redeclared name declared'.span previous'.span)

/-- Two trees are one and the same up to declarations of two programs, each of which stands
where the declaration at the same position stands in the other tree. -/
structure ScopeTree.SameUpToPositions (program program' : Program) (tree tree' : ScopeTree) :
    Prop where
  size_eq : tree'.size = tree.size
  scope_eq : ∀ number scope scope', tree.scope number = .ok scope →
    tree'.scope number = .ok scope' →
      scope'.number = scope.number ∧ scope'.kind = scope.kind ∧
        scope'.parent? = scope.parent? ∧ scope'.opener? = scope.opener? ∧
        scope'.children = scope.children ∧
        Option.Rel (program.SamePosition program') scope.owner scope'.owner
  scopeAround?_eq : ∀ node, tree'.scopeAround? node = tree.scopeAround? node
  openedBy?_eq : ∀ node, tree'.openedBy? node = tree.openedBy? node
  bindingCount_eq : tree'.bindingCount = tree.bindingCount
  /-- Every scope declares the same names, by declarations at the same positions. -/
  lookupHere? : ∀ number name, OutcomesAgree (Option.Rel (program.SamePosition program'))
    (tree.lookupHere? number name) (tree'.lookupHere? number name)
  /-- From every scope, every name refers to declarations at the same positions. -/
  lookup? : ∀ number name, OutcomesAgree (Option.Rel (program.SamePosition program'))
    (tree.lookup? number name) (tree'.lookup? number name)
  diagnostics : List.Forall₂ (Diagnostic.SamePositions program program')
    tree.diagnostics.toList tree'.diagnostics.toList

/-! ## Trees that are alike under the same names -/

theorem rel_mono {α β : Type} {relates relates' : α → β → Prop} {first : Option α}
    {second : Option β} (related : Option.Rel relates first second)
    (kept : ∀ a b, relates a b → relates' a b) : Option.Rel relates' first second := by
  cases related with
  | none => exact .none
  | some here => exact .some (kept _ _ here)

theorem Fault.rename_identity (fault : Fault) : fault.rename .identity = fault := by
  cases fault <;> rfl

/-- A fault that is renamed to itself is the same fault. -/
theorem OutcomesAlike.of_identity {α β : Type} {relates : α → β → Prop}
    {first : Except Fault α} {second : Except Fault β}
    (alike : OutcomesAlike (Fault.rename .identity) relates first second) :
    OutcomesAgree relates first second := by
  cases alike with
  | error fault =>
      rw [fault.rename_identity]
      exact .error fault
  | ok here => exact .ok here

theorem OutcomesAlike.imp {α β : Type} {about : Fault → Fault} {relates relates' : α → β → Prop}
    {first : Except Fault α} {second : Except Fault β}
    (alike : OutcomesAlike about relates first second) (kept : ∀ a b, relates a b → relates' a b) :
    OutcomesAlike about relates' first second := by
  cases alike with
  | error fault => exact .error fault
  | ok here => exact .ok (kept _ _ here)

namespace ScopeTree.Alike

variable {relates : Declared → Declared → Prop} {tree tree' : ScopeTree}
  (alike : tree.Alike .identity relates tree')

include alike

/-- Trees that are alike under the same names are the same up to positions, if the
declarations that correspond are at the same positions. -/
theorem sameUpToPositions {program program' : Program}
    (positions : ∀ declared declared', relates declared declared' →
      program.SamePosition program' declared declared') :
    tree.SameUpToPositions program program' tree' where
  size_eq := alike.size_eq
  scope_eq number scope scope' found found' := by
    have same := alike.scope number
    rw [found, found'] at same
    cases same with
    | ok here =>
        exact ⟨here.number_eq, here.kind_eq, here.parent?_eq,
          here.opener?_eq.trans (Option.map_id_apply), here.children_eq,
          rel_mono here.owner positions⟩
  scopeAround?_eq := alike.bindings.eq
  openedBy?_eq := alike.openings.eq
  bindingCount_eq := alike.bindingCount_eq
  lookupHere? number name :=
    (alike.lookupHere? number name).imp fun _ _ found => rel_mono found positions
  lookup? number name :=
    (alike.lookup? number name).imp fun _ _ found => rel_mono found positions
  diagnostics := alike.diagnostics.imp fun _ _ same => by
    cases same with
    | redeclared name here previous =>
        exact .redeclared name (positions _ _ here) (positions _ _ previous)

/-- If declarations that correspond have equal spans, the diagnostics are equal. -/
theorem diagnostics_eq
    (spans : ∀ declared declared', relates declared declared' → declared'.span = declared.span) :
    tree'.diagnostics = tree.diagnostics := by
  have same : List.Forall₂ Eq tree.diagnostics.toList tree'.diagnostics.toList := by
    refine alike.diagnostics.imp fun _ _ same => ?_
    cases same with
    | redeclared name here previous =>
        rw [spans _ _ here, spans _ _ previous]
        rfl
  rw [List.forall₂_eq_eq_eq] at same
  exact (Array.toList_inj.mp same).symm

end ScopeTree.Alike

namespace Translation

/-- What corresponds along two programs is at the same positions. -/
theorem samePosition_of_along {translation : Translation} {program program' : Program}
    {declared declared' : Declared}
    (related : (translation.along (.program program) (.program program')).RelatesDeclared
      declared declared') : program.SamePosition program' declared declared' :=
  ⟨related.2, related.1.2⟩

/-- Binding programs that correspond under the same names, with the nodes of a
correspondence narrowed to the same paths. -/
theorem bind_alike_along (translation : Translation) (same : translation.toRenaming = .identity)
    (policy : BindingPolicy) (program program' : Program)
    (related : translation.Relates (.program program) (.program program')) :
    OutcomesAgree (ScopeTree.Alike .identity
        (translation.along (.program program) (.program program')).RelatesDeclared)
      (program.bind policy) (program'.bind policy) := by
  have alike := (translation.along (.program program) (.program program')).bind_alike policy
    ⟨related, [], rfl, rfl⟩
  unfold AlikeTrees at alike
  rw [show (translation.along (.program program) (.program program')).toRenaming = .identity
    from same] at alike
  exact alike.of_identity

end Translation

namespace Program

/-- **Binding looks at nothing but the shape of a program, its identities and the names it
declares.**  Programs that agree in these are bound to trees that are the same up to the
positions of declarations, or binding them fails with the same fault.  If the programs are
equal, the diagnostics are equal as well. -/
theorem bind_of_sameShape (policy : BindingPolicy) (program program' : Program) :
    (program.SameShape program' →
      OutcomesAgree (ScopeTree.SameUpToPositions program program') (program.bind policy)
        (program'.bind policy)) ∧
    ((program == program') = true →
      OutcomesAgree
        (fun tree tree' => tree.SameUpToPositions program program' tree' ∧
          tree'.diagnostics = tree.diagnostics)
        (program.bind policy) (program'.bind policy)) := by
  constructor
  · intro same
    have alike := Translation.bind_alike_along .ofShape rfl policy program program'
      (.program same)
    exact alike.imp fun _ _ trees =>
      trees.sameUpToPositions fun _ _ => Translation.samePosition_of_along
  · intro equal
    have alike := Translation.bind_alike_along .ofEquality rfl policy program program' equal
    refine alike.imp fun _ _ trees => ⟨?_, ?_⟩
    · exact trees.sameUpToPositions fun _ _ => Translation.samePosition_of_along
    · exact trees.diagnostics_eq fun _ _ related => (Declaration.eq_of_equal related.1.1).2.1

end Program

namespace Sample

/-- A body that returns a literal, written from a line on. -/
def returningBody (first : Nat) (value : Literal) : Block :=
  ⟨⟨3⟩, line first, [], [.plain ⟨4⟩ (line (first + 1))
    (.leave (some ⟨⟨5⟩, line (first + 2), .literal value⟩))]⟩

/-- A program that declares a name twice and returns a literal, written from a line on, with
one type throughout. -/
def returning (first : Nat) (type : TypeExpr) (value : Literal) : Program :=
  ⟨⟨0⟩, line first, [
    .variableDecl ⟨⟨1⟩, line (first + 1), ⟨"x", line (first + 1)⟩, type⟩,
    .functionDecl ⟨⟨2⟩, line (first + 2), ⟨"x", line (first + 2)⟩, type, [],
      some (returningBody (first + 3) value)⟩]⟩

variable (first first' : Nat) (type type' : TypeExpr) (value value' : Literal)

theorem sameShape_returningBody :
    (returningBody first value).SameShape (returningBody first' value') :=
  .intro _ _ _ .nil
    (.cons (.plain _ _ _ (.leave (.some (.intro _ _ _ (.literal value value'))))) .nil)

theorem sameShape_returning :
    (returning first type value).SameShape (returning first' type' value') :=
  ⟨rfl, .cons (.variableDecl ⟨rfl, rfl⟩) (.cons (.functionDecl
    ⟨rfl, rfl, .nil, .some (sameShape_returningBody _ _ value value')⟩) .nil)⟩

/-- A program with an integer. -/
def returningInteger : Program := returning 1 .int (.int 7)

/-- The program on other lines, with another type and a NaN for the integer. -/
def returningNaN : Program := returning 100 .double (.double ⟨0x7ff8000000000000⟩)

/-- A program with a zero. -/
def returningZero : Program := returning 1 .double (.double ⟨0⟩)

/-- The program with the other zero. -/
def returningMinusZero : Program := returning 1 .double (.double ⟨0x8000000000000000⟩)

end Sample

open Sample in
/-- Programs with another type, other spans and a NaN in the place of an integer are bound
alike.  With the two zeros for a literal the programs are equal, and so are the
diagnostics. -/
theorem Program.bind_of_sameShape_returning :
    returningInteger.SameShape returningNaN ∧
      (returningZero == returningMinusZero) = true ∧
      (∃ tree tree', returningInteger.bind .standard = .ok tree ∧
        returningNaN.bind .standard = .ok tree' ∧
        tree.SameUpToPositions returningInteger returningNaN tree') ∧
      ∃ tree tree', returningZero.bind .standard = .ok tree ∧
        returningMinusZero.bind .standard = .ok tree' ∧
        tree.diagnostics.toList = [.redeclared "x" (line 3) (line 2)] ∧
        tree'.diagnostics = tree.diagnostics := by
  have shape : returningInteger.SameShape returningNaN := sameShape_returning _ _ _ _ _ _
  have equal : (returningZero == returningMinusZero) = true := by decide +kernel
  refine ⟨shape, equal, ?_, ?_⟩
  · have alike := (bind_of_sameShape .standard returningInteger returningNaN).1 shape
    have distinct : returningInteger.nodeIds.Nodup := by decide
    obtain ⟨tree, bound, _⟩ := exists_bind .standard distinct
    generalize isOutcome : returningNaN.bind .standard = outcome at alike
    rw [bound] at alike
    cases alike with
    | ok same => exact ⟨tree, _, bound, rfl, same⟩
  · have alike := (bind_of_sameShape .standard returningZero returningMinusZero).2 equal
    have distinct : returningZero.nodeIds.Nodup := by decide
    obtain ⟨tree, bound, result⟩ := exists_bind .standard distinct
    generalize isOutcome : returningMinusZero.bind .standard = outcome at alike
    rw [bound] at alike
    have found : tree.diagnostics.toList = [.redeclared "x" (line 3) (line 2)] := by
      rw [result.diagnostics_eq]
      decide
    cases alike with
    | ok same => exact ⟨tree, _, bound, rfl, found, same.2⟩

end DecafScopes
