import Mathlib.Data.List.Forall2
import DecafScopes.Proofs.Binding.Enclosure
import DecafScopes.Proofs.Binding.Resolution

/-!
# Two programs that look alike from a node

What can be seen from a node depends only on the nodes around it, and of these
only on what each declares, under every name and in which order, and on which
declaration it is.  If the nodes around a node of one program correspond to those
around a node of another one (`Node.Corresponds`), then the scopes of both give the
same answers, up to the identity of the declarations that are found
(`ScopeTree.IsResult.seesAlike`).  How the scopes are numbered and which tables
they have besides makes no difference.
-/

set_option autoImplicit false

namespace DecafScopes

/-! ## Answers in two trees -/

/-- Two searches come to an end with declarations of one identity, or both without
any. -/
def AgreeOnId (first second : Except Fault (Option Declared)) : Prop :=
  ∃ found other, first = .ok found ∧ second = .ok other ∧
    found.map (·.declaration.id) = other.map (·.declaration.id)

/-- A node is bound in two trees, and from the scopes around it every name refers
to declarations of one identity, and so do the searches for what encloses it. -/
def ScopeTree.SeesAlike (first second : ScopeTree) (node : NodeId) : Prop :=
  ∃ scope other, first.scopeAround? node = some scope ∧ second.scopeAround? node = some other ∧
    (∀ name, AgreeOnId (first.lookup? scope name) (second.lookup? other name)) ∧
    AgreeOnId (first.enclosingDeclaration? scope) (second.enclosingDeclaration? other) ∧
    AgreeOnId (first.enclosingClass? scope) (second.enclosingClass? other) ∧
    AgreeOnId (first.enclosingFunction? scope) (second.enclosingFunction? other)

/-! ## Corresponding nodes -/

/-- Under every name, two lists have declarations with the same values, in the same
order. -/
def SameByName {α : Type} (value : Declaration → α) (first second : List Declaration) : Prop :=
  ∀ name, (first.filter (·.name == name)).map value = (second.filter (·.name == name)).map value

/-- Two nodes open scopes of one kind, are declarations of one identity and kind,
and add declarations of the same identities under every name. -/
structure Node.Corresponds (policy : BindingPolicy) (first second : Node) : Prop where
  opens_eq : first.opens? = second.opens?
  declared_eq : first.declaration?.map (fun declared => (declared.id, declared.kind)) =
    second.declaration?.map fun declared => (declared.id, declared.kind)
  sameByName : SameByName Declaration.id (first.adds policy) (second.adds policy)

/-- Searches through related lists find related things, if they do so at related
places. -/
theorem map_findSome?_of_forall₂ {α β γ δ ε : Type} {related : α → β → Prop}
    {answer? : α → Option γ} {other? : β → Option δ} {value : γ → ε} {other : δ → ε}
    (agree : ∀ first second, related first second →
      (answer? first).map value = (other? second).map other)
    {list : List α} {list' : List β} (all : List.Forall₂ related list list') :
    (list.findSome? answer?).map value = (list'.findSome? other?).map other := by
  induction all with
  | nil => rfl
  | @cons first second _ _ here _ ih =>
      have same := agree first second here
      rw [List.findSome?_cons, List.findSome?_cons]
      cases found : answer? first with
      | none =>
          cases found' : other? second with
          | none => exact ih
          | some _ => simp [found, found'] at same
      | some _ =>
          cases found' : other? second with
          | none => simp [found, found'] at same
          | some _ => simpa [found, found'] using same

/-- The declaration that a name refers to is the first or the last one of the
name. -/
theorem Redeclaration.map_id_chosen? (redeclaration : Redeclaration) (name : String)
    (declarations : List Declaration) :
    (redeclaration.chosen? name declarations).map Declaration.id =
      match redeclaration with
      | .lastWins => ((declarations.filter (·.name == name)).map Declaration.id).getLast?
      | .firstWins => ((declarations.filter (·.name == name)).map Declaration.id).head? := by
  cases redeclaration with
  | lastWins =>
      simp only [chosen?]
      rw [← List.head?_filter, List.filter_reverse, List.head?_reverse, List.getLast?_map]
  | firstWins =>
      simp only [chosen?]
      rw [← List.head?_filter, List.head?_map]

theorem SameByName.map_id_chosen?_eq {first second : List Declaration}
    (same : SameByName Declaration.id first second) (redeclaration : Redeclaration)
    (name : String) :
    (redeclaration.chosen? name first).map Declaration.id =
      (redeclaration.chosen? name second).map Declaration.id := by
  rw [Redeclaration.map_id_chosen?, Redeclaration.map_id_chosen?, same name]

namespace Node.Corresponds

variable {policy : BindingPolicy} {first second : Node}

theorem map_id_owner?_eq (corresponds : first.Corresponds policy second)
    {fits : Declaration → Bool}
    (byKind : ∀ declared other : Declaration, declared.kind = other.kind →
      fits declared = fits other) :
    (first.owner? fits).map Declaration.id = (second.owner? fits).map Declaration.id := by
  unfold Node.owner?
  rw [corresponds.opens_eq]
  split
  · have declared := corresponds.declared_eq
    cases isFirst : first.declaration? with
    | none =>
        cases isSecond : second.declaration? with
        | none => rfl
        | some other => simp [isFirst, isSecond] at declared
    | some declaration =>
        cases isSecond : second.declaration? with
        | none => simp [isFirst, isSecond] at declared
        | some other =>
            simp only [isFirst, isSecond, Option.map_some, Option.some.injEq,
              Prod.mk.injEq] at declared
            obtain ⟨sameId, sameKind⟩ := declared
            have same := byKind declaration other sameKind
            simp only [Option.filter, same]
            split
            · exact congrArg some sameId
            · rfl
  · rfl

/-- The levels of corresponding nodes declare the same. -/
theorem forall₂_levels {around around' : List Node}
    (nested : List.Forall₂ (Corresponds policy) around around') :
    List.Forall₂ (SameByName Declaration.id)
      ((around.filter (·.opens?.isSome)).map (Node.adds policy))
      ((around'.filter (·.opens?.isSome)).map (Node.adds policy)) := by
  have openers : List.Forall₂ (Corresponds policy) (around.filter (·.opens?.isSome))
      (around'.filter (·.opens?.isSome)) := by
    refine List.rel_filter ?_ nested
    intro first second corresponds
    simp only [corresponds.opens_eq]
  refine List.rel_map ?_ openers
  intro first second corresponds
  exact corresponds.sameByName

end Node.Corresponds

/-- **What a name refers to depends on corresponding nodes alone.** -/
theorem Program.map_id_lexical?_eq {policy : BindingPolicy} {first second : Program}
    {around around' : List Node}
    (topLevel : SameByName Declaration.id first.declarations second.declarations)
    (nested : List.Forall₂ (Node.Corresponds policy) around around') (name : String) :
    (first.lexical? policy around name).map Declaration.id =
      (second.lexical? policy around' name).map Declaration.id := by
  refine map_findSome?_of_forall₂ ?_
    (List.rel_append (Node.Corresponds.forall₂_levels nested) (.cons topLevel .nil))
  intro level level' same
  exact same.map_id_chosen?_eq policy.redeclaration name

namespace ScopeTree.IsResult

variable {policy : BindingPolicy} {first second : Program} {tree tree' : ScopeTree}

/-- **From nodes with corresponding nodes around them, the same can be seen.** -/
theorem seesAlike (result : tree.IsResult policy.redeclaration (first.steps policy))
    (result' : tree'.IsResult policy.redeclaration (second.steps policy))
    (topLevel : SameByName Declaration.id first.declarations second.declarations)
    {node node' : Node} {around around' : List Node} (has : first.HasNode node around)
    (has' : second.HasNode node' around') (same : node.id = node'.id)
    (nested : List.Forall₂ (Node.Corresponds policy) around around') :
    tree.SeesAlike tree' node.id := by
  obtain ⟨occurrence, occurs, isOf⟩ := Program.exists_occurrence has
  obtain ⟨occurrence', occurs', isOf'⟩ := Program.exists_occurrence has'
  have enclosing (fits : Declaration → Bool)
      (byKind : ∀ declared other : Declaration, declared.kind = other.kind →
        fits declared = fits other) :
      AgreeOnId (tree.innermostOwner? occurrence.scope fits)
        (tree'.innermostOwner? occurrence'.scope fits) := by
    obtain ⟨found, search, isFound⟩ := result.innermostOwner?_eq occurs isOf fits
    obtain ⟨found', search', isFound'⟩ := result'.innermostOwner?_eq occurs' isOf' fits
    have owners : ∀ first second : Node, first.Corresponds policy second →
        (first.owner? fits).map Declaration.id = (second.owner? fits).map Declaration.id := by
      intro _ _ corresponds
      exact corresponds.map_id_owner?_eq byKind
    have agree := map_findSome?_of_forall₂ owners nested
    rw [← isFound, ← isFound', Option.map_map, Option.map_map] at agree
    exact ⟨found, found', search, search', agree⟩
  have classes : ∀ declared other : Declaration, declared.kind = other.kind →
      declared.toClass?.isSome = other.toClass?.isSome := by
    intro declared other sameKind
    cases declared <;> cases other <;> first | rfl | cases sameKind
  have functions : ∀ declared other : Declaration, declared.kind = other.kind →
      declared.toFunction?.isSome = other.toFunction?.isSome := by
    intro declared other sameKind
    cases declared <;> cases other <;> first | rfl | cases sameKind
  refine ⟨occurrence.scope, occurrence'.scope, ?_, ?_, ?names, enclosing _ fun _ _ _ => rfl,
    enclosing _ classes, enclosing _ functions⟩
  · rw [← isOf.node_eq]
    exact result.scopeAround?_eq occurs
  · rw [same, ← isOf'.node_eq]
    exact result'.scopeAround?_eq occurs'
  case names =>
    intro name
    refine ⟨_, _, result.lookup?_eq_referent? occurs name,
      result'.lookup?_eq_referent? occurs' name, ?_⟩
    -- The trees answer with bindings, the programs with declarations.
    have refers := Program.map_declaration_referent? policy first isOf name
    have refers' := Program.map_declaration_referent? policy second isOf' name
    have agree := Program.map_id_lexical?_eq topLevel nested name
    rw [← refers, ← refers', Option.map_map, Option.map_map] at agree
    exact agree

end ScopeTree.IsResult

end DecafScopes
