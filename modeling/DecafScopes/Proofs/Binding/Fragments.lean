import DecafScopes.Proofs.Binding.Plan
import DecafScopes.Proofs.Outline.Unfolding
import DecafScopes.Proofs.Scope.Calls

/-!
# Binding a piece of syntax in a tree

A piece of syntax can be bound in any tree and in any scope of it: its outline is placed
where the tree ends, so that its openers get the next free numbers, and the steps for it are
performed on the tree (`Forest.bindIn`).

This is the recursion that a pass consists of.  A forest is bound root by root: a root is
announced; if it opens a scope, the scope is opened in the tree as it is then and the parts
are bound in the new scope, otherwise in the same one; then the remaining roots are bound in
the tree that this has led to (`Forest.bindIn_node`).  A whole program is bound in the tree
that holds only the global scope (`Program.bindLogged_eq_bindIn`).
-/

set_option autoImplicit false

namespace DecafScopes

/-! ## Steps one after the other -/

namespace LoggedTree

variable {redeclaration : Redeclaration} {state next : LoggedTree}

theorem performAll_append (redeclaration : Redeclaration) (state : LoggedTree)
    (first second : List Step) :
    state.performAll redeclaration (first ++ second) =
      state.performAll redeclaration first >>= (·.performAll redeclaration second) :=
  List.foldlM_append

theorem performAll_cons (redeclaration : Redeclaration) (state : LoggedTree) (step : Step)
    (later : List Step) :
    state.performAll redeclaration (step :: later) =
      state.perform redeclaration step >>= (·.performAll redeclaration later) :=
  List.foldlM_cons

/-- Only opening a scope makes a tree larger. -/
theorem size_of_perform {step : Step} (performed : state.perform redeclaration step = .ok next) :
    next.tree.size = state.tree.size + step.opening?.toList.length := by
  cases step with
  | bind node scope =>
      obtain ⟨tree, bound, isNext⟩ := except_bind_eq_ok_iff.mp performed
      obtain ⟨_, rfl⟩ := ScopeTree.bind_eq_ok_iff.mp bound
      cases isNext
      rfl
  | declare scope declared =>
      obtain ⟨⟨refusal, tree⟩, declares, isNext⟩ := except_bind_eq_ok_iff.mp performed
      have same : tree.size = state.tree.size := by
        obtain ⟨found, isFound, isAnswer⟩ := ScopeTree.declare_eq_ok_iff.mp declares
        rw [Prod.mk.injEq] at isAnswer
        rw [isAnswer.2]
        split
        · rfl
        · simp [ScopeTree.setHolder, ScopeTree.size]
      cases refusal with
      | none =>
          cases isNext
          exact same
      | some diagnostic =>
          cases isNext
          exact same
  | openScope parent opener kind owner =>
      obtain ⟨opened, opens, isNext⟩ := except_bind_eq_ok_iff.mp performed
      obtain ⟨_, _, rfl⟩ := ScopeTree.openScope_eq_ok_iff.mp opens
      cases isNext
      exact ScopeTree.size_attach parent opener kind owner

/-- **A tree grows by as many scopes as are opened.** -/
theorem size_of_performAll {steps : List Step}
    (performed : state.performAll redeclaration steps = .ok next) :
    next.tree.size = state.tree.size + (Step.openings steps).length := by
  induction steps generalizing state with
  | nil =>
      cases performed
      rfl
  | cons step later ih =>
      rw [performAll_cons] at performed
      obtain ⟨middle, first, rest⟩ := except_bind_eq_ok_iff.mp performed
      rw [ih rest, size_of_perform first, Step.openings_cons, List.length_append, Nat.add_assoc]

end LoggedTree

/-! ## Placing a forest at the end of a tree -/

/-- Where the next scope of a tree is opened and the next declaration stands at a site. -/
def ScopeTree.nextPlace (tree : ScopeTree) (site : Site) : Place :=
  ⟨tree.size, site⟩

/-- The site of the next declaration after a node has begun. -/
def Site.after (site : Site) (node : Node) : Site :=
  (Place.after ⟨0, site⟩ node).site

/-- The site of the next declaration behind a node with its parts. -/
def Site.behind (site : Site) (node : Node) (parts : Forest Node) : Site :=
  parts.foldl after (site.after node)

theorem Place.after_eq (place : Place) (node : Node) :
    place.after node =
      ⟨place.scope + if node.opens?.isSome then 1 else 0, place.site.after node⟩ := by
  rw [← Forest.scope_after]
  rfl

theorem Place.site_foldl_after (place : Place) (forest : Forest Node) :
    (forest.foldl Place.after place).site = forest.foldl Site.after place.site := by
  induction forest generalizing place with
  | nil => rfl
  | node label parts rest below right =>
      rw [Forest.foldl, Forest.foldl, right, below, Place.after_eq]

/-- An opener that stands for whatever has opened a scope that something is bound in. -/
def Opener.outermost (scope : Nat) : Opener :=
  ⟨⟨.expression ⟨⟨0⟩, ⟨⟨0, 0, 0⟩, ⟨0, 0, 0⟩⟩, .omitted⟩, ⟨scope, ⟨0, 0⟩⟩⟩, .nil⟩

theorem scopeInside_outermost (scope : Nat) : scopeInside [.outermost scope] = scope :=
  rfl

/-! ## The recursion -/

theorem except_bind_congr {α β : Type} {first : Except Fault α} {further other : α → Except Fault β}
    (same : ∀ value, first = .ok value → further value = other value) :
    first >>= further = first >>= other := by
  cases first with
  | error fault => rfl
  | ok value => exact same value rfl

namespace Forest

variable (policy : BindingPolicy) (site : Site) (scope : Nat)

/-- Binds the trees of a forest in a scope of a tree. -/
def bindIn (visit : Visit) (forest : Forest Node) (state : LoggedTree) :
    Except Fault LoggedTree :=
  state.performAll policy.redeclaration
    ((forest.placed (state.tree.nextPlace site)).steps policy scope visit)

/-- Enters a node that has been announced: if it opens a scope, its parts are bound in that
scope, and otherwise in the scope of the node. -/
def enterIn (label : Node) (parts : Forest Node) (state : LoggedTree) :
    Except Fault LoggedTree :=
  match label.opens? with
  | none => parts.bindIn policy (site.after label) scope (.full true) state
  | some kind => do
      let opened ← state.perform policy.redeclaration
        (.openScope scope label.id kind (Entry.declared? ⟨label, state.tree.nextPlace site⟩))
      let first := (Visit.ofKind policy kind).outstanding
        (parts.placed (opened.tree.nextPlace (site.after label)))
      let announced ← opened.performAll policy.redeclaration
        (first.flatMap (Entry.announce state.tree.size (policy.declaresIn kind)))
      parts.bindIn policy (site.after label) state.tree.size (.ofKind policy kind) announced

/-- Entering a node is performing the steps for it. -/
theorem enterIn_eq (label : Node) (parts : Forest Node) (state : LoggedTree) :
    parts.enterIn policy site scope label state =
      state.performAll policy.redeclaration
        (entering policy scope ⟨label, state.tree.nextPlace site⟩
          (parts.placed ((state.tree.nextPlace site).after label))) := by
  have next := Place.after_eq (state.tree.nextPlace site) label
  unfold enterIn
  cases opens : label.opens? with
  | none =>
      rw [opens, Option.isSome_none, if_neg Bool.false_ne_true, Nat.add_zero] at next
      rw [entering_of_closed policy opens, next]
      rfl
  | some kind =>
      rw [opens, Option.isSome_some, if_pos rfl] at next
      rw [entering_of_opens policy opens, LoggedTree.performAll_cons]
      refine except_bind_congr fun opened isOpened => ?_
      -- The parts are placed where the tree ends now that the scope is open.
      have larger : opened.tree.nextPlace (site.after label) =
          (state.tree.nextPlace site).after label := by
        rw [next, ScopeTree.nextPlace, LoggedTree.size_of_perform isOpened]
        rfl
      rw [innerSteps, LoggedTree.performAll_append, ← larger]
      refine except_bind_congr fun announced isAnnounced => ?_
      have same := LoggedTree.size_of_performAll isAnnounced
      rw [Entry.openings_flatMap_announce, List.length_nil, Nat.add_zero] at same
      rw [bindIn, ScopeTree.nextPlace, same]
      rfl

/-- **A forest is bound root by root**: the first root is announced, it is entered in the
tree that this leads to, and the remaining roots are bound in the tree after that. -/
theorem bindIn_node (visit : Visit) (label : Node) (parts rest : Forest Node)
    (state : LoggedTree) :
    (node label parts rest).bindIn policy site scope visit state =
      (do
        let announced ← state.performAll policy.redeclaration
          (visit.announce scope ⟨label, state.tree.nextPlace site⟩)
        let entered ← parts.enterIn policy site scope label announced
        rest.bindIn policy (site.behind label parts) scope visit entered) := by
  rw [bindIn, placed, steps_node, LoggedTree.performAll_append]
  refine except_bind_congr fun announced isAnnounced => ?_
  have same : announced.tree.nextPlace site = state.tree.nextPlace site := by
    have size := LoggedTree.size_of_performAll isAnnounced
    rw [Visit.openings_announce, List.length_nil, Nat.add_zero] at size
    rw [ScopeTree.nextPlace, size]
    rfl
  rw [LoggedTree.performAll_append, enterIn_eq, same]
  refine except_bind_congr fun entered isEntered => ?_
  have behind : entered.tree.nextPlace (site.behind label parts) =
      parts.foldl Place.after ((state.tree.nextPlace site).after label) := by
    have opened := length_openings_entering policy label parts (state.tree.nextPlace site)
      [.outermost scope]
    have sites := Place.site_foldl_after ((state.tree.nextPlace site).after label) parts
    have size := LoggedTree.size_of_performAll isEntered
    have sameSize : announced.tree.size = state.tree.size := congrArg Place.scope same
    rw [ScopeTree.nextPlace, size, sameSize]
    exact congrArg₂ Place.mk opened sites.symm
  rw [bindIn, behind]

end Forest

/-- **A program is bound in the tree that holds only the global scope.** -/
theorem Program.bindLogged_eq_bindIn (policy : BindingPolicy) (program : Program) :
    program.bindLogged policy =
      (program.nodes.bindIn policy ⟨0, 0⟩ ScopeTree.root (.full true) .initial).map
        LoggedTree.finish :=
  rfl

/-! ## Fragments -/

/-- A piece of syntax inside of which scopes are opened and names declared, but which
declares nothing around itself. -/
inductive Fragment where
  | statement (whole : Statement)
  | arm (whole : Arm)
  | block (body : Block)
  /-- What is inside of a function; the function itself has been announced before. -/
  | inside (declared : FunctionDecl)
  | expression (whole : Expression)

namespace Fragment

/-- The outermost node of a fragment. -/
def node : Fragment → Node
  | statement whole => whole.node
  | arm whole => .arm whole
  | block body => .block body
  | inside declared => declared.node
  | expression whole => .expression whole

/-- The nodes of a fragment. -/
def nodes : Fragment → Forest Node
  | statement whole => whole.nodes .nil
  | arm whole => whole.nodes .nil
  | block body => body.nodes .nil
  | inside declared => declared.nodes .nil
  | expression whole => whole.nodes .nil

/-- How a fragment is gone through. -/
def visit : Fragment → Visit
  | statement _ | arm _ | block _ | expression _ => .full true
  | inside _ => .inside

/-- Binds a fragment in a scope of a tree. -/
def bindIn (policy : BindingPolicy) (fragment : Fragment) (site : Site) (scope : Nat)
    (state : LoggedTree) : Except Fault LoggedTree :=
  fragment.nodes.bindIn policy site scope fragment.visit state

/-- **The nodes of a fragment are the complete unfolding of its outermost node**: the roots
below every node are what `Node.inside` has for it. -/
theorem unfolds_nodes (fragment : Fragment) :
    fragment.nodes.Unfolds Node.inside [fragment.node] := by
  cases fragment with
  | statement whole => exact whole.unfolds_nodes .nil
  | arm whole => exact whole.unfolds_nodes .nil
  | block body => exact body.unfolds_nodes .nil
  | inside declared => exact declared.unfolds_nodes .nil
  | expression whole => exact whole.unfolds_nodes .nil

/-- A fragment is one tree. -/
theorem exists_parts (fragment : Fragment) :
    ∃ parts, fragment.nodes = .node fragment.node parts .nil := by
  have unfolds := fragment.unfolds_nodes
  generalize fragment.nodes = forest at unfolds ⊢
  obtain _ | ⟨_, _ | _⟩ := unfolds
  exact ⟨_, rfl⟩

end Fragment

end DecafScopes
