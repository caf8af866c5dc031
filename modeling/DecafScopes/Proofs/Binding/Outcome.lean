import DecafScopes.Proofs.Binding.Levels
import DecafScopes.Proofs.Binding.Readiness
import DecafScopes.Proofs.Binding.Result
import DecafScopes.Proofs.Outline.Ancestry
import DecafScopes.Proofs.Scope.Outward

/-!
# The scope tree of a program

A program in which no two nodes have the same identity can be bound, and its
tree is the result of its steps (`Program.exists_bind`).  The scopes on the way
outward from a node are those of the openers around the node, the innermost
first, and the global scope at last (`ScopeTree.IsResult.exists_outward`); every
one of them holds the winners of its level.
-/

set_option autoImplicit false

namespace DecafScopes

namespace Program

variable {policy : BindingPolicy} {program : Program}

/-! ## The steps of a program -/

theorem map_id_occurrences (program : Program) :
    program.occurrences.map (·.entry.id) = program.nodeIds := by
  rw [nodeIds, ← map_node_occurrences, List.map_map]
  rfl

/-- The steps bind every occurrence once. -/
theorem bindings_steps (policy : BindingPolicy) (program : Program) :
    (Step.bindings (program.steps policy)).Perm (program.occurrences.map Occurrence.binding) :=
  Forest.bindings_steps policy program.outline [] (.full true)

/-- The steps open the scopes of the openers in source order. -/
theorem openings_steps (policy : BindingPolicy) (program : Program) :
    Step.openings (program.steps policy) = program.occurrences.filterMap Occurrence.opening? :=
  Forest.openings_steps policy program.outline [] (.full true)

/-- **The number that a scope gets is the one that the outline has for its
opener.** -/
theorem numbered_steps (policy : BindingPolicy) (program : Program) :
    Step.numbered (program.steps policy) = program.occurrences.filterMap fun occurrence =>
      occurrence.opening?.map (·, occurrence.entry.place.scope) :=
  Forest.zipIdx_openings_steps policy program.nodes (Place.start 0) [] (.full true)

/-- An occurrence of an opener gives rise to an opening. -/
theorem mem_numbered_steps (policy : BindingPolicy) {occurrence : Occurrence}
    (occurs : occurrence ∈ program.occurrences) {kind : ScopeKind}
    (opens : occurrence.entry.node.opens? = some kind) :
    (⟨occurrence.scope, occurrence.entry.id, kind, occurrence.entry.declared?⟩,
      occurrence.entry.place.scope) ∈ Step.numbered (program.steps policy) := by
  rw [numbered_steps]
  refine List.mem_filterMap.mpr ⟨occurrence, occurs, ?_⟩
  rw [Occurrence.opening?, opens]
  rfl

theorem nodup_bound (distinct : program.nodeIds.Nodup) :
    (Step.bound (program.steps policy)).Nodup := by
  have ids := (program.bindings_steps policy).map Prod.fst
  rw [List.map_map] at ids
  rw [← map_id_occurrences] at distinct
  exact ids.nodup_iff.mpr distinct

/-- The steps of a program use only what is there, whatever the identities of its
nodes. -/
theorem allGrounded_steps (policy : BindingPolicy) (program : Program) :
    Step.AllGrounded [] (program.steps policy) :=
  Forest.allGrounded_steps policy program.nodes (.full true) Forest.Ready.initial

/-- **A program whose nodes have distinct identities can be bound**, and
everything in its tree is what can be read off its steps. -/
theorem exists_bind (policy : BindingPolicy) (distinct : program.nodeIds.Nodup) :
    ∃ tree, program.bind policy = .ok tree ∧
      tree.IsResult policy.redeclaration (program.steps policy) := by
  have started : LoggedTree.initial.tree.IsResult policy.redeclaration [] := .initial _
  obtain ⟨final, performed, result⟩ :=
    LoggedTree.exists_performAll started (allGrounded_steps policy program) (nodup_bound distinct)
  refine ⟨final.tree, ?_, result⟩
  rw [Program.bind, bindLogged, performed]
  rfl

end Program

/-! ## The openers around a node -/

/-- Openers that stand around something in a program: each of them occurs with
the further ones around itself. -/
inductive Program.Surround (program : Program) : List Opener → Prop where
  | nil : Surround program []
  | cons {opener : Opener} {further : List Opener} :
      opener.entry.node.opens?.isSome → ⟨opener.entry, further⟩ ∈ program.occurrences →
        Surround program further → Surround program (opener :: further)

theorem Forest.surround_of_mem_occurrences {program : Program} {forest : Forest Entry}
    {outer : List Opener} (known : forest.occurrences outer ⊆ program.occurrences)
    (surround : program.Surround outer) {occurrence : Occurrence}
    (occurs : occurrence ∈ forest.occurrences outer) : program.Surround occurrence.around := by
  induction forest generalizing outer with
  | nil => cases occurs
  | node entry parts rest below right =>
      rw [occurrences] at known occurs
      obtain ⟨here, further⟩ := List.cons_subset.mp known
      obtain ⟨inParts, inRest⟩ := List.append_subset.mp further
      rcases List.mem_cons.mp occurs with rfl | occurs
      · exact surround
      rcases List.mem_append.mp occurs with inside | beside
      · refine below inParts ?_ inside
        unfold Entry.aroundParts
        split
        next opens => exact .cons opens here surround
        · exact surround
      · exact right inRest surround beside

/-- What stands around an occurrence. -/
theorem Program.surround {program : Program} {occurrence : Occurrence}
    (occurs : occurrence ∈ program.occurrences) : program.Surround occurrence.around :=
  Forest.surround_of_mem_occurrences (fun _ member => member) .nil occurs

/-! ## The way outward from a node -/

namespace ScopeTree.IsResult

variable {policy : BindingPolicy} {program : Program} {tree : ScopeTree}

/-- **The way outward from inside of openers goes through their scopes** and ends
at the global scope. -/
theorem exists_outward (result : tree.IsResult policy.redeclaration (program.steps policy))
    {around : List Opener} (surround : program.Surround around) :
    ∃ scopes, tree.outward (scopeInside around) = ⟨scopes, .ok ()⟩ ∧
      scopes.map Scope.number = around.map Opener.number ++ [ScopeTree.root] ∧
      ∀ scope ∈ scopes, tree.scopes[scope.number]? = some scope := by
  induction surround with
  | nil =>
      have found := result.scope_eq ScopeTree.root
      refine ⟨_, outward_of_outermost found rfl, rfl, ?_⟩
      intro scope member
      rw [List.mem_singleton.mp member]
      exact found
  | @cons opener further opens occurs _ ih =>
      obtain ⟨scopes, way, numbers, present⟩ := ih
      obtain ⟨kind, isKind⟩ := Option.isSome_iff_exists.mp opens
      have listed := Program.mem_numbered_steps policy occurs isKind
      have found := (result.scope_eq opener.number).trans
        (Step.scopeAt?_of_numbered _ _ _ listed)
      -- The parent is the scope in which the opener stands, where the way goes on.
      have onward := outward_of_parent found rfl (result.parent_lt _ _ listed)
      simp only [Occurrence.scope, way] at onward
      refine ⟨_, onward, ?_, ?_⟩
      · rw [List.map_cons, List.map_cons, numbers]
        rfl
      · intro scope member
        rcases List.mem_cons.mp member with rfl | old
        · exact found
        · exact present scope old

/-- **Going outward from an occurrence, one meets the winners of its levels.** -/
theorem lookup?_eq_referent? (result : tree.IsResult policy.redeclaration (program.steps policy))
    {occurrence : Occurrence} (occurs : occurrence ∈ program.occurrences) (name : String) :
    tree.lookup? occurrence.scope name = .ok (program.referent? policy occurrence name) := by
  obtain ⟨scopes, way, numbers, present⟩ := result.exists_outward (program.surround occurs)
  have holders : scopes.map (·.holder? name) = (scopes.map Scope.number).map fun number =>
      policy.redeclaration.winner? name (Step.declaredIn number (program.steps policy)) := by
    rw [List.map_map]
    apply List.map_congr_left
    intro scope member
    exact result.holder?_eq (present scope member) name
  have levels : (occurrence.around.map Opener.number ++ [ScopeTree.root]).map
      (Step.declaredIn · (program.steps policy)) =
        occurrence.around.map (Opener.level policy) ++ [program.topLevel] := by
    rw [List.map_append, List.map_map, List.map_singleton, program.declaredIn_steps_root policy]
    apply congrArg (· ++ _)
    apply List.map_congr_left
    intro opener member
    exact program.declaredIn_steps_opener policy occurs member
  rw [Occurrence.scope, lookup?_eq way, Program.referent?]
  refine congrArg Except.ok ?_
  calc scopes.findSome? (·.holder? name)
      = (scopes.map (·.holder? name)).findSome? id := by
        rw [List.findSome?_map, Function.id_comp]
    _ = ((occurrence.around.map Opener.number ++ [ScopeTree.root]).map fun number =>
          policy.redeclaration.winner? name
            (Step.declaredIn number (program.steps policy))).findSome? id := by
        rw [holders, numbers]
    _ = (occurrence.around.map (Opener.level policy) ++ [program.topLevel]).findSome?
          (policy.redeclaration.winner? name) := by
        rw [← levels, List.findSome?_map, List.findSome?_map]
        rfl

/-- An occurrence is bound to the scope in which it stands. -/
theorem scopeAround?_eq (result : tree.IsResult policy.redeclaration (program.steps policy))
    {occurrence : Occurrence} (occurs : occurrence ∈ program.occurrences) :
    tree.scopeAround? occurrence.entry.id = some occurrence.scope := by
  rw [result.around_iff, (program.bindings_steps policy).mem_iff]
  exact List.mem_map_of_mem occurs

end ScopeTree.IsResult

/-! ## A sample program -/

namespace Sample

/-- A span on a line of its own. -/
def line (number : Nat) : Span :=
  ⟨⟨number, number, 1⟩, ⟨number, number, 2⟩⟩

/-- A variable with an identity, which is also its line. -/
def var (number : Nat) (name : String) : VariableDecl :=
  ⟨⟨number⟩, line number, ⟨name, line number⟩, .int⟩

/-- A name on its own with an identity, which is also its line. -/
def use (number : Nat) (name : String) : Expression :=
  ⟨⟨number⟩, line number, .name ⟨name, line number⟩⟩

/-- The body of a loop, in which a name is used. -/
def loopBody : Block :=
  ⟨⟨12⟩, line 12, [], [.plain ⟨13⟩ (line 13) (.evaluate (use 14 "x"))]⟩

/-- A loop over a variable. -/
def loop : StatementForm :=
  .forLoop (.variableDecl (var 9 "i")) (use 10 "i") (use 11 "i") (.block loopBody)

/-- The body of a method, which is a loop. -/
def methodBody : Block :=
  ⟨⟨7⟩, line 7, [], [.plain ⟨8⟩ (line 8) loop]⟩

/-- A method with a parameter. -/
def method : FunctionDecl :=
  ⟨⟨5⟩, line 5, ⟨"m", line 5⟩, .void, [var 6 "y"], some methodBody⟩

/-- A class that declares a field three times. -/
def classDecl : ClassDecl :=
  ⟨⟨2⟩, line 2, ⟨"C", line 2⟩, none, [],
    [.field (var 3 "x"), .field (var 4 "x"), .method method, .field (var 15 "x")]⟩

/-- A function whose two parameters have one name, with an arm of a `switch`. -/
def function : FunctionDecl :=
  ⟨⟨18⟩, line 18, ⟨"x", line 18⟩, .void, [var 19 "a", var 20 "a"],
    some ⟨⟨21⟩, line 21, [var 22 "a"], [.plain ⟨23⟩ (line 23)
      (.switch (use 24 "a") [⟨⟨25⟩, line 25, some (use 26 "a"), []⟩] none)]⟩⟩

/-- A program in which names are shadowed and declared again. -/
def program : Program :=
  ⟨⟨0⟩, line 0, [.variableDecl (var 1 "x"), .classDecl classDecl,
    .interfaceDecl ⟨⟨16⟩, line 16, ⟨"I", line 16⟩,
      [⟨⟨17⟩, line 17, ⟨"p", line 17⟩, .void, [], none⟩]⟩,
    .functionDecl function]⟩

/-- What the use of a name in the loop is written in. -/
def aroundUse : List Node :=
  [.statement (.plain ⟨13⟩ (line 13) (.evaluate (use 14 "x"))), .block loopBody,
    .statement (.plain ⟨8⟩ (line 8) loop), .block methodBody, method.node,
    .declaration (.classDecl classDecl), .program program]

theorem hasNode_use : program.HasNode (.expression (use 14 "x")) aroundUse := by
  have inClass : program.HasNode (.declaration (.classDecl classDecl)) _ :=
    .part .whole (List.mem_of_getElem? (i := 1) rfl)
  have inMethod : program.HasNode (.block methodBody) _ :=
    .part (.part inClass (List.mem_of_getElem? (i := 2) rfl)) (List.mem_of_getElem? (i := 1) rfl)
  have inLoop : program.HasNode (.block loopBody) _ :=
    .part (.part inMethod (List.mem_of_getElem? (i := 0) rfl)) (List.mem_of_getElem? (i := 3) rfl)
  exact .part (.part inLoop (List.mem_of_getElem? (i := 0) rfl)) (List.mem_of_getElem? (i := 0) rfl)

end Sample

end DecafScopes
