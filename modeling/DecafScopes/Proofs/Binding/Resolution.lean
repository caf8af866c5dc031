import DecafScopes.Proofs.Binding.Outcome

/-!
# Name resolution is lexical scoping

The declaration that a name refers to at a node is determined by the nodes around
it: the openers among them are asked for the declarations directly in them, the
innermost first, and at last the program for its top-level declarations.  The
first that has a declaration of the name decides, by its first or by its last
declaration of the name.  This says nothing of scopes and looks at no tree
(`Program.lexical?`); looking up a name in the scope around a node gives the same
answer (`Program.lookup?_eq_lexical?`).
-/

set_option autoImplicit false

namespace DecafScopes

/-! ## Resolution on the syntax -/

/-- The declarations that a node adds to what can be seen inside it: a class its
members, an interface its prototypes, a function its parameters if the policy
declares them, a block its variables and a `for` loop the variable it starts
with. -/
def Node.adds (policy : BindingPolicy) : Node → List Declaration
  | declaration (.classDecl declared) => declared.members.map Member.declaration
  | declaration (.interfaceDecl declared) => declared.prototypes.map .functionDecl
  | declaration (.functionDecl declared) =>
      if policy.declaresParameters then declared.parameters.map .variableDecl else []
  | block body => body.locals.map .variableDecl
  | statement (.block body) => body.locals.map .variableDecl
  | statement (.plain _ _ (.forLoop (.variableDecl declared) _ _ _)) => [.variableDecl declared]
  | _ => []

/-- Of several declarations, the one that a name refers to. -/
def Redeclaration.chosen? (redeclaration : Redeclaration) (name : String)
    (declarations : List Declaration) : Option Declaration :=
  match redeclaration with
  | .lastWins => declarations.reverse.find? (·.name == name)
  | .firstWins => declarations.find? (·.name == name)

/-- What a name refers to at a node of a program that has `around` around
itself. -/
def Program.lexical? (policy : BindingPolicy) (program : Program) (around : List Node)
    (name : String) : Option Declaration :=
  ((around.filter (·.opens?.isSome)).map (Node.adds policy) ++
    [program.declarations]).findSome? (policy.redeclaration.chosen? name)

/-! ## Levels are what openers add -/

theorem Redeclaration.map_declaration_winner? (redeclaration : Redeclaration) (name : String)
    (level : List Declared) :
    (redeclaration.winner? name level).map Declared.declaration =
      redeclaration.chosen? name (level.map Declared.declaration) := by
  cases redeclaration with
  | lastWins => rw [winner?, chosen?, ← List.map_reverse, List.find?_map]; rfl
  | firstWins => rw [winner?, chosen?, List.find?_map]; rfl

theorem Block.filterMap_declaration?_inside (body : Block) :
    body.inside.filterMap Node.declaration? = body.locals.map .variableDecl := by
  simp [Block.inside, List.filterMap_map, Function.comp_def]

/-- The declarations directly inside of an opener, as far as they are declared,
are what it adds. -/
theorem Node.filterMap_declaration?_inside (policy : BindingPolicy) {node : Node}
    {kind : ScopeKind} (opens : node.opens? = some kind) :
    (if policy.declaresIn kind then node.inside.filterMap Node.declaration? else []) =
      node.adds policy := by
  match node with
  | declaration (.classDecl declared) =>
      cases opens
      simp [inside, adds, BindingPolicy.declaresIn, List.filterMap_map]
  | declaration (.interfaceDecl declared) =>
      cases opens
      simp [inside, adds, BindingPolicy.declaresIn, List.filterMap_map, Function.comp_def]
  | declaration (.functionDecl declared) =>
      cases opens
      simp [inside, adds, BindingPolicy.declaresIn, List.filterMap_map, Function.comp_def]
  | block body =>
      cases opens
      exact body.filterMap_declaration?_inside
  | statement (.block body) =>
      cases opens
      exact body.filterMap_declaration?_inside
  | statement (.plain _ _ (.forLoop start test step body)) =>
      cases opens
      cases start <;> simp [inside, adds, BindingPolicy.declaresIn, StatementForm.inside,
        LoopStart.node]

/-- Only openers add declarations. -/
theorem Node.adds_eq_nil (policy : BindingPolicy) {node : Node} (closed : node.opens? = none) :
    node.adds policy = [] := by
  match node with
  | program _ => rfl
  | declaration (.variableDecl _) => rfl
  | statement (.plain _ _ form) =>
      cases form with
      | forLoop => cases closed
      | ifElse | whileLoop | switch | leave | print | exitLoop | evaluate => rfl
  | arm _ => rfl
  | expression _ => rfl

theorem Entry.map_declaration_filterMap_declared? (entries : List Entry) :
    (entries.filterMap declared?).map Declared.declaration =
      (entries.map node).filterMap Node.declaration? := by
  rw [List.map_filterMap, List.filterMap_map]
  apply List.filterMap_congr
  intro entry _
  rw [declared?, Option.map_map]
  exact Option.map_id'

/-- The level of an opener consists of what its node adds. -/
theorem Opener.map_declaration_level (policy : BindingPolicy) {opener : Opener}
    (opens : opener.entry.node.opens?.isSome)
    (parts : opener.parts.roots.map Entry.node = opener.entry.node.inside) :
    (opener.level policy).map Declared.declaration = opener.entry.node.adds policy := by
  obtain ⟨kind, isKind⟩ := Option.isSome_iff_exists.mp opens
  have direct : opener.declared.map Declared.declaration =
      opener.entry.node.inside.filterMap Node.declaration? := by
    rw [declared, Entry.map_declaration_filterMap_declared?, parts]
  rw [← Node.filterMap_declaration?_inside policy isKind, ← direct]
  simp only [level, isKind]
  split <;> rfl

namespace Program

variable (policy : BindingPolicy) (program : Program)

theorem map_declaration_topLevel :
    program.topLevel.map Declared.declaration = program.declarations := by
  rw [topLevel_eq, Forest.declared, Entry.map_declaration_filterMap_declared?,
    Forest.map_node_roots_placed, program.unfolds_contents.roots_eq, Node.inside,
    List.filterMap_map]
  exact List.filterMap_some

/-- **What the levels of an occurrence determine is what the nodes around it
determine.** -/
theorem map_declaration_referent? {occurrence : Occurrence} {node : Node} {around : List Node}
    (isOf : occurrence.IsOf node around) (name : String) :
    (program.referent? policy occurrence name).map Declared.declaration =
      program.lexical? policy around name := by
  have openers : ∀ opener ∈ occurrence.around, opener.entry.node.opens?.isSome := by
    intro opener member
    have listed := List.mem_map_of_mem (f := (·.entry.node)) member
    rw [isOf.around_eq] at listed
    exact (List.mem_filter.mp listed).2
  have levels : (occurrence.around.map (Opener.level policy)).map (List.map Declared.declaration) =
      (around.filter (·.opens?.isSome)).map (Node.adds policy) := by
    rw [← isOf.around_eq, List.map_map, List.map_map]
    apply List.map_congr_left
    intro opener member
    exact Opener.map_declaration_level policy (openers opener member) (isOf.parts_eq opener member)
  rw [lexical?, ← levels, ← map_declaration_topLevel, ← List.map_singleton, ← List.map_append,
    List.findSome?_map, referent?, List.map_findSome?]
  apply congrArg (List.findSome? · _)
  funext level
  exact policy.redeclaration.map_declaration_winner? name level

/-- What is referred to is a declaration of the program. -/
theorem mem_declared_of_referent? {occurrence : Occurrence}
    (occurs : occurrence ∈ program.occurrences) {name : String} {declared : Declared}
    (refers : program.referent? policy occurrence name = some declared) :
    declared ∈ program.declared := by
  obtain ⟨level, listed, wins⟩ := List.exists_of_findSome?_eq_some refers
  have within := (Redeclaration.mem_of_winner? wins).1
  rcases List.mem_append.mp listed with inside | outermost
  · obtain ⟨opener, around, rfl⟩ := List.mem_map.mp inside
    rw [← program.declaredIn_steps_opener policy occurs around] at within
    exact program.mem_declared_of_mem_declaredIn policy within
  · rw [List.mem_singleton.mp outermost, ← program.declaredIn_steps_root policy] at within
    exact program.mem_declared_of_mem_declaredIn policy within

/-! ## Resolution in the tree -/

variable {program}

/-- **Name resolution is lexical scoping.**  In the tree of a program whose nodes
have distinct identities, every node is bound to a scope in which every name
refers to what the nodes around the node determine: to this declaration at the one
site where it stands in the program. -/
theorem lookup?_eq_lexical? (distinct : program.nodeIds.Nodup) :
    ∃ tree, program.bind policy = .ok tree ∧
      ∀ node around, program.HasNode node around →
        ∃ scope, tree.scopeAround? node.id = some scope ∧
          ∀ name, ∃ found, tree.lookup? scope name = .ok found ∧
            found.map Declared.declaration = program.lexical? policy around name ∧
            ∀ declared, found = some declared ↔
              declared ∈ program.declared ∧
                program.lexical? policy around name = some declared.declaration := by
  obtain ⟨tree, bound, result⟩ := exists_bind policy distinct
  refine ⟨tree, bound, ?_⟩
  intro node around has
  obtain ⟨occurrence, occurs, isOf⟩ := exists_occurrence has
  refine ⟨occurrence.scope, ?_, ?_⟩
  · rw [← isOf.node_eq]
    exact result.scopeAround?_eq occurs
  intro name
  have refers := map_declaration_referent? policy program isOf name
  refine ⟨_, result.lookup?_eq_referent? occurs name, refers, ?_⟩
  intro declared
  constructor
  · intro isDeclared
    rw [isDeclared] at refers
    exact ⟨mem_declared_of_referent? policy program occurs isDeclared, refers.symm⟩
  · rintro ⟨member, isLexical⟩
    rw [isLexical] at refers
    obtain ⟨found, isFound, same⟩ := Option.map_eq_some_iff.mp refers
    have among := mem_declared_of_referent? policy program occurs isFound
    rw [isFound, eq_of_mem_declared distinct among member same]

/-- In the body of the sample loop, `x` is the last field of the class. -/
theorem lookup?_sample_use :
    Sample.program.nodeIds.Nodup ∧
      ∃ tree, Sample.program.bind .standard = .ok tree ∧
        ∃ scope, tree.scopeAround? ⟨14⟩ = some scope ∧
          ∃ found, tree.lookup? scope "x" = .ok found ∧
            found.map Declared.declaration = some (.variableDecl (Sample.var 15 "x")) := by
  have distinct : Sample.program.nodeIds.Nodup := by decide
  obtain ⟨tree, bound, resolves⟩ := lookup?_eq_lexical? .standard distinct
  obtain ⟨scope, around, answers⟩ := resolves _ _ Sample.hasNode_use
  obtain ⟨found, looked, refers, _⟩ := answers "x"
  exact ⟨distinct, tree, bound, scope, around, found, looked, refers⟩

end Program

end DecafScopes
