import DecafScopes.Proofs.Binding.Coverage
import DecafScopes.Proofs.Binding.Enclosure

/-!
# What encloses a node in the tree encloses it in the program

The three searches for enclosing declarations answer for a scope what can be read off
the syntax: the innermost function, the innermost class, and the innermost declaration
with an inside, among the nodes around the node that is bound to the scope
(`Program.encloses_innermost`).  For the scope that a node opens, the node itself counts
among them.  Nothing is said of names, so it makes no difference whether an enclosing
declaration still holds its name or has lost it to another one.
-/

set_option autoImplicit false

namespace DecafScopes

/-! ## The innermost declaration of a kind -/

/-- Of nodes that are listed from the innermost outward, the first one that is a
declaration of one of the given kinds. -/
def innermost? (kinds : List DeclarationKind) (nodes : List Node) : Option Declaration :=
  nodes.findSome? (·.declaration?.filter fun declared => decide (declared.kind ∈ kinds))

/-- Every declaration but a variable has an inside. -/
theorem Node.isSome_opens?_declaration (declared : Declaration) :
    (declaration declared).opens?.isSome = decide (declared.kind ≠ .variableDecl) := by
  cases declared <;> rfl

/-- The innermost node with an inside that fits is the innermost declaration of the kinds
that fit. -/
theorem Node.findSome?_owner?_eq_innermost? (fits : Declaration → Bool)
    {kinds : List DeclarationKind}
    (ofKind : ∀ declared : Declaration,
      (decide (declared.kind ≠ .variableDecl) && fits declared) = decide (declared.kind ∈ kinds))
    (nodes : List Node) : nodes.findSome? (owner? fits) = innermost? kinds nodes := by
  rw [innermost?]
  apply congrArg (nodes.findSome? ·)
  funext node
  cases node with
  | declaration declared =>
      rw [owner?, isSome_opens?_declaration, declaration?, Option.filter_some, Option.filter_some,
        ← ofKind]
      cases decide (declared.kind ≠ .variableDecl) <;> rfl
  | program _ | block _ | statement _ | arm _ | expression _ => exact ite_self none

/-! ## Searches that find a node of a program -/

/-- A search comes to an end, and it finds the declaration that is sought at the one
site where this stands in the program, or nothing if none is sought. -/
def Program.Finds (program : Program) (search : Except Fault (Option Declared))
    (sought : Option Declaration) : Prop :=
  ∃ found, search = .ok found ∧ found.map Declared.declaration = sought ∧
    ∀ declared, found = some declared ↔
      declared ∈ program.declared ∧ sought = some declared.declaration

/-- The declarations that enclose a scope are the innermost ones among the nodes of a
program that are listed. -/
structure ScopeTree.EnclosedBy (tree : ScopeTree) (program : Program) (scope : Nat)
    (nodes : List Node) : Prop where
  function : program.Finds (tree.enclosingFunction? scope) (innermost? [.functionDecl] nodes)
  classDecl : program.Finds (tree.enclosingClass? scope) (innermost? [.classDecl] nodes)
  declaration : program.Finds (tree.enclosingDeclaration? scope)
    (innermost? [.classDecl, .interfaceDecl, .functionDecl] nodes)

/-- What an occurrence declares is among the declarations of the program. -/
theorem Program.mem_declared_of_occurrence {program : Program} {occurrence : Occurrence}
    (occurs : occurrence ∈ program.occurrences) {declared : Declared}
    (declares : occurrence.entry.declared? = some declared) : declared ∈ program.declared := by
  have listed : occurrence.entry ∈ program.outline.labels := by
    rw [← Forest.map_entry_occurrences program.outline []]
    exact List.mem_map_of_mem occurs
  exact List.mem_filterMap.mpr ⟨occurrence.entry, listed, declares⟩

namespace ScopeTree.IsResult

variable {policy : BindingPolicy} {program : Program} {tree : ScopeTree}

/-- **Outward from inside of openers, the search finds the innermost node that fits**, as
the node of the program that it is. -/
theorem finds_innermostOwner
    (result : tree.IsResult policy.redeclaration (program.steps policy))
    (distinct : program.nodeIds.Nodup) {around : List Opener}
    (surround : program.Surround around) {nodes : List Node}
    (listed : around.map (·.entry.node) = nodes.filter (·.opens?.isSome))
    (fits : Declaration → Bool) :
    program.Finds (tree.innermostOwner? (scopeInside around) fits)
      (nodes.findSome? (Node.owner? fits)) := by
  have seen := Opener.map_declaration_findSome? fits listed
  have within : ∀ declared, (around.findSome? fun opener =>
      opener.entry.declared?.filter (fits ·.declaration)) = some declared →
        declared ∈ program.declared := by
    intro declared isFound
    obtain ⟨opener, member, isOwner⟩ := List.exists_of_findSome?_eq_some isFound
    obtain ⟨further, occurs, _⟩ := surround.exists_occurrence member
    exact Program.mem_declared_of_occurrence occurs (Option.filter_eq_some_iff.mp isOwner).1
  refine ⟨_, result.innermostOwner?_eq_findSome? surround fits, seen, ?_⟩
  intro declared
  constructor
  · intro isFound
    rw [isFound] at seen
    exact ⟨within declared isFound, seen.symm⟩
  · rintro ⟨member, isSought⟩
    rw [isSought] at seen
    obtain ⟨other, isFound, same⟩ := Option.map_eq_some_iff.mp seen
    rw [isFound, Program.eq_of_mem_declared distinct (within other isFound) member same]

/-- A scope inside of openers is enclosed by the innermost ones among the nodes that are
listed, if these are the openers and others that open no scope. -/
theorem enclosedBy (result : tree.IsResult policy.redeclaration (program.steps policy))
    (distinct : program.nodeIds.Nodup) {around : List Opener}
    (surround : program.Surround around) {nodes : List Node}
    (listed : around.map (·.entry.node) = nodes.filter (·.opens?.isSome)) :
    tree.EnclosedBy program (scopeInside around) nodes := by
  have finds (fits : Declaration → Bool) {kinds : List DeclarationKind}
      (ofKind : ∀ declared : Declaration,
        (decide (declared.kind ≠ .variableDecl) && fits declared) =
          decide (declared.kind ∈ kinds)) :
      program.Finds (tree.innermostOwner? (scopeInside around) fits) (innermost? kinds nodes) := by
    rw [← Node.findSome?_owner?_eq_innermost? fits ofKind]
    exact result.finds_innermostOwner distinct surround listed fits
  refine ⟨finds (·.toFunction?.isSome) ?_, finds (·.toClass?.isSome) ?_, finds (fun _ => true) ?_⟩
  all_goals
    intro declared
    cases declared <;> rfl

end ScopeTree.IsResult

namespace Program

variable (policy : BindingPolicy) {program : Program}

/-- **Enclosing declarations are those of the syntax.**  In the tree of a program whose
nodes have distinct identities, the scope around a node is enclosed by the innermost
function, class and declaration with an inside among the nodes around the node, and the
scope that a node opens by the innermost ones among the node itself and those around
it. -/
theorem encloses_innermost (distinct : program.nodeIds.Nodup) :
    ∃ tree, program.bind policy = .ok tree ∧
      ∀ node around, program.HasNode node around →
        (∃ scope, tree.scopeAround? node.id = some scope ∧
          tree.EnclosedBy program scope around) ∧
        (node.opens?.isSome → ∃ inner, tree.openedBy? node.id = some inner ∧
          tree.EnclosedBy program inner (node :: around)) := by
  obtain ⟨tree, bound, result⟩ := exists_bind policy distinct
  refine ⟨tree, bound, ?_⟩
  intro node around has
  obtain ⟨occurrence, occurs, isOf⟩ := exists_occurrence has
  have surround := program.surround occurs
  rw [← isOf.node_eq]
  refine ⟨⟨occurrence.scope, result.scopeAround?_eq occurs, ?around⟩, ?inside⟩
  case around => exact result.enclosedBy distinct surround isOf.around_eq
  case inside =>
    intro opens
    -- The scope that the node opens is the one inside of the node and of what is around it.
    have inside : program.Surround (⟨occurrence.entry, .nil⟩ :: occurrence.around) :=
      .cons opens occurs surround
    refine ⟨_, result.openedBy?_eq occurs opens, result.enclosedBy distinct inside ?_⟩
    rw [List.map_cons, isOf.around_eq, List.filter_cons, if_pos opens]

/-- In the sample program, the function `x` encloses what is written in it, although the
variable `x` holds the name if the first declaration wins. -/
theorem encloses_innermost_sample :
    Sample.program.nodeIds.Nodup ∧
      ∃ tree, Sample.program.bind ⟨true, .firstWins⟩ = .ok tree ∧
        ∃ scope found, tree.scopeAround? ⟨24⟩ = some scope ∧
          tree.enclosingFunction? scope = .ok (some found) ∧
          found.declaration = .functionDecl Sample.function := by
  have distinct : Sample.program.nodeIds.Nodup := by decide
  have inFunction : Sample.program.HasNode Sample.function.node _ :=
    .part .whole (List.mem_of_getElem? (i := 3) rfl)
  have inBlock : Sample.program.HasNode (.block _) _ :=
    .part inFunction (List.mem_of_getElem? (i := 2) rfl)
  have inSwitch : Sample.program.HasNode (.statement _) _ :=
    .part inBlock (List.mem_of_getElem? (i := 1) rfl)
  have use : Sample.program.HasNode (.expression (Sample.use 24 "a")) _ :=
    .part inSwitch (List.mem_of_getElem? (i := 0) rfl)
  obtain ⟨tree, bound, encloses⟩ := encloses_innermost ⟨true, .firstWins⟩ distinct
  obtain ⟨⟨scope, around, enclosed⟩, _⟩ := encloses _ _ use
  obtain ⟨found, search, isFunction, _⟩ := enclosed.function
  obtain ⟨declared, rfl, same⟩ := Option.map_eq_some_iff.mp
    (isFunction : found.map Declared.declaration = some (.functionDecl Sample.function))
  exact ⟨distinct, tree, bound, scope, declared, around, search, same⟩

end Program

end DecafScopes
