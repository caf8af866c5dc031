import DecafScopes.Proofs.Binding.Plan
import DecafScopes.Proofs.Outline.Unfolding

/-!
# Registrations in the order of the source

Which declarations a program registers, in which scopes and in which order, is
read off the syntax here (`Program.registrations`): each top-level declaration is
followed at once by its inside; in a class or an interface all members come before
the inside of the first; in a function the parameters come before the body, and in
a block the variables before the statements.  A scope is known by the node that
opens it, and the global one by none.

The steps of a program register the same declarations in the same order
(`Program.map_registrations_steps`).  In between stands the forest of nodes
(`Forest.registrations`), which has lost the syntax but does not have any numbers
yet.
-/

set_option autoImplicit false

namespace DecafScopes

/-- The registration of a declaration in the scope that a node opens, or in the
global one. -/
abbrev SourceRegistration : Type := Registration (Option NodeId)

/-! ## Registrations on the syntax -/

/-- Registers variables in one scope. -/
def VariableDecl.registrations (scope : Option NodeId) (list : List VariableDecl) :
    List SourceRegistration :=
  list.map fun declared => ⟨scope, .variableDecl declared⟩

/-- What a loop starts with is registered in the scope of the loop. -/
def LoopStart.registrations (scope : Option NodeId) : LoopStart → List SourceRegistration
  | .variableDecl declared => [⟨scope, .variableDecl declared⟩]
  | .expression _ => []

mutual

/-- The variables of a block, then what its statements register. -/
def Block.registrations : Block → List SourceRegistration
  | ⟨id, _, locals, statements⟩ =>
      VariableDecl.registrations (some id) locals ++ Statement.registrationsList statements

/-- What is registered inside a statement. -/
def Statement.registrations : Statement → List SourceRegistration
  | .block body => body.registrations
  | .plain id _ form => form.registrations id

/-- What is registered inside a statement with a given identity. -/
def StatementForm.registrations (id : NodeId) : StatementForm → List SourceRegistration
  | .ifElse _ whenTrue whenFalse =>
      whenTrue.registrations ++ Statement.registrationsOption whenFalse
  | .whileLoop _ body => body.registrations
  | .forLoop start _ _ body => start.registrations (some id) ++ body.registrations
  | .switch _ arms fallback => Arm.registrationsList arms ++ Arm.registrationsOption fallback
  | .leave _ | .print _ | .exitLoop | .evaluate _ => []

/-- What is registered inside an arm of a `switch`. -/
def Arm.registrations : Arm → List SourceRegistration
  | ⟨_, _, _, statements⟩ => Statement.registrationsList statements

/-- What is registered inside a statement that may be missing. -/
def Statement.registrationsOption : Option Statement → List SourceRegistration
  | none => []
  | some statement => statement.registrations

/-- What is registered inside of statements. -/
def Statement.registrationsList : List Statement → List SourceRegistration
  | [] => []
  | statement :: others => statement.registrations ++ Statement.registrationsList others

/-- What is registered inside an arm that may be missing. -/
def Arm.registrationsOption : Option Arm → List SourceRegistration
  | none => []
  | some arm => arm.registrations

/-- What is registered inside of arms. -/
def Arm.registrationsList : List Arm → List SourceRegistration
  | [] => []
  | arm :: others => arm.registrations ++ Arm.registrationsList others

end

section Declarations

variable (policy : BindingPolicy)

/-- What is registered inside a function: its parameters if the policy declares
them, then what its body registers. -/
def FunctionDecl.registrations (declared : FunctionDecl) : List SourceRegistration :=
  (if policy.declaresParameters then
    VariableDecl.registrations (some declared.id) declared.parameters
  else []) ++
    match declared.body with
    | none => []
    | some body => body.registrations

/-- What is registered inside a member of a class. -/
def Member.registrations : Member → List SourceRegistration
  | .field _ => []
  | .method declared => declared.registrations policy

/-- What is registered inside a declaration: the members of a class or an
interface, and after all of them the inside of each. -/
def Declaration.registrations : Declaration → List SourceRegistration
  | .variableDecl _ => []
  | .classDecl declared =>
      declared.members.map (fun member => ⟨some declared.id, member.declaration⟩) ++
        declared.members.flatMap (Member.registrations policy)
  | .interfaceDecl declared =>
      declared.prototypes.map (fun prototype => ⟨some declared.id, .functionDecl prototype⟩) ++
        declared.prototypes.flatMap (FunctionDecl.registrations policy)
  | .functionDecl declared => declared.registrations policy

/-- **What a program registers**: each top-level declaration in the global scope,
followed at once by what is registered inside of it. -/
def Program.registrations (program : Program) : List SourceRegistration :=
  program.declarations.flatMap fun declaration =>
    ⟨none, declaration⟩ :: declaration.registrations policy

end Declarations

/-! ## Registrations on the forest of nodes -/

/-- Registers a node in a scope, if it is a declaration. -/
def Node.registrations (scope : Option NodeId) (node : Node) : List SourceRegistration :=
  node.declaration?.toList.map fun declaration => ⟨scope, declaration⟩

/-- What is registered at a root before it is entered. -/
def Visit.registrations (visit : Visit) (scope : Option NodeId) (root : Node) :
    List SourceRegistration :=
  match visit with
  | full true => root.registrations scope
  | full false | inside => []

/-- What is registered when a forest is gone through whose roots stand in
`scope`. -/
def Forest.registrations (policy : BindingPolicy) (scope : Option NodeId) (visit : Visit) :
    Forest Node → List SourceRegistration
  | nil => []
  | node label parts rest =>
      visit.registrations scope label ++
        ((match label.opens? with
          | none => parts.registrations policy scope (.full true)
          | some kind =>
            (if kind.announcesFirst then
              parts.roots.flatMap (Node.registrations (some label.id))
            else []) ++
              parts.registrations policy (some label.id) (.ofKind policy kind)) ++
          rest.registrations policy scope visit)

/-! ## From steps to the forest of nodes -/

section Steps

variable (key : Nat → Option NodeId) (policy : BindingPolicy)

theorem Entry.map_registrations_announce (scope : Nat) (declaring : Bool) (entry : Entry) :
    (Step.registrations (entry.announce scope declaring)).map (Registration.map key) =
      if declaring then entry.node.registrations (key scope) else [] := by
  unfold announce declared? Node.registrations
  cases entry.node.declaration? with
  | none => cases declaring <;> rfl
  | some declaration => cases declaring <;> rfl

theorem Entry.map_registrations_flatMap_announce (scope : Nat) (declaring : Bool)
    (entries : List Entry) :
    (Step.registrations (entries.flatMap (announce scope declaring))).map (Registration.map key) =
      if declaring then (entries.map node).flatMap (Node.registrations (key scope)) else [] := by
  induction entries with
  | nil => cases declaring <;> rfl
  | cons entry others ih =>
      rw [List.flatMap_cons, Step.registrations_append, List.map_append, ih,
        map_registrations_announce]
      cases declaring <;> rfl

theorem Visit.map_registrations_announce (visit : Visit) (scope : Nat) (entry : Entry) :
    (Step.registrations (visit.announce scope entry)).map (Registration.map key) =
      visit.registrations (key scope) entry.node := by
  cases visit with
  | full declaring =>
      rw [announce, Entry.map_registrations_announce]
      cases declaring <;> rfl
  | inside => rfl

/-- **The steps register what the forest registers**, if the scopes are called by
the nodes that open them. -/
theorem Forest.map_registrations_steps (forest : Forest Node) {place : Place}
    (named : ∀ entry ∈ (forest.placed place).labels, entry.node.opens?.isSome →
      key entry.place.scope = some entry.id) (scope : Nat) (visit : Visit) :
    (Step.registrations ((forest.placed place).steps policy scope visit)).map
        (Registration.map key) =
      forest.registrations policy (key scope) visit := by
  induction forest generalizing place scope visit with
  | nil => rfl
  | node label parts rest below right =>
      rw [placed] at named ⊢
      simp only [labels, List.forall_mem_cons, List.forall_mem_append] at named
      obtain ⟨here, inParts, inRest⟩ := named
      rw [registrations, steps_node, Step.registrations_append, Step.registrations_append,
        List.map_append, List.map_append, Visit.map_registrations_announce,
        right inRest scope visit]
      cases opens : label.opens? with
      | none =>
          rw [entering_of_closed policy opens, below inParts]
      | some kind =>
          have called : key place.scope = some label.id := here (opens ▸ rfl)
          rw [entering_of_opens policy opens, Step.registrations_cons, Step.registration?,
            Option.toList_none, List.nil_append, innerSteps, Step.registrations_append,
            List.map_append, Entry.map_registrations_flatMap_announce, below inParts, called]
          congr 3
          cases kind <;> simp [Visit.ofKind, ScopeKind.announcesFirst, BindingPolicy.declaresIn,
            Visit.outstanding]

end Steps

/-! ## From the forest of nodes to the syntax -/

section Syntax

variable (policy : BindingPolicy)

section Nodes

variable {policy} {scope : Option NodeId} {visit : Visit} {label : Node}
  {parts rest : Forest Node}

@[simp] theorem Forest.registrations_nil :
    (nil : Forest Node).registrations policy scope visit = [] :=
  rfl

/-- Nothing but a declaration is registered when it is announced. -/
theorem Visit.registrations_eq_nil (nothing : label.declaration? = none) :
    visit.registrations scope label = [] := by
  cases visit with
  | full declaring => cases declaring <;> simp [registrations, Node.registrations, nothing]
  | inside => rfl

theorem Forest.registrations_node_of_closed (nothing : label.declaration? = none)
    (closed : label.opens? = none) :
    (node label parts rest).registrations policy scope visit =
      parts.registrations policy scope (.full true) ++ rest.registrations policy scope visit := by
  rw [registrations, Visit.registrations_eq_nil nothing, List.nil_append]
  simp only [closed]

/-- What a node that opens a scope registers, if its parts are not announced
first. -/
theorem Forest.registrations_node_of_opens {kind : ScopeKind} (opens : label.opens? = some kind)
    (later : kind.announcesFirst = false) :
    (node label parts rest).registrations policy scope visit =
      visit.registrations scope label ++
        (parts.registrations policy (some label.id) (.full (policy.declaresIn kind)) ++
          rest.registrations policy scope visit) := by
  rw [registrations]
  simp only [opens, later, Bool.false_eq_true, if_false, List.nil_append, Visit.ofKind]

/-- What a node that opens a scope registers, if its parts are announced first. -/
theorem Forest.registrations_node_of_announcing {kind : ScopeKind}
    (opens : label.opens? = some kind) (first : kind.announcesFirst = true) :
    (node label parts rest).registrations policy scope visit =
      visit.registrations scope label ++
        (parts.roots.flatMap (Node.registrations (some label.id)) ++
          parts.registrations policy (some label.id) .inside ++
            rest.registrations policy scope visit) := by
  rw [registrations]
  simp only [opens, first, if_true, Visit.ofKind]

end Nodes

mutual

theorem Expression.registrations_nodes : ∀ (expression : Expression) (rest : Forest Node)
    (scope : Option NodeId) (visit : Visit),
    (expression.nodes rest).registrations policy scope visit =
      rest.registrations policy scope visit
  | ⟨_, _, form⟩, rest, scope, visit => by
      rw [Expression.nodes, Forest.registrations_node_of_closed rfl rfl,
        form.registrations_parts scope, List.nil_append]

theorem ExpressionForm.registrations_parts : ∀ (form : ExpressionForm) (scope : Option NodeId),
    form.parts.registrations policy scope (.full true) = []
  | .field object _, scope => object.registrations_nodes .nil scope _
  | .call receiver _ arguments, scope => by
      rw [ExpressionForm.parts, Expression.registrations_nodesOption receiver,
        Expression.registrations_nodesList arguments]
      rfl
  | .assign target value, scope => by
      rw [ExpressionForm.parts, target.registrations_nodes, value.registrations_nodes]
      rfl
  | .binary _ left right, scope => by
      rw [ExpressionForm.parts, left.registrations_nodes, right.registrations_nodes]
      rfl
  | .unary _ operand, scope => operand.registrations_nodes .nil scope _
  | .post _ operand, scope => operand.registrations_nodes .nil scope _
  | .element array index, scope => by
      rw [ExpressionForm.parts, array.registrations_nodes, index.registrations_nodes]
      rfl
  | .newArray length _, scope => length.registrations_nodes .nil scope _
  | .omitted, _ | .literal _, _ | .this, _ | .name _, _ | .newObject _, _ | .input _, _ => rfl

theorem Expression.registrations_nodesOption : ∀ (expression : Option Expression)
    (rest : Forest Node) (scope : Option NodeId) (visit : Visit),
    (Expression.nodesOption expression rest).registrations policy scope visit =
      rest.registrations policy scope visit
  | none, _, _, _ => rfl
  | some expression, rest, scope, visit => expression.registrations_nodes rest scope visit

theorem Expression.registrations_nodesList : ∀ (expressions : List Expression)
    (rest : Forest Node) (scope : Option NodeId) (visit : Visit),
    (Expression.nodesList expressions rest).registrations policy scope visit =
      rest.registrations policy scope visit
  | [], _, _, _ => rfl
  | expression :: others, rest, scope, visit => by
      rw [Expression.nodesList, expression.registrations_nodes,
        Expression.registrations_nodesList others]

end

/-- Variables are registered where they stand, one after the other. -/
theorem VariableDecl.registrations_nodesList (list : List VariableDecl) (rest : Forest Node)
    (scope : Option NodeId) (declaring : Bool) :
    (VariableDecl.nodesList list rest).registrations policy scope (.full declaring) =
      (if declaring then VariableDecl.registrations scope list else []) ++
        rest.registrations policy scope (.full declaring) := by
  induction list with
  | nil => cases declaring <;> rfl
  | cons declared others ih =>
      rw [nodesList, nodes, Forest.registrations, ih]
      cases declaring <;> rfl

theorem LoopStart.registrations_nodes (start : LoopStart) (rest : Forest Node)
    (scope : Option NodeId) :
    (start.nodes rest).registrations policy scope (.full true) =
      start.registrations scope ++ rest.registrations policy scope (.full true) := by
  cases start with
  | variableDecl declared => rfl
  | expression value => exact value.registrations_nodes policy rest scope _

mutual

theorem Block.registrations_nodes : ∀ (body : Block) (rest : Forest Node)
    (scope : Option NodeId) (visit : Visit),
    (body.nodes rest).registrations policy scope visit =
      body.registrations ++ rest.registrations policy scope visit
  | ⟨id, _, locals, statements⟩, rest, scope, visit => by
      rw [Block.nodes, Forest.registrations_node_of_opens rfl rfl,
        Visit.registrations_eq_nil rfl, VariableDecl.registrations_nodesList,
        Statement.registrations_nodesList statements, Forest.registrations_nil, List.append_nil]
      rfl

theorem Statement.registrations_nodes : ∀ (statement : Statement) (rest : Forest Node)
    (scope : Option NodeId) (visit : Visit),
    (statement.nodes rest).registrations policy scope visit =
      statement.registrations ++ rest.registrations policy scope visit
  | .block body, rest, scope, visit => body.registrations_nodes rest scope visit
  | .plain _ _ (.ifElse test whenTrue whenFalse), rest, scope, visit => by
      rw [Statement.nodes, Forest.registrations_node_of_closed rfl rfl, StatementForm.parts,
        test.registrations_nodes, whenTrue.registrations_nodes,
        Statement.registrations_nodesOption whenFalse, Forest.registrations_nil, List.append_nil]
      rfl
  | .plain _ _ (.whileLoop test body), rest, scope, visit => by
      rw [Statement.nodes, Forest.registrations_node_of_closed rfl rfl, StatementForm.parts,
        test.registrations_nodes, body.registrations_nodes, Forest.registrations_nil,
        List.append_nil]
      rfl
  | .plain id _ (.forLoop start test step body), rest, scope, visit => by
      rw [Statement.nodes, Forest.registrations_node_of_opens rfl rfl,
        Visit.registrations_eq_nil rfl, StatementForm.parts, BindingPolicy.declaresIn,
        LoopStart.registrations_nodes, test.registrations_nodes, step.registrations_nodes,
        body.registrations_nodes, Forest.registrations_nil, List.append_nil]
      rfl
  | .plain _ _ (.switch test arms fallback), rest, scope, visit => by
      rw [Statement.nodes, Forest.registrations_node_of_closed rfl rfl, StatementForm.parts,
        test.registrations_nodes, Arm.registrations_nodesList arms,
        Arm.registrations_nodesOption fallback, Forest.registrations_nil, List.append_nil]
      rfl
  | .plain _ _ (.leave value), rest, scope, visit => by
      rw [Statement.nodes, Forest.registrations_node_of_closed rfl rfl, StatementForm.parts,
        Expression.registrations_nodesOption]
      rfl
  | .plain _ _ (.print arguments), rest, scope, visit => by
      rw [Statement.nodes, Forest.registrations_node_of_closed rfl rfl, StatementForm.parts,
        Expression.registrations_nodesList]
      rfl
  | .plain _ _ .exitLoop, rest, scope, visit => by
      rw [Statement.nodes, Forest.registrations_node_of_closed rfl rfl]
      rfl
  | .plain _ _ (.evaluate value), rest, scope, visit => by
      rw [Statement.nodes, Forest.registrations_node_of_closed rfl rfl, StatementForm.parts,
        value.registrations_nodes]
      rfl

theorem Arm.registrations_nodes : ∀ (arm : Arm) (rest : Forest Node) (scope : Option NodeId)
    (visit : Visit),
    (arm.nodes rest).registrations policy scope visit =
      arm.registrations ++ rest.registrations policy scope visit
  | ⟨_, _, _, statements⟩, rest, scope, visit => by
      rw [Arm.nodes, Forest.registrations_node_of_closed rfl rfl,
        Expression.registrations_nodesOption, Statement.registrations_nodesList statements,
        Forest.registrations_nil, List.append_nil]
      rfl

theorem Arm.registrations_nodesOption : ∀ (arm : Option Arm) (rest : Forest Node)
    (scope : Option NodeId) (visit : Visit),
    (Arm.nodesOption arm rest).registrations policy scope visit =
      Arm.registrationsOption arm ++ rest.registrations policy scope visit
  | none, _, _, _ => rfl
  | some arm, rest, scope, visit => arm.registrations_nodes rest scope visit

theorem Arm.registrations_nodesList : ∀ (arms : List Arm) (rest : Forest Node)
    (scope : Option NodeId) (visit : Visit),
    (Arm.nodesList arms rest).registrations policy scope visit =
      Arm.registrationsList arms ++ rest.registrations policy scope visit
  | [], _, _, _ => rfl
  | arm :: others, rest, scope, visit => by
      rw [Arm.nodesList, arm.registrations_nodes, Arm.registrations_nodesList others,
        Arm.registrationsList, List.append_assoc]

theorem Statement.registrations_nodesOption : ∀ (statement : Option Statement)
    (rest : Forest Node) (scope : Option NodeId) (visit : Visit),
    (Statement.nodesOption statement rest).registrations policy scope visit =
      Statement.registrationsOption statement ++ rest.registrations policy scope visit
  | none, _, _, _ => rfl
  | some statement, rest, scope, visit => statement.registrations_nodes rest scope visit

theorem Statement.registrations_nodesList : ∀ (statements : List Statement)
    (rest : Forest Node) (scope : Option NodeId) (visit : Visit),
    (Statement.nodesList statements rest).registrations policy scope visit =
      Statement.registrationsList statements ++ rest.registrations policy scope visit
  | [], _, _, _ => rfl
  | statement :: others, rest, scope, visit => by
      rw [Statement.nodesList, statement.registrations_nodes,
        Statement.registrations_nodesList others, Statement.registrationsList, List.append_assoc]

end

/-- What a function registers, apart from itself. -/
theorem FunctionDecl.registrations_nodes (declared : FunctionDecl) (rest : Forest Node)
    (scope : Option NodeId) (visit : Visit) :
    (declared.nodes rest).registrations policy scope visit =
      visit.registrations scope declared.node ++
        (declared.registrations policy ++ rest.registrations policy scope visit) := by
  rw [nodes, Forest.registrations_node_of_opens rfl rfl, VariableDecl.registrations_nodesList,
    registrations]
  cases declared.body with
  | none => rfl
  | some body =>
      simp only [body.registrations_nodes, Forest.registrations_nil, List.append_nil]
      rfl

section Lists

variable (scope : Option NodeId)

/-- The inside of each function of a list. -/
theorem FunctionDecl.registrations_nodesList (list : List FunctionDecl) :
    (nodesList list .nil).registrations policy scope .inside =
      list.flatMap (FunctionDecl.registrations policy) := by
  induction list with
  | nil => rfl
  | cons declared others ih =>
      rw [nodesList, registrations_nodes, ih]
      rfl

theorem FunctionDecl.registrations_roots (list : List FunctionDecl) :
    (nodesList list .nil).roots.flatMap (Node.registrations scope) =
      list.map fun declared => ⟨scope, .functionDecl declared⟩ := by
  induction list with
  | nil => rfl
  | cons declared others ih =>
      rw [List.map_cons, ← ih]
      rfl

/-- The inside of each member of a list. -/
theorem Member.registrations_nodesList (list : List Member) :
    (nodesList list .nil).registrations policy scope .inside =
      list.flatMap (Member.registrations policy) := by
  induction list with
  | nil => rfl
  | cons member others ih =>
      rw [nodesList, List.flatMap_cons, ← ih]
      cases member with
      | field declared => rfl
      | method declared =>
          rw [nodes, FunctionDecl.registrations_nodes]
          rfl

theorem Member.registrations_roots (list : List Member) :
    (nodesList list .nil).roots.flatMap (Node.registrations scope) =
      list.map fun member => ⟨scope, member.declaration⟩ := by
  induction list with
  | nil => rfl
  | cons member others ih =>
      rw [List.map_cons, ← ih]
      cases member <;> rfl

end Lists

/-- What a declaration registers: itself, then its inside. -/
theorem Declaration.registrations_nodes (declaration : Declaration) (rest : Forest Node)
    (scope : Option NodeId) :
    (declaration.nodes rest).registrations policy scope (.full true) =
      ⟨scope, declaration⟩ :: (declaration.registrations policy ++
        rest.registrations policy scope (.full true)) := by
  cases declaration with
  | variableDecl declared => rfl
  | functionDecl declared => exact declared.registrations_nodes policy rest scope (.full true)
  | classDecl declared =>
      rw [nodes, Forest.registrations_node_of_announcing rfl rfl, Member.registrations_roots,
        Member.registrations_nodesList]
      rfl
  | interfaceDecl declared =>
      rw [nodes, Forest.registrations_node_of_announcing rfl rfl,
        FunctionDecl.registrations_roots, FunctionDecl.registrations_nodesList]
      rfl

theorem Declaration.registrations_nodesList (list : List Declaration) :
    (nodesList list .nil).registrations policy none (.full true) =
      list.flatMap fun declaration => ⟨none, declaration⟩ :: declaration.registrations policy := by
  induction list with
  | nil => rfl
  | cons declaration others ih =>
      rw [nodesList, registrations_nodes, ih]
      rfl

/-- **The forest of a program registers what its syntax says.** -/
theorem Program.registrations_nodes (program : Program) :
    program.nodes.registrations policy none (.full true) = program.registrations policy := by
  rw [nodes, Forest.registrations_node_of_closed rfl rfl, Declaration.registrations_nodesList,
    Forest.registrations_nil, List.append_nil]
  rfl

end Syntax

end DecafScopes
