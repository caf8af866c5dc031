import DecafScopes.Proofs.Binding.Plan

/-!
# The order in which nodes are bound

In which order a program binds its nodes is read off the syntax here
(`Program.bindingOrder`): a node comes before what is written in it, and that
before what is written to its right.  Only the members of a class or an interface
depart from the order of the source: all of them come before the inside of the
first.

The steps of a program bind the same nodes in the same order, whatever the policy
(`Program.bound_steps`).  In between stands the forest of nodes
(`Forest.bindingOrder`), which has lost the syntax but does not have any numbers
yet.
-/

set_option autoImplicit false

namespace DecafScopes

/-! ## The order on the syntax -/

mutual

/-- An expression, then its operands from left to right. -/
def Expression.bindingOrder : Expression → List NodeId
  | ⟨id, _, form⟩ => id :: form.bindingOrder

/-- The operands of an expression. -/
def ExpressionForm.bindingOrder : ExpressionForm → List NodeId
  | .field object _ => object.bindingOrder
  | .call receiver _ arguments =>
      Expression.bindingOrderOption receiver ++ Expression.bindingOrderList arguments
  | .assign target value => target.bindingOrder ++ value.bindingOrder
  | .binary _ left right => left.bindingOrder ++ right.bindingOrder
  | .unary _ operand => operand.bindingOrder
  | .post _ operand => operand.bindingOrder
  | .element array index => array.bindingOrder ++ index.bindingOrder
  | .newArray length _ => length.bindingOrder
  | .omitted | .literal _ | .this | .name _ | .newObject _ | .input _ => []

/-- An expression that may be missing. -/
def Expression.bindingOrderOption : Option Expression → List NodeId
  | none => []
  | some expression => expression.bindingOrder

/-- Expressions from left to right. -/
def Expression.bindingOrderList : List Expression → List NodeId
  | [] => []
  | expression :: others => expression.bindingOrder ++ Expression.bindingOrderList others

end

/-- What a loop starts with. -/
def LoopStart.bindingOrder : LoopStart → List NodeId
  | .variableDecl declared => [declared.id]
  | .expression value => value.bindingOrder

mutual

/-- A block, its variables, then its statements. -/
def Block.bindingOrder : Block → List NodeId
  | ⟨id, _, locals, statements⟩ =>
      id :: (locals.map VariableDecl.id ++ Statement.bindingOrderList statements)

/-- A statement, then what it is put together from. -/
def Statement.bindingOrder : Statement → List NodeId
  | .block body => body.bindingOrder
  | .plain id _ form => id :: form.bindingOrder

/-- What a statement is put together from, from left to right. -/
def StatementForm.bindingOrder : StatementForm → List NodeId
  | .ifElse test whenTrue whenFalse =>
      test.bindingOrder ++ (whenTrue.bindingOrder ++ Statement.bindingOrderOption whenFalse)
  | .whileLoop test body => test.bindingOrder ++ body.bindingOrder
  | .forLoop start test step body =>
      start.bindingOrder ++ (test.bindingOrder ++ (step.bindingOrder ++ body.bindingOrder))
  | .switch test arms fallback =>
      test.bindingOrder ++ (Arm.bindingOrderList arms ++ Arm.bindingOrderOption fallback)
  | .leave value => Expression.bindingOrderOption value
  | .print arguments => Expression.bindingOrderList arguments
  | .exitLoop => []
  | .evaluate value => value.bindingOrder

/-- An arm of a `switch`, its label, then its statements. -/
def Arm.bindingOrder : Arm → List NodeId
  | ⟨id, _, label, statements⟩ =>
      id :: (Expression.bindingOrderOption label ++ Statement.bindingOrderList statements)

/-- A statement that may be missing. -/
def Statement.bindingOrderOption : Option Statement → List NodeId
  | none => []
  | some statement => statement.bindingOrder

/-- Statements from first to last. -/
def Statement.bindingOrderList : List Statement → List NodeId
  | [] => []
  | statement :: others => statement.bindingOrder ++ Statement.bindingOrderList others

/-- An arm that may be missing. -/
def Arm.bindingOrderOption : Option Arm → List NodeId
  | none => []
  | some arm => arm.bindingOrder

/-- Arms from first to last. -/
def Arm.bindingOrderList : List Arm → List NodeId
  | [] => []
  | arm :: others => arm.bindingOrder ++ Arm.bindingOrderList others

end

/-- The inside of a function: its parameters, then its body. -/
def FunctionDecl.bindingOrderInside (declared : FunctionDecl) : List NodeId :=
  declared.parameters.map VariableDecl.id ++
    match declared.body with
    | none => []
    | some body => body.bindingOrder

/-- The identity of a member of a class. -/
def Member.id : Member → NodeId
  | .field declared => declared.id
  | .method declared => declared.id

/-- The inside of a member of a class, which a field does not have. -/
def Member.bindingOrderInside : Member → List NodeId
  | .field _ => []
  | .method declared => declared.bindingOrderInside

/-- A declaration, then its inside: of a class or an interface all members, and
after them the inside of each. -/
def Declaration.bindingOrder : Declaration → List NodeId
  | .variableDecl declared => [declared.id]
  | .classDecl declared =>
      declared.id :: (declared.members.map Member.id ++
        declared.members.flatMap Member.bindingOrderInside)
  | .interfaceDecl declared =>
      declared.id :: (declared.prototypes.map FunctionDecl.id ++
        declared.prototypes.flatMap FunctionDecl.bindingOrderInside)
  | .functionDecl declared => declared.id :: declared.bindingOrderInside

/-- **The order in which a program binds its nodes**: the program itself, then its
declarations one after the other. -/
def Program.bindingOrder (program : Program) : List NodeId :=
  program.id :: program.declarations.flatMap Declaration.bindingOrder

/-! ## The order on the forest of nodes -/

/-- The order in which the nodes of a forest are bound, whose roots have been
announced before or have not. -/
def Forest.bindingOrder (announced : Bool) : Forest Node → List NodeId
  | nil => []
  | node label parts rest =>
      (if announced then [] else [label.id]) ++
        ((match label.opens? with
          | none => parts.bindingOrder false
          | some kind =>
            (if kind.announcesFirst then parts.roots.map Node.id else []) ++
              parts.bindingOrder kind.announcesFirst) ++
          rest.bindingOrder announced)

/-! ## From steps to the forest of nodes -/

/-- Whether the roots have been announced before a forest is gone through. -/
def Visit.announced : Visit → Bool
  | full _ => false
  | inside => true

theorem Visit.announced_ofKind (policy : BindingPolicy) (kind : ScopeKind) :
    (ofKind policy kind).announced = kind.announcesFirst := by
  cases kind <;> rfl

theorem Visit.bound_announce (visit : Visit) (scope : Nat) (entry : Entry) :
    Step.bound (visit.announce scope entry) = if visit.announced then [] else [entry.id] := by
  cases visit with
  | full declaring =>
      rw [Step.bound, announce, Entry.bindings_announce]
      rfl
  | inside => rfl

/-- What is bound before the parts of an opener are gone through. -/
theorem Visit.bound_outstanding (policy : BindingPolicy) (kind : ScopeKind) (number : Nat)
    (parts : Forest Node) (place : Place) :
    Step.bound (((ofKind policy kind).outstanding (parts.placed place)).flatMap
        (Entry.announce number (policy.declaresIn kind))) =
      if kind.announcesFirst then parts.roots.map Node.id else [] := by
  have ids : (parts.placed place).roots.map Entry.id = parts.roots.map Node.id := by
    rw [← parts.map_node_roots_placed place, List.map_map]
    rfl
  rw [Entry.bound_flatMap_announce, ← ids, ofKind]
  cases kind.announcesFirst <;> rfl

/-- **The steps bind the nodes of a forest in its order.** -/
theorem Forest.bound_steps (policy : BindingPolicy) (forest : Forest Node) (place : Place)
    (scope : Nat) (visit : Visit) :
    Step.bound ((forest.placed place).steps policy scope visit) =
      forest.bindingOrder visit.announced := by
  induction forest generalizing place scope visit with
  | nil => rfl
  | node label parts rest below right =>
      rw [placed, steps_node, Step.bound_append, Step.bound_append, Visit.bound_announce, right,
        bindingOrder]
      cases opens : label.opens? with
      | none =>
          rw [entering_of_closed policy opens, below]
          rfl
      | some kind =>
          rw [entering_of_opens policy opens, Step.bound_cons, innerSteps, Step.bound_append,
            Visit.bound_outstanding, below, Visit.announced_ofKind]
          rfl

/-! ## From the forest of nodes to the syntax -/

@[simp] theorem Forest.bindingOrder_nil (announced : Bool) :
    (nil : Forest Node).bindingOrder announced = [] :=
  rfl

/-- The order at a node whose parts are not announced first. -/
theorem Forest.bindingOrder_node {label : Node} {parts rest : Forest Node} {announced : Bool}
    (later : label.opens?.any ScopeKind.announcesFirst = false) :
    (node label parts rest).bindingOrder announced =
      (if announced then [] else [label.id]) ++
        (parts.bindingOrder false ++ rest.bindingOrder announced) := by
  rw [bindingOrder]
  cases opens : label.opens? with
  | none => rfl
  | some kind =>
      rw [opens, Option.any_some] at later
      simp only [later, Bool.false_eq_true, if_false, List.nil_append]

/-- The order at a node whose parts are announced first. -/
theorem Forest.bindingOrder_node_of_announcing {label : Node} {parts rest : Forest Node}
    {announced : Bool} {kind : ScopeKind} (opens : label.opens? = some kind)
    (first : kind.announcesFirst = true) :
    (node label parts rest).bindingOrder announced =
      (if announced then [] else [label.id]) ++
        (parts.roots.map Node.id ++ parts.bindingOrder true ++ rest.bindingOrder announced) := by
  rw [bindingOrder]
  simp only [opens, first, if_true]

mutual

theorem Expression.bindingOrder_nodes : ∀ (expression : Expression) (rest : Forest Node),
    (expression.nodes rest).bindingOrder false =
      expression.bindingOrder ++ rest.bindingOrder false
  | ⟨_, _, form⟩, rest => by
      rw [Expression.nodes, Forest.bindingOrder_node rfl, form.bindingOrder_parts]
      rfl

theorem ExpressionForm.bindingOrder_parts : ∀ form : ExpressionForm,
    form.parts.bindingOrder false = form.bindingOrder
  | .field object _ => (object.bindingOrder_nodes .nil).trans (List.append_nil _)
  | .call receiver _ arguments => by
      rw [ExpressionForm.parts, Expression.bindingOrder_nodesOption receiver,
        Expression.bindingOrder_nodesList arguments, Forest.bindingOrder_nil, List.append_nil]
      rfl
  | .assign target value => by
      rw [ExpressionForm.parts, target.bindingOrder_nodes, value.bindingOrder_nodes,
        Forest.bindingOrder_nil, List.append_nil]
      rfl
  | .binary _ left right => by
      rw [ExpressionForm.parts, left.bindingOrder_nodes, right.bindingOrder_nodes,
        Forest.bindingOrder_nil, List.append_nil]
      rfl
  | .unary _ operand => (operand.bindingOrder_nodes .nil).trans (List.append_nil _)
  | .post _ operand => (operand.bindingOrder_nodes .nil).trans (List.append_nil _)
  | .element array index => by
      rw [ExpressionForm.parts, array.bindingOrder_nodes, index.bindingOrder_nodes,
        Forest.bindingOrder_nil, List.append_nil]
      rfl
  | .newArray length _ => (length.bindingOrder_nodes .nil).trans (List.append_nil _)
  | .omitted | .literal _ | .this | .name _ | .newObject _ | .input _ => rfl

theorem Expression.bindingOrder_nodesOption : ∀ (expression : Option Expression)
    (rest : Forest Node),
    (Expression.nodesOption expression rest).bindingOrder false =
      Expression.bindingOrderOption expression ++ rest.bindingOrder false
  | none, _ => rfl
  | some expression, rest => expression.bindingOrder_nodes rest

theorem Expression.bindingOrder_nodesList : ∀ (expressions : List Expression)
    (rest : Forest Node),
    (Expression.nodesList expressions rest).bindingOrder false =
      Expression.bindingOrderList expressions ++ rest.bindingOrder false
  | [], _ => rfl
  | expression :: others, rest => by
      rw [Expression.nodesList, expression.bindingOrder_nodes,
        Expression.bindingOrder_nodesList others, Expression.bindingOrderList, List.append_assoc]

end

theorem VariableDecl.bindingOrder_nodesList (list : List VariableDecl) (rest : Forest Node) :
    (nodesList list rest).bindingOrder false =
      list.map VariableDecl.id ++ rest.bindingOrder false := by
  induction list with
  | nil => rfl
  | cons declared others ih =>
      rw [nodesList, nodes, Forest.bindingOrder_node rfl, ih]
      rfl

theorem LoopStart.bindingOrder_nodes (start : LoopStart) (rest : Forest Node) :
    (start.nodes rest).bindingOrder false = start.bindingOrder ++ rest.bindingOrder false := by
  cases start with
  | variableDecl declared => rfl
  | expression value => exact value.bindingOrder_nodes rest

mutual

theorem Block.bindingOrder_nodes : ∀ (body : Block) (rest : Forest Node),
    (body.nodes rest).bindingOrder false = body.bindingOrder ++ rest.bindingOrder false
  | ⟨_, _, locals, statements⟩, rest => by
      rw [Block.nodes, Forest.bindingOrder_node rfl, VariableDecl.bindingOrder_nodesList,
        Statement.bindingOrder_nodesList statements, Forest.bindingOrder_nil, List.append_nil]
      rfl

theorem Statement.bindingOrder_nodes : ∀ (statement : Statement) (rest : Forest Node),
    (statement.nodes rest).bindingOrder false =
      statement.bindingOrder ++ rest.bindingOrder false
  | .block body, rest => body.bindingOrder_nodes rest
  | .plain id span form, rest => by
      have later : (Node.statement (.plain id span form)).opens?.any ScopeKind.announcesFirst =
          false := by
        cases form <;> rfl
      rw [Statement.nodes, Forest.bindingOrder_node later, form.bindingOrder_parts]
      rfl

theorem StatementForm.bindingOrder_parts : ∀ form : StatementForm,
    form.parts.bindingOrder false = form.bindingOrder
  | .ifElse test whenTrue whenFalse => by
      rw [StatementForm.parts, test.bindingOrder_nodes, whenTrue.bindingOrder_nodes,
        Statement.bindingOrder_nodesOption whenFalse, Forest.bindingOrder_nil, List.append_nil]
      rfl
  | .whileLoop test body => by
      rw [StatementForm.parts, test.bindingOrder_nodes, body.bindingOrder_nodes,
        Forest.bindingOrder_nil, List.append_nil]
      rfl
  | .forLoop start test step body => by
      rw [StatementForm.parts, start.bindingOrder_nodes, test.bindingOrder_nodes,
        step.bindingOrder_nodes, body.bindingOrder_nodes, Forest.bindingOrder_nil,
        List.append_nil]
      rfl
  | .switch test arms fallback => by
      rw [StatementForm.parts, test.bindingOrder_nodes, Arm.bindingOrder_nodesList arms,
        Arm.bindingOrder_nodesOption fallback, Forest.bindingOrder_nil, List.append_nil]
      rfl
  | .leave value => (Expression.bindingOrder_nodesOption value .nil).trans (List.append_nil _)
  | .print arguments =>
      (Expression.bindingOrder_nodesList arguments .nil).trans (List.append_nil _)
  | .exitLoop => rfl
  | .evaluate value => (value.bindingOrder_nodes .nil).trans (List.append_nil _)

theorem Arm.bindingOrder_nodes : ∀ (arm : Arm) (rest : Forest Node),
    (arm.nodes rest).bindingOrder false = arm.bindingOrder ++ rest.bindingOrder false
  | ⟨_, _, label, statements⟩, rest => by
      rw [Arm.nodes, Forest.bindingOrder_node rfl, Expression.bindingOrder_nodesOption,
        Statement.bindingOrder_nodesList statements, Forest.bindingOrder_nil, List.append_nil]
      rfl

theorem Statement.bindingOrder_nodesOption : ∀ (statement : Option Statement)
    (rest : Forest Node),
    (Statement.nodesOption statement rest).bindingOrder false =
      Statement.bindingOrderOption statement ++ rest.bindingOrder false
  | none, _ => rfl
  | some statement, rest => statement.bindingOrder_nodes rest

theorem Statement.bindingOrder_nodesList : ∀ (statements : List Statement)
    (rest : Forest Node),
    (Statement.nodesList statements rest).bindingOrder false =
      Statement.bindingOrderList statements ++ rest.bindingOrder false
  | [], _ => rfl
  | statement :: others, rest => by
      rw [Statement.nodesList, statement.bindingOrder_nodes,
        Statement.bindingOrder_nodesList others, Statement.bindingOrderList, List.append_assoc]

theorem Arm.bindingOrder_nodesOption : ∀ (arm : Option Arm) (rest : Forest Node),
    (Arm.nodesOption arm rest).bindingOrder false =
      Arm.bindingOrderOption arm ++ rest.bindingOrder false
  | none, _ => rfl
  | some arm, rest => arm.bindingOrder_nodes rest

theorem Arm.bindingOrder_nodesList : ∀ (arms : List Arm) (rest : Forest Node),
    (Arm.nodesList arms rest).bindingOrder false =
      Arm.bindingOrderList arms ++ rest.bindingOrder false
  | [], _ => rfl
  | arm :: others, rest => by
      rw [Arm.nodesList, arm.bindingOrder_nodes, Arm.bindingOrder_nodesList others,
        Arm.bindingOrderList, List.append_assoc]

end

/-- A function is bound when it is announced, and its inside when it is entered. -/
theorem FunctionDecl.bindingOrder_nodes (declared : FunctionDecl) (rest : Forest Node)
    (announced : Bool) :
    (declared.nodes rest).bindingOrder announced =
      (if announced then [] else [declared.id]) ++
        (declared.bindingOrderInside ++ rest.bindingOrder announced) := by
  rw [nodes, Forest.bindingOrder_node rfl, VariableDecl.bindingOrder_nodesList,
    bindingOrderInside]
  cases declared.body with
  | none => rfl
  | some body =>
      simp only [body.bindingOrder_nodes, Forest.bindingOrder_nil, List.append_nil]
      rfl

/-- The inside of each function of a list. -/
theorem FunctionDecl.bindingOrder_nodesList (list : List FunctionDecl) :
    (nodesList list .nil).bindingOrder true = list.flatMap FunctionDecl.bindingOrderInside := by
  induction list with
  | nil => rfl
  | cons declared others ih =>
      rw [nodesList, bindingOrder_nodes, ih]
      rfl

theorem FunctionDecl.map_id_roots (list : List FunctionDecl) :
    (nodesList list .nil).roots.map Node.id = list.map FunctionDecl.id := by
  induction list with
  | nil => rfl
  | cons declared others ih => exact congrArg (declared.id :: ·) ih

/-- The inside of each member of a list. -/
theorem Member.bindingOrder_nodesList (list : List Member) :
    (nodesList list .nil).bindingOrder true = list.flatMap Member.bindingOrderInside := by
  induction list with
  | nil => rfl
  | cons member others ih =>
      rw [nodesList, List.flatMap_cons, ← ih]
      cases member with
      | field declared => rfl
      | method declared => exact declared.bindingOrder_nodes _ true

theorem Member.map_id_roots (list : List Member) :
    (nodesList list .nil).roots.map Node.id = list.map Member.id := by
  induction list with
  | nil => rfl
  | cons member others ih =>
      rw [List.map_cons, ← ih]
      cases member <;> rfl

theorem Declaration.bindingOrder_nodes (declaration : Declaration) (rest : Forest Node) :
    (declaration.nodes rest).bindingOrder false =
      declaration.bindingOrder ++ rest.bindingOrder false := by
  cases declaration with
  | variableDecl declared => rfl
  | functionDecl declared => exact declared.bindingOrder_nodes rest false
  | classDecl declared =>
      rw [nodes, Forest.bindingOrder_node_of_announcing rfl rfl, Member.map_id_roots,
        Member.bindingOrder_nodesList]
      rfl
  | interfaceDecl declared =>
      rw [nodes, Forest.bindingOrder_node_of_announcing rfl rfl, FunctionDecl.map_id_roots,
        FunctionDecl.bindingOrder_nodesList]
      rfl

theorem Declaration.bindingOrder_nodesList (list : List Declaration) :
    (nodesList list .nil).bindingOrder false = list.flatMap Declaration.bindingOrder := by
  induction list with
  | nil => rfl
  | cons declaration others ih => rw [nodesList, bindingOrder_nodes, ih, List.flatMap_cons]

/-- **The steps of a program bind its nodes in the order that its syntax gives**,
whatever the policy. -/
theorem Program.bound_steps (policy : BindingPolicy) (program : Program) :
    Step.bound (program.steps policy) = program.bindingOrder := by
  have forest := Forest.bound_steps policy program.nodes (Place.start 0) 0 (.full true)
  rw [nodes, Visit.announced, Forest.bindingOrder_node rfl, Declaration.bindingOrder_nodesList,
    Forest.bindingOrder_nil, List.append_nil] at forest
  exact forest

end DecafScopes
