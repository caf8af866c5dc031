import DecafScopes.Proofs.Outline.Rearrangement
import DecafScopes.Proofs.Outline.Translation

/-!
# Programs of the same shape

Two programs have the same shape if they are put together in the same way, with the same
identities and the same declared names at corresponding places.  Everything else may
differ: written types, the headers of classes, literals, operators, the identifiers in
expressions, and spans.

Programs of the same shape correspond node by node (`Translation.ofShape`).  Whatever the
correspondence, it can be narrowed to nodes that stand at the same path from the roots
(`Translation.along`), because nodes correspond only through those that they are directly
inside of.
-/

set_option autoImplicit false

namespace DecafScopes

/-- Every identity and every name stays as it is. -/
def Renaming.identity : Renaming where
  node := id
  name := id
  node_injective := Function.injective_id
  name_injective := Function.injective_id

/-! ## Expressions -/

mutual

/-- Expressions of the same shape, with the same identities. -/
inductive Expression.SameShape : Expression → Expression → Prop where
  | intro (id : NodeId) (span span' : Span) {form form' : ExpressionForm} :
      ExpressionForm.SameShape form form' →
        Expression.SameShape ⟨id, span, form⟩ ⟨id, span', form'⟩

/-- Expressions that are put together in the same way. -/
inductive ExpressionForm.SameShape : ExpressionForm → ExpressionForm → Prop where
  | omitted : ExpressionForm.SameShape .omitted .omitted
  | literal (value value' : Literal) :
      ExpressionForm.SameShape (.literal value) (.literal value')
  | this : ExpressionForm.SameShape .this .this
  | name (identifier identifier' : Identifier) :
      ExpressionForm.SameShape (.name identifier) (.name identifier')
  | field {object object' : Expression} (member member' : Identifier) :
      Expression.SameShape object object' →
        ExpressionForm.SameShape (.field object member) (.field object' member')
  | call {receiver receiver' : Option Expression} (callee callee' : Identifier)
      {arguments arguments' : List Expression} :
      Option.Rel Expression.SameShape receiver receiver' →
        List.Forall₂ Expression.SameShape arguments arguments' →
          ExpressionForm.SameShape (.call receiver callee arguments)
            (.call receiver' callee' arguments')
  | assign {target target' value value' : Expression} :
      Expression.SameShape target target' → Expression.SameShape value value' →
        ExpressionForm.SameShape (.assign target value) (.assign target' value')
  | binary (op op' : BinaryOp) {left left' right right' : Expression} :
      Expression.SameShape left left' → Expression.SameShape right right' →
        ExpressionForm.SameShape (.binary op left right) (.binary op' left' right')
  | unary (op op' : UnaryOp) {operand operand' : Expression} :
      Expression.SameShape operand operand' →
        ExpressionForm.SameShape (.unary op operand) (.unary op' operand')
  | post (op op' : PostOp) {operand operand' : Expression} :
      Expression.SameShape operand operand' →
        ExpressionForm.SameShape (.post op operand) (.post op' operand')
  | element {array array' index index' : Expression} :
      Expression.SameShape array array' → Expression.SameShape index index' →
        ExpressionForm.SameShape (.element array index) (.element array' index')
  | newObject (className className' : Identifier) :
      ExpressionForm.SameShape (.newObject className) (.newObject className')
  | newArray {length length' : Expression} (elementType elementType' : TypeExpr) :
      Expression.SameShape length length' →
        ExpressionForm.SameShape (.newArray length elementType) (.newArray length' elementType')
  | input (item item' : InputItem) : ExpressionForm.SameShape (.input item) (.input item')

end

/-! ## Statements -/

/-- Variables of the same identity and name. -/
structure VariableDecl.SameShape (declared declared' : VariableDecl) : Prop where
  id_eq : declared'.id = declared.id
  name_eq : declared'.name.name = declared.name.name

/-- Loops that start with the same. -/
inductive LoopStart.SameShape : LoopStart → LoopStart → Prop where
  | variableDecl {declared declared' : VariableDecl} :
      declared.SameShape declared' →
        LoopStart.SameShape (.variableDecl declared) (.variableDecl declared')
  | expression {value value' : Expression} :
      value.SameShape value' → LoopStart.SameShape (.expression value) (.expression value')

mutual

/-- Blocks of the same shape, with the same identities. -/
inductive Block.SameShape : Block → Block → Prop where
  | intro (id : NodeId) (span span' : Span) {locals locals' : List VariableDecl}
      {statements statements' : List Statement} :
      List.Forall₂ VariableDecl.SameShape locals locals' →
        List.Forall₂ Statement.SameShape statements statements' →
          Block.SameShape ⟨id, span, locals, statements⟩ ⟨id, span', locals', statements'⟩

/-- Statements of the same shape, with the same identities. -/
inductive Statement.SameShape : Statement → Statement → Prop where
  | block {body body' : Block} :
      Block.SameShape body body' → Statement.SameShape (.block body) (.block body')
  | plain (id : NodeId) (span span' : Span) {form form' : StatementForm} :
      StatementForm.SameShape form form' →
        Statement.SameShape (.plain id span form) (.plain id span' form')

/-- Statements that are put together in the same way. -/
inductive StatementForm.SameShape :
    StatementForm → StatementForm → Prop where
  | ifElse {test test' : Expression} {whenTrue whenTrue' : Statement}
      {whenFalse whenFalse' : Option Statement} :
      Expression.SameShape test test' → Statement.SameShape whenTrue whenTrue' →
        Option.Rel Statement.SameShape whenFalse whenFalse' →
          StatementForm.SameShape (.ifElse test whenTrue whenFalse)
            (.ifElse test' whenTrue' whenFalse')
  | whileLoop {test test' : Expression} {body body' : Statement} :
      Expression.SameShape test test' → Statement.SameShape body body' →
        StatementForm.SameShape (.whileLoop test body) (.whileLoop test' body')
  | forLoop {start start' : LoopStart} {test test' step step' : Expression}
      {body body' : Statement} :
      LoopStart.SameShape start start' → Expression.SameShape test test' →
        Expression.SameShape step step' → Statement.SameShape body body' →
          StatementForm.SameShape (.forLoop start test step body)
            (.forLoop start' test' step' body')
  | switch {test test' : Expression} {arms arms' : List Arm} {fallback fallback' : Option Arm} :
      Expression.SameShape test test' → List.Forall₂ Arm.SameShape arms arms' →
        Option.Rel Arm.SameShape fallback fallback' →
          StatementForm.SameShape (.switch test arms fallback)
            (.switch test' arms' fallback')
  | leave {value value' : Option Expression} :
      Option.Rel Expression.SameShape value value' →
        StatementForm.SameShape (.leave value) (.leave value')
  | print {arguments arguments' : List Expression} :
      List.Forall₂ Expression.SameShape arguments arguments' →
        StatementForm.SameShape (.print arguments) (.print arguments')
  | exitLoop : StatementForm.SameShape .exitLoop .exitLoop
  | evaluate {value value' : Expression} :
      Expression.SameShape value value' →
        StatementForm.SameShape (.evaluate value) (.evaluate value')

/-- Arms of the same shape, with the same identities. -/
inductive Arm.SameShape : Arm → Arm → Prop where
  | intro (id : NodeId) (span span' : Span) {label label' : Option Expression}
      {statements statements' : List Statement} :
      Option.Rel Expression.SameShape label label' →
        List.Forall₂ Statement.SameShape statements statements' →
          Arm.SameShape ⟨id, span, label, statements⟩ ⟨id, span', label', statements'⟩

end

/-! ## Declarations -/

/-- Functions of the same identity and name, with parameters and bodies of the same
shape. -/
structure FunctionDecl.SameShape (declared declared' : FunctionDecl) : Prop where
  id_eq : declared'.id = declared.id
  name_eq : declared'.name.name = declared.name.name
  parameters : List.Forall₂ VariableDecl.SameShape declared.parameters declared'.parameters
  body : Option.Rel Block.SameShape declared.body declared'.body

/-- Members of the same kind and shape. -/
inductive Member.SameShape : Member → Member → Prop where
  | field {declared declared' : VariableDecl} :
      declared.SameShape declared' → Member.SameShape (.field declared) (.field declared')
  | method {declared declared' : FunctionDecl} :
      declared.SameShape declared' → Member.SameShape (.method declared) (.method declared')

/-- Classes of the same identity and name, with members of the same shape. -/
structure ClassDecl.SameShape (declared declared' : ClassDecl) : Prop where
  id_eq : declared'.id = declared.id
  name_eq : declared'.name.name = declared.name.name
  members : List.Forall₂ Member.SameShape declared.members declared'.members

/-- Interfaces of the same identity and name, with prototypes of the same shape. -/
structure InterfaceDecl.SameShape (declared declared' : InterfaceDecl) : Prop where
  id_eq : declared'.id = declared.id
  name_eq : declared'.name.name = declared.name.name
  prototypes : List.Forall₂ FunctionDecl.SameShape declared.prototypes declared'.prototypes

/-- Declarations of the same kind and shape. -/
inductive Declaration.SameShape : Declaration → Declaration → Prop where
  | variableDecl {declared declared' : VariableDecl} :
      declared.SameShape declared' →
        Declaration.SameShape (.variableDecl declared) (.variableDecl declared')
  | classDecl {declared declared' : ClassDecl} :
      declared.SameShape declared' →
        Declaration.SameShape (.classDecl declared) (.classDecl declared')
  | interfaceDecl {declared declared' : InterfaceDecl} :
      declared.SameShape declared' →
        Declaration.SameShape (.interfaceDecl declared) (.interfaceDecl declared')
  | functionDecl {declared declared' : FunctionDecl} :
      declared.SameShape declared' →
        Declaration.SameShape (.functionDecl declared) (.functionDecl declared')

/-- **Programs of the same shape**: the same constructs with the same identities and the
same declared names. -/
structure Program.SameShape (program program' : Program) : Prop where
  id_eq : program'.id = program.id
  declarations :
    List.Forall₂ Declaration.SameShape program.declarations program'.declarations

/-- Nodes of the same kind and shape. -/
inductive Node.SameShape : Node → Node → Prop where
  | program {whole whole' : Program} :
      whole.SameShape whole' → Node.SameShape (.program whole) (.program whole')
  | declaration {declared declared' : Declaration} :
      declared.SameShape declared' →
        Node.SameShape (.declaration declared) (.declaration declared')
  | block {body body' : Block} :
      body.SameShape body' → Node.SameShape (.block body) (.block body')
  | statement {whole whole' : Statement} :
      whole.SameShape whole' → Node.SameShape (.statement whole) (.statement whole')
  | arm {whole whole' : Arm} :
      whole.SameShape whole' → Node.SameShape (.arm whole) (.arm whole')
  | expression {whole whole' : Expression} :
      whole.SameShape whole' → Node.SameShape (.expression whole) (.expression whole')

/-! ## What the shape determines -/

namespace Declaration.SameShape

variable {declared declared' : Declaration}

theorem id_eq (same : declared.SameShape declared') : declared'.id = declared.id := by
  cases same with
  | variableDecl same => exact same.id_eq
  | classDecl same => exact same.id_eq
  | interfaceDecl same => exact same.id_eq
  | functionDecl same => exact same.id_eq

theorem name_eq (same : declared.SameShape declared') : declared'.name = declared.name := by
  cases same with
  | variableDecl same => exact same.name_eq
  | classDecl same => exact same.name_eq
  | interfaceDecl same => exact same.name_eq
  | functionDecl same => exact same.name_eq

end Declaration.SameShape

theorem Statement.SameShape.node {statement statement' : Statement}
    (same : statement.SameShape statement') :
    statement.node.SameShape statement'.node := by
  cases same with
  | block same => exact .block same
  | plain id span span' same => exact .statement (.plain id span span' same)

theorem LoopStart.SameShape.node {start start' : LoopStart}
    (same : start.SameShape start') : start.node.SameShape start'.node := by
  cases same with
  | variableDecl same => exact .declaration (.variableDecl same)
  | expression same => exact .expression same

theorem Member.SameShape.node {member member' : Member} (same : member.SameShape member') :
    member.node.SameShape member'.node := by
  cases same with
  | field same => exact .declaration (.variableDecl same)
  | method same => exact .declaration (.functionDecl same)

namespace Node.SameShape

variable {node node' : Node}

theorem id_eq (same : node.SameShape node') : node'.id = node.id := by
  cases same with
  | program same => exact same.id_eq
  | declaration same => exact same.id_eq
  | block same => cases same; rfl
  | statement same =>
      cases same with
      | block same => cases same; rfl
      | plain => rfl
  | arm same => cases same; rfl
  | expression same => cases same; rfl

theorem opens?_eq (same : node.SameShape node') : node'.opens? = node.opens? := by
  cases same with
  | program | block | arm | expression => rfl
  | declaration same => cases same <;> rfl
  | statement same =>
      cases same with
      | block => rfl
      | plain _ _ _ same => cases same <;> rfl

theorem isSome_declaration?_eq (same : node.SameShape node') :
    node'.declaration?.isSome = node.declaration?.isSome := by
  cases same <;> rfl

/-! ## Inside of nodes of the same shape -/

theorem map_expression {expressions expressions' : List Expression}
    (same : List.Forall₂ Expression.SameShape expressions expressions') :
    List.Forall₂ Node.SameShape (expressions.map Node.expression)
      (expressions'.map Node.expression) :=
  List.rel_map (fun _ _ here => .expression here) same

theorem map_variable {list list' : List VariableDecl}
    (same : List.Forall₂ VariableDecl.SameShape list list') :
    List.Forall₂ Node.SameShape (list.map VariableDecl.node)
      (list'.map VariableDecl.node) :=
  List.rel_map (fun _ _ here => .declaration (.variableDecl here)) same

theorem map_statement {statements statements' : List Statement}
    (same : List.Forall₂ Statement.SameShape statements statements') :
    List.Forall₂ Node.SameShape (statements.map Statement.node)
      (statements'.map Statement.node) :=
  List.rel_map (fun _ _ here => here.node) same

end Node.SameShape

theorem ExpressionForm.SameShape.forall₂_operands {form form' : ExpressionForm}
    (same : form.SameShape form') :
    List.Forall₂ Expression.SameShape form.operands form'.operands := by
  cases same with
  | omitted | literal | this | name | newObject | input => exact .nil
  | field _ _ only | unary _ _ only | post _ _ only | newArray _ _ only => exact .cons only .nil
  | assign first second | binary _ _ first second | element first second =>
      exact .cons first (.cons second .nil)
  | call _ _ receiver arguments =>
      exact List.rel_append (forall₂_toList_of_rel receiver) arguments

theorem StatementForm.SameShape.forall₂_inside {form form' : StatementForm}
    (same : form.SameShape form') :
    List.Forall₂ Node.SameShape form.inside form'.inside := by
  cases same with
  | ifElse test whenTrue whenFalse =>
      exact .cons (.expression test)
        (.cons whenTrue.node (Node.SameShape.map_statement (forall₂_toList_of_rel whenFalse)))
  | whileLoop test body => exact .cons (.expression test) (.cons body.node .nil)
  | forLoop start test step body =>
      exact .cons start.node
        (.cons (.expression test) (.cons (.expression step) (.cons body.node .nil)))
  | switch test arms fallback =>
      refine .cons (.expression test) (List.rel_append ?_ ?_)
      · exact List.rel_map (fun _ _ here => .arm here) arms
      · exact List.rel_map (fun _ _ here => .arm here) (forall₂_toList_of_rel fallback)
  | leave value => exact Node.SameShape.map_expression (forall₂_toList_of_rel value)
  | print arguments => exact Node.SameShape.map_expression arguments
  | exitLoop => exact .nil
  | evaluate value => exact .cons (.expression value) .nil

theorem Block.SameShape.forall₂_inside {body body' : Block} (same : body.SameShape body') :
    List.Forall₂ Node.SameShape body.inside body'.inside := by
  cases same with
  | intro _ _ _ locals statements =>
      exact List.rel_append (Node.SameShape.map_variable locals)
        (Node.SameShape.map_statement statements)

theorem Declaration.SameShape.forall₂_inside {declared declared' : Declaration}
    (same : declared.SameShape declared') :
    List.Forall₂ Node.SameShape (Node.declaration declared).inside
      (Node.declaration declared').inside := by
  cases same with
  | variableDecl => exact .nil
  | classDecl same => exact List.rel_map (fun _ _ here => here.node) same.members
  | interfaceDecl same =>
      exact List.rel_map (fun _ _ here => .declaration (.functionDecl here)) same.prototypes
  | functionDecl same =>
      exact List.rel_append (Node.SameShape.map_variable same.parameters)
        (List.rel_map (fun _ _ here => .block here) (forall₂_toList_of_rel same.body))

/-- **What is directly inside of nodes of the same shape has the same shape**, one by
one. -/
theorem Node.SameShape.forall₂_inside {node node' : Node} (same : node.SameShape node') :
    List.Forall₂ Node.SameShape node.inside node'.inside := by
  cases same with
  | program same => exact List.rel_map (fun _ _ here => .declaration here) same.declarations
  | declaration same => exact same.forall₂_inside
  | block same => exact same.forall₂_inside
  | statement same =>
      cases same with
      | block same => exact same.forall₂_inside
      | plain _ _ _ same => exact same.forall₂_inside
  | arm same =>
      cases same with
      | intro _ _ _ label statements =>
          exact List.rel_append (map_expression (forall₂_toList_of_rel label))
            (map_statement statements)
  | expression same =>
      cases same with
      | intro _ _ _ same => exact map_expression same.forall₂_operands

/-- Programs of the same shape correspond node by node. -/
def Translation.ofShape : Translation where
  toRenaming := .identity
  Relates := Node.SameShape
  id_eq := Node.SameShape.id_eq
  opens?_eq := Node.SameShape.opens?_eq
  isSome_declaration?_eq := Node.SameShape.isSome_declaration?_eq
  name_eq same := by
    cases same with
    | declaration same => exact same.name_eq
  forall₂_inside := Node.SameShape.forall₂_inside

/-! ## Positions -/

/-- The node that a path leads to, if there is one: the path goes at every step into the
node inside under the given index. -/
def Node.at? (node : Node) : List Nat → Option Node
  | [] => some node
  | index :: path => node.inside[index]?.bind (·.at? path)

theorem Node.at?_append {node target : Node} {path : List Nat}
    (reaches : node.at? path = some target) (index : Nat) :
    node.at? (path ++ [index]) = target.inside[index]? := by
  induction path generalizing node with
  | nil =>
      cases reaches
      rw [List.nil_append, at?]
      exact Option.bind_fun_some _
  | cons first path ih =>
      rw [at?, Option.bind_eq_some_iff] at reaches
      obtain ⟨next, isInside, further⟩ := reaches
      rw [List.cons_append, at?, isInside, Option.bind_some, ih further]

/-- The nodes that correspond and stand at the same path from the two given nodes. -/
def Translation.along (translation : Translation) (node node' : Node) : Translation where
  toRenaming := translation.toRenaming
  Relates first second := translation.Relates first second ∧
    ∃ path, node.at? path = some first ∧ node'.at? path = some second
  id_eq related := translation.id_eq related.1
  opens?_eq related := translation.opens?_eq related.1
  isSome_declaration?_eq related := translation.isSome_declaration?_eq related.1
  name_eq related := translation.name_eq related.1
  forall₂_inside := by
    rintro first second ⟨related, path, reaches, reaches'⟩
    have inside := translation.forall₂_inside related
    rw [List.forall₂_iff_get] at inside ⊢
    refine ⟨inside.1, fun index within within' => ⟨inside.2 index within within',
      path ++ [index], ?_, ?_⟩⟩
    · rw [Node.at?_append reaches, List.get_eq_getElem, List.getElem?_eq_getElem within]
    · rw [Node.at?_append reaches', List.get_eq_getElem, List.getElem?_eq_getElem within']

end DecafScopes
