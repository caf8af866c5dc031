import DecafScopes.Proofs.Outline.Ancestry

/-!
# Hiding what is inside an opener

To hide the inside of an opener is to forget everything about it but its identity,
its constructor and the name it declares, and to leave all that is not written in
it as it is (`Program.hide`).  Two programs that become equal by that differ only
inside the opener.  Hiding keeps everything that can be seen of a node from
outside, and it goes through every node but the opener piece by piece
(`Node.inside_hide`).
-/

set_option autoImplicit false

namespace DecafScopes

/-! ## Hiding -/

/-- A place that is nowhere in the text. -/
def Span.nowhere : Span :=
  ⟨⟨0, 0, 0⟩, ⟨0, 0, 0⟩⟩

/-- An expression that says nothing. -/
def Expression.blank : Expression :=
  ⟨⟨0⟩, .nowhere, .omitted⟩

/-- A `for` loop that says nothing. -/
def StatementForm.blankLoop : StatementForm :=
  .forLoop (.expression .blank) .blank .blank (.plain ⟨0⟩ .nowhere .exitLoop)

def StatementForm.isForLoop : StatementForm → Bool
  | .forLoop .. => true
  | _ => false

mutual

/-- A block with the inside of one opener hidden. -/
def Block.hide (opener : NodeId) : Block → Block
  | ⟨id, span, locals, statements⟩ =>
      if id = opener then ⟨id, .nowhere, [], []⟩
      else ⟨id, span, locals, Statement.hideList opener statements⟩

/-- A statement with the inside of one opener hidden. -/
def Statement.hide (opener : NodeId) : Statement → Statement
  | .block body => .block (body.hide opener)
  | .plain id span form =>
      if id = opener ∧ form.isForLoop then .plain id .nowhere .blankLoop
      else .plain id span (form.hide opener)

/-- What a statement is put together from, with the inside of one opener in it
hidden. -/
def StatementForm.hide (opener : NodeId) : StatementForm → StatementForm
  | .ifElse test whenTrue whenFalse =>
      .ifElse test (whenTrue.hide opener) (Statement.hideOption opener whenFalse)
  | .whileLoop test body => .whileLoop test (body.hide opener)
  | .forLoop start test step body => .forLoop start test step (body.hide opener)
  | .switch test arms fallback =>
      .switch test (Arm.hideList opener arms) (Arm.hideOption opener fallback)
  | .leave value => .leave value
  | .print arguments => .print arguments
  | .exitLoop => .exitLoop
  | .evaluate value => .evaluate value

/-- An arm of a `switch` with the inside of one opener hidden. -/
def Arm.hide (opener : NodeId) : Arm → Arm
  | ⟨id, span, label, statements⟩ => ⟨id, span, label, Statement.hideList opener statements⟩

def Statement.hideOption (opener : NodeId) : Option Statement → Option Statement
  | none => none
  | some statement => some (statement.hide opener)

def Statement.hideList (opener : NodeId) : List Statement → List Statement
  | [] => []
  | statement :: others => statement.hide opener :: Statement.hideList opener others

def Arm.hideOption (opener : NodeId) : Option Arm → Option Arm
  | none => none
  | some arm => some (arm.hide opener)

def Arm.hideList (opener : NodeId) : List Arm → List Arm
  | [] => []
  | arm :: others => arm.hide opener :: Arm.hideList opener others

end

/-- A function with the inside of one opener hidden. -/
def FunctionDecl.hide (opener : NodeId) (declared : FunctionDecl) : FunctionDecl :=
  if declared.id = opener then
    ⟨declared.id, .nowhere, ⟨declared.name.name, .nowhere⟩, .void, [], none⟩
  else { declared with body := declared.body.map (·.hide opener) }

/-- A member of a class with the inside of one opener hidden. -/
def Member.hide (opener : NodeId) : Member → Member
  | .field declared => .field declared
  | .method declared => .method (declared.hide opener)

/-- A class with the inside of one opener hidden. -/
def ClassDecl.hide (opener : NodeId) (declared : ClassDecl) : ClassDecl :=
  if declared.id = opener then
    ⟨declared.id, .nowhere, ⟨declared.name.name, .nowhere⟩, none, [], []⟩
  else { declared with members := declared.members.map (·.hide opener) }

/-- An interface with the inside of one opener hidden. -/
def InterfaceDecl.hide (opener : NodeId) (declared : InterfaceDecl) : InterfaceDecl :=
  if declared.id = opener then
    ⟨declared.id, .nowhere, ⟨declared.name.name, .nowhere⟩, []⟩
  else { declared with prototypes := declared.prototypes.map (·.hide opener) }

/-- A declaration with the inside of one opener hidden. -/
def Declaration.hide (opener : NodeId) : Declaration → Declaration
  | .variableDecl declared => .variableDecl declared
  | .classDecl declared => .classDecl (declared.hide opener)
  | .interfaceDecl declared => .interfaceDecl (declared.hide opener)
  | .functionDecl declared => .functionDecl (declared.hide opener)

/-- A program with the inside of one opener hidden. -/
def Program.hide (opener : NodeId) (program : Program) : Program :=
  { program with declarations := program.declarations.map (·.hide opener) }

/-- A node with the inside of one opener hidden. -/
def Node.hide (opener : NodeId) : Node → Node
  | program whole => program (whole.hide opener)
  | declaration declared => declaration (declared.hide opener)
  | block body => block (body.hide opener)
  | statement whole => statement (whole.hide opener)
  | arm whole => arm (whole.hide opener)
  | expression whole => expression whole

section Kept

variable (opener : NodeId)

theorem Statement.hideList_eq_map (statements : List Statement) :
    Statement.hideList opener statements = statements.map (·.hide opener) := by
  induction statements with
  | nil => rw [Statement.hideList, List.map_nil]
  | cons statement others ih => rw [Statement.hideList, List.map_cons, ih]

theorem Statement.hideOption_eq_map (statement : Option Statement) :
    Statement.hideOption opener statement = statement.map (·.hide opener) := by
  cases statement with
  | none => rw [Statement.hideOption, Option.map_none]
  | some statement => rw [Statement.hideOption, Option.map_some]

theorem Arm.hideList_eq_map (arms : List Arm) :
    Arm.hideList opener arms = arms.map (·.hide opener) := by
  induction arms with
  | nil => rw [Arm.hideList, List.map_nil]
  | cons arm others ih => rw [Arm.hideList, List.map_cons, ih]

theorem Arm.hideOption_eq_map (arm : Option Arm) :
    Arm.hideOption opener arm = arm.map (·.hide opener) := by
  cases arm with
  | none => rw [Arm.hideOption, Option.map_none]
  | some arm => rw [Arm.hideOption, Option.map_some]

/-! ## What can be seen from outside -/

@[simp] theorem Block.id_hide (body : Block) : (body.hide opener).id = body.id := by
  obtain ⟨id, span, locals, statements⟩ := body
  rw [Block.hide]
  split <;> rfl

@[simp] theorem Statement.id_hide (statement : Statement) :
    (statement.hide opener).id = statement.id := by
  cases statement with
  | block body =>
      rw [Statement.hide]
      exact body.id_hide opener
  | plain id span form =>
      rw [Statement.hide]
      split <;> rfl

@[simp] theorem Arm.id_hide (arm : Arm) : (arm.hide opener).id = arm.id := by
  obtain ⟨id, span, label, statements⟩ := arm
  rw [Arm.hide]

@[simp] theorem Declaration.id_hide (declared : Declaration) :
    (declared.hide opener).id = declared.id := by
  cases declared with
  | variableDecl _ => rfl
  | classDecl declared =>
      simp only [hide, ClassDecl.hide, id]
      split <;> rfl
  | interfaceDecl declared =>
      simp only [hide, InterfaceDecl.hide, id]
      split <;> rfl
  | functionDecl declared =>
      simp only [hide, FunctionDecl.hide, id]
      split <;> rfl

@[simp] theorem Declaration.name_hide (declared : Declaration) :
    (declared.hide opener).name = declared.name := by
  cases declared with
  | variableDecl _ => rfl
  | classDecl declared =>
      simp only [hide, ClassDecl.hide, name, identifier]
      split <;> rfl
  | interfaceDecl declared =>
      simp only [hide, InterfaceDecl.hide, name, identifier]
      split <;> rfl
  | functionDecl declared =>
      simp only [hide, FunctionDecl.hide, name, identifier]
      split <;> rfl

@[simp] theorem Declaration.kind_hide (declared : Declaration) :
    (declared.hide opener).kind = declared.kind := by
  cases declared <;> rfl

@[simp] theorem Node.id_hide (node : Node) : (node.hide opener).id = node.id := by
  cases node with
  | program whole => rfl
  | declaration declared => exact declared.id_hide opener
  | block body => exact body.id_hide opener
  | statement whole => exact whole.id_hide opener
  | arm whole => exact whole.id_hide opener
  | expression whole => rfl

theorem Node.declaration?_hide (node : Node) :
    (node.hide opener).declaration? = node.declaration?.map (·.hide opener) := by
  cases node <;> rfl

@[simp] theorem Node.opens?_hide (node : Node) : (node.hide opener).opens? = node.opens? := by
  match node with
  | program _ => rfl
  | declaration declared => cases declared <;> rfl
  | block _ => rfl
  | statement (.block _) =>
      rw [hide, Statement.hide]
      rfl
  | statement (.plain id span form) =>
      rw [hide, Statement.hide]
      split
      -- Only a loop is hidden as a whole, and what is left of it is a loop.
      next here => cases form <;> first | rfl | cases here.2
      · cases form <;> rw [StatementForm.hide] <;> rfl
  | arm _ => rfl
  | expression _ => rfl

/-! ## Inside of other nodes -/

theorem Statement.node_hide (statement : Statement) :
    (statement.hide opener).node = statement.node.hide opener := by
  cases statement with
  | block body => rw [Statement.hide, node, node, Node.hide]
  | plain id span form =>
      rw [node, Node.hide, Statement.hide]
      split <;> rfl

theorem Member.node_hide (member : Member) :
    (member.hide opener).node = member.node.hide opener := by
  cases member <;> rfl

theorem LoopStart.node_hide (start : LoopStart) : start.node.hide opener = start.node := by
  cases start <;> rfl

variable {opener}

@[simp] theorem Node.hide_expression (whole : Expression) :
    (Node.expression whole).hide opener = .expression whole :=
  rfl

/-- Variables are not openers, so they stay as they are. -/
theorem VariableDecl.map_node_hide (list : List VariableDecl) :
    (list.map VariableDecl.node).map (·.hide opener) = list.map VariableDecl.node := by
  rw [List.map_map]
  rfl

theorem Arm.map_node_hide (arms : List Arm) :
    (arms.map (·.hide opener)).map Node.arm = (arms.map Node.arm).map (·.hide opener) := by
  rw [List.map_map, List.map_map]
  rfl

theorem Statement.map_node_hide (statements : List Statement) :
    (statements.map (·.hide opener)).map Statement.node =
      (statements.map Statement.node).map (·.hide opener) := by
  rw [List.map_map, List.map_map]
  apply List.map_congr_left
  intro statement _
  exact statement.node_hide opener

/-- What is inside of a statement that stays is hidden piece by piece. -/
theorem StatementForm.inside_hide (form : StatementForm) :
    (form.hide opener).inside = form.inside.map (·.hide opener) := by
  cases form with
  | ifElse test whenTrue whenFalse =>
      rw [StatementForm.hide, Statement.hideOption_eq_map]
      cases whenFalse <;> simp [inside, Statement.node_hide]
  | whileLoop test body =>
      rw [StatementForm.hide]
      simp [inside, Statement.node_hide]
  | forLoop start test step body =>
      rw [StatementForm.hide]
      simp [inside, Statement.node_hide, LoopStart.node_hide]
  | switch test arms fallback =>
      rw [StatementForm.hide, Arm.hideList_eq_map, Arm.hideOption_eq_map]
      cases fallback <;> simp [inside, Node.hide]
  | leave value =>
      rw [StatementForm.hide]
      cases value <;> rfl
  | print arguments =>
      rw [StatementForm.hide]
      simp [inside]
  | exitLoop =>
      rw [StatementForm.hide]
      rfl
  | evaluate value =>
      rw [StatementForm.hide]
      rfl

/-- What is inside of a block that stays is hidden piece by piece. -/
theorem Block.inside_hide {body : Block} (other : body.id ≠ opener) :
    (body.hide opener).inside = body.inside.map (·.hide opener) := by
  obtain ⟨id, span, locals, statements⟩ := body
  rw [Block.hide, if_neg other, Statement.hideList_eq_map]
  simp only [inside, Statement.map_node_hide, List.map_append, VariableDecl.map_node_hide]

/-- What is inside of a declaration that stays is hidden piece by piece. -/
theorem Declaration.inside_hide {declared : Declaration} (other : declared.id ≠ opener) :
    (Node.declaration (declared.hide opener)).inside =
      (Node.declaration declared).inside.map (·.hide opener) := by
  cases declared with
  | variableDecl declared => rfl
  | classDecl declared =>
      have stays : declared.id ≠ opener := other
      rw [hide, ClassDecl.hide, if_neg stays]
      simp [Node.inside, Member.node_hide]
  | interfaceDecl declared =>
      have stays : declared.id ≠ opener := other
      rw [hide, InterfaceDecl.hide, if_neg stays]
      simp only [Node.inside, List.map_map]
      rfl
  | functionDecl declared =>
      have stays : declared.id ≠ opener := other
      rw [hide, FunctionDecl.hide, if_neg stays]
      simp only [Node.inside, List.map_append, VariableDecl.map_node_hide]
      cases declared.body <;> rfl

/-- **What is directly inside of a node other than the opener is hidden piece by
piece.** -/
theorem Node.inside_hide {node : Node} (other : node.id ≠ opener) :
    (node.hide opener).inside = node.inside.map (·.hide opener) := by
  match node with
  | program whole => simp [hide, inside, Program.hide]
  | declaration declared => exact Declaration.inside_hide other
  | block body => exact Block.inside_hide other
  | statement (.block body) =>
      rw [hide, Statement.hide]
      exact Block.inside_hide other
  | statement (.plain id span form) =>
      have stays : ¬ (id = opener ∧ form.isForLoop) := fun here => other here.1
      rw [hide, Statement.hide, if_neg stays]
      exact form.inside_hide
  | arm ⟨id, span, label, statements⟩ =>
      rw [hide, Arm.hide, Statement.hideList_eq_map]
      simp only [inside, Statement.map_node_hide, List.map_append]
      cases label <;> rfl
  | expression whole => simp [inside]

end Kept

/-! ## Nodes that are not written in the opener -/

/-- Two nodes differ at most inside of an opener. -/
def Node.AgreeOutside (opener : NodeId) (first second : Node) : Prop :=
  first.hide opener = second.hide opener

namespace Node.AgreeOutside

variable {opener : NodeId} {first second : Node}

theorem id_eq (agree : first.AgreeOutside opener second) : first.id = second.id := by
  rw [← first.id_hide opener, agree, second.id_hide opener]

/-- If nodes agree outside of the opener and are not the opener, so does what is
directly inside of them. -/
theorem exists_inside (agree : first.AgreeOutside opener second) (other : first.id ≠ opener)
    {part : Node} (member : part ∈ first.inside) :
    ∃ part' ∈ second.inside, part.AgreeOutside opener part' := by
  have otherToo : second.id ≠ opener := agree.id_eq ▸ other
  have seen : part.hide opener ∈ (second.hide opener).inside := by
    rw [← agree, inside_hide other]
    exact List.mem_map_of_mem member
  rw [inside_hide otherToo] at seen
  obtain ⟨part', member', alike⟩ := List.mem_map.mp seen
  exact ⟨part', member', alike.symm⟩

end Node.AgreeOutside

end DecafScopes
