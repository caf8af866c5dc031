import DecafScopes.Syntax.Equality
import DecafScopes.Proofs.Outline.Descent

/-!
# Double literals

The double literals of a program are the only parts of it that are compared as
numbers.  Here they are changed throughout a program (`Program.mapDoubles`), and
looked for at its nodes (`Program.HasNaN`).

Two numbers are equal when neither is a NaN and they become the same bit pattern
once a negative zero is written as the positive one (`Binary64.equals_iff`).
-/

set_option autoImplicit false

namespace DecafScopes

/-! ## Numbers -/

namespace Binary64

/-- The number with the positive zero in place of the negative one. -/
def withPositiveZero (number : Binary64) : Binary64 :=
  if number.bits = 0x8000000000000000 then ⟨0⟩ else number

/-- There are two zeros. -/
theorem isZero_iff (number : Binary64) :
    number.isZero = true ↔ number.bits = 0 ∨ number.bits = 0x8000000000000000 := by
  have small := number.bits.toNat_lt
  simp only [isZero, magnitude, beq_iff_eq, ← UInt64.toNat_inj, UInt64.toNat_mod]
  change number.bits.toNat % 9223372036854775808 = 0 ↔
    number.bits.toNat = 0 ∨ number.bits.toNat = 9223372036854775808
  omega

/-- A number becomes the positive zero if it is a zero. -/
theorem withPositiveZero_of_isZero {number : Binary64} (zero : number.isZero = true) :
    number.withPositiveZero = ⟨0⟩ := by
  unfold withPositiveZero
  split
  next => rfl
  next other =>
    obtain ⟨bits⟩ := number
    exact congrArg mk (((isZero_iff _).mp zero).resolve_right other)

/-- All other numbers stay as they are. -/
theorem withPositiveZero_of_not_isZero {number : Binary64} (other : number.isZero = false) :
    number.withPositiveZero = number := by
  refine if_neg fun negative => ?_
  rw [(isZero_iff number).mpr (.inr negative)] at other
  cases other

@[simp] theorem isZero_withPositiveZero (number : Binary64) :
    number.withPositiveZero.isZero = number.isZero := by
  cases zero : number.isZero with
  | true =>
      rw [withPositiveZero_of_isZero zero]
      rfl
  | false => rw [withPositiveZero_of_not_isZero zero, zero]

/-- The bit patterns of two numbers become the same if they are the same or both
numbers are zeros. -/
theorem withPositiveZero_eq_iff (first second : Binary64) :
    first.withPositiveZero = second.withPositiveZero ↔
      first = second ∨ (first.isZero = true ∧ second.isZero = true) := by
  constructor
  · intro same
    cases zero : first.isZero with
    | true =>
        refine .inr ⟨rfl, ?_⟩
        rw [← isZero_withPositiveZero second, ← same, isZero_withPositiveZero, zero]
    | false =>
        have zero' : second.isZero = false := by
          rw [← isZero_withPositiveZero second, ← same, isZero_withPositiveZero, zero]
        rw [withPositiveZero_of_not_isZero zero, withPositiveZero_of_not_isZero zero'] at same
        exact .inl same
  · rintro (rfl | ⟨zero, zero'⟩)
    · rfl
    · rw [withPositiveZero_of_isZero zero, withPositiveZero_of_isZero zero']

/-- **Two numbers are equal if neither is a NaN and they become the same bit
pattern without negative zeros.** -/
theorem equals_iff (first second : Binary64) :
    first.equals second = true ↔ first.isNaN = false ∧ second.isNaN = false ∧
      first.withPositiveZero = second.withPositiveZero := by
  have bits : first.bits = second.bits ↔ first = second := by
    obtain ⟨bits⟩ := first
    obtain ⟨bits'⟩ := second
    exact ⟨congrArg mk, congrArg Binary64.bits⟩
  rw [withPositiveZero_eq_iff, equals]
  simp only [Bool.and_eq_true, Bool.or_eq_true, Bool.not_eq_true', beq_iff_eq, bits, and_assoc]

/-- A zero is not a NaN. -/
theorem isNaN_withPositiveZero (number : Binary64) :
    number.withPositiveZero.isNaN = number.isNaN := by
  unfold withPositiveZero
  split
  next negative =>
    simp only [isNaN, magnitude, negative]
    rfl
  next => rfl

end Binary64

/-! ## Changing the doubles of a program -/

section Mapping

variable (change : Binary64 → Binary64)

/-- A literal with its double changed, if it is one. -/
def Literal.mapDoubles : Literal → Literal
  | .int value => .int value
  | .double value => .double (change value)
  | .bool value => .bool value
  | .string value => .string value
  | .null => .null

mutual

/-- An expression with all doubles in it changed. -/
def Expression.mapDoubles : Expression → Expression
  | ⟨id, span, form⟩ => ⟨id, span, form.mapDoubles⟩

/-- What an expression is put together from, with all doubles in it changed. -/
def ExpressionForm.mapDoubles : ExpressionForm → ExpressionForm
  | .omitted => .omitted
  | .literal value => .literal (value.mapDoubles change)
  | .this => .this
  | .name identifier => .name identifier
  | .field object member => .field object.mapDoubles member
  | .call receiver callee arguments =>
      .call (Expression.mapDoublesOption receiver) callee (Expression.mapDoublesList arguments)
  | .assign target value => .assign target.mapDoubles value.mapDoubles
  | .binary op left right => .binary op left.mapDoubles right.mapDoubles
  | .unary op operand => .unary op operand.mapDoubles
  | .post op operand => .post op operand.mapDoubles
  | .element array index => .element array.mapDoubles index.mapDoubles
  | .newObject className => .newObject className
  | .newArray length elementType => .newArray length.mapDoubles elementType
  | .input item => .input item

def Expression.mapDoublesOption : Option Expression → Option Expression
  | none => none
  | some expression => some expression.mapDoubles

def Expression.mapDoublesList : List Expression → List Expression
  | [] => []
  | expression :: others => expression.mapDoubles :: Expression.mapDoublesList others

end

/-- What a loop starts with, with all doubles in it changed. -/
def LoopStart.mapDoubles : LoopStart → LoopStart
  | .variableDecl declared => .variableDecl declared
  | .expression value => .expression (value.mapDoubles change)

mutual

/-- A block with all doubles in it changed. -/
def Block.mapDoubles : Block → Block
  | ⟨id, span, locals, statements⟩ => ⟨id, span, locals, Statement.mapDoublesList statements⟩

/-- A statement with all doubles in it changed. -/
def Statement.mapDoubles : Statement → Statement
  | .block body => .block body.mapDoubles
  | .plain id span form => .plain id span form.mapDoubles

/-- What a statement is put together from, with all doubles in it changed. -/
def StatementForm.mapDoubles : StatementForm → StatementForm
  | .ifElse test whenTrue whenFalse =>
      .ifElse (test.mapDoubles change) whenTrue.mapDoubles (Statement.mapDoublesOption whenFalse)
  | .whileLoop test body => .whileLoop (test.mapDoubles change) body.mapDoubles
  | .forLoop start test step body =>
      .forLoop (start.mapDoubles change) (test.mapDoubles change) (step.mapDoubles change)
        body.mapDoubles
  | .switch test arms fallback =>
      .switch (test.mapDoubles change) (Arm.mapDoublesList arms) (Arm.mapDoublesOption fallback)
  | .leave value => .leave (value.map (·.mapDoubles change))
  | .print arguments => .print (arguments.map (·.mapDoubles change))
  | .exitLoop => .exitLoop
  | .evaluate value => .evaluate (value.mapDoubles change)

/-- An arm of a `switch` with all doubles in it changed. -/
def Arm.mapDoubles : Arm → Arm
  | ⟨id, span, label, statements⟩ =>
      ⟨id, span, label.map (·.mapDoubles change), Statement.mapDoublesList statements⟩

def Statement.mapDoublesOption : Option Statement → Option Statement
  | none => none
  | some statement => some statement.mapDoubles

def Statement.mapDoublesList : List Statement → List Statement
  | [] => []
  | statement :: others => statement.mapDoubles :: Statement.mapDoublesList others

def Arm.mapDoublesOption : Option Arm → Option Arm
  | none => none
  | some arm => some arm.mapDoubles

def Arm.mapDoublesList : List Arm → List Arm
  | [] => []
  | arm :: others => arm.mapDoubles :: Arm.mapDoublesList others

end

/-- A function with all doubles in it changed. -/
def FunctionDecl.mapDoubles (declared : FunctionDecl) : FunctionDecl :=
  { declared with body := declared.body.map (·.mapDoubles change) }

/-- A member of a class with all doubles in it changed. -/
def Member.mapDoubles : Member → Member
  | .field declared => .field declared
  | .method declared => .method (declared.mapDoubles change)

/-- A class with all doubles in it changed. -/
def ClassDecl.mapDoubles (declared : ClassDecl) : ClassDecl :=
  { declared with members := declared.members.map (·.mapDoubles change) }

/-- An interface with all doubles in it changed. -/
def InterfaceDecl.mapDoubles (declared : InterfaceDecl) : InterfaceDecl :=
  { declared with prototypes := declared.prototypes.map (·.mapDoubles change) }

/-- A declaration with all doubles in it changed. -/
def Declaration.mapDoubles : Declaration → Declaration
  | .variableDecl declared => .variableDecl declared
  | .classDecl declared => .classDecl (declared.mapDoubles change)
  | .interfaceDecl declared => .interfaceDecl (declared.mapDoubles change)
  | .functionDecl declared => .functionDecl (declared.mapDoubles change)

/-- A program with all doubles in it changed. -/
def Program.mapDoubles (program : Program) : Program :=
  { program with declarations := program.declarations.map (·.mapDoubles change) }

/-- A node with all doubles in it changed. -/
def Node.mapDoubles : Node → Node
  | program whole => program (whole.mapDoubles change)
  | declaration declared => declaration (declared.mapDoubles change)
  | block body => block (body.mapDoubles change)
  | statement whole => statement (whole.mapDoubles change)
  | arm whole => arm (whole.mapDoubles change)
  | expression whole => expression (whole.mapDoubles change)

theorem Expression.mapDoublesOption_eq_map (expression : Option Expression) :
    Expression.mapDoublesOption change expression = expression.map (·.mapDoubles change) := by
  cases expression with
  | none => rw [Expression.mapDoublesOption, Option.map_none]
  | some expression => rw [Expression.mapDoublesOption, Option.map_some]

theorem Expression.mapDoublesList_eq_map (expressions : List Expression) :
    Expression.mapDoublesList change expressions = expressions.map (·.mapDoubles change) := by
  induction expressions with
  | nil => rw [Expression.mapDoublesList, List.map_nil]
  | cons expression others ih => rw [Expression.mapDoublesList, List.map_cons, ih]

theorem Statement.mapDoublesOption_eq_map (statement : Option Statement) :
    Statement.mapDoublesOption change statement = statement.map (·.mapDoubles change) := by
  cases statement with
  | none => rw [Statement.mapDoublesOption, Option.map_none]
  | some statement => rw [Statement.mapDoublesOption, Option.map_some]

theorem Statement.mapDoublesList_eq_map (statements : List Statement) :
    Statement.mapDoublesList change statements = statements.map (·.mapDoubles change) := by
  induction statements with
  | nil => rw [Statement.mapDoublesList, List.map_nil]
  | cons statement others ih => rw [Statement.mapDoublesList, List.map_cons, ih]

theorem Arm.mapDoublesOption_eq_map (arm : Option Arm) :
    Arm.mapDoublesOption change arm = arm.map (·.mapDoubles change) := by
  cases arm with
  | none => rw [Arm.mapDoublesOption, Option.map_none]
  | some arm => rw [Arm.mapDoublesOption, Option.map_some]

theorem Arm.mapDoublesList_eq_map (arms : List Arm) :
    Arm.mapDoublesList change arms = arms.map (·.mapDoubles change) := by
  induction arms with
  | nil => rw [Arm.mapDoublesList, List.map_nil]
  | cons arm others ih => rw [Arm.mapDoublesList, List.map_cons, ih]

end Mapping

/-! ## NaNs in a program -/

/-- Whether a literal is a double that is not a number. -/
def Literal.isNaN : Literal → Bool
  | .double number => number.isNaN
  | .int _ | .bool _ | .string _ | .null => false

/-- Whether an expression is a literal that is not a number. -/
def ExpressionForm.isNaN : ExpressionForm → Bool
  | .literal value => value.isNaN
  | _ => false

/-- Whether a node is a literal that is not a number. -/
def Node.isNaN : Node → Bool
  | .expression whole => whole.form.isNaN
  | _ => false

/-- One of the nodes of a program is a literal that is not a number. -/
def Program.HasNaN (program : Program) : Prop :=
  ∃ node ∈ program.nodes.labels, node.isNaN = true

/-- Neither a node nor anything within it is a literal that is not a number. -/
def Node.NaNFree (node : Node) : Prop :=
  node.isNaN = false ∧ ∀ below : Node, below.IsWithin node → below.isNaN = false

/-- A node is free of NaNs if it is none and all nodes directly inside are free of
them. -/
theorem Node.naNFree_iff {node : Node} :
    node.NaNFree ↔ node.isNaN = false ∧ ∀ part ∈ node.inside, part.NaNFree := by
  refine and_congr_right fun _ => ⟨fun free part member => ⟨?_, fun below within => ?_⟩,
    fun parts below within => ?_⟩
  · exact free part (.single member)
  · exact free below (.tail within member)
  · cases within with
    | single member => exact (parts below member).1
    | tail within member => exact (parts _ member).2 below within

theorem Program.not_hasNaN_iff {program : Program} :
    ¬ program.HasNaN ↔ (Node.program program).NaNFree := by
  constructor
  · intro none
    have free (node : Node) (member : node ∈ program.nodes.labels) : node.isNaN = false :=
      Bool.eq_false_iff.mpr fun isNaN => none ⟨node, member, isNaN⟩
    exact ⟨rfl, fun below within => free below (mem_labels_iff_isWithin.mpr (.inr within))⟩
  · rintro ⟨_, free⟩ ⟨node, member, isNaN⟩
    rcases mem_labels_iff_isWithin.mp member with rfl | within
    · cases isNaN
    · rw [free node within] at isNaN
      cases isNaN

end DecafScopes
