import Mathlib.Data.Multiset.MapFold
import DecafScopes.Proofs.Outline.Ancestry

/-!
# Rearranging declarations

A program is rearranged by putting declarations that stand side by side into another
order: those at the top level, the members of classes and interfaces, the
parameters of functions and the variables of blocks, in any number of places at
once.  Declarations of one name in one list keep their order
(`Program.RearrangedTo`).

Rearranging keeps the nodes and what they are written in: what is directly inside
of a node is what is directly inside of its counterpart, up to the order
(`Node.RearrangedTo.rel_inside`), and so the program has the same identities as
before (`Program.RearrangedTo.nodeIds_perm`).
-/

set_option autoImplicit false

namespace DecafScopes

/-! ## Rearranged lists -/

/-- Two lists consist of the same things, and the things of one name are in the
same order in both. -/
structure Rearranged {α : Type} (name : α → String) (list list' : List α) : Prop where
  perm : list.Perm list'
  sameOrder : ∀ sought,
    list.filter (name · == sought) = list'.filter (name · == sought)

/-- Each thing in a list has been changed, and then the list has been rearranged. -/
def RearrangedAfter {α : Type} (changed : α → α → Prop) (name : α → String)
    (list list' : List α) : Prop :=
  ∃ middle, List.Forall₂ changed list middle ∧ Rearranged name middle list'

theorem rel_coe_of_forall₂ {α β : Type} {related : α → β → Prop} {list : List α} {list' : List β}
    (all : List.Forall₂ related list list') :
    Multiset.Rel related (list : Multiset α) (list' : Multiset β) := by
  induction all with
  | nil => exact .zero
  | cons here _ ih => exact .cons here ih

theorem forall₂_toList_of_rel {α β : Type} {related : α → β → Prop} {value : Option α}
    {value' : Option β} (same : Option.Rel related value value') :
    List.Forall₂ related value.toList value'.toList := by
  cases same with
  | some here => exact .cons here .nil
  | none => exact .nil

namespace RearrangedAfter

variable {α : Type} {changed : α → α → Prop} {name : α → String} {list list' : List α}

/-- Apart from the order, the lists consist of related things. -/
theorem rel_map {β : Type} (rearranged : RearrangedAfter changed name list list')
    {image : α → β} {related : β → β → Prop}
    (kept : ∀ first second, changed first second → related (image first) (image second)) :
    Multiset.Rel related (list.map image : Multiset β) (list'.map image : Multiset β) := by
  obtain ⟨middle, all, ⟨perm, _⟩⟩ := rearranged
  rw [← Multiset.coe_eq_coe.mpr (perm.map image)]
  exact rel_coe_of_forall₂ (List.rel_map kept all)

/-- Under every name, what the change keeps is the same in both lists. -/
theorem map_filter_eq {β : Type} (rearranged : RearrangedAfter changed name list list')
    {value : α → β} (kept : ∀ first second, changed first second → value first = value second)
    (sameName : ∀ first second, changed first second → name first = name second)
    (sought : String) :
    (list.filter (name · == sought)).map value = (list'.filter (name · == sought)).map value := by
  obtain ⟨middle, all, ⟨_, sameOrder⟩⟩ := rearranged
  have filtered : List.Forall₂ changed (list.filter (name · == sought))
      (middle.filter (name · == sought)) := by
    refine List.rel_filter ?_ all
    intro first second here
    simp only [sameName first second here]
  rw [← sameOrder sought, ← List.forall₂_eq_eq_eq]
  exact List.rel_map kept filtered

end RearrangedAfter

/-- A rearranged list is rearranged after nothing has been changed. -/
theorem Rearranged.after {α : Type} {name : α → String} {list list' : List α}
    (rearranged : Rearranged name list list') : RearrangedAfter Eq name list list' :=
  ⟨list, List.forall₂_refl list, rearranged⟩

/-! ## Rearranged programs -/

mutual

/-- The variables of a block have been rearranged, and its statements as well, each
within itself. -/
inductive Block.RearrangedTo : Block → Block → Prop where
  | intro {id : NodeId} {span : Span} {locals locals' : List VariableDecl}
      {statements statements' : List Statement} :
      Rearranged (·.name.name) locals locals' →
        List.Forall₂ Statement.RearrangedTo statements statements' →
          Block.RearrangedTo ⟨id, span, locals, statements⟩ ⟨id, span, locals', statements'⟩

/-- The blocks in a statement have been rearranged. -/
inductive Statement.RearrangedTo : Statement → Statement → Prop where
  | block {body body' : Block} :
      Block.RearrangedTo body body' → Statement.RearrangedTo (.block body) (.block body')
  | plain {id : NodeId} {span : Span} {form form' : StatementForm} :
      StatementForm.RearrangedTo form form' →
        Statement.RearrangedTo (.plain id span form) (.plain id span form')

/-- The blocks in what a statement is put together from have been rearranged. -/
inductive StatementForm.RearrangedTo : StatementForm → StatementForm → Prop where
  | ifElse {test : Expression} {whenTrue whenTrue' : Statement}
      {whenFalse whenFalse' : Option Statement} :
      Statement.RearrangedTo whenTrue whenTrue' →
        Option.Rel Statement.RearrangedTo whenFalse whenFalse' →
          StatementForm.RearrangedTo (.ifElse test whenTrue whenFalse)
            (.ifElse test whenTrue' whenFalse')
  | whileLoop {test : Expression} {body body' : Statement} :
      Statement.RearrangedTo body body' →
        StatementForm.RearrangedTo (.whileLoop test body) (.whileLoop test body')
  | forLoop {start : LoopStart} {test step : Expression} {body body' : Statement} :
      Statement.RearrangedTo body body' →
        StatementForm.RearrangedTo (.forLoop start test step body) (.forLoop start test step body')
  | switch {test : Expression} {arms arms' : List Arm} {fallback fallback' : Option Arm} :
      List.Forall₂ Arm.RearrangedTo arms arms' → Option.Rel Arm.RearrangedTo fallback fallback' →
        StatementForm.RearrangedTo (.switch test arms fallback) (.switch test arms' fallback')
  | leave {value : Option Expression} : StatementForm.RearrangedTo (.leave value) (.leave value)
  | print {arguments : List Expression} :
      StatementForm.RearrangedTo (.print arguments) (.print arguments)
  | exitLoop : StatementForm.RearrangedTo .exitLoop .exitLoop
  | evaluate {value : Expression} : StatementForm.RearrangedTo (.evaluate value) (.evaluate value)

/-- The blocks in an arm of a `switch` have been rearranged. -/
inductive Arm.RearrangedTo : Arm → Arm → Prop where
  | intro {id : NodeId} {span : Span} {label : Option Expression}
      {statements statements' : List Statement} :
      List.Forall₂ Statement.RearrangedTo statements statements' →
        Arm.RearrangedTo ⟨id, span, label, statements⟩ ⟨id, span, label, statements'⟩

end

/-- The parameters of a function have been rearranged, and its body. -/
inductive FunctionDecl.RearrangedTo : FunctionDecl → FunctionDecl → Prop where
  | intro {id : NodeId} {span : Span} {name : Identifier} {result : TypeExpr}
      {parameters parameters' : List VariableDecl} {body body' : Option Block} :
      Rearranged (·.name.name) parameters parameters' → Option.Rel Block.RearrangedTo body body' →
        RearrangedTo ⟨id, span, name, result, parameters, body⟩
          ⟨id, span, name, result, parameters', body'⟩

/-- A member of a class has been rearranged within itself. -/
inductive Member.RearrangedTo : Member → Member → Prop where
  | field (declared : VariableDecl) : RearrangedTo (.field declared) (.field declared)
  | method {declared declared' : FunctionDecl} :
      declared.RearrangedTo declared' → RearrangedTo (.method declared) (.method declared')

/-- The members of a class have been rearranged, each within itself and all
together. -/
inductive ClassDecl.RearrangedTo : ClassDecl → ClassDecl → Prop where
  | intro {id : NodeId} {span : Span} {name : Identifier} {superclass : Option Identifier}
      {interfaces : List Identifier} {members members' : List Member} :
      RearrangedAfter Member.RearrangedTo (·.declaration.name) members members' →
        RearrangedTo ⟨id, span, name, superclass, interfaces, members⟩
          ⟨id, span, name, superclass, interfaces, members'⟩

/-- The prototypes of an interface have been rearranged, each within itself and all
together. -/
inductive InterfaceDecl.RearrangedTo : InterfaceDecl → InterfaceDecl → Prop where
  | intro {id : NodeId} {span : Span} {name : Identifier}
      {prototypes prototypes' : List FunctionDecl} :
      RearrangedAfter FunctionDecl.RearrangedTo (·.name.name) prototypes prototypes' →
        RearrangedTo ⟨id, span, name, prototypes⟩ ⟨id, span, name, prototypes'⟩

/-- A declaration has been rearranged within itself. -/
inductive Declaration.RearrangedTo : Declaration → Declaration → Prop where
  | variableDecl (declared : VariableDecl) :
      RearrangedTo (.variableDecl declared) (.variableDecl declared)
  | classDecl {declared declared' : ClassDecl} :
      declared.RearrangedTo declared' → RearrangedTo (.classDecl declared) (.classDecl declared')
  | interfaceDecl {declared declared' : InterfaceDecl} :
      declared.RearrangedTo declared' →
        RearrangedTo (.interfaceDecl declared) (.interfaceDecl declared')
  | functionDecl {declared declared' : FunctionDecl} :
      declared.RearrangedTo declared' →
        RearrangedTo (.functionDecl declared) (.functionDecl declared')

/-- **A program has been rearranged**: its top-level declarations, each within
itself and all together. -/
inductive Program.RearrangedTo : Program → Program → Prop where
  | intro {id : NodeId} {span : Span} {declarations declarations' : List Declaration} :
      RearrangedAfter Declaration.RearrangedTo Declaration.name declarations declarations' →
        RearrangedTo ⟨id, span, declarations⟩ ⟨id, span, declarations'⟩

/-- A node has been rearranged within itself. -/
inductive Node.RearrangedTo : Node → Node → Prop where
  | program {whole whole' : Program} :
      whole.RearrangedTo whole' → RearrangedTo (.program whole) (.program whole')
  | declaration {declared declared' : Declaration} :
      declared.RearrangedTo declared' →
        RearrangedTo (.declaration declared) (.declaration declared')
  | block {body body' : Block} :
      body.RearrangedTo body' → RearrangedTo (.block body) (.block body')
  | statement {whole whole' : Statement} :
      whole.RearrangedTo whole' → RearrangedTo (.statement whole) (.statement whole')
  | arm {whole whole' : Arm} : whole.RearrangedTo whole' → RearrangedTo (.arm whole) (.arm whole')
  | expression (whole : Expression) : RearrangedTo (.expression whole) (.expression whole)

/-! ## Nothing has to be rearranged -/

theorem Rearranged.refl {α : Type} (name : α → String) (list : List α) :
    Rearranged name list list :=
  ⟨.refl list, fun _ => rfl⟩

theorem RearrangedAfter.refl {α : Type} {changed : α → α → Prop} (name : α → String)
    (unchanged : ∀ item, changed item item) (list : List α) :
    RearrangedAfter changed name list list :=
  ⟨list, List.forall₂_same.mpr fun item _ => unchanged item, .refl name list⟩

mutual

theorem Block.RearrangedTo.refl : ∀ body : Block, body.RearrangedTo body
  | ⟨_, _, locals, statements⟩ => .intro (.refl _ locals) (Statement.forall₂_refl statements)

theorem Statement.RearrangedTo.refl : ∀ statement : Statement, statement.RearrangedTo statement
  | .block body => .block (.refl body)
  | .plain _ _ form => .plain (.refl form)

theorem StatementForm.RearrangedTo.refl : ∀ form : StatementForm, form.RearrangedTo form
  | .ifElse _ whenTrue whenFalse => .ifElse (.refl whenTrue) (Statement.rel_refl whenFalse)
  | .whileLoop _ body => .whileLoop (.refl body)
  | .forLoop _ _ _ body => .forLoop (.refl body)
  | .switch _ arms fallback => .switch (Arm.forall₂_refl arms) (Arm.rel_refl fallback)
  | .leave _ => .leave
  | .print _ => .print
  | .exitLoop => .exitLoop
  | .evaluate _ => .evaluate

theorem Arm.RearrangedTo.refl : ∀ arm : Arm, arm.RearrangedTo arm
  | ⟨_, _, _, statements⟩ => .intro (Statement.forall₂_refl statements)

theorem Statement.rel_refl : ∀ statement : Option Statement,
    Option.Rel Statement.RearrangedTo statement statement
  | none => .none
  | some statement => .some (.refl statement)

theorem Statement.forall₂_refl : ∀ statements : List Statement,
    List.Forall₂ Statement.RearrangedTo statements statements
  | [] => .nil
  | statement :: others => .cons (.refl statement) (Statement.forall₂_refl others)

theorem Arm.rel_refl : ∀ arm : Option Arm, Option.Rel Arm.RearrangedTo arm arm
  | none => .none
  | some arm => .some (.refl arm)

theorem Arm.forall₂_refl : ∀ arms : List Arm, List.Forall₂ Arm.RearrangedTo arms arms
  | [] => .nil
  | arm :: others => .cons (.refl arm) (Arm.forall₂_refl others)

end

theorem FunctionDecl.RearrangedTo.refl (declared : FunctionDecl) :
    declared.RearrangedTo declared := by
  obtain ⟨id, span, name, result, parameters, body⟩ := declared
  refine .intro (.refl _ parameters) ?_
  cases body with
  | none => exact .none
  | some body => exact .some (.refl body)

theorem Member.RearrangedTo.refl (member : Member) : member.RearrangedTo member := by
  cases member with
  | field declared => exact .field declared
  | method declared => exact .method (.refl declared)

theorem Declaration.RearrangedTo.refl (declared : Declaration) :
    declared.RearrangedTo declared := by
  cases declared with
  | variableDecl declared => exact .variableDecl declared
  | classDecl declared => exact .classDecl (.intro (.refl _ .refl declared.members))
  | interfaceDecl declared => exact .interfaceDecl (.intro (.refl _ .refl declared.prototypes))
  | functionDecl declared => exact .functionDecl (.refl declared)

/-- The rest of a list can be rearranged. -/
theorem Rearranged.cons {α : Type} {name : α → String} {list list' : List α} (first : α)
    (rearranged : Rearranged name list list') :
    Rearranged name (first :: list) (first :: list') where
  perm := rearranged.perm.cons first
  sameOrder sought := by
    rw [List.filter_cons, List.filter_cons, rearranged.sameOrder sought]

/-- Two neighbours of different names can change places. -/
theorem Rearranged.swap {α : Type} {name : α → String} {first second : α}
    (differ : name first ≠ name second) (others : List α) :
    Rearranged name (first :: second :: others) (second :: first :: others) where
  perm := .swap second first others
  sameOrder sought := by
    by_cases isFirst : name first = sought
    · have notSecond : name second ≠ sought := fun isSecond => differ (isFirst.trans isSecond.symm)
      simp [isFirst, notSecond]
    · simp [List.filter_cons, isFirst]

/-! ## What rearranging keeps -/

namespace Declaration.RearrangedTo

variable {declared declared' : Declaration}

theorem id_eq (rearranged : declared.RearrangedTo declared') : declared.id = declared'.id := by
  cases rearranged with
  | variableDecl _ => rfl
  | classDecl inside => cases inside; rfl
  | interfaceDecl inside => cases inside; rfl
  | functionDecl inside => cases inside; rfl

theorem span_eq (rearranged : declared.RearrangedTo declared') :
    declared.span = declared'.span := by
  cases rearranged with
  | variableDecl _ => rfl
  | classDecl inside => cases inside; rfl
  | interfaceDecl inside => cases inside; rfl
  | functionDecl inside => cases inside; rfl

theorem name_eq (rearranged : declared.RearrangedTo declared') :
    declared.name = declared'.name := by
  cases rearranged with
  | variableDecl _ => rfl
  | classDecl inside => cases inside; rfl
  | interfaceDecl inside => cases inside; rfl
  | functionDecl inside => cases inside; rfl

theorem kind_eq (rearranged : declared.RearrangedTo declared') :
    declared.kind = declared'.kind := by
  cases rearranged <;> rfl

end Declaration.RearrangedTo

namespace Node.RearrangedTo

variable {node node' : Node}

theorem id_eq (rearranged : node.RearrangedTo node') : node.id = node'.id := by
  cases rearranged with
  | program inside => cases inside; rfl
  | declaration inside => exact inside.id_eq
  | block inside => cases inside; rfl
  | statement inside =>
      cases inside with
      | block inside => cases inside; rfl
      | plain _ => rfl
  | arm inside => cases inside; rfl
  | expression _ => rfl

theorem opens?_eq (rearranged : node.RearrangedTo node') : node.opens? = node'.opens? := by
  cases rearranged with
  | program _ => rfl
  | declaration inside => cases inside <;> rfl
  | block _ => rfl
  | statement inside =>
      cases inside with
      | block _ => rfl
      | plain inside => cases inside <;> rfl
  | arm _ => rfl
  | expression _ => rfl

end Node.RearrangedTo

/-! ## Inside of rearranged nodes -/

theorem Statement.RearrangedTo.node {statement statement' : Statement}
    (rearranged : statement.RearrangedTo statement') :
    Node.RearrangedTo statement.node statement'.node := by
  cases rearranged with
  | block inside => exact .block inside
  | plain inside => exact .statement (.plain inside)

theorem Member.RearrangedTo.declaration {member member' : Member}
    (rearranged : member.RearrangedTo member') :
    member.declaration.RearrangedTo member'.declaration := by
  cases rearranged with
  | field declared => exact .variableDecl declared
  | method inside => exact .functionDecl inside

theorem Member.RearrangedTo.node {member member' : Member}
    (rearranged : member.RearrangedTo member') :
    Node.RearrangedTo member.node member'.node := by
  cases rearranged with
  | field declared => exact .declaration (.variableDecl declared)
  | method inside => exact .declaration (.functionDecl inside)

theorem LoopStart.rearrangedTo_node (start : LoopStart) :
    Node.RearrangedTo start.node start.node := by
  cases start with
  | variableDecl declared => exact .declaration (.variableDecl declared)
  | expression value => exact .expression value

theorem Expression.forall₂_rearrangedTo (list : List Expression) :
    List.Forall₂ Node.RearrangedTo (list.map Node.expression) (list.map Node.expression) := by
  apply List.forall₂_same.mpr
  intro node member
  obtain ⟨expression, _, rfl⟩ := List.mem_map.mp member
  exact .expression expression

theorem Statement.forall₂_rearrangedTo {list list' : List Statement}
    (all : List.Forall₂ Statement.RearrangedTo list list') :
    List.Forall₂ Node.RearrangedTo (list.map Statement.node) (list'.map Statement.node) :=
  List.rel_map (fun _ _ rearranged => rearranged.node) all

theorem Arm.forall₂_rearrangedTo {list list' : List Arm}
    (all : List.Forall₂ Arm.RearrangedTo list list') :
    List.Forall₂ Node.RearrangedTo (list.map Node.arm) (list'.map Node.arm) :=
  List.rel_map (fun _ _ rearranged => .arm rearranged) all

/-- What is inside of a statement that is not a block stays in order. -/
theorem StatementForm.RearrangedTo.forall₂_inside {form form' : StatementForm}
    (rearranged : form.RearrangedTo form') :
    List.Forall₂ Node.RearrangedTo form.inside form'.inside := by
  cases rearranged with
  | @ifElse test _ _ _ _ whenTrue whenFalse =>
      exact .cons (.expression test) (.cons whenTrue.node
        (Statement.forall₂_rearrangedTo (forall₂_toList_of_rel whenFalse)))
  | @whileLoop test _ _ body => exact .cons (.expression test) (.cons body.node .nil)
  | @forLoop start test step _ _ body =>
      exact .cons start.rearrangedTo_node
        (.cons (.expression test) (.cons (.expression step) (.cons body.node .nil)))
  | @switch test _ _ _ _ arms fallback =>
      exact .cons (.expression test) (List.rel_append (Arm.forall₂_rearrangedTo arms)
        (Arm.forall₂_rearrangedTo (forall₂_toList_of_rel fallback)))
  | @leave value => exact Expression.forall₂_rearrangedTo value.toList
  | @print arguments => exact Expression.forall₂_rearrangedTo arguments
  | exitLoop => exact .nil
  | @evaluate value => exact .cons (.expression value) .nil

/-- Rearranged variables are the same nodes, apart from their order. -/
theorem VariableDecl.rel_map_node {list list' : List VariableDecl}
    (rearranged : Rearranged (·.name.name) list list') :
    Multiset.Rel Node.RearrangedTo (list.map VariableDecl.node : Multiset Node)
      (list'.map VariableDecl.node : Multiset Node) := by
  refine rearranged.after.rel_map ?_
  rintro declared _ rfl
  exact .declaration (.variableDecl declared)

theorem Block.RearrangedTo.rel_inside {body body' : Block}
    (rearranged : body.RearrangedTo body') :
    Multiset.Rel Node.RearrangedTo (body.inside : Multiset Node)
      (body'.inside : Multiset Node) := by
  cases rearranged with
  | intro locals statements =>
      rw [Block.inside, Block.inside, ← Multiset.coe_add, ← Multiset.coe_add]
      exact (VariableDecl.rel_map_node locals).add
        (rel_coe_of_forall₂ (Statement.forall₂_rearrangedTo statements))

theorem Declaration.RearrangedTo.rel_inside {declared declared' : Declaration}
    (rearranged : declared.RearrangedTo declared') :
    Multiset.Rel Node.RearrangedTo ((Node.declaration declared).inside : Multiset Node)
      ((Node.declaration declared').inside : Multiset Node) := by
  cases rearranged with
  | variableDecl _ => exact .zero
  | classDecl inside =>
      cases inside with
      | intro members => exact members.rel_map fun _ _ rearranged => rearranged.node
  | interfaceDecl inside =>
      cases inside with
      | intro prototypes =>
          exact prototypes.rel_map fun _ _ rearranged => .declaration (.functionDecl rearranged)
  | functionDecl inside =>
      cases inside with
      | intro parameters body =>
          rw [Node.inside, Node.inside, ← Multiset.coe_add, ← Multiset.coe_add]
          refine (VariableDecl.rel_map_node parameters).add (rel_coe_of_forall₂ ?_)
          exact List.rel_map (fun _ _ rearranged => .block rearranged) (forall₂_toList_of_rel body)

/-- **What is directly inside of a rearranged node is what was there before, itself
rearranged**, apart from the order. -/
theorem Node.RearrangedTo.rel_inside {node node' : Node} (rearranged : node.RearrangedTo node') :
    Multiset.Rel Node.RearrangedTo (node.inside : Multiset Node)
      (node'.inside : Multiset Node) := by
  cases rearranged with
  | program inside =>
      cases inside with
      | intro declarations =>
          exact declarations.rel_map fun _ _ rearranged => .declaration rearranged
  | declaration inside => exact inside.rel_inside
  | block inside => exact inside.rel_inside
  | statement inside =>
      cases inside with
      | block inside => exact inside.rel_inside
      | plain inside => exact rel_coe_of_forall₂ inside.forall₂_inside
  | arm inside =>
      cases inside with
      | @intro _ _ label _ _ statements =>
          refine rel_coe_of_forall₂ (List.rel_append ?_ (Statement.forall₂_rearrangedTo statements))
          exact Expression.forall₂_rearrangedTo label.toList
  | expression whole => exact rel_coe_of_forall₂ (Expression.forall₂_rearrangedTo _)

/-! ## All nodes of rearranged programs -/

namespace Forest.Unfolds

variable {α : Type} {inside : α → List α}

/-- Any root of a forest can be taken out, with everything below it. -/
theorem exists_extract {starting : List α} {forest : Forest α}
    (unfolds : forest.Unfolds inside starting) {root : α} (member : root ∈ starting) :
    ∃ (parts rest : Forest α) (others : List α),
      parts.Unfolds inside (inside root) ∧ rest.Unfolds inside others ∧
      (starting : Multiset α) = root ::ₘ (others : Multiset α) ∧
      (forest.labels : Multiset α) = root ::ₘ (parts.labels + rest.labels : Multiset α) := by
  induction unfolds with
  | nil => cases member
  | @node label parts rest others below right _ ih =>
      rcases List.mem_cons.mp member with rfl | further
      · exact ⟨parts, rest, others, below, right, rfl, rfl⟩
      · obtain ⟨parts', rest', others', below', right', roots, labels⟩ := ih further
        -- The first root stays in what is left, with everything below it.
        refine ⟨parts', .node label parts rest', label :: others', below', .node below right',
          ?_, ?_⟩
        · rw [← Multiset.cons_coe, roots, Multiset.cons_swap, Multiset.cons_coe]
        · rw [Forest.labels, Forest.labels, ← Multiset.cons_coe, ← Multiset.cons_coe,
            ← Multiset.coe_add, ← Multiset.coe_add, labels, Multiset.add_cons, Multiset.add_cons,
            Multiset.cons_swap, ← Multiset.add_assoc, ← Multiset.add_assoc,
            Multiset.add_comm (parts.labels : Multiset α)]

/-- **Complete unfoldings of related roots have related labels**, apart from the
order, if that is so for what is directly inside of related things. -/
theorem rel_labels {related : α → α → Prop}
    (step : ∀ first second, related first second →
      Multiset.Rel related (inside first : Multiset α) (inside second : Multiset α))
    {starting starting' : List α} {forest forest' : Forest α}
    (unfolds : forest.Unfolds inside starting) (unfolds' : forest'.Unfolds inside starting')
    (roots : Multiset.Rel related (starting : Multiset α) (starting' : Multiset α)) :
    Multiset.Rel related (forest.labels : Multiset α) (forest'.labels : Multiset α) := by
  induction unfolds generalizing starting' forest' with
  | nil =>
      have none := Multiset.rel_zero_left.mp roots
      rw [Multiset.coe_eq_zero] at none
      subst none
      cases unfolds'
      exact .zero
  | @node label parts rest others _ _ below right =>
      -- The counterpart of the first root can be any of the other roots.
      rw [← Multiset.cons_coe] at roots
      obtain ⟨root, remaining, here, beside, isRoots⟩ := Multiset.rel_cons_left.mp roots
      have member : root ∈ starting' := by
        rw [← Multiset.mem_coe, isRoots]
        exact Multiset.mem_cons_self root remaining
      obtain ⟨parts', rest', others', below', right', extracted, labels⟩ :=
        unfolds'.exists_extract member
      rw [extracted, Multiset.cons_inj_right] at isRoots
      subst isRoots
      rw [labels, Forest.labels, ← Multiset.cons_coe, ← Multiset.coe_add]
      exact .cons here ((below below' (step label root here)).add (right right' beside))

end Forest.Unfolds

/-- **A rearranged program has the nodes that it had before**, each rearranged
within itself. -/
theorem Program.RearrangedTo.rel_labels {program program' : Program}
    (rearranged : program.RearrangedTo program') :
    Multiset.Rel Node.RearrangedTo (program.nodes.labels : Multiset Node)
      (program'.nodes.labels : Multiset Node) := by
  refine Forest.Unfolds.rel_labels ?_ program.unfolds_nodes program'.unfolds_nodes ?_
  · intro first second inside
    exact inside.rel_inside
  · exact .cons (.program rearranged) .zero

/-- A rearranged program has the identities that it had before. -/
theorem Program.RearrangedTo.nodeIds_perm {program program' : Program}
    (rearranged : program.RearrangedTo program') : program.nodeIds.Perm program'.nodeIds := by
  rw [← Multiset.coe_eq_coe, nodeIds, nodeIds, ← Multiset.map_coe, ← Multiset.map_coe,
    ← Multiset.rel_eq, Multiset.rel_map]
  refine rearranged.rel_labels.mono ?_
  intro node _ node' _ inside
  exact inside.id_eq

end DecafScopes
