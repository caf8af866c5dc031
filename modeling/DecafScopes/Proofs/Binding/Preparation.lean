import DecafScopes.Proofs.Binding.Levels

/-!
# Steps are prepared

What is written in a function, a block or a `for` loop begins with the variables that are
declared there, and the members of a class or an interface are all announced before the
first of them is entered.  So when a scope is opened, nothing more is declared in the scopes
around it, and when a piece of code is bound, nothing more is declared in its own scope
either (`Program.prepared_of_append`).  The global scope is the exception: top-level
declarations go on after the first of them has been entered.
-/

set_option autoImplicit false

namespace DecafScopes

/-! ## Variables come first -/

namespace Node

/-- Blocks, statements, arms and expressions are code. -/
def isCode : Node → Bool
  | block _ | statement _ | arm _ | expression _ => true
  | program _ | declaration _ => false

/-- Whether a node declares a variable. -/
def isVariable : Node → Bool
  | declaration (.variableDecl _) => true
  | declaration (.classDecl _) | declaration (.interfaceDecl _) | declaration (.functionDecl _)
  | program _ | block _ | statement _ | arm _ | expression _ => false

/-- Only variables stand before a declaration. -/
def VariablesFirst (nodes : List Node) : Prop :=
  nodes.Pairwise fun earlier later => earlier.isVariable ∨ later.declaration? = none

theorem declaration?_of_isCode {node : Node} (code : node.isCode) : node.declaration? = none := by
  cases node <;> first | rfl | cases code

theorem isVariable_of_isCode {node : Node} (code : node.isCode) : node.isVariable = false := by
  cases node <;> first | rfl | cases code

theorem isVariable_of_opens {node : Node} {kind : ScopeKind} (opens : node.opens? = some kind) :
    node.isVariable = false := by
  match node with
  | declaration (.variableDecl _) => cases opens
  | declaration (.classDecl _) | declaration (.interfaceDecl _) | declaration (.functionDecl _)
  | program _ | block _ | statement _ | arm _ | expression _ => rfl

/-- What opens no scope and is neither a program nor code is a variable. -/
theorem isVariable_of_closed {node : Node} (isPart : ∀ whole, node ≠ .program whole)
    (closed : node.opens? = none) (noCode : node.isCode = false) : node.isVariable = true := by
  match node with
  | program whole => exact absurd rfl (isPart whole)
  | declaration (.variableDecl _) => rfl
  | declaration (.classDecl _) | declaration (.interfaceDecl _) | declaration (.functionDecl _) =>
      cases closed
  | block _ | statement _ | arm _ | expression _ => cases noCode

/-- Nothing is written inside of a variable. -/
theorem inside_of_isVariable {node : Node} (isVariable : node.isVariable) : node.inside = [] := by
  match node with
  | declaration (.variableDecl _) => rfl

theorem variablesFirst_of_undeclared {nodes : List Node}
    (undeclared : ∀ node ∈ nodes, node.declaration? = none) : VariablesFirst nodes :=
  List.pairwise_of_forall_mem_list fun _ _ later member => .inr (undeclared later member)

theorem variablesFirst_append (locals : List VariableDecl) {others : List Node}
    (undeclared : ∀ node ∈ others, node.declaration? = none) :
    VariablesFirst (locals.map VariableDecl.node ++ others) := by
  refine List.pairwise_append.mpr ⟨?_, variablesFirst_of_undeclared undeclared,
    fun _ _ later member => .inr (undeclared later member)⟩
  refine List.pairwise_of_forall_mem_list fun earlier member _ _ => .inl ?_
  obtain ⟨declared, _, rfl⟩ := List.mem_map.mp member
  rfl

/-- **In a scope whose parts are not announced first, the variables come first.** -/
theorem variablesFirst_inside {node : Node} {kind : ScopeKind} (opens : node.opens? = some kind)
    (asWritten : kind.announcesFirst = false) : VariablesFirst node.inside := by
  have inBlock (body : Block) : VariablesFirst body.inside := by
    refine variablesFirst_append body.locals fun node member => ?_
    obtain ⟨statement, _, rfl⟩ := List.mem_map.mp member
    exact statement.declaration?_node
  match node with
  | declaration (.classDecl _) | declaration (.interfaceDecl _) =>
      cases opens
      cases asWritten
  | declaration (.functionDecl declared) =>
      refine variablesFirst_append declared.parameters fun node member => ?_
      obtain ⟨body, _, rfl⟩ := List.mem_map.mp member
      rfl
  | block body | statement (.block body) => exact inBlock body
  | statement (.plain _ _ (.forLoop start test step body)) =>
      have undeclared : ∀ node ∈ [expression test, expression step, body.node],
          node.declaration? = none := by
        simp
      exact List.pairwise_cons.mpr ⟨fun later member => .inr (undeclared later member),
        variablesFirst_of_undeclared undeclared⟩

/-- Where the parts are announced first, all of them are declarations. -/
theorem isCode_of_mem_inside {node part : Node} {kind : ScopeKind}
    (opens : node.opens? = some kind) (first : kind.announcesFirst = true)
    (member : part ∈ node.inside) : part.isCode = false := by
  match node with
  | declaration (.classDecl declared) =>
      obtain ⟨classMember, _, rfl⟩ := List.mem_map.mp member
      cases classMember <;> rfl
  | declaration (.interfaceDecl declared) =>
      obtain ⟨prototype, _, rfl⟩ := List.mem_map.mp member
      rfl
  | declaration (.functionDecl _) | block _ | statement (.block _)
  | statement (.plain _ _ (.forLoop ..)) =>
      cases opens
      cases first

end Node

/-! ## Steps that come when nothing more is declared around -/

namespace Step

/-- Nothing is declared in the scopes of some openers. -/
def SpareAll (openers : List Opener) (steps : List Step) : Prop :=
  ∀ opener ∈ openers, declaredIn opener.number steps = []

theorem spareAll_append {openers : List Opener} {first second : List Step} :
    SpareAll openers (first ++ second) ↔ SpareAll openers first ∧ SpareAll openers second := by
  simp only [SpareAll, declaredIn_append, List.append_eq_nil_iff, forall_and]

/-- A step that binds a piece of code or opens a scope is prepared if nothing is declared later
in the scopes around.  Code always stands in some scope besides the global one. -/
def Prepared (occurrences : List Occurrence) (later : List Step) : Step → Prop
  | bind node scope => ∃ occurrence ∈ occurrences, occurrence.binding = (node, scope) ∧
      (occurrence.entry.node.isCode →
        occurrence.around ≠ [] ∧ SpareAll occurrence.around later)
  | openScope parent opener kind owner => ∃ occurrence ∈ occurrences,
      occurrence.opening? = some ⟨parent, opener, kind, owner⟩ ∧
        SpareAll occurrence.around later
  | declare .. => True

/-- Steps each of which is prepared for what comes after it. -/
def AllPrepared (occurrences : List Occurrence) (after : List Step) : List Step → Prop
  | [] => True
  | step :: later =>
      Prepared occurrences (later ++ after) step ∧ AllPrepared occurrences after later

theorem allPrepared_append {occurrences : List Occurrence} {after first second : List Step} :
    AllPrepared occurrences after (first ++ second) ↔
      AllPrepared occurrences (second ++ after) first ∧ AllPrepared occurrences after second := by
  induction first with
  | nil => simp [AllPrepared]
  | cons step later ih =>
      simp only [List.cons_append, AllPrepared, ih, List.append_assoc, and_assoc]

end Step

/-! ## Announcements -/

section Announce

variable {occurrences : List Occurrence} {outer : List Opener} {after : List Step}

theorem Entry.allPrepared_announce {entry : Entry} (listed : ⟨entry, outer⟩ ∈ occurrences)
    (declaring : Bool)
    (ready : entry.node.isCode → outer ≠ [] ∧ Step.SpareAll outer after) :
    Step.AllPrepared occurrences after (entry.announce (scopeInside outer) declaring) := by
  unfold announce
  cases declares : entry.declared? with
  | none => exact ⟨⟨_, listed, rfl, ready⟩, trivial⟩
  | some declared =>
      have noCode : ¬ entry.node.isCode := by
        intro code
        rw [declared?, Node.declaration?_of_isCode code] at declares
        cases declares
      cases declaring with
      | false => exact ⟨⟨_, listed, rfl, fun code => absurd code noCode⟩, trivial⟩
      | true => exact ⟨⟨_, listed, rfl, fun code => absurd code noCode⟩, trivial, trivial⟩

theorem Entry.allPrepared_flatMap_announce (declaring : Bool) {entries : List Entry}
    (listed : ∀ entry ∈ entries, ⟨entry, outer⟩ ∈ occurrences)
    (noCode : ∀ entry ∈ entries, entry.node.isCode = false) :
    Step.AllPrepared occurrences after
      (entries.flatMap (Entry.announce (scopeInside outer) declaring)) := by
  induction entries generalizing after with
  | nil => trivial
  | cons entry others ih =>
      rw [List.forall_mem_cons] at listed noCode
      rw [List.flatMap_cons, Step.allPrepared_append]
      refine ⟨allPrepared_announce listed.1 declaring fun code => ?_, ih listed.2 noCode.2⟩
      rw [noCode.1] at code
      cases code

theorem Visit.allPrepared_announce {entry : Entry} (listed : ⟨entry, outer⟩ ∈ occurrences)
    (visit : Visit) (ready : entry.node.isCode → outer ≠ [] ∧ Step.SpareAll outer after) :
    Step.AllPrepared occurrences after (visit.announce (scopeInside outer) entry) := by
  cases visit with
  | full declaring => exact entry.allPrepared_announce listed declaring ready
  | inside => trivial

end Announce

namespace Forest

theorem occurrence_of_mem_roots {forest : Forest Entry} {root : Entry}
    (member : root ∈ forest.roots) (outer : List Opener) :
    ⟨root, outer⟩ ∈ forest.occurrences outer := by
  induction forest with
  | nil => cases member
  | node entry parts rest _ right =>
      rw [occurrences]
      rcases List.mem_cons.mp member with rfl | further
      · exact List.mem_cons_self
      · exact List.mem_cons_of_mem _ (List.mem_append_right _ (right further))

variable (policy : BindingPolicy)

/-! ## What a forest leaves alone -/

/-- How a forest stands among the openers around it: their numbers come before its own, and
what comes after the forest declares nothing in their scopes or in its own. -/
structure Stands (forest : Forest Node) (place : Place) (outer : List Opener)
    (after : List Step) : Prop where
  inside : scopeInside outer < place.scope
  before : ∀ opener ∈ outer, opener.number < place.scope
  spared : Step.SpareAll outer after
  untouched : ∀ number, place.scope ≤ number → number < place.scope + forest.openerCount →
    Step.declaredIn number after = []

/-- Going through a forest without declarations among its roots declares nothing in the
scopes around. -/
theorem spareAll_steps {starting : List Node} {forest : Forest Node}
    (unfolds : forest.Unfolds Node.inside starting) (parts : Node.AllParts starting)
    {place : Place} {outer : List Opener} (inside : scopeInside outer < place.scope)
    (before : ∀ opener ∈ outer, opener.number < place.scope) {visit : Visit}
    (undeclared : visit = .inside ∨ ∀ node ∈ starting, node.declaration? = none) :
    Step.SpareAll outer ((forest.placed place).steps policy (scopeInside outer) visit) := by
  have none : visit.declared (forest.placed place) = [] := by
    match visit, undeclared with
    | .inside, _ | .full false, _ => rfl
    | .full true, .inr undeclared =>
        refine List.filterMap_eq_nil_iff.mpr fun root member => ?_
        have listed : root.node ∈ starting := by
          rw [← unfolds.roots_eq, ← map_node_roots_placed forest place]
          exact List.mem_map_of_mem member
        rw [Entry.declared?, undeclared _ listed, Option.map_none]
  intro opener member
  by_cases here : opener.number = scopeInside outer
  · rw [here, declaredIn_own policy unfolds parts place visit inside, none]
  · exact declaredIn_other policy forest place visit here (.inl (before opener member))

section Node

variable {label : Node} {inner rest : Forest Node} {place : Place} {outer : List Opener}
  {after : List Step}

/-- Entering a node declares nothing in the scopes around it. -/
theorem spareAll_entering (unfolded : inner.Unfolds Node.inside label.inside)
    (isPart : ∀ whole, label ≠ .program whole) (inside : scopeInside outer < place.scope)
    (before : ∀ opener ∈ outer, opener.number < place.scope) :
    Step.SpareAll outer (entering policy (scopeInside outer) ⟨label, place⟩
      (inner.placed (place.after label))) := by
  have alone : (node label inner .nil).Unfolds Node.inside [label] := .node unfolded .nil
  have spared := spareAll_steps policy alone
    (fun part listed => by rwa [List.mem_singleton.mp listed]) inside before (.inl rfl)
  rwa [placed, placed, steps_node_nil] at spared

/-- The trees to the right of a first one stand as all of them do. -/
theorem Stands.beside (stands : (node label inner rest).Stands place outer after) :
    rest.Stands (inner.foldl Place.after (place.after label)) outer after := by
  have behind := scope_behind label inner place
  have count := openerCount_node label inner rest
  obtain ⟨inside, before, spared, untouched⟩ := stands
  refine ⟨by omega, fun opener member => ?_, spared,
    fun number lower upper => untouched number (by omega) (by omega)⟩
  exact (before opener member).trans_le (by omega)

/-- Going through the trees to the right declares nothing further inside the first one. -/
theorem Stands.untouched_first (stands : (node label inner rest).Stands place outer after)
    (visit : Visit) (number : Nat) (lower : place.scope ≤ number)
    (upper : number < (inner.foldl Place.after (place.after label)).scope) :
    Step.declaredIn number ((rest.placed (inner.foldl Place.after (place.after label))).steps
      policy (scopeInside outer) visit ++ after) = [] := by
  have behind := scope_behind label inner place
  have count := openerCount_node label inner rest
  have inside := stands.inside
  rw [Step.declaredIn_append, declaredIn_other policy rest _ visit (by omega) (.inl upper),
    stands.untouched number lower (by omega)]
  rfl

variable {further : List Step} (spared : Step.SpareAll outer further)
  (untouched : ∀ number, place.scope ≤ number →
    number < (inner.foldl Place.after (place.after label)).scope →
      Step.declaredIn number further = [])

include spared untouched

/-- The parts of a node that opens no scope stand where the node does. -/
theorem Stands.closed (stands : (node label inner rest).Stands place outer after)
    (closed : label.opens? = none) : inner.Stands (place.after label) outer further := by
  have next := scope_after place label
  have behind := scope_behind label inner place
  simp only [closed, Option.isSome_none, Bool.false_eq_true, if_false, Nat.add_zero]
    at next behind
  exact ⟨next ▸ stands.inside, next ▸ stands.before, spared,
    fun number lower upper => untouched number (by omega) (by omega)⟩

/-- The parts of a node that opens a scope stand in that scope. -/
theorem Stands.opened (stands : (node label inner rest).Stands place outer after)
    {kind : ScopeKind} (opens : label.opens? = some kind) :
    inner.Stands (place.after label)
      (⟨⟨label, place⟩, inner.placed (place.after label)⟩ :: outer) further := by
  have next := scope_after place label
  have behind := scope_behind label inner place
  simp only [opens, Option.isSome_some, if_true] at next behind
  have first : scopeInside (⟨⟨label, place⟩, inner.placed (place.after label)⟩ :: outer) =
      place.scope := rfl
  have isNumber : Opener.number ⟨⟨label, place⟩, inner.placed (place.after label)⟩ =
      place.scope :=
    rfl
  refine ⟨by omega, List.forall_mem_cons.mpr ⟨by omega, fun opener member => ?_⟩,
    List.forall_mem_cons.mpr ⟨?_, spared⟩,
    fun number lower upper => untouched number (by omega) (by omega)⟩
  · exact (stands.before opener member).trans_le (by omega)
  · exact untouched place.scope (Nat.le_refl place.scope) (by omega)

end Node

/-! ## Every step is prepared -/

/-- A forest is calm if it stands at the top level and has no code among its roots, or if
nothing is declared in the scope around it once a scope has been opened or code has been
bound. -/
structure Calm (outer : List Opener) (visit : Visit) (starting : List Node) : Prop where
  outermost : outer = [] → ∀ node ∈ starting, node.isCode = false
  ordered : outer ≠ [] → visit = .inside ∨ Node.VariablesFirst starting

theorem Calm.beside {outer : List Opener} {visit : Visit} {first : Node} {others : List Node}
    (calm : Calm outer visit (first :: others)) : Calm outer visit others where
  outermost global := (List.forall_mem_cons.mp (calm.outermost global)).2
  ordered inside := (calm.ordered inside).imp_right fun order => (List.pairwise_cons.mp order).2

/-- Behind a node that is not a variable nothing is declared in the scopes around. -/
theorem Calm.spareAll_rest {outer : List Opener} {visit : Visit} {label : Node}
    {others : List Node} (calm : Calm outer visit (label :: others))
    (other : label.isVariable = false) {rest : Forest Node}
    (unfolds : rest.Unfolds Node.inside others) (parts : Node.AllParts others) {place : Place}
    (inside : scopeInside outer < place.scope)
    (before : ∀ opener ∈ outer, opener.number < place.scope) :
    Step.SpareAll outer ((rest.placed place).steps policy (scopeInside outer) visit) := by
  by_cases global : outer = []
  · subst global
    exact fun _ member => absurd member List.not_mem_nil
  refine spareAll_steps policy unfolds parts inside before ?_
  refine (calm.ordered global).imp_right fun order node member => ?_
  refine ((List.pairwise_cons.mp order).1 node member).resolve_left ?_
  rw [other]
  exact Bool.false_ne_true

/-- The parts of a node that opens no scope are calm. -/
theorem Calm.closed {outer : List Opener} {visit : Visit} {label : Node} {others : List Node}
    (calm : Calm outer visit (label :: others)) (isPart : ∀ whole, label ≠ .program whole)
    (closed : label.opens? = none) (other : label.isVariable = false) :
    Calm outer (.full true) label.inside where
  outermost global := by
    have noCode := calm.outermost global label List.mem_cons_self
    rw [Node.isVariable_of_closed isPart closed noCode] at other
    cases other
  ordered _ := by
    refine .inr (Node.variablesFirst_of_undeclared fun part member => ?_)
    cases part with
    | declaration declared => exact absurd member (Node.declaration_notMem_inside isPart closed _)
    | program _ | block _ | statement _ | arm _ | expression _ => rfl

/-- The parts of a node that opens a scope are calm. -/
theorem Calm.opened {label : Node} {kind : ScopeKind} (opens : label.opens? = some kind)
    (opener : Opener) (outer : List Opener) :
    Calm (opener :: outer) (.ofKind policy kind) label.inside where
  outermost := nofun
  ordered _ := by
    cases asWritten : kind.announcesFirst with
    | true => exact .inl (by rw [Visit.ofKind, asWritten]; rfl)
    | false => exact .inr (Node.variablesFirst_inside opens asWritten)

/-- What is announced first in a scope is prepared, since it is not code. -/
theorem allPrepared_outstanding {label : Node} {kind : ScopeKind}
    (opens : label.opens? = some kind) {parts : Forest Entry}
    (isInside : parts.roots.map Entry.node = label.inside) {outer : List Opener}
    {occurrences : List Occurrence} (listed : parts.occurrences outer ⊆ occurrences)
    {declaring : Bool} {after : List Step} :
    Step.AllPrepared occurrences after (((Visit.ofKind policy kind).outstanding parts).flatMap
      (Entry.announce (scopeInside outer) declaring)) := by
  cases first : kind.announcesFirst with
  | false =>
      rw [Visit.ofKind, first]
      trivial
  | true =>
      rw [Visit.ofKind, first]
      refine Entry.allPrepared_flatMap_announce declaring
        (fun root member => listed (occurrence_of_mem_roots member outer)) fun root member => ?_
      exact Node.isCode_of_mem_inside opens first (isInside ▸ List.mem_map_of_mem member)

/-- **Every step of going through a calm forest is prepared**: when a scope is opened or code
is bound, nothing more is declared in the scopes around. -/
theorem allPrepared_steps {starting : List Node} {forest : Forest Node}
    (unfolds : forest.Unfolds Node.inside starting) (parts : Node.AllParts starting)
    {place : Place} {outer : List Opener} {visit : Visit} {after : List Step}
    {occurrences : List Occurrence}
    (listed : (forest.placed place).occurrences outer ⊆ occurrences)
    (stands : forest.Stands place outer after) (calm : Calm outer visit starting) :
    Step.AllPrepared occurrences after
      ((forest.placed place).steps policy (scopeInside outer) visit) := by
  induction unfolds generalizing place outer visit after with
  | nil => trivial
  | @node label inner rest others unfolded unfoldedRest below right =>
      have isPart := parts label List.mem_cons_self
      rw [placed, Forest.occurrences] at listed
      obtain ⟨here, further⟩ := List.cons_subset.mp listed
      obtain ⟨inParts, inRest⟩ := List.append_subset.mp further
      have entered := spareAll_entering policy unfolded isPart stands.inside stands.before
      -- What comes behind the first tree declares nothing inside of it, and nothing around it
      -- either, unless the tree is that of a variable.
      have untouched := stands.untouched_first policy visit
      have behind (other : label.isVariable = false) := Step.spareAll_append.mpr
        ⟨calm.spareAll_rest policy other unfoldedRest parts.tail stands.beside.inside
          stands.beside.before, stands.spared⟩
      rw [placed, steps_node, Step.allPrepared_append, Step.allPrepared_append]
      refine ⟨?announced, ?entering, right parts.tail inRest stands.beside calm.beside⟩
      case announced =>
        refine visit.allPrepared_announce here fun code => ⟨fun global => ?_, ?_⟩
        · rw [calm.outermost global label List.mem_cons_self] at code
          cases code
        · rw [List.append_assoc]
          exact Step.spareAll_append.mpr ⟨entered, behind (Node.isVariable_of_isCode code)⟩
      case entering =>
        cases opens : label.opens? with
        | none =>
            rw [entering_of_closed policy opens]
            rw [aroundParts_of_closed opens] at inParts
            cases isVariable : label.isVariable with
            | true =>
                rw [Node.inside_of_isVariable isVariable] at unfolded
                cases unfolded
                trivial
            | false =>
                exact below label.allParts_inside inParts
                  (stands.closed (behind isVariable) untouched opens)
                  (calm.closed isPart opens isVariable)
        | some kind =>
            have spared := behind (Node.isVariable_of_opens opens)
            have isInside : (inner.placed (place.after label)).roots.map Entry.node =
                label.inside := by
              rw [map_node_roots_placed, unfolded.roots_eq]
            rw [aroundParts_of_opens opens] at inParts
            rw [entering_of_opens policy opens] at entered ⊢
            obtain ⟨_, innerSpared⟩ := Step.spareAll_append.mp
              (List.singleton_append ▸ entered)
            refine ⟨⟨_, here, ?_, ?_⟩, Step.allPrepared_append.mpr ⟨?_, ?_⟩⟩
            · rw [Occurrence.opening?, opens]
              rfl
            · exact Step.spareAll_append.mpr ⟨innerSpared, spared⟩
            · exact allPrepared_outstanding policy opens isInside inParts
            · exact below label.allParts_inside inParts (stands.opened spared untouched opens)
                (Calm.opened policy opens _ outer)

end Forest

/-! ## The steps of a program -/

namespace Program

theorem occurrences_eq (program : Program) :
    program.occurrences = ⟨⟨.program program, Place.start 0⟩, []⟩ ::
      (program.contents.placed (Place.start 0)).occurrences [] := by
  simp [occurrences, outline, outlineIn, nodes, Forest.placed, Forest.occurrences,
    Entry.aroundParts, Node.opens?, Node.declaration?, Place.after, contents]

theorem allPrepared_steps (policy : BindingPolicy) (program : Program) :
    Step.AllPrepared program.occurrences [] (program.steps policy) := by
  have listed := program.occurrences_eq
  have stands : program.contents.Stands (Place.start 0) [] [] :=
    ⟨Nat.zero_lt_one, nofun, nofun, fun _ _ _ => rfl⟩
  have calm : Forest.Calm [] (.full true) (Node.program program).inside := by
    refine ⟨fun _ node member => ?_, fun inside => absurd rfl inside⟩
    obtain ⟨declared, _, rfl⟩ := List.mem_map.mp member
    rfl
  rw [steps_eq]
  refine ⟨⟨_, listed ▸ List.mem_cons_self, rfl, fun code => Bool.noConfusion code⟩, ?_⟩
  exact Forest.allPrepared_steps policy program.unfolds_contents (Node.allParts_inside _)
    (listed ▸ List.subset_cons_self _ _) stands calm

/-- **Every step of a program is prepared for what comes after it.** -/
theorem prepared_of_append {policy : BindingPolicy} {program : Program} {before after : List Step}
    {step : Step} (isPart : program.steps policy = before ++ step :: after) :
    step.Prepared program.occurrences after := by
  have prepared := program.allPrepared_steps policy
  rw [isPart, Step.allPrepared_append] at prepared
  simpa using prepared.2.1

end Program

end DecafScopes
