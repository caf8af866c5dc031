import DecafScopes.Binding.Lexical
import DecafScopes.Proofs.Binding.Steps
import DecafScopes.Proofs.Outline.Placement

/-!
# The steps that an outline asks for

Going through an outline opens its scopes in source order, whatever is announced
first (`Forest.openings_steps`), and binds every occurrence to the scope of the
innermost opener around it, in some order (`Forest.bindings_steps`).  So the steps
can be counted by the openers and the nodes of the outline.
-/

set_option autoImplicit false

namespace DecafScopes

/-- The number of the scope that an opener opens. -/
def Opener.number (opener : Opener) : Nat :=
  opener.entry.place.scope

/-- The number of the scope in which nodes stand that have the openers `around`
themselves. -/
def scopeInside (around : List Opener) : Nat :=
  match around with
  | [] => ScopeTree.root
  | opener :: _ => opener.number

namespace Occurrence

/-- The number of the scope in which an occurrence stands. -/
def scope (occurrence : Occurrence) : Nat :=
  scopeInside occurrence.around

/-- An occurrence with its scope. -/
def binding (occurrence : Occurrence) : NodeId × Nat :=
  (occurrence.entry.id, occurrence.scope)

/-- The scope that an occurrence opens. -/
def opening? (occurrence : Occurrence) : Option Opening :=
  occurrence.entry.node.opens?.map fun kind =>
    ⟨occurrence.scope, occurrence.entry.id, kind, occurrence.entry.declared?⟩

/-- The occurrences that open a scope are those of the openers. -/
theorem filterMap_opening? {α : Type} (value : Entry → α) (occurrences : List Occurrence) :
    (occurrences.filterMap fun occurrence =>
        occurrence.opening?.map fun _ => value occurrence.entry) =
      ((occurrences.map entry).filter (·.node.opens?.isSome)).map value := by
  induction occurrences with
  | nil => rfl
  | cons occurrence others ih =>
      rw [List.map_cons, List.filterMap_cons, List.filter_cons, opening?]
      cases occurrence.entry.node.opens? <;> simp [ih]

end Occurrence

/-! ## Announcements -/

namespace Entry

variable (number : Nat) (declaring : Bool) (entry : Entry) (entries : List Entry)

@[simp] theorem openings_announce : Step.openings (entry.announce number declaring) = [] := by
  unfold announce
  cases entry.declared? with
  | none => rfl
  | some declared => cases declaring <;> rfl

@[simp] theorem bindings_announce :
    Step.bindings (entry.announce number declaring) = [(entry.id, number)] := by
  unfold announce
  cases entry.declared? with
  | none => rfl
  | some declared => cases declaring <;> rfl

@[simp] theorem openings_flatMap_announce :
    Step.openings (entries.flatMap (announce number declaring)) = [] := by
  induction entries with
  | nil => rfl
  | cons entry others ih => simp [ih]

@[simp] theorem bindings_flatMap_announce :
    Step.bindings (entries.flatMap (announce number declaring)) =
      entries.map fun entry => (entry.id, number) := by
  induction entries with
  | nil => rfl
  | cons entry others ih => simp [ih]

@[simp] theorem openers_flatMap_announce :
    Step.openers (entries.flatMap (announce number declaring)) = [] := by
  rw [Step.openers, openings_flatMap_announce, List.map_nil]

@[simp] theorem bound_flatMap_announce :
    Step.bound (entries.flatMap (announce number declaring)) = entries.map Entry.id := by
  rw [Step.bound, bindings_flatMap_announce, List.map_map]
  rfl

end Entry

namespace Visit

/-- The roots that have been announced before a forest is gone through. -/
def outstanding (visit : Visit) (forest : Forest Entry) : List Entry :=
  match visit with
  | full _ => []
  | inside => forest.roots

/-- How the parts of a scope are gone through. -/
def ofKind (policy : BindingPolicy) (kind : ScopeKind) : Visit :=
  if kind.announcesFirst then .inside else .full (policy.declaresIn kind)

variable (visit : Visit) (scope : Nat) (entry : Entry)

@[simp] theorem outstanding_full (declaring : Bool) (forest : Forest Entry) :
    (full declaring).outstanding forest = [] :=
  rfl

theorem outstanding_subset_labels (forest : Forest Entry) :
    visit.outstanding forest ⊆ forest.labels := by
  cases visit with
  | full declaring => exact List.nil_subset _
  | inside => exact forest.roots_subset_labels

@[simp] theorem openings_announce : Step.openings (visit.announce scope entry) = [] := by
  cases visit with
  | full declaring => exact entry.openings_announce scope declaring
  | inside => rfl

@[simp] theorem openers_announce : Step.openers (visit.announce scope entry) = [] := by
  rw [Step.openers, openings_announce, List.map_nil]

/-- A root is bound when it is announced, now or before. -/
theorem bindings_announce (parts rest : Forest Entry) :
    (visit.outstanding (.node entry parts rest)).map (fun root => (root.id, scope)) ++
        Step.bindings (visit.announce scope entry) =
      (entry.id, scope) :: (visit.outstanding rest).map fun root => (root.id, scope) := by
  cases visit with
  | full declaring => exact entry.bindings_announce scope declaring
  | inside => exact List.append_nil _

theorem count_bound_announce (parts rest : Forest Entry) (node : NodeId) :
    ((visit.outstanding (.node entry parts rest)).map Entry.id).count node +
        (Step.bound (visit.announce scope entry)).count node =
      [entry.id].count node + ((visit.outstanding rest).map Entry.id).count node := by
  have bound := congrArg (List.map Prod.fst) (visit.bindings_announce scope entry parts rest)
  rw [List.map_append, List.map_cons, List.map_map, List.map_map] at bound
  have counted := congrArg (List.count node) bound
  rw [← List.singleton_append, List.count_append, List.count_append] at counted
  exact counted

end Visit

namespace Forest

variable (policy : BindingPolicy)

/-! ## The steps at one node -/

/-- The steps inside an opened scope: what is announced first, and the way
through the parts. -/
def innerSteps (number : Nat) (kind : ScopeKind) (parts : Forest Entry) : List Step :=
  ((Visit.ofKind policy kind).outstanding parts).flatMap
      (Entry.announce number (policy.declaresIn kind)) ++
    parts.steps policy number (.ofKind policy kind)

/-- The steps of entering a node, which has been announced. -/
def entering (scope : Nat) (entry : Entry) (parts : Forest Entry) : List Step :=
  match entry.node.opens? with
  | none => parts.steps policy scope (.full true)
  | some kind =>
      .openScope scope entry.id kind entry.declared? ::
        innerSteps policy entry.place.scope kind parts

section Node

variable {scope : Nat} {entry : Entry} {parts rest : Forest Entry} {outer : List Opener}

/-- A node is announced and then entered, and then come the nodes to its
right. -/
theorem steps_node (scope : Nat) (visit : Visit) (entry : Entry) (parts rest : Forest Entry) :
    (node entry parts rest).steps policy scope visit =
      visit.announce scope entry ++
        (entering policy scope entry parts ++ rest.steps policy scope visit) := by
  simp only [steps, Entry.opens?, entering, List.append_assoc]
  cases entry.node.opens? with
  | none => rfl
  | some kind =>
      simp only [Option.map_some, innerSteps, Visit.ofKind]
      split <;> rfl

theorem entering_of_closed (closed : entry.node.opens? = none) :
    entering policy scope entry parts = parts.steps policy scope (.full true) := by
  simp only [entering, closed]

theorem entering_of_opens {kind : ScopeKind} (opens : entry.node.opens? = some kind) :
    entering policy scope entry parts =
      .openScope scope entry.id kind entry.declared? ::
        innerSteps policy entry.place.scope kind parts := by
  simp only [entering, opens]

/-- Entering a node is going through a tree whose root has been announced. -/
theorem steps_node_nil (scope : Nat) (entry : Entry) (parts : Forest Entry) :
    (node entry parts .nil).steps policy scope .inside = entering policy scope entry parts := by
  rw [steps_node]
  exact List.append_nil _

theorem aroundParts_of_closed (closed : entry.node.opens? = none) :
    entry.aroundParts parts outer = outer := by
  simp [Entry.aroundParts, closed]

theorem aroundParts_of_opens {kind : ScopeKind} (opens : entry.node.opens? = some kind) :
    entry.aroundParts parts outer = ⟨entry, parts⟩ :: outer := by
  simp [Entry.aroundParts, opens]

end Node

/-! ## Scopes are opened in source order -/

/-- **Scopes are opened in source order.** -/
theorem openings_steps (forest : Forest Entry) (outer : List Opener) (visit : Visit) :
    Step.openings (forest.steps policy (scopeInside outer) visit) =
      (forest.occurrences outer).filterMap Occurrence.opening? := by
  induction forest generalizing outer visit with
  | nil => rfl
  | node entry parts rest below right =>
      have entered : Step.openings (entering policy (scopeInside outer) entry parts) =
          (Occurrence.opening? ⟨entry, outer⟩).toList ++
            (parts.occurrences (entry.aroundParts parts outer)).filterMap
              Occurrence.opening? := by
        cases opens : entry.node.opens? with
        | none =>
            rw [entering_of_closed policy opens, aroundParts_of_closed opens, below outer]
            simp [Occurrence.opening?, opens]
        | some kind =>
            have inside := below (⟨entry, parts⟩ :: outer) (.ofKind policy kind)
            rw [entering_of_opens policy opens, aroundParts_of_opens opens, ← inside]
            simp [Occurrence.opening?, Occurrence.scope, opens, innerSteps, scopeInside,
              Opener.number]
      rw [steps_node, occurrences, List.filterMap_cons, List.filterMap_append, ← right outer visit,
        Step.openings_append, Step.openings_append, Visit.openings_announce, entered]
      cases Occurrence.opening? ⟨entry, outer⟩ <;> simp

/-! ## Every occurrence is bound once -/

/-- **Every occurrence is bound to the scope in which it stands.**  The roots that
have been announced before are bound already. -/
theorem bindings_steps (forest : Forest Entry) (outer : List Opener) (visit : Visit) :
    ((visit.outstanding forest).map (fun root => (root.id, scopeInside outer)) ++
        Step.bindings (forest.steps policy (scopeInside outer) visit)).Perm
      ((forest.occurrences outer).map Occurrence.binding) := by
  induction forest generalizing outer visit with
  | nil => cases visit <;> rfl
  | node entry parts rest below right =>
      have entered : (Step.bindings (entering policy (scopeInside outer) entry parts)).Perm
          ((parts.occurrences (entry.aroundParts parts outer)).map Occurrence.binding) := by
        cases opens : entry.node.opens? with
        | none =>
            rw [entering_of_closed policy opens, aroundParts_of_closed opens]
            exact below outer (.full true)
        | some kind =>
            rw [entering_of_opens policy opens, aroundParts_of_opens opens, Step.bindings_cons,
              innerSteps, Step.bindings_append, Entry.bindings_flatMap_announce]
            exact below (⟨entry, parts⟩ :: outer) (.ofKind policy kind)
      rw [steps_node, Step.bindings_append, Step.bindings_append, ← List.append_assoc,
        Visit.bindings_announce, occurrences, List.map_cons, List.map_append, List.cons_append]
      -- The roots of the rest are bound before the parts or after them: only the order differs.
      refine List.Perm.cons _ ?_
      exact (List.perm_append_comm_assoc _ _ _).trans (entered.append (right outer visit))

/-! ## Counting what is bound and what is opened -/

/-- The nodes that open a scope are the openers, in source order. -/
theorem openers_steps (forest : Forest Entry) (outer : List Opener) (visit : Visit) :
    Step.openers (forest.steps policy (scopeInside outer) visit) =
      (forest.labels.filter (·.node.opens?.isSome)).map Entry.id := by
  rw [← map_entry_occurrences forest outer, ← Occurrence.filterMap_opening?, Step.openers,
    openings_steps, List.map_filterMap]
  apply List.filterMap_congr
  intro occurrence _
  rw [Occurrence.opening?, Option.map_map, Option.map_map]
  rfl

theorem length_openings_steps (forest : Forest Node) (place : Place) (outer : List Opener)
    (visit : Visit) :
    (Step.openings ((forest.placed place).steps policy (scopeInside outer) visit)).length =
      forest.openerCount := by
  have ids := congrArg List.length (openers_steps policy (forest.placed place) outer visit)
  have numbers := congrArg List.length (numbers_placed forest place)
  simp only [Step.openers, List.length_map, List.length_range'] at ids numbers
  rw [ids, numbers]

/-- **The number that a scope gets is the one that the outline has for its
opener.** -/
theorem zipIdx_openings_steps (forest : Forest Node) (place : Place) (outer : List Opener)
    (visit : Visit) :
    (Step.openings ((forest.placed place).steps policy (scopeInside outer) visit)).zipIdx
        place.scope =
      ((forest.placed place).occurrences outer).filterMap fun occurrence =>
        occurrence.opening?.map (·, occurrence.entry.place.scope) := by
  have counted := length_openings_steps policy forest place outer visit
  have numbers := numbers_placed forest place
  rw [← counted, ← map_entry_occurrences (forest.placed place) outer,
    ← Occurrence.filterMap_opening?] at numbers
  rw [List.zipIdx_eq_zip_range', ← numbers, openings_steps]
  induction (forest.placed place).occurrences outer with
  | nil => rfl
  | cons occurrence others ih =>
      simp only [List.filterMap_cons]
      cases occurrence.opening? <;> simp [ih]

/-- Entering a node opens as many scopes as the numbers go up. -/
theorem length_openings_entering (label : Node) (parts : Forest Node) (place : Place)
    (outer : List Opener) :
    place.scope + (Step.openings (entering policy (scopeInside outer) ⟨label, place⟩
        (parts.placed (place.after label)))).length =
      (parts.foldl Place.after (place.after label)).scope := by
  have opened := length_openings_steps policy (.node label parts .nil) place outer .inside
  have behind := scope_foldl_after (.node label parts .nil) place
  rw [placed, placed, steps_node_nil] at opened
  rw [opened, ← behind]
  rfl

/-- Every node is bound once, when it is announced. -/
theorem count_bound_steps (forest : Forest Entry) (outer : List Opener) (visit : Visit)
    (node : NodeId) :
    ((visit.outstanding forest).map Entry.id).count node +
        (Step.bound (forest.steps policy (scopeInside outer) visit)).count node =
      (forest.labels.map Entry.id).count node := by
  have bound := ((bindings_steps policy forest outer visit).map Prod.fst).count_eq node
  rw [List.map_append, List.count_append, List.map_map, List.map_map] at bound
  rw [← map_entry_occurrences forest outer, List.map_map]
  exact bound

/-- No node opens more scopes than it has been bound. -/
theorem count_openers_steps_le (forest : Forest Entry) (outer : List Opener) (visit : Visit)
    (node : NodeId) :
    (Step.openers (forest.steps policy (scopeInside outer) visit)).count node ≤
      ((visit.outstanding forest).map Entry.id).count node +
        (Step.bound (forest.steps policy (scopeInside outer) visit)).count node := by
  rw [count_bound_steps, openers_steps]
  exact (List.filter_sublist.map Entry.id).count_le node

/-- Entering a node may open one scope more for the node itself. -/
theorem count_openers_entering_le (entry : Entry) (parts : Forest Entry) (outer : List Opener)
    (node : NodeId) :
    (Step.openers (entering policy (scopeInside outer) entry parts)).count node ≤
      [entry.id].count node +
        (Step.bound (entering policy (scopeInside outer) entry parts)).count node := by
  have opened := count_openers_steps_le policy (.node entry parts .nil) outer .inside node
  rw [steps_node_nil] at opened
  exact opened

end Forest

end DecafScopes
