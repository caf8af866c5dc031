import DecafScopes.Proofs.Binding.Plan
import DecafScopes.Proofs.Outline.Ancestry

/-!
# The declarations that each scope receives

Going through an outline enters into every scope exactly the declarations
directly in its opener, in source order: into the scope in which the roots of a
forest stand those roots that are declarations (`Forest.declaredIn_own`), into
the scope of an opener its level (`Forest.declaredIn_opener`), and into all other
scopes nothing (`Forest.declaredIn_other`).
-/

set_option autoImplicit false

namespace DecafScopes

/-- The declarations among the roots of a forest. -/
def Forest.declared (forest : Forest Entry) : List Declared :=
  forest.roots.filterMap Entry.declared?

/-- The declarations that are entered into the scope in which the roots of a
forest stand when it is gone through. -/
def Visit.declared (visit : Visit) (forest : Forest Entry) : List Declared :=
  match visit with
  | full true => forest.declared
  | full false | inside => []

namespace Entry

theorem declaredIn_announce (number scope : Nat) (declaring : Bool) (entry : Entry) :
    Step.declaredIn number (entry.announce scope declaring) =
      if scope = number ∧ declaring then entry.declared?.toList else [] := by
  unfold announce
  cases entry.declared? with
  | none => simp
  | some declared => cases declaring <;> by_cases here : scope = number <;> simp [here]

theorem declaredIn_flatMap_announce (number scope : Nat) (declaring : Bool)
    (entries : List Entry) :
    Step.declaredIn number (entries.flatMap (announce scope declaring)) =
      if scope = number ∧ declaring then entries.filterMap declared? else [] := by
  induction entries with
  | nil => simp
  | cons entry others ih =>
      rw [List.flatMap_cons, Step.declaredIn_append, ih, declaredIn_announce, List.filterMap_cons]
      split
      · cases entry.declared? <;> rfl
      · rfl

end Entry

theorem Visit.declaredIn_announce_other {number scope : Nat} (other : number ≠ scope)
    (visit : Visit) (entry : Entry) :
    Step.declaredIn number (visit.announce scope entry) = [] := by
  cases visit with
  | full declaring =>
      rw [announce, Entry.declaredIn_announce, if_neg fun here => other here.1.symm]
  | inside => rfl

theorem Visit.declared_node (visit : Visit) (scope : Nat) (entry : Entry)
    (parts rest : Forest Entry) :
    visit.declared (.node entry parts rest) =
      Step.declaredIn scope (visit.announce scope entry) ++ visit.declared rest := by
  cases visit with
  | full declaring =>
      rw [announce, Entry.declaredIn_announce]
      cases declaring with
      | false => simp [declared]
      | true =>
          simp only [declared, Forest.declared, Forest.roots, List.filterMap_cons, and_self,
            if_true]
          cases entry.declared? <;> rfl
  | inside => rfl

namespace Forest

variable (policy : BindingPolicy)

/-- Only declarations of a forest are entered when it is gone through. -/
theorem mem_of_mem_declaredIn (forest : Forest Entry) {scope number : Nat} {visit : Visit}
    {declared : Declared}
    (member : declared ∈ Step.declaredIn number (forest.steps policy scope visit)) :
    declared ∈ forest.labels.filterMap Entry.declared? := by
  induction forest generalizing scope visit with
  | nil => exact member
  | node entry parts rest below right =>
      have announced : declared ∈ Step.declaredIn number (visit.announce scope entry) →
          declared ∈ [entry].filterMap Entry.declared? := by
        cases visit with
        | full declaring =>
            rw [Visit.announce, Entry.declaredIn_announce]
            cases declares : entry.declared? <;> split <;> simp [declares]
        | inside => exact fun none => absurd none List.not_mem_nil
      have entered : declared ∈ Step.declaredIn number (entering policy scope entry parts) →
          declared ∈ parts.labels.filterMap Entry.declared? := by
        intro within
        cases opens : entry.node.opens? with
        | none =>
            rw [entering_of_closed policy opens] at within
            exact below within
        | some kind =>
            rw [entering_of_opens policy opens, Step.declaredIn_cons, Step.declaredIn?,
              Option.toList_none, List.nil_append, innerSteps, Step.declaredIn_append,
              Entry.declaredIn_flatMap_announce] at within
            rcases List.mem_append.mp within with first | later
            · split at first
              · obtain ⟨root, listed, declares⟩ := List.mem_filterMap.mp first
                exact List.mem_filterMap.mpr
                  ⟨root, Visit.outstanding_subset_labels _ parts listed, declares⟩
              · cases first
            · exact below later
      rw [steps_node, Step.declaredIn_append, Step.declaredIn_append, List.mem_append,
        List.mem_append] at member
      rw [labels, ← List.singleton_append, List.filterMap_append, List.filterMap_append,
        List.mem_append, List.mem_append]
      exact member.imp announced (Or.imp entered (right ·))

/-! ## Scopes outside of a forest -/

/-- **Nothing is entered into scopes that have nothing to do with a forest.** -/
theorem declaredIn_other (forest : Forest Node) (place : Place) {scope number : Nat}
    (visit : Visit) (other : number ≠ scope)
    (outside : number < place.scope ∨ place.scope + forest.openerCount ≤ number) :
    Step.declaredIn number ((forest.placed place).steps policy scope visit) = [] := by
  induction forest generalizing place scope visit with
  | nil => rfl
  | node label parts rest below right =>
      have next := scope_after place label
      have behind := scope_behind label parts place
      rw [openerCount_node] at outside
      have entered : Step.declaredIn number
          (entering policy scope ⟨label, place⟩ (parts.placed (place.after label))) = [] := by
        cases opens : label.opens? with
        | none =>
            simp only [opens, Option.isSome_none, Bool.false_eq_true, if_false] at outside next
            rw [entering_of_closed policy opens]
            exact below (place.after label) _ other (by omega)
        | some kind =>
            simp only [opens, Option.isSome_some, if_true] at outside next
            have notHere : ¬ place.scope = number := by omega
            rw [entering_of_opens policy opens, Step.declaredIn_cons, innerSteps,
              Step.declaredIn_append, Entry.declaredIn_flatMap_announce,
              if_neg fun here => notHere here.1,
              below (place.after label) _ (Ne.symm notHere) (by omega)]
            rfl
      rw [placed, steps_node, Step.declaredIn_append, Step.declaredIn_append,
        visit.declaredIn_announce_other other, entered, right _ visit other (by omega)]
      rfl

/-- Nothing is entered into scopes that have nothing to do with an opener. -/
theorem declaredIn_innerSteps_other (forest : Forest Node) {place : Place} {inner number : Nat}
    (kind : ScopeKind) (other : number ≠ inner)
    (outside : number < place.scope ∨ place.scope + forest.openerCount ≤ number) :
    Step.declaredIn number (innerSteps policy inner kind (forest.placed place)) = [] := by
  rw [innerSteps, Step.declaredIn_append, Entry.declaredIn_flatMap_announce,
    if_neg fun here => other here.1.symm, declaredIn_other policy forest _ _ other outside,
    List.append_nil]

section Node

variable (label : Node) (parts rest : Forest Node) {place : Place} {scope number : Nat}
  (visit : Visit) (other : number ≠ scope)

include other

/-- What is entered into a scope inside of the first tree is entered there. -/
theorem declaredIn_node_inside
    (within : number < (parts.foldl Place.after (place.after label)).scope) :
    Step.declaredIn number (((node label parts rest).placed place).steps policy scope visit) =
      Step.declaredIn number
        (entering policy scope ⟨label, place⟩ (parts.placed (place.after label))) := by
  rw [placed, steps_node, Step.declaredIn_append, Step.declaredIn_append,
    visit.declaredIn_announce_other other, declaredIn_other policy rest _ _ other (.inl within)]
  exact List.append_nil _

/-- What is entered into a scope to the right of the first tree is entered
there. -/
theorem declaredIn_node_beside
    (beyond : (parts.foldl Place.after (place.after label)).scope ≤ number) :
    Step.declaredIn number (((node label parts rest).placed place).steps policy scope visit) =
      Step.declaredIn number ((rest.placed
        (parts.foldl Place.after (place.after label))).steps policy scope visit) := by
  have outside : place.scope + (node label parts .nil).openerCount ≤ number := by
    rwa [← scope_foldl_after]
  have entered := declaredIn_other policy (node label parts .nil) place .inside other
    (.inr outside)
  rw [placed, placed, steps_node_nil] at entered
  rw [placed, steps_node, Step.declaredIn_append, Step.declaredIn_append,
    visit.declaredIn_announce_other other, entered]
  rfl

end Node

/-! ## The scope in which a forest stands -/

/-- **The scope in which the roots of a forest stand receives the declarations
among the roots.**  Further inside, declarations stand only in scopes of their
own. -/
theorem declaredIn_own {starting : List Node} {forest : Forest Node}
    (unfolds : forest.Unfolds Node.inside starting)
    (parts : Node.AllParts starting) (place : Place) {scope : Nat}
    (visit : Visit) (before : scope < place.scope) :
    Step.declaredIn scope ((forest.placed place).steps policy scope visit) =
      visit.declared (forest.placed place) := by
  induction unfolds generalizing place visit with
  | nil => cases visit with
    | full declaring => cases declaring <;> rfl
    | inside => rfl
  | @node label inner rest others unfolded _ below right =>
      have next := scope_after place label
      have behind := scope_behind label inner place
      have inRest := right parts.tail (inner.foldl Place.after (place.after label)) visit (by omega)
      have entered : Step.declaredIn scope
          (entering policy scope ⟨label, place⟩ (inner.placed (place.after label))) = [] := by
        cases opens : label.opens? with
        | none =>
            -- The parts stand in the same scope, but none of them is a declaration.
            rw [entering_of_closed policy opens,
              below label.allParts_inside _ (.full true) (by omega)]
            apply List.filterMap_eq_nil_iff.mpr
            intro root member
            have inside : root.node ∈ label.inside := by
              rw [← unfolded.roots_eq, ← map_node_roots_placed inner (place.after label)]
              exact List.mem_map_of_mem member
            cases declares : root.node with
            | declaration declared =>
                exact absurd (declares ▸ inside)
                  (Node.declaration_notMem_inside (parts label List.mem_cons_self) opens declared)
            | program _ | block _ | statement _ | arm _ | expression _ =>
                simp [Entry.declared?, declares, Node.declaration?]
        | some kind =>
            have outside : scope ≠ place.scope := by omega
            rw [entering_of_opens policy opens, Step.declaredIn_cons,
              declaredIn_innerSteps_other policy inner kind outside (by omega)]
            rfl
      rw [placed, Visit.declared_node visit scope, ← inRest, steps_node, Step.declaredIn_append,
        Step.declaredIn_append, entered, List.nil_append]

/-- The scope of an opener receives its level. -/
theorem declaredIn_innerSteps_own {starting : List Node} {forest : Forest Node}
    (unfolds : forest.Unfolds Node.inside starting)
    (parts : Node.AllParts starting) {place : Place} {inner : Nat}
    (kind : ScopeKind) (before : inner < place.scope) :
    Step.declaredIn inner (innerSteps policy inner kind (forest.placed place)) =
      if policy.declaresIn kind then (forest.placed place).declared else [] := by
  rw [innerSteps, Step.declaredIn_append, Entry.declaredIn_flatMap_announce,
    declaredIn_own policy unfolds parts place _ before, Visit.ofKind]
  cases kind.announcesFirst with
  | true => simp [Visit.outstanding, Visit.declared, declared]
  | false => cases policy.declaresIn kind <;> simp [Visit.declared]

/-! ## The scopes of the openers -/

/-- **The scope of every opener receives its level**, and nothing else. -/
theorem declaredIn_opener {starting : List Node} {forest : Forest Node}
    (unfolds : forest.Unfolds Node.inside starting) (parts : Node.AllParts starting)
    {place : Place} (scope : Nat) (visit : Visit) (before : scope < place.scope) {opener : Opener}
    (member : opener ∈ (forest.placed place).openers) :
    place.scope ≤ opener.number ∧ opener.number < place.scope + forest.openerCount ∧
      Step.declaredIn opener.number ((forest.placed place).steps policy scope visit) =
        opener.level policy := by
  induction unfolds generalizing place scope visit with
  | nil => cases member
  | @node label inner rest others unfolded _ below right =>
      have next := scope_after place label
      have behind := scope_behind label inner place
      have inParts := label.allParts_inside
      rw [placed, openers] at member
      rw [openerCount_node]
      rcases List.mem_append.mp member with isRoot | further
      · -- The root itself receives its level from its parts.
        split at isRoot
        next opens =>
          obtain rfl := List.mem_singleton.mp isRoot
          obtain ⟨kind, isKind⟩ := Option.isSome_iff_exists.mp opens
          have here : Opener.number ⟨⟨label, place⟩, inner.placed (place.after label)⟩ =
              place.scope :=
            rfl
          simp only [isKind, Option.isSome_some, if_true] at next behind ⊢
          refine ⟨by omega, by omega, ?_⟩
          rw [declaredIn_node_inside policy label inner rest visit (by omega) (by omega),
            entering_of_opens policy isKind, Step.declaredIn_cons, here,
            declaredIn_innerSteps_own policy unfolded inParts kind (by omega)]
          simp only [Opener.level, isKind]
          rfl
        · cases isRoot
      rcases List.mem_append.mp further with inside | beside
      · cases opens : label.opens? with
        | none =>
            simp only [opens, Option.isSome_none, Bool.false_eq_true, if_false] at next behind ⊢
            obtain ⟨lower, upper, level⟩ := below inParts scope (.full true) (by omega) inside
            refine ⟨by omega, by omega, ?_⟩
            rw [declaredIn_node_inside policy label inner rest visit (by omega) (by omega),
              entering_of_closed policy opens, level]
        | some kind =>
            simp only [opens, Option.isSome_some, if_true] at next behind ⊢
            obtain ⟨lower, upper, level⟩ :=
              below inParts place.scope (.ofKind policy kind) (by omega) inside
            have deeper : place.scope ≠ opener.number := by omega
            refine ⟨by omega, by omega, ?_⟩
            rw [declaredIn_node_inside policy label inner rest visit (by omega) (by omega),
              entering_of_opens policy opens, Step.declaredIn_cons, innerSteps,
              Step.declaredIn_append, Entry.declaredIn_flatMap_announce,
              if_neg fun here => deeper here.1, level]
            rfl
      · obtain ⟨lower, upper, level⟩ := right parts.tail scope visit (by omega) beside
        refine ⟨by omega, by omega, ?_⟩
        rw [declaredIn_node_beside policy label inner rest visit (by omega) (by omega), level]

end Forest

/-! ## The levels of a program -/

namespace Program

variable (policy : BindingPolicy) (program : Program)

/-- The nodes of the top-level declarations, with everything inside of them. -/
def contents (program : Program) : Forest Node :=
  Declaration.nodesList program.declarations .nil

theorem unfolds_contents : program.contents.Unfolds Node.inside (Node.program program).inside := by
  cases program.unfolds_nodes with
  | node contents _ => exact contents

/-- Binding a program binds the program itself and goes through its contents. -/
theorem steps_eq :
    program.steps policy =
      .bind program.id 0 ::
        (program.contents.placed (Place.start 0)).steps policy 0 (.full true) := by
  simp [steps, outline, outlineIn, nodes, Forest.placed, Forest.steps, Entry.opens?, Node.opens?,
    Visit.announce, Entry.announce, Entry.declared?, Node.declaration?, Entry.id, Node.id,
    Place.after, contents]

theorem topLevel_eq :
    program.topLevel = (program.contents.placed (Place.start 0)).declared :=
  rfl

/-- **The global scope receives the top-level declarations.** -/
theorem declaredIn_steps_root :
    Step.declaredIn ScopeTree.root (program.steps policy) = program.topLevel := by
  have own := Forest.declaredIn_own policy program.unfolds_contents
    (Node.allParts_inside _) (Place.start 0) (.full true) Nat.zero_lt_one
  rw [steps_eq, Step.declaredIn_cons, Step.declaredIn?, Option.toList_none, List.nil_append,
    topLevel_eq]
  exact own

/-- The openers in a program are those in its contents. -/
theorem openers_outline :
    program.outline.openers = (program.contents.placed (Place.start 0)).openers := by
  simp [outline, outlineIn, nodes, Forest.placed, Forest.openers, Node.opens?,
    Node.declaration?, Place.after, contents]

/-- **The scope of every opener receives the level of the opener.** -/
theorem declaredIn_steps_of_mem_openers {opener : Opener}
    (member : opener ∈ program.outline.openers) :
    Step.declaredIn opener.number (program.steps policy) = opener.level policy := by
  rw [openers_outline] at member
  have own := Forest.declaredIn_opener policy program.unfolds_contents
    (Node.allParts_inside _) 0 (.full true) Nat.zero_lt_one member
  rw [steps_eq, Step.declaredIn_cons, Step.declaredIn?, Option.toList_none, List.nil_append]
  exact own.2.2

/-- The scope of every opener around a node receives the level of the opener. -/
theorem declaredIn_steps_opener {occurrence : Occurrence}
    (occurs : occurrence ∈ program.occurrences) {opener : Opener}
    (around : opener ∈ occurrence.around) :
    Step.declaredIn opener.number (program.steps policy) = opener.level policy := by
  refine program.declaredIn_steps_of_mem_openers policy ?_
  exact (Forest.mem_openers_of_mem_around occurs around).resolve_left List.not_mem_nil

/-- Only declarations of the program are entered. -/
theorem mem_declared_of_mem_declaredIn {number : Nat} {declared : Declared}
    (member : declared ∈ Step.declaredIn number (program.steps policy)) :
    declared ∈ program.declared :=
  program.outline.mem_of_mem_declaredIn policy member

end Program

end DecafScopes
