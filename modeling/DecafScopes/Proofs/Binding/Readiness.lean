import DecafScopes.Proofs.Binding.Plan

/-!
# The steps use only what is there

A step that binds a node, enters a declaration or opens a scope presupposes a
scope, and only a node that has been bound opens one.  Going through an outline
respects this (`Forest.allGrounded_steps`): each scope gets the number that the
outline has for its opener, because as many scopes are open by then as there are
openers before it.
-/

set_option autoImplicit false

namespace DecafScopes

/-! ## Announcements -/

namespace Entry

/-- Announcing a node uses only the scope that it is announced in. -/
theorem allGrounded_announce {number : Nat} {before : List Step}
    (inside : number ≤ (Step.openings before).length) (declaring : Bool) (entry : Entry) :
    Step.AllGrounded before (entry.announce number declaring) := by
  have bound : number ≤ (Step.openings (before ++ [.bind entry.id number])).length := by
    simpa using inside
  unfold announce
  cases entry.declared? with
  | none => exact ⟨inside, trivial⟩
  | some declared =>
      cases declaring with
      | false => exact ⟨inside, trivial⟩
      | true => exact ⟨inside, bound, trivial⟩

theorem allGrounded_flatMap_announce {number : Nat} {before : List Step}
    (inside : number ≤ (Step.openings before).length) (declaring : Bool) (entries : List Entry) :
    Step.AllGrounded before (entries.flatMap (announce number declaring)) := by
  induction entries generalizing before with
  | nil => trivial
  | cons entry others ih =>
      rw [List.flatMap_cons, Step.allGrounded_append]
      exact ⟨allGrounded_announce inside declaring entry, ih (by simpa using inside)⟩

end Entry

theorem Visit.allGrounded_announce {scope : Nat} {before : List Step}
    (inside : scope ≤ (Step.openings before).length) (visit : Visit) (entry : Entry) :
    Step.AllGrounded before (visit.announce scope entry) := by
  cases visit with
  | full declaring => exact entry.allGrounded_announce inside declaring
  | inside => trivial

namespace Forest

variable (policy : BindingPolicy)

/-! ## What going through a forest presupposes -/

/-- What holds before a forest at a given place is gone through: as many scopes are
open as there are numbers before the place, the scope in which the roots stand is
one of them, and the nodes that count as announced are bound and have not opened a
scope. -/
structure Ready (before : List Step) (place : Place) (outer : List Opener)
    (announced : List Entry) : Prop where
  numbered : place.scope = (Step.openings before).length + 1
  inside : scopeInside outer ≤ (Step.openings before).length
  free : ∀ node, (Step.openers before).count node + (announced.map Entry.id).count node ≤
    (Step.bound before).count node

namespace Ready

variable {before : List Step} {place : Place} {outer : List Opener} {entry : Entry}
  {later : List Entry}

theorem initial : Ready [] (Place.start 0) [] [] where
  numbered := rfl
  inside := Nat.le_refl 0
  free _ := Nat.le_refl 0

/-- Fewer nodes may count as announced. -/
theorem forget (ready : Ready before place outer (entry :: later)) :
    Ready before place outer [] where
  numbered := ready.numbered
  inside := ready.inside
  free node := (Nat.le_add_right _ _).trans (ready.free node)

theorem count_first (ready : Ready before place outer (entry :: later)) (node : NodeId) :
    (Step.openers before).count node + [entry.id].count node + (later.map Entry.id).count node ≤
      (Step.bound before).count node := by
  have enough := ready.free node
  rw [List.map_cons, ← List.singleton_append, List.count_append, ← Nat.add_assoc] at enough
  exact enough

/-- Once the first root has been announced, it counts as announced. -/
theorem announce {visit : Visit} {parts rest : Forest Entry}
    (ready : Ready before place outer (visit.outstanding (.node entry parts rest))) :
    Ready (before ++ visit.announce (scopeInside outer) entry) place outer
      (entry :: visit.outstanding rest) where
  numbered := by simpa using ready.numbered
  inside := by simpa using ready.inside
  free node := by
    have enough := ready.free node
    have once := visit.count_bound_announce (scopeInside outer) entry parts rest node
    rw [Step.openers_append, Visit.openers_announce, List.append_nil, Step.bound_append,
      List.count_append, List.map_cons, ← List.singleton_append, List.count_append]
    omega

/-- A node that has been announced can open a scope, and then its parts can be
gone through. -/
theorem opened {label : Node} (ready : Ready before place outer (⟨label, place⟩ :: later))
    {kind : ScopeKind} (opens : label.opens? = some kind) (parts : Forest Entry) :
    Step.Grounded before (.openScope (scopeInside outer) label.id kind
        (Entry.declared? ⟨label, place⟩)) ∧
      Ready (before ++ [.openScope (scopeInside outer) label.id kind
          (Entry.declared? ⟨label, place⟩)] ++
          ((Visit.ofKind policy kind).outstanding parts).flatMap
            (Entry.announce place.scope (policy.declaresIn kind)))
        (place.after label) [⟨⟨label, place⟩, parts⟩]
        ((Visit.ofKind policy kind).outstanding parts) := by
  have next := scope_after place label
  rw [opens, Option.isSome_some, if_pos rfl] at next
  have numbered := ready.numbered
  refine ⟨⟨ready.inside, ?grounded⟩, ?numbered, ?inside, ?free⟩
  case grounded =>
    have enough := ready.count_first label.id
    have itself : [Entry.id ⟨label, place⟩].count label.id = 1 := List.count_singleton_self
    omega
  case numbered =>
    simp only [Step.openings_append, Entry.openings_flatMap_announce, List.append_nil,
      List.length_append, Step.openings_cons, Step.opening?, Option.toList_some,
      Step.openings_nil, List.length_singleton]
    omega
  case inside =>
    simp only [scopeInside, Opener.number, Step.openings_append, Entry.openings_flatMap_announce,
      List.append_nil, List.length_append, Step.openings_cons, Step.opening?, Option.toList_some,
      Step.openings_nil, List.length_singleton]
    omega
  case free =>
    intro node
    have enough := ready.count_first node
    have itself : [Entry.id ⟨label, place⟩].count node = [label.id].count node := rfl
    simp only [Step.openers_append, Step.bound_append, Entry.openers_flatMap_announce,
      Entry.bound_flatMap_announce, Step.openers_singleton, Step.bound_singleton, Step.opening?,
      Step.binding?, Option.toList_some, Option.toList_none, List.map_cons, List.map_nil,
      List.append_nil, List.count_append]
    omega

/-- Once the first tree has been gone through, the others can be. -/
theorem entered {label : Node} {parts : Forest Node}
    (ready : Ready before place outer (⟨label, place⟩ :: later)) :
    Ready (before ++ entering policy (scopeInside outer) ⟨label, place⟩
        (parts.placed (place.after label)))
      (parts.foldl Place.after (place.after label)) outer later where
  numbered := by
    have opened := length_openings_entering policy label parts place outer
    have numbered := ready.numbered
    rw [Step.openings_append, List.length_append]
    omega
  inside := by
    rw [Step.openings_append, List.length_append]
    exact ready.inside.trans (Nat.le_add_right _ _)
  free node := by
    have enough := ready.count_first node
    have paid := count_openers_entering_le policy ⟨label, place⟩
      (parts.placed (place.after label)) outer node
    rw [Step.openers_append, Step.bound_append, List.count_append, List.count_append]
    omega

end Ready

/-! ## Every step uses only what is there -/

/-- **Every step uses only what the steps before it have made.**  The numbers in
the outline agree with the number of scopes that are open when they are used. -/
theorem allGrounded_steps (forest : Forest Node) (visit : Visit) {before : List Step}
    {place : Place} {outer : List Opener}
    (ready : Ready before place outer (visit.outstanding (forest.placed place))) :
    Step.AllGrounded before ((forest.placed place).steps policy (scopeInside outer) visit) := by
  induction forest generalizing before place outer visit with
  | nil => trivial
  | node label parts rest below right =>
      rw [placed] at ready ⊢
      rw [steps_node, Step.allGrounded_append, Step.allGrounded_append]
      -- Readiness passes from the announcement into the parts and on to the rest.
      refine ⟨visit.allGrounded_announce ready.inside ⟨label, place⟩, ?_,
        right visit (ready.announce.entered policy)⟩
      cases opens : label.opens? with
      | none =>
          have next := scope_after place label
          rw [opens, Option.isSome_none, if_neg Bool.false_ne_true, Nat.add_zero] at next
          rw [entering_of_closed policy opens]
          refine below _ ⟨?_, ready.announce.inside, ready.announce.forget.free⟩
          rw [next]
          exact ready.announce.numbered
      | some kind =>
          obtain ⟨grounded, inParts⟩ :=
            ready.announce.opened policy opens (parts.placed (place.after label))
          rw [entering_of_opens policy opens, Step.AllGrounded, innerSteps,
            Step.allGrounded_append]
          refine ⟨grounded, ?_, below _ inParts⟩
          apply Entry.allGrounded_flatMap_announce
          simpa [scopeInside, Opener.number] using inParts.inside

end Forest

end DecafScopes
