import DecafScopes.Binding.Pass
import DecafScopes.Proofs.Outline.Translation
import DecafScopes.Proofs.Scope.Likeness

/-!
# Binding programs that correspond

The steps of binding a program follow from its outline.  Programs that correspond have
outlines that are alike, and so their steps correspond one by one.  Each step leads from
trees that are alike to such trees, or fails in both; hence binding the two programs
leads to trees that are alike, or fails with the same fault up to the renaming
(`Translation.bind_alike`).
-/

set_option autoImplicit false

namespace DecafScopes

namespace Translation

variable {translation : Translation}

/-! ## Steps that correspond -/

/-- Steps that do the same for nodes that correspond. -/
inductive RelatesStep (translation : Translation) : Step → Step → Prop where
  | bind (node : NodeId) (scope : Nat) :
      RelatesStep translation (.bind node scope) (.bind (translation.node node) scope)
  | declare (scope : Nat) {declared declared' : Declared} :
      translation.RelatesDeclared declared declared' →
        RelatesStep translation (.declare scope declared) (.declare scope declared')
  | openScope (parent : Nat) (opener : NodeId) (kind : ScopeKind)
      {owner owner' : Option Declared} : Option.Rel translation.RelatesDeclared owner owner' →
        RelatesStep translation (.openScope parent opener kind owner)
          (.openScope parent (translation.node opener) kind owner')

theorem id_entry {first second : Entry} (related : translation.RelatesEntry first second) :
    second.id = translation.node first.id :=
  translation.id_eq related.1

theorem forall₂_announce {entry entry' : Entry} (related : translation.RelatesEntry entry entry')
    (scope : Nat) (declaring : Bool) :
    List.Forall₂ translation.RelatesStep (entry.announce scope declaring)
      (entry'.announce scope declaring) := by
  rw [Entry.announce, Entry.announce, id_entry related]
  refine .cons (.bind entry.id scope) ?_
  have declares := rel_declared? related
  generalize entry.declared? = found, entry'.declared? = found' at declares
  cases declares with
  | none => exact .nil
  | some here =>
      cases declaring with
      | false => exact .nil
      | true => exact .cons (.declare scope here) .nil

theorem forall₂_announce_visit {entry entry' : Entry}
    (related : translation.RelatesEntry entry entry') (visit : Visit) (scope : Nat) :
    List.Forall₂ translation.RelatesStep (visit.announce scope entry)
      (visit.announce scope entry') := by
  cases visit with
  | full declaring => exact forall₂_announce related scope declaring
  | inside => exact .nil

/-- **Forests that are alike are gone through in steps that correspond.** -/
theorem forall₂_steps (policy : BindingPolicy) {forest forest' : Forest Entry}
    (alike : forest.Alike translation.RelatesEntry forest') (scope : Nat) (visit : Visit) :
    List.Forall₂ translation.RelatesStep (forest.steps policy scope visit)
      (forest'.steps policy scope visit) := by
  induction alike generalizing scope visit with
  | nil => exact .nil
  | @node entry entry' parts rest parts' rest' related inParts _ below right =>
      rw [Forest.steps, Forest.steps]
      refine List.rel_append (List.rel_append (forall₂_announce_visit related visit scope) ?_)
        (right scope visit)
      rw [opens?_entry related]
      cases entry.opens? with
      | none => exact below scope (.full true)
      | some opening =>
          obtain ⟨number, kind⟩ := opening
          dsimp only
          rw [id_entry related]
          refine .cons (.openScope scope entry.id kind (rel_declared? related)) ?_
          split
          · have announced := List.rel_flatMap inParts.roots fun _ _ here =>
              forall₂_announce here number (policy.declaresIn kind)
            exact List.rel_append announced (below number .inside)
          · exact below number (.full (policy.declaresIn kind))

/-! ## Runs that correspond -/

/-- Trees that are alike up to a translation. -/
def AlikeTrees (translation : Translation) : ScopeTree → ScopeTree → Prop :=
  ScopeTree.Alike translation.toRenaming translation.RelatesDeclared

/-- States of a run whose trees are alike. -/
def AlikeStates (translation : Translation) (state state' : LoggedTree) : Prop :=
  translation.AlikeTrees state.tree state'.tree

/-- **Steps that correspond lead from trees that are alike to such trees**, or fail in
both. -/
theorem perform_alike (redeclaration : Redeclaration) (state state' : LoggedTree)
    (step step' : Step) (alike : translation.AlikeStates state state')
    (related : translation.RelatesStep step step') :
    OutcomesAlike (Fault.rename translation.toRenaming) translation.AlikeStates
      (state.perform redeclaration step) (state'.perform redeclaration step') := by
  cases related with
  | bind node scope => exact (alike.bind node scope).bind fun _ _ next => .ok next
  | openScope parent opener kind owners =>
      exact (alike.openScope parent opener kind owners).bind fun _ _ opened => .ok opened.2
  | @declare scope declared declared' here =>
      have declares := alike.declare scope declared.name here redeclaration
      rw [← show declared'.name = translation.name declared.name from translation.name_eq here.1]
        at declares
      refine declares.bind ?_
      rintro ⟨refusal, tree⟩ ⟨refusal', tree'⟩ ⟨refused, next⟩
      cases refused with
      | none => exact .ok next
      | some same => exact .ok (next.report same)

/-- Runs of steps that correspond lead to trees that are alike, or fail alike. -/
theorem performAll_alike (redeclaration : Redeclaration) {steps steps' : List Step}
    (related : List.Forall₂ translation.RelatesStep steps steps') {state state' : LoggedTree}
    (alike : translation.AlikeStates state state') :
    OutcomesAlike (Fault.rename translation.toRenaming) translation.AlikeStates
      (state.performAll redeclaration steps) (state'.performAll redeclaration steps') :=
  .foldlM (perform_alike redeclaration) related alike

/-- **Binding programs that correspond leads to trees that are alike**, or fails with
the same fault up to the renaming. -/
theorem bind_alike (policy : BindingPolicy) {program program' : Program}
    (related : translation.Relates (.program program) (.program program')) :
    OutcomesAlike (Fault.rename translation.toRenaming) translation.AlikeTrees
      (program.bind policy) (program'.bind policy) := by
  have steps := forall₂_steps policy (alike_outline related) ScopeTree.root (.full true)
  have started : translation.AlikeStates .initial .initial := ScopeTree.Alike.initial
  have performed := performAll_alike policy.redeclaration steps started
  have finished : OutcomesAlike (Fault.rename translation.toRenaming) translation.AlikeStates
      (program.bindLogged policy) (program'.bindLogged policy) :=
    performed.map fun _ _ alike => alike
  exact finished.map fun _ _ alike => alike

end Translation

end DecafScopes
