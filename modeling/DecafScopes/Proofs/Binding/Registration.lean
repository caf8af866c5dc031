import Mathlib.Data.List.Basic
import Mathlib.Data.List.Find
import Mathlib.Data.List.Induction
import DecafScopes.Scope.Diagnostic
import DecafScopes.Scope.Policy
import DecafScopes.Syntax.Program

/-!
# Registrations and refusals

A registration enters a declaration into a scope.  What a sequence of
registrations leads to is said here without any table: at every moment the
declaration that stands for a name in a scope is the last one registered there
under the name, or the first one, and a registration is refused if one stands
there already.  It makes no difference how the scopes are called
(`Redeclaration.refusals_map`).
-/

set_option autoImplicit false

namespace DecafScopes

/-- The entry of a declaration into a scope, which is known by a key of any
sort. -/
structure Registration (κ : Type) where
  scope : κ
  declaration : Declaration

namespace Registration

/-- Calls the scope of a registration by another key. -/
def map {κ μ : Type} (rename : κ → μ) (registration : Registration κ) : Registration μ :=
  ⟨rename registration.scope, registration.declaration⟩

/-- Whether a registration is in a scope and under a name. -/
def isFor {κ : Type} [DecidableEq κ] (scope : κ) (name : String)
    (registration : Registration κ) : Bool :=
  decide (registration.scope = scope) && registration.declaration.name == name

end Registration

namespace Redeclaration

variable {κ μ : Type} [DecidableEq κ] [DecidableEq μ]

/-- The registration that stands for a name in a scope after `earlier` ones: the
nearest of them, or the first. -/
def standing? (redeclaration : Redeclaration) (scope : κ) (name : String)
    (earlier : List (Registration κ)) : Option (Registration κ) :=
  match redeclaration with
  | .lastWins => earlier.reverse.find? (·.isFor scope name)
  | .firstWins => earlier.find? (·.isFor scope name)

/-- The diagnostic about a registration that comes after `earlier` ones, if
another one stands for its name in its scope. -/
def refusal? (redeclaration : Redeclaration) (earlier : List (Registration κ))
    (new : Registration κ) : Option Diagnostic :=
  (redeclaration.standing? new.scope new.declaration.name earlier).map fun previous =>
    .redeclared new.declaration.name new.declaration.span previous.declaration.span

/-- The registrations that are refused when registrations are made one after the
other, each with the diagnostic about it. -/
def raised (redeclaration : Redeclaration) (registrations : List (Registration κ)) :
    List (Registration κ × Diagnostic) :=
  registrations.zipIdx.filterMap fun (new, index) =>
    (redeclaration.refusal? (registrations.take index) new).map (new, ·)

/-- The diagnostics about registrations that are made one after the other. -/
def refusals (redeclaration : Redeclaration) (registrations : List (Registration κ)) :
    List Diagnostic :=
  registrations.zipIdx.filterMap fun (new, index) =>
    redeclaration.refusal? (registrations.take index) new

/-- A registration stands for a name in a scope if there is one. -/
theorem isSome_standing?_iff (redeclaration : Redeclaration) {scope : κ} {name : String}
    {registrations : List (Registration κ)} :
    (redeclaration.standing? scope name registrations).isSome ↔
      ∃ registration ∈ registrations,
        registration.scope = scope ∧ registration.declaration.name = name := by
  cases redeclaration <;> simp [standing?, Registration.isFor]

/-! ## One more registration -/

theorem standing?_concat (redeclaration : Redeclaration) (scope : κ) (name : String)
    (earlier : List (Registration κ)) (new : Registration κ) :
    redeclaration.standing? scope name (earlier ++ [new]) =
      if new.isFor scope name then
        match redeclaration with
        | .lastWins => some new
        | .firstWins => (redeclaration.standing? scope name earlier).or (some new)
      else redeclaration.standing? scope name earlier := by
  cases redeclaration with
  | lastWins =>
      simp only [standing?, List.reverse_append, List.reverse_singleton, List.singleton_append,
        List.find?_cons]
      split
      next here => rw [if_pos here]
      next other => rw [if_neg (Bool.not_eq_true _ ▸ other)]
  | firstWins =>
      simp only [standing?, List.find?_append, List.find?_singleton]
      split
      · rfl
      · exact Option.or_none

/-- The diagnostics are those that have been raised. -/
theorem map_snd_raised (redeclaration : Redeclaration) (registrations : List (Registration κ)) :
    (redeclaration.raised registrations).map Prod.snd = redeclaration.refusals registrations := by
  rw [raised, refusals, List.map_filterMap]
  apply List.filterMap_congr
  intro indexed _
  rw [Option.map_map]
  exact Option.map_id'

/-- What has been refused before stays refused, and the new registration is refused
as well or not. -/
theorem raised_concat (redeclaration : Redeclaration) (earlier : List (Registration κ))
    (new : Registration κ) :
    redeclaration.raised (earlier ++ [new]) =
      redeclaration.raised earlier ++
        ((redeclaration.refusal? earlier new).map (new, ·)).toList := by
  have before : earlier.zipIdx.filterMap (fun (old, index) =>
      (redeclaration.refusal? ((earlier ++ [new]).take index) old).map (old, ·)) =
      redeclaration.raised earlier := by
    apply List.filterMap_congr
    rintro ⟨old, index⟩ member
    have bound := (List.mem_zipIdx' member).1
    simp only [List.take_append_of_le_length (Nat.le_of_lt bound)]
  rw [raised, List.zipIdx_append, List.filterMap_append, before]
  simp only [Nat.zero_add, List.zipIdx_singleton, List.filterMap_cons, List.filterMap_nil,
    List.take_left]
  cases redeclaration.refusal? earlier new <;> rfl

/-- The new registration adds its own diagnostic. -/
theorem refusals_concat (redeclaration : Redeclaration) (earlier : List (Registration κ))
    (new : Registration κ) :
    redeclaration.refusals (earlier ++ [new]) =
      redeclaration.refusals earlier ++ (redeclaration.refusal? earlier new).toList := by
  rw [← map_snd_raised, ← map_snd_raised, raised_concat, List.map_append]
  cases redeclaration.refusal? earlier new <;> rfl

/-! ## Scopes under other keys -/

section Rename

variable {rename : κ → μ} {registrations : List (Registration κ)}

theorem standing?_map (redeclaration : Redeclaration) {scope : κ} (name : String)
    (distinct : ∀ registration ∈ registrations,
      rename registration.scope = rename scope → registration.scope = scope) :
    redeclaration.standing? (rename scope) name (registrations.map (·.map rename)) =
      (redeclaration.standing? scope name registrations).map (·.map rename) := by
  have same : ∀ registration ∈ registrations,
      (registration.map rename).isFor (rename scope) name = registration.isFor scope name := by
    intro registration member
    have agree : decide ((registration.map rename).scope = rename scope) =
        decide (registration.scope = scope) :=
      decide_eq_decide.mpr ⟨distinct registration member, congrArg rename⟩
    unfold Registration.isFor
    rw [agree]
    rfl
  cases redeclaration with
  | lastWins =>
      simp only [standing?, ← List.map_reverse, List.find?_map]
      congr 1
      exact List.find?_congr fun registration member => same _ (List.mem_reverse.mp member)
  | firstWins =>
      simp only [standing?, List.find?_map]
      congr 1
      exact List.find?_congr same

/-- **What is refused does not depend on how the scopes are called**, as long as
different scopes are called differently. -/
theorem refusals_map (redeclaration : Redeclaration)
    (distinct : ∀ first ∈ registrations, ∀ second ∈ registrations,
      rename first.scope = rename second.scope → first.scope = second.scope) :
    redeclaration.refusals (registrations.map (·.map rename)) =
      redeclaration.refusals registrations := by
  induction registrations using List.reverseRecOn with
  | nil => rfl
  | append_singleton earlier new ih =>
      have among : ∀ registration ∈ earlier, registration ∈ earlier ++ [new] :=
        fun _ member => List.mem_append_left _ member
      have last : new ∈ earlier ++ [new] := List.mem_append_right _ (List.mem_singleton_self new)
      have refused : redeclaration.refusal? (earlier.map (·.map rename)) (new.map rename) =
          redeclaration.refusal? earlier new := by
        rw [refusal?, Registration.map,
          standing?_map redeclaration _ fun old member => distinct old (among old member) new last,
          Option.map_map]
        rfl
      rw [List.map_append, List.map_singleton, refusals_concat, refusals_concat, refused,
        ih fun first member second member' =>
          distinct first (among first member) second (among second member')]

end Rename

end Redeclaration

end DecafScopes
