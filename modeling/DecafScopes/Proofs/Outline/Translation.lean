import Mathlib.Data.List.Forall2
import DecafScopes.Outline.Place
import DecafScopes.Proofs.Outline.Renaming

/-!
# Programs that correspond node by node

Two programs can be compared node by node when they have the same shape.  A translation
says which nodes correspond, and it commits to no more than is needed to bind them:
identities and declared names are renamed, the same nodes open scopes of the same kinds,
and what is directly inside of nodes that correspond does so too, one by one.  Whatever
else the nodes say may differ.

The outlines of programs that correspond are alike (`Translation.alike_outline`): they
have the same shape, and nodes that correspond are at the same places.
-/

set_option autoImplicit false

namespace DecafScopes

/-! ## Forests of the same shape -/

/-- Forests of one shape, with related labels at the same places. -/
inductive Forest.Alike {α β : Type} (relates : α → β → Prop) : Forest α → Forest β → Prop where
  | nil : Alike relates .nil .nil
  | node {label : α} {label' : β} {parts rest : Forest α} {parts' rest' : Forest β} :
      relates label label' → Alike relates parts parts' → Alike relates rest rest' →
        Alike relates (.node label parts rest) (.node label' parts' rest')

namespace Forest.Alike

theorem roots {α β : Type} {relates : α → β → Prop} {forest : Forest α} {forest' : Forest β}
    (alike : forest.Alike relates forest') : List.Forall₂ relates forest.roots forest'.roots := by
  induction alike with
  | nil => exact .nil
  | node here _ _ _ right => exact .cons here right

theorem labels {α β : Type} {relates : α → β → Prop} {forest : Forest α} {forest' : Forest β}
    (alike : forest.Alike relates forest') :
    List.Forall₂ relates forest.labels forest'.labels := by
  induction alike with
  | nil => exact .nil
  | node here _ _ below right => exact .cons here (List.rel_append below right)

/-- Forests are alike if they unfold related roots and what is inside of related nodes is
related. -/
theorem of_unfolds {α β : Type} {relates : α → β → Prop} {inside : α → List α}
    {inside' : β → List β}
    (within : ∀ label label', relates label label' →
      List.Forall₂ relates (inside label) (inside' label'))
    {starting : List α} {starting' : List β} {forest : Forest α} {forest' : Forest β}
    (unfolds : forest.Unfolds inside starting) (unfolds' : forest'.Unfolds inside' starting')
    (related : List.Forall₂ relates starting starting') : forest.Alike relates forest' := by
  induction unfolds generalizing starting' forest' with
  | nil =>
      cases related
      cases unfolds'
      exact .nil
  | node _ _ below right =>
      cases related with
      | cons here others =>
          cases unfolds' with
          | node below' right' =>
              exact .node here (below below' (within _ _ here)) (right right' others)

end Forest.Alike

/-! ## Translations -/

/-- Which nodes of two programs correspond, when identities and names are renamed. -/
structure Translation extends Renaming where
  Relates : Node → Node → Prop
  id_eq : ∀ {first second : Node}, Relates first second → second.id = node first.id
  opens?_eq : ∀ {first second : Node}, Relates first second → second.opens? = first.opens?
  isSome_declaration?_eq : ∀ {first second : Node}, Relates first second →
    second.declaration?.isSome = first.declaration?.isSome
  name_eq : ∀ {first second : Declaration},
    Relates (.declaration first) (.declaration second) → second.name = name first.name
  forall₂_inside : ∀ {first second : Node}, Relates first second →
    List.Forall₂ Relates first.inside second.inside

namespace Translation

variable (translation : Translation)

/-- Nodes that correspond, at the same place. -/
def RelatesEntry (first second : Entry) : Prop :=
  translation.Relates first.node second.node ∧ second.place = first.place

/-- Declarations that correspond, at the same site. -/
def RelatesDeclared (first second : Declared) : Prop :=
  translation.Relates (.declaration first.declaration) (.declaration second.declaration) ∧
    second.site = first.site

variable {translation}

theorem rel_declared? {first second : Entry} (related : translation.RelatesEntry first second) :
    Option.Rel translation.RelatesDeclared first.declared? second.declared? := by
  obtain ⟨related, samePlace⟩ := related
  have same := translation.isSome_declaration?_eq related
  unfold Entry.declared?
  rw [samePlace]
  cases isFirst : first.node with
  | declaration declared =>
      rw [isFirst] at related same
      cases isSecond : second.node with
      | declaration declared' =>
          rw [isSecond] at related
          exact .some ⟨related, rfl⟩
      | program | block | statement | arm | expression =>
          rw [isSecond] at same
          cases same
  | program | block | statement | arm | expression =>
      rw [isFirst] at same
      cases isSecond : second.node with
      | declaration declared' =>
          rw [isSecond] at same
          cases same
      | program | block | statement | arm | expression => exact .none

theorem opens?_entry {first second : Entry} (related : translation.RelatesEntry first second) :
    second.opens? = first.opens? := by
  rw [Entry.opens?, Entry.opens?, translation.opens?_eq related.1, related.2]

/-! ## Places -/

theorem after_eq {first second : Node} (related : translation.Relates first second)
    (place : Place) : place.after second = place.after first := by
  rw [Place.after, Place.after, translation.opens?_eq related,
    translation.isSome_declaration?_eq related]

theorem foldl_after_eq {forest forest' : Forest Node}
    (alike : forest.Alike translation.Relates forest') (place : Place) :
    forest'.foldl Place.after place = forest.foldl Place.after place := by
  induction alike generalizing place with
  | nil => rfl
  | node related _ _ below right =>
      rw [Forest.foldl, Forest.foldl, after_eq related, below, right]

/-- Nodes that correspond get the same place. -/
theorem alike_placed {forest forest' : Forest Node}
    (alike : forest.Alike translation.Relates forest') (place : Place) :
    (forest.placed place).Alike translation.RelatesEntry (forest'.placed place) := by
  induction alike generalizing place with
  | nil => exact .nil
  | node related parts _ below right =>
      rw [Forest.placed, Forest.placed, after_eq related, foldl_after_eq parts]
      exact .node ⟨related, rfl⟩ (below _) (right _)

/-- **Programs that correspond have outlines that are alike.** -/
theorem alike_outline {program program' : Program}
    (related : translation.Relates (.program program) (.program program')) :
    program.outline.Alike translation.RelatesEntry program'.outline :=
  alike_placed (.of_unfolds (fun _ _ => translation.forall₂_inside) program.unfolds_nodes
    program'.unfolds_nodes (.cons related .nil)) (Place.start 0)

/-- The declarations of programs that correspond do so one by one, each at the site of
the other. -/
theorem forall₂_declared {program program' : Program}
    (related : translation.Relates (.program program) (.program program')) :
    List.Forall₂ translation.RelatesDeclared program.declared program'.declared :=
  List.rel_filterMap (fun _ _ here => rel_declared? here) (alike_outline related).labels

end Translation

namespace Renaming

/-- A renamed program corresponds to the original. -/
def translation (naming : Renaming) : Translation where
  toRenaming := naming
  Relates first second := second = first.rename naming
  id_eq {first second} related := by rw [related, Node.id_rename]
  opens?_eq {first second} related := by rw [related, Node.opens?_rename]
  isSome_declaration?_eq {first second} related := by
    rw [related, Node.declaration?_rename, Option.isSome_map]
  name_eq {first second} related := by
    rw [Node.rename, Node.declaration.injEq] at related
    rw [related, Declaration.name_rename]
  forall₂_inside {first second} related := by
    rw [related, Node.inside_rename, List.forall₂_map_right_iff]
    exact List.forall₂_same.mpr fun _ _ => rfl

end Renaming

end DecafScopes
