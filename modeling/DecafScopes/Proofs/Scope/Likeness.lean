import Mathlib.Data.List.Forall2
import Mathlib.Data.Set.Operations
import DecafScopes.Proofs.Outline.Renaming
import DecafScopes.Proofs.Scope.Calls
import DecafScopes.Proofs.Scope.Outward

/-!
# Scope trees that are alike

Scope trees are compared up to a renaming of identities and names, and up to which
declarations of the one correspond to which of the other.  Two trees are alike if they
have the same scopes, if they record the same about each identity and its image, and a
corresponding declaration under each name and its image, and if the second one records
nothing about what is no image (`ScopeTree.Alike`).

Every operation leads from alike trees to alike trees, or it fails in both with the same
fault up to the renaming.  In alike trees the ways outward go through the same scopes, so
that lookups find declarations that correspond (`ScopeTree.Alike.lookup?`).
-/

set_option autoImplicit false

namespace DecafScopes

/-! ## Related values -/

section Related

variable {α β γ δ : Type} {relates : α → β → Prop} {relates' : γ → δ → Prop}

theorem rel_map_option {first : Option α} {second : Option β}
    (related : Option.Rel relates first second) {f : α → γ} {g : β → δ}
    (kept : ∀ a b, relates a b → relates' (f a) (g b)) :
    Option.Rel relates' (first.map f) (second.map g) := by
  cases related with
  | none => exact .none
  | some here => exact .some (kept _ _ here)

/-- Values that are related as by a function are the values of the function. -/
theorem rel_eq_map_iff {f : α → β} {first : Option α} {second : Option β} :
    Option.Rel (fun a b => b = f a) first second ↔ second = first.map f := by
  constructor
  · intro related
    cases related with
    | none => rfl
    | some here => rw [here, Option.map_some]
  · rintro rfl
    cases first with
    | none => exact .none
    | some value => exact .some rfl

/-- The first answers that related lists give are related. -/
theorem rel_findSome? {list : List α} {list' : List β} (related : List.Forall₂ relates list list')
    {answer? : α → Option γ} {answer?' : β → Option δ}
    (kept : ∀ a b, relates a b → Option.Rel relates' (answer? a) (answer?' b)) :
    Option.Rel relates' (list.findSome? answer?) (list'.findSome? answer?') := by
  induction related with
  | nil => exact .none
  | cons here _ ih =>
      rw [List.findSome?_cons, List.findSome?_cons]
      have first := kept _ _ here
      generalize answer? _ = found, answer?' _ = found' at first
      cases first with
      | none => exact ih
      | some answers => exact .some answers

end Related

/-! ## Outcomes -/

/-- A fault that is about another identity. -/
def Fault.rename (naming : Renaming) : Fault → Fault
  | boundTwice node => boundTwice (naming.node node)
  | openedTwice node => openedTwice (naming.node node)
  | noSuchScope size number => noSuchScope size number
  | endlessWay number => endlessWay number

/-- Two outcomes are related values, or both are faults, of which one is the other up to
a change of what it is about. -/
inductive OutcomesAlike {α β : Type} (about : Fault → Fault) (relates : α → β → Prop) :
    Except Fault α → Except Fault β → Prop where
  | error (fault : Fault) : OutcomesAlike about relates (.error fault) (.error (about fault))
  | ok {first : α} {second : β} : relates first second →
      OutcomesAlike about relates (.ok first) (.ok second)

namespace OutcomesAlike

variable {α β γ δ σ τ : Type} {about : Fault → Fault} {relates : α → β → Prop}
  {relates' : γ → δ → Prop}

theorem bind {first : Except Fault α} {second : Except Fault β}
    (alike : OutcomesAlike about relates first second) {f : α → Except Fault γ}
    {g : β → Except Fault δ}
    (kept : ∀ a b, relates a b → OutcomesAlike about relates' (f a) (g b)) :
    OutcomesAlike about relates' (first >>= f) (second >>= g) := by
  cases alike with
  | error fault => exact .error fault
  | ok here => exact kept _ _ here

theorem map {first : Except Fault α} {second : Except Fault β}
    (alike : OutcomesAlike about relates first second) {f : α → γ} {g : β → δ}
    (kept : ∀ a b, relates a b → relates' (f a) (g b)) :
    OutcomesAlike about relates' (first.map f) (second.map g) := by
  cases alike with
  | error fault => exact .error fault
  | ok here => exact .ok (kept _ _ here)

/-- Runs of related steps from related states have outcomes that are alike if this holds
of every single step. -/
theorem foldlM {step : α → σ → Except Fault α} {step' : β → τ → Except Fault β}
    {similar : σ → τ → Prop}
    (single : ∀ state state' action action', relates state state' → similar action action' →
      OutcomesAlike about relates (step state action) (step' state' action'))
    {actions : List σ} {actions' : List τ} (same : List.Forall₂ similar actions actions')
    {state : α} {state' : β} (related : relates state state') :
    OutcomesAlike about relates (actions.foldlM step state) (actions'.foldlM step' state') := by
  induction same generalizing state state' with
  | nil => exact .ok related
  | cons here _ ih =>
      rw [List.foldlM_cons, List.foldlM_cons]
      exact (single _ _ _ _ related here).bind fun _ _ next => ih next

/-- If faults are the same and related values are those of a function, one outcome is the
image of the other. -/
theorem eq_map {f : α → β} {first : Except Fault α} {second : Except Fault β}
    (alike : OutcomesAlike id relates first second) (isImage : ∀ a b, relates a b → b = f a) :
    second = first.map f := by
  cases alike with
  | error fault => rfl
  | ok here => exact congrArg Except.ok (isImage _ _ here)

end OutcomesAlike

/-! ## Lookups under other keys -/

/-- What is found under a key corresponds to what is found under the image of the key,
and nothing is found under a key that is no image. -/
structure LookupsAlike {κ α β : Type} (image : κ → κ) (relates : α → β → Prop)
    (find? : κ → Option α) (find?' : κ → Option β) : Prop where
  rel : ∀ key, Option.Rel relates (find? key) (find?' (image key))
  eq_none : ∀ key, key ∉ Set.range image → find?' key = none

/-- Where nothing is found at all, nothing differs. -/
theorem LookupsAlike.of_nothing {κ α β : Type} {image : κ → κ} {relates : α → β → Prop}
    {find? : κ → Option α} {find?' : κ → Option β} (nothing : ∀ key, find? key = none)
    (nothing' : ∀ key, find?' key = none) : LookupsAlike image relates find? find?' where
  rel key := by
    rw [nothing, nothing']
    exact .none
  eq_none key _ := nothing' key

theorem LookupsAlike.insert {κ α β : Type} [DecidableEq κ] {image : κ → κ}
    {relates : α → β → Prop} {find? : κ → Option α} {find?' : κ → Option β}
    (alike : LookupsAlike image relates find? find?') (injective : Function.Injective image)
    (key : κ) {value : α} {value' : β} (related : relates value value') :
    LookupsAlike image relates (fun sought => if key = sought then some value else find? sought)
      (fun sought => if image key = sought then some value' else find?' sought) where
  rel sought := by
    simp only [injective.eq_iff]
    split
    · exact .some related
    · exact alike.rel sought
  eq_none sought absent := by
    have other : image key ≠ sought := by
      rintro rfl
      exact absent (Set.mem_range_self key)
    rw [if_neg other]
    exact alike.eq_none sought absent

theorem LookupsAlike.eq {κ α : Type} {image : κ → κ} {find? find?' : κ → Option α}
    (alike : LookupsAlike image Eq find? find?') (key : κ) : find?' (image key) = find? key := by
  have same := alike.rel key
  generalize find? key = found, find?' (image key) = found' at same
  cases same with
  | none => rfl
  | some here => rw [here]

/-! ## Trees -/

section Alike

variable (naming : Renaming) (relates : Declared → Declared → Prop)

/-- Corresponding declarations hold a name and its image. -/
def SymbolTable.Alike (table table' : SymbolTable) : Prop :=
  LookupsAlike naming.name relates table.find? table'.find?

/-- Scopes that differ in their openers, owners and tables, and these correspond. -/
structure Scope.Alike (scope scope' : Scope) : Prop where
  number_eq : scope'.number = scope.number
  kind_eq : scope'.kind = scope.kind
  parent?_eq : scope'.parent? = scope.parent?
  opener?_eq : scope'.opener? = scope.opener?.map naming.node
  children_eq : scope'.children = scope.children
  owner : Option.Rel relates scope.owner scope'.owner
  table : scope.table.Alike naming relates scope'.table

/-- Diagnostics about a name and its image, at the spans of corresponding declarations. -/
inductive Diagnostic.Alike : Diagnostic → Diagnostic → Prop where
  | redeclared (name : String) {declared declared' previous previous' : Declared} :
      relates declared declared' → relates previous previous' →
        Diagnostic.Alike (.redeclared name declared.span previous.span)
          (.redeclared (naming.name name) declared'.span previous'.span)

/-- Trees with the same scopes, in which the same is recorded about images. -/
structure ScopeTree.Alike (tree tree' : ScopeTree) : Prop where
  scopes : ∀ number : Nat,
    Option.Rel (Scope.Alike naming relates) tree.scopes[number]? tree'.scopes[number]?
  bindings : LookupsAlike naming.node Eq tree.scopeAround? tree'.scopeAround?
  openings : LookupsAlike naming.node Eq tree.openedBy? tree'.openedBy?
  bindingCount_eq : tree'.bindingCount = tree.bindingCount
  diagnostics : List.Forall₂ (Diagnostic.Alike naming relates) tree.diagnostics.toList
    tree'.diagnostics.toList

end Alike

variable {naming : Renaming} {relates : Declared → Declared → Prop}

theorem SymbolTable.Alike.empty : SymbolTable.empty.Alike naming relates .empty :=
  .of_nothing find?_empty find?_empty

theorem SymbolTable.Alike.add {table table' : SymbolTable}
    (alike : table.Alike naming relates table') (name : String) {declared declared' : Declared}
    (related : relates declared declared') :
    (table.add name declared).2.Alike naming relates
      (table'.add (naming.name name) declared').2 := by
  unfold SymbolTable.Alike
  rw [funext fun sought => table.find?_add name sought declared,
    funext fun sought => table'.find?_add (naming.name name) sought declared']
  exact LookupsAlike.insert alike naming.name_injective name related

namespace ScopeTree

/-- The trees with only the global scope are alike. -/
theorem Alike.initial : ScopeTree.initial.Alike naming relates .initial where
  scopes number := by
    cases number with
    | zero => exact .some ⟨rfl, rfl, rfl, rfl, rfl, .none, .empty⟩
    | succ index => exact .none
  bindings :=
    .of_nothing (fun _ => Std.TreeMap.getElem?_emptyc) (fun _ => Std.TreeMap.getElem?_emptyc)
  openings :=
    .of_nothing (fun _ => Std.TreeMap.getElem?_emptyc) (fun _ => Std.TreeMap.getElem?_emptyc)
  bindingCount_eq := rfl
  diagnostics := .nil

namespace Alike

variable {tree tree' : ScopeTree} (alike : tree.Alike naming relates tree')

include alike

/-- Trees that are alike have as many scopes. -/
theorem size_eq : tree'.size = tree.size := by
  have present (number : Nat) : number < tree'.size ↔ number < tree.size := by
    have same := alike.scopes number
    rw [ScopeTree.size, ScopeTree.size, ← not_iff_not, Nat.not_lt, Nat.not_lt,
      ← Array.getElem?_eq_none_iff, ← Array.getElem?_eq_none_iff]
    generalize tree.scopes[number]? = found, tree'.scopes[number]? = found' at same
    cases same with
    | none => exact Iff.rfl
    | some here => exact iff_of_false (Option.some_ne_none _) (Option.some_ne_none _)
  exact Nat.le_antisymm (Nat.not_lt.mp fun less => Nat.lt_irrefl _ ((present _).mp less))
    (Nat.not_lt.mp fun less => Nat.lt_irrefl _ ((present _).mpr less))

/-- The scopes under one number are alike, or there is none in either tree. -/
theorem scope (number : Nat) :
    OutcomesAlike id (Scope.Alike naming relates) (tree.scope number) (tree'.scope number) := by
  have same := alike.scopes number
  rw [ScopeTree.scope, ScopeTree.scope, alike.size_eq]
  generalize tree.scopes[number]? = found, tree'.scopes[number]? = found' at same
  cases same with
  | none => exact .error _
  | some here => exact .ok here

/-! ## Operations -/

theorem bind (node : NodeId) (number : Nat) :
    OutcomesAlike (Fault.rename naming) (ScopeTree.Alike naming relates)
      (tree.bind node number) (tree'.bind (naming.node node) number) := by
  have same := alike.bindings.eq node
  cases around : tree.scopeAround? node with
  | some other =>
      rw [around] at same
      rw [bind_eq_error (by rw [around, Option.isSome_some]),
        bind_eq_error (by rw [same, Option.isSome_some])]
      exact .error (.boundTwice node)
  | none =>
      rw [around] at same
      rw [bind_eq_ok around, bind_eq_ok same]
      refine .ok ⟨alike.scopes, ?_, alike.openings, ?_, alike.diagnostics⟩
      · rw [funext (scopeAround?_insert node number),
          funext (scopeAround?_insert (naming.node node) number)]
        exact alike.bindings.insert naming.node_injective node rfl
      · rw [bindingCount_insert same, bindingCount_insert around, alike.bindingCount_eq]

theorem attach (parent : Nat) (opener : NodeId) (kind : ScopeKind) {owner owner' : Option Declared}
    (owners : Option.Rel relates owner owner') :
    (tree.attach parent opener kind owner).Alike naming relates
      (tree'.attach parent (naming.node opener) kind owner') where
  scopes number := by
    rw [getElem?_scopes_attach, getElem?_scopes_attach, alike.size_eq]
    have before : Option.Rel (Scope.Alike naming relates)
        (if number = tree.size then
          some ⟨tree.size, kind, some ⟨parent, opener⟩, #[], owner, .empty⟩
        else tree.scopes[number]?)
        (if number = tree.size then
          some ⟨tree.size, kind, some ⟨parent, naming.node opener⟩, #[], owner', .empty⟩
        else tree'.scopes[number]?) := by
      split
      · exact .some ⟨rfl, rfl, rfl, rfl, rfl, owners, .empty⟩
      · exact alike.scopes number
    refine rel_map_option before fun scope scope' same => { same with children_eq := ?_ }
    rw [same.children_eq]
  bindings := alike.bindings
  openings := by
    rw [funext (openedBy?_attach parent opener kind owner),
      funext (openedBy?_attach parent (naming.node opener) kind owner'), alike.size_eq]
    exact alike.openings.insert naming.node_injective opener rfl
  bindingCount_eq := alike.bindingCount_eq
  diagnostics := alike.diagnostics

theorem openScope (parent : Nat) (opener : NodeId) (kind : ScopeKind)
    {owner owner' : Option Declared} (owners : Option.Rel relates owner owner') :
    OutcomesAlike (Fault.rename naming)
      (fun opened opened' => opened'.1 = opened.1 ∧ opened.2.Alike naming relates opened'.2)
      (tree.openScope parent opener kind owner)
      (tree'.openScope parent (naming.node opener) kind owner') := by
  have same := alike.openings.eq opener
  rcases Nat.lt_or_ge tree.size parent with beyond | inside
  · rw [openScope_of_beyond beyond, openScope_of_beyond (alike.size_eq ▸ beyond), alike.size_eq]
    exact .error _
  have inside' : parent ≤ tree'.size := alike.size_eq ▸ inside
  cases opened : tree.openedBy? opener with
  | some other =>
      rw [opened] at same
      rw [openScope_of_again inside (by rw [opened, Option.isSome_some]),
        openScope_of_again inside' (by rw [same, Option.isSome_some])]
      exact .error (.openedTwice opener)
  | none =>
      rw [opened] at same
      rw [openScope_eq_ok_iff.mpr ⟨inside, opened, rfl⟩,
        openScope_eq_ok_iff.mpr ⟨inside', same, rfl⟩]
      exact .ok ⟨alike.size_eq, alike.attach parent opener kind owners⟩

theorem setHolder (number : Nat) (name : String) {declared declared' : Declared}
    (related : relates declared declared') :
    (tree.setHolder number name declared).Alike naming relates
      (tree'.setHolder number (naming.name name) declared') where
  scopes other := by
    simp only [ScopeTree.setHolder, Array.getElem?_modify]
    split
    · refine rel_map_option (alike.scopes other) fun scope scope' same => ?_
      exact { same with table := same.table.add name related }
    · exact alike.scopes other
  bindings := alike.bindings
  openings := alike.openings
  bindingCount_eq := alike.bindingCount_eq
  diagnostics := alike.diagnostics

theorem declare (number : Nat) (name : String) {declared declared' : Declared}
    (related : relates declared declared') (redeclaration : Redeclaration) :
    OutcomesAlike (Fault.rename naming)
      (fun answer answer' => Option.Rel (Diagnostic.Alike naming relates) answer.1 answer'.1 ∧
        answer.2.Alike naming relates answer'.2)
      (tree.declare number name declared redeclaration)
      (tree'.declare number (naming.name name) declared' redeclaration) := by
  have same := alike.scopes number
  unfold ScopeTree.declare ScopeTree.scope
  rw [alike.size_eq]
  generalize tree.scopes[number]? = found, tree'.scopes[number]? = found' at same
  cases same with
  | none => exact .error (.noSuchScope tree.size number)
  | @some scope scope' here =>
      have held := here.table.rel name
      have changed := alike.setHolder number name related
      simp only [Scope.holder?]
      generalize scope.table.find? name = holder, scope'.table.find? (naming.name name) = holder'
        at held
      cases held with
      | none => exact .ok ⟨.none, changed⟩
      | some previous =>
          cases redeclaration with
          | lastWins => exact .ok ⟨.some (.redeclared name related previous), changed⟩
          | firstWins => exact .ok ⟨.some (.redeclared name related previous), alike⟩

theorem report {diagnostic diagnostic' : Diagnostic}
    (same : diagnostic.Alike naming relates diagnostic') :
    (tree.report diagnostic).Alike naming relates (tree'.report diagnostic') where
  scopes := alike.scopes
  bindings := alike.bindings
  openings := alike.openings
  bindingCount_eq := alike.bindingCount_eq
  diagnostics := by
    simp only [ScopeTree.report, Array.toList_push]
    exact List.rel_append alike.diagnostics (.cons same .nil)

/-! ## Lookups -/

/-- The ways outward go through scopes that are alike, and end alike. -/
theorem outward (number : Nat) :
    List.Forall₂ (Scope.Alike naming relates) (tree.outward number).scopes
        (tree'.outward number).scopes ∧
      (tree'.outward number).ending = (tree.outward number).ending := by
  rcases Nat.lt_or_ge number tree.size with within | beyond
  · refine forall₂_outward (fun number scope found => ?_) within
    have same := alike.scopes number
    rw [found] at same
    generalize found' : tree'.scopes[number]? = second at same
    cases same with
    | some here => exact ⟨_, rfl, here.parent?_eq, here⟩
  · have beyond' : tree'.size ≤ number := alike.size_eq ▸ beyond
    rw [outward_of_missing (Array.getElem?_eq_none beyond),
      outward_of_missing (Array.getElem?_eq_none beyond'), alike.size_eq]
    exact ⟨.nil, rfl⟩

/-- A search finds answers that are related if scopes that are alike give such ones. -/
theorem searchOutward {α β : Type} {similar : α → β → Prop} {answer? : Scope → Option α}
    {answer?' : Scope → Option β}
    (kept : ∀ scope scope', scope.Alike naming relates scope' →
      Option.Rel similar (answer? scope) (answer?' scope')) (number : Nat) :
    OutcomesAlike id (Option.Rel similar) (tree.searchOutward number answer?)
      (tree'.searchOutward number answer?') := by
  obtain ⟨way, sameEnding⟩ := alike.outward number
  have found := rel_findSome? way kept
  unfold ScopeTree.searchOutward
  simp only [sameEnding]
  generalize (tree.outward number).scopes.findSome? answer? = answer,
    (tree'.outward number).scopes.findSome? answer?' = answer' at found
  cases found with
  | some answers => exact .ok (.some answers)
  | none =>
      cases (tree.outward number).ending with
      | error fault => exact .error fault
      | ok ended => exact .ok .none

/-- In one scope, a name and its image are held by corresponding declarations. -/
theorem lookupHere? (number : Nat) (name : String) :
    OutcomesAlike id (Option.Rel relates) (tree.lookupHere? number name)
      (tree'.lookupHere? number (naming.name name)) :=
  (alike.scope number).map fun _ _ same => same.table.rel name

/-- **A name and its image refer to corresponding declarations.** -/
theorem lookup? (number : Nat) (name : String) :
    OutcomesAlike id (Option.Rel relates) (tree.lookup? number name)
      (tree'.lookup? number (naming.name name)) := by
  have found : OutcomesAlike id
      (Option.Rel fun first second => second.1 = first.1 ∧ relates first.2 second.2)
      (tree.lookupWithScope? number name)
      (tree'.lookupWithScope? number (naming.name name)) := by
    refine alike.searchOutward (fun scope scope' same => ?_) number
    refine rel_map_option (same.table.rel name) fun _ _ related => ?_
    exact ⟨same.number_eq, related⟩
  exact found.map fun _ _ answers => rel_map_option answers fun _ _ related => related.2

/-- A name that is no image is held in no scope. -/
theorem holder?_eq_none {number : Nat} {scope' : Scope}
    (found : tree'.scope number = .ok scope') {name : String}
    (absent : name ∉ Set.range naming.name) : scope'.holder? name = none := by
  have same := alike.scope number
  rw [found] at same
  generalize tree.scope number = outcome at same
  cases same with
  | ok here => exact here.table.eq_none name absent

end Alike

end ScopeTree

end DecafScopes
