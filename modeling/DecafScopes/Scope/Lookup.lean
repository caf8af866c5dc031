import DecafScopes.Scope.ScopeTree

/-!
# Looking outward

Names are looked up from a scope outward: first in the scope itself, then in the
scope around it, and so on to the global scope.  The same way leads to the
declarations in whose inside a scope lies.

A way outward is described by the scopes on it and by how it ends.  A search goes
along it only as far as an answer needs it, so one that finds something does not
depend on what lies further out.
-/

set_option autoImplicit false

namespace DecafScopes

/-- A way outward through a scope tree. -/
structure OutwardWay where
  /-- The scopes on the way, the innermost first. -/
  scopes : List Scope
  /-- Whether the way ends at a scope with nothing around it, or why it does
  not. -/
  ending : Except Fault Unit

namespace ScopeTree

/-- The way outward from a scope.  The scope around another one has to have a
smaller number; where that fails the way has no end. -/
def outward (tree : ScopeTree) (number : Nat) : OutwardWay :=
  match tree.scope number with
  | .error fault => ⟨[], .error fault⟩
  | .ok scope =>
    match scope.parent? with
    | none => ⟨[scope], .ok ()⟩
    | some parent =>
      if parent < number then
        let further := tree.outward parent
        ⟨scope :: further.scopes, further.ending⟩
      else
        ⟨[scope], .error (.endlessWay number)⟩
termination_by number

/-- The first answer that a scope on the way outward gives. -/
def searchOutward {α : Type} (tree : ScopeTree) (number : Nat) (answer? : Scope → Option α) :
    Except Fault (Option α) :=
  let way := tree.outward number
  match way.scopes.findSome? answer? with
  | some answer => .ok (some answer)
  | none => way.ending.map fun _ => none

/-- The numbers of the scopes on the way outward from a scope, which comes
first. -/
def scopeChain (tree : ScopeTree) (number : Nat) : Except Fault (List Nat) :=
  let way := tree.outward number
  way.ending.map fun _ => way.scopes.map Scope.number

/-! ## Names -/

/-- The declaration that holds a name in one scope, whatever is around it. -/
def lookupHere? (tree : ScopeTree) (number : Nat) (name : String) :
    Except Fault (Option Declared) :=
  (tree.scope number).map (·.holder? name)

/-- The first scope outward from `number` that declares a name, with the
declaration that holds the name there. -/
def lookupWithScope? (tree : ScopeTree) (number : Nat) (name : String) :
    Except Fault (Option (Nat × Declared)) :=
  tree.searchOutward number fun scope => (scope.holder? name).map (scope.number, ·)

/-- The declaration that a name refers to in a scope. -/
def lookup? (tree : ScopeTree) (number : Nat) (name : String) :
    Except Fault (Option Declared) :=
  (tree.lookupWithScope? number name).map (·.map Prod.snd)

/-- The declaration that an identifier refers to in a scope, or the diagnostic
that there is none. -/
def resolve (tree : ScopeTree) (number : Nat) (identifier : Identifier) :
    Except Fault (Except Diagnostic Declared) :=
  (tree.lookup? number identifier.name).map fun
    | some declared => .ok declared
    | none => .error (.undeclared identifier.name identifier.span)

/-! ## Enclosing declarations -/

/-- The innermost declaration in whose inside a scope lies, among those that
satisfy `fits`. -/
def innermostOwner? (tree : ScopeTree) (number : Nat) (fits : Declaration → Bool) :
    Except Fault (Option Declared) :=
  tree.searchOutward number fun scope => scope.owner.filter (fits ·.declaration)

/-- The innermost declaration in whose inside a scope lies. -/
def enclosingDeclaration? (tree : ScopeTree) (number : Nat) : Except Fault (Option Declared) :=
  tree.innermostOwner? number fun _ => true

/-- The innermost class in whose inside a scope lies. -/
def enclosingClass? (tree : ScopeTree) (number : Nat) : Except Fault (Option Declared) :=
  tree.innermostOwner? number (·.toClass?.isSome)

/-- The innermost function in whose inside a scope lies. -/
def enclosingFunction? (tree : ScopeTree) (number : Nat) : Except Fault (Option Declared) :=
  tree.innermostOwner? number (·.toFunction?.isSome)

end ScopeTree

end DecafScopes
