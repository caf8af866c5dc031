import DecafScopes.Scope.Kind

/-!
# Policies

Two choices are open when a program is bound: which of two declarations of one
name in one scope holds the name afterwards, and whether the parameters of a
function are declared in its scope at all.
-/

set_option autoImplicit false

namespace DecafScopes

/-- Which declaration holds a name that is declared twice in one scope. -/
inductive Redeclaration where
  | lastWins
  | firstWins
deriving DecidableEq

/-- The choices that are open when a program is bound. -/
structure BindingPolicy where
  /-- Whether parameters are declared; if not, they are only bound to the scope of
  their function. -/
  declaresParameters : Bool
  redeclaration : Redeclaration
deriving DecidableEq

namespace BindingPolicy

/-- Parameters are declared, and the last declaration of a name wins. -/
def standard : BindingPolicy := ⟨true, .lastWins⟩

/-- Whether declarations directly in a scope of this kind are declared: all are,
but the parameters of a function only if the policy says so. -/
def declaresIn (policy : BindingPolicy) : ScopeKind → Bool
  | .functionBody => policy.declaresParameters
  | .global | .classBody | .interfaceBody | .block | .loopHeader => true

end BindingPolicy

end DecafScopes
