import Std.Data.TreeMap.Basic

/-!
# Identities of syntax nodes

Every node that can be bound to a scope carries an identity, which is only ever
compared and ordered.  A supply gives identities out in increasing order, each
of them once.
-/

set_option autoImplicit false

namespace DecafScopes

/-- The identity of a syntax node within its program. -/
structure NodeId where
  /-- The number, which has no bound.  It is only compared and shown, so that words of
  32 bits serve as well for all numbers that fit; the identities from a builder fit as
  long as it has given out fewer than `2 ^ 32 - 1` places. -/
  number : Nat
deriving DecidableEq

namespace NodeId

/-- Identities are ordered by their number. -/
instance : Ord NodeId := ⟨fun first second => compare first.number second.number⟩

instance : Std.TransOrd NodeId := inferInstanceAs (Std.TransCmp (compareOn NodeId.number))

instance : Std.LawfulEqOrd NodeId where
  compare_self {node} := Nat.compare_eq_eq.mpr (rfl : node.number = node.number)
  eq_of_compare {first second} same := by
    have equal : first.number = second.number := Nat.compare_eq_eq.mp same
    cases first
    cases second
    simp_all

instance : LE NodeId := ⟨fun first second => first.number ≤ second.number⟩

instance (first second : NodeId) : Decidable (first ≤ second) :=
  inferInstanceAs (Decidable (first.number ≤ second.number))

/-- An identity is shown as its number after a hash sign. -/
def text (node : NodeId) : String :=
  "#" ++ toString node.number

end NodeId

/-- A source of identities, each of which is given out once. -/
structure IdSupply where
  /-- The number of the next identity, which is how many have been given out.  It has
  no bound; in a builder, a counter of 32 bits agrees with it as long as fewer than
  `2 ^ 32 - 1` places have been given out. -/
  next : Nat
deriving DecidableEq

namespace IdSupply

/-- The supply that has given out nothing yet. -/
def full : IdSupply := ⟨0⟩

/-- The next identity, and the supply without it. -/
def draw (supply : IdSupply) : NodeId × IdSupply :=
  (⟨supply.next⟩, ⟨supply.next + 1⟩)

end IdSupply

end DecafScopes
