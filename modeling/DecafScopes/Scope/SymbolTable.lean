import Std.Data.TreeMap.Lemmas
import DecafScopes.Outline.Place

/-!
# Symbol tables

The names declared directly in one scope, each with the declaration that holds
it.  Names are compared exactly, and a table lists them in their own order, by
code points.
-/

set_option autoImplicit false

namespace DecafScopes

/-- A finite map from names to the declarations that hold them. -/
structure SymbolTable where
  holders : Std.TreeMap String Declared

namespace SymbolTable

/-- The table without names. -/
def empty : SymbolTable := ⟨∅⟩

/-- The declaration that holds a name. -/
def find? (table : SymbolTable) (name : String) : Option Declared :=
  table.holders[name]?

/-- Gives a name to a declaration, and returns the declaration that held it
before. -/
def add (table : SymbolTable) (name : String) (declared : Declared) :
    Option Declared × SymbolTable :=
  (table.find? name, ⟨table.holders.insert name declared⟩)

/-- Whether a name is held by a declaration. -/
def contains (table : SymbolTable) (name : String) : Bool :=
  table.holders.contains name

/-- The number of names. -/
def size (table : SymbolTable) : Nat :=
  table.holders.size

/-- Whether there is no name. -/
def isEmpty (table : SymbolTable) : Bool :=
  table.holders.isEmpty

/-- The names with the declarations that hold them, in the order of the names. -/
def toList (table : SymbolTable) : List (String × Declared) :=
  table.holders.toList

/-! ## A table through its lookups -/

@[simp] theorem find?_empty (name : String) : empty.find? name = none :=
  Std.TreeMap.getElem?_emptyc

/-- Adding a name changes the lookup of that name alone. -/
theorem find?_add (table : SymbolTable) (name sought : String) (declared : Declared) :
    (table.add name declared).2.find? sought =
      if name = sought then some declared else table.find? sought := by
  simp only [add, find?, Std.TreeMap.getElem?_insert, Std.LawfulEqCmp.compare_eq_iff_eq]

/-- A table contains the names that are found in it. -/
theorem contains_eq_isSome_find? (table : SymbolTable) (name : String) :
    table.contains name = (table.find? name).isSome := by
  simp only [contains, find?, Std.TreeMap.contains_eq_isSome_getElem?]

/-- Adding a name makes a table larger if the name was not in it. -/
theorem size_add (table : SymbolTable) (name : String) (declared : Declared) :
    (table.add name declared).2.size =
      if table.contains name then table.size else table.size + 1 := by
  simp only [add, size, contains, Std.TreeMap.size_insert]
  rfl

end SymbolTable

end DecafScopes
