import Mathlib.Data.List.Dedup
import DecafScopes.Proofs.Scope.Growth

/-!
# A symbol table over a whole run of additions

Names are added to an empty table, one after the other, any name any number of
times.  The table then is the map that sends each name to the declaration it
was given last: every question about it is answered by the additions alone, and
every addition has returned the declaration of the addition of that name before
it (`SymbolTable.addAll_empty`).

What one addition does is the invariant `SymbolTable.Remembers`, a statement
about lookups.  The other questions follow from the lookups, since a table never
lists a name twice (`SymbolTable.nodup_names`).
-/

set_option autoImplicit false

namespace DecafScopes

/-! ## Runs of additions -/

/-- A name with the declaration that is to hold it. -/
structure Addition where
  name : String
  declared : Declared

namespace Addition

/-- The additions of one name, in their order. -/
def ofName (name : String) (additions : List Addition) : List Addition :=
  additions.filter fun addition => addition.name == name

/-- The declaration that a name is given last. -/
def latest? (name : String) (additions : List Addition) : Option Declared :=
  (ofName name additions).getLast?.map declared

/-- One more addition is the latest of its own name and of no other. -/
theorem latest?_concat (name : String) (additions : List Addition) (addition : Addition) :
    latest? name (additions ++ [addition]) =
      if addition.name = name then some addition.declared else latest? name additions := by
  simp only [latest?, ofName, List.filter_append, List.filter_singleton]
  by_cases same : addition.name = name
  · rw [if_pos same, beq_iff_eq.mpr same, cond_true, List.getLast?_concat, Option.map_some]
  · rw [if_neg same, beq_eq_false_iff_ne.mpr same, cond_false, List.append_nil]

/-- A name has a latest declaration if it is added at all. -/
theorem isSome_latest?_iff (name : String) (additions : List Addition) :
    (latest? name additions).isSome ↔ name ∈ additions.map Addition.name := by
  rw [latest?, Option.isSome_map, List.getLast?_isSome, List.mem_map, ne_eq,
    List.eq_nil_iff_forall_not_mem, not_forall_not]
  simp only [ofName, List.mem_filter, beq_iff_eq]

end Addition

namespace SymbolTable

/-- Adds names in turn, and returns what each addition displaced. -/
def addAll (table : SymbolTable) : List Addition → List (Option Declared) × SymbolTable
  | [] => ([], table)
  | addition :: rest =>
      let (displaced, next) := table.add addition.name addition.declared
      let (others, last) := next.addAll rest
      (displaced :: others, last)

theorem addAll_concat (table : SymbolTable) (additions : List Addition) (addition : Addition) :
    table.addAll (additions ++ [addition]) =
      let (returned, reached) := table.addAll additions
      (returned ++ [reached.find? addition.name],
        (reached.add addition.name addition.declared).2) := by
  induction additions generalizing table with
  | nil => rfl
  | cons first rest ih =>
      simp only [List.cons_append, addAll, ih]

/-! ## What a table lists -/

/-- A table lists no name twice. -/
theorem nodup_names (table : SymbolTable) : (table.toList.map Prod.fst).Nodup := by
  rw [toList, Std.TreeMap.map_fst_toList_eq_keys]
  exact Std.TreeMap.nodup_keys

/-- A table lists the names that are found in it, each with what is found. -/
theorem mem_toList_iff (table : SymbolTable) (name : String) (declared : Declared) :
    (name, declared) ∈ table.toList ↔ table.find? name = some declared :=
  Std.TreeMap.mem_toList_iff_getElem?_eq_some

theorem mem_names_iff (table : SymbolTable) (name : String) :
    name ∈ table.toList.map Prod.fst ↔ (table.find? name).isSome := by
  rw [List.mem_map, Option.isSome_iff_exists]
  constructor
  · rintro ⟨⟨_, declared⟩, listed, rfl⟩
    exact ⟨declared, (table.mem_toList_iff _ _).mp listed⟩
  · rintro ⟨declared, found⟩
    exact ⟨(name, declared), (table.mem_toList_iff _ _).mpr found, rfl⟩

theorem isEmpty_eq_decide (table : SymbolTable) : table.isEmpty = decide (table.size = 0) :=
  Std.TreeMap.isEmpty_eq_size_eq_zero

/-- Tables in which the same is found list the same, up to the order. -/
theorem toList_perm {table other : SymbolTable}
    (same : ∀ name, table.find? name = other.find? name) : table.toList.Perm other.toList := by
  refine (List.perm_ext_iff_of_nodup (List.Nodup.of_map _ table.nodup_names)
    (List.Nodup.of_map _ other.nodup_names)).mpr ?_
  rintro ⟨name, declared⟩
  rw [mem_toList_iff, mem_toList_iff, same name]

/-! ## The invariant of a run -/

/-- Every name is held by the declaration it was given last. -/
def Remembers (table : SymbolTable) (additions : List Addition) : Prop :=
  ∀ name, table.find? name = Addition.latest? name additions

theorem remembers_empty : empty.Remembers [] := fun name => find?_empty name

/-- One addition: a table that remembers a run remembers it with one addition
more. -/
theorem Remembers.add {table : SymbolTable} {additions : List Addition}
    (remembers : table.Remembers additions) (addition : Addition) :
    (table.add addition.name addition.declared).2.Remembers (additions ++ [addition]) := by
  intro name
  rw [find?_add, Addition.latest?_concat, remembers name]

/-- A whole run of additions. -/
theorem remembers_addAll (additions : List Addition) :
    (empty.addAll additions).2.Remembers additions := by
  induction additions using List.reverseRecOn with
  | nil => exact remembers_empty
  | append_singleton additions addition ih =>
      rw [addAll_concat]
      exact ih.add addition

/-- Each addition returns the declaration its name was given last before. -/
theorem returned_addAll (additions : List Addition) :
    (empty.addAll additions).1 =
      additions.mapIdx fun position addition =>
        Addition.latest? addition.name (additions.take position) := by
  induction additions using List.reverseRecOn with
  | nil => rfl
  | append_singleton additions addition ih =>
      have earlier : (additions.mapIdx fun position added =>
          Addition.latest? added.name ((additions ++ [addition]).take position)) =
          (empty.addAll additions).1 := by
        rw [ih]
        refine List.ext_getElem? fun position => ?_
        simp only [List.getElem?_mapIdx]
        cases at_ : additions[position]? with
        | none => rfl
        | some added =>
            obtain ⟨within, -⟩ := List.getElem?_eq_some_iff.mp at_
            rw [Option.map_some, Option.map_some, List.take_append_of_le_length (by omega)]
      have found := remembers_addAll additions addition.name
      rw [addAll_concat, List.mapIdx_concat, earlier, List.take_left' rfl]
      exact congrArg (fun last => (empty.addAll additions).1 ++ [last]) found

/-! ## Every question about a table -/

/-- A table is the map that a run of additions describes. -/
structure IsMapOf (table : SymbolTable) (additions : List Addition) : Prop where
  /-- A name is held by the declaration it was given last, if it was added. -/
  find?_eq : ∀ name, table.find? name = Addition.latest? name additions
  /-- The names in the table are the ones that were added. -/
  contains_iff : ∀ name, table.contains name = true ↔ name ∈ additions.map Addition.name
  /-- The size is the number of different names. -/
  size_eq : table.size = (additions.map Addition.name).dedup.length
  /-- A table is empty if nothing was added. -/
  isEmpty_iff : table.isEmpty = true ↔ additions = []
  /-- No name is listed twice. -/
  nodup_names : (table.toList.map Prod.fst).Nodup
  /-- Every name that was added is listed, and no other. -/
  listed_iff : ∀ name,
    name ∈ table.toList.map Prod.fst ↔ name ∈ additions.map Addition.name
  /-- Every name is listed with the declaration that holds it. -/
  listed_with : ∀ name declared, (name, declared) ∈ table.toList →
    table.find? name = some declared

/-- The lookups of a table answer every question about it. -/
theorem Remembers.isMapOf {table : SymbolTable} {additions : List Addition}
    (remembers : table.Remembers additions) : table.IsMapOf additions := by
  have listed (name : String) :
      name ∈ table.toList.map Prod.fst ↔ name ∈ additions.map Addition.name := by
    rw [mem_names_iff, remembers name, Addition.isSome_latest?_iff]
  have size : table.size = (additions.map Addition.name).dedup.length := by
    have names : (table.toList.map Prod.fst).Perm (additions.map Addition.name).dedup :=
      (List.perm_ext_iff_of_nodup table.nodup_names (List.nodup_dedup _)).mpr fun name => by
        rw [listed name, List.mem_dedup]
    rw [← names.length_eq, List.length_map, length_toList]
  refine ⟨remembers, fun name => ?_, size, ?_, table.nodup_names, listed, fun name declared =>
    (table.mem_toList_iff name declared).mp⟩
  · rw [contains_eq_isSome_find?, remembers name, Addition.isSome_latest?_iff]
  · rw [isEmpty_eq_decide, size, decide_eq_true_iff, List.length_eq_zero_iff,
      List.dedup_eq_nil, List.map_eq_nil_iff]

/-- Two tables that no question tells apart, but for the order in which they
list their names. -/
structure Agrees (table other : SymbolTable) : Prop where
  find?_eq : ∀ name, table.find? name = other.find? name
  contains_eq : ∀ name, table.contains name = other.contains name
  size_eq : table.size = other.size
  isEmpty_eq : table.isEmpty = other.isEmpty
  toList_perm : table.toList.Perm other.toList

theorem agrees_of_find?_eq {table other : SymbolTable}
    (same : ∀ name, table.find? name = other.find? name) : table.Agrees other := by
  have size : table.size = other.size := by
    rw [← length_toList, ← length_toList, (toList_perm same).length_eq]
  refine ⟨same, fun name => ?_, size, ?_, toList_perm same⟩
  · rw [contains_eq_isSome_find?, contains_eq_isSome_find?, same name]
  · rw [isEmpty_eq_decide, isEmpty_eq_decide, size]

/-- **A symbol table is a faithful map over every run of additions.**  Each
addition returns the declaration of the addition of its name before it, if there
is one; the table at the end is the map of the run; and the order of additions
of different names makes no difference. -/
theorem addAll_empty (additions : List Addition) :
    (empty.addAll additions).1 =
        (additions.mapIdx fun position addition =>
          Addition.latest? addition.name (additions.take position)) ∧
      (empty.addAll additions).2.IsMapOf additions ∧
      ∀ others : List Addition,
        (∀ name, Addition.ofName name others = Addition.ofName name additions) →
        (empty.addAll others).2.Agrees (empty.addAll additions).2 := by
  refine ⟨returned_addAll additions, (remembers_addAll additions).isMapOf, ?_⟩
  intro others rearranged
  refine agrees_of_find?_eq fun name => ?_
  rw [remembers_addAll others name, remembers_addAll additions name, Addition.latest?,
    Addition.latest?, rearranged name]

end SymbolTable

namespace Sample

/-- A declaration with a rank of its own. -/
def ranked (rank : Nat) (name : String) : Declared :=
  let span : Span := ⟨⟨rank, rank, 1⟩, ⟨rank, rank, 2⟩⟩
  ⟨⟨0, rank⟩, .variableDecl ⟨⟨rank⟩, span, ⟨name, span⟩, .int⟩⟩

/-- One name is added twice, with another in between. -/
def interleaved : List Addition :=
  [⟨"x", ranked 0 "x"⟩, ⟨"y", ranked 1 "y"⟩, ⟨"x", ranked 2 "x"⟩]

/-- The same additions, with the other name first. -/
def rearranged : List Addition :=
  [⟨"y", ranked 1 "y"⟩, ⟨"x", ranked 0 "x"⟩, ⟨"x", ranked 2 "x"⟩]

theorem ofName_rearranged (name : String) :
    Addition.ofName name rearranged = Addition.ofName name interleaved := by
  by_cases other : "y" = name
  · subst other
    rfl
  · simp only [Addition.ofName, rearranged, interleaved, List.filter_cons, List.filter_nil,
      beq_eq_false_iff_ne.mpr other, Bool.false_eq_true, if_false]

end Sample

/-- The second addition of a name displaces the first, and it makes no
difference when another name is added. -/
theorem SymbolTable.addAll_empty_sample :
    (∀ name, Addition.ofName name Sample.rearranged = Addition.ofName name Sample.interleaved) ∧
      (SymbolTable.empty.addAll Sample.interleaved).1 =
        [none, none, some (Sample.ranked 0 "x")] ∧
      (SymbolTable.empty.addAll Sample.interleaved).2.find? "x" =
        some (Sample.ranked 2 "x") ∧
      (SymbolTable.empty.addAll Sample.interleaved).2.size = 2 ∧
      (SymbolTable.empty.addAll Sample.rearranged).2.Agrees
        (SymbolTable.empty.addAll Sample.interleaved).2 := by
  obtain ⟨returned, isMap, agrees⟩ := SymbolTable.addAll_empty Sample.interleaved
  exact ⟨Sample.ofName_rearranged, returned, isMap.find?_eq "x", isMap.size_eq,
    agrees Sample.rearranged Sample.ofName_rearranged⟩

end DecafScopes
