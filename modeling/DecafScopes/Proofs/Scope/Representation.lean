import DecafScopes.Binding.Pass
import DecafScopes.Proofs.Scope.Calls

/-!
# What holds of every scope tree

A scope stands under its number.  How a scope is attached is recorded three times: at
the scope itself, among the children of its parent and in the openings of the tree; the
three records agree in every tree that calls lead to, whatever arguments they are given
(`ScopeTree.WellFormed`).  The number of a parent is never larger than that of its child,
but it may be the same.

A run keeps what is there: scopes stay as they were opened, nodes stay where they were
bound, and diagnostics are only returned and not reported (`ScopeTree.KeptBy`).
-/

set_option autoImplicit false

namespace DecafScopes

namespace ScopeTree

/-! ## Three records of one fact -/

/-- A tree in which all records of how its scopes are attached agree. -/
structure WellFormed (tree : ScopeTree) : Prop where
  size_pos : 0 < tree.size
  /-- Every scope has the number under which it stands. -/
  number_eq : ∀ (number : Nat) (scope : Scope), tree.scopes[number]? = some scope →
    scope.number = number
  /-- Nothing is around the global scope alone. -/
  parent?_eq_none_iff : ∀ (number : Nat) (scope : Scope), tree.scopes[number]? = some scope →
    (scope.parent? = none ↔ number = root)
  /-- Nothing opened the global scope alone. -/
  opener?_eq_none_iff : ∀ (number : Nat) (scope : Scope), tree.scopes[number]? = some scope →
    (scope.opener? = none ↔ number = root)
  /-- A node opened the scope that has it as its opener, and no other one. -/
  openedBy?_eq_iff : ∀ (node : NodeId) (number : Nat), tree.openedBy? node = some number ↔
    ∃ scope, tree.scopes[number]? = some scope ∧ scope.opener? = some node
  /-- Children are listed in ascending order, and therefore once. -/
  ascending : ∀ (number : Nat) (scope : Scope), tree.scopes[number]? = some scope →
    scope.children.toList.Pairwise (· < ·)
  /-- The children of a scope are the scopes that have it as their parent. -/
  mem_children_iff : ∀ (number : Nat) (scope : Scope), tree.scopes[number]? = some scope →
    ∀ inner, inner ∈ scope.children.toList ↔
      ∃ child, tree.scopes[inner]? = some child ∧ child.parent? = some number
  /-- A parent is opened before its children, or is its own child. -/
  parent_le : ∀ (number : Nat) (scope : Scope), tree.scopes[number]? = some scope →
    ∀ parent, scope.parent? = some parent → parent ≤ number

variable {tree : ScopeTree}

theorem lt_size_of_getElem? {number : Nat} {scope : Scope}
    (found : tree.scopes[number]? = some scope) : number < tree.size :=
  (Array.getElem?_eq_some_iff.mp found).1

/-- The global scope is the only one in the tree that a run begins with. -/
theorem eq_of_getElem?_initial {number : Nat} {scope : Scope}
    (found : ScopeTree.initial.scopes[number]? = some scope) :
    number = root ∧ scope = ⟨root, .global, none, #[], none, .empty⟩ := by
  have present : number < 1 := lt_size_of_getElem? found
  obtain rfl : number = root := Nat.lt_one_iff.mp present
  exact ⟨rfl, (Option.some.inj found).symm⟩

namespace WellFormed

/-- Different scopes have different openers. -/
theorem opener?_injective (wellFormed : tree.WellFormed) {first second : Nat}
    {scope scope' : Scope} (isFirst : tree.scopes[first]? = some scope)
    (isSecond : tree.scopes[second]? = some scope') (same : scope.opener? = scope'.opener?) :
    first = second := by
  cases opens : scope.opener? with
  | none =>
      rw [(wellFormed.opener?_eq_none_iff first scope isFirst).mp opens,
        (wellFormed.opener?_eq_none_iff second scope' isSecond).mp (same ▸ opens)]
  | some node =>
      have opened := (wellFormed.openedBy?_eq_iff node first).mpr ⟨scope, isFirst, opens⟩
      have opened' :=
        (wellFormed.openedBy?_eq_iff node second).mpr ⟨scope', isSecond, same ▸ opens⟩
      exact Option.some.inj (opened.symm.trans opened')

/-- No scope has a child that is not there. -/
theorem children_lt_size (wellFormed : tree.WellFormed) {number : Nat} {scope : Scope}
    (found : tree.scopes[number]? = some scope) :
    ∀ inner ∈ scope.children.toList, inner < tree.size := by
  intro inner member
  obtain ⟨child, isChild, _⟩ := (wellFormed.mem_children_iff number scope found inner).mp member
  exact lt_size_of_getElem? isChild

/-- The tree with only the global scope is well-formed. -/
theorem initial : ScopeTree.initial.WellFormed where
  size_pos := Nat.one_pos
  number_eq number scope found := by
    obtain ⟨rfl, rfl⟩ := eq_of_getElem?_initial found
    rfl
  parent?_eq_none_iff number scope found := by
    obtain ⟨rfl, rfl⟩ := eq_of_getElem?_initial found
    exact iff_of_true rfl rfl
  opener?_eq_none_iff number scope found := by
    obtain ⟨rfl, rfl⟩ := eq_of_getElem?_initial found
    exact iff_of_true rfl rfl
  openedBy?_eq_iff node number := by
    constructor
    · intro opened
      simp [ScopeTree.initial, openedBy?] at opened
    · rintro ⟨scope, found, opens⟩
      obtain ⟨rfl, rfl⟩ := eq_of_getElem?_initial found
      cases opens
  ascending number scope found := by
    obtain ⟨rfl, rfl⟩ := eq_of_getElem?_initial found
    exact .nil
  mem_children_iff number scope found inner := by
    obtain ⟨rfl, rfl⟩ := eq_of_getElem?_initial found
    constructor
    · intro member
      cases member
    · rintro ⟨child, isChild, inside⟩
      obtain ⟨rfl, rfl⟩ := eq_of_getElem?_initial isChild
      cases inside
  parent_le number scope found parent inside := by
    obtain ⟨rfl, rfl⟩ := eq_of_getElem?_initial found
    cases inside

/-! ## Opening a scope -/

section Attach

variable {parent : Nat} {opener : NodeId} {kind : ScopeKind} {owner : Option Declared}
  {number : Nat}

/-- A scope of a tree with one more scope is the new one, or one that was there before
and may have got a child. -/
theorem attach_cases {scope : Scope}
    (found : (tree.attach parent opener kind owner).scopes[number]? = some scope) :
    (number = tree.size ∧ scope.number = tree.size ∧
        scope.attachment = some ⟨parent, opener⟩ ∧
        scope.children.toList = if parent = number then [tree.size] else []) ∨
      ∃ old, tree.scopes[number]? = some old ∧ scope.number = old.number ∧
        scope.attachment = old.attachment ∧
        scope.children.toList =
          old.children.toList ++ if parent = number then [tree.size] else [] := by
  rw [getElem?_scopes_attach] at found
  obtain ⟨old, isOld, rfl⟩ := Option.map_eq_some_iff.mp found
  split at isOld
  next last =>
    cases isOld
    refine .inl ⟨last, rfl, rfl, ?_⟩
    dsimp only
    split <;> rfl
  next =>
    refine .inr ⟨old, isOld, rfl, rfl, ?_⟩
    dsimp only
    split <;> simp

/-- Where a scope with a given attachment stands in a tree with one more scope. -/
theorem exists_attach_iff (holds : Option Attachment → Prop) :
    (∃ scope, (tree.attach parent opener kind owner).scopes[number]? = some scope ∧
        holds scope.attachment) ↔
      if number = tree.size then holds (some ⟨parent, opener⟩)
      else ∃ scope, tree.scopes[number]? = some scope ∧ holds scope.attachment := by
  rw [getElem?_scopes_attach]
  simp only [Option.map_eq_some_iff]
  split
  next last => simp
  next other =>
    constructor
    · rintro ⟨scope, ⟨old, isOld, rfl⟩, attached⟩
      exact ⟨old, isOld, attached⟩
    · rintro ⟨old, isOld, attached⟩
      exact ⟨_, ⟨old, isOld, rfl⟩, attached⟩

/-- **Opening a scope keeps a tree well-formed**, whether the parent was there before or
is the new scope. -/
theorem attach (wellFormed : tree.WellFormed) (inside : parent ≤ tree.size)
    (fresh : tree.openedBy? opener = none) (kind : ScopeKind) (owner : Option Declared) :
    (tree.attach parent opener kind owner).WellFormed where
  size_pos := by
    rw [size_attach]
    exact Nat.succ_pos _
  number_eq number scope found := by
    rcases attach_cases found with ⟨rfl, isNumber, _⟩ | ⟨old, isOld, isNumber, _⟩
    · exact isNumber
    · rw [isNumber, wellFormed.number_eq number old isOld]
  parent?_eq_none_iff number scope found := by
    rw [Scope.parent?]
    rcases attach_cases found with ⟨rfl, _, attached, _⟩ | ⟨old, isOld, _, attached, _⟩
    · rw [attached]
      exact iff_of_false nofun (Nat.ne_of_gt wellFormed.size_pos)
    · rw [attached]
      exact wellFormed.parent?_eq_none_iff number old isOld
  opener?_eq_none_iff number scope found := by
    rw [Scope.opener?]
    rcases attach_cases found with ⟨rfl, _, attached, _⟩ | ⟨old, isOld, _, attached, _⟩
    · rw [attached]
      exact iff_of_false nofun (Nat.ne_of_gt wellFormed.size_pos)
    · rw [attached]
      exact wellFormed.opener?_eq_none_iff number old isOld
  openedBy?_eq_iff node number := by
    have old := wellFormed.openedBy?_eq_iff node number
    have attached : (∃ scope, (tree.attach parent opener kind owner).scopes[number]? = some scope ∧
        scope.opener? = some node) ↔
          if number = tree.size then some opener = some node
          else ∃ scope, tree.scopes[number]? = some scope ∧ scope.opener? = some node :=
      exists_attach_iff fun attachment => attachment.map Attachment.opener = some node
    rw [openedBy?_attach, attached]
    by_cases last : number = tree.size
    · rw [if_pos last, last]
      split
      next same => simp [same]
      next other =>
        refine iff_of_false ?_ (by simpa using other)
        intro opened
        obtain ⟨scope, found, _⟩ := (wellFormed.openedBy?_eq_iff node _).mp opened
        exact absurd (lt_size_of_getElem? found) (Nat.lt_irrefl _)
    · rw [if_neg last, ← old]
      split
      next same =>
        subst same
        rw [fresh]
        simpa using Ne.symm last
      next => rfl
  ascending number scope found := by
    rcases attach_cases found with ⟨rfl, _, _, children⟩ | ⟨old, isOld, _, _, children⟩
    · rw [children]
      split <;> simp
    · rw [children]
      split
      next here =>
        refine List.pairwise_append.mpr ⟨wellFormed.ascending number old isOld, by simp, ?_⟩
        intro inner member last isLast
        rw [List.mem_singleton.mp isLast]
        exact wellFormed.children_lt_size isOld inner member
      next => simpa using wellFormed.ascending number old isOld
  mem_children_iff number scope found inner := by
    have attached : (∃ child, (tree.attach parent opener kind owner).scopes[inner]? = some child ∧
        child.parent? = some number) ↔
          if inner = tree.size then some parent = some number
          else ∃ child, tree.scopes[inner]? = some child ∧ child.parent? = some number :=
      exists_attach_iff fun attachment => attachment.map Attachment.parent = some number
    rw [attached]
    rcases attach_cases found with ⟨rfl, _, _, children⟩ | ⟨old, isOld, _, _, children⟩
    · rw [children, List.mem_ite_nil_right, List.mem_singleton]
      by_cases last : inner = tree.size
      · simp [last]
      · -- No scope that was there before has its parent beyond itself.
        rw [if_neg last]
        refine iff_of_false (fun member => last member.2) ?_
        rintro ⟨child, isChild, isParent⟩
        have smaller := wellFormed.parent_le inner child isChild _ isParent
        exact absurd (lt_size_of_getElem? isChild) (Nat.not_lt.mpr smaller)
    · have before := wellFormed.mem_children_iff number old isOld inner
      rw [children, List.mem_append, List.mem_ite_nil_right, List.mem_singleton]
      by_cases last : inner = tree.size
      · have absent : inner ∉ old.children.toList := by
          intro member
          exact absurd (wellFormed.children_lt_size isOld inner member) (by omega)
        rw [if_pos last, or_iff_right absent]
        simp [last]
      · rw [if_neg last, ← before]
        simp [last]
  parent_le number scope found outer isOuter := by
    rw [Scope.parent?] at isOuter
    rcases attach_cases found with ⟨rfl, _, attached, _⟩ | ⟨old, isOld, _, attached, _⟩
    · rw [attached] at isOuter
      cases isOuter
      exact inside
    · rw [attached] at isOuter
      exact wellFormed.parent_le number old isOld outer isOuter

end Attach

/-! ## The other calls -/

/-- Only the openings and the scopes without their tables matter. -/
theorem congr {next : ScopeTree} (wellFormed : tree.WellFormed)
    (frames : next.scopes.map Scope.frame = tree.scopes.map Scope.frame)
    (openings : next.openings = tree.openings) : next.WellFormed := by
  have attached (number : Nat) (holds : Option Attachment → Prop) :
      (∃ scope, next.scopes[number]? = some scope ∧ holds scope.attachment) ↔
        ∃ scope, tree.scopes[number]? = some scope ∧ holds scope.attachment := by
    constructor
    · rintro ⟨scope, found, here⟩
      obtain ⟨old, isOld, same⟩ := exists_of_map_frame_eq frames found
      obtain ⟨_, _, alike, _⟩ := Scope.frame_eq_frame_iff.mp same
      exact ⟨old, isOld, alike ▸ here⟩
    · rintro ⟨old, isOld, here⟩
      obtain ⟨scope, found, same⟩ := exists_of_map_frame_eq frames.symm isOld
      obtain ⟨_, _, alike, _⟩ := Scope.frame_eq_frame_iff.mp same
      exact ⟨scope, found, alike ▸ here⟩
  have before {number : Nat} {scope : Scope} (found : next.scopes[number]? = some scope) :
      ∃ old, tree.scopes[number]? = some old ∧ scope.number = old.number ∧
        scope.attachment = old.attachment ∧ scope.children = old.children := by
    obtain ⟨old, isOld, same⟩ := exists_of_map_frame_eq frames found
    obtain ⟨number, _, attachment, children, _⟩ := Scope.frame_eq_frame_iff.mp same
    exact ⟨old, isOld, number.symm, attachment.symm, children.symm⟩
  refine ⟨?size, ?numbers, ?parents, ?openers, ?opened, ?ascending, ?children, ?order⟩
  case size =>
    have sizes := congrArg Array.size frames
    rw [Array.size_map, Array.size_map] at sizes
    rw [size, sizes]
    exact wellFormed.size_pos
  case numbers =>
    intro number scope found
    obtain ⟨old, isOld, isNumber, _⟩ := before found
    rw [isNumber, wellFormed.number_eq number old isOld]
  case parents =>
    intro number scope found
    obtain ⟨old, isOld, _, same, _⟩ := before found
    rw [Scope.parent?, same]
    exact wellFormed.parent?_eq_none_iff number old isOld
  case openers =>
    intro number scope found
    obtain ⟨old, isOld, _, same, _⟩ := before found
    rw [Scope.opener?, same]
    exact wellFormed.opener?_eq_none_iff number old isOld
  case opened =>
    intro node number
    rw [openedBy?, openings]
    exact (wellFormed.openedBy?_eq_iff node number).trans
      (attached number fun attachment => attachment.map Attachment.opener = some node).symm
  case ascending =>
    intro number scope found
    obtain ⟨old, isOld, _, _, same⟩ := before found
    rw [same]
    exact wellFormed.ascending number old isOld
  case children =>
    intro number scope found inner
    obtain ⟨old, isOld, _, _, same⟩ := before found
    rw [same]
    exact (wellFormed.mem_children_iff number old isOld inner).trans
      (attached inner fun attachment => attachment.map Attachment.parent = some number).symm
  case order =>
    intro number scope found parent inside
    obtain ⟨old, isOld, _, same, _⟩ := before found
    rw [Scope.parent?, same] at inside
    exact wellFormed.parent_le number old isOld parent inside

/-- **Every call keeps a tree well-formed**, whatever its arguments are. -/
theorem call (wellFormed : tree.WellFormed) {call : Call} {next : ScopeTree}
    (made : tree.call call = .ok next) : next.WellFormed := by
  cases call with
  | openScope parent opener kind owner =>
      obtain ⟨inside, fresh, rfl⟩ := call_openScope_eq_ok_iff.mp made
      exact wellFormed.attach inside fresh kind owner
  | declare scope name declared redeclaration =>
      rcases eq_or_eq_setHolder_of_call_declare made with rfl | rfl
      · exact wellFormed
      · exact wellFormed.congr (map_frame_setHolder scope name declared) rfl
  | bind node scope =>
      obtain ⟨_, rfl⟩ := bind_eq_ok_iff.mp made
      exact wellFormed.congr rfl rfl

/-- A run of calls keeps a tree well-formed. -/
theorem callAll (wellFormed : tree.WellFormed) {calls : List Call} {final : ScopeTree}
    (run : tree.callAll calls = .ok final) : final.WellFormed := by
  induction calls generalizing tree with
  | nil =>
      cases run
      exact wellFormed
  | cons first later ih =>
      obtain ⟨next, made, rest⟩ := callAll_cons_eq_ok_iff.mp run
      exact ih (wellFormed.call made) rest

end WellFormed

end ScopeTree

/-- Every step of a binding pass keeps the tree well-formed. -/
theorem LoggedTree.wellFormed_perform {redeclaration : Redeclaration} {state next : LoggedTree}
    (wellFormed : state.tree.WellFormed) {step : Step}
    (performed : state.perform redeclaration step = .ok next) : next.tree.WellFormed := by
  cases step with
  | bind node scope =>
      obtain ⟨tree, made, isNext⟩ := except_bind_eq_ok_iff.mp performed
      cases isNext
      have makes : state.tree.call (.bind node scope) = .ok tree := made
      exact wellFormed.call makes
  | openScope parent opener kind owner =>
      obtain ⟨opened, made, isNext⟩ := except_bind_eq_ok_iff.mp performed
      cases isNext
      have makes : state.tree.call (.openScope parent opener kind owner) = .ok opened.2 :=
        except_map_eq_ok_iff.mpr ⟨opened, made, rfl⟩
      exact wellFormed.call makes
  | declare scope declared =>
      obtain ⟨⟨refusal, tree⟩, made, isNext⟩ := except_bind_eq_ok_iff.mp performed
      have makes : state.tree.call (.declare scope declared.name declared redeclaration) =
          .ok tree := except_map_eq_ok_iff.mpr ⟨(refusal, tree), made, rfl⟩
      cases refusal with
      | none =>
          cases isNext
          exact wellFormed.call makes
      | some diagnostic =>
          cases isNext
          exact (wellFormed.call makes).congr rfl rfl

theorem LoggedTree.wellFormed_performAll {redeclaration : Redeclaration}
    {state final : LoggedTree} (wellFormed : state.tree.WellFormed) {steps : List Step}
    (performed : state.performAll redeclaration steps = .ok final) : final.tree.WellFormed := by
  induction steps generalizing state with
  | nil =>
      cases performed
      exact wellFormed
  | cons step later ih =>
      rw [performAll, List.foldlM_cons] at performed
      obtain ⟨next, first, rest⟩ := except_bind_eq_ok_iff.mp performed
      exact ih (wellFormed_perform wellFormed first) rest

/-- The tree of a program is well-formed. -/
theorem Program.wellFormed_bind {policy : BindingPolicy} {program : Program} {tree : ScopeTree}
    (bound : program.bind policy = .ok tree) : tree.WellFormed := by
  obtain ⟨finished, logged, rfl⟩ := except_map_eq_ok_iff.mp bound
  obtain ⟨final, performed, rfl⟩ := except_map_eq_ok_iff.mp logged
  have reached : final.tree.WellFormed :=
    LoggedTree.wellFormed_performAll ScopeTree.WellFormed.initial performed
  exact reached

namespace ScopeTree

variable {tree : ScopeTree}

/-! ## What a run keeps -/

/-- What calls that lead from one tree to another have kept: scopes are as they were
opened, nodes are where they were bound, every binding counts once, and nothing has been
reported. -/
structure KeptBy (calls : List Call) (tree final : ScopeTree) : Prop where
  scope_eq : ∀ (number : Nat) (scope : Scope), tree.scopes[number]? = some scope →
    ∃ scope', final.scopes[number]? = some scope' ∧ scope'.kind = scope.kind ∧
      scope'.parent? = scope.parent? ∧ scope'.opener? = scope.opener? ∧
      scope'.owner = scope.owner
  scopeAround?_eq : ∀ (node : NodeId) (number : Nat), tree.scopeAround? node = some number →
    final.scopeAround? node = some number
  bindingCount_eq : final.bindingCount = tree.bindingCount + calls.countP Call.binds
  diagnostics_eq : final.diagnostics = tree.diagnostics

namespace KeptBy

theorem refl (tree : ScopeTree) : KeptBy [] tree tree where
  scope_eq _ scope found := ⟨scope, found, rfl, rfl, rfl, rfl⟩
  scopeAround?_eq _ _ around := around
  bindingCount_eq := rfl
  diagnostics_eq := rfl

theorem cons {first : Call} {later : List Call} {next final : ScopeTree}
    (kept : KeptBy [first] tree next) (rest : KeptBy later next final) :
    KeptBy (first :: later) tree final where
  scope_eq number scope found := by
    obtain ⟨scope', found', kind, parent, opener, owner⟩ := kept.scope_eq number scope found
    obtain ⟨scope'', found'', kind', parent', opener', owner'⟩ :=
      rest.scope_eq number scope' found'
    exact ⟨scope'', found'', kind'.trans kind, parent'.trans parent, opener'.trans opener,
      owner'.trans owner⟩
  scopeAround?_eq node number around :=
    rest.scopeAround?_eq node number (kept.scopeAround?_eq node number around)
  bindingCount_eq := by
    rw [rest.bindingCount_eq, kept.bindingCount_eq, Nat.add_assoc, ← List.countP_append]
    rfl
  diagnostics_eq := rest.diagnostics_eq.trans kept.diagnostics_eq

/-- **What one call keeps.** -/
theorem of_call {call : Call} {next : ScopeTree} (made : tree.call call = .ok next) :
    KeptBy [call] tree next := by
  cases call with
  | openScope parent opener kind owner =>
      obtain ⟨_, _, rfl⟩ := call_openScope_eq_ok_iff.mp made
      refine ⟨?_, fun _ _ around => around, rfl, rfl⟩
      intro number scope found
      have old : number ≠ tree.size := Nat.ne_of_lt (lt_size_of_getElem? found)
      rw [getElem?_scopes_attach, if_neg old, found]
      exact ⟨_, rfl, rfl, rfl, rfl, rfl⟩
  | declare scope name declared redeclaration =>
      rcases eq_or_eq_setHolder_of_call_declare made with rfl | rfl
      · exact { refl next with }
      · refine ⟨?_, fun _ _ around => around, rfl, rfl⟩
        intro number outer found
        obtain ⟨scope', found', same⟩ :=
          exists_of_map_frame_eq (map_frame_setHolder scope name declared).symm found
        obtain ⟨_, kind, attachment, _, owner⟩ := Scope.frame_eq_frame_iff.mp same
        exact ⟨scope', found', kind, congrArg (Option.map Attachment.parent) attachment,
          congrArg (Option.map Attachment.opener) attachment, owner⟩
  | bind node scope =>
      obtain ⟨fresh, rfl⟩ := bind_eq_ok_iff.mp made
      refine ⟨fun _ scope found => ⟨scope, found, rfl, rfl, rfl, rfl⟩, ?_, ?_, rfl⟩
      · intro other number around
        have different : node ≠ other := by
          rintro rfl
          rw [fresh] at around
          cases around
        rw [scopeAround?_insert, if_neg different]
        exact around
      · rw [bindingCount_insert fresh]
        rfl

/-- **What a run of calls keeps.** -/
theorem of_callAll {calls : List Call} {final : ScopeTree}
    (run : tree.callAll calls = .ok final) : KeptBy calls tree final := by
  induction calls generalizing tree with
  | nil =>
      cases run
      exact refl _
  | cons first later ih =>
      obtain ⟨next, made, rest⟩ := callAll_cons_eq_ok_iff.mp run
      exact (of_call made).cons (ih rest)

end KeptBy

/-! ## Every run -/

/-- A tree that a run of calls may begin with: the one with only the global scope, or
that of a program. -/
inductive Begins : ScopeTree → Prop where
  | initial : Begins .initial
  | built {policy : BindingPolicy} {program : Program} {result : ScopeTree} :
      program.bind policy = .ok result → Begins result

/-- **All records of a tree agree at every moment of every run**, different scopes have
different openers, and what is there at one moment is kept from then on. -/
theorem wellFormed_and_keptBy_of_callAll {start tree final : ScopeTree} (begins : start.Begins)
    {calls later : List Call} (run : start.callAll calls = .ok tree)
    (goesOn : tree.callAll later = .ok final) :
    tree.WellFormed ∧
      (∀ (first second : Nat) (scope scope' : Scope), tree.scopes[first]? = some scope →
        tree.scopes[second]? = some scope' → scope.opener? = scope'.opener? → first = second) ∧
      KeptBy later tree final := by
  have started : start.WellFormed := by
    cases begins with
    | initial => exact .initial
    | built bound => exact Program.wellFormed_bind bound
  have wellFormed := started.callAll run
  exact ⟨wellFormed, fun _ _ _ _ isFirst isSecond => wellFormed.opener?_injective isFirst isSecond,
    .of_callAll goesOn⟩

/-- A scope may be opened in itself, and then it is among its own children. -/
theorem keptBy_sample_run :
    ∃ tree final, ScopeTree.initial.callAll
        [.openScope 0 ⟨7⟩ .block none, .openScope 2 ⟨3⟩ .classBody none, .bind ⟨3⟩ 9] = .ok tree ∧
      tree.callAll [.bind ⟨7⟩ 2, .openScope 2 ⟨1⟩ .loopHeader none] = .ok final ∧
      (∃ scope, tree.scopes[2]? = some scope ∧ scope.parent? = some 2 ∧ 2 ∈ scope.children.toList) ∧
      tree.WellFormed ∧ final.bindingCount = tree.bindingCount + 1 := by
  obtain ⟨tree, final, run, goesOn, itself⟩ : ∃ tree final, ScopeTree.initial.callAll
        [.openScope 0 ⟨7⟩ .block none, .openScope 2 ⟨3⟩ .classBody none, .bind ⟨3⟩ 9] = .ok tree ∧
      tree.callAll [.bind ⟨7⟩ 2, .openScope 2 ⟨1⟩ .loopHeader none] = .ok final ∧
      ∃ scope, tree.scopes[2]? = some scope ∧ scope.parent? = some 2 ∧ 2 ∈ scope.children.toList :=
    ⟨_, _, rfl, rfl, _, rfl, rfl, List.mem_singleton.mpr rfl⟩
  obtain ⟨wellFormed, _, kept⟩ := wellFormed_and_keptBy_of_callAll .initial run goesOn
  exact ⟨tree, final, run, goesOn, itself, wellFormed, kept.bindingCount_eq⟩

end ScopeTree

end DecafScopes
