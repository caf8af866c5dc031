import Mathlib.Data.List.Nodup
import Mathlib.Data.List.Perm.Basic
import DecafScopes.Proofs.Binding.Registration

/-!
# Refusals name by name

Whether a registration is refused, and with which diagnostic, depends on the earlier
registrations of the same name in the same scope alone, and of these only on where
they stand in the text.  Leaving out all registrations of some names therefore
leaves out what is raised by them and nothing else (`Redeclaration.raised_filter`),
and the diagnostics are the same up to their order if the registrations of every
name in every scope are (`Redeclaration.refusals_perm`).
-/

set_option autoImplicit false

namespace DecafScopes

namespace Registration

variable {κ μ : Type}

/-- Where a registration is, and under which name: what it may collide with. -/
def key (registration : Registration κ) : κ × String :=
  (registration.scope, registration.declaration.name)

/-- What a refusal depends on: the key and the place in the text. -/
def signature (registration : Registration κ) : (κ × String) × Span :=
  (registration.key, registration.declaration.span)

variable [DecidableEq κ] [DecidableEq μ]

/-- The declarations that are registered in one scope. -/
def declaredIn (scope : κ) (registrations : List (Registration κ)) : List Declaration :=
  (registrations.filter fun registration => decide (registration.scope = scope)).map declaration

theorem isFor_iff {scope : κ} {name : String} {registration : Registration κ} :
    registration.isFor scope name ↔ registration.key = (scope, name) := by
  simp [isFor, key]

/-- The registrations of a name in a scope are those of the declarations of that
name. -/
theorem map_filter_key (scope : κ) (name : String) (registrations : List (Registration κ)) :
    (registrations.filter fun registration => decide (registration.key = (scope, name))).map
        declaration =
      (declaredIn scope registrations).filter (·.name == name) := by
  rw [declaredIn, List.filter_map, List.filter_filter]
  congr 1
  apply List.filter_congr
  intro registration _
  rw [Bool.eq_iff_iff]
  simp [key, and_comm]

theorem mem_declaredIn_iff {scope : κ} {declaration : Declaration}
    {registrations : List (Registration κ)} :
    declaration ∈ declaredIn scope registrations ↔ ⟨scope, declaration⟩ ∈ registrations := by
  rw [declaredIn, List.mem_map]
  constructor
  · rintro ⟨registration, listed, rfl⟩
    obtain ⟨member, here⟩ := List.mem_filter.mp listed
    obtain rfl : registration.scope = scope := of_decide_eq_true here
    exact member
  · intro member
    exact ⟨_, List.mem_filter.mpr ⟨member, decide_eq_true rfl⟩, rfl⟩

/-- The declarations in a scope do not depend on how the scopes are called. -/
theorem declaredIn_map {rename : κ → μ} {scope : κ} {registrations : List (Registration κ)}
    (distinct : ∀ registration ∈ registrations,
      rename registration.scope = rename scope → registration.scope = scope) :
    declaredIn (rename scope) (registrations.map (·.map rename)) =
      declaredIn scope registrations := by
  rw [declaredIn, declaredIn, List.filter_map, List.map_map]
  have same : ∀ registration ∈ registrations,
      decide ((registration.map rename).scope = rename scope) =
        decide (registration.scope = scope) := by
    intro registration member
    exact decide_eq_decide.mpr ⟨distinct registration member, congrArg rename⟩
  exact congrArg _ (List.filter_congr same)

end Registration

namespace Redeclaration

variable {κ : Type} [DecidableEq κ] (redeclaration : Redeclaration)

/-! ## Refusals depend on one name in one scope -/

section Filter

variable {registrations : List (Registration κ)} {keep : Registration κ → Bool}

/-- Registrations of other names make no difference for what stands for a name. -/
theorem standing?_filter {scope : κ} {name : String}
    (kept : ∀ registration ∈ registrations, registration.key = (scope, name) →
      keep registration) :
    redeclaration.standing? scope name (registrations.filter keep) =
      redeclaration.standing? scope name registrations := by
  have same : ∀ registration ∈ registrations,
      (keep registration && registration.isFor scope name) =
        registration.isFor scope name := by
    intro registration member
    cases here : registration.isFor scope name with
    | false => exact Bool.and_false _
    | true => rw [kept registration member (Registration.isFor_iff.mp here), Bool.and_true]
  cases redeclaration with
  | lastWins =>
      rw [standing?, standing?, ← List.filter_reverse, List.find?_filter]
      apply List.find?_congr
      intro registration member
      simpa using same registration (List.mem_reverse.mp member)
  | firstWins =>
      rw [standing?, standing?, List.find?_filter]
      apply List.find?_congr
      intro registration member
      simpa using same registration member

/-- **If some names are left out altogether, what is raised by them is left out, and
nothing else.** -/
theorem raised_filter
    (whole : ∀ first ∈ registrations, ∀ second ∈ registrations,
      first.key = second.key → keep first = keep second) :
    redeclaration.raised (registrations.filter keep) =
      (redeclaration.raised registrations).filter (keep ·.1) := by
  induction registrations using List.reverseRecOn with
  | nil => rfl
  | append_singleton earlier new ih =>
      have among : ∀ registration ∈ earlier, registration ∈ earlier ++ [new] :=
        fun _ member => List.mem_append_left _ member
      have last : new ∈ earlier ++ [new] := List.mem_append_right _ (List.mem_singleton_self new)
      have before := ih fun first member second member' =>
        whole first (among first member) second (among second member')
      rw [List.filter_append, raised_concat, List.filter_append, ← before]
      cases kept : keep new with
      | false =>
          rw [List.filter_singleton, kept, cond_false, List.append_nil]
          cases redeclaration.refusal? earlier new <;> simp [kept]
      | true =>
          -- With `new`, all earlier registrations of its name have stayed as well.
          have refused : redeclaration.refusal? (earlier.filter keep) new =
              redeclaration.refusal? earlier new := by
            rw [refusal?, refusal?, standing?_filter]
            intro registration member sameKey
            rw [whole registration (among registration member) new last sameKey, kept]
          rw [List.filter_singleton, kept, cond_true, raised_concat, refused]
          cases redeclaration.refusal? earlier new <;> simp [kept]

end Filter

/-! ## Refusals depend on the places in the text -/

theorem map_signature_standing? {first second : List (Registration κ)}
    (same : first.map Registration.signature = second.map Registration.signature) (scope : κ)
    (name : String) :
    (redeclaration.standing? scope name first).map Registration.signature =
      (redeclaration.standing? scope name second).map Registration.signature := by
  have test : ∀ registration : Registration κ, registration.isFor scope name =
      decide (registration.signature.1 = (scope, name)) := by
    intro registration
    rw [Bool.eq_iff_iff, Registration.isFor_iff, decide_eq_true_eq, Registration.signature]
  have found : ∀ registrations : List (Registration κ),
      (registrations.find? (·.isFor scope name)).map Registration.signature =
        (registrations.map Registration.signature).find? (decide <| ·.1 = (scope, name)) := by
    intro registrations
    rw [List.find?_map]
    apply congrArg (Option.map Registration.signature)
    apply List.find?_congr
    intro registration _
    exact test registration
  cases redeclaration with
  | lastWins => rw [standing?, standing?, found, found, List.map_reverse, same, ← List.map_reverse]
  | firstWins => rw [standing?, standing?, found, found, same]

theorem refusal?_congr {earlier earlier' : List (Registration κ)} {new new' : Registration κ}
    (same : earlier.map Registration.signature = earlier'.map Registration.signature)
    (sameNew : new.signature = new'.signature) :
    redeclaration.refusal? earlier new = redeclaration.refusal? earlier' new' := by
  have refusal (earlier : List (Registration κ)) (new : Registration κ) :
      redeclaration.refusal? earlier new =
        ((redeclaration.standing? new.signature.1.1 new.signature.1.2 earlier).map
          Registration.signature).map fun previous =>
            .redeclared new.signature.1.2 new.signature.2 previous.2 := by
    rw [Option.map_map]
    rfl
  rw [refusal, refusal, sameNew, map_signature_standing? redeclaration same]

/-- **Of the registrations, only the scopes, the names and the places in the text
matter for the diagnostics.** -/
theorem refusals_congr {first second : List (Registration κ)}
    (same : first.map Registration.signature = second.map Registration.signature) :
    redeclaration.refusals first = redeclaration.refusals second := by
  induction first using List.reverseRecOn generalizing second with
  | nil =>
      have none : second = [] := List.map_eq_nil_iff.mp same.symm
      rw [none]
  | append_singleton earlier new ih =>
      rw [List.map_append, List.map_singleton] at same
      obtain ⟨earlier', rest, rfl, sameEarlier, sameRest⟩ := List.map_eq_append_iff.mp same.symm
      obtain ⟨new', rfl, sameNew⟩ := List.map_eq_singleton_iff.mp sameRest
      rw [refusals_concat, refusals_concat, ih sameEarlier.symm,
        refusal?_congr redeclaration sameEarlier.symm sameNew.symm]

/-! ## Refusals up to their order -/

/-- Two lists have the same values, up to the order, if under every key they have
the same values. -/
theorem perm_map_of_keys {α β γ : Type} [DecidableEq β] [DecidableEq γ] (key : α → β)
    (value : α → γ) {first second : List α}
    (same : ∀ sought, (first.filter fun item => decide (key item = sought)).map value =
      (second.filter fun item => decide (key item = sought)).map value) :
    (first.map value).Perm (second.map value) := by
  have counted (list : List α) (sought : β) (result : γ) :
      (list.map fun item => (key item, value item)).count (sought, result) =
        ((list.filter fun item => decide (key item = sought)).map value).count result := by
    rw [List.count, List.count, List.countP_map, List.countP_map, List.countP_filter]
    apply List.countP_congr
    intro item _
    simp [and_comm]
  -- How often a pair occurs is decided under its key alone.
  have pairs : (first.map fun item => (key item, value item)).Perm
      (second.map fun item => (key item, value item)) := by
    rw [List.perm_iff_count]
    rintro ⟨sought, result⟩
    rw [counted, counted, same]
  have values := pairs.map Prod.snd
  rwa [List.map_map, List.map_map] at values

/-- **The diagnostics are the same, up to their order, if the registrations of every
name in every scope stand at the same places in the text**, in the same order. -/
theorem refusals_perm {first second : List (Registration κ)}
    (same : ∀ scope name,
      ((Registration.declaredIn scope first).filter (·.name == name)).map Declaration.span =
        ((Registration.declaredIn scope second).filter (·.name == name)).map Declaration.span) :
    (redeclaration.refusals first).Perm (redeclaration.refusals second) := by
  have signatures (registrations : List (Registration κ)) (sought : κ × String) :
      (registrations.filter fun registration => decide (registration.key = sought)).map
          Registration.signature =
        (((Registration.declaredIn sought.1 registrations).filter (·.name == sought.2)).map
          Declaration.span).map (sought, ·) := by
    rw [← Registration.map_filter_key, List.map_map, List.map_map]
    apply List.map_congr_left
    intro registration member
    have here : registration.key = sought := of_decide_eq_true (List.mem_filter.mp member).2
    rw [Registration.signature, here]
    rfl
  have named (registrations : List (Registration κ)) (sought : κ × String) :
      ((redeclaration.raised registrations).filter fun refused =>
          decide (refused.1.key = sought)).map Prod.snd =
        redeclaration.refusals
          (registrations.filter fun registration => decide (registration.key = sought)) := by
    rw [← map_snd_raised, raised_filter]
    intro first _ second _ sameKey
    rw [sameKey]
  rw [← map_snd_raised, ← map_snd_raised]
  apply perm_map_of_keys (fun refused => refused.1.key)
  intro sought
  rw [named, named]
  apply refusals_congr
  rw [signatures, signatures, same]

/-! ## Refusals under either choice -/

/-- Something stands for a name in a scope if a registration has this key. -/
theorem isSome_standing?_iff_mem {scope : κ} {name : String}
    {registrations : List (Registration κ)} :
    (redeclaration.standing? scope name registrations).isSome ↔
      (scope, name) ∈ registrations.map Registration.key := by
  rw [isSome_standing?_iff, List.mem_map]
  simp only [Registration.key, Prod.mk.injEq]

/-- Nothing stands for a name in a scope if no registration has this key. -/
theorem standing?_eq_none {scope : κ} {name : String} {registrations : List (Registration κ)}
    (absent : (scope, name) ∉ registrations.map Registration.key) :
    redeclaration.standing? scope name registrations = none := by
  rw [← Option.not_isSome_iff_eq_none, isSome_standing?_iff_mem]
  exact absent

/-- What stands for a name in a scope is a registration with this key. -/
theorem mem_of_standing? {scope : κ} {name : String} {registrations : List (Registration κ)}
    {standing : Registration κ}
    (stands : redeclaration.standing? scope name registrations = some standing) :
    standing ∈ registrations ∧ standing.key = (scope, name) := by
  cases redeclaration with
  | lastWins =>
      rw [standing?] at stands
      have isFor := List.find?_some stands
      exact ⟨List.mem_reverse.mp (List.mem_of_find?_eq_some stands),
        Registration.isFor_iff.mp isFor⟩
  | firstWins =>
      rw [standing?] at stands
      have isFor := List.find?_some stands
      exact ⟨List.mem_of_find?_eq_some stands, Registration.isFor_iff.mp isFor⟩

/-- If a registration has a key, one with this key stands for the name. -/
theorem exists_standing? {scope : κ} {name : String} {registrations : List (Registration κ)}
    (registered : (scope, name) ∈ registrations.map Registration.key) :
    ∃ standing, redeclaration.standing? scope name registrations = some standing ∧
      standing ∈ registrations ∧ standing.key = (scope, name) := by
  rw [← isSome_standing?_iff_mem redeclaration, Option.isSome_iff_exists] at registered
  obtain ⟨standing, stands⟩ := registered
  exact ⟨standing, stands, mem_of_standing? redeclaration stands⟩

/-- A registration is not refused if no earlier one has its key. -/
theorem refusal?_eq_none_iff {earlier : List (Registration κ)} {new : Registration κ} :
    redeclaration.refusal? earlier new = none ↔ new.key ∉ earlier.map Registration.key := by
  rw [refusal?, Option.map_eq_none_iff, ← Option.not_isSome_iff_eq_none,
    isSome_standing?_iff_mem]
  rfl

/-- **Nothing is refused exactly if no name is registered twice in a scope.** -/
theorem refusals_eq_nil_iff {registrations : List (Registration κ)} :
    redeclaration.refusals registrations = [] ↔ (registrations.map Registration.key).Nodup := by
  induction registrations using List.reverseRecOn with
  | nil => simp [refusals]
  | append_singleton earlier new ih =>
      rw [refusals_concat, List.append_eq_nil_iff, ih, Option.toList_eq_nil_iff,
        refusal?_eq_none_iff, List.map_append, List.map_singleton, List.nodup_append]
      simp

/-- **Which registrations are refused does not depend on which of two declarations
wins**, and neither do the names and places that are reported. -/
theorem map_name_span_refusals (other : Redeclaration) (registrations : List (Registration κ)) :
    (redeclaration.refusals registrations).map (fun refusal => (refusal.name, refusal.span)) =
      (other.refusals registrations).map fun refusal => (refusal.name, refusal.span) := by
  have refused (redeclaration : Redeclaration) (earlier : List (Registration κ))
      (new : Registration κ) :
      (redeclaration.refusal? earlier new).map (fun refusal => (refusal.name, refusal.span)) =
        if new.key ∈ earlier.map Registration.key then
          some (new.declaration.name, new.declaration.span)
        else none := by
    split
    next again =>
      obtain ⟨standing, stands, _⟩ := exists_standing? redeclaration again
      rw [refusal?, stands]
      rfl
    next fresh => rw [(refusal?_eq_none_iff redeclaration).mpr fresh, Option.map_none]
  induction registrations using List.reverseRecOn with
  | nil => rfl
  | append_singleton earlier new ih =>
      rw [refusals_concat, refusals_concat, List.map_append, List.map_append, ih,
        ← Option.toList_map, ← Option.toList_map, refused, refused]

/-- Registrations that stand for one name in one scope are the same if they are of
the same declaration. -/
theorem standing?_eq_of_map_declaration {first second : Redeclaration} {scope : κ} {name : String}
    {registrations : List (Registration κ)}
    (same : (first.standing? scope name registrations).map Registration.declaration =
      (second.standing? scope name registrations).map Registration.declaration) :
    first.standing? scope name registrations = second.standing? scope name registrations := by
  cases isFirst : first.standing? scope name registrations with
  | none =>
      rw [isFirst, Option.map_none] at same
      exact (Option.map_eq_none_iff.mp same.symm).symm
  | some standing =>
      rw [isFirst, Option.map_some] at same
      obtain ⟨other, isSecond, sameDeclaration⟩ := Option.map_eq_some_iff.mp same.symm
      have isKey := (mem_of_standing? first isFirst).2
      have isKey' := (mem_of_standing? second isSecond).2
      have sameScope : standing.scope = other.scope :=
        congrArg Prod.fst (isKey.trans isKey'.symm)
      rw [isSecond]
      cases standing
      cases other
      cases sameScope
      cases sameDeclaration
      rfl

theorem nodup_keys_of_standing?_eq {registrations : List (Registration κ)}
    (distinct : registrations.Nodup)
    (same : ∀ scope name, Redeclaration.lastWins.standing? scope name registrations =
      Redeclaration.firstWins.standing? scope name registrations) :
    (registrations.map Registration.key).Nodup := by
  induction registrations using List.reverseRecOn with
  | nil => exact List.nodup_nil
  | append_singleton earlier new ih =>
      obtain ⟨distinctEarlier, -, apart⟩ := List.nodup_append.mp distinct
      have fresh : new.key ∉ earlier.map Registration.key := by
        intro again
        obtain ⟨first, stands, member, _⟩ := exists_standing? .firstWins again
        have here := same new.scope new.declaration.name
        -- Of its key, `new` is the last one, and the one that stood before is the first.
        have isHere : new.isFor new.scope new.declaration.name := Registration.isFor_iff.mpr rfl
        simp only [standing?_concat, if_pos isHere] at here
        rw [stands, Option.some_or] at here
        exact apart first member new (List.mem_singleton_self new) (Option.some.inj here).symm
      -- For every other key, `new` makes no difference.
      have before : ∀ scope name, Redeclaration.lastWins.standing? scope name earlier =
          Redeclaration.firstWins.standing? scope name earlier := by
        intro scope name
        by_cases isKey : new.key = (scope, name)
        · rw [isKey] at fresh
          rw [standing?_eq_none .lastWins fresh, standing?_eq_none .firstWins fresh]
        · have notFor : ¬ new.isFor scope name := fun isFor =>
            isKey (Registration.isFor_iff.mp isFor)
          have here := same scope name
          rwa [standing?_concat, standing?_concat, if_neg notFor, if_neg notFor] at here
      rw [List.map_append, List.map_singleton]
      refine List.nodup_append.mpr ⟨ih distinctEarlier before, List.nodup_singleton _, ?_⟩
      rintro key isEarlier _ isNew rfl
      exact fresh (List.mem_singleton.mp isNew ▸ isEarlier)

/-- **The first and the last registration of every name are the same exactly if no
name is registered twice in a scope.** -/
theorem standing?_eq_iff {registrations : List (Registration κ)} (distinct : registrations.Nodup) :
    (∀ scope name, Redeclaration.lastWins.standing? scope name registrations =
        Redeclaration.firstWins.standing? scope name registrations) ↔
      (registrations.map Registration.key).Nodup := by
  constructor
  · exact nodup_keys_of_standing?_eq distinct
  · intro distinctKeys scope name
    by_cases registered : (scope, name) ∈ registrations.map Registration.key
    · obtain ⟨last, isLast, memberLast, keyLast⟩ := exists_standing? .lastWins registered
      obtain ⟨first, isFirst, memberFirst, keyFirst⟩ := exists_standing? .firstWins registered
      rw [isLast, isFirst]
      exact congrArg some (List.inj_on_of_nodup_map distinctKeys memberLast memberFirst
        (keyLast.trans keyFirst.symm))
    · rw [standing?_eq_none .lastWins registered, standing?_eq_none .firstWins registered]

end Redeclaration

end DecafScopes
