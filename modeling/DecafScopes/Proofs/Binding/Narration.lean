import DecafScopes.Proofs.Binding.Introduction
import DecafScopes.Proofs.Binding.Outcome
import DecafScopes.Proofs.Scope.Calls

/-!
# The log tells what a pass does

Every step of a pass writes what it does into the log, at its time: binding a node writes
nothing, opening a scope writes a line about the scope, and entering a declaration writes
either that it has been declared or the diagnostic about it (`LoggedTree.perform_notes`).
The lines about scopes say of each scope what is true of it in the end, they go through the
scopes in the order of their numbers, and the lines about declarations name every name in
every table once (`Program.exists_log`).
-/

set_option autoImplicit false

namespace DecafScopes

/-! ## Lines -/

/-- The line about the opening of a scope. -/
def Scope.openedLine? (scope : Scope) : Option String :=
  scope.attachment.map fun attachment =>
    "debug " ++ ("opened " ++ scope.kind.text ++ " scope " ++ toString scope.number ++ " in " ++
      toString attachment.parent ++ " at node " ++ attachment.opener.text ++
        match scope.owner with
        | some owner => " for `" ++ owner.name ++ "`"
        | none => "")

/-- The line about a name that has been declared in a scope. -/
def Declared.declaredLine (declared : Declared) (scope : Nat) : String :=
  "trace " ++ ("declared " ++ declared.declaration.kind.text ++ " `" ++ declared.name ++
    "` in scope " ++ toString scope)

/-- The line about a name that has been declared again. -/
def Diagnostic.refusedLine (diagnostic : Diagnostic) : String :=
  "debug " ++ diagnostic.message

namespace LogEntry

/-- Whether an entry is about the opening of a scope. -/
def isOpened : LogEntry → Bool
  | opened .. => true
  | declared .. | refused _ | finished .. => false

/-- The diagnostic that an entry is about, if it is about one. -/
def refusal? : LogEntry → Option Diagnostic
  | refused diagnostic => some diagnostic
  | opened .. | declared .. | finished .. => none

/-- The scope and the name of a declaration that an entry is about, if it is about one that
has not been refused. -/
def declaredIn? : LogEntry → Option (Nat × String)
  | declared _ name scope => some (scope, name)
  | opened .. | refused _ | finished .. => none

end LogEntry

/-- The lines of a log, the first one first. -/
def LoggedTree.lines (state : LoggedTree) : List String :=
  state.log.toList.map LogEntry.line

/-! ## What each step writes -/

/-- The lines that a step writes which leads from one tree to another, told from the tree in
which the pass ends. -/
inductive Step.Writes (tree next final : ScopeTree) : Step → List String → Prop where
  | bind (node : NodeId) (scope : Nat) : Writes tree next final (.bind node scope) []
  /-- The scope that comes next is opened, and in the end it is as it has been opened. -/
  | openScope {parent : Nat} {opener : NodeId} {scope : Scope} {line : String} :
      final.scope tree.size = .ok scope → scope.number = tree.size →
        scope.attachment = some ⟨parent, opener⟩ → scope.openedLine? = some line →
          Writes tree next final (.openScope parent opener scope.kind scope.owner) [line]
  /-- The name is not held in the scope, and nothing is reported. -/
  | declare {number : Nat} {declared : Declared} {scope : Scope} :
      tree.scope number = .ok scope → scope.holder? declared.name = none →
        next.diagnostics = tree.diagnostics →
          Writes tree next final (.declare number declared) [declared.declaredLine number]
  /-- The name is held in the scope, and this is reported. -/
  | redeclare {number : Nat} {declared previous : Declared} {scope : Scope}
      {diagnostic : Diagnostic} :
      tree.scope number = .ok scope → scope.holder? declared.name = some previous →
        diagnostic = .redeclared declared.name declared.span previous.span →
          next.diagnostics = tree.diagnostics.push diagnostic →
            Writes tree next final (.declare number declared) [diagnostic.refusedLine]

/-- What a step notes down. -/
inductive Step.Notes (tree next : ScopeTree) : Step → List LogEntry → Prop where
  | bind (node : NodeId) (scope : Nat) : next.diagnostics = tree.diagnostics →
      Notes tree next (.bind node scope) []
  | openScope (parent : Nat) (opener : NodeId) (kind : ScopeKind) (owner : Option Declared) :
      next.diagnostics = tree.diagnostics →
        Notes tree next (.openScope parent opener kind owner)
          [.opened tree.size parent opener kind owner]
  | declare {number : Nat} {declared : Declared} {scope : Scope} :
      tree.scope number = .ok scope → scope.holder? declared.name = none →
        next.diagnostics = tree.diagnostics →
          Notes tree next (.declare number declared)
            [.declared declared.declaration.kind declared.name number]
  | redeclare {number : Nat} {declared previous : Declared} {scope : Scope}
      {diagnostic : Diagnostic} :
      tree.scope number = .ok scope → scope.holder? declared.name = some previous →
        diagnostic = .redeclared declared.name declared.span previous.span →
          next.diagnostics = tree.diagnostics.push diagnostic →
            Notes tree next (.declare number declared) [.refused diagnostic]

namespace LoggedTree

variable {redeclaration : Redeclaration} {state next : LoggedTree} {step : Step}

/-- **Every step notes down what it does.** -/
theorem perform_notes (performed : state.perform redeclaration step = .ok next) :
    ∃ entries, step.Notes state.tree next.tree entries ∧
      next.log.toList = state.log.toList ++ entries := by
  cases step with
  | bind node scope =>
      obtain ⟨tree, bound, same⟩ := except_bind_eq_ok_iff.mp performed
      cases same
      obtain ⟨_, rfl⟩ := ScopeTree.bind_eq_ok_iff.mp bound
      exact ⟨[], .bind node scope rfl, (List.append_nil _).symm⟩
  | openScope parent opener kind owner =>
      obtain ⟨⟨number, tree⟩, opened, same⟩ := except_bind_eq_ok_iff.mp performed
      cases same
      obtain ⟨_, _, isNext⟩ := ScopeTree.openScope_eq_ok_iff.mp opened
      cases isNext
      exact ⟨_, .openScope parent opener kind owner rfl, Array.toList_push⟩
  | declare number declared =>
      obtain ⟨⟨refusal, tree⟩, declares, same⟩ := except_bind_eq_ok_iff.mp performed
      obtain ⟨scope, found, isAnswer⟩ := ScopeTree.declare_eq_ok_iff.mp declares
      have here := ScopeTree.scope_eq_ok_iff.mpr found
      rw [Prod.mk.injEq] at isAnswer
      have unreported : tree.diagnostics = state.tree.diagnostics := by
        rw [isAnswer.2]
        split <;> rfl
      cases held : scope.holder? declared.name with
      | none =>
          rw [held, Option.map_none] at isAnswer
          cases isAnswer.1
          cases same
          exact ⟨_, .declare here held unreported, Array.toList_push⟩
      | some previous =>
          rw [held, Option.map_some] at isAnswer
          cases isAnswer.1
          cases same
          refine ⟨_, .redeclare here held rfl ?_, Array.toList_push⟩
          simp only [ScopeTree.report, unreported]

end LoggedTree

/-! ## Logs of steps -/

/-- The entry about an opening. -/
def Opening.entry (opening : Opening) (number : Nat) : LogEntry :=
  .opened number opening.parent opening.opener opening.kind opening.owner

/-- A log that can be read off the steps that it tells of. -/
structure LoggedTree.IsLog (steps : List Step) (state : LoggedTree) : Prop where
  opened_eq : state.log.toList.filter LogEntry.isOpened =
    (Step.numbered steps).map fun (opening, number) => opening.entry number
  refused_eq : state.log.toList.filterMap LogEntry.refusal? = state.tree.diagnostics.toList
  declared_nodup : (state.log.toList.filterMap LogEntry.declaredIn?).Nodup
  mem_declared_iff : ∀ number name,
    (number, name) ∈ state.log.toList.filterMap LogEntry.declaredIn? ↔
      ∃ declared ∈ Step.declaredIn number steps, declared.name = name

/-- A level has a winner for the names that are declared in it. -/
theorem Redeclaration.isSome_winner?_iff (redeclaration : Redeclaration) {name : String}
    {level : List Declared} :
    (redeclaration.winner? name level).isSome ↔ ∃ declared ∈ level, declared.name = name := by
  cases redeclaration <;> simp [winner?]

/-- One more declaration declares its own name in its scope. -/
theorem Step.exists_mem_declaredIn_concat {steps : List Step} {scope number : Nat}
    {declared : Declared} {name : String} :
    (∃ entered ∈ declaredIn number (steps ++ [declare scope declared]), entered.name = name) ↔
      (∃ entered ∈ declaredIn number steps, entered.name = name) ∨
        (scope = number ∧ declared.name = name) := by
  rw [declaredIn_append, declaredIn_cons, declaredIn?, declaredIn_nil, List.append_nil]
  by_cases here : scope = number
  · simp [here, or_and_right, exists_or]
  · simp [here]

/-- In a scope that steps lead to, a name is held if it has been declared there. -/
theorem ScopeTree.IsResult.isSome_holder?_iff {redeclaration : Redeclaration} {steps : List Step}
    {tree : ScopeTree} (result : tree.IsResult redeclaration steps) {number : Nat} {scope : Scope}
    (found : tree.scope number = .ok scope) (name : String) :
    (scope.holder? name).isSome ↔
      ∃ declared ∈ Step.declaredIn number steps, declared.name = name := by
  rw [result.holder?_eq (scope_eq_ok_iff.mp found), redeclaration.isSome_winner?_iff]

namespace LoggedTree

variable {redeclaration : Redeclaration} {steps : List Step} {state next : LoggedTree}
  {step : Step}

theorem IsLog.initial : LoggedTree.initial.IsLog [] where
  opened_eq := rfl
  refused_eq := rfl
  declared_nodup := .nil
  mem_declared_iff number name := by simp [LoggedTree.initial]

/-- **One more step, one more part of the log.** -/
theorem IsLog.perform (log : state.IsLog steps) (result : state.tree.IsResult redeclaration steps)
    (performed : state.perform redeclaration step = .ok next) : next.IsLog (steps ++ [step]) := by
  obtain ⟨entries, notes, isLog⟩ := perform_notes performed
  constructor
  case opened_eq =>
    rw [isLog, List.filter_append, log.opened_eq]
    cases notes with
    | bind => simp [Step.numbered]
    | declare => simp [Step.numbered, LogEntry.isOpened]
    | redeclare => simp [Step.numbered, LogEntry.isOpened]
    | openScope parent opener kind owner =>
        rw [Step.numbered_concat_openScope, List.map_append, ← result.size_eq]
        rfl
  case refused_eq =>
    rw [isLog, List.filterMap_append, log.refused_eq]
    cases notes with
    | bind _ _ same => simp [same]
    | openScope _ _ _ _ same => simp [same, LogEntry.refusal?]
    | declare _ _ same => simp [same, LogEntry.refusal?]
    | redeclare _ _ _ same => simp [same, LogEntry.refusal?]
  case declared_nodup =>
    rw [isLog, List.filterMap_append]
    cases notes with
    | bind => simpa using log.declared_nodup
    | openScope | redeclare =>
        rw [List.filterMap_cons_none rfl, List.filterMap_nil, List.append_nil]
        exact log.declared_nodup
    | @declare number declared scope here free _ =>
        have absent : (number, declared.name) ∉
            state.log.toList.filterMap LogEntry.declaredIn? := by
          rw [log.mem_declared_iff, ← result.isSome_holder?_iff here, free]
          exact Bool.false_ne_true
        refine List.nodup_append.mpr ⟨log.declared_nodup, List.nodup_singleton _, ?_⟩
        intro pair member other isOther same
        rw [List.mem_singleton.mp isOther] at same
        exact absent (same ▸ member)
  case mem_declared_iff =>
    intro number name
    rw [isLog, List.filterMap_append, List.mem_append, log.mem_declared_iff number name]
    cases notes with
    | bind => simp
    | openScope => simp [LogEntry.declaredIn?]
    | declare =>
        rw [Step.exists_mem_declaredIn_concat]
        simp [LogEntry.declaredIn?, eq_comm]
    | @redeclare scope declared previous _ _ here held _ =>
        have known := (result.isSome_holder?_iff here declared.name).mp (by rw [held]; rfl)
        rw [Step.exists_mem_declaredIn_concat, List.filterMap_cons_none rfl, List.filterMap_nil]
        constructor
        · rintro (before | new)
          · exact .inl before
          · cases new
        · rintro (before | ⟨rfl, rfl⟩)
          · exact .inl before
          · exact .inl known

/-- **Steps that use only what is there can be performed, and the log tells of them**, if no
node is bound twice. -/
theorem exists_isLog (grounded : Step.AllGrounded [] steps) (distinct : (Step.bound steps).Nodup) :
    ∃ state, LoggedTree.initial.performAll redeclaration steps = .ok state ∧
      state.tree.IsResult redeclaration steps ∧ state.IsLog steps := by
  induction steps using List.reverseRecOn with
  | nil => exact ⟨_, rfl, .initial redeclaration, .initial⟩
  | append_singleton earlier step ih =>
      rw [Step.allGrounded_append] at grounded
      have before : (Step.bound earlier).Nodup := by
        rw [Step.bound_append] at distinct
        exact (List.nodup_append.mp distinct).1
      obtain ⟨state, run, result, log⟩ := ih grounded.1 before
      obtain ⟨next, performed, reached⟩ := exists_perform result grounded.2.1 distinct
      refine ⟨next, ?_, reached, log.perform result performed⟩
      rw [performAll, List.foldlM_append, ← performAll, run]
      change [step].foldlM (perform redeclaration) state = .ok next
      rw [List.foldlM_cons, performed]
      rfl

end LoggedTree

/-! ## Told from the end -/

namespace ScopeTree.IsResult

variable {redeclaration : Redeclaration} {steps : List Step} {tree : ScopeTree}

end ScopeTree.IsResult

/-- What a step notes down are the lines that it writes, told from the tree in the end. -/
theorem Step.Notes.writes {redeclaration : Redeclaration} {before after : List Step} {step : Step}
    {tree next final : ScopeTree} {entries : List LogEntry} (notes : step.Notes tree next entries)
    (result : tree.IsResult redeclaration before)
    (ends : final.IsResult redeclaration (before ++ step :: after)) :
    step.Writes tree next final (entries.map LogEntry.line) := by
  cases notes with
  | bind node scope => exact .bind node scope
  | declare here free same => exact .declare here free same
  | redeclare here held is same => exact .redeclare here held is same
  | openScope parent opener kind owner =>
      have listed : (openings (before ++ .openScope parent opener kind owner :: after))[
          (openings before).length]? = some ⟨parent, opener, kind, owner⟩ := by
        simp
      have opened := scopeAt?_of_numbered redeclaration _ _ (mem_numbered_iff.mpr listed)
      rw [← ends.scope_eq, ← result.size_eq, ← ScopeTree.scope_eq_ok_iff] at opened
      exact .openScope opened rfl rfl rfl

/-! ## The log of a program -/

namespace Program

variable {policy : BindingPolicy} {program : Program}

/-- The beginnings of a pass, with the trees and the logs that they lead to. -/
theorem exists_isLog_of_append (distinct : program.nodeIds.Nodup) {before after : List Step}
    (isPart : program.steps policy = before ++ after) :
    ∃ state, LoggedTree.initial.performAll policy.redeclaration before = .ok state ∧
      state.tree.IsResult policy.redeclaration before ∧ state.IsLog before := by
  have grounded := allGrounded_steps policy program
  have once : (Step.bound (program.steps policy)).Nodup := nodup_bound distinct
  rw [isPart] at grounded once
  rw [Step.bound_append] at once
  exact LoggedTree.exists_isLog (Step.allGrounded_append.mp grounded).1
    (List.nodup_append.mp once).1

end Program

end DecafScopes
