import TaskScript.Proofs.Run.Assignments
import TaskScript.Proofs.Run.Move

/-!
# Footprint — what a run may change

Besides the journal, the console and the store, a run changes the values of variables and nothing
else.  The journal tells which variables: those that commands assign, and a command says which one
it assigns in its first argument, in which no reference is replaced.

- `Runner.Issues`    : the commands that a run may come to
- `Runner.Confined`  : what a run may have changed
- `Runner.footprint` : no run changes more
-/

namespace TaskScript

/-- The name that an assignment assigns is the first argument as it is written. -/
theorem Action.head?_of_var {resolve : String → String} {kind : Keyword} {args : List String}
    {name value : String} (made : ofArgs? resolve kind args = some (.var name value)) :
    kind = .var ∧ args.head? = some name := by
  unfold ofArgs? at made
  split at made
  case h_5 => cases made; exact ⟨rfl, rfl⟩
  all_goals cases made

/-- A name that is found has its value among the assignments. -/
theorem Bindings.exists_mem_of_get?_setAll {α : Type} {b : Bindings α}
    {assignments : List (String × α)} {name : String}
    (differs : (b.setAll assignments).get? name ≠ b.get? name) :
    ∃ value, (name, value) ∈ assignments := by
  rw [get?_setAll] at differs
  cases found : assignments.lookup name with
  | none =>
    rw [found] at differs
    exact absurd rfl differs
  | some value =>
    rcases List.lookup_eq_some_iff.1 found with ⟨before, after, split, -⟩
    rw [split]
    exact ⟨value, List.mem_append_right _ List.mem_cons_self⟩

/-- Assignments leave no name without a value. -/
theorem Bindings.contains_setAll {α : Type} {b : Bindings α} {name : String}
    (has : b.contains name = true) (assignments : List (String × α)) :
    (b.setAll assignments).contains name = true := by
  rw [contains] at has ⊢
  rw [get?_setAll, Option.isSome_or, has, Bool.or_true]

namespace Runner

variable {spawn : Spawn} {r s : Runner} {owner name : String} {command : Command} {focus : Focus}

/-- A command that a run may come to: the one that the run was asked for, or one of the script. -/
def Issues (r : Runner) (focus : Focus) (command : Command) : Prop :=
  (∃ owner, focus = .command owner command) ∨ ∃ task ∈ r.script.tasks, command ∈ task.commands

/-- What a run that was asked for `focus` may have changed: not the script with what it declares,
not the arguments and not the settings, among which are the working directory, the interpreter, the
depth of calls, the strictness and the verbosity.  No variable has lost its value, and each one whose
value differs is, to the letter, the first argument of a command that assigns. -/
structure Confined (r : Runner) (focus : Focus) (s : Runner) : Prop where
  script : s.script = r.script
  declared : s.script.declared = r.script.declared
  positional : s.positional = r.positional
  named : s.named = r.named
  settings : s.settings = r.settings
  kept : ∀ name, r.runtime.contains name = true → s.runtime.contains name = true
  assigned : ∀ name, s.runtime.get? name ≠ r.runtime.get? name →
    ∃ command, Issues r focus command ∧ command.keyword = "var" ∧ command.args.head? = some name

/-- An assignment that is made at some stage is that of a command that the run may come to. -/
theorem issues_of_dispatch? {n : Nat} {dispatch : Dispatch} {value : String}
    (outside : ∀ owner rest, focus ≠ .body owner rest)
    (next : (stageAt spawn focus r n).dispatch? = some dispatch)
    (assigns : dispatch.action.assignment? = some (name, value)) :
    ∃ command, Issues r focus command ∧ command.keyword = "var" ∧
      command.args.head? = some name := by
  have came : ∀ owner command, (stageAt spawn focus r n).focus = .command owner command → _ :=
    fun owner command => command_of_stageAt outside
  generalize stageAt spawn focus r n = a at next came
  -- a dispatch is that of the command in focus, with the action that its arguments make
  unfold Stage.dispatch? at next
  split at next
  case h_2 => cases next
  case h_1 owner command isCommand =>
    rcases Option.map_eq_some_iff.1 next with ⟨action, ready, same⟩
    have isVar : action = .var name value := by
      rw [← same] at assigns
      unfold Action.assignment? at assigns
      split at assigns
      · cases assigns
        assumption
      · cases assigns
    rw [isVar] at ready
    rcases Option.bind_eq_some_iff.1 ready with ⟨kind, known, made⟩
    rcases Action.head?_of_var made with ⟨isVar', head⟩
    have keyword : command.keyword = "var" := by
      rw [isVar'] at known
      exact Command.kind?_eq_some_iff.1 known
    refine ⟨command, ?_, keyword, head⟩
    rcases came owner command isCommand with asked | ⟨task, found, mem⟩
    · exact .inl ⟨owner, asked⟩
    · exact .inr ⟨task, Script.mem_of_findTask? found, mem⟩

/-- Wherever the steps of a run end, it has changed no more than it may. -/
theorem confined_of_reaches {done : Outcome × Runner}
    (outside : ∀ owner rest, focus ≠ .body owner rest)
    (ends : Reaches spawn (begin focus r) (finish [] done)) (kept : Keeps r done.2) :
    Confined r focus done.2 := by
  rcases ends with ⟨n, last⟩
  -- the values of variables are told by the assignments in the journal of the run
  rcases recorded_iterate spawn (begin focus r) n with ⟨dispatches, recorded, stages⟩
  rw [last] at recorded
  have runtime : done.2.runtime = r.runtime.setAll (Dispatch.assignments dispatches) :=
    recorded.runtime
  constructor
  · exact kept.script
  · exact congrArg Script.declared kept.script
  · exact kept.positional
  · exact kept.named
  · exact kept.settings
  · intro name has
    rw [runtime]
    exact Bindings.contains_setAll has _
  · intro name differs
    rw [runtime] at differs
    rcases Bindings.exists_mem_of_get?_setAll differs with ⟨value, mem⟩
    rcases List.mem_filterMap.1 mem with ⟨dispatch, carriedOut, assigns⟩
    rcases stages dispatch carriedOut with ⟨m, next⟩
    exact issues_of_dispatch? outside next assigns

/-- No run of a task or of a command changes more than it may, whether it fails or not. -/
theorem footprint (spawn : Spawn) (r : Runner) :
    (∀ name, Confined r (.task name) (r.executeTask spawn name).2) ∧
      ∀ owner command,
        Confined r (.command owner command) (r.executeCommand spawn owner command).2 := by
  constructor
  · intro name
    exact confined_of_reaches nofun (reaches_executeTask spawn name [] r)
      (executeTask_keeps spawn name r)
  · intro owner command
    exact confined_of_reaches nofun (reaches_executeCommand spawn owner command [] r)
      (executeCommand_keeps spawn owner command r)

/-- A name that reads like a reference is assigned as it stands, though its argument is another. -/
theorem footprint_of_reference :
    let r := (fresh release).setTaskArgs "build" ["MODE"]
    let s := (r.executeCommand noChild "build" ⟨"var", ["?1", "?1"], 0⟩).2
    s.runtime.get? "?1" = some "MODE" ∧ s.runtime.contains "MODE" = false ∧
      Confined r (.command "build" ⟨"var", ["?1", "?1"], 0⟩) s := by
  intro r s
  have assigned : s.runtime.get? "?1" = some "MODE" := by decide +kernel
  have other : s.runtime.contains "MODE" = false := by decide +kernel
  exact ⟨assigned, other, (footprint noChild r).2 "build" ⟨"var", ["?1", "?1"], 0⟩⟩

end Runner
end TaskScript
