import TaskScript.Proofs.Reading.Accounting
import TaskScript.Proofs.Reading.Shape
import TaskScript.Proofs.Run.Soundness

/-!
# Form — what a script that was read looks like

Names are words, values hold no quotes, and every command has the arguments that can be written
behind its keyword.  A `var` command is never read in one of the general shapes, so that it has a
name and a value, and no command has fewer arguments than its keyword consumes.

- `Command.Shaped`, `Script.Shaped` : what can be read
- `Script.HasArguments`             : no command has too few arguments
- `Script.NeverLacksArguments`      : what follows for checks and for runs
- `Reading.formation`               : every text is read as a script of this form
-/

namespace TaskScript

/-! ## What can be read -/

/-- A command as it can be written: a name as keyword, behind `var` a name and a value, and behind
any other keyword one argument, or two without quotes. -/
structure Command.Shaped (command : Command) : Prop where
  keyword : IsName command.keyword
  assignment : command.keyword = Keyword.var.text →
    ∃ name value, command.args = [name, value] ∧ IsName name ∧ '"' ∉ value.toList
  other : command.keyword ≠ Keyword.var.text →
    (∃ arg, command.args = [arg]) ∨
      ∃ first second, command.args = [first, second] ∧
        '"' ∉ first.toList ∧ '"' ∉ second.toList

/-- A script whose parts can all be written. -/
structure Script.Shaped (script : Script) : Prop where
  declarations : ∀ declared ∈ script.declarations,
    IsName declared.name ∧ '"' ∉ declared.value.toList
  names : ∀ task ∈ script.tasks, IsName task.name
  commands : ∀ task ∈ script.tasks, ∀ command ∈ task.commands, command.Shaped

namespace Line

variable {inTask : Bool} {raw : List Char} {keyword name value : String} {args : List String}

/-- A line that begins with `var` is never read in one of the general shapes. -/
theorem shaped_of_classify (is : classify inTask raw = .command keyword args) (number : Nat) :
    Command.Shaped ⟨keyword, args, number⟩ := by
  have opened := inTask_of_command is
  subst opened
  rw [classify_of_counts (counts_of_classify is nofun)] at is
  split at is
  · -- the keyword is `var`, and the arguments are those of a declaration
    split at is
    · next declared value found =>
      obtain ⟨rfl, rfl⟩ := Line.command.inj is
      obtain ⟨_, _, _, _, -, isName, -, -, absent, -⟩ := declaration?_eq_some_iff.1 found
      have isVar : IsName Keyword.var.text := by decide
      exact ⟨isVar, fun _ => ⟨declared, value, rfl, isName, absent⟩, fun other => absurd rfl other⟩
    · exact nomatch is
  · next free =>
    split at is
    · exact nomatch is
    · rw [if_pos rfl] at is
      split at is
      · next found =>
        obtain ⟨rfl, rfl⟩ := Line.command.inj is
        obtain ⟨⟨rest, opens⟩, arguments⟩ := command?_eq_some found
        refine ⟨opens.isName, fun isVar => ?_, fun _ => arguments⟩
        -- behind `var` the line would have been taken for a declaration
        obtain rfl : _ = "var" := isVar
        exact absurd (startsWithVar_of_opens opens) free
      · exact nomatch is

/-- A line that declares a variable gives it a name, and a value without quotes. -/
theorem shape_of_declaration (is : classify inTask raw = .declaration name value) :
    IsName name ∧ '"' ∉ value.toList := by
  have closed := inTask_of_declaration is
  subst closed
  rw [classify_of_counts (counts_of_classify is nofun)] at is
  split at is
  · split at is
    · next found =>
      obtain ⟨rfl, rfl⟩ := Line.declaration.inj is
      obtain ⟨_, _, _, _, -, isName, -, -, absent, -⟩ := declaration?_eq_some_iff.1 found
      exact ⟨isName, absent⟩
    · exact nomatch is
  · split at is
    · exact nomatch is
    · exact nomatch is

end Line

namespace Reading

variable {lines : List (List Char)} {reading : Reading}

/-- What stands on the lines of a text has the form of what can be written. -/
theorem Accounted.shaped (h : Accounted lines reading) : reading.script.Shaped where
  declarations := by
    intro declared mem
    rw [h.declarations] at mem
    obtain ⟨raw, -, is⟩ := List.mem_filterMap.1 mem
    unfold declared? at is
    split at is
    · next found =>
      obtain rfl := Option.some.inj is
      exact Line.shape_of_declaration found
    · exact nomatch is
  names := by
    intro task mem
    obtain ⟨raw, -, is⟩ := h.sourced.tasks task mem
    obtain ⟨_, _, _, -, isName, -⟩ := Line.header?_eq_some_iff.1 is
    exact isName
  commands := by
    intro task mem command memc
    obtain ⟨raw, -, is⟩ := h.sourced.commands task mem command memc
    exact Line.shaped_of_classify is command.line

end Reading

/-! ## Arguments that are never missing -/

/-- A command that has the arguments its keyword consumes, if that is known at all. -/
def Command.HasArguments (command : Command) : Prop :=
  ∀ kind, command.kind? = some kind → kind.arity ≤ command.args.length

/-- A script in which no command has too few arguments. -/
def Script.HasArguments (script : Script) : Prop :=
  ∀ task ∈ script.tasks, ∀ command ∈ task.commands, command.HasArguments

/-- A command of the form that can be read has the arguments that its keyword consumes. -/
theorem Command.Shaped.hasArguments {command : Command} (h : command.Shaped) :
    command.HasArguments := by
  intro kind known
  have written : kind.text = command.keyword := Keyword.text_of_ofText? known
  by_cases isVar : command.keyword = Keyword.var.text
  · obtain ⟨name, value, args, -⟩ := h.assignment isVar
    rw [args]
    cases kind <;> simp [Keyword.arity]
  · -- every other keyword consumes one argument
    have single : kind.arity = 1 := by
      cases kind with
      | var => exact absurd written.symm isVar
      | run => rfl
      | del => rfl
      | ech => rfl
      | tsk => rfl
    rw [single]
    rcases h.other isVar with ⟨arg, args⟩ | ⟨first, second, args, -⟩
    · rw [args]
      exact Nat.le_refl 1
    · rw [args]
      exact Nat.le_succ 1

theorem Script.Shaped.hasArguments {script : Script} (h : script.Shaped) : script.HasArguments :=
  fun task mem command memc => (h.commands task mem command memc).hasArguments

/-! ### Checks -/

/-- A script is refused because a command has too few arguments. -/
def ScriptFault.LacksArguments : ScriptFault → Prop
  | .missingArguments _ _ _ _ _ => True
  | _ => False

/-- A command that has its arguments is at fault only because its keyword is not known. -/
theorem Command.HasArguments.fault? {command : Command} {owner : String} {fault : ScriptFault}
    (h : command.HasArguments) (found : command.fault? owner = some fault) :
    ¬ fault.LacksArguments := by
  unfold Command.fault? at found
  split at found
  · obtain rfl := Option.some.inj found
    exact id
  · next kind known =>
    rw [if_neg (Nat.not_lt.2 (h kind known))] at found
    cases found

namespace Script

variable {script : Script} {task : Task} {fault : ScriptFault}

/-- A fault of a task is one of its commands, or a target that is not declared. -/
theorem exists_of_taskFault? (h : script.taskFault? task = some fault) :
    (∃ command ∈ task.commands, command.fault? task.name = some fault) ∨
      ∃ target, fault = .undefinedTask target := by
  rcases Option.or_eq_some_iff.1 h with h | ⟨-, h⟩
  · exact .inl (List.exists_of_findSome?_eq_some h)
  · obtain ⟨target, -, undeclared⟩ := List.exists_of_findSome?_eq_some h
    unfold targetFault? at undeclared
    split at undeclared
    · exact nomatch undeclared
    · exact .inr ⟨target, (Option.some.inj undeclared).symm⟩

/-- A fault of some tasks is a name that is used twice, or a fault of one of them. -/
theorem exists_of_tasksFault? {earlier : List String} {tasks : List Task}
    (h : script.tasksFault? earlier tasks = some fault) :
    (∃ name line, fault = .duplicateTask name line) ∨
      ∃ task ∈ tasks, script.taskFault? task = some fault := by
  induction tasks generalizing earlier with
  | nil => exact nomatch h
  | cons task rest ih =>
    unfold tasksFault? at h
    split at h
    · exact .inl ⟨task.name, task.line, (Option.some.inj h).symm⟩
    · rcases Option.or_eq_some_iff.1 h with h | ⟨-, h⟩
      · exact .inr ⟨task, List.mem_cons_self, h⟩
      · rcases ih h with again | ⟨other, mem, h⟩
        · exact .inl again
        · exact .inr ⟨other, List.mem_cons_of_mem task mem, h⟩

/-- A script is refused because a name is used twice, because of a task, or because of a circle. -/
theorem fault?_cases (h : script.fault? = some fault) :
    (∃ name line, fault = .duplicateTask name line) ∨
      (∃ task ∈ script.tasks, script.taskFault? task = some fault) ∨
      ∃ path, fault = .circular path := by
  cases found : script.tasksFault? [] script.tasks with
  | some first =>
    rw [fault?, found, Option.some_or] at h
    obtain rfl := Option.some.inj h
    rcases exists_of_tasksFault? found with again | ofTask
    · exact .inl again
    · exact .inr (.inl ofTask)
  | none =>
    -- the search meets no task that is not declared, since all targets are
    have formed := tasksFault?_eq_none_iff_wellFormed.1 found
    rw [formed.fault?_eq] at h
    obtain ⟨path, -, same⟩ := Option.map_eq_some_iff.1 h
    exact .inr (.inr ⟨path, same.symm⟩)

theorem HasArguments.taskFault? (h : script.HasArguments) (mem : task ∈ script.tasks)
    (found : script.taskFault? task = some fault) : ¬ fault.LacksArguments := by
  rcases exists_of_taskFault? found with ⟨command, memc, own⟩ | ⟨target, rfl⟩
  · exact (h task mem command memc).fault? own
  · exact id

theorem HasArguments.fault? (h : script.HasArguments) (found : script.fault? = some fault) :
    ¬ fault.LacksArguments := by
  rcases fault?_cases found with ⟨name, line, rfl⟩ | ⟨task, mem, ofTask⟩ | ⟨path, rfl⟩
  · exact id
  · exact h.taskFault? mem ofTask
  · exact id

end Script

/-! ### Runs -/

/-- A command failed because it has too few arguments. -/
def RunFault.LacksArguments : RunFault → Prop
  | .internal _ (.missingArguments _ _ _) => True
  | _ => False

theorem RunFault.IsExternal.not_lacksArguments {fault : RunFault} (external : fault.IsExternal) :
    ¬ fault.LacksArguments := by
  intro lacks
  unfold RunFault.LacksArguments at lacks
  split at lacks
  · exact external
  · exact lacks

namespace Runner

variable {spawn : Spawn} {r : Runner} {name owner : String} {command : Command} {fault : RunFault}

/-- A command that has its arguments gets as far as its action. -/
theorem exists_prepared (h : command.HasArguments) {kind : Keyword}
    (known : command.kind? = some kind) (r : Runner) (owner : String) :
    ∃ action, (r.prepare owner command kind).1 = .ok action := by
  unfold prepare
  split
  · next missing =>
    have few := Action.ofArgs?_eq_none_iff.1 missing
    exact absurd (h kind known) (Nat.not_le.2 few)
  · next action _ => exact ⟨action, rfl⟩

theorem not_lacksArguments_of_refusal? (refused : r.refusal? name = some fault) :
    ¬ fault.LacksArguments := by
  rcases refusal?_eq_some refused with ⟨rfl, -⟩ | ⟨rfl, -⟩ | ⟨rfl, -⟩
  · exact id
  · exact id
  · exact id

theorem not_lacksArguments_of_ownFault? (h : command.HasArguments)
    (own : r.ownFault? spawn owner command = some fault) : ¬ fault.LacksArguments := by
  cases known : command.kind? with
  | none =>
    have failed := fault_of_ownFault? own
    rw [executeCommand, runCommand_of_unknown known] at failed
    obtain rfl := Except.error.inj failed
    exact id
  | some kind =>
    rcases ownFault?_cases ⟨kind, known, h kind known⟩ own with ⟨target, -, refused⟩ | external
    · exact not_lacksArguments_of_refusal? refused
    · exact external.not_lacksArguments

/-- No run of a script fails for arguments that none of its commands lacks. -/
theorem not_lacksArguments_of_executeTask (h : r.script.HasArguments)
    (failed : (r.executeTask spawn name).1 = .error fault) : ¬ fault.LacksArguments := by
  rcases executeTask_error_iff.1 failed with
    refused | ⟨calls, owner, command, rest, s, moment, own⟩
  · exact not_lacksArguments_of_refusal? refused
  · obtain ⟨task, mem, -, memc⟩ := moment.command_mem
    exact not_lacksArguments_of_ownFault? (h task mem command memc) own

theorem not_lacksArguments_of_executeCommand (h : r.script.HasArguments)
    (here : command.HasArguments)
    (failed : (r.executeCommand spawn owner command).1 = .error fault) :
    ¬ fault.LacksArguments := by
  by_cases isCall : ∃ target, r.action? owner command = some (.tsk target)
  · -- what fails is the task that is called, or a command below it
    obtain ⟨target, ready⟩ := isCall
    rw [executeCommand_of_call ready, invokeTask_error_iff] at failed
    have kept := calling_keeps r owner command target
    exact not_lacksArguments_of_executeTask (kept.script ▸ h) failed
  · have own := ownFault?_of_fault (fun target ready => isCall ⟨target, ready⟩) failed
    exact not_lacksArguments_of_ownFault? here own

end Runner

/-- Arguments of a script are never missing: no check finds so, every command gets as far as its
action, whatever the state, and no run of the script fails for that reason. -/
structure Script.NeverLacksArguments (script : Script) : Prop where
  checked : ∀ fault, script.fault? = some fault → ¬ fault.LacksArguments
  checkedTask : ∀ task ∈ script.tasks, ∀ fault, script.taskFault? task = some fault →
    ¬ fault.LacksArguments
  prepared : ∀ task ∈ script.tasks, ∀ command ∈ task.commands, ∀ kind,
    command.kind? = some kind → ∀ (r : Runner) (owner : String),
      ∃ action, (r.prepare owner command kind).1 = .ok action
  taskRun : ∀ (spawn : Spawn) (r : Runner) (name : String) (fault : RunFault),
    r.script = script → (r.executeTask spawn name).1 = .error fault → ¬ fault.LacksArguments
  commandRun : ∀ task ∈ script.tasks, ∀ command ∈ task.commands, ∀ (spawn : Spawn) (r : Runner)
    (owner : String) (fault : RunFault), r.script = script →
      (r.executeCommand spawn owner command).1 = .error fault → ¬ fault.LacksArguments

theorem Script.HasArguments.neverLacksArguments {script : Script} (h : script.HasArguments) :
    script.NeverLacksArguments where
  checked fault found := h.fault? found
  checkedTask task mem fault found := h.taskFault? mem found
  prepared := by
    intro task mem command memc kind known r owner
    exact Runner.exists_prepared (h task mem command memc) known r owner
  taskRun := by
    rintro spawn r name fault rfl failed
    exact Runner.not_lacksArguments_of_executeTask h failed
  commandRun := by
    rintro task mem command memc spawn r owner fault rfl failed
    exact Runner.not_lacksArguments_of_executeCommand h (h task mem command memc) failed

/-- Whatever the text, the script that is read from it has the form of what can be written, and its
commands never lack arguments. -/
theorem Reading.formation (source : String) :
    (Script.ofText source).Shaped ∧ (Script.ofText source).NeverLacksArguments := by
  have shaped : (Script.ofText source).Shaped := (Reading.accounting source).shaped
  exact ⟨shaped, shaped.hasArguments.neverLacksArguments⟩

end TaskScript
