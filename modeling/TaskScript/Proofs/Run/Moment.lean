import TaskScript.Proofs.Run.Entry

/-!
# Moment — the points that a run comes by

A run of a task is at some moment between two commands of some task, with calls under way below it.
`Runner.Moment` says which moments a run comes to.  Each follows from the one before by a command
that was carried out well or by entering the task that a command calls, so that what these two steps
preserve holds at every moment:

- `Moment.keeps`, `Moment.found`     : the state and the owner
- `Moment.stack_eq`, `Moment.nodup`  : the task stack
- `Moment.linked`, `Moment.called`   : the calls under way
- `Runner.executeTask_error_iff` : a run fails with the fault that some command has by itself
- `Moment.sublist_journal`       : the calls under way stand in the journal, in their order
- `Moment.executeTask_refusedCall` : and a call that was refused stands before all others
-/

namespace TaskScript
namespace Runner

/-- The run of the task `name` from the state `r` comes to the state `s`, in which `rest` is left to
be carried out on behalf of `owner`.  `calls` are the calls under way, the latest first. -/
inductive Moment (spawn : Spawn) (r : Runner) (name : String) :
    List Dispatch → String → List Command → Runner → Prop where
  /-- The task has been entered. -/
  | start {task : Task} (free : r.refusal? name = none)
      (found : r.script.findTask? name = some task) :
      Moment spawn r name [] name task.commands (r.enter name)
  /-- A command has been carried out. -/
  | next {calls : List Dispatch} {owner : String} {command : Command} {rest : List Command}
      {s t : Runner} {message : Option String}
      (before : Moment spawn r name calls owner (command :: rest) s)
      (done : s.executeCommand spawn owner command = (.ok message, t)) :
      Moment spawn r name calls owner rest t
  /-- The task that a command calls has been entered. -/
  | call {calls : List Dispatch} {owner target : String} {command : Command}
      {rest : List Command} {s : Runner} {task : Task}
      (before : Moment spawn r name calls owner (command :: rest) s)
      (ready : s.action? owner command = some (.tsk target))
      (free : s.refusal? target = none) (found : s.script.findTask? target = some task) :
      Moment spawn r name (⟨s.stack, owner, command, .tsk target⟩ :: calls) target task.commands
        ((s.calling owner command target).enter target)

variable {spawn : Spawn} {r s : Runner} {name owner : String} {calls : List Dispatch}
  {command : Command} {rest : List Command}

namespace Moment

/-! ## What holds at every moment -/

/-- Apart from the task stack, the frame is that of the state in which the run began. -/
theorem keeps (h : Moment spawn r name calls owner rest s) :
    Keeps { r with stack := s.stack } s := by
  induction h with
  | start free found => exact Keeps.note _ _ _
  | next before done ih =>
    have step := keeps_of_executeCommand done
    rw [step.stack]
    exact ih.trans step
  | @call calls owner target command rest s task before ready free found ih =>
    have called : Keeps s (s.calling owner command target) := calling_keeps _ _ _ _
    have entered := (ih.trans called).trans (Keeps.note _ .info ("Running task: " ++ target))
    exact ⟨entered.script, entered.settings, entered.positional, entered.named, rfl,
      entered.console⟩

/-- The commands that are left are the last ones of the task. -/
theorem found (h : Moment spawn r name calls owner rest s) :
    ∃ task, r.script.findTask? owner = some task ∧ ∃ done, task.commands = done ++ rest := by
  induction h with
  | start free found => exact ⟨_, found, [], rfl⟩
  | @next calls owner command rest s t message before done ih =>
    obtain ⟨task, found, earlier, he⟩ := ih
    exact ⟨task, found, earlier ++ [command], by simp [he]⟩
  | call before ready free found ih =>
    rw [before.keeps.script] at found
    exact ⟨_, found, [], rfl⟩

/-- The command that comes next is one of the task. -/
theorem command_mem (h : Moment spawn r name calls owner (command :: rest) s) :
    ∃ task ∈ r.script.tasks, task.name = owner ∧ command ∈ task.commands := by
  obtain ⟨task, found, done, he⟩ := h.found
  exact ⟨task, Script.mem_of_findTask? found, Script.name_of_findTask? found, by simp [he]⟩

/-- The owners of the calls under way are on the stack, below the running task. -/
theorem stack_eq (h : Moment spawn r name calls owner rest s) :
    s.stack = owner :: calls.map Dispatch.owner ++ r.stack := by
  induction h with
  | start free found => rfl
  | next before done ih => rw [(keeps_of_executeCommand done).stack, ih]
  | @call calls owner target command rest s task before ready free found ih =>
    rw [enter_stack, (calling_keeps s owner command target).stack, ih]
    rfl

/-- No task is running twice. -/
theorem nodup (h : Moment spawn r name calls owner rest s) (distinct : r.stack.Nodup) :
    s.stack.Nodup := by
  induction h with
  | start free found =>
    obtain ⟨-, idle, -⟩ := refusal?_eq_none_iff.1 free
    exact List.nodup_cons.2 ⟨idle, distinct⟩
  | next before done ih => rwa [(keeps_of_executeCommand done).stack]
  | @call calls owner target command rest s task before ready free found ih =>
    obtain ⟨-, idle, -⟩ := refusal?_eq_none_iff.1 free
    rw [enter_stack, (calling_keeps s owner command target).stack]
    exact List.nodup_cons.2 ⟨idle, ih⟩

/-- Each call under way was, at its own moment, a command that calls the next task, and it tells the
task stack of this moment. -/
theorem called (h : Moment spawn r name calls owner rest s) {call : Dispatch}
    (mem : call ∈ calls) :
    ∃ earlier after t target, Moment spawn r name earlier call.owner (call.command :: after) t ∧
      t.action? call.owner call.command = some (.tsk target) ∧ call.action = .tsk target ∧
        call.stack = t.stack := by
  induction h with
  | start free found => exact absurd mem List.not_mem_nil
  | next before done ih => exact ih mem
  | @call calls owner target command rest s task before ready free found ih =>
    rcases List.mem_cons.1 mem with rfl | mem
    · exact ⟨calls, rest, s, target, before, ready, rfl, rfl⟩
    · exact ih mem

end Moment

/-- Calls, the latest first, of which the first is made by `name`, each calls the owner of the one
after it, and the latest calls `owner`. -/
def Linked (name : String) : List Dispatch → String → Prop
  | [], owner => owner = name
  | call :: calls, owner => call.action = .tsk owner ∧ Linked name calls call.owner

theorem Moment.linked (h : Moment spawn r name calls owner rest s) : Linked name calls owner := by
  induction h with
  | start free found => rfl
  | next before done ih => exact ih
  | call before ready free found ih => exact ⟨rfl, ih⟩

/-! ## Where faults come from -/

/-- The fault that a command has by itself, and not through a task that it enters. -/
def ownFault? (spawn : Spawn) (r : Runner) (owner : String) (command : Command) :
    Option RunFault :=
  match r.action? owner command with
  | some (.tsk target) => r.refusal? target
  | _ =>
    match (r.executeCommand spawn owner command).1 with
    | .error fault => some fault
    | .ok _ => none

theorem ownFault?_of_call {target : String} (ready : r.action? owner command = some (.tsk target)) :
    r.ownFault? spawn owner command = r.refusal? target := by
  simp only [ownFault?, ready]

theorem ownFault?_of_fault {fault : RunFault}
    (noCall : ∀ target, r.action? owner command ≠ some (.tsk target))
    (failed : (r.executeCommand spawn owner command).1 = .error fault) :
    r.ownFault? spawn owner command = some fault := by
  unfold ownFault?
  split
  · next target ready => exact absurd ready (noCall target)
  · rw [failed]

theorem executeCommand_of_call {target : String}
    (ready : r.action? owner command = some (.tsk target)) :
    r.executeCommand spawn owner command =
      (r.calling owner command target).invokeTask (fun name s => s.executeTask spawn name) target :=
  runCommand_of_call ready

/-- A call fails exactly if the called task does. -/
theorem invokeTask_error_iff {invoke : Invoke} {target : String} {fault : RunFault} :
    (r.invokeTask invoke target).1 = .error fault ↔ (invoke target r).1 = .error fault := by
  unfold invokeTask
  split <;> simp_all

/-- A command that fails by itself fails. -/
theorem fault_of_ownFault? {fault : RunFault}
    (own : r.ownFault? spawn owner command = some fault) :
    (r.executeCommand spawn owner command).1 = .error fault := by
  unfold ownFault? at own
  split at own
  · next target ready =>
    have refused : (r.calling owner command target).refusal? target = some fault := by
      rw [refusal?_of_keeps (calling_keeps r owner command target), own]
    rw [executeCommand_of_call ready, invokeTask_error_iff, executeTask_of_refusal refused]
  · split at own
    · next cause failed => rw [failed, Option.some.inj own]
    · exact nomatch own

/-- A command that fails ends the commands of its task. -/
theorem runCommands_error {fault : RunFault} {t : Runner}
    (failed : s.executeCommand spawn owner command = (.error fault, t)) :
    runCommands spawn (fun target s => s.executeTask spawn target) owner (command :: rest) s =
      (some fault, t) := by
  rw [executeCommand] at failed
  rw [runCommands_cons, failed]

/-- A command that does not fail leaves the rest of the commands of its task. -/
theorem runCommands_ok {message : Option String} {t : Runner}
    (done : s.executeCommand spawn owner command = (.ok message, t)) :
    runCommands spawn (fun target s => s.executeTask spawn target) owner (command :: rest) s =
      runCommands spawn (fun target s => s.executeTask spawn target) owner rest t := by
  rw [executeCommand] at done
  rw [runCommands_cons, done]

/-- A task fails exactly if one of its commands does. -/
theorem leave_error_iff {fault : RunFault} {done : Option RunFault × Runner} :
    (leave name done).1 = .error fault ↔ done.1 = some fault := by
  obtain ⟨result, t⟩ := done
  cases result <;> simp [leave]

/-- A fault arises at some moment of a run. -/
def Arises (spawn : Spawn) (r : Runner) (name : String) (fault : RunFault) : Prop :=
  ∃ calls owner command rest s, Moment spawn r name calls owner (command :: rest) s ∧
    s.ownFault? spawn owner command = some fault

/-- If the faults of called tasks arise at some moment, so do those of commands. -/
theorem arises_of_runCommands {fault : RunFault} {commands : List Command}
    (h : Moment spawn r name calls owner commands s)
    (below : ∀ command rest t target, Moment spawn r name calls owner (command :: rest) t →
      Keeps s t → t.action? owner command = some (.tsk target) →
      ((t.calling owner command target).executeTask spawn target).1 = .error fault →
      t.refusal? target = some fault ∨ Arises spawn r name fault)
    (failed : (runCommands spawn (fun target s => s.executeTask spawn target) owner commands s).1 =
      some fault) : Arises spawn r name fault := by
  induction commands generalizing s with
  | nil => exact nomatch failed
  | cons command rest ih =>
    cases outcome : s.executeCommand spawn owner command with
    | mk result t =>
      have step := keeps_of_executeCommand outcome
      cases result with
      | error cause =>
        rw [runCommands_error outcome] at failed
        obtain rfl : cause = fault := Option.some.inj failed
        have fails : (s.executeCommand spawn owner command).1 = .error cause := by
          rw [outcome]
        -- a call fails as the called task does, any other command by itself
        by_cases isCall : ∃ target, s.action? owner command = some (.tsk target)
        · obtain ⟨target, ready⟩ := isCall
          have inner := fails
          rw [executeCommand_of_call ready, invokeTask_error_iff] at inner
          rcases below command rest s target h (Keeps.refl s) ready inner with refused | arises
          · exact ⟨calls, owner, command, rest, s, h, by rw [ownFault?_of_call ready, refused]⟩
          · exact arises
        · exact ⟨calls, owner, command, rest, s, h,
            ownFault?_of_fault (fun target ready => isCall ⟨target, ready⟩) fails⟩
      | ok message =>
        rw [runCommands_ok outcome] at failed
        exact ih (h.next outcome)
          (fun command rest u target moment kept => below command rest u target moment
            (step.trans kept)) failed

/-- A state in which a run begins or continues by entering the task `target`, if it may. -/
def Approaches (spawn : Spawn) (r : Runner) (name : String) (calls : List Dispatch)
    (target : String) (t : Runner) : Prop :=
  ∀ task, t.refusal? target = none → t.script.findTask? target = some task →
    Moment spawn r name calls target task.commands (t.enter target)

theorem approaches_start : Approaches spawn r name [] name r := by
  intro task free found
  exact .start free found

theorem Moment.approaches {target : String}
    (h : Moment spawn r name calls owner (command :: rest) s)
    (ready : s.action? owner command = some (.tsk target)) :
    Approaches spawn r name (⟨s.stack, owner, command, .tsk target⟩ :: calls) target
      (s.calling owner command target) := by
  intro task free found
  rw [refusal?_of_keeps (calling_keeps s owner command target)] at free
  rw [(calling_keeps s owner command target).script] at found
  exact h.call ready free found

/-- Followed down from any call of a run, a fault is a refusal or arises at some moment. -/
theorem refused_or_arises {fault : RunFault} {target : String} {t : Runner}
    (approach : Approaches spawn r name calls target t)
    (failed : (t.executeTask spawn target).1 = .error fault) :
    t.refusal? target = some fault ∨ Arises spawn r name fault := by
  induction h : t.room using Nat.strongRecOn generalizing t target calls with
  | _ room ih =>
    cases refused : t.refusal? target with
    | some cause =>
      rw [executeTask_of_refusal refused] at failed
      exact .inl (congrArg some (Except.error.inj failed))
    | none =>
      obtain ⟨⟨task, found⟩, -, -⟩ := refusal?_eq_none_iff.1 refused
      have start := approach task refused found
      rw [executeTask_of_found refused found] at failed
      refine .inr (arises_of_runCommands start ?_ (leave_error_iff.1 failed))
      intro command rest u callee moment kept ready inner
      -- entering the task has used up room, and no command gives it back
      have less : (u.calling target command callee).room < room := by
        rw [room_of_keeps (kept.trans (calling_keeps u target command callee)), ← h]
        exact room_enter_lt refused
      rw [← refusal?_of_keeps (calling_keeps u target command callee)]
      exact ih _ less (moment.approaches ready) inner rfl

/-- What fails at a moment fails the run, and nothing is carried out after it. -/
theorem Moment.executeTask_error {fault : RunFault} {t : Runner}
    (h : Moment spawn r name calls owner rest s)
    (failed : runCommands spawn (fun target s => s.executeTask spawn target) owner rest s =
      (some fault, t)) :
    ∃ u, r.executeTask spawn name = (.error fault, u) ∧ u.journal = t.journal := by
  induction h generalizing t with
  | start free found =>
    refine ⟨t.popTask, ?_, rfl⟩
    rw [executeTask_of_found free found, failed]
    rfl
  | next before done ih =>
    refine ih ?_
    rw [runCommands_ok done]
    exact failed
  | @call calls owner target command rest s task before ready free found ih =>
    have called := calling_keeps s owner command target
    have inner : (s.calling owner command target).executeTask spawn target =
        (.error fault, t.popTask) := by
      rw [executeTask_of_found ((refusal?_of_keeps called).trans free) (called.script ▸ found),
        failed]
      rfl
    have fails : s.executeCommand spawn owner command = (.error fault, t.popTask) := by
      rw [executeCommand_of_call ready, invokeTask, inner]
    obtain ⟨u, ends, same⟩ := ih (runCommands_error fails)
    exact ⟨u, ends, same⟩

/-- What a command fails with by itself fails the run, and nothing is carried out after it. -/
theorem Moment.executeTask_ownFault {fault : RunFault}
    (h : Moment spawn r name calls owner (command :: rest) s)
    (own : s.ownFault? spawn owner command = some fault) :
    ∃ u, r.executeTask spawn name = (.error fault, u) ∧
      u.journal = (s.executeCommand spawn owner command).2.journal := by
  have fails : s.executeCommand spawn owner command =
      (.error fault, (s.executeCommand spawn owner command).2) :=
    Prod.ext (fault_of_ownFault? own) rfl
  exact h.executeTask_error (runCommands_error fails)

/-- A run fails if it is refused or a command that it comes to fails by itself, and only then. -/
theorem executeTask_error_iff {fault : RunFault} :
    (r.executeTask spawn name).1 = .error fault ↔
      r.refusal? name = some fault ∨ Arises spawn r name fault := by
  constructor
  · exact refused_or_arises approaches_start
  · rintro (refused | ⟨calls, owner, command, rest, s, h, own⟩)
    · rw [executeTask_of_refusal refused]
    · obtain ⟨u, fails, -⟩ := h.executeTask_ownFault own
      rw [fails]

/-! ## What the journal tells about a run -/

variable {fault : RunFault}

@[simp] theorem journal_calling (r : Runner) (owner : String) (command : Command)
    (target : String) :
    (r.calling owner command target).journal =
      ⟨r.stack, owner, command, .tsk target⟩ :: r.journal := by
  have noted := Keeps.noteExtra r command .tsk
  rw [calling, dispatch, noted.stack, untouched_journal.noteExtra]

/-- Every step of a run adds to the journal or leaves it as it is. -/
theorem sustained_journal (spawn : Spawn) :
    Sustained spawn fun r s => r.journal <:+ s.journal where
  refl := fun r => List.suffix_refl _
  trans := List.IsSuffix.trans
  note := fun r level message => List.suffix_refl _
  dispatch := fun r owner command action => List.suffix_cons _ _
  perform := by
    intro r invoke action noCall
    by_cases assigns : action.kind = .var
    · obtain ⟨assigned, value, rfl⟩ := Action.eq_var_of_kind assigns
      exact List.suffix_refl _
    · exact ⟨[], (untouched_journal.perform r invoke noCall assigns).symm⟩
  nest := fun h => h

/-- The calls under way stand in the journal, in their order. -/
theorem Moment.sublist_journal (h : Moment spawn r name calls owner rest s) :
    ∃ new, s.journal = new ++ r.journal ∧ calls.Sublist new := by
  induction h with
  | start free found => exact ⟨[], rfl, List.Sublist.refl _⟩
  | @next calls owner command rest s t message before done ih =>
    -- whatever the command has carried out lies above the calls
    obtain ⟨new, grown, taken⟩ := ih
    obtain ⟨more, step⟩ := (sustained_journal spawn).executeCommand owner command s
    rw [done, grown] at step
    refine ⟨more ++ new, ?_, taken.trans (List.sublist_append_right more new)⟩
    rw [List.append_assoc, step]
  | @call calls owner target command rest s task before ready free found ih =>
    obtain ⟨new, grown, taken⟩ := ih
    refine ⟨⟨s.stack, owner, command, .tsk target⟩ :: new, ?_, taken.cons_cons _⟩
    have same : ((s.calling owner command target).enter target).journal =
        (s.calling owner command target).journal := rfl
    rw [same, journal_calling, grown]
    rfl

/-- A run that comes to a call that is refused fails with the refusal, and in the journal the call
follows those that were under way. -/
theorem Moment.executeTask_refusedCall {target : String}
    (h : Moment spawn r name calls owner (command :: rest) s)
    (ready : s.action? owner command = some (.tsk target))
    (refused : s.refusal? target = some fault) :
    ∃ t new, r.executeTask spawn name = (.error fault, t) ∧
      t.journal = ⟨s.stack, owner, command, .tsk target⟩ :: new ++ r.journal ∧
        calls.Sublist new := by
  have own : s.ownFault? spawn owner command = some fault := by
    rw [ownFault?_of_call ready, refused]
  obtain ⟨t, ends, journal⟩ := h.executeTask_ownFault own
  obtain ⟨new, grown, taken⟩ := h.sublist_journal
  refine ⟨t, new, ends, ?_, taken⟩
  have refused' : (s.calling owner command target).refusal? target = some fault := by
    rw [refusal?_of_keeps (calling_keeps s owner command target), refused]
  rw [journal, executeCommand_of_call ready, invokeTask_snd, executeTask_of_refusal refused',
    journal_calling, grown]
  rfl

end Runner
end TaskScript
