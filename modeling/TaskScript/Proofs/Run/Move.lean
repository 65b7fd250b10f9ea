import TaskScript.Proofs.Run.Lockstep
import TaskScript.Proofs.Run.Nesting

/-!
# Move — how one step changes the state

Most steps of a run only take up the next thing.  The others enter a task, leave one, pass on to the
task that a command calls, or carry out the action of a command.

- `Runner.Move`, `Runner.move_advance` : what a step may do to the state
- `Sustained.iterate`                  : a relation that each step brings about holds along the run
- `Runner.command_of_stageAt`          : a command that a run comes to is of the script, or given
-/

namespace TaskScript
namespace Runner

variable {spawn : Spawn} {r s : Runner} {owner : String} {command : Command} {a : Stage}
  {focus : Focus} {n : Nat}

/-! ## Steps -/

/-- What a step may do to the state. -/
inductive Move (spawn : Spawn) (a : Stage) : Runner → Prop where
  /-- Nothing. -/
  | rest : Move spawn a a.runner
  | enter (name : String) : Move spawn a (a.runner.enter name)
  | leave (name : String) (fault? : Option RunFault) :
      Move spawn a (Runner.leave name (fault?, a.runner)).2
  /-- A command calls a task. -/
  | call {owner target : String} {command : Command} (next : a.focus = .command owner command)
      (ready : a.runner.action? owner command = some (.tsk target)) :
      Move spawn a (a.runner.calling owner command target)
  /-- A command that is in order does anything else. -/
  | act {owner : String} {command : Command} {action : Action}
      (next : a.focus = .command owner command)
      (ready : a.runner.action? owner command = some action) (noCall : action.kind ≠ .tsk) :
      Move spawn a ((a.runner.prepared owner command action).perform spawn noTask action).2

/-- A command that calls no task is carried out, or it is not in order and nothing happens. -/
theorem move_of_noCall (next : a.focus = .command owner command)
    (noCall : ∀ target, a.runner.action? owner command ≠ some (.tsk target)) :
    Move spawn a (a.runner.executeCommand spawn owner command).2 := by
  rcases a.runner.action?_cases owner command with
    unknown | ⟨kind, known, missing⟩ | ⟨kind, action, known, ready⟩
  · rw [executeCommand, runCommand_of_unknown unknown]
    exact .rest
  · rw [executeCommand, runCommand_of_missing known missing]
    exact .rest
  · have noCall' : action.kind ≠ .tsk := by
      intro isCall
      obtain ⟨target, rfl⟩ := Action.eq_tsk_of_kind isCall
      exact noCall target ready
    rw [executeCommand, runCommand_of_noCall noCall _ noTask,
      runCommand_of_action (kind?_of_action? ready) ready]
    exact .act next ready noCall'

/-- Every step does one of these things. -/
theorem move_advance (spawn : Spawn) (a : Stage) : Move spawn a (advance spawn a).runner := by
  obtain ⟨focus, waiting, r⟩ := a
  cases focus with
  | task name =>
    cases refused : r.refusal? name with
    | some fault =>
      rw [advance_of_refusal refused]
      exact .rest
    | none =>
      rcases refusal?_eq_none_iff.1 refused with ⟨⟨task, found⟩, -, -⟩
      rw [advance_of_found refused found]
      exact .enter name
  | command owner command =>
    by_cases isCall : ∃ target, r.action? owner command = some (.tsk target)
    · rcases isCall with ⟨target, ready⟩
      rw [advance_of_call ready]
      exact .call rfl ready
    · have noCall : ∀ target, r.action? owner command ≠ some (.tsk target) :=
        fun target ready => isCall ⟨target, ready⟩
      rw [advance_of_noCall noCall]
      exact move_of_noCall rfl noCall
  | body owner rest =>
    cases rest with
    | nil => exact .leave owner none
    | cons command rest => exact .rest
  | ended outcome =>
    -- what has ended is handed on to whatever awaits it
    match waiting, outcome with
    | [], _ => exact .rest
    | .body owner _ :: _, .error fault => exact .leave owner (some fault)
    | .body _ _ :: _, .ok _ => exact .rest
    | .call _ :: _, .error _ => exact .rest
    | .call _ :: _, .ok _ => exact .rest

/-! ## Runs -/

namespace Sustained

variable {R : Runner → Runner → Prop}

/-- A relation that what commands do brings about, and entering and leaving tasks, holds across
each step. -/
theorem advance (h : Sustained spawn R) (push : ∀ r name, R r (r.pushTask name))
    (pop : ∀ r, R r r.popTask) (a : Stage) : R a.runner (advance spawn a).runner := by
  have move := move_advance spawn a
  -- from here on only the kind of the step counts, not how it comes about
  generalize (Runner.advance spawn a).runner = s at move ⊢
  cases move with
  | rest => exact h.refl _
  | enter name => exact h.trans (push _ name) (h.note _ _ _)
  | leave name fault? =>
    cases fault? with
    | none => exact h.trans (pop _) (h.note _ _ _)
    | some fault => exact pop _
  | call next ready => exact h.trans (h.noteExtra _ _ _) (h.dispatch _ _ _ _)
  | @act owner command action next ready noCall =>
    have begun : R a.runner (a.runner.prepared owner command action) :=
      h.trans (h.noteExtra _ command action.kind) (h.dispatch _ owner command action)
    exact h.trans begun (h.perform _ noTask noCall)

/-- So it holds along a run. -/
theorem iterate (h : Sustained spawn R) (push : ∀ r name, R r (r.pushTask name))
    (pop : ∀ r, R r r.popTask) (a : Stage) (n : Nat) :
    R a.runner ((Runner.advance spawn)^[n] a).runner := by
  induction n with
  | zero => exact h.refl _
  | succ n ih =>
    rw [Function.iterate_succ_apply']
    exact h.trans ih (h.advance push pop _)

end Sustained

/-! ## Where commands come from -/

/-- A command that a step comes to is one of the task that goes on. -/
theorem Stage.InOrder.owned (h : a.InOrder r)
    (next : (Runner.advance spawn a).focus = .command owner command) :
    ∃ task, r.script.findTask? owner = some task ∧ command ∈ task.commands := by
  rcases h.nested_of_advance next with ⟨rest, nested⟩
  rcases nested.of_body with ⟨-, -, -, -, -, task, found, last⟩
  exact ⟨task, found, last.subset List.mem_cons_self⟩

/-- A command that a run comes to is the one that the run was asked for, or one of the script. -/
theorem command_of_stageAt (outside : ∀ owner rest, focus ≠ .body owner rest)
    (next : (stageAt spawn focus r n).focus = .command owner command) :
    focus = .command owner command ∨
      ∃ task, r.script.findTask? owner = some task ∧ command ∈ task.commands := by
  cases n with
  | zero => exact .inl next
  | succ n =>
    -- what comes after a step comes out of the body of the task on top of the stack
    rw [stageAt, Function.iterate_succ_apply'] at next
    exact .inr (((Stage.InOrder.start outside r).iterate n).owned next)

end Runner
end TaskScript
