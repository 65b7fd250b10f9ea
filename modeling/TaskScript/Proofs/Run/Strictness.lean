import TaskScript.Proofs.Run.Output

/-!
# Strictness — that it only cuts a run short

A child process that ends without success is a failure where that counts, and else it is not.  Up to
the first such child, strictness plays no part in a run; there, a strict run ends.

- `Runner.Lapses`              : a child process whose outputs are heard ends without success
- `Runner.lockstep_stricter`   : as long as none does, strictness plays no part
- `Runner.advance_of_lapse`    : the step at which one does
- `Runner.kind_of_executeTask` : a run that is not strict never fails because of one
- `Runner.strictness`          : all together
-/

namespace TaskScript

namespace Runner

variable {spawn : Spawn} {r s t u : Runner} {owner child name : String} {command : Command}
  {status : ExitStatus} {reply : ChildReply} {fault : RunFault} {a : Stage} {focus : Focus}

/-- The same state with another strictness. -/
def withStrictness (r : Runner) (strict : Bool) : Runner :=
  { r with settings := { r.settings with strict } }

/-! ## Children that end without success -/

/-- The outputs of the child process that is started next, if any, are heard, and it ends with this
status, which is none of success. -/
def Lapses (spawn : Spawn) (focus : Focus) (r : Runner) (child : String) (status : ExitStatus) :
    Prop :=
  ∃ owner command reply, focus = .command owner command ∧
    r.action? owner command = some (.run child) ∧ r.startChild spawn child = .ok reply ∧
    ((r.hearing owner command child reply).console.hear reply.out reply.err).1 = none ∧
    reply.status = status ∧ status.isSuccess = false

/-- No child process that is started next ends without success. -/
def Steady (spawn : Spawn) (focus : Focus) (r : Runner) : Prop :=
  ∀ child status, ¬ Lapses spawn focus r child status

/-- The state after the outputs of a child process have been heard. -/
def received (r : Runner) (owner : String) (command : Command) (child : String)
    (reply : ChildReply) : Runner :=
  { r.hearing owner command child reply with
    console := ((r.hearing owner command child reply).console.hear reply.out reply.err).2 }

/-- What comes of a child process whose outputs have been heard is what it is judged by. -/
theorem runChild_of_heard (started : r.startChild spawn child = .ok reply)
    (heard : ((r.hearing owner command child reply).console.hear reply.out reply.err).1 = none) :
    (r.prepared owner command (.run child)).runChild spawn child =
      (r.received owner command child reply).judgeStatus child reply.status := by
  rw [runChild_eq, startChild_prepared, started]
  unfold received
  change (r.hearing owner command child reply).receive child reply = _
  unfold receive
  split
  · next found =>
    rw [found] at heard
    cases heard
  · next found => rw [found]

/-! ## Where strictness plays no part -/

/-- States of which only the second is strict. -/
structure Stricter (r s : Runner) : Prop where
  state : s = r.withStrictness true
  lenient : r.settings.strict = false

namespace Stricter

/-- What comes of a child process is the same, if it ends with success or its outputs are lost. -/
theorem receive (h : Stricter t u)
    (fine : (t.console.hear reply.out reply.err).1 = none → reply.status.isSuccess = true) :
    SameUpTo Stricter (t.receive child reply) (u.receive child reply) := by
  rcases h with ⟨rfl, lenient⟩
  have same : (t.withStrictness true).console = t.console := rfl
  unfold Runner.receive
  rw [same]
  generalize t.console.hear reply.out reply.err = heard at fine ⊢
  rcases heard with ⟨refused, console⟩
  cases refused with
  | some cause => exact ⟨rfl, rfl, lenient⟩
  | none =>
    have success : reply.status.isSuccess = true := fine rfl
    unfold judgeStatus
    dsimp only
    rw [if_pos success, if_pos success]
    exact ⟨rfl, rfl, lenient⟩

end Stricter

/-- As long as no child process ends without success, strictness plays no part. -/
theorem lockstep_stricter (spawn : Spawn) : Lockstep spawn (Steady spawn) Stricter where
  findTask? h := by cases h.state; rfl
  interpreter h := by cases h.state; rfl
  workingDir h := by cases h.state; rfl
  stack h := by cases h.state; rfl
  store h := by cases h.state; rfl
  out h := by cases h.state; rfl
  captures h := by cases h.state; rfl
  refusal? h _ := by cases h.state; rfl
  action? h _ := by cases h.state; rfl
  receive := by
    intro r s owner command child reply _ steady ready started related
    refine related.receive fun heard => ?_
    -- a child that is heard and fails would be a lapse
    by_contra failed
    exact steady child reply.status
      ⟨owner, command, reply, rfl, ready, started, heard, rfl, Bool.eq_false_iff.2 failed⟩
  note := by
    rintro r s ⟨rfl, lenient⟩ level message
    exact ⟨rfl, lenient⟩
  dispatch := by
    rintro r s ⟨rfl, lenient⟩ owner command action
    exact ⟨rfl, lenient⟩
  setVar := by
    rintro r s ⟨rfl, lenient⟩ name value
    exact ⟨rfl, lenient⟩
  pushTask := by
    rintro r s ⟨rfl, lenient⟩ name
    exact ⟨rfl, lenient⟩
  popTask := by
    rintro r s ⟨rfl, lenient⟩
    exact ⟨rfl, lenient⟩
  setStore := by
    rintro r s ⟨rfl, lenient⟩ store
    exact ⟨rfl, lenient⟩
  setOut := by
    rintro r s ⟨rfl, lenient⟩ out
    exact ⟨rfl, lenient⟩

/-! ## Where strictness cuts a run short -/

/-- The debug message about a child process that has ended without success. -/
def continuing (child : String) (status : ExitStatus) : String :=
  "Command " ++ quoted child ++ " exited with " ++ status.text ++ ", continuing"

theorem judgeStatus_of_lenient (lenient : r.settings.strict = false)
    (failed : status.isSuccess = false) :
    r.judgeStatus child status = (.ok none, r.note .debug (continuing child status)) := by
  simp [judgeStatus, failed, lenient, continuing]

theorem judgeStatus_of_strict (strict : r.settings.strict = true)
    (failed : status.isSuccess = false) :
    r.judgeStatus child status = (.error (.unsuccessful child status.code?), r) := by
  simp [judgeStatus, failed, strict]

/-- Strictness plays no part before a child process is judged. -/
theorem hearing_withStrictness (r : Runner) (strict : Bool) (owner : String) (command : Command)
    (child : String) (reply : ChildReply) :
    (r.withStrictness strict).hearing owner command child reply =
      (r.hearing owner command child reply).withStrictness strict := by
  unfold hearing prepared noteExtra
  split <;> rfl

theorem received_withStrictness (r : Runner) (strict : Bool) (owner : String) (command : Command)
    (child : String) (reply : ChildReply) :
    (r.withStrictness strict).received owner command child reply =
      (r.received owner command child reply).withStrictness strict := by
  unfold received
  rw [hearing_withStrictness]
  rfl

/-- The step at which a child process ends without success goes as far as its judgement, whether the
run is strict or not. -/
theorem advance_of_lapse (lapse : Lapses spawn a.focus a.runner child status) :
    ∃ u : Runner, ∀ strict, advance spawn { a with runner := a.runner.withStrictness strict } =
      finish a.waiting ((u.withStrictness strict).judgeStatus child status) := by
  rcases a with ⟨focus, waiting, r⟩
  rcases lapse with ⟨owner, command, reply, next, ready, started, heard, rfl, -⟩
  obtain rfl : focus = .command owner command := next
  -- one state for both: what the command has come to when the child process is judged
  refine ⟨r.received owner command child reply, fun strict => ?_⟩
  have ready' : (r.withStrictness strict).action? owner command = some (.run child) := ready
  have noCall : ∀ target, (r.withStrictness strict).action? owner command ≠ some (.tsk target) := by
    simp [ready']
  have heard' : (((r.withStrictness strict).hearing owner command child reply).console.hear
      reply.out reply.err).1 = none := by
    rw [hearing_withStrictness]
    exact heard
  rw [advance_of_noCall noCall, executeCommand,
    runCommand_of_action (kind?_of_action? ready') ready', ← received_withStrictness]
  exact congrArg (finish waiting) (runChild_of_heard started heard')

theorem withStrictness_of_eq {strict : Bool} (same : r.settings.strict = strict) :
    r.withStrictness strict = r := by
  rw [← same]
  rfl

/-- At such a step a run that is not strict goes on, and a strict one fails. -/
theorem steps_of_lapse (lenient : a.runner.settings.strict = false)
    (lapse : Lapses spawn a.focus a.runner child status) :
    ∃ u : Runner,
      advance spawn a = finish a.waiting (.ok none, u.note .debug (continuing child status)) ∧
      advance spawn { a with runner := a.runner.withStrictness true } =
        finish a.waiting (.error (.unsuccessful child status.code?), u.withStrictness true) := by
  rcases advance_of_lapse lapse with ⟨u, step⟩
  rcases lapse with ⟨-, -, -, -, -, -, -, -, failed⟩
  refine ⟨u.withStrictness false, ?_, ?_⟩
  · have here : { a with runner := a.runner.withStrictness false } = a := by
      rw [withStrictness_of_eq lenient]
    calc
      advance spawn a = finish a.waiting ((u.withStrictness false).judgeStatus child status) := by
        rw [← step, here]
      _ = _ := by
        rw [judgeStatus_of_lenient (r := u.withStrictness false) rfl failed]
  · calc
      advance spawn { a with runner := a.runner.withStrictness true }
          = finish a.waiting ((u.withStrictness true).judgeStatus child status) := step true
      _ = _ := by
        rw [judgeStatus_of_strict (r := u.withStrictness true) rfl failed]
        rfl

/-- Where some child process ends without success, there is a first one. -/
theorem exists_first_lapse {stage : Nat → Stage}
    (lapses : ¬ ∀ n, Steady spawn (stage n).focus (stage n).runner) :
    ∃ n child status, (∀ m < n, Steady spawn (stage m).focus (stage m).runner) ∧
      Lapses spawn (stage n).focus (stage n).runner child status := by
  rcases exists_first_stage lapses with ⟨n, before, first⟩
  simp only [Steady, not_forall, not_not] at first
  rcases first with ⟨child, status, lapse⟩
  exact ⟨n, child, status, before, lapse⟩

/-- A strict run fails at the first child process that ends without success.  It has done what a run
that is not strict has done up to there. -/
theorem cut_of_lapse {done done' : Outcome × Runner} {n : Nat}
    (ends : Reaches spawn (begin focus (r.withStrictness false)) (finish [] done))
    (ends' : Reaches spawn (begin focus (r.withStrictness true)) (finish [] done'))
    (steady : ∀ m < n, Steady spawn (stageAt spawn focus (r.withStrictness false) m).focus
      (stageAt spawn focus (r.withStrictness false) m).runner)
    (lapse : Lapses spawn (stageAt spawn focus (r.withStrictness false) n).focus
      (stageAt spawn focus (r.withStrictness false) n).runner child status) :
    done'.1 = .error (.unsuccessful child status.code?) ∧ Extends done'.2 done.2 ∧
      done'.2.runtime = (stageAt spawn focus (r.withStrictness false) (n + 1)).runner.runtime ∧
      done'.2.store = (stageAt spawn focus (r.withStrictness false) (n + 1)).runner.store := by
  -- before the child process, the runs are at the same point
  have start : Stage.Related Stricter (begin focus (r.withStrictness false))
      (begin focus (r.withStrictness true)) := ⟨rfl, rfl, rfl, rfl⟩
  have related := (lockstep_stricter spawn).iterate start steady
  have strictStage := related.eq_of_runner related.runner.state
  -- both take their next step from the state `u`, which only the judgement tells apart
  rcases steps_of_lapse related.runner.lenient lapse with ⟨u, lenientStep, strictStep⟩
  have lenientNext := (Function.iterate_succ_apply' (advance spawn) n
    (begin focus (r.withStrictness false))).trans lenientStep
  have strictNext := (Function.iterate_succ_apply' (advance spawn) n
    (begin focus (r.withStrictness true))).trans ((congrArg _ strictStage).trans strictStep)
  -- the strict run has failed, and whatever awaits it fails likewise
  rcases reaches_of_error spawn (.unsuccessful child status.code?)
    (stageAt spawn focus (r.withStrictness false) n).waiting (u.withStrictness true) with
    ⟨stack, fails⟩
  have same := finish_unique ends' (Reaches.trans ⟨n + 1, strictNext⟩ fails)
  -- the other run has gone on from there, and has not taken back what it had written
  have onward := extends_of_stageAt ends (n + 1)
  rw [stageAt, lenientNext] at onward ⊢
  rw [same]
  refine ⟨rfl, ?_, rfl, rfl⟩
  exact Console.Extends.trans (Extends.note u .debug (continuing child status)) onward

/-! ## Runs that are not strict -/

theorem kind_of_refusal (refused : r.refusal? name = some fault) : fault.kind ≠ .nonZeroExit := by
  rcases refusal?_eq_some refused with ⟨rfl, -⟩ | ⟨rfl, -⟩ | ⟨rfl, -⟩
  · rintro ⟨⟩
  · rintro ⟨⟩
  · rintro ⟨⟩

theorem kind_of_receive (lenient : r.settings.strict = false)
    (failed : (r.receive child reply).1 = .error fault) : fault.kind ≠ .nonZeroExit := by
  unfold receive at failed
  split at failed
  · next cause console _ =>
    rw [← Except.error.inj failed]
    rintro ⟨⟩
  · next console _ =>
    unfold judgeStatus at failed
    dsimp only at failed
    rw [lenient] at failed
    split at failed <;> cases failed

theorem kind_of_runChild (lenient : r.settings.strict = false)
    (failed : (r.runChild spawn child).1 = .error fault) : fault.kind ≠ .nonZeroExit := by
  rw [runChild_eq] at failed
  cases started : r.startChild spawn child with
  | error cause =>
    rw [started] at failed
    rw [← Except.error.inj failed]
    rintro ⟨⟩
  | ok reply =>
    rw [started] at failed
    exact kind_of_receive (r := { r.note .run child with store := reply.store }) lenient failed

theorem kind_of_deleteFile {path : String} (failed : (r.deleteFile path).1 = .error fault) :
    fault.kind ≠ .nonZeroExit := by
  unfold deleteFile at failed
  dsimp only at failed
  split at failed
  · cases failed
  · cases failed
  · rw [← Except.error.inj failed]
    rintro ⟨⟩

theorem kind_of_echo {line : String} (failed : (r.echo line).1 = .error fault) :
    fault.kind ≠ .nonZeroExit := by
  unfold echo at failed
  split at failed
  · rw [← Except.error.inj failed]
    rintro ⟨⟩
  · cases failed

theorem kind_of_perform {invoke : Invoke} {action : Action} (lenient : r.settings.strict = false)
    (noCall : action.kind ≠ .tsk) (failed : (r.perform spawn invoke action).1 = .error fault) :
    fault.kind ≠ .nonZeroExit := by
  cases action with
  | run child => exact kind_of_runChild lenient failed
  | del path => exact kind_of_deleteFile failed
  | ech line => exact kind_of_echo failed
  | tsk target => exact absurd rfl noCall
  | var assigned value => cases failed

/-- A command fails by itself for some other reason. -/
theorem kind_of_ownFault? (lenient : r.settings.strict = false)
    (own : r.ownFault? spawn owner command = some fault) : fault.kind ≠ .nonZeroExit := by
  have failed := fault_of_ownFault? own
  rcases r.action?_cases owner command with
    unknown | ⟨kind, known, missing⟩ | ⟨kind, action, known, ready⟩
  · rw [executeCommand, runCommand_of_unknown unknown] at failed
    rw [← Except.error.inj failed]
    rintro ⟨⟩
  · rw [executeCommand, runCommand_of_missing known missing] at failed
    rw [← Except.error.inj failed]
    rintro ⟨⟩
  · by_cases isCall : action.kind = .tsk
    -- a call has no fault of its own but that the task is refused
    · rcases Action.eq_tsk_of_kind isCall with ⟨target, same⟩
      rw [same] at ready
      rw [ownFault?_of_call ready] at own
      exact kind_of_refusal own
    · rw [executeCommand, runCommand_of_action known ready] at failed
      have kept := Keeps.prepared r owner command kind action
      have lenient' : ((r.noteExtra command kind).dispatch owner command action).settings.strict =
          false := by
        rw [kept.settings, lenient]
      exact kind_of_perform lenient' isCall failed

/-- So does a task. -/
theorem kind_of_executeTask (lenient : r.settings.strict = false)
    (failed : (r.executeTask spawn name).1 = .error fault) : fault.kind ≠ .nonZeroExit := by
  -- some command of some task along the calls has failed by itself
  rcases executeTask_error_iff.1 failed with refused | ⟨calls, owner, command, rest, s, moment, own⟩
  · exact kind_of_refusal refused
  · have lenient' : s.settings.strict = false := by
      rw [moment.keeps.settings]
      exact lenient
    exact kind_of_ownFault? lenient' own

/-- And any command, even if it calls a task. -/
theorem kind_of_executeCommand (lenient : r.settings.strict = false)
    (failed : (r.executeCommand spawn owner command).1 = .error fault) :
    fault.kind ≠ .nonZeroExit := by
  by_cases isCall : ∃ target, r.action? owner command = some (.tsk target)
  · rcases isCall with ⟨target, ready⟩
    have kept := calling_keeps r owner command target
    have lenient' : (r.calling owner command target).settings.strict = false := by
      rw [kept.settings, lenient]
    rw [executeCommand_of_call ready, invokeTask_error_iff] at failed
    exact kind_of_executeTask lenient' failed
  · have noCall : ∀ target, r.action? owner command ≠ some (.tsk target) :=
      fun target ready => isCall ⟨target, ready⟩
    exact kind_of_ownFault? lenient (ownFault?_of_fault noCall failed)

/-! ## Both together -/

/-- Strictness only cuts a run short.

If in the run that is not strict each child process whose outputs are heard ends with success,
the strict run has the same result and leaves the same state.  Otherwise the strict run fails, for
the first such child process that does not, with its text and its code.  What it has written is a
prefix of what the other run has, and it leaves the variables and the store that the other run has
right after this child process.  A run that is not strict never fails because a child process ends
without success. -/
theorem strictness (spawn : Spawn) (name : String) (r : Runner) :
    let lenient := (r.withStrictness false).executeTask spawn name
    let strict := (r.withStrictness true).executeTask spawn name
    let stage := stageAt spawn (.task name) (r.withStrictness false)
    ((∀ n, Steady spawn (stage n).focus (stage n).runner) →
      strict = (lenient.1, lenient.2.withStrictness true)) ∧
    ((¬ ∀ n, Steady spawn (stage n).focus (stage n).runner) →
      ∃ n child status, (∀ m < n, Steady spawn (stage m).focus (stage m).runner) ∧
        Lapses spawn (stage n).focus (stage n).runner child status ∧
        strict.1 = .error (.unsuccessful child status.code?) ∧
        strict.2.console.out.log <+: lenient.2.console.out.log ∧
        strict.2.console.err.log <+: lenient.2.console.err.log ∧
        strict.2.runtime = (stage (n + 1)).runner.runtime ∧
        strict.2.store = (stage (n + 1)).runner.store) ∧
    (∀ fault, lenient.1 = .error fault → fault.kind ≠ .nonZeroExit) ∧
    ∀ owner command fault,
      ((r.withStrictness false).executeCommand spawn owner command).1 = .error fault →
        fault.kind ≠ .nonZeroExit := by
  intro lenient strict stage
  have ends := reaches_executeTask spawn name [] (r.withStrictness false)
  have ends' := reaches_executeTask spawn name [] (r.withStrictness true)
  refine ⟨fun steady => ?_, fun lapses => ?_, ?_, ?_⟩
  -- without a lapse the runs stay in step up to their ends
  · have start : Stage.Related Stricter (begin (.task name) (r.withStrictness false))
        (begin (.task name) (r.withStrictness true)) := ⟨rfl, rfl, rfl, rfl⟩
    rcases (lockstep_stricter spawn).result start steady ends ends' with ⟨told, left⟩
    exact Prod.ext told left.state
  -- the first lapse ends the strict run
  · rcases exists_first_lapse lapses with ⟨n, child, status, before, lapse⟩
    rcases cut_of_lapse ends ends' before lapse with ⟨fails, written, runtime, store⟩
    exact ⟨n, child, status, before, lapse, fails, written.out, written.err, runtime, store⟩
  · exact fun fault failed => kind_of_executeTask rfl failed
  · exact fun owner command fault failed => kind_of_executeCommand rfl failed

/-- Children that write one byte and end with the code 3. -/
def stumble : Spawn :=
  fun _ store => .ok ⟨.exited 3, ⟨#[46]⟩, .empty, store⟩

/-- A task that prints a line after a child process has ended. -/
def build : Runner :=
  fresh ⟨[], [⟨"build", [⟨"run", ["make"], 2⟩, ⟨"ech", ["done"], 3⟩], 1⟩]⟩

/-- The child process does not let the task fail, unless the run is strict. -/
theorem strictness_of_build :
    ((build.withStrictness false).executeTask stumble "build").1 =
        .ok (some (completed "build")) ∧
      ∃ child status,
        ((build.withStrictness true).executeTask stumble "build").1 =
          .error (.unsuccessful child status) ∧
        ((build.withStrictness true).executeTask stumble "build").2.console.out.log <+:
          ((build.withStrictness false).executeTask stumble "build").2.console.out.log := by
  rcases strictness stumble "build" build with ⟨-, cut, -, -⟩
  have lapses : ¬ ∀ n, Steady stumble
      (stageAt stumble (.task "build") (build.withStrictness false) n).focus
      (stageAt stumble (.task "build") (build.withStrictness false) n).runner := by
    intro steady
    -- the task is entered, its body begins, and the first command is next
    have ready : (stageAt stumble (.task "build") (build.withStrictness false) 2).runner.action?
        "build" ⟨"run", ["make"], 2⟩ = some (.run "make") := by
      decide +kernel
    exact steady 2 "make" (.exited 3)
      ⟨"build", ⟨"run", ["make"], 2⟩, _, rfl, ready, rfl, rfl, rfl, rfl⟩
  rcases cut lapses with ⟨n, child, status, -, -, fails, written, -⟩
  exact ⟨by decide +kernel, child, status.code?, fails, written⟩

end Runner
end TaskScript
