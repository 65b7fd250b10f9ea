import TaskScript.Proofs.Run.Idleness

/-!
# Mishaps — whose command it was

A mishap is reported with the name of a task.  For missing arguments it is the task on whose behalf
the command is carried out, for an output that is refused the innermost task on the stack.  Since
every call restores the stack, these are the same.

- `Runner.Meets`       : what may go wrong with a command that is laid to its task
- `Runner.Breaks`      : a run comes to a command that fails by itself
- `Runner.mishap_of_ownFault?` : the mishap of one command
- `Runner.blamed_task` : the mishap of a run is laid to the task whose command has failed
-/

namespace TaskScript

theorem RunFault.message_internal (task : String) (mishap : Mishap) :
    (internal task mishap).message = "Error in task \"" ++ task ++ "\": " ++ mishap.text := by
  unfold message quoted
  have front : "Error in task " ++ "\"" = "Error in task \"" := by decide
  have back : "\"" ++ ": " = "\": " := by decide
  simp only [← front, ← back, String.append_assoc]

/-! ## Outputs that are refused -/

namespace Console

variable {console : Console} {out err : ByteArray} {cause : SystemError}

/-- An output of a child process that fails to be written has been captured, and its sink has refused
it. -/
theorem refusal_of_hear (lost : (console.hear out err).1 = some cause) :
    console.captures = true ∧
      ((∃ refusal, console.out.answer console.out.log (.child out) = some refusal ∧
        refusal.cause = cause) ∨
      ∃ refusal, console.err.answer console.err.log (.child err) = some refusal ∧
        refusal.cause = cause) := by
  cases captured : console.captures with
  | false =>
    rw [hear_of_shared captured] at lost
    cases lost
  | true =>
    refine ⟨rfl, ?_⟩
    rw [hear_of_captured captured] at lost
    unfold forward at lost
    split at lost
    · next own _ printed =>
      obtain rfl := Option.some.inj lost
      exact .inl (Option.map_eq_some_iff.1 (congrArg Prod.fst printed))
    · next between printed =>
      -- the output has been passed on, and has left the other sink as it was
      have same : between.err = console.err :=
        congrArg (fun written => written.2.err) printed.symm
      rw [complain, same] at lost
      exact .inr (Option.map_eq_some_iff.1 lost)

end Console

namespace Runner

variable {spawn : Spawn} {r s : Runner} {name owner : String} {command : Command}
  {fault : RunFault}

/-! ## One command -/

/-- What may go wrong with a command that is laid to its task: arguments are missing, or a sink
refuses the line that it prints or an output of the child process that it has started. -/
inductive Meets (spawn : Spawn) (s : Runner) (owner : String) (command : Command) :
    Mishap → Prop where
  | missing {kind : Keyword} (known : command.kind? = some kind)
      (missing : command.args.length < kind.arity) :
      Meets spawn s owner command
        (.missingArguments command.keyword kind.arity command.args.length)
  | line {line : String} {refusal : Refusal}
      (ready : s.action? owner command = some (.ech line))
      (refuses : s.console.out.answer s.console.out.log (.text (line ++ "\n")) = some refusal) :
      Meets spawn s owner command (.outputLost refusal.cause)
  | out {child : String} {reply : ChildReply} {refusal : Refusal}
      (ready : s.action? owner command = some (.run child)) (captured : s.console.captures = true)
      (started : s.startChild spawn child = .ok reply)
      (refuses : s.console.out.answer s.console.out.log (.child reply.out) = some refusal) :
      Meets spawn s owner command (.outputLost refusal.cause)
  /-- The errors come after the diagnostics of the command itself. -/
  | err {child : String} {reply : ChildReply} {refusal : Refusal} {notes : List Writing}
      (ready : s.action? owner command = some (.run child)) (captured : s.console.captures = true)
      (started : s.startChild spawn child = .ok reply)
      (noted : ∀ writing ∈ notes, writing.piece.isDiagnostic = true)
      (refuses : s.console.err.answer (s.console.err.log ++ notes) (.child reply.err) =
        some refusal) : Meets spawn s owner command (.outputLost refusal.cause)

theorem kind_of_judgeStatus {child : String} {status : ExitStatus}
    (failed : (r.judgeStatus child status).1 = .error fault) : fault.kind = .nonZeroExit := by
  unfold judgeStatus at failed
  split at failed
  · cases failed
  · split at failed
    · rw [← Except.error.inj failed]
      rfl
    · cases failed

/-- A child process that has been started meets a mishap if its outputs are refused. -/
theorem lost_of_receive {child : String} {reply : ChildReply}
    (failed : (r.receive child reply).1 = .error fault) (internal : fault.kind = .internal) :
    ∃ cause, (r.console.hear reply.out reply.err).1 = some cause ∧
      fault = r.writeFault cause := by
  unfold receive at failed
  split at failed
  · next cause console lost =>
    rw [lost]
    exact ⟨cause, rfl, (Except.error.inj failed).symm⟩
  · rw [kind_of_judgeStatus failed] at internal
    cases internal

theorem kind_of_refusal? {target : String} (refused : r.refusal? target = some fault) :
    fault.kind ≠ .internal := by
  rcases refusal?_eq_some refused with ⟨rfl, -⟩ | ⟨rfl, -⟩ | ⟨rfl, -⟩ <;> exact nofun

theorem writeFault_of_top (top : s.currentTask? = some owner) (cause : SystemError) :
    s.writeFault cause = .internal owner (.outputLost cause) := by
  rw [writeFault, top]
  rfl

/-- The mishap of a command is laid to the task on whose behalf it is carried out, if this is the
innermost one. -/
theorem mishap_of_ownFault? (top : s.currentTask? = some owner)
    (own : s.ownFault? spawn owner command = some fault) (internal : fault.kind = .internal) :
    ∃ mishap, Meets spawn s owner command mishap ∧ fault = .internal owner mishap := by
  have failed := fault_of_ownFault? own
  rcases begins_or_failsIdly failed with begins | fails
  · rcases begins with ⟨child, reply, ready, started⟩ | ⟨target, ready, free⟩
    · have before : Traceless s ((s.prepared owner command (.run child)).note .run child) :=
        (Traceless.prepared s owner command (.run child)).trans (.note _ .run child)
      have out : ((s.prepared owner command (.run child)).note .run child).console.out =
          s.console.out := (Console.out_diagnose _ _ _ _).trans (out_prepared _ _ _ _)
      rw [executeCommand_of_action ready, perform, runChild_eq, startChild_prepared,
        started] at failed
      obtain ⟨cause, lost, rfl⟩ := lost_of_receive failed internal
      refine ⟨.outputLost cause, ?_, ?_⟩
      -- nothing but diagnostics has been written in between
      · obtain ⟨notes, grown, noted⟩ := before.err
        obtain ⟨captured, refused⟩ := Console.refusal_of_hear lost
        have captured' := before.keeps.console.captures.symm.trans captured
        dsimp only at refused
        rw [out, before.keeps.console.err, grown] at refused
        rcases refused with ⟨refusal, refuses, rfl⟩ | ⟨refusal, refuses, rfl⟩
        · exact .out ready captured' started refuses
        · exact .err ready captured' started noted refuses
      · rw [← writeFault_of_top top]
        exact writeFault_congr before.keeps.stack cause
    · -- a task that is entered fails through its commands
      rw [ownFault?_of_call ready, free] at own
      cases own
  · cases fails with
    | missing known missing => exact ⟨_, .missing known missing, rfl⟩
    | unprinted ready refuses => exact ⟨_, .line ready refuses, writeFault_of_top top _⟩
    | unentered ready refused => exact absurd internal (kind_of_refusal? refused)
    | unknown | undeleted | unstarted => cases internal

/-! ## Runs -/

/-- The run of the task `name` from the state `r` comes, in the state `s`, to a command of `owner`
that fails by itself. -/
def Breaks (spawn : Spawn) (r : Runner) (name owner : String) (command : Command) (s : Runner)
    (fault : RunFault) : Prop :=
  ∃ calls rest, Moment spawn r name calls owner (command :: rest) s ∧
    s.ownFault? spawn owner command = some fault

/-- Whatever the tasks below have done, the innermost task is the one that goes on. -/
theorem Moment.currentTask? {calls : List Dispatch} {rest : List Command}
    (h : Moment spawn r name calls owner rest s) : s.currentTask? = some owner := by
  rw [Runner.currentTask?, h.stack_eq]
  rfl

/-- A run that fails with a mishap has come to a command that fails by itself, and it fails with
what this command fails with.  The mishap is laid to the task that the command belongs to, at any
depth of calls, on top of any task stack and after any commands; it is one of two kinds, and its
wording begins with the name of the task. -/
theorem blamed_task (spawn : Spawn) (r : Runner) (name : String)
    (failed : (r.executeTask spawn name).1 = .error fault) (internal : fault.kind = .internal) :
    (∃ owner command s, Breaks spawn r name owner command s fault) ∧
    ∀ owner command s own, Breaks spawn r name owner command s own →
      own = fault ∧ (∃ task, r.script.findTask? owner = some task ∧ command ∈ task.commands) ∧
        ∃ mishap, Meets spawn s owner command mishap ∧ fault = .internal owner mishap ∧
          fault.message = "Error in task \"" ++ owner ++ "\": " ++ mishap.text := by
  constructor
  · rcases executeTask_error_iff.1 failed with refused | ⟨calls, owner, command, rest, s, h, own⟩
    · exact absurd internal (kind_of_refusal? refused)
    · exact ⟨owner, command, s, calls, rest, h, own⟩
  · rintro owner command s own ⟨calls, rest, h, fails⟩
    -- a run fails with the fault of the first command that fails by itself
    obtain ⟨u, ends, -⟩ := h.executeTask_ownFault fails
    rw [ends] at failed
    obtain rfl := Except.error.inj failed
    obtain ⟨task, found, earlier, whole⟩ := h.found
    obtain ⟨mishap, meets, rfl⟩ := mishap_of_ownFault? h.currentTask? fails internal
    refine ⟨rfl, ⟨task, found, ?_⟩, mishap, meets, rfl, ?_⟩
    · rw [whole]
      exact List.mem_append_right _ List.mem_cons_self
    · exact RunFault.message_internal owner mishap

/-- A task that prints a line after it has called another one, in the course of a third, on an
output that takes nothing. -/
def returned : Runner :=
  { (fresh ⟨[], [⟨"main", [⟨"tsk", ["sub"], 2⟩, ⟨"ech", ["done"], 3⟩], 1⟩,
      ⟨"sub", [⟨"var", ["A", "1"], 5⟩], 4⟩]⟩).pushTask "outer" with
    console := .capture (.limited 0) .empty false }

/-- The task that has been called has done its work, and the mishap is laid to the one that
prints. -/
theorem blamed_task_of_returned :
    let fault : RunFault := .internal "main" (.outputLost .full)
    let s := ((returned.enter "main").executeCommand noChild "main" ⟨"tsk", ["sub"], 2⟩).2
    (returned.executeTask noChild "main").1 = .error fault ∧ fault.kind = .internal ∧
      Breaks noChild returned "main" "main" ⟨"ech", ["done"], 3⟩ s fault ∧
      s.runtime.get? "A" = some "1" ∧
      ∃ mishap, Meets noChild s "main" ⟨"ech", ["done"], 3⟩ mishap ∧
        fault.message = "Error in task \"" ++ "main" ++ "\": " ++ mishap.text := by
  intro fault s
  have failed : (returned.executeTask noChild "main").1 = .error fault := by decide +kernel
  have called : ((returned.enter "main").executeCommand noChild "main" ⟨"tsk", ["sub"], 2⟩).1 =
      .ok (some "Subtask \"sub\" finished") := by
    decide +kernel
  have own : s.ownFault? noChild "main" ⟨"ech", ["done"], 3⟩ = some fault := by decide +kernel
  have assigned : s.runtime.get? "A" = some "1" := by decide +kernel
  have entered : Moment noChild returned "main" [] "main" _ (returned.enter "main") :=
    .start (by decide) rfl
  have breaks : Breaks noChild returned "main" "main" ⟨"ech", ["done"], 3⟩ s fault :=
    ⟨[], [], entered.next (Prod.ext called rfl), own⟩
  obtain ⟨-, -, mishap, meets, -, words⟩ :=
    (blamed_task noChild returned "main" failed rfl).2 _ _ _ _ breaks
  exact ⟨failed, rfl, breaks, assigned, mishap, meets, words⟩

end Runner
end TaskScript
