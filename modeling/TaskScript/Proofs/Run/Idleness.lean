import TaskScript.Proofs.Run.Deletion
import TaskScript.Proofs.Run.Errors

/-!
# Idleness — commands that fail before they have done anything

A command that is not in order, whose effect is refused, or that calls a task which may not be
entered, fails with nothing done but diagnostics.  In all other failures of a command, a child
process of it has been started or the task that it calls has been entered.

- `Runner.Traceless`  : states of which the second differs in diagnostics alone
- `Runner.FailsIdly`  : the ways to fail without having done anything
- `Runner.Begins`     : a child process is started, or a task is entered
- `Runner.idle_failure` : the failures of commands that have not begun are these, and leave no trace
-/

namespace TaskScript

namespace Sink

/-- A diagnostic is written at the end, if it is shown. -/
theorem log_note (sink : Sink) (verbosity : Verbosity) (level : Level) (styled : Bool)
    (message : String) :
    ∃ notes, (sink.note verbosity level styled message).log = sink.log ++ notes ∧
      ∀ writing ∈ notes, writing.piece.isDiagnostic = true := by
  unfold note
  split
  · exact ⟨[_], rfl, List.forall_mem_singleton.2 rfl⟩
  · exact ⟨[], by simp, by simp⟩

/-- A piece of which nothing is taken adds nothing to what has been taken. -/
theorem bytes_record_of_taken_eq_zero (sink : Sink) (piece : Piece) {refusal : Refusal}
    (spared : refusal.taken = 0) : (sink.record piece (some refusal)).bytes = sink.bytes := by
  have nothing : piece.bytes.extract 0 refusal.taken = ByteArray.empty := by
    rw [spared]
    simp
  simp only [bytes, record, List.foldl_append, List.foldl_cons, List.foldl_nil, Writing.bytes,
    nothing, ByteArray.append_empty]

end Sink

namespace Runner

variable {spawn : Spawn} {r s t : Runner} {owner target : String} {command : Command}
  {fault : RunFault}

/-! ## States that differ in diagnostics -/

/-- States of which the second is the first but for the journal and some more diagnostics.  A line may
have been refused, but not a byte of it been taken. -/
structure Traceless (r s : Runner) : Prop where
  keeps : Keeps r s
  runtime : s.runtime = r.runtime
  store : s.store = r.store
  out : s.console.out.bytes = r.console.out.bytes
  err : ∃ notes, s.console.err.log = r.console.err.log ++ notes ∧
    ∀ writing ∈ notes, writing.piece.isDiagnostic = true

namespace Traceless

theorem refl (r : Runner) : Traceless r r :=
  ⟨Keeps.refl r, rfl, rfl, rfl, [], by simp, by simp⟩

theorem trans (h : Traceless r s) (h' : Traceless s t) : Traceless r t := by
  obtain ⟨first, grown, noted⟩ := h.err
  obtain ⟨second, grown', noted'⟩ := h'.err
  refine ⟨h.keeps.trans h'.keeps, h'.runtime.trans h.runtime, h'.store.trans h.store,
    h'.out.trans h.out, first ++ second, ?_, ?_⟩
  · rw [grown', grown, List.append_assoc]
  · intro writing mem
    exact (List.mem_append.1 mem).elim (noted writing) (noted' writing)

theorem note (r : Runner) (level : Level) (message : String) :
    Traceless r (r.note level message) := by
  obtain ⟨notes, grown, noted⟩ :=
    r.console.err.log_note r.settings.verbosity level r.console.styled message
  have out : (r.note level message).console.out = r.console.out := Console.out_diagnose _ _ _ _
  refine ⟨Keeps.note r level message, rfl, rfl, by rw [out], notes, ?_, noted⟩
  rw [Runner.note, Console.diagnose_eq, grown]

/-- What comes before the action of a command leaves no trace. -/
theorem prepared (r : Runner) (owner : String) (command : Command) (action : Action) :
    Traceless r (r.prepared owner command action) := by
  have extra : Traceless r (r.noteExtra command action.kind) := by
    unfold noteExtra
    split
    · exact note r _ _
    · exact refl r
  -- the journal is none of the parts that count
  exact ⟨Keeps.prepared r owner command action.kind action, extra.runtime, extra.store, extra.out,
    extra.err⟩

end Traceless

theorem out_prepared (r : Runner) (owner : String) (command : Command) (action : Action) :
    (r.prepared owner command action).console.out = r.console.out := by
  unfold Runner.prepared noteExtra
  split
  · exact Console.out_diagnose _ _ _ _
  · rfl

/-! ## Ways to fail -/

/-- A command fails with a fault before it has done anything: its keyword is unknown, arguments are
missing, the sink refuses the line to be printed, the file cannot be deleted, the child process
cannot be started, or the task to be called may not be entered. -/
inductive FailsIdly (spawn : Spawn) (r : Runner) (owner : String) (command : Command) :
    RunFault → Prop where
  | unknown (unknown : command.kind? = none) :
      FailsIdly spawn r owner command (.unknownCommand command.keyword)
  | missing {kind : Keyword} (known : command.kind? = some kind)
      (missing : command.args.length < kind.arity) :
      FailsIdly spawn r owner command
        (.internal owner (.missingArguments command.keyword kind.arity command.args.length))
  | unprinted {line : String} {refusal : Refusal}
      (ready : r.action? owner command = some (.ech line))
      (refuses : r.console.out.answer r.console.out.log (.text (line ++ "\n")) = some refusal) :
      FailsIdly spawn r owner command (r.writeFault refusal.cause)
  | undeleted {path : String} {cause : SystemError}
      (ready : r.action? owner command = some (.del path))
      (refused : r.store.unlink (r.pathOf path) = .error cause) (other : cause ≠ .notFound) :
      FailsIdly spawn r owner command (.notDeleted (r.pathOf path).display cause)
  | unstarted {child : String} {cause : StartFailure}
      (ready : r.action? owner command = some (.run child))
      (refused : r.startChild spawn child = .error cause) :
      FailsIdly spawn r owner command (.notStarted child cause)
  | unentered {target : String} {fault : RunFault}
      (ready : r.action? owner command = some (.tsk target))
      (refused : r.refusal? target = some fault) : FailsIdly spawn r owner command fault

/-- If the line that a command prints is refused, no byte of it is taken. -/
def SparesRefused (r : Runner) (owner : String) (command : Command) : Prop :=
  ∀ line refusal, r.action? owner command = some (.ech line) →
    r.console.out.answer r.console.out.log (.text (line ++ "\n")) = some refusal →
      refusal.taken = 0

/-- A command starts a child process, or the task that it calls is entered. -/
def Begins (spawn : Spawn) (r : Runner) (owner : String) (command : Command) : Prop :=
  (∃ child reply, r.action? owner command = some (.run child) ∧
    r.startChild spawn child = .ok reply) ∨
  ∃ target, r.action? owner command = some (.tsk target) ∧ r.refusal? target = none

theorem not_begins_of_action? {action : Action} (ready : r.action? owner command = some action)
    (noChild : action.kind ≠ .run) (noCall : action.kind ≠ .tsk) :
    ¬ Begins spawn r owner command := by
  rintro (⟨child, reply, ready', -⟩ | ⟨target, ready', -⟩)
  · rw [Option.some.inj (ready.symm.trans ready')] at noChild
    exact noChild rfl
  · rw [Option.some.inj (ready.symm.trans ready')] at noCall
    exact noCall rfl

theorem not_begins_of_none (notReady : r.action? owner command = none) :
    ¬ Begins spawn r owner command := by
  rintro (⟨child, reply, ready, -⟩ | ⟨target, ready, -⟩)
  · rw [notReady] at ready
    cases ready
  · rw [notReady] at ready
    cases ready

/-! ## Failing without having begun -/

theorem executeCommand_of_action {action : Action}
    (ready : r.action? owner command = some action) :
    r.executeCommand spawn owner command =
      (r.prepared owner command action).perform spawn (fun name s => s.executeTask spawn name)
        action :=
  runCommand_of_action (kind?_of_action? ready) ready

theorem pathOf_of_keeps (h : Keeps r s) (text : String) : s.pathOf text = r.pathOf text := by
  rw [pathOf, pathOf, h.settings]

/-- A command that fails idly fails with this fault, and leaves no trace. -/
theorem FailsIdly.executeCommand (fails : FailsIdly spawn r owner command fault) :
    ∃ s, r.executeCommand spawn owner command = (.error fault, s) ∧
      (r.SparesRefused owner command → Traceless r s) := by
  cases fails with
  | unknown unknown => exact ⟨r, runCommand_of_unknown unknown, fun _ => .refl r⟩
  | missing known missing => exact ⟨r, runCommand_of_missing known missing, fun _ => .refl r⟩
  | @unprinted line refusal ready refuses =>
    have before := Traceless.prepared r owner command (.ech line)
    refine ⟨(r.executeCommand spawn owner command).2, Prod.ext ?_ rfl, fun spares => ?_⟩
    · rw [← out_prepared r owner command (.ech line)] at refuses
      rw [executeCommand_of_action ready, perform, echo_of_refusal refuses,
        writeFault_congr before.keeps.stack]
    · rw [executeCommand_of_action ready, perform, echo_snd]
      refine before.trans ⟨.withConsole (.print _ _), rfl, rfl, ?_, [], by simp [Console.print],
        by simp⟩
      -- the refused line is noted, with nothing taken of it
      simp only [Console.print, Sink.write, out_prepared, refuses]
      exact Sink.bytes_record_of_taken_eq_zero _ _ (spares line refusal ready refuses)
  | @undeleted path cause ready refused other =>
    have before := Traceless.prepared r owner command (.del path)
    refine ⟨_, ?_, fun _ => before⟩
    rw [← before.store, ← pathOf_of_keeps before.keeps] at refused
    rw [executeCommand_of_action ready, perform, deleteFile_of_refusal refused other,
      pathOf_of_keeps before.keeps]
  | @unstarted child cause ready refused =>
    have before := Traceless.prepared r owner command (.run child)
    refine ⟨_, ?_, fun _ => before.trans (.note _ .run child)⟩
    rw [executeCommand_of_action ready, perform, runChild_eq, startChild_prepared, refused]
  | @unentered target fault ready refused =>
    have before := Traceless.prepared r owner command (.tsk target)
    refine ⟨_, ?_, fun _ => before⟩
    rw [← refusal?_of_keeps before.keeps] at refused
    rw [executeCommand_of_action ready, perform, invokeTask, executeTask_of_refusal refused]

/-- What fails idly has not begun. -/
theorem FailsIdly.not_begins (fails : FailsIdly spawn r owner command fault) :
    ¬ Begins spawn r owner command := by
  intro begins
  cases fails with
  | unknown unknown => exact not_begins_of_none (action?_of_unknown unknown) begins
  | missing known missing => exact not_begins_of_none (action?_of_missing known missing) begins
  | unprinted ready refuses => exact not_begins_of_action? ready nofun nofun begins
  | undeleted ready refused other => exact not_begins_of_action? ready nofun nofun begins
  | unstarted ready refused =>
    rcases begins with ⟨child, reply, ready', started⟩ | ⟨target, ready', -⟩
    · cases ready.symm.trans ready'
      cases refused.symm.trans started
    · cases ready.symm.trans ready'
  | unentered ready refused =>
    rcases begins with ⟨child, reply, ready', -⟩ | ⟨target, ready', free⟩
    · cases ready.symm.trans ready'
    · cases ready.symm.trans ready'
      cases refused.symm.trans free

/-- A command that fails has begun, or there is a way in which it fails idly. -/
theorem begins_or_exists_failsIdly
    (failed : (r.executeCommand spawn owner command).1 = .error fault) :
    Begins spawn r owner command ∨ ∃ own, FailsIdly spawn r owner command own := by
  rcases r.action?_cases owner command with
    unknown | ⟨kind, known, missing⟩ | ⟨kind, action, known, ready⟩
  · exact .inr ⟨_, .unknown unknown⟩
  · exact .inr ⟨_, .missing known missing⟩
  · have before := Traceless.prepared r owner command action
    rw [executeCommand_of_action ready] at failed
    -- what an action may be refused at first is decided by the state before the command
    cases action with
    | run child =>
      cases started : r.startChild spawn child with
      | ok reply => exact .inl (.inl ⟨child, reply, ready, started⟩)
      | error cause => exact .inr ⟨_, .unstarted ready started⟩
    | del path =>
      cases removed : r.store.unlink (r.pathOf path) with
      | ok after =>
        rw [← before.store, ← pathOf_of_keeps before.keeps] at removed
        rw [perform, (deleteFile_of_ok removed).1] at failed
        cases failed
      | error cause =>
        by_cases missing : cause = .notFound
        · rw [missing, ← before.store, ← pathOf_of_keeps before.keeps] at removed
          rw [perform, (deleteFile_of_missing removed).1] at failed
          cases failed
        · exact .inr ⟨_, .undeleted ready removed missing⟩
    | ech line =>
      cases answer : r.console.out.answer r.console.out.log (.text (line ++ "\n")) with
      | some refusal => exact .inr ⟨_, .unprinted ready answer⟩
      | none =>
        rw [← out_prepared r owner command (.ech line)] at answer
        rw [perform, echo_of_taken answer] at failed
        cases failed
    | tsk target =>
      cases refused : r.refusal? target with
      | none => exact .inl (.inr ⟨target, ready, refused⟩)
      | some own => exact .inr ⟨own, .unentered ready refused⟩
    | var name value => cases failed

/-- A command that fails without having begun fails idly. -/
theorem begins_or_failsIdly (failed : (r.executeCommand spawn owner command).1 = .error fault) :
    Begins spawn r owner command ∨ FailsIdly spawn r owner command fault := by
  rcases begins_or_exists_failsIdly failed with begins | ⟨own, fails⟩
  · exact .inl begins
  · -- a command has one outcome
    obtain ⟨s, done, -⟩ := fails.executeCommand
    rw [done] at failed
    rw [← Except.error.inj failed]
    exact .inr fails

/-- The failures of a command that has started no child process and entered no task are those of
commands that are not in order, and of effects and calls that are refused.  They leave no trace, if no
byte is taken of a line that is refused: the variables, the task stack, the arguments, the output and
the store are as they were, with the script and the settings, and nothing but diagnostics has been
written to the errors. -/
theorem idle_failure (spawn : Spawn) (r : Runner) (owner : String) (command : Command)
    (fault : RunFault) :
    (FailsIdly spawn r owner command fault ↔
      (r.executeCommand spawn owner command).1 = .error fault ∧ ¬ Begins spawn r owner command) ∧
    (FailsIdly spawn r owner command fault → r.SparesRefused owner command →
      Traceless r (r.executeCommand spawn owner command).2) := by
  refine ⟨⟨fun fails => ⟨?_, fails.not_begins⟩, ?_⟩, fun fails spares => ?_⟩
  · obtain ⟨s, done, -⟩ := fails.executeCommand
    rw [done]
  · rintro ⟨failed, idle⟩
    exact (begins_or_failsIdly failed).resolve_left idle
  · obtain ⟨s, done, traceless⟩ := fails.executeCommand
    rw [done]
    exact traceless spares

/-- A task that calls itself through a variable, while it is running and everything is noted. -/
def returning : Runner :=
  { (fresh roundabout).pushTask "greet" with settings := { plain with verbosity := .verbose } }

/-- A call that closes a circle is refused.  That it has an argument too many has been noted, and
nothing else has changed. -/
theorem idle_failure_of_return :
    let command : Command := ⟨"tsk", ["$next", "again"], 3⟩
    let done := returning.executeCommand noChild "greet" command
    FailsIdly noChild returning "greet" command (.cyclic ["greet", "greet"]) ∧
      done.1 = .error (.cyclic ["greet", "greet"]) ∧ Traceless returning done.2 ∧
      done.2.console.err.log.length = 1 := by
  intro command done
  have ready : returning.action? "greet" command = some (.tsk "greet") := by decide +kernel
  have refused : returning.refusal? "greet" = some (.cyclic ["greet", "greet"]) := by
    decide +kernel
  have fails : FailsIdly noChild returning "greet" command (.cyclic ["greet", "greet"]) :=
    .unentered ready refused
  have noted : done.2.console.err.log.length = 1 := by decide +kernel
  have idle := idle_failure noChild returning "greet" command (.cyclic ["greet", "greet"])
  have spares : returning.SparesRefused "greet" command := by
    intro line refusal printed
    cases ready.symm.trans printed
  exact ⟨fails, (idle.1.1 fails).1, idle.2 fails spares, noted⟩

end Runner
end TaskScript
