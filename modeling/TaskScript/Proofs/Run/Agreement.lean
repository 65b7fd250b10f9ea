import TaskScript.Proofs.Run.Entry

/-!
# Agreement — states between which commands do not distinguish

A command that calls no task looks at the innermost task, but at no other part of the task stack,
and not at the journal.  What has been written to the errors tells on it only through the answers of
the sink; and diagnostics do not tell at all if the sink answers without regard to them.

- `Sink.IgnoresDiagnostics`      : such a sink
- `Console.IgnoresDiagnostics`   : a console where it takes such a sink, or none to be asked
- `Runner.Agree`                 : states that are the same apart from these parts
- `Runner.SameResult`            : results that are the same apart from these parts
- `Runner.sameResult_runCommand` : a command that calls no task gives the same from such states
-/

namespace TaskScript

/-! ## Sinks -/

/-- Whether something that is written is a diagnostic. -/
def Piece.isDiagnostic : Piece → Bool
  | diagnostic _ _ _ => true
  | text _ | child _ => false

namespace Sink

/-- What was to be written, without the diagnostics. -/
def solid (log : List Writing) : List Writing :=
  log.filter fun writing => !writing.piece.isDiagnostic

/-- What becomes of a piece does not depend on the diagnostics that were to be written before it. -/
def IgnoresDiagnostics (sink : Sink) : Prop :=
  ∀ log log' piece, solid log = solid log' → sink.answer log piece = sink.answer log' piece

theorem solid_record_diagnostic (sink : Sink) (level : Level) (styled : Bool) (message : String)
    (refusal? : Option Refusal) :
    solid (sink.record (.diagnostic level styled message) refusal?).log = solid sink.log := by
  simp [record, solid, Piece.isDiagnostic]

/-- Sinks that answer alike and differ in diagnostics at most. -/
structure Agree (first second : Sink) : Prop where
  ignores : first.IgnoresDiagnostics
  answer : second.answer = first.answer
  solid : solid second.log = solid first.log

namespace Agree

variable {first second third sink : Sink}

theorem refl (ignores : sink.IgnoresDiagnostics) : Agree sink sink :=
  ⟨ignores, rfl, rfl⟩

theorem symm (h : Agree first second) : Agree second first := by
  refine ⟨?_, h.answer.symm, h.solid.symm⟩
  intro log log' piece same
  rw [h.answer]
  exact h.ignores log log' piece same

theorem trans (h : Agree first second) (h' : Agree second third) : Agree first third :=
  ⟨h.ignores, h'.answer.trans h.answer, h'.solid.trans h.solid⟩

theorem record (h : Agree first second) (piece : Piece) (refusal? : Option Refusal) :
    Agree (first.record piece refusal?) (second.record piece refusal?) := by
  refine ⟨h.ignores, h.answer, ?_⟩
  simp only [Sink.record, Sink.solid, List.filter_append]
  exact congrArg (· ++ _) h.solid

theorem answer_log (h : Agree first second) (piece : Piece) :
    second.answer second.log piece = first.answer first.log piece := by
  rw [h.answer]
  exact h.ignores _ _ piece h.solid

end Agree
end Sink

/-! ## Consoles -/

namespace Console

/-- Whether the errors of a child process can be passed on, if they are, does not depend on
diagnostics. -/
def IgnoresDiagnostics (console : Console) : Prop :=
  console.captures = true → console.err.IgnoresDiagnostics

/-- Consoles with the same output, whose sinks for errors agree if children are heard by them. -/
structure Agree (first second : Console) : Prop where
  out : second.out = first.out
  err : first.captures = true → Sink.Agree first.err second.err
  captures : second.captures = first.captures

/-- Writes that are refused for the same cause, or both taken, and leave consoles that are related. -/
structure SameWrite (R : Console → Console → Prop) (first second : Option SystemError × Console) :
    Prop where
  told : second.1 = first.1
  left : R first.2 second.2

section

variable {R : Console → Console → Prop} {first second : Console} {out err : ByteArray}

/-- Consoles pass on the outputs of a child alike if they take them alike. -/
theorem forward_of_sameWrite
    (print : SameWrite R (first.print (.child out)) (second.print (.child out)))
    (complain : ∀ {first' second'}, first'.captures = first.captures → R first' second' →
      SameWrite R (first'.complain (.child err)) (second'.complain (.child err))) :
    SameWrite R (first.forward out err) (second.forward out err) := by
  have captures : (first.print (.child out)).2.captures = first.captures := rfl
  obtain ⟨told, left⟩ := print
  unfold Console.forward
  generalize first.print (.child out) = written at captures told left ⊢
  generalize second.print (.child out) = written' at told left ⊢
  obtain ⟨refused, first'⟩ := written
  obtain ⟨refused', second'⟩ := written'
  obtain rfl : refused' = refused := told
  cases refused' with
  | some cause => exact ⟨rfl, left⟩
  | none => exact complain captures left

/-- They hear a child alike if that is so for captured outputs, and the others are noted alike. -/
theorem hear_of_sameWrite (captures : second.captures = first.captures)
    (forward : first.captures = true →
      SameWrite R (first.forward out err) (second.forward out err))
    (shared : first.captures = false → R (first.hear out err).2 (second.hear out err).2) :
    SameWrite R (first.hear out err) (second.hear out err) := by
  cases captured : first.captures with
  | true =>
    rw [hear_of_captured captured, hear_of_captured (captures.trans captured)]
    exact forward captured
  | false =>
    refine ⟨?_, shared captured⟩
    rw [hear_of_shared captured, hear_of_shared (captures.trans captured)]

end

namespace Agree

variable {first second third : Console}

theorem refl {console : Console} (ignores : console.IgnoresDiagnostics) : Agree console console :=
  ⟨rfl, fun captured => .refl (ignores captured), rfl⟩

theorem symm (h : Agree first second) : Agree second first :=
  ⟨h.out.symm, fun captured => (h.err (h.captures.symm.trans captured)).symm, h.captures.symm⟩

theorem trans (h : Agree first second) (h' : Agree second third) : Agree first third :=
  ⟨h'.out.trans h.out, fun captured => (h.err captured).trans (h'.err (h.captures.trans captured)),
    h'.captures.trans h.captures⟩

theorem diagnose {console : Console} (ignores : console.IgnoresDiagnostics)
    (verbosity : Verbosity) (level : Level) (message : String) :
    Agree console (console.diagnose verbosity level message) := by
  unfold Console.diagnose
  split
  · refine ⟨rfl, fun captured => ?_, rfl⟩
    exact ⟨ignores captured, rfl, Sink.solid_record_diagnostic _ _ _ _ _⟩
  · exact refl ignores

theorem print (h : Agree first second) (piece : Piece) :
    SameWrite Agree (first.print piece) (second.print piece) := by
  unfold Console.print
  rw [h.out]
  exact ⟨rfl, rfl, h.err, h.captures⟩

theorem complain (h : Agree first second) (captured : first.captures = true) (piece : Piece) :
    SameWrite Agree (first.complain piece) (second.complain piece) := by
  unfold Console.complain Sink.write
  rw [(h.err captured).answer_log]
  exact ⟨rfl, h.out, fun captured => (h.err captured).record piece _, h.captures⟩

/-- Consoles that agree hear a child alike. -/
theorem hear (h : Agree first second) (out err : ByteArray) :
    SameWrite Agree (first.hear out err) (second.hear out err) := by
  refine hear_of_sameWrite h.captures (fun captured => ?_) fun shared => ?_
  · exact forward_of_sameWrite (h.print _) fun captures related =>
      related.complain (captures.trans captured) _
  -- what children have written themselves tells on nothing
  · rw [hear_of_shared shared, hear_of_shared (h.captures.trans shared), h.out]
    exact ⟨rfl, fun captured => absurd captured (by simp [shared]), h.captures⟩

end Agree
end Console

namespace Runner

variable {spawn : Spawn} {invoke : Invoke} {r s : Runner} {owner : String} {command : Command}

/-! ## States -/

/-- States that are the same apart from the task stack, the journal and the diagnostics. -/
structure Agree (r s : Runner) : Prop where
  script : s.script = r.script
  settings : s.settings = r.settings
  positional : s.positional = r.positional
  named : s.named = r.named
  runtime : s.runtime = r.runtime
  store : s.store = r.store
  console : Console.Agree r.console s.console

namespace Agree

theorem refl (ignores : r.console.IgnoresDiagnostics) : Agree r r :=
  ⟨rfl, rfl, rfl, rfl, rfl, rfl, .refl ignores⟩

theorem ignores (h : Agree r s) : r.console.IgnoresDiagnostics :=
  fun captured => (h.console.err captured).ignores

theorem symm (h : Agree r s) : Agree s r :=
  ⟨h.script.symm, h.settings.symm, h.positional.symm, h.named.symm, h.runtime.symm, h.store.symm,
    h.console.symm⟩

theorem trans {t : Runner} (h : Agree r s) (h' : Agree s t) : Agree r t :=
  ⟨h'.script.trans h.script, h'.settings.trans h.settings, h'.positional.trans h.positional,
    h'.named.trans h.named, h'.runtime.trans h.runtime, h'.store.trans h.store,
    h.console.trans h'.console⟩

theorem note (ignores : r.console.IgnoresDiagnostics) (level : Level) (message : String) :
    Agree r (r.note level message) :=
  ⟨rfl, rfl, rfl, rfl, rfl, rfl, .diagnose ignores _ _ _⟩

theorem pushTask (ignores : r.console.IgnoresDiagnostics) (name : String) :
    Agree r (r.pushTask name) :=
  ⟨rfl, rfl, rfl, rfl, rfl, rfl, .refl ignores⟩

theorem popTask (ignores : r.console.IgnoresDiagnostics) : Agree r r.popTask :=
  ⟨rfl, rfl, rfl, rfl, rfl, rfl, .refl ignores⟩

theorem dispatch (ignores : r.console.IgnoresDiagnostics) (owner : String) (command : Command)
    (action : Action) : Agree r (r.dispatch owner command action) :=
  ⟨rfl, rfl, rfl, rfl, rfl, rfl, .refl ignores⟩

theorem noteExtra (ignores : r.console.IgnoresDiagnostics) (command : Command)
    (kind : Keyword) : Agree r (r.noteExtra command kind) := by
  unfold Runner.noteExtra
  split
  · exact note ignores _ _
  · exact refl ignores

/-- What comes before the action of a command does not matter. -/
theorem prepared (ignores : r.console.IgnoresDiagnostics) (owner : String) (command : Command)
    (kind : Keyword) (action : Action) :
    Agree r ((r.noteExtra command kind).dispatch owner command action) :=
  (noteExtra ignores command kind).trans (dispatch (noteExtra ignores command kind).symm.ignores _ _ _)

/-- Notes on either side do not matter. -/
theorem note_both (h : Agree r s) (level level' : Level) (message message' : String) :
    Agree (r.note level message) (s.note level' message') :=
  (note h.ignores level message).symm.trans (h.trans (note h.symm.ignores level' message'))

/-- References stand for the same. -/
theorem resolve (h : Agree r s) (owner : String) : s.resolve owner = r.resolve owner := by
  have same : s.scope owner = r.scope owner := by
    simp only [scope, h.script, h.settings, h.positional, h.named, h.runtime]
  funext text
  rw [Runner.resolve, Runner.resolve, same]

theorem action? (h : Agree r s) (owner : String) (command : Command) :
    s.action? owner command = r.action? owner command := by
  rw [Runner.action?, Runner.action?, h.resolve owner]

end Agree

/-! ## Commands -/

/-- Results that tell the same and leave states that agree. -/
structure SameResult {α : Type} (first second : α × Runner) : Prop where
  told : second.1 = first.1
  left : Agree first.2 second.2

/-- States that agree, with the same innermost task. -/
structure Alike (r s : Runner) : Prop extends Agree r s where
  top : s.currentTask? = r.currentTask?

theorem Alike.writeFault (h : Alike r s) (cause : SystemError) :
    s.writeFault cause = r.writeFault cause := by
  rw [Runner.writeFault, Runner.writeFault, h.top]

theorem sameResult_judgeStatus (h : Agree r s) (child : String) (status : ExitStatus) :
    SameResult (r.judgeStatus child status) (s.judgeStatus child status) := by
  unfold judgeStatus
  rw [h.settings]
  split
  · exact ⟨rfl, h⟩
  · split
    · exact ⟨rfl, h⟩
    · exact ⟨rfl, h.note_both _ _ _ _⟩

theorem sameResult_runChild (h : Alike r s) (child : String) :
    SameResult (r.runChild spawn child) (s.runChild spawn child) := by
  have noted : Alike (r.note .run child) (s.note .run child) :=
    ⟨h.toAgree.note_both _ _ _ _, h.top⟩
  unfold runChild
  generalize r.note .run child = r at noted ⊢
  generalize s.note .run child = s at noted ⊢
  have interpreter : s.settings.interpreter = r.settings.interpreter := by
    rw [noted.settings]
  have workingDir : s.settings.workingDir = r.settings.workingDir := by
    rw [noted.settings]
  dsimp only
  rw [interpreter, workingDir, noted.store, noted.console.captures]
  cases r.settings.interpreter with
  | nil => exact ⟨rfl, noted.toAgree⟩
  | cons program args =>
    dsimp only
    -- the same child is started, and only the sinks that take its outputs differ
    cases spawn ⟨program, args ++ [child], r.settings.workingDir, r.console.captures⟩ r.store with
    | error cause => exact ⟨rfl, noted.toAgree⟩
    | ok reply =>
      dsimp only
      obtain ⟨same, after⟩ := noted.console.hear reply.out reply.err
      generalize r.console.hear reply.out reply.err = heard at same after ⊢
      generalize s.console.hear reply.out reply.err = heard' at same after ⊢
      obtain ⟨refused, console⟩ := heard
      obtain ⟨refused', console'⟩ := heard'
      obtain rfl : refused' = refused := same
      have left : Agree { r with store := reply.store, console }
          { s with store := reply.store, console := console' } :=
        ⟨noted.script, noted.settings, noted.positional, noted.named, noted.runtime, rfl, after⟩
      cases refused' with
      | some cause => exact ⟨congrArg Except.error (noted.writeFault cause), left⟩
      | none => exact sameResult_judgeStatus left child reply.status

theorem sameResult_deleteFile (h : Agree r s) (path : String) :
    SameResult (r.deleteFile path) (s.deleteFile path) := by
  have workingDir : s.settings.workingDir = r.settings.workingDir := by
    rw [h.settings]
  unfold deleteFile
  dsimp only
  rw [workingDir, h.store]
  split
  · next store _ =>
    have left : Agree { r with store } { s with store } :=
      ⟨h.script, h.settings, h.positional, h.named, h.runtime, rfl, h.console⟩
    exact ⟨rfl, left.note_both _ _ _ _⟩
  · exact ⟨rfl, h.note_both _ _ _ _⟩
  · exact ⟨rfl, h⟩

theorem sameResult_echo (h : Alike r s) (line : String) :
    SameResult (r.echo line) (s.echo line) := by
  unfold echo
  obtain ⟨told, after⟩ := h.console.print (.text (line ++ "\n"))
  generalize r.console.print (.text (line ++ "\n")) = first at told after ⊢
  generalize s.console.print (.text (line ++ "\n")) = second at told after ⊢
  obtain ⟨refused, console⟩ := first
  obtain ⟨refused', console'⟩ := second
  obtain rfl : refused' = refused := told
  have left : Agree { r with console } { s with console := console' } :=
    ⟨h.script, h.settings, h.positional, h.named, h.runtime, h.store, after⟩
  cases refused' with
  | some cause => exact ⟨congrArg Except.error (h.writeFault cause), left⟩
  | none => exact ⟨rfl, left⟩

theorem sameResult_assign (h : Agree r s) (name value : String) :
    SameResult (r.assign name value) (s.assign name value) := by
  have noted := h.note_both .debug .debug ("Set $" ++ name ++ " = " ++ quoted value)
    ("Set $" ++ name ++ " = " ++ quoted value)
  have assigned : s.runtime.set name value = r.runtime.set name value := by
    rw [h.runtime]
  exact ⟨rfl, noted.script, noted.settings, noted.positional, noted.named, assigned, noted.store,
    noted.console⟩

/-- From states that agree and have the same innermost task, a command that calls no task gives the
same. -/
theorem sameResult_runCommand (h : Alike r s) (noCall : command.kind? ≠ some .tsk) :
    SameResult (r.runCommand spawn invoke owner command)
      (s.runCommand spawn invoke owner command) := by
  rcases r.action?_cases owner command with
    unknown | ⟨kind, known, missing⟩ | ⟨kind, action, known, ready⟩
  · rw [runCommand_of_unknown unknown, runCommand_of_unknown unknown]
    exact ⟨rfl, h.toAgree⟩
  · rw [runCommand_of_missing known missing, runCommand_of_missing known missing]
    exact ⟨rfl, h.toAgree⟩
  · have ready' : s.action? owner command = some action := by
      rw [h.toAgree.action? owner command, ready]
    rw [runCommand_of_action known ready, runCommand_of_action known ready']
    -- the note and the entry in the journal are not looked at, and the stack stays
    have entered : ∀ {r : Runner}, r.console.IgnoresDiagnostics →
        Alike r ((r.noteExtra command kind).dispatch owner command action) := by
      intro r ignores
      have kept := Keeps.prepared r owner command kind action
      refine ⟨Agree.prepared ignores owner command kind action, ?_⟩
      rw [currentTask?, currentTask?, kept.stack]
    have first := entered h.ignores
    have second := entered h.toAgree.symm.ignores
    have both : Alike ((r.noteExtra command kind).dispatch owner command action)
        ((s.noteExtra command kind).dispatch owner command action) :=
      ⟨first.toAgree.symm.trans (h.toAgree.trans second.toAgree),
        second.top.trans (h.top.trans first.top.symm)⟩
    cases action with
    | run child => exact sameResult_runChild both child
    | del path => exact sameResult_deleteFile both.toAgree path
    | ech line => exact sameResult_echo both line
    | tsk target => exact absurd (kind?_of_action? ready) noCall
    | var assigned value => exact sameResult_assign both.toAgree assigned value

end Runner
end TaskScript
