import TaskScript.Run.Execution

/-!
# Frame — what commands and tasks leave as it was

A command is prepared, entered in the journal and carried out; a task carries out its commands
between a push and a pop.  From what these steps bring about follows what whole runs bring about:

- `Runner.runCommand_of_action` : one command, as its three steps
- `Runner.Sustained`            : a relation of states that each step brings about
- `Runner.Sustained.runTask`    : then every run does
- `Runner.Untouched`            : parts of the state that effects do not touch
- `Runner.Keeps`                : script, settings, arguments and task stack stay as they are, and
  the console stays one that answers in the same way
-/

namespace TaskScript

/-! ## Consoles -/

/-- The sink takes whatever is to be written. -/
def Sink.Takes (sink : Sink) : Prop :=
  ∀ log piece, sink.answer log piece = none

namespace Console

/-- Consoles that differ at most in what has been written to them. -/
structure Keeps (first second : Console) : Prop where
  out : second.out.answer = first.out.answer
  err : second.err.answer = first.err.answer
  captures : second.captures = first.captures
  styled : second.styled = first.styled

namespace Keeps

variable {first second third : Console}

theorem refl (console : Console) : Keeps console console :=
  ⟨rfl, rfl, rfl, rfl⟩

theorem trans (h : Keeps first second) (h' : Keeps second third) : Keeps first third :=
  ⟨h'.out.trans h.out, h'.err.trans h.err, h'.captures.trans h.captures,
    h'.styled.trans h.styled⟩

theorem print (console : Console) (piece : Piece) : Keeps console (console.print piece).2 :=
  ⟨rfl, rfl, rfl, rfl⟩

theorem complain (console : Console) (piece : Piece) : Keeps console (console.complain piece).2 :=
  ⟨rfl, rfl, rfl, rfl⟩

theorem diagnose (console : Console) (verbosity : Verbosity) (level : Level) (message : String) :
    Keeps console (console.diagnose verbosity level message) := by
  unfold Console.diagnose
  split
  · exact complain console _
  · exact refl console

theorem forward (console : Console) (out err : ByteArray) :
    Keeps console (console.forward out err).2 := by
  have printed := print console (.child out)
  unfold Console.forward
  split
  · next found => rwa [found] at printed
  · next found =>
    rw [found] at printed
    exact printed.trans (complain _ _)

/-- Whatever a child process has written, the console is used as before. -/
theorem hear (console : Console) (out err : ByteArray) : Keeps console (console.hear out err).2 := by
  unfold Console.hear
  split
  · exact forward console out err
  · exact ⟨rfl, rfl, rfl, rfl⟩

end Keeps

theorem hear_of_captured {console : Console} (captured : console.captures = true)
    (out err : ByteArray) : console.hear out err = console.forward out err := by
  rw [hear, captured, if_pos rfl]

theorem hear_of_shared {console : Console} (shared : console.captures = false)
    (out err : ByteArray) :
    console.hear out err =
      (none, { console with
        out := console.out.record (.child out) none
        err := console.err.record (.child err) none }) := by
  simp [hear, shared]

@[simp] theorem out_diagnose (console : Console) (verbosity : Verbosity) (level : Level)
    (message : String) : (console.diagnose verbosity level message).out = console.out := by
  unfold diagnose
  split <;> rfl

end Console

theorem Runner.captures_note (r : Runner) (level : Level) (message : String) :
    (r.note level message).console.captures = r.console.captures :=
  (Console.Keeps.diagnose _ _ _ _).captures

/-- The keyword that asks for an action. -/
def Action.kind : Action → Keyword
  | .run _ => .run
  | .del _ => .del
  | .ech _ => .ech
  | .tsk _ => .tsk
  | .var _ _ => .var

theorem Action.eq_tsk_of_kind {action : Action} (isCall : action.kind = .tsk) :
    ∃ target, action = .tsk target := by
  cases action with
  | tsk target => exact ⟨target, rfl⟩
  | run child => cases isCall
  | del path => cases isCall
  | ech line => cases isCall
  | var assigned value => cases isCall

theorem Action.eq_var_of_kind {action : Action} (assigns : action.kind = .var) :
    ∃ name value, action = .var name value := by
  cases action with
  | var name value => exact ⟨name, value, rfl⟩
  | run child => cases assigns
  | del path => cases assigns
  | ech line => cases assigns
  | tsk target => cases assigns

namespace Runner

/-! ## The steps of a command -/

/-- Say that a command has more arguments than it consumes, if it has. -/
def noteExtra (r : Runner) (command : Command) (kind : Keyword) : Runner :=
  if kind.arity < command.args.length then
    r.note .debug ("Ignoring extra arguments of '" ++ command.keyword ++ "' command")
  else
    r

/-- Enter a command in the journal. -/
def dispatch (r : Runner) (owner : String) (command : Command) (action : Action) : Runner :=
  { r with journal := ⟨r.stack, owner, command, action⟩ :: r.journal }

/-- The action of a command on behalf of a task, none if its keyword is unknown or arguments are
missing. -/
def action? (r : Runner) (owner : String) (command : Command) : Option Action :=
  command.kind?.bind fun kind => Action.ofArgs? (r.resolve owner) kind command.args

variable {spawn : Spawn} {invoke : Invoke} {r s : Runner} {owner : String} {command : Command}

theorem runCommand_of_unknown (unknown : command.kind? = none) :
    r.runCommand spawn invoke owner command =
      (.error (.unknownCommand command.keyword), r) := by
  simp only [runCommand, unknown]

theorem runCommand_of_missing {kind : Keyword} (known : command.kind? = some kind)
    (missing : command.args.length < kind.arity) :
    r.runCommand spawn invoke owner command =
      (.error (.internal owner
        (.missingArguments command.keyword kind.arity command.args.length)), r) := by
  have none' : Action.ofArgs? (r.resolve owner) kind command.args = none :=
    Action.ofArgs?_eq_none_iff.2 missing
  simp only [runCommand, known, prepare, none']

/-- A command that is in order is noted, entered in the journal and carried out. -/
theorem runCommand_of_action {kind : Keyword} {action : Action}
    (known : command.kind? = some kind) (ready : r.action? owner command = some action) :
    r.runCommand spawn invoke owner command =
      ((r.noteExtra command kind).dispatch owner command action).perform spawn invoke action := by
  rw [action?, known, Option.bind_some] at ready
  have known' : command.kind? = some kind := known
  simp only [runCommand, known', prepare, ready]
  unfold noteExtra dispatch
  split <;> rfl

/-- A command is in order, or its keyword is unknown, or arguments are missing. -/
theorem action?_cases (r : Runner) (owner : String) (command : Command) :
    command.kind? = none ∨
      (∃ kind, command.kind? = some kind ∧ command.args.length < kind.arity) ∨
      ∃ kind action, command.kind? = some kind ∧ r.action? owner command = some action := by
  cases known : command.kind? with
  | none => exact .inl rfl
  | some kind =>
    cases ready : Action.ofArgs? (r.resolve owner) kind command.args with
    | none => exact .inr (.inl ⟨kind, rfl, Action.ofArgs?_eq_none_iff.1 ready⟩)
    | some action => exact .inr (.inr ⟨kind, action, rfl, by simp [action?, known, ready]⟩)

theorem action?_of_unknown (unknown : command.kind? = none) : r.action? owner command = none := by
  rw [action?, unknown, Option.bind_none]

theorem action?_of_missing {kind : Keyword} (known : command.kind? = some kind)
    (missing : command.args.length < kind.arity) : r.action? owner command = none := by
  rw [action?, known, Option.bind_some]
  exact Action.ofArgs?_eq_none_iff.2 missing

/-- A call resolves its first argument. -/
theorem action?_of_call (isCall : command.kind? = some .tsk) :
    r.action? owner command = command.args.head?.map fun arg => .tsk (r.resolve owner arg) := by
  rw [action?, isCall, Option.bind_some]
  cases command.args <;> rfl

/-- The action of a command is of its kind. -/
theorem kind?_of_action? {action : Action} (ready : r.action? owner command = some action) :
    command.kind? = some action.kind := by
  obtain ⟨kind, known, made⟩ := Option.bind_eq_some_iff.1 ready
  rw [known]
  unfold Action.ofArgs? at made
  split at made <;> cases made <;> rfl

/-- The state in which the task that a command calls is entered. -/
def calling (r : Runner) (owner : String) (command : Command) (target : String) : Runner :=
  (r.noteExtra command .tsk).dispatch owner command (.tsk target)

theorem runCommand_of_call {target : String}
    (ready : r.action? owner command = some (.tsk target)) :
    r.runCommand spawn invoke owner command =
      (r.calling owner command target).invokeTask invoke target :=
  runCommand_of_action (kind?_of_action? ready) ready

theorem invokeTask_snd (invoke : Invoke) (r : Runner) (target : String) :
    (r.invokeTask invoke target).2 = (invoke target r).2 := by
  unfold invokeTask
  split <;> simp_all

theorem echo_of_refusal {line : String} {refusal : Refusal}
    (refuses : r.console.out.answer r.console.out.log (.text (line ++ "\n")) = some refusal) :
    (r.echo line).1 = .error (r.writeFault refusal.cause) := by
  simp only [echo, Console.print, Sink.write, refuses, Option.map_some]

theorem echo_of_taken {line : String}
    (taken : r.console.out.answer r.console.out.log (.text (line ++ "\n")) = none) :
    (r.echo line).1 = .ok none := by
  simp only [echo, Console.print, Sink.write, taken, Option.map_none]

/-- A line that is printed changes the console alone, also if it is refused. -/
theorem echo_snd (r : Runner) (line : String) :
    (r.echo line).2 = { r with console := (r.console.print (.text (line ++ "\n"))).2 } := by
  unfold echo
  split
  · next found => rw [found]
  · next found => rw [found]

/-! ## Relations that runs bring about -/

/-- A relation between states that each step of a run brings about: notes, entries in the journal,
actions other than calls, and whatever a task does between a push and a pop. -/
structure Sustained (spawn : Spawn) (R : Runner → Runner → Prop) : Prop where
  refl : ∀ r, R r r
  trans : ∀ {r s t}, R r s → R s t → R r t
  note : ∀ r level message, R r (r.note level message)
  dispatch : ∀ r owner command action, R r (r.dispatch owner command action)
  perform : ∀ r (invoke : Invoke) {action : Action}, action.kind ≠ .tsk →
    R r (r.perform spawn invoke action).2
  nest : ∀ {r s name}, R (r.pushTask name) s → R r s.popTask

namespace Sustained

variable {R : Runner → Runner → Prop}

theorem noteExtra (h : Sustained spawn R) (r : Runner) (command : Command) (kind : Keyword) :
    R r (r.noteExtra command kind) := by
  unfold Runner.noteExtra
  split
  · exact h.note _ _ _
  · exact h.refl r

/-- A command brings the relation about if the tasks that it invokes do. -/
theorem runCommand (h : Sustained spawn R) (below : ∀ target r, R r (invoke target r).2)
    (r : Runner) (owner : String) (command : Command) :
    R r (r.runCommand spawn invoke owner command).2 := by
  rcases r.action?_cases owner command with
    unknown | ⟨kind, known, missing⟩ | ⟨kind, action, known, ready⟩
  · rw [runCommand_of_unknown unknown]
    exact h.refl r
  · rw [runCommand_of_missing known missing]
    exact h.refl r
  · rw [runCommand_of_action known ready]
    refine h.trans (h.trans (h.noteExtra r command kind) (h.dispatch _ owner command action)) ?_
    by_cases isCall : action.kind = .tsk
    · obtain ⟨target, rfl⟩ := Action.eq_tsk_of_kind isCall
      rw [Runner.perform, invokeTask_snd]
      exact below target _
    · exact h.perform _ invoke isCall

theorem runCommands (h : Sustained spawn R) (below : ∀ target r, R r (invoke target r).2)
    (owner : String) (commands : List Command) (r : Runner) :
    R r (runCommands spawn invoke owner commands r).2 := by
  induction commands generalizing r with
  | nil => exact h.refl r
  | cons command rest ih =>
    have first := h.runCommand below r owner command
    unfold Runner.runCommands
    split
    · next found => rwa [found] at first
    · next found =>
      rw [found] at first
      exact h.trans first (ih _)

/-- Every run brings about what each of its steps does. -/
theorem runTask (h : Sustained spawn R) (room : Nat) (name : String) (r : Runner) :
    R r (runTask spawn room name r).2 := by
  -- the tasks that commands invoke have one entry less to make
  induction room generalizing name r with
  | zero =>
    unfold Runner.runTask
    split
    · exact h.refl r
    · split <;> exact h.refl r
  | succ room ih =>
    unfold Runner.runTask
    split
    · exact h.refl r
    · next task found =>
      split
      · exact h.refl r
      · have body := h.trans (h.note (r.pushTask name) .info ("Running task: " ++ name))
          (h.runCommands ih name task.commands _)
        dsimp only
        split
        · next found' =>
          rw [found'] at body
          exact h.nest body
        · next found' =>
          rw [found'] at body
          exact h.trans (h.nest body) (h.note _ _ _)

theorem executeTask (h : Sustained spawn R) (name : String) (r : Runner) :
    R r (r.executeTask spawn name).2 :=
  h.runTask r.room name r

theorem executeCommand (h : Sustained spawn R) (owner : String) (command : Command) (r : Runner) :
    R r (r.executeCommand spawn owner command).2 :=
  h.runCommand (fun target r => h.executeTask target r) r owner command

end Sustained

/-! ## What effects do not touch -/

/-- A part of the state that has to do neither with the console nor with the store. -/
structure Untouched {α : Type} (part : Runner → α) : Prop where
  console : ∀ (r : Runner) console, part { r with console } = part r
  store : ∀ (r : Runner) store, part { r with store } = part r

theorem untouched_journal : Untouched Runner.journal :=
  ⟨fun _ _ => rfl, fun _ _ => rfl⟩

theorem untouched_runtime : Untouched Runner.runtime :=
  ⟨fun _ _ => rfl, fun _ _ => rfl⟩

namespace Untouched

variable {α : Type} {part : Runner → α}

theorem note (h : Untouched part) (r : Runner) (level : Level) (message : String) :
    part (r.note level message) = part r :=
  h.console r _

theorem noteExtra (h : Untouched part) (r : Runner) (command : Command) (kind : Keyword) :
    part (r.noteExtra command kind) = part r := by
  unfold Runner.noteExtra
  split
  · exact h.note r _ _
  · rfl

theorem judgeStatus (h : Untouched part) (r : Runner) (child : String) (status : ExitStatus) :
    part (r.judgeStatus child status).2 = part r := by
  unfold Runner.judgeStatus
  split
  · rfl
  · split
    · rfl
    · exact h.note r _ _

theorem runChild (h : Untouched part) (r : Runner) (child : String) :
    part (r.runChild spawn child).2 = part r := by
  rw [← h.note r .run child]
  unfold Runner.runChild
  generalize r.note .run child = r
  dsimp only
  split
  · rfl
  · split
    · rfl
    · next reply _ =>
      have left : ∀ console, part { r with store := reply.store, console } = part r :=
        fun console => (h.console { r with store := reply.store } console).trans (h.store r _)
      split
      · exact left _
      · exact (h.judgeStatus _ _ _).trans (left _)

theorem deleteFile (h : Untouched part) (r : Runner) (path : String) :
    part (r.deleteFile path).2 = part r := by
  unfold Runner.deleteFile
  dsimp only
  split
  · exact (h.note _ _ _).trans (h.store r _)
  · exact h.note r _ _
  · rfl

theorem echo (h : Untouched part) (r : Runner) (line : String) :
    part (r.echo line).2 = part r := by
  rw [echo_snd]
  exact h.console r _

/-- Actions other than calls and assignments have effects on the console and the store alone. -/
theorem perform (h : Untouched part) (r : Runner) (invoke : Invoke) {action : Action}
    (noCall : action.kind ≠ .tsk) (noAssignment : action.kind ≠ .var) :
    part (r.perform spawn invoke action).2 = part r := by
  cases action with
  | run child => exact h.runChild r child
  | del path => exact h.deleteFile r path
  | ech line => exact h.echo r line
  | tsk target => exact absurd rfl noCall
  | var name value => exact absurd rfl noAssignment

end Untouched

/-! ## What stays as it is -/

/-- The parts of a state that no run changes; of the console, all but what has been written. -/
structure Keeps (r s : Runner) : Prop where
  script : s.script = r.script
  settings : s.settings = r.settings
  positional : s.positional = r.positional
  named : s.named = r.named
  stack : s.stack = r.stack
  console : Console.Keeps r.console s.console

namespace Keeps

theorem refl (r : Runner) : Keeps r r :=
  ⟨rfl, rfl, rfl, rfl, rfl, .refl _⟩

theorem trans {r s t : Runner} (h : Keeps r s) (h' : Keeps s t) : Keeps r t :=
  ⟨h'.script.trans h.script, h'.settings.trans h.settings, h'.positional.trans h.positional,
    h'.named.trans h.named, h'.stack.trans h.stack, h.console.trans h'.console⟩

/-- A state with another console that is used in the same way. -/
theorem withConsole {r : Runner} {console : Console} (h : Console.Keeps r.console console) :
    Keeps r { r with console } :=
  ⟨rfl, rfl, rfl, rfl, rfl, h⟩

theorem note (r : Runner) (level : Level) (message : String) : Keeps r (r.note level message) :=
  withConsole (.diagnose _ _ _ _)

theorem dispatch (r : Runner) (owner : String) (command : Command) (action : Action) :
    Keeps r (r.dispatch owner command action) :=
  ⟨rfl, rfl, rfl, rfl, rfl, .refl _⟩

theorem judgeStatus (r : Runner) (command : String) (status : ExitStatus) :
    Keeps r (r.judgeStatus command status).2 := by
  unfold Runner.judgeStatus
  split
  · exact refl r
  · split
    · exact refl r
    · exact note r _ _

theorem runChild (r : Runner) (command : String) : Keeps r (r.runChild spawn command).2 := by
  refine (note r .run command).trans ?_
  unfold Runner.runChild
  generalize r.note .run command = r
  dsimp only
  split
  · exact refl r
  · split
    · exact refl r
    · next reply _ =>
      have heard := Console.Keeps.hear r.console reply.out reply.err
      split
      · next found =>
        rw [found] at heard
        exact ⟨rfl, rfl, rfl, rfl, rfl, heard⟩
      · next console found =>
        rw [found] at heard
        have left : Keeps r { r with store := reply.store, console } :=
          ⟨rfl, rfl, rfl, rfl, rfl, heard⟩
        exact left.trans (judgeStatus _ _ _)

theorem deleteFile (r : Runner) (path : String) : Keeps r (r.deleteFile path).2 := by
  unfold Runner.deleteFile
  dsimp only
  split
  · next store _ =>
    have unlinked : Keeps r { r with store } := ⟨rfl, rfl, rfl, rfl, rfl, .refl _⟩
    exact unlinked.trans (note _ _ _)
  · exact note r _ _
  · exact refl r

theorem echo (r : Runner) (line : String) : Keeps r (r.echo line).2 := by
  rw [echo_snd]
  exact withConsole (.print _ _)

theorem assign (r : Runner) (name value : String) : Keeps r (r.assign name value).2 := by
  have noted := note r .debug ("Set $" ++ name ++ " = " ++ quoted value)
  exact ⟨noted.script, noted.settings, noted.positional, noted.named, noted.stack, noted.console⟩

theorem noteExtra (r : Runner) (command : Command) (kind : Keyword) :
    Keeps r (r.noteExtra command kind) := by
  unfold Runner.noteExtra
  split
  · exact note r _ _
  · exact refl r

/-- What comes before the action of a command keeps the frame. -/
theorem prepared (r : Runner) (owner : String) (command : Command) (kind : Keyword)
    (action : Action) : Keeps r ((r.noteExtra command kind).dispatch owner command action) :=
  (noteExtra r command kind).trans (dispatch _ owner command action)

theorem perform (r : Runner) (invoke : Invoke) {action : Action} (noCall : action.kind ≠ .tsk) :
    Keeps r (r.perform spawn invoke action).2 := by
  cases action with
  | run child => exact runChild r child
  | del path => exact deleteFile r path
  | ech line => exact echo r line
  | tsk target => exact absurd rfl noCall
  | var name value => exact assign r name value

theorem nest {r s : Runner} {name : String} (h : Keeps (r.pushTask name) s) :
    Keeps r s.popTask :=
  ⟨h.script, h.settings, h.positional, h.named, by rw [popTask, h.stack]; rfl, h.console⟩

end Keeps

/-- Every step of a run keeps the frame. -/
theorem sustained_keeps (spawn : Spawn) : Sustained spawn Keeps where
  refl := Keeps.refl
  trans := Keeps.trans
  note := Keeps.note
  dispatch := Keeps.dispatch
  perform := Keeps.perform
  nest := Keeps.nest

/-- So the console stays one that is used in the same way, also across a push or a pop. -/
theorem sustained_keeps_console (spawn : Spawn) :
    Sustained spawn fun r s => Console.Keeps r.console s.console where
  refl r := .refl r.console
  trans h h' := h.trans h'
  note r level message := (Keeps.note r level message).console
  dispatch r owner command action := (Keeps.dispatch r owner command action).console
  perform r invoke _ noCall := (Keeps.perform r invoke noCall).console
  nest h := h

end Runner
end TaskScript
