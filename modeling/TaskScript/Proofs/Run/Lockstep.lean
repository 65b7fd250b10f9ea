import Mathlib.Data.Nat.Find
import TaskScript.Proofs.Run.Operation

/-!
# Lockstep — runs that go the same way

Two runs from different states go through the same stages as long as the difference plays no part in
what is done next.  It is enough to know this of the parts of a run, and that the difference goes on:

- `Runner.Lockstep`          : a relation of states that plays no part where things are calm
- `Lockstep.advance`, `Lockstep.iterate` : the runs are at the same point after as many steps
- `Lockstep.result`          : and they end with the same result
- `Runner.exists_first_stage` : or else there is a first stage at which things are not calm
- `Runner.Indistinct`        : a relation that plays no part in what is seen between runs either
- `Indistinct.operateAll`    : operations give the same answers
-/

namespace TaskScript
namespace Runner

/-! ## The parts of a child process -/

/-- Start a child process with the command as its last argument. -/
def startChild (spawn : Spawn) (r : Runner) (child : String) : Except StartFailure ChildReply :=
  match r.settings.interpreter with
  | [] => .error .noInterpreter
  | program :: args =>
    (spawn ⟨program, args ++ [child], r.settings.workingDir, r.console.captures⟩
      r.store).mapError .refused

/-- Hear the outputs of a child process, and judge how it ended. -/
def receive (r : Runner) (child : String) (reply : ChildReply) : Outcome × Runner :=
  match r.console.hear reply.out reply.err with
  | (some cause, console) => (.error (r.writeFault cause), { r with console })
  | (none, console) => { r with console }.judgeStatus child reply.status

theorem runChild_eq (spawn : Spawn) (r : Runner) (child : String) :
    r.runChild spawn child =
      match r.startChild spawn child with
      | .error cause => (.error (.notStarted child cause), r.note .run child)
      | .ok reply => { r.note .run child with store := reply.store }.receive child reply := by
  have settings : (r.note .run child).settings = r.settings := rfl
  have store : (r.note .run child).store = r.store := rfl
  have captures := captures_note r .run child
  simp only [runChild, startChild, settings, store, captures]
  cases r.settings.interpreter with
  | nil => rfl
  | cons program args =>
    dsimp only
    cases spawn ⟨program, args ++ [child], r.settings.workingDir, r.console.captures⟩ r.store <;> rfl

/-- A write that was refused is laid to the innermost task. -/
theorem writeFault_congr {r s : Runner} (stack : s.stack = r.stack) (cause : SystemError) :
    s.writeFault cause = r.writeFault cause := by
  rw [writeFault, writeFault, currentTask?, currentTask?, stack]

/-! ## Relations -/

/-- Results that tell the same and leave states that are related. -/
structure SameUpTo {α : Type} (R : Runner → Runner → Prop) (first second : α × Runner) : Prop where
  told : second.1 = first.1
  left : R first.2 second.2

/-- The state in which the action of a command is carried out. -/
def prepared (r : Runner) (owner : String) (command : Command) (action : Action) : Runner :=
  (r.noteExtra command action.kind).dispatch owner command action

theorem startChild_prepared (spawn : Spawn) (r : Runner) (owner : String) (command : Command)
    (action : Action) (child : String) :
    (r.prepared owner command action).startChild spawn child = r.startChild spawn child := by
  unfold prepared noteExtra
  split
  · simp only [startChild, dispatch, captures_note]
    rfl
  · rfl

/-- The state in which the outputs of a child process are heard. -/
def hearing (r : Runner) (owner : String) (command : Command) (child : String)
    (reply : ChildReply) : Runner :=
  { (r.prepared owner command (.run child)).note .run child with store := reply.store }

/-- A relation of states that is kept by all that is done, and that plays no part in what is done
where things are calm. -/
structure Lockstep (spawn : Spawn) (Calm : Focus → Runner → Prop)
    (R : Runner → Runner → Prop) : Prop where
  -- what effects work on is the same
  findTask? : ∀ {r s}, R r s → s.script.findTask? = r.script.findTask?
  interpreter : ∀ {r s}, R r s → s.settings.interpreter = r.settings.interpreter
  workingDir : ∀ {r s}, R r s → s.settings.workingDir = r.settings.workingDir
  stack : ∀ {r s}, R r s → s.stack = r.stack
  store : ∀ {r s}, R r s → s.store = r.store
  out : ∀ {r s}, R r s → s.console.out = r.console.out
  captures : ∀ {r s}, R r s → s.console.captures = r.console.captures
  -- where things are calm, so are the tasks that are entered, the actions and the children
  refusal? : ∀ {r s name}, R r s → Calm (.task name) r → s.refusal? name = r.refusal? name
  action? : ∀ {r s owner command}, R r s → Calm (.command owner command) r →
    s.action? owner command = r.action? owner command
  receive : ∀ {r s owner command child reply}, R r s → Calm (.command owner command) r →
    r.action? owner command = some (.run child) → r.startChild spawn child = .ok reply →
    R (r.hearing owner command child reply) (s.hearing owner command child reply) →
    SameUpTo R ((r.hearing owner command child reply).receive child reply)
      ((s.hearing owner command child reply).receive child reply)
  -- whatever is done, the states stay related
  note : ∀ {r s}, R r s → ∀ level message, R (r.note level message) (s.note level message)
  dispatch : ∀ {r s}, R r s → ∀ owner command action,
    R (r.dispatch owner command action) (s.dispatch owner command action)
  setVar : ∀ {r s}, R r s → ∀ name value, R (r.setVar name value) (s.setVar name value)
  pushTask : ∀ {r s}, R r s → ∀ name, R (r.pushTask name) (s.pushTask name)
  popTask : ∀ {r s}, R r s → R r.popTask s.popTask
  setStore : ∀ {r s}, R r s → ∀ store, R { r with store } { s with store }
  setOut : ∀ {r s}, R r s → ∀ out,
    R { r with console := { r.console with out } } { s with console := { s.console with out } }

/-- What children are judged by is the same. -/
theorem sameUpTo_judgeStatus {R : Runner → Runner → Prop} {r s : Runner}
    (note : ∀ {r s}, R r s → ∀ level message, R (r.note level message) (s.note level message))
    (related : R r s) (strict : s.settings.strict = r.settings.strict) (child : String)
    (status : ExitStatus) :
    SameUpTo R (r.judgeStatus child status) (s.judgeStatus child status) := by
  unfold judgeStatus
  rw [strict]
  split
  · exact ⟨rfl, related⟩
  · split
    · exact ⟨rfl, related⟩
    · exact ⟨rfl, note related _ _⟩

/-- What comes of a child process is the same if the states that its outputs leave are related. -/
theorem sameUpTo_receive {R : Runner → Runner → Prop} {r s : Runner} {reply : ChildReply}
    (note : ∀ {r s}, R r s → ∀ level message, R (r.note level message) (s.note level message))
    (strict : s.settings.strict = r.settings.strict) (stack : s.stack = r.stack)
    (passed : (s.console.hear reply.out reply.err).1 =
      (r.console.hear reply.out reply.err).1)
    (left : R { r with console := (r.console.hear reply.out reply.err).2 }
      { s with console := (s.console.hear reply.out reply.err).2 }) (child : String) :
    SameUpTo R (r.receive child reply) (s.receive child reply) := by
  unfold receive
  generalize r.console.hear reply.out reply.err = first at passed left ⊢
  generalize s.console.hear reply.out reply.err = second at passed left ⊢
  obtain ⟨refused, console⟩ := first
  obtain ⟨refused', console'⟩ := second
  obtain rfl : refused' = refused := passed
  cases refused' with
  | some cause => exact ⟨congrArg Except.error (writeFault_congr stack cause), left⟩
  | none => exact sameUpTo_judgeStatus note left strict child reply.status

/-- Where the consoles are the same, it is enough that the states stay related with any other. -/
theorem sameUpTo_receive_of_console {R : Runner → Runner → Prop} {r s : Runner} {reply : ChildReply}
    (note : ∀ {r s}, R r s → ∀ level message, R (r.note level message) (s.note level message))
    (strict : s.settings.strict = r.settings.strict) (stack : s.stack = r.stack)
    (same : s.console = r.console) (left : ∀ console, R { r with console } { s with console })
    (child : String) : SameUpTo R (r.receive child reply) (s.receive child reply) := by
  refine sameUpTo_receive note strict stack ?_ ?_ child
  · rw [same]
  · rw [same]
    exact left _

namespace Lockstep

variable {spawn : Spawn} {Calm : Focus → Runner → Prop} {R : Runner → Runner → Prop}
  {r s : Runner} {owner : String} {command : Command}

/-! ## Effects -/

theorem noteExtra (h : Lockstep spawn Calm R) (related : R r s) (command : Command)
    (kind : Keyword) : R (r.noteExtra command kind) (s.noteExtra command kind) := by
  unfold Runner.noteExtra
  split
  · exact h.note related _ _
  · exact related

theorem prepared (h : Lockstep spawn Calm R) (related : R r s) (owner : String)
    (command : Command) (action : Action) :
    R (r.prepared owner command action) (s.prepared owner command action) :=
  h.dispatch (h.noteExtra related command action.kind) owner command action

theorem deleteFile (h : Lockstep spawn Calm R) (related : R r s) (path : String) :
    SameUpTo R (r.deleteFile path) (s.deleteFile path) := by
  unfold Runner.deleteFile
  dsimp only
  rw [h.workingDir related, h.store related]
  split
  · exact ⟨rfl, h.note (h.setStore related _) _ _⟩
  · exact ⟨rfl, h.note related _ _⟩
  · exact ⟨rfl, related⟩

theorem echo (h : Lockstep spawn Calm R) (related : R r s) (line : String) :
    SameUpTo R (r.echo line) (s.echo line) := by
  unfold Runner.echo Console.print
  rw [h.out related]
  obtain ⟨refused, out⟩ := r.console.out.write (.text (line ++ "\n"))
  have printed := h.setOut related out
  cases refused with
  | some cause => exact ⟨congrArg Except.error (writeFault_congr (h.stack related) cause), printed⟩
  | none => exact ⟨rfl, printed⟩

theorem startChild (h : Lockstep spawn Calm R) (related : R r s) (child : String) :
    s.startChild spawn child = r.startChild spawn child := by
  unfold Runner.startChild
  rw [h.interpreter related, h.workingDir related, h.store related, h.captures related]

theorem runChild (h : Lockstep spawn Calm R) (related : R r s) {child : String}
    (calm : Calm (.command owner command) r)
    (ready : r.action? owner command = some (.run child)) :
    SameUpTo R ((r.prepared owner command (.run child)).runChild spawn child)
      ((s.prepared owner command (.run child)).runChild spawn child) := by
  have both := h.prepared related owner command (.run child)
  have noted := h.note both .run child
  -- the same child is started, and what it leaves in the store is the same
  rw [runChild_eq, runChild_eq, startChild_prepared, startChild_prepared, h.startChild related]
  cases started : r.startChild spawn child with
  | error cause => exact ⟨rfl, noted⟩
  | ok reply => exact h.receive related calm ready started (h.setStore noted reply.store)

/-! ## Steps -/

/-- A command that calls no task has the same outcome. -/
theorem runCommand (h : Lockstep spawn Calm R) (related : R r s)
    (calm : Calm (.command owner command) r)
    (noCall : ∀ target, r.action? owner command ≠ some (.tsk target)) (invoke : Invoke) :
    SameUpTo R (r.runCommand spawn invoke owner command)
      (s.runCommand spawn invoke owner command) := by
  rcases r.action?_cases owner command with
    unknown | ⟨kind, known, missing⟩ | ⟨kind, action, known, ready⟩
  · rw [runCommand_of_unknown unknown, runCommand_of_unknown unknown]
    exact ⟨rfl, related⟩
  · rw [runCommand_of_missing known missing, runCommand_of_missing known missing]
    exact ⟨rfl, related⟩
  · have ready' : s.action? owner command = some action := by
      rw [h.action? related calm, ready]
    have same := kind?_of_action? ready
    rw [runCommand_of_action same ready, runCommand_of_action same ready']
    have both := h.prepared related owner command action
    cases action with
    | run child => exact h.runChild related calm ready
    | del path => exact h.deleteFile both path
    | ech line => exact h.echo both line
    | tsk target => exact absurd ready (noCall target)
    | var assigned value => exact ⟨rfl, h.setVar (h.note both _ _) assigned value⟩

end Lockstep

/-- Stages at the same point, in states that are related. -/
structure Stage.Related (R : Runner → Runner → Prop) (a b : Stage) : Prop where
  focus : b.focus = a.focus
  waiting : b.waiting = a.waiting
  runner : R a.runner b.runner

theorem Stage.Related.eq_of_runner {R : Runner → Runner → Prop} {a b : Stage} {s : Runner}
    (h : Stage.Related R a b) (same : b.runner = s) : b = { a with runner := s } := by
  obtain ⟨focus, waiting, r⟩ := b
  obtain ⟨rfl, rfl, -⟩ := h
  rw [← same]

namespace Lockstep

variable {spawn : Spawn} {Calm : Focus → Runner → Prop} {R : Runner → Runner → Prop}
  {r s : Runner} {a b : Stage} {waiting : List Frame}

theorem finish {done done' : Outcome × Runner} (same : SameUpTo R done done') :
    Stage.Related R (finish waiting done) (finish waiting done') :=
  ⟨congrArg Focus.ended same.told, rfl, same.left⟩

theorem leave (h : Lockstep spawn Calm R) (related : R r s) (name : String)
    (fault? : Option RunFault) :
    SameUpTo R (Runner.leave name (fault?, r)) (Runner.leave name (fault?, s)) := by
  cases fault? with
  | none => exact ⟨rfl, h.note (h.popTask related) _ _⟩
  | some fault => exact ⟨rfl, h.popTask related⟩

/-- A task is entered in both runs or in neither. -/
theorem advance_task (h : Lockstep spawn Calm R) (related : R r s) {name : String}
    (calm : Calm (.task name) r) :
    Stage.Related R (Runner.advance spawn ⟨.task name, waiting, r⟩)
      (Runner.advance spawn ⟨.task name, waiting, s⟩) := by
  have refusal := h.refusal? related calm
  cases refused : r.refusal? name with
  | some fault =>
    rw [refused] at refusal
    rw [advance_of_refusal refused, advance_of_refusal refusal]
    exact finish ⟨rfl, related⟩
  | none =>
    obtain ⟨⟨task, found⟩, -, -⟩ := refusal?_eq_none_iff.1 refused
    rw [refused] at refusal
    have found' : s.script.findTask? name = some task := by
      rw [h.findTask? related, found]
    rw [advance_of_found refused found, advance_of_found refusal found']
    exact ⟨rfl, rfl, h.note (h.pushTask related name) _ _⟩

/-- A command calls the same task in both runs, or none. -/
theorem advance_command (h : Lockstep spawn Calm R) (related : R r s) {owner : String}
    {command : Command} (calm : Calm (.command owner command) r) :
    Stage.Related R (Runner.advance spawn ⟨.command owner command, waiting, r⟩)
      (Runner.advance spawn ⟨.command owner command, waiting, s⟩) := by
  have action := h.action? related calm
  by_cases isCall : ∃ target, r.action? owner command = some (.tsk target)
  · obtain ⟨target, ready⟩ := isCall
    rw [ready] at action
    rw [advance_of_call ready, advance_of_call action]
    exact ⟨rfl, rfl, h.prepared related owner command (.tsk target)⟩
  · have noCall : ∀ target, r.action? owner command ≠ some (.tsk target) :=
      fun target ready => isCall ⟨target, ready⟩
    have noCall' : ∀ target, s.action? owner command ≠ some (.tsk target) := by
      rwa [action]
    rw [advance_of_noCall noCall, advance_of_noCall noCall', executeCommand, executeCommand,
      runCommand_of_noCall noCall _ noTask, runCommand_of_noCall noCall' _ noTask]
    exact finish (h.runCommand related calm noCall noTask)

/-- Whatever awaits the end of something goes on alike. -/
theorem advance_ended (h : Lockstep spawn Calm R) (related : R r s) (outcome : Outcome) :
    Stage.Related R (Runner.advance spawn ⟨.ended outcome, waiting, r⟩)
      (Runner.advance spawn ⟨.ended outcome, waiting, s⟩) := by
  have same : ∀ outcome, SameUpTo R ((outcome, r) : Outcome × Runner) (outcome, s) :=
    fun outcome => ⟨rfl, related⟩
  cases waiting with
  | nil => exact finish (same outcome)
  | cons frame waiting =>
    cases frame with
    | body owner rest =>
      cases outcome with
      | error fault => exact finish (h.leave related owner (some fault))
      | ok message => exact ⟨rfl, rfl, related⟩
    | call target =>
      unfold Runner.advance invokeTask
      cases outcome with
      | error fault => exact finish (same (.error fault))
      | ok message => exact finish (same (.ok _))

/-- Where things are calm, one step leads to the same point. -/
theorem advance (h : Lockstep spawn Calm R) (same : Stage.Related R a b)
    (calm : Calm a.focus a.runner) :
    Stage.Related R (Runner.advance spawn a) (Runner.advance spawn b) := by
  obtain ⟨focus, waiting, r⟩ := a
  obtain ⟨focus', waiting', s⟩ := b
  obtain ⟨rfl, rfl, related⟩ := same
  cases focus' with
  | task name => exact h.advance_task related calm
  | command owner command => exact h.advance_command related calm
  | body owner rest =>
    cases rest with
    | nil => exact finish (h.leave related owner none)
    | cons command rest => exact ⟨rfl, rfl, related⟩
  | ended outcome => exact h.advance_ended related outcome

/-- As long as things are calm, the runs are at the same point after as many steps. -/
theorem iterate (h : Lockstep spawn Calm R) (same : Stage.Related R a b) {n : Nat}
    (calm : ∀ m < n, Calm ((Runner.advance spawn)^[m] a).focus
      ((Runner.advance spawn)^[m] a).runner) :
    Stage.Related R ((Runner.advance spawn)^[n] a) ((Runner.advance spawn)^[n] b) := by
  induction n with
  | zero => exact same
  | succ n ih =>
    rw [Function.iterate_succ_apply', Function.iterate_succ_apply']
    exact h.advance (ih fun m less => calm m (Nat.lt_succ_of_lt less)) (calm n (Nat.lt_succ_self n))

/-- Where things are calm up to the end, the result is the same. -/
theorem result (h : Lockstep spawn Calm R) (same : Stage.Related R a b)
    (calm : ∀ n, Calm ((Runner.advance spawn)^[n] a).focus ((Runner.advance spawn)^[n] a).runner)
    {done done' : Outcome × Runner} (ends : Reaches spawn a (Runner.finish [] done))
    (ends' : Reaches spawn b (Runner.finish [] done')) : SameUpTo R done done' := by
  obtain ⟨n, stays⟩ := iterate_of_reaches ends
  obtain ⟨n', stays'⟩ := iterate_of_reaches ends'
  -- neither run goes further after both have ended
  have last := h.iterate same (n := n + n') fun m _ => calm m
  rw [stays _ (Nat.le_add_right n n'), stays' _ (Nat.le_add_left n' n)] at last
  exact ⟨Focus.ended.inj last.focus, last.runner⟩

end Lockstep

/-- Where things are not calm throughout, there is a first stage at which they are not. -/
theorem exists_first_stage {Calm : Focus → Runner → Prop} {stage : Nat → Stage}
    (unrest : ¬ ∀ n, Calm (stage n).focus (stage n).runner) :
    ∃ n, (∀ m < n, Calm (stage m).focus (stage m).runner) ∧
      ¬ Calm (stage n).focus (stage n).runner := by
  -- whether things are calm at a stage need not be decidable
  classical
  have some_ : ∃ n, ¬ Calm (stage n).focus (stage n).runner := not_forall.1 unrest
  exact ⟨Nat.find some_, fun m less => not_not.1 (Nat.find_min some_ less), Nat.find_spec some_⟩

/-! ## Operations -/

/-- A relation that also plays no part in what is seen between runs. -/
structure Indistinct (spawn : Spawn) (Calm : Focus → Runner → Prop)
    (R : Runner → Runner → Prop) : Prop extends Lockstep spawn Calm R where
  getVar : ∀ {r s}, R r s → ∀ name, s.runtime.get? name = r.runtime.get? name
  resolve : ∀ {r s}, R r s → ∀ task text, s.resolve task text = r.resolve task text
  setTaskArgs : ∀ {r s}, R r s → ∀ task args, R (r.setTaskArgs task args) (s.setTaskArgs task args)
  setNamedArgs : ∀ {r s}, R r s → ∀ args, R (r.setNamedArgs args) (s.setNamedArgs args)

/-- All stages of what an operation carries out are calm. -/
def CalmAt (spawn : Spawn) (Calm : Focus → Runner → Prop) (r : Runner) (op : Operation) : Prop :=
  ∀ focus, op.focus? = some focus → ∀ n,
    Calm (stageAt spawn focus r n).focus (stageAt spawn focus r n).runner

/-- All stages of what operations carry out, one after the other, are calm. -/
def CalmThrough (spawn : Spawn) (Calm : Focus → Runner → Prop) : List Operation → Runner → Prop
  | [], _ => True
  | op :: ops, r => CalmAt spawn Calm r op ∧ CalmThrough spawn Calm ops (r.operate spawn op).2

/-- Things are calm throughout if they are wherever a run comes to. -/
theorem calmThrough_of_forall {Calm : Focus → Runner → Prop} (calm : ∀ focus r, Calm focus r)
    (spawn : Spawn) (ops : List Operation) (r : Runner) : CalmThrough spawn Calm ops r := by
  induction ops generalizing r with
  | nil => exact trivial
  | cons op ops ih => exact ⟨fun _ _ _ => calm _ _, ih _⟩

namespace Indistinct

variable {spawn : Spawn} {Calm : Focus → Runner → Prop} {R : Runner → Runner → Prop}
  {r s : Runner} {op : Operation}

/-- Where things are calm, an operation gives the same answer. -/
theorem operate (h : Indistinct spawn Calm R) (related : R r s) (calm : CalmAt spawn Calm r op) :
    SameUpTo R (r.operate spawn op) (s.operate spawn op) := by
  have carriedOut : ∀ focus, op.focus? = some focus →
      SameUpTo R (r.operate spawn op) (s.operate spawn op) := by
    intro focus isFocus
    obtain ⟨outcome, t, answer, ends⟩ := reaches_operate spawn r isFocus
    obtain ⟨outcome', u, answer', ends'⟩ := reaches_operate spawn s isFocus
    have start : Stage.Related R (begin focus r) (begin focus s) := ⟨rfl, rfl, related⟩
    obtain ⟨told, left⟩ := h.result start (calm focus isFocus) ends ends'
    rw [answer, answer']
    exact ⟨congrArg Answer.outcome told, left⟩
  have current : s.currentTask? = r.currentTask? := by
    rw [currentTask?, currentTask?, h.stack related]
  -- what carries something out is a run, all else is one of the things that the relation keeps
  cases op with
  | setVar name value => exact ⟨rfl, h.setVar related name value⟩
  | setTaskArgs task args => exact ⟨rfl, h.setTaskArgs related task args⟩
  | setNamedArgs args => exact ⟨rfl, h.setNamedArgs related args⟩
  | pushTask task => exact ⟨rfl, h.pushTask related task⟩
  | popTask => exact ⟨congrArg Answer.value current, h.popTask related⟩
  | print level message => exact ⟨rfl, h.note related level message⟩
  | executeTask name => exact carriedOut _ rfl
  | executeCommand owner command => exact carriedOut _ rfl
  | getVar name => exact ⟨congrArg Answer.value (h.getVar related name), related⟩
  | resolve task text => exact ⟨congrArg Answer.text (h.resolve related task text), related⟩
  | currentTask => exact ⟨congrArg Answer.value current, related⟩
  | isRunning task =>
    have running : s.stack.contains task = r.stack.contains task := by
      rw [h.stack related]
    exact ⟨congrArg Answer.verdict running, related⟩

/-- Where things are calm throughout, operations give the same answers. -/
theorem operateAll (h : Indistinct spawn Calm R) (ops : List Operation) (related : R r s)
    (calm : CalmThrough spawn Calm ops r) :
    SameUpTo R (operateAll spawn ops r) (operateAll spawn ops s) := by
  induction ops generalizing r s with
  | nil => exact ⟨rfl, related⟩
  | cons op ops ih =>
    have first := h.operate related calm.1
    have rest := ih first.left calm.2
    rw [operateAll_cons, operateAll_cons, first.told, rest.told]
    exact ⟨rfl, rest.left⟩

end Indistinct

end Runner
end TaskScript
