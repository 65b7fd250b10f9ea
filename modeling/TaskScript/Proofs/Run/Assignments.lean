import TaskScript.Proofs.Reference.Variable
import TaskScript.Proofs.Run.Moment
import TaskScript.Proofs.Run.Operation
import TaskScript.Proofs.Script.Declarations

/-!
# Assignments — which value a variable has

The journal tells which commands have been carried out, and so which assignments have been made.  No
other step changes a runtime variable: after all that has been asked of a run, a variable has the
value that was last assigned to it.

- `Stage.dispatch?`             : the command that a step carries out
- `Runner.recorded_advance`     : a step notes this command and makes its assignment
- `Runner.recorded_iterate`     : so do all steps of a run
- `Runner.assignments`          : the assignments made by operations, the latest first
- `Runner.get?_runtime`         : a variable has the value of the latest
- `Runner.last_assignment`      : so do references to it
-/

namespace TaskScript

/-- Make the assignments of a list, of which the first is the latest. -/
def Bindings.setAll {α : Type} (b : Bindings α) (assignments : List (String × α)) : Bindings α :=
  assignments.foldr (fun assignment b => b.set assignment.1 assignment.2) b

namespace Bindings

variable {α : Type}

theorem setAll_append (b : Bindings α) (later earlier : List (String × α)) :
    b.setAll (later ++ earlier) = (b.setAll earlier).setAll later :=
  List.foldr_append

/-- The latest assignment to a name counts. -/
theorem get?_setAll (b : Bindings α) (assignments : List (String × α)) (name : String) :
    (b.setAll assignments).get? name = (assignments.lookup name).or (b.get? name) := by
  induction assignments with
  | nil => rfl
  | cons latest earlier ih =>
    have first : b.setAll (latest :: earlier) = (b.setAll earlier).set latest.1 latest.2 := rfl
    rw [first, get?_set, ih, List.lookup_cons]
    by_cases same : name = latest.1
    · simp [same]
    · have differs : (name == latest.1) = false := by simpa using same
      simp [same, differs]

end Bindings

/-- What an action assigns to which name, if it is an assignment. -/
def Action.assignment? : Action → Option (String × String)
  | .var name value => some (name, value)
  | _ => none

/-- The assignments among commands that have been carried out. -/
def Dispatch.assignments (dispatches : List Dispatch) : List (String × String) :=
  dispatches.filterMap fun dispatch => dispatch.action.assignment?

theorem Dispatch.assignments_append (later earlier : List Dispatch) :
    assignments (later ++ earlier) = assignments later ++ assignments earlier :=
  List.filterMap_append

theorem Dispatch.assignments_singleton (dispatch : Dispatch) :
    assignments [dispatch] = dispatch.action.assignment?.toList := by
  unfold assignments
  cases assigned : dispatch.action.assignment? <;> simp [assigned]

namespace Runner

variable {spawn : Spawn} {r s : Runner} {owner : String} {command : Command} {a b : Stage}

/-! ## Steps -/

/-- The command that is carried out next, with what it does, if a command is next and is in order. -/
def Stage.dispatch? (a : Stage) : Option Dispatch :=
  match a.focus with
  | .command owner command => (a.runner.action? owner command).map fun action =>
      ⟨a.runner.stack, owner, command, action⟩
  | _ => none

/-- Some commands, the latest first, have been carried out between two states. -/
structure Recorded (dispatches : List Dispatch) (r s : Runner) : Prop where
  journal : s.journal = dispatches ++ r.journal
  runtime : s.runtime = r.runtime.setAll (Dispatch.assignments dispatches)

namespace Recorded

variable {t : Runner} {earlier later : List Dispatch}

theorem refl (r : Runner) : Recorded [] r r :=
  ⟨rfl, rfl⟩

theorem trans (h : Recorded earlier r s) (h' : Recorded later s t) :
    Recorded (later ++ earlier) r t := by
  constructor
  · rw [h'.journal, h.journal, List.append_assoc]
  · rw [h'.runtime, h.runtime, Dispatch.assignments_append, Bindings.setAll_append]

/-- What is done to other parts of the state does not matter. -/
theorem of_same (journal : s.journal = r.journal) (runtime : s.runtime = r.runtime) :
    Recorded [] r s :=
  ⟨journal, runtime⟩

end Recorded

/-- An action other than a call makes its own assignment, and does not touch the journal. -/
theorem perform_assigns (spawn : Spawn) (r : Runner) (invoke : Invoke) {action : Action}
    (noCall : action.kind ≠ .tsk) :
    (r.perform spawn invoke action).2.journal = r.journal ∧
      (r.perform spawn invoke action).2.runtime = r.runtime.setAll action.assignment?.toList := by
  by_cases assigns : action.kind = .var
  · obtain ⟨name, value, rfl⟩ := Action.eq_var_of_kind assigns
    exact ⟨rfl, rfl⟩
  · have none_ : action.assignment? = none := by
      cases action with
      | var name value => exact absurd rfl assigns
      | run child => rfl
      | del path => rfl
      | ech line => rfl
      | tsk target => rfl
    rw [none_]
    exact ⟨untouched_journal.perform r invoke noCall assigns,
      untouched_runtime.perform r invoke noCall assigns⟩

/-- A command is recorded with its action, if it is in order. -/
theorem recorded_runCommand (noCall : ∀ target, r.action? owner command ≠ some (.tsk target))
    (invoke : Invoke) :
    Recorded ((r.action? owner command).map fun action => ⟨r.stack, owner, command, action⟩).toList
      r (r.runCommand spawn invoke owner command).2 := by
  rcases r.action?_cases owner command with
    unknown | ⟨kind, known, missing⟩ | ⟨kind, action, known, ready⟩
  · rw [runCommand_of_unknown unknown, action?_of_unknown unknown]
    exact .refl r
  · rw [runCommand_of_missing known missing, action?_of_missing known missing]
    exact .refl r
  · have noted := Keeps.noteExtra r command kind
    have journal : ((r.noteExtra command kind).dispatch owner command action).journal =
        ⟨r.stack, owner, command, action⟩ :: r.journal := by
      rw [dispatch, noted.stack, untouched_journal.noteExtra]
    have runtime : ((r.noteExtra command kind).dispatch owner command action).runtime =
        r.runtime := untouched_runtime.noteExtra r command kind
    have noCall' : action.kind ≠ .tsk := by
      intro isCall
      obtain ⟨target, rfl⟩ := Action.eq_tsk_of_kind isCall
      exact noCall target ready
    -- the entry in the journal comes first, then what it says is done
    obtain ⟨journal', runtime'⟩ := perform_assigns spawn
      ((r.noteExtra command kind).dispatch owner command action) invoke noCall'
    rw [runCommand_of_action known ready, ready]
    constructor
    · rw [journal', journal]
      rfl
    · rw [runtime', runtime, Option.map_some, Option.toList_some, Dispatch.assignments_singleton]

/-- A step records the command that is carried out next, and nothing else. -/
theorem recorded_advance (spawn : Spawn) (a : Stage) :
    Recorded a.dispatch?.toList a.runner (advance spawn a).runner := by
  obtain ⟨focus, waiting, r⟩ := a
  -- only a command is recorded; entering and leaving tasks changes the stack and the console
  cases focus with
  | task name =>
    cases refused : r.refusal? name with
    | some fault =>
      rw [advance_of_refusal refused]
      exact .refl r
    | none =>
      obtain ⟨⟨task, found⟩, -, -⟩ := refusal?_eq_none_iff.1 refused
      rw [advance_of_found refused found]
      exact .of_same rfl rfl
  | command owner command =>
    by_cases isCall : ∃ target, r.action? owner command = some (.tsk target)
    · obtain ⟨target, ready⟩ := isCall
      have dispatched : Stage.dispatch? ⟨.command owner command, waiting, r⟩ =
          some ⟨r.stack, owner, command, .tsk target⟩ := by
        simp [Stage.dispatch?, ready]
      rw [advance_of_call ready, dispatched]
      exact ⟨journal_calling r owner command target, untouched_runtime.noteExtra r command .tsk⟩
    · have noCall : ∀ target, r.action? owner command ≠ some (.tsk target) :=
        fun target ready => isCall ⟨target, ready⟩
      rw [advance_of_noCall noCall]
      exact recorded_runCommand noCall _
  | body owner rest =>
    cases rest with
    | nil => exact .of_same rfl rfl
    | cons command rest => exact .refl r
  | ended outcome =>
    cases waiting with
    | nil => exact .refl r
    | cons frame waiting =>
      cases frame with
      | body owner rest =>
        cases outcome with
        | error fault => exact .of_same rfl rfl
        | ok message => exact .refl r
      | call target =>
        unfold advance invokeTask
        cases outcome with
        | error fault => exact .refl r
        | ok message => exact .refl r

/-- Whatever the number of steps, the commands that have been carried out are those of the stages. -/
theorem recorded_iterate (spawn : Spawn) (a : Stage) (n : Nat) :
    ∃ dispatches, Recorded dispatches a.runner ((advance spawn)^[n] a).runner ∧
      ∀ dispatch ∈ dispatches, ∃ m, ((advance spawn)^[m] a).dispatch? = some dispatch := by
  induction n with
  | zero => exact ⟨[], .refl _, nofun⟩
  | succ n ih =>
    obtain ⟨earlier, before, stages⟩ := ih
    rw [Function.iterate_succ_apply']
    refine ⟨_, before.trans (recorded_advance spawn _), fun dispatch mem => ?_⟩
    rcases List.mem_append.1 mem with latest | mem
    · exact ⟨n, Option.mem_toList.1 latest⟩
    · exact stages dispatch mem

/-! ## Operations -/

/-- The commands that have been carried out between two states, the latest first. -/
def since (r s : Runner) : List Dispatch :=
  s.journal.take (s.journal.length - r.journal.length)

theorem Recorded.since {dispatches : List Dispatch} (h : Recorded dispatches r s) :
    r.since s = dispatches := by
  rw [Runner.since, h.journal, List.length_append, Nat.add_sub_cancel, List.take_left]

/-- The assignments that an operation makes, the latest first. -/
def assignmentsOf (spawn : Spawn) (r : Runner) : Operation → List (String × String)
  | .setVar name value => [(name, value)]
  | op => Dispatch.assignments (r.since (r.operate spawn op).2)

/-- The assignments that operations make, the latest first. -/
def assignments (spawn : Spawn) : List Operation → Runner → List (String × String)
  | [], _ => []
  | op :: ops, r => assignments spawn ops (r.operate spawn op).2 ++ assignmentsOf spawn r op

/-- What an operation carries out is recorded. -/
theorem recorded_operate {op : Operation} {focus : Focus} (isFocus : op.focus? = some focus) :
    ∃ dispatches, Recorded dispatches r (r.operate spawn op).2 := by
  obtain ⟨outcome, s, answer, n, ends⟩ := reaches_operate spawn r isFocus
  obtain ⟨dispatches, recorded, -⟩ := recorded_iterate spawn (begin focus r) n
  rw [ends] at recorded
  rw [answer]
  exact ⟨dispatches, recorded⟩

/-- An operation makes its assignments, and no others. -/
theorem runtime_operate (spawn : Spawn) (r : Runner) (op : Operation) :
    (r.operate spawn op).2.runtime = r.runtime.setAll (assignmentsOf spawn r op) := by
  have recorded : ∀ op, assignmentsOf spawn r op = Dispatch.assignments
        (r.since (r.operate spawn op).2) →
      (∃ dispatches, Recorded dispatches r (r.operate spawn op).2) →
      (r.operate spawn op).2.runtime = r.runtime.setAll (assignmentsOf spawn r op) := by
    rintro op made ⟨dispatches, recorded⟩
    rw [made, recorded.since, recorded.runtime]
  cases op with
  | setVar name value => rfl
  | executeTask name => exact recorded _ rfl (recorded_operate rfl)
  | executeCommand owner command => exact recorded _ rfl (recorded_operate rfl)
  | _ => exact recorded _ rfl ⟨[], .of_same rfl rfl⟩

theorem runtime_operateAll (spawn : Spawn) (ops : List Operation) (r : Runner) :
    (operateAll spawn ops r).2.runtime = r.runtime.setAll (assignments spawn ops r) := by
  induction ops generalizing r with
  | nil => rfl
  | cons op ops ih =>
    rw [operateAll_cons, ih, runtime_operate, assignments, Bindings.setAll_append]

/-- A variable has the value of the latest assignment to it. -/
theorem get?_runtime (spawn : Spawn) (ops : List Operation) (r : Runner) (name : String) :
    (operateAll spawn ops r).2.runtime.get? name =
      ((assignments spawn ops r).lookup name).or (r.runtime.get? name) := by
  rw [runtime_operateAll, Bindings.get?_setAll]

/-- A command that assigns is carried out well, and assigns what its second argument is resolved to
in the state before it. -/
theorem advance_of_assignment {a : Stage} {name text : String} {extra : List String}
    (next : a.focus = .command owner command) (isVar : command.kind? = some .var)
    (args : command.args = name :: text :: extra) :
    a.dispatch? = some ⟨a.runner.stack, owner, command, .var name (a.runner.resolve owner text)⟩ ∧
      (advance spawn a).focus = .ended (.ok none) ∧
      (advance spawn a).runner.runtime =
        a.runner.runtime.set name (a.runner.resolve owner text) := by
  obtain ⟨focus, waiting, r⟩ := a
  obtain rfl : focus = .command owner command := next
  have ready : r.action? owner command = some (.var name (r.resolve owner text)) := by
    rw [action?, isVar, Option.bind_some, args]
    rfl
  have noCall : ∀ target, r.action? owner command ≠ some (.tsk target) := by
    simp [ready]
  have dispatched : Stage.dispatch? ⟨.command owner command, waiting, r⟩ =
      some ⟨r.stack, owner, command, .var name (r.resolve owner text)⟩ := by
    simp [Stage.dispatch?, ready]
  have recorded := recorded_advance spawn ⟨.command owner command, waiting, r⟩
  rw [dispatched] at recorded
  refine ⟨dispatched, ?_, recorded.runtime⟩
  rw [advance_of_noCall noCall, executeCommand, runCommand_of_action isVar ready]
  rfl

/-- After whatever has been asked of a run from its beginning on:
- a variable has the value that was last assigned to it, and a reference to it stands for this value,
  in which references to the environment are replaced;
- a variable that has never been assigned stands for the value of its last declaration, in which
  variables that have been assigned and then references to the environment are replaced;
- any other name stands for itself.
The assignments are those of the holder of the run and of the commands that the steps of the run
carry out: a step enters the command in the journal, and a command that assigns does so with the value
that its second argument is resolved to. -/
theorem last_assignment (spawn : Spawn) (script : Script) (settings : Settings) (console : Console)
    (store : Store) (ops : List Operation) {name : String} (isName : IsName name)
    (task : String) :
    let made := assignments spawn ops (start script settings console store)
    let r := (operateAll spawn ops (start script settings console store)).2
    (∀ value, made.lookup name = some value →
      r.runtime.get? name = some value ∧
      r.resolve task ("$" ++ name) = (Reference.environment settings.environment).onText value ∧
      (¬ Reference.environmentCall <:+: value.toList → r.resolve task ("$" ++ name) = value)) ∧
    (made.lookup name = none →
      (∀ before value after, script.declarations = before ++ ⟨name, value⟩ :: after →
        (∀ later ∈ after, later.name ≠ name) →
        r.resolve task ("$" ++ name) = (Reference.environment settings.environment).onText
          ((Reference.dollarNames r.runtime.get?).onText value)) ∧
      ((∀ declared ∈ script.declarations, declared.name ≠ name) →
        r.resolve task ("$" ++ name) = "$" ++ name)) ∧
    ∀ a : Stage,
      (advance spawn a).runner.journal = a.dispatch?.toList ++ a.runner.journal ∧
      ∀ owner command assigned text extra, a.focus = .command owner command →
        command.kind? = some .var → command.args = assigned :: text :: extra →
        a.dispatch? =
            some ⟨a.runner.stack, owner, command, .var assigned (a.runner.resolve owner text)⟩ ∧
          (advance spawn a).focus = .ended (.ok none) ∧
          (advance spawn a).runner.runtime =
            a.runner.runtime.set assigned (a.runner.resolve owner text) := by
  intro made r
  have frame := framed_operateAll spawn ops (start script settings console store)
  have value_ : (r.scope task).runtime.get? name = (made.lookup name).or none :=
    get?_runtime spawn ops (start script settings console store) name
  have environment : (r.scope task).environment = settings.environment :=
    congrArg Settings.environment frame.settings
  have declared : (r.scope task).declared = script.declared :=
    congrArg Script.declared frame.script
  refine ⟨?_, ?_, fun a => ⟨(recorded_advance spawn a).journal, ?_⟩⟩
  -- assigned: the declared pass steps aside, and the last pass alone sees the value
  · intro value isLast
    have assigned : (r.scope task).runtime.get? name = some value := by
      rw [value_, isLast]
      rfl
    have resolved := Reference.resolve_of_runtime isName assigned
    rw [environment] at resolved
    refine ⟨assigned, resolved, fun absent => resolved.trans ?_⟩
    exact Reference.onText_environment_of_not_infix absent
  -- never assigned: declared or not
  · intro never
    have unassigned : (r.scope task).runtime.get? name = none := by
      rw [value_, never]
      rfl
    constructor
    · intro before value after split last
      have isDeclared : (r.scope task).declared.get? name = some value := by
        rw [declared]
        exact Script.get?_declared_of_last split last
      have resolved := Reference.resolve_of_declared isName unassigned isDeclared
      rwa [environment] at resolved
    · intro undeclared
      have isUndeclared : (r.scope task).declared.get? name = none := by
        rw [declared]
        exact Script.get?_declared_eq_none_iff.2 undeclared
      exact Reference.resolve_of_unknown isName unassigned isUndeclared
  · intro owner command assigned text extra next isVar args
    exact advance_of_assignment next isVar args

/-- A script in which a task assigns a declared variable, in words of another. -/
def release : Script :=
  ⟨[⟨"MODE", "debug"⟩, ⟨"MODE", "test"⟩, ⟨"LABEL", "$MODE!"⟩],
    [⟨"build", [⟨"var", ["MODE", "?1"], 5⟩, ⟨"zap", ["x"], 6⟩], 4⟩]⟩

/-- What is asked of a run of this script: the task fails, but has made its assignment. -/
def releaseOperations : List Operation :=
  [.setVar "MODE" "fast", .setTaskArgs "build" ["release"], .executeTask "build"]

/-- The state that this leaves. -/
def released : Runner :=
  (operateAll noChild releaseOperations (fresh release)).2

/-- The assignment counts that the task has made, and the declared variable sees it. -/
theorem last_assignment_of_release :
    released.runtime.get? "MODE" = some "release" ∧
      released.resolve "build" "$MODE" = "release" ∧
      released.resolve "build" "$LABEL" = "release!" := by
  have isMode : IsName "MODE" := by decide
  have isLabel : IsName "LABEL" := by decide
  have mode := last_assignment noChild release plain (.capture .empty .empty false) (.empty [])
    releaseOperations isMode "build"
  have label := last_assignment noChild release plain (.capture .empty .empty false) (.empty [])
    releaseOperations isLabel "build"
  have made : (assignments noChild releaseOperations (fresh release)).lookup "MODE" = some "release" := by
    decide +kernel
  have never : (assignments noChild releaseOperations (fresh release)).lookup "LABEL" = none := by
    decide +kernel
  have byItself : ¬ Reference.environmentCall <:+: "release".toList := by
    decide +kernel
  have split : release.declarations =
      [⟨"MODE", "debug"⟩, ⟨"MODE", "test"⟩] ++ ⟨"LABEL", "$MODE!"⟩ :: [] := rfl
  have passes : (Reference.environment plain.environment).onText
      ((Reference.dollarNames released.runtime.get?).onText "$MODE!") = "release!" := by
    decide +kernel
  obtain ⟨value, -, reference⟩ := mode.1 "release" made
  have declared := (label.2.1 never).1 _ _ _ split nofun
  exact ⟨value, reference byItself, declared.trans passes⟩

end Runner
end TaskScript
