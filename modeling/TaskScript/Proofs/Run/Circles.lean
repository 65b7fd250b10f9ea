import TaskScript.Proofs.Run.Calls

/-!
# Circles — the check for circles and the guard of runs

A run refuses to enter a task that is running.  If all calls are literal and nothing else fails, it
goes down along every reference until it meets such a task, as the plain descent of
`Script.firstCircle?` does.  The check of scripts leaves out what it has seen, but that changes
nothing.

- `Runner.Unhindered`                  : nothing but a circle can make the run fail
- `Runner.executeTask_eq_firstCircle?` : then the run does what the plain descent does
- `Runner.circle_iff_first_failure`    : the check and the first run that fails report the same path
-/

namespace TaskScript
namespace Runner

variable {spawn : Spawn} {r s : Runner} {name owner target : String} {calls : List Dispatch}
  {script : Script}

/-- Every command that is not a call succeeds when the run of a task comes to it. -/
def EffectsSucceed (spawn : Spawn) (r : Runner) (name : String) : Prop :=
  ∀ calls owner command rest s, Moment spawn r name calls owner (command :: rest) s →
    command.keyword ≠ "tsk" → ∃ message t, s.executeCommand spawn owner command = (.ok message, t)

/-- What a task reports if the circle is all that it can meet. -/
def reportOf (name : String) : Option (List String) → Outcome
  | some path => .error (.cyclic path)
  | none => .ok (some (completed name))

theorem leave_reportOf {circle : Option (List String)} {done : Option RunFault × Runner}
    (h : done.1 = circle.map .cyclic) : (leave name done).1 = reportOf name circle := by
  obtain ⟨result, t⟩ := done
  obtain rfl : result = circle.map .cyclic := h
  cases circle <;> rfl

/-- A call succeeds exactly if the called task does. -/
theorem invokeTask_ok {invoke : Invoke} {message : Option String}
    (done : (invoke target r).1 = .ok message) :
    ∃ reply t, r.invokeTask invoke target = (.ok reply, t) := by
  unfold invokeTask
  split
  · exact ⟨_, _, rfl⟩
  · next failed =>
    rw [failed] at done
    exact nomatch done

/-! ## One run -/

/-- Commands do what the plain descent does if the tasks that they call do. -/
theorem runCommands_eq_firstCircle? {commands : List Command}
    (h : Moment spawn r name calls owner commands s) (formed : r.script.WellFormed)
    (literal : r.script.CallsLiterally) (effects : EffectsSucceed spawn r name)
    (below : ∀ command rest t target, Moment spawn r name calls owner (command :: rest) t →
      Keeps s t → t.action? owner command = some (.tsk target) →
      r.script.LeadsTo owner target →
      ((t.calling owner command target).executeTask spawn target).1 =
        reportOf target (r.script.firstCircle? s.stack target)) :
    (runCommands spawn (fun target s => s.executeTask spawn target) owner commands s).1 =
      ((commands.filterMap Command.literalTarget?).findSome?
        (r.script.firstCircle? s.stack)).map .cyclic := by
  induction commands generalizing s with
  | nil => rfl
  | cons command rest ih =>
    -- what is left goes on from a state with the same stack
    have onward : ∀ {message t}, s.executeCommand spawn owner command = (.ok message, t) →
        (runCommands spawn (fun target s => s.executeTask spawn target) owner (command :: rest)
          s).1 = ((rest.filterMap Command.literalTarget?).findSome?
            (r.script.firstCircle? s.stack)).map .cyclic := by
      intro message t done
      have step := keeps_of_executeCommand done
      rw [runCommands_ok done, ← step.stack]
      refine ih (h.next done) fun command rest u target moment kept ready leads => ?_
      rw [step.stack]
      exact below command rest u target moment (step.trans kept) ready leads
    cases named : command.literalTarget? with
    | none =>
      obtain ⟨task, mem, -, memc⟩ := h.command_mem
      have noCall := formed.keyword_ne literal mem memc named
      obtain ⟨message, t, done⟩ := effects calls owner command rest s h noCall
      rw [List.filterMap_cons_none named]
      exact onward done
    | some target =>
      have names := Command.literalTarget?_eq_some_iff.1 named
      have ready : s.action? owner command = some (.tsk target) := action?_of_names names
      have inner := below command rest s target h (Keeps.refl s) ready (h.leadsTo names)
      rw [List.filterMap_cons_some named, List.findSome?_cons]
      cases circle : r.script.firstCircle? s.stack target with
      | some path =>
        rw [circle] at inner
        have fails : (s.executeCommand spawn owner command).1 = .error (.cyclic path) := by
          rw [executeCommand_of_call ready, invokeTask_error_iff]
          exact inner
        rw [runCommands_error (t := (s.executeCommand spawn owner command).2) (Prod.ext fails rfl)]
        rfl
      | none =>
        rw [circle] at inner
        obtain ⟨reply, t, done⟩ := invokeTask_ok inner
        exact onward ((executeCommand_of_call ready).trans done)

/-- A task that a run comes to, or begins with, does what the plain descent does. -/
theorem executeTask_eq_firstCircle? {t : Runner} (formed : r.script.WellFormed)
    (literal : r.script.CallsLiterally) (effects : EffectsSucceed spawn r name)
    (deep : r.script.tasks.length ≤ r.settings.maxDepth) (same : t.script = r.script)
    (limit : t.settings = r.settings) (trail : r.script.IsTrail t.stack target)
    (declared : target ∈ r.script.taskNames)
    (approach : Approaches spawn r name calls target t) :
    (t.executeTask spawn target).1 = reportOf target (r.script.firstCircle? t.stack target) := by
  induction h : t.room using Nat.strongRecOn generalizing t target calls with
  | _ room ih =>
    have entry : t.refusal? target =
        if target ∈ t.stack then some (.cyclic (t.stack.reverse ++ [target])) else none := by
      refine refusal?_of_trail ?_ ?_ ?_
      · rwa [same]
      · rwa [same]
      · rwa [same, limit]
    -- the guard and the descent stop at the same names
    by_cases running : target ∈ t.stack
    · rw [if_pos running] at entry
      rw [executeTask_of_refusal entry, Script.firstCircle?_of_mem_trail running]
      rfl
    · rw [if_neg running] at entry
      obtain ⟨task, found⟩ := Script.exists_findTask? declared
      have found' : t.script.findTask? target = some task := by
        rwa [same]
      have start := approach task entry found'
      rw [executeTask_of_found entry found', Script.firstCircle?_of_found running found]
      refine leave_reportOf ?_
      refine runCommands_eq_firstCircle? start formed literal effects ?_
      intro command rest u callee moment kept ready leads
      have called := kept.trans (calling_keeps u target command callee)
      have stack : (u.calling target command callee).stack = target :: t.stack := called.stack
      have less : (u.calling target command callee).room < room := by
        rw [room_of_keeps called, ← h]
        exact room_enter_lt entry
      have onward : r.script.IsTrail (u.calling target command callee).stack callee := by
        rw [stack]
        exact trail.cons running leads
      rw [enter_stack, ← stack]
      exact ih _ less (called.script.trans same) (called.settings.trans limit) onward
        (formed.refersWithin target callee leads) (moment.approaches ready) rfl

/-- Prints and assignments succeed as long as the output takes everything. -/
theorem effectsSucceed_of_prints (sink : r.console.out.Takes)
    (prints : ∀ task ∈ r.script.tasks, ∀ command ∈ task.commands,
      command.Fits ∧ command.keyword ∈ ["ech", "var", "tsk"]) : EffectsSucceed spawn r name := by
  intro calls owner command rest s h noCall
  obtain ⟨task, mem, -, memc⟩ := h.command_mem
  obtain ⟨fits, which⟩ := prints task mem command memc
  obtain ⟨kind, action, known, ready⟩ := exists_action_of_fits fits s owner
  have kept := Keeps.prepared s owner command kind action
  have answer := (h.keeps.trans kept).console.out
  have written := Command.kind?_eq_some_iff.1 (kind?_of_action? ready)
  rw [executeCommand, runCommand_of_action known ready]
  rw [written] at which noCall
  cases action with
  | run child => simp [Action.kind, Keyword.text] at which
  | del path => simp [Action.kind, Keyword.text] at which
  | tsk target => exact absurd rfl noCall
  | ech line =>
    refine ⟨none, _, Prod.ext (echo_of_taken ?_) rfl⟩
    rw [answer]
    exact sink _ _
  | var assigned value => exact ⟨_, _, rfl⟩

/-! ## The runs of all tasks -/

/-- A state from which nothing but a circle can make the run of a task fail: no task is running,
there is room for all of them, and every command that is not a call succeeds. -/
structure Unhindered (spawn : Spawn) (script : Script) (name : String) (r : Runner) : Prop where
  script_eq : r.script = script
  idle : r.stack = []
  deep : script.tasks.length ≤ r.settings.maxDepth
  effects : EffectsSucceed spawn r name

theorem Unhindered.executeTask (h : Unhindered spawn script name r) (formed : script.WellFormed)
    (literal : script.CallsLiterally) (declared : name ∈ script.taskNames) :
    (r.executeTask spawn name).1 = reportOf name (script.firstCircle? [] name) := by
  obtain ⟨rfl, idle, deep, effects⟩ := h
  rw [← idle]
  refine executeTask_eq_firstCircle? formed literal effects deep rfl rfl ?_ declared
    approaches_start
  rw [idle]
  exact Script.isTrail_nil name

theorem reportOf_eq_error_iff {circle : Option (List String)} {fault : RunFault} :
    reportOf name circle = .error fault ↔ ∃ path, circle = some path ∧ fault = .cyclic path := by
  cases circle <;> simp [reportOf, eq_comm]

theorem reportOf_eq_ok_iff {circle : Option (List String)} :
    (∃ message, reportOf name circle = .ok message) ↔ circle = none := by
  cases circle <;> simp [reportOf]

/-- The check reports the circle that the first failing run reports, as a list of names. -/
theorem fault?_eq_circular_iff (formed : script.WellFormed) (literal : script.CallsLiterally)
    {start : String → Runner}
    (unhindered : ∀ name ∈ script.taskNames, Unhindered spawn script name (start name))
    {path : List String} :
    script.fault? = some (.circular path) ↔
      ∃ before name after, script.taskNames = before ++ name :: after ∧
        (∀ earlier ∈ before, ∃ message,
          ((start earlier).executeTask spawn earlier).1 = .ok message) ∧
        ((start name).executeTask spawn name).1 = .error (.cyclic path) := by
  have report : ∀ name ∈ script.taskNames, ((start name).executeTask spawn name).1 =
      reportOf name (script.firstCircle? [] name) := by
    intro name mem
    exact (unhindered name mem).executeTask formed literal mem
  have first : script.fault? = some (.circular path) ↔
      script.taskNames.findSome? (script.firstCircle? []) = some path := by
    rw [formed.fault?_eq, Option.map_eq_some_iff]
    simp
  rw [first, List.findSome?_eq_some_iff]
  refine exists_congr fun before => exists_congr fun name => exists_congr fun after => ?_
  refine and_congr_right fun split => ?_
  have member : name ∈ script.taskNames := by
    simp [split]
  have members : ∀ earlier ∈ before, earlier ∈ script.taskNames := by
    intro earlier mem
    simp [split, mem]
  rw [report name member, reportOf_eq_error_iff, and_comm]
  refine and_congr ?_ ?_
  · refine forall_congr' fun earlier => forall_congr' fun mem => ?_
    rw [report earlier (members earlier mem), reportOf_eq_ok_iff]
  · simp

/-- The check of scripts and the guard of runs agree: a circle is reported if and only if some task
fails, and for the first such task, with the same path in its message. -/
theorem circle_iff_first_failure (formed : script.WellFormed) (literal : script.CallsLiterally)
    (start : String → Runner)
    (unhindered : ∀ name ∈ script.taskNames, Unhindered spawn script name (start name))
    (text : String) :
    (∃ path, script.fault? = some (.circular path) ∧ arrowPath path = text) ↔
      ∃ before name after fault, script.taskNames = before ++ name :: after ∧
        (∀ earlier ∈ before, ∃ message,
          ((start earlier).executeTask spawn earlier).1 = .ok message) ∧
        ((start name).executeTask spawn name).1 = .error fault ∧
          fault.message = "Cyclic task invocation: " ++ text := by
  constructor
  · rintro ⟨path, reported, rfl⟩
    obtain ⟨before, name, after, split, fine, fails⟩ :=
      (fault?_eq_circular_iff formed literal unhindered).1 reported
    exact ⟨before, name, after, .cyclic path, split, fine, fails, rfl⟩
  · rintro ⟨before, name, after, fault, split, fine, fails, words⟩
    have member : name ∈ script.taskNames := by
      simp [split]
    have report := (unhindered name member).executeTask formed literal member
    obtain ⟨path, -, rfl⟩ := reportOf_eq_error_iff.1 (report.symm.trans fails)
    refine ⟨path, (fault?_eq_circular_iff formed literal unhindered).2 ?_, ?_⟩
    · exact ⟨before, name, after, split, fine, fails⟩
    · exact (String.append_right_inj _).1 words

/-- Two tasks that call each other. -/
def rounds : Script :=
  ⟨[], [⟨"main", [⟨"ech", ["out"], 2⟩, ⟨"tsk", ["sub"], 3⟩], 1⟩,
    ⟨"sub", [⟨"var", ["x", "1"], 5⟩, ⟨"tsk", ["main"], 6⟩], 4⟩]⟩

/-- The first task of the two fails with the circle that the check reports. -/
theorem first_failure_of_rounds :
    rounds.WellFormed ∧ rounds.CallsLiterally ∧
      (∀ name ∈ rounds.taskNames,
        Unhindered noChild rounds name (fresh rounds)) ∧
      ∃ before name after fault, rounds.taskNames = before ++ name :: after ∧
        (∀ earlier ∈ before, ∃ message,
          ((fresh rounds).executeTask noChild earlier).1 = .ok message) ∧
        ((fresh rounds).executeTask noChild name).1 = .error fault ∧
          fault.message = "Cyclic task invocation: " ++ "main -> sub -> main" := by
  have reported : rounds.fault? = some (.circular ["main", "sub", "main"]) := by
    decide +kernel
  have formed := Script.wellFormed_of_fault?_eq_circular reported
  have literal : rounds.CallsLiterally := by
    unfold Script.CallsLiterally rounds IsLiteral
    decide
  have prints : ∀ task ∈ rounds.tasks, ∀ command ∈ task.commands,
      command.keyword ∈ ["ech", "var", "tsk"] := by
    unfold rounds
    decide
  have unhindered : ∀ name ∈ rounds.taskNames,
      Unhindered noChild rounds name (fresh rounds) := by
    intro name declared
    refine ⟨rfl, rfl, by decide, effectsSucceed_of_prints (fun _ _ => rfl) ?_⟩
    intro task mem command memc
    exact ⟨formed.fits task mem command memc, prints task mem command memc⟩
  refine ⟨formed, literal, unhindered, ?_⟩
  exact (circle_iff_first_failure formed literal (fun _ => fresh rounds) unhindered _).1
    ⟨_, reported, rfl⟩

end Runner
end TaskScript
