import TaskScript.Proofs.Run.Agreement
import TaskScript.Proofs.Run.Calls
import TaskScript.Proofs.Script.Leaves

/-!
# Expansion — a task against its leaves

A task shares its variables, the store and the sinks with the tasks that it calls, and ends with the
first failure anywhere below it.  So it does what its leaves do, carried out one after the other.

- `Runner.runLeaves`            : commands carried out in order, each on behalf of its own task
- `Runner.sameResult_executeTask` : a task and its leaves give the same from states that agree
- `Runner.expansion`            : in an accepted script with literal calls, that is all there is
- `Runner.not_expansion_of_crowded` : unless diagnostics fill the sink for errors
-/

namespace TaskScript
namespace Runner

open Relation Script

variable {spawn : Spawn} {r s t : Runner} {name owner target : String} {script : Script}
  {command : Command}

/-! ## Sequences -/

/-- What is done once something has been done, unless that failed. -/
def andThen (done : Option RunFault × Runner) (next : Runner → Option RunFault × Runner) :
    Option RunFault × Runner :=
  match done with
  | (some fault, r) => (some fault, r)
  | (none, r) => next r

/-- The fault of an outcome, if it is one. -/
def faultIn : Outcome → Option RunFault
  | .error fault => some fault
  | .ok _ => none

/-- Whether something failed, without what it reports otherwise. -/
def verdict (done : Outcome × Runner) : Option RunFault × Runner :=
  (faultIn done.1, done.2)

/-- Carry out commands in order until one fails, each with its task as the innermost one. -/
def runLeaves (spawn : Spawn) : List Leaf → Runner → Option RunFault × Runner
  | [], r => (none, r)
  | (owner, command) :: rest, r =>
    match (r.pushTask owner).executeCommand spawn owner command with
    | (.error fault, r) => (some fault, r.popTask)
    | (.ok _, r) => runLeaves spawn rest r.popTask

theorem runLeaves_cons (owner : String) (command : Command) (rest : List Leaf) (r : Runner) :
    runLeaves spawn ((owner, command) :: rest) r =
      andThen (runLeaves spawn [(owner, command)] r) (runLeaves spawn rest) := by
  unfold runLeaves
  split <;> rfl

theorem runLeaves_append (first second : List Leaf) (r : Runner) :
    runLeaves spawn (first ++ second) r =
      andThen (runLeaves spawn first r) (runLeaves spawn second) := by
  induction first generalizing r with
  | nil => rfl
  | cons leaf first ih =>
    obtain ⟨owner, command⟩ := leaf
    rw [List.cons_append, runLeaves_cons, runLeaves_cons owner command first]
    obtain ⟨result, s⟩ := runLeaves spawn [(owner, command)] r
    cases result with
    | some fault => rfl
    | none => exact ih s

theorem runLeaves_singleton (owner : String) (command : Command) (r : Runner) :
    runLeaves spawn [(owner, command)] r =
      (faultIn ((r.pushTask owner).executeCommand spawn owner command).1,
        ((r.pushTask owner).executeCommand spawn owner command).2.popTask) := by
  unfold runLeaves
  split
  · next found => rw [found]; rfl
  · next found => rw [found]; rfl

theorem runCommands_eq_andThen (command : Command) (rest : List Command) (r : Runner) :
    runCommands spawn (fun target s => s.executeTask spawn target) owner (command :: rest) r =
      andThen (verdict (r.executeCommand spawn owner command))
        (runCommands spawn (fun target s => s.executeTask spawn target) owner rest) := by
  cases done : r.executeCommand spawn owner command with
  | mk result s =>
    cases result with
    | error fault => rw [runCommands_error done]; rfl
    | ok message => rw [runCommands_ok done]; rfl

theorem SameResult.andThen {first second : Option RunFault × Runner}
    {next next' : Runner → Option RunFault × Runner} (h : SameResult first second)
    (rest : Agree first.2 second.2 → SameResult (next first.2) (next' second.2)) :
    SameResult (andThen first next) (andThen second next') := by
  obtain ⟨result, r⟩ := first
  obtain ⟨result', s⟩ := second
  obtain ⟨told, left⟩ := h
  obtain rfl : result' = result := told
  cases result' with
  | some fault => exact ⟨rfl, left⟩
  | none => exact rest left

/-! ## One task -/

/-- Leaving a task changes neither its fault nor what counts of the state. -/
theorem SameResult.leave {done other : Option RunFault × Runner} (h : SameResult done other)
    (name : String) : SameResult (verdict (leave name done)) other := by
  obtain ⟨result, r⟩ := done
  obtain ⟨told, left⟩ := h
  cases result with
  | some fault => exact ⟨told, (Agree.popTask left.ignores).symm.trans left⟩
  | none =>
    have popped : Agree r r.popTask := Agree.popTask left.ignores
    exact ⟨told, (popped.trans (Agree.note popped.symm.ignores _ _)).symm.trans left⟩

/-- Commands do what their replacements do if each of them does. -/
theorem sameResult_runCommands {below : String → List Leaf} {commands : List Command}
    (agree : Agree s t)
    (each : ∀ command ∈ commands, ∀ s' t', Keeps s s' → Agree s' t' →
      SameResult (verdict (s'.executeCommand spawn owner command))
        (runLeaves spawn (replaceCall below owner command) t')) :
    SameResult
      (runCommands spawn (fun target s => s.executeTask spawn target) owner commands s)
      (runLeaves spawn (commands.flatMap (replaceCall below owner)) t) := by
  induction commands generalizing s t with
  | nil => exact ⟨rfl, agree⟩
  | cons command rest ih =>
    rw [runCommands_eq_andThen, List.flatMap_cons, runLeaves_append]
    have first := each command List.mem_cons_self s t (Keeps.refl s) agree
    refine first.andThen fun agree' => ih agree' ?_
    intro command' mem s' t' kept
    exact each command' (List.mem_cons_of_mem _ mem) s' t'
      ((executeCommand_keeps spawn owner command s).trans kept)

/-- A command that is not a call does what it does as a leaf of its task. -/
theorem sameResult_leaf (agree : Agree s t) (top : s.currentTask? = some owner)
    (noCall : command.kind? ≠ some .tsk) :
    SameResult (verdict (s.executeCommand spawn owner command))
      (runLeaves spawn [(owner, command)] t) := by
  have alike : Alike s (t.pushTask owner) :=
    ⟨agree.trans (Agree.pushTask agree.symm.ignores owner), top.symm⟩
  have same : SameResult (s.executeCommand spawn owner command)
      ((t.pushTask owner).executeCommand spawn owner command) :=
    sameResult_runCommand alike noCall
  rw [runLeaves_singleton]
  exact ⟨congrArg faultIn same.told, same.left.trans (Agree.popTask same.left.symm.ignores)⟩

/-- A call does what the called task does. -/
theorem sameResult_call {flat : Option RunFault × Runner}
    (ready : s.action? owner command = some (.tsk target))
    (called :
      SameResult (verdict ((s.calling owner command target).executeTask spawn target)) flat) :
    SameResult (verdict (s.executeCommand spawn owner command)) flat := by
  have same : verdict (s.executeCommand spawn owner command) =
      verdict ((s.calling owner command target).executeTask spawn target) := by
    rw [executeCommand_of_call ready, invokeTask]
    split
    · next found => rw [found]; rfl
    · next found => rw [found]
  rwa [same]

theorem calling_agree (ignores : r.console.IgnoresDiagnostics) (owner : String)
    (command : Command) (target : String) : Agree r (r.calling owner command target) :=
  Agree.prepared ignores owner command .tsk (.tsk target)

/-- Without circles and with literal calls only, a task and its leaves give the same. -/
theorem sameResult_executeTask (formed : script.WellFormed) (literal : script.CallsLiterally)
    (acyclic : ∀ name, ¬ TransGen script.LeadsTo name name) (same : s.script = script)
    (deep : script.tasks.length ≤ s.settings.maxDepth) (trail : script.IsTrail s.stack target)
    (declared : target ∈ script.taskNames) (agree : Agree s t) :
    SameResult (verdict (s.executeTask spawn target))
      (runLeaves spawn (script.leaves target) t) := by
  induction h : s.room using Nat.strongRecOn generalizing s t target with
  | _ room ih =>
    -- a task that is running when it is called leads to itself
    have fresh : target ∉ s.stack := fun running => acyclic target (trail.transGen running)
    have free : s.refusal? target = none := by
      rw [← same] at trail declared deep
      rw [refusal?_of_trail trail declared deep, if_neg fresh]
    obtain ⟨task, found⟩ := exists_findTask? declared
    have found' : s.script.findTask? target = some task := by
      rwa [same]
    rw [executeTask_of_found free found', leaves_eq acyclic found]
    have entered : Agree (s.enter target) t := by
      have pushed := Agree.pushTask agree.ignores target
      exact (pushed.trans (Agree.note pushed.symm.ignores _ _)).symm.trans agree
    refine SameResult.leave (sameResult_runCommands entered ?_) target
    intro command memc u v kept agree'
    unfold replaceCall
    split
    · next callee named =>
      have names := Command.literalTarget?_eq_some_iff.1 named
      have leads : script.LeadsTo target callee :=
        (leadsTo_iff_of_found found).2 (Task.mem_literalTargets_iff.2 ⟨command, memc, names⟩)
      have called := kept.trans (calling_keeps u target command callee)
      -- the induction is on the room, which entering the task has used up
      have less : (u.calling target command callee).room < room := by
        rw [room_of_keeps called, ← h]
        exact room_enter_lt free
      refine sameResult_call (action?_of_names names) (ih _ less (called.script.trans same) ?_ ?_
        (formed.refersWithin target callee leads)
        ((calling_agree agree'.ignores target command callee).symm.trans agree') rfl)
      · rw [called.settings]
        exact deep
      · rw [called.stack]
        exact trail.cons fresh leads
    · next unnamed =>
      have noCall := formed.keyword_ne literal (mem_of_findTask? found) memc unnamed
      refine sameResult_leaf agree' ?_ fun isCall => noCall (Command.kind?_eq_some_iff.1 isCall)
      rw [currentTask?, kept.stack]
      rfl

/-- A task that does not fail says that it was completed. -/
theorem executeTask_ok {message : Option String}
    (done : (r.executeTask spawn name).1 = .ok message) : message = some (completed name) := by
  cases refused : r.refusal? name with
  | some fault =>
    rw [executeTask_of_refusal refused] at done
    exact nomatch done
  | none =>
    obtain ⟨⟨task, found⟩, -, -⟩ := refusal?_eq_none_iff.1 refused
    rw [executeTask_of_found refused found] at done
    unfold leave at done
    split at done
    · exact nomatch done
    · exact (Except.ok.inj done).symm

/-! ## Accepted scripts -/

/-- Inline expansion.  In an accepted script with literal calls only, each task has the leaves that
come from replacing its calls by the leaves of their targets.  If diagnostics do not stand in the way
of the errors of children that are passed on, the run of a task leaves the same variables, the same
store and the same output as its leaves do, carried out in order, and it fails with the first fault of
these or succeeds. -/
theorem expansion (spawn : Spawn) (r : Runner) (name : String)
    (accepted : r.script.fault? = none) (literal : r.script.CallsLiterally)
    (idle : r.stack = []) (deep : r.script.tasks.length ≤ r.settings.maxDepth)
    (declared : name ∈ r.script.taskNames) (ignores : r.console.IgnoresDiagnostics) :
    (∀ task ∈ r.script.tasks, r.script.leaves task.name =
      task.commands.flatMap (replaceCall r.script.leaves task.name)) ∧
    (∀ leaf ∈ r.script.leaves name, leaf.2.keyword ≠ "tsk") ∧
    (r.executeTask spawn name).2.runtime = (runLeaves spawn (r.script.leaves name) r).2.runtime ∧
    (r.executeTask spawn name).2.store = (runLeaves spawn (r.script.leaves name) r).2.store ∧
    (r.executeTask spawn name).2.console.out =
      (runLeaves spawn (r.script.leaves name) r).2.console.out ∧
    (r.executeTask spawn name).1 =
      match (runLeaves spawn (r.script.leaves name) r).1 with
      | some fault => .error fault
      | none => .ok (some ("Task " ++ quoted name ++ " completed successfully")) := by
  have formed := wellFormed_of_fault?_eq_none accepted
  have acyclic := formed.isAcyclic_iff.1 (isAcyclic_of_fault?_eq_none accepted)
  have trail : r.script.IsTrail r.stack name := by
    rw [idle]
    exact isTrail_nil name
  -- both begin in the same state, which agrees with itself
  have same : SameResult (verdict (r.executeTask spawn name))
      (runLeaves spawn (r.script.leaves name) r) :=
    sameResult_executeTask formed literal acyclic rfl deep trail declared (Agree.refl ignores)
  refine ⟨?_, ?_, same.left.runtime.symm, same.left.store.symm, same.left.console.out.symm, ?_⟩
  · intro task mem
    exact leaves_eq acyclic (findTask?_name formed.distinct mem)
  · intro leaf mem
    exact keyword_of_mem_leavesFrom formed literal mem
  · rw [same.told]
    cases done : (r.executeTask spawn name).1 with
    | error fault =>
      simp only [verdict, done, faultIn]
    | ok message =>
      simp only [verdict, done, faultIn]
      rw [executeTask_ok done]
      rfl

/-- A task that calls another one twice. -/
def greetings : Script :=
  ⟨[], [⟨"main", [⟨"var", ["who", "you"], 2⟩, ⟨"tsk", ["greet"], 3⟩, ⟨"tsk", ["greet"], 4⟩], 1⟩,
    ⟨"greet", [⟨"ech", ["hello $who"], 6⟩, ⟨"run", ["true"], 7⟩], 5⟩]⟩

/-- Children that do nothing, and do it successfully. -/
def idleChild : Spawn :=
  fun _ store => .ok ⟨.exited 0, .empty, .empty, store⟩

/-- The leaves of the task, one after the other, print what the task prints, and none fails. -/
theorem expansion_of_greetings :
    greetings.fault? = none ∧ greetings.CallsLiterally ∧
      ((fresh greetings).executeTask idleChild "main").2.console.out =
        (runLeaves idleChild
          [("main", ⟨"var", ["who", "you"], 2⟩),
            ("greet", ⟨"ech", ["hello $who"], 6⟩), ("greet", ⟨"run", ["true"], 7⟩),
            ("greet", ⟨"ech", ["hello $who"], 6⟩), ("greet", ⟨"run", ["true"], 7⟩)]
          (fresh greetings)).2.console.out ∧
      ((fresh greetings).executeTask idleChild "main").1 =
        .ok (some ("Task " ++ quoted "main" ++ " completed successfully")) := by
  have accepted : greetings.fault? = none := by decide +kernel
  have literal : greetings.CallsLiterally := by
    unfold Script.CallsLiterally greetings IsLiteral
    decide
  have leaves : greetings.leaves "main" =
      [("main", ⟨"var", ["who", "you"], 2⟩),
        ("greet", ⟨"ech", ["hello $who"], 6⟩), ("greet", ⟨"run", ["true"], 7⟩),
        ("greet", ⟨"ech", ["hello $who"], 6⟩), ("greet", ⟨"run", ["true"], 7⟩)] := by
    decide +kernel
  obtain ⟨-, -, -, -, out, result⟩ := expansion idleChild (fresh greetings) "main" accepted
    literal rfl (by decide) (by decide) fun _ _ _ _ _ => rfl
  have script : (fresh greetings).script = greetings := rfl
  rw [script, leaves] at out result
  exact ⟨accepted, literal, out, result⟩

/-- A task that calls another one, which starts a child process. -/
def relay : Script :=
  ⟨[], [⟨"main", [⟨"tsk", ["sub"], 2⟩], 1⟩, ⟨"sub", [⟨"run", ["make"], 4⟩], 3⟩]⟩

/-- A run of it that has not begun, with a sink for errors that has room for three pieces. -/
def crowded : Runner :=
  { fresh relay with console := .capture .empty (.limited 3) false }

/-- What is said when a task is entered may fill the sink.  Then the errors of the child process are
refused in the run of the task, but not where its one leaf is carried out by itself. -/
theorem not_expansion_of_crowded :
    relay.fault? = none ∧ relay.CallsLiterally ∧ crowded.stack = [] ∧
      relay.tasks.length ≤ crowded.settings.maxDepth ∧ "main" ∈ relay.taskNames ∧
      relay.leaves "main" = [("sub", ⟨"run", ["make"], 4⟩)] ∧
      (runLeaves noise (relay.leaves "main") crowded).1 = none ∧
      (crowded.executeTask noise "main").1 = .error (.internal "sub" (.outputLost .full)) := by
  have literal : relay.CallsLiterally := by
    unfold Script.CallsLiterally relay IsLiteral
    decide
  have leaves : relay.leaves "main" = [("sub", ⟨"run", ["make"], 4⟩)] := by decide +kernel
  refine ⟨by decide +kernel, literal, rfl, by decide, by decide, leaves, ?_, by decide +kernel⟩
  rw [leaves]
  decide +kernel

end Runner
end TaskScript
