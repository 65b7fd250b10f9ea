import TaskScript.Proofs.Script.Acceptance

/-!
# Bookkeeping — the stack and the set that all calls of the search share

`Script.search` hands the trail down and the ended names on.  Here all calls write to the same two
books instead: a call puts its name on a stack, and takes the innermost name off again when it ends.
Nothing in its form says that this is the same name, or that calls do not go down for ever.

- `Script.visit`       : one call, given how deep calls may be nested
- `Script.visitTasks`  : the calls for all tasks, each from an empty stack
- `Visit.Ends`, `Script.Tallies` : how a call ends, and what it then has in common with the search
- `Script.IsClear`     : names from which no circle can be reached
- `Script.bookkeeping` : every call ends as the search does, and leaves both books in order

A name refers to what the first task that has it invokes, as `Script.LeadsTo` says.
-/

namespace TaskScript

open Relation

/-! ## The books -/

/-- What all calls of a search read and write. -/
structure Ledger where
  /-- The names of the calls that have not ended, the innermost first. -/
  stack : List String
  /-- The names whose calls have ended. -/
  visited : List String
  deriving DecidableEq, Repr

namespace Ledger

/-- Put a name on the stack. -/
def push (ledger : Ledger) (name : String) : Ledger :=
  { ledger with stack := name :: ledger.stack }

/-- Take the innermost name off the stack, and note that the call of `name` has ended. -/
def close (ledger : Ledger) (name : String) : Ledger :=
  { stack := ledger.stack.tail, visited := name :: ledger.visited }

/-- Begin a new stack. -/
def restart (ledger : Ledger) : Ledger :=
  { ledger with stack := [] }

end Ledger

/-- Something done to the books.  A fault ends it and leaves them as they are.  It comes to nothing
if calls are nested deeper than they may be. -/
abbrev Visit := ExceptT ScriptFault (StateT Ledger Option)

namespace Script

/-- Visit a name and all that it refers to, with calls nested at most `depth` deep. -/
def visit (script : Script) : Nat → String → Visit Unit
  | 0, _ => liftM (none : Option Unit)
  | depth + 1, name => do
    let ledger ← get
    if name ∈ ledger.stack then
      set (ledger.push name)
      throw (.circular (ledger.push name).stack.reverse)
    else if name ∈ ledger.visited then
      return
    else
      match script.findTask? name with
      | none => throw (.undefinedTask name)
      | some task =>
        set (ledger.push name)
        task.literalTargets.forM fun target => script.visit depth target
        modify fun after => after.close name

/-- Visit all tasks in turn, each from an empty stack. -/
def visitTasks (script : Script) (depth : Nat) : Visit Unit :=
  script.taskNames.forM fun name => do
    modify Ledger.restart
    script.visit depth name

end Script

/-! ## One step of a call -/

section Steps

variable {script : Script} {ledger after : Ledger} {name : String} {task : Task} {depth : Nat}
  {fault : ScriptFault}

namespace Visit

theorem run_get (next : Ledger → Visit Unit) :
    (get >>= next).run.run ledger = (next ledger).run.run ledger := rfl

theorem run_set (next : Unit → Visit Unit) :
    (set after >>= next).run.run ledger = (next ()).run.run after := rfl

theorem run_bind_ok {first : Visit Unit} {next : Unit → Visit Unit}
    (h : first.run.run ledger = some (.ok (), after)) :
    (first >>= next).run.run ledger = (next ()).run.run after := by
  simp [ExceptT.run_bind, h]

/-- A fault skips what was to be done next, and the books stay as they were when it arose. -/
theorem run_bind_error {first : Visit Unit} {next : Unit → Visit Unit}
    (h : first.run.run ledger = some (.error fault, after)) :
    (first >>= next).run.run ledger = some (.error fault, after) := by
  simp [ExceptT.run_bind, h]

end Visit

namespace Script

theorem visit_of_mem_stack (mem : name ∈ ledger.stack) :
    (script.visit (depth + 1) name).run.run ledger =
      some (.error (.circular (ledger.stack.reverse ++ [name])), ledger.push name) := by
  rw [visit, Visit.run_get, if_pos mem, Visit.run_set, Ledger.push, List.reverse_cons]
  rfl

theorem visit_of_mem_visited (fresh : name ∉ ledger.stack) (mem : name ∈ ledger.visited) :
    (script.visit (depth + 1) name).run.run ledger = some (.ok (), ledger) := by
  rw [visit, Visit.run_get, if_neg fresh, if_pos mem]
  rfl

theorem visit_of_not_found (fresh : name ∉ ledger.stack) (new : name ∉ ledger.visited)
    (unknown : script.findTask? name = none) :
    (script.visit (depth + 1) name).run.run ledger =
      some (.error (.undefinedTask name), ledger) := by
  rw [visit, Visit.run_get, if_neg fresh, if_neg new, unknown]
  rfl

theorem visit_of_found (fresh : name ∉ ledger.stack) (new : name ∉ ledger.visited)
    (found : script.findTask? name = some task) :
    (script.visit (depth + 1) name).run.run ledger =
      (do
        task.literalTargets.forM fun target => script.visit depth target
        modify fun after => after.close name : Visit Unit).run.run (ledger.push name) := by
  rw [visit, Visit.run_get, if_neg fresh, if_neg new, found]
  rfl

end Script
end Steps

/-! ## How calls end -/

/-- Whenever calls may be nested deeper than a limit, a call ends in this way. -/
def Visit.Ends (call : Nat → Visit Unit) (limit : Nat) (before : Ledger)
    (result : Except ScriptFault Unit) (after : Ledger) : Prop :=
  ∀ depth, limit < depth → (call depth).run.run before = some (result, after)

theorem Visit.Ends.of_succ {call : Nat → Visit Unit} {limit : Nat} {before after : Ledger}
    {result : Except ScriptFault Unit}
    (h : ∀ depth, limit ≤ depth →
      (call (depth + 1)).run.run before = some (result, after)) :
    Visit.Ends call limit before result after := by
  intro depth enough
  cases depth with
  | zero => exact absurd enough (Nat.not_lt_zero _)
  | succ depth => exact h depth (Nat.le_of_lt_succ enough)

namespace Script

variable {script : Script}

/-- What an ending has in common with what the search gives from the same books.  A fault leaves
names on the stack, but those that were visited before it arose stay visited. -/
structure Tallies (script : Script) (searched : Except ScriptFault (List String))
    (before : Ledger) (result : Except ScriptFault Unit) (after : Ledger) : Prop where
  agrees : searched = result.map fun _ => after.visited
  restores : result = .ok () → after.stack = before.stack
  advances : script.Advances before.visited after.visited

/-- After a fault nothing is to be shown of the stack. -/
theorem Tallies.of_error {searched : Except ScriptFault (List String)} {fault : ScriptFault}
    {before after : Ledger} (agrees : searched = .error fault)
    (advances : script.Advances before.visited after.visited) :
    script.Tallies searched before (.error fault) after :=
  ⟨agrees, by simp, advances⟩

/-- What holds of each call holds of calls made in turn: each finds the stack of the first. -/
theorem forM_ends (call : String → Nat → Visit Unit) {limit : Nat} {stack : List String}
    (each : ∀ visited name, ∃ result after,
      Visit.Ends (call name) limit ⟨stack, visited⟩ result after ∧
        script.Tallies (script.search stack visited name) ⟨stack, visited⟩ result after)
    (names visited : List String) :
    ∃ result after,
      Visit.Ends (fun depth => names.forM fun name => call name depth) limit
        ⟨stack, visited⟩ result after ∧
      script.Tallies (script.searchAll stack visited names) ⟨stack, visited⟩ result after := by
  induction names generalizing visited with
  | nil => exact ⟨.ok (), ⟨stack, visited⟩, fun _ _ => rfl, rfl, fun _ => rfl, .refl _⟩
  | cons name names ih =>
    obtain ⟨result, ⟨left, between⟩, ends, tallies⟩ := each visited name
    cases result with
    | error fault =>
      -- the fault of the first call ends them all
      refine ⟨.error fault, ⟨left, between⟩, ?_, .of_error ?_ tallies.advances⟩
      · intro depth enough
        exact Visit.run_bind_error (ends depth enough)
      · rw [searchAll_cons, tallies.agrees]
        rfl
    | ok =>
      obtain rfl : left = stack := tallies.restores rfl
      obtain ⟨result, after, ends', tallies'⟩ := ih between
      refine ⟨result, after, ?_, ?_, tallies'.restores, tallies.advances.trans tallies'.advances⟩
      · intro depth enough
        exact (Visit.run_bind_ok (ends depth enough)).trans (ends' depth enough)
      · rw [searchAll_cons, tallies.agrees]
        exact tallies'.agrees

/-- A call ends if as many calls may be nested as there are declared names off the stack, and one
more, which finds its name on the stack or none of that name. -/
theorem visit_ends (script : Script) (stack visited : List String) (name : String) :
    ∃ result after,
      Visit.Ends (script.visit · name) (script.offTrail stack) ⟨stack, visited⟩ result after ∧
      script.Tallies (script.search stack visited name) ⟨stack, visited⟩ result after := by
  induction stack, visited, name using search.induct script with
  | case1 stack visited name mem =>
    refine ⟨.error (.circular (stack.reverse ++ [name])), ⟨name :: stack, visited⟩, ?_, ?_⟩
    · exact .of_succ fun _ _ => visit_of_mem_stack mem
    · exact .of_error (search_of_mem_trail mem) (.refl _)
  | case2 stack visited name fresh mem =>
    refine ⟨.ok (), ⟨stack, visited⟩, ?_, ?_⟩
    · exact .of_succ fun _ _ => visit_of_mem_visited fresh mem
    · exact ⟨search_of_mem_ended fresh mem, fun _ => rfl, .refl _⟩
  | case3 stack visited name fresh new unknown =>
    refine ⟨.error (.undefinedTask name), ⟨stack, visited⟩, ?_, ?_⟩
    · exact .of_succ fun _ _ => visit_of_not_found fresh new unknown
    · exact .of_error (search_of_not_found fresh new unknown) (.refl _)
  | case4 stack visited name fresh new task found ih =>
    -- one more declared name is on the stack of the calls below
    have deeper : script.offTrail (name :: stack) < script.offTrail stack :=
      offTrail_cons_lt (mem_taskNames_of_findTask? found) fresh
    obtain ⟨result, below, ends, tallies⟩ :=
      forM_ends (fun target depth => script.visit depth target) ih task.literalTargets visited
    cases result with
    | error fault =>
      refine ⟨.error fault, below, .of_succ ?_, .of_error ?_ tallies.advances⟩
      · intro depth enough
        rw [visit_of_found fresh new found]
        exact Visit.run_bind_error (ends depth (Nat.lt_of_lt_of_le deeper enough))
      · rw [search_of_found fresh new found, tallies.agrees]
        rfl
    | ok =>
      have searched : script.search stack visited name = .ok (name :: below.visited) := by
        rw [search_of_found fresh new found, tallies.agrees]
        rfl
      refine ⟨.ok (), below.close name, .of_succ ?_, searched, ?_, (search_ok searched).1⟩
      · intro depth enough
        rw [visit_of_found fresh new found]
        exact Visit.run_bind_ok (ends depth (Nat.lt_of_lt_of_le deeper enough))
      · -- what is taken off is the name that was put on, as the calls below have left the rest
        intro _
        calc (below.close name).stack
            = below.stack.tail := rfl
          _ = (name :: stack).tail := by rw [tallies.restores rfl]
          _ = stack := rfl

/-! ## The calls of the check -/

theorem offTrail_nil : script.offTrail [] = script.tasks.length := by
  simp [offTrail, taskNames]

theorem visitTasks_ends (script : Script) :
    ∃ result after,
      Visit.Ends script.visitTasks script.tasks.length ⟨[], []⟩ result after ∧
      script.Tallies (script.searchAll [] [] script.taskNames) ⟨[], []⟩ result after := by
  rw [← offTrail_nil]
  refine forM_ends (fun name depth => do
    modify Ledger.restart
    script.visit depth name) ?_ script.taskNames []
  -- the stack is empty already, since the calls before have restored it
  intro visited name
  exact visit_ends script [] visited name

theorem circleFault?_eq_some_iff {result : Except ScriptFault Unit} {before after : Ledger}
    (h : script.Tallies (script.searchAll [] [] script.taskNames) before result after)
    (fault : ScriptFault) : script.circleFault? = some fault ↔ result = .error fault := by
  rw [circleFault?_eq_faultOf, h.agrees]
  cases result <;> simp [Except.map, faultOf]

theorem circleFault?_ne_undefinedTask (within : script.RefersWithin) (missing : String) :
    script.circleFault? ≠ some (.undefinedTask missing) := by
  rw [circleFault?_eq within]
  intro undefined
  obtain ⟨path, -, same⟩ := Option.map_eq_some_iff.1 undefined
  exact nomatch same

/-! ## Both books in order -/

/-- Names that lead to each other only, and from which no circle can be reached. -/
structure IsClear (script : Script) (names : List String) : Prop where
  closed : ∀ caller ∈ names, ∀ callee, script.LeadsTo caller callee → callee ∈ names
  circleFree : ∀ name ∈ names, ∀ other, ReflTransGen script.LeadsTo name other →
    ¬ TransGen script.LeadsTo other other

theorem isClear_iff_isSettled {names : List String} :
    script.IsClear names ↔ script.IsSettled names := by
  constructor
  · intro clear
    exact ⟨clear.closed, fun name mem => clear.circleFree name mem name .refl⟩
  · intro settled
    refine ⟨settled.closed, ?_⟩
    intro name mem other path
    exact settled.acyclic other (settled.mem_of_reflTransGen mem path)

theorem isClear_nil : script.IsClear [] :=
  isClear_iff_isSettled.2 isSettled_nil

/-- Whatever the script and the books, a call ends, at the latest when all declared names are on the
stack.  If it ends well, the stack is as it was and the name has been visited.  No visited name is
forgotten, and if no circle could be reached from those that were visited before, none can be from
those that are now.  The check makes these calls only if all references are to declared tasks, and
then it never comes upon a name that is not. -/
theorem bookkeeping (script : Script) :
    (∀ name before, ∃ result after,
      Visit.Ends (script.visit · name) (script.offTrail before.stack) before result after ∧
      (result = .ok () → after.stack = before.stack ∧ name ∈ after.visited) ∧
      before.visited ⊆ after.visited ∧
      (script.IsClear before.visited → script.IsClear after.visited) ∧
      script.search before.stack before.visited name = result.map fun _ => after.visited) ∧
    ∃ result after,
      Visit.Ends script.visitTasks script.tasks.length ⟨[], []⟩ result after ∧
      (script.tasksFault? [] script.tasks = none →
        (∀ fault, script.fault? = some fault ↔ result = .error fault) ∧
        ∀ missing, result ≠ .error (.undefinedTask missing)) := by
  constructor
  · intro name before
    obtain ⟨result, after, ends, tallies⟩ :=
      visit_ends script before.stack before.visited name
    refine ⟨result, after, ends, ?_, tallies.advances.grows, ?_, tallies.agrees⟩
    · rintro rfl
      exact ⟨tallies.restores rfl, (search_ok tallies.agrees).2⟩
    · simp only [isClear_iff_isSettled]
      exact tallies.advances.settles
  · obtain ⟨result, after, ends, tallies⟩ := visitTasks_ends script
    refine ⟨result, after, ends, ?_⟩
    intro fine
    have formed : script.WellFormed := tasksFault?_eq_none_iff_wellFormed.1 fine
    have reported : ∀ fault, script.fault? = some fault ↔ result = .error fault := by
      intro fault
      rw [fault?, fine, Option.none_or]
      exact circleFault?_eq_some_iff tallies fault
    refine ⟨reported, ?_⟩
    intro missing undefined
    rw [← circleFault?_eq_some_iff tallies] at undefined
    exact circleFault?_ne_undefinedTask formed.refersWithin missing undefined

/-- Two ways to one task, and a task that invokes itself. -/
def crossing : Script :=
  ⟨[], [⟨"all", [⟨"tsk", ["build"], 2⟩, ⟨"tsk", ["test"], 3⟩], 1⟩,
    ⟨"build", [⟨"tsk", ["fetch"], 5⟩], 4⟩, ⟨"test", [⟨"tsk", ["fetch"], 7⟩], 6⟩,
    ⟨"fetch", [⟨"ech", ["done"], 9⟩], 8⟩, ⟨"loop", [⟨"tsk", ["loop"], 11⟩], 10⟩]⟩

/-- With another name on the stack, the first task is visited and so are those that it leads to; no
circle can be reached from them.  The check goes on to the last task and reports it. -/
theorem bookkeeping_of_crossing :
    (crossing.visit 6 "all").run.run ⟨["loop"], []⟩ =
        some (.ok (), ⟨["loop"], ["all", "test", "build", "fetch"]⟩) ∧
      crossing.IsClear ["all", "test", "build", "fetch"] ∧
      crossing.tasksFault? [] crossing.tasks = none ∧
      crossing.fault? = some (.circular ["loop", "loop"]) := by
  obtain ⟨visits, checks⟩ := bookkeeping crossing
  have run : (crossing.visit 6 "all").run.run ⟨["loop"], []⟩ =
      some (.ok (), ⟨["loop"], ["all", "test", "build", "fetch"]⟩) := by
    decide +kernel
  have fine : crossing.tasksFault? [] crossing.tasks = none := by
    decide +kernel
  have run' : (crossing.visitTasks 6).run.run ⟨[], []⟩ =
      some (.error (.circular ["loop", "loop"]),
        ⟨["loop", "loop"], ["all", "test", "build", "fetch"]⟩) := by
    decide +kernel
  refine ⟨run, ?_, fine, ?_⟩
  · obtain ⟨result, after, ends, -, -, clear, -⟩ := visits "all" ⟨["loop"], []⟩
    have same := (ends 6 (by decide +kernel)).symm.trans run
    obtain ⟨rfl, rfl⟩ := Prod.mk.inj (Option.some.inj same)
    exact clear isClear_nil
  · obtain ⟨result, after, ends, verdict⟩ := checks
    have same := (ends 6 (by decide +kernel)).symm.trans run'
    obtain ⟨rfl, rfl⟩ := Prod.mk.inj (Option.some.inj same)
    exact ((verdict fine).1 _).2 rfl

end Script
end TaskScript
