import TaskScript.Proofs.Run.Output

/-!
# Depth — what a higher limit to nested calls changes

A task that is called when as many tasks are running as may is refused.  Up to the first such call
the limit plays no part in a run, and there the run with the lower limit ends.

- `Runner.Roomy`           : no task that is invoked next is refused for lack of room
- `Runner.lockstep_deeper` : as long as none is, the limit plays no part
- `Runner.ends_of_full`    : the first one that is ends the run with the lower limit
- `Runner.higher_limit`    : a higher limit changes nothing but this
-/

namespace TaskScript
namespace Runner

variable {spawn : Spawn} {r s : Runner} {name : String} {low high : Nat}

/-- The same state with another limit to the depth of calls. -/
def withMaxDepth (r : Runner) (maxDepth : Nat) : Runner :=
  { r with settings := { r.settings with maxDepth } }

/-- No task that is invoked next is refused because too many are running. -/
def Roomy (focus : Focus) (r : Runner) : Prop :=
  ∀ name limit, focus = .task name → r.refusal? name ≠ some (.tooDeep name limit)

/-- States that differ in the limit, which is `low` for the first and `high` for the second. -/
structure Deeper (low high : Nat) (r s : Runner) : Prop where
  state : s = r.withMaxDepth high
  limit : r.settings.maxDepth = low

namespace Deeper

theorem note (h : Deeper low high r s) (level : Level) (message : String) :
    Deeper low high (r.note level message) (s.note level message) := by
  rcases h with ⟨rfl, limit⟩
  exact ⟨rfl, limit⟩

/-- What has room under the lower limit has room under the higher one. -/
theorem refusal? (h : Deeper low high r s) (le : low ≤ high) (roomy : Roomy (.task name) r) :
    s.refusal? name = r.refusal? name := by
  rcases h with ⟨rfl, rfl⟩
  have room := roomy name r.settings.maxDepth rfl
  have script : (r.withMaxDepth high).script = r.script := rfl
  have stack : (r.withMaxDepth high).stack = r.stack := rfl
  have limit : (r.withMaxDepth high).settings.maxDepth = high := rfl
  unfold Runner.refusal? at room ⊢
  rw [script, stack, limit]
  cases found : r.script.findTask? name with
  | none => rfl
  | some task =>
    rw [found] at room
    dsimp only at room ⊢
    by_cases running : name ∈ r.stack
    · rw [if_pos running, if_pos running]
    · rw [if_neg running] at room ⊢
      rw [if_neg running]
      by_cases full : r.settings.maxDepth ≤ r.stack.length
      · rw [if_pos full] at room
        exact absurd rfl room
      · rw [if_neg full, if_neg fun more => full (Nat.le_trans le more)]

/-- What comes of a child process has nothing to do with the limit. -/
theorem receive (h : Deeper low high r s) (child : String) (reply : ChildReply) :
    SameUpTo (Deeper low high) (r.receive child reply) (s.receive child reply) := by
  rcases h with ⟨rfl, limit⟩
  apply sameUpTo_receive_of_console
  case note => exact note
  case left => exact fun _ => ⟨rfl, limit⟩
  all_goals rfl

end Deeper

/-- As long as there is room, the limit plays no part. -/
theorem lockstep_deeper (spawn : Spawn) (le : low ≤ high) :
    Lockstep spawn Roomy (Deeper low high) where
  findTask? h := by cases h.state; rfl
  interpreter h := by cases h.state; rfl
  workingDir h := by cases h.state; rfl
  stack h := by cases h.state; rfl
  store h := by cases h.state; rfl
  out h := by cases h.state; rfl
  captures h := by cases h.state; rfl
  refusal? h roomy := h.refusal? le roomy
  action? h _ := by cases h.state; rfl
  receive _ _ _ _ h := h.receive _ _
  note h := h.note
  dispatch := by
    rintro r s ⟨rfl, limit⟩ owner command action
    exact ⟨rfl, limit⟩
  setVar := by
    rintro r s ⟨rfl, limit⟩ name value
    exact ⟨rfl, limit⟩
  pushTask := by
    rintro r s ⟨rfl, limit⟩ name
    exact ⟨rfl, limit⟩
  popTask := by
    rintro r s ⟨rfl, limit⟩
    exact ⟨rfl, limit⟩
  setStore := by
    rintro r s ⟨rfl, limit⟩ store
    exact ⟨rfl, limit⟩
  setOut := by
    rintro r s ⟨rfl, limit⟩ out
    exact ⟨rfl, limit⟩

/-- States of two runs that look the same from outside. -/
structure LooksLike (r s : Runner) : Prop where
  console : r.console = s.console
  runtime : r.runtime = s.runtime
  store : r.store = s.store

/-- A run ends with the first task for which there is no room, and leaves the state that it has come
to but for the task stack. -/
theorem ends_of_full (spawn : Spawn) {a : Stage} (full : ¬ Roomy a.focus a.runner) :
    ∃ task limit stack, Reaches spawn a
      (finish [] (.error (.tooDeep task limit), { a.runner with stack })) := by
  rcases a with ⟨focus, waiting, r⟩
  simp only [Roomy, not_forall, not_not] at full
  rcases full with ⟨task, limit, rfl, refused⟩
  rcases reaches_of_error spawn (.tooDeep task limit) waiting r with ⟨stack, ends⟩
  refine ⟨task, limit, stack, .head ?_⟩
  rw [advance_of_refusal refused]
  exact ends

/-! ## Two limits -/

/-- There is room for each task that the run of a task invokes. -/
def RoomyThroughout (spawn : Spawn) (name : String) (r : Runner) : Prop :=
  ∀ n, Roomy (stageAt spawn (.task name) r n).focus (stageAt spawn (.task name) r n).runner

theorem related_begin (name : String) (r : Runner) (low high : Nat) :
    Stage.Related (Deeper low high) (begin (.task name) (r.withMaxDepth low))
      (begin (.task name) (r.withMaxDepth high)) :=
  ⟨rfl, rfl, rfl, rfl⟩

/-- With room for all tasks that are invoked, a higher limit changes nothing. -/
theorem executeTask_of_roomy (le : low ≤ high)
    (roomy : RoomyThroughout spawn name (r.withMaxDepth low)) :
    (r.withMaxDepth high).executeTask spawn name =
      (((r.withMaxDepth low).executeTask spawn name).1,
        ((r.withMaxDepth low).executeTask spawn name).2.withMaxDepth high) := by
  have same := (lockstep_deeper spawn le).result (related_begin name r low high) roomy
    (reaches_executeTask spawn name [] _) (reaches_executeTask spawn name [] _)
  exact Prod.ext same.told same.left.state

/-- Else the run with the lower limit ends at the first task for which there is none, and the other
run has come by the state that it leaves. -/
theorem executeTask_of_full (le : low ≤ high)
    (full : ¬ RoomyThroughout spawn name (r.withMaxDepth low)) :
    (∃ task limit,
      ((r.withMaxDepth low).executeTask spawn name).1 = .error (.tooDeep task limit)) ∧
      ∃ n, LooksLike ((r.withMaxDepth low).executeTask spawn name).2
        (stageAt spawn (.task name) (r.withMaxDepth high) n).runner := by
  rcases exists_first_stage full with ⟨n, before, first⟩
  rcases ends_of_full spawn first with ⟨task, limit, stack, fails⟩
  have ends := reaches_executeTask spawn name [] (r.withMaxDepth low)
  have left := finish_unique ends (Reaches.trans ⟨n, rfl⟩ fails)
  have related := (lockstep_deeper spawn le).iterate (related_begin name r low high) before
  have there : (stageAt spawn (.task name) (r.withMaxDepth high) n).runner =
      (stageAt spawn (.task name) (r.withMaxDepth low) n).runner.withMaxDepth high :=
    related.runner.state
  rw [left]
  refine ⟨⟨task, limit, rfl⟩, n, ?_⟩
  rw [there]
  exact ⟨rfl, rfl, rfl⟩

/-- Whatever the run with the lower limit ends with, the other run comes by the state that it
leaves. -/
theorem exists_looksLike (spawn : Spawn) (name : String) (r : Runner) (le : low ≤ high) :
    ∃ n, LooksLike ((r.withMaxDepth low).executeTask spawn name).2
      (stageAt spawn (.task name) (r.withMaxDepth high) n).runner := by
  by_cases roomy : RoomyThroughout spawn name (r.withMaxDepth low)
  · have ends := reaches_executeTask spawn name [] (r.withMaxDepth high)
    rcases iterate_of_reaches ends with ⟨n, stays⟩
    have last : stageAt spawn (.task name) (r.withMaxDepth high) n = finish [] _ :=
      stays n (Nat.le_refl n)
    refine ⟨n, ?_⟩
    rw [last, executeTask_of_roomy le roomy]
    exact ⟨rfl, rfl, rfl⟩
  · exact (executeTask_of_full le roomy).2

/-- A higher limit to the depth of calls only takes away failures because of it.

A run that does not fail because too many tasks are running has the same result with a higher limit,
and leaves the same state.  In any case it leaves the console, the variables and the store that the
run with the higher limit has at some stage, so that what it has written is a prefix of what the
other run has. -/
theorem higher_limit (spawn : Spawn) (name : String) (r : Runner) (le : low ≤ high) :
    let lower := (r.withMaxDepth low).executeTask spawn name
    let higher := (r.withMaxDepth high).executeTask spawn name
    ((∀ task limit, lower.1 ≠ .error (.tooDeep task limit)) →
      higher = (lower.1, lower.2.withMaxDepth high)) ∧
    lower.2.console.out.log <+: higher.2.console.out.log ∧
    lower.2.console.err.log <+: higher.2.console.err.log ∧
    ∃ n, LooksLike lower.2 (stageAt spawn (.task name) (r.withMaxDepth high) n).runner := by
  intro lower higher
  rcases exists_looksLike spawn name r le with ⟨n, looks⟩
  have onward := extends_of_stageAt (reaches_executeTask spawn name [] (r.withMaxDepth high)) n
  rw [Extends, ← looks.console] at onward
  refine ⟨fun other => ?_, onward.out, onward.err, n, looks⟩
  by_cases roomy : RoomyThroughout spawn name (r.withMaxDepth low)
  · exact executeTask_of_roomy le roomy
  · rcases executeTask_of_full le roomy with ⟨⟨task, limit, fails⟩, -⟩
    exact absurd fails (other task limit)

/-- Three tasks that print a line each, of which one calls the next. -/
def stairs : Runner :=
  fresh ⟨[], [⟨"top", [⟨"ech", ["top"], 2⟩, ⟨"tsk", ["landing"], 3⟩], 1⟩,
    ⟨"landing", [⟨"ech", ["landing"], 5⟩, ⟨"tsk", ["ground"], 6⟩], 4⟩,
    ⟨"ground", [⟨"ech", ["ground"], 8⟩], 7⟩]⟩

/-- Two tasks deep is not enough, and the two lines that have been printed are the first of three;
three deep is enough, and four deep makes no difference. -/
theorem higher_limit_of_stairs :
    ((stairs.withMaxDepth 2).executeTask noChild "top").1 = .error (.tooDeep "ground" 2) ∧
      ((stairs.withMaxDepth 2).executeTask noChild "top").2.console.out.log <+:
        ((stairs.withMaxDepth 3).executeTask noChild "top").2.console.out.log ∧
      (stairs.withMaxDepth 4).executeTask noChild "top" =
        (((stairs.withMaxDepth 3).executeTask noChild "top").1,
          ((stairs.withMaxDepth 3).executeTask noChild "top").2.withMaxDepth 4) := by
  have short : ((stairs.withMaxDepth 2).executeTask noChild "top").1 =
      .error (.tooDeep "ground" 2) := by
    decide +kernel
  have enough : ((stairs.withMaxDepth 3).executeTask noChild "top").1 =
      .ok (some (completed "top")) := by
    decide +kernel
  have before := higher_limit noChild "top" stairs (show 2 ≤ 3 by decide)
  have after := higher_limit noChild "top" stairs (show 3 ≤ 4 by decide)
  refine ⟨short, before.2.1, after.1 fun task limit => ?_⟩
  rw [enough]
  exact nofun

end Runner
end TaskScript
