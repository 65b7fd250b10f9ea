import Mathlib
import TaskScript.Proofs.Run.Lockstep
import TaskScript.Proofs.Run.Nesting

/-!
# Scoping — positional arguments belong to one task

The arguments that are registered for a task are looked up only for its own commands.  A run that
never enters the task therefore goes the same way whatever they are.  Named arguments and variables
are shared by all tasks, but what they hold has been resolved for tasks that were entered.

- `Runner.Enters`               : a task is entered on the way
- `Runner.Rescoped`             : states that differ in the arguments of one task
- `Runner.lockstep_rescoped`    : the difference plays no part outside of the task
- `Runner.scoped_arguments`     : runs that do not enter the task are the same
-/

namespace TaskScript
namespace Runner

variable {spawn : Spawn} {r s : Runner} {name task owner : String} {command : Command}
  {positional : Bindings (List String)}

/-! ## Tasks on the way -/

/-- The run of the task `name` enters a task: at some stage it has been entered and not been left. -/
def Enters (spawn : Spawn) (r : Runner) (name task : String) : Prop :=
  ∃ n, task ∈ owners (stageAt spawn (.task name) r n).frames

/-- A command is carried out on behalf of a task that has been entered. -/
theorem enters_of_command {n : Nat}
    (next : (stageAt spawn (.task name) r n).focus = .command owner command) :
    Enters spawn r name owner := by
  cases n with
  | zero =>
    -- a run of a task does not begin with a command
    cases next
  | succ n =>
    have step : stageAt spawn (.task name) r (n + 1) =
        advance spawn (stageAt spawn (.task name) r n) :=
      Function.iterate_succ_apply' _ _ _
    rw [step] at next
    rcases focus_eq_body_of_advance next with ⟨rest, goesOn, -⟩
    refine ⟨n, ?_⟩
    -- before the command, its task goes on with it
    have frames : (stageAt spawn (.task name) r n).frames =
        .body owner (command :: rest) :: (stageAt spawn (.task name) r n).waiting := by
      simp only [Stage.frames, goesOn]
    rw [frames]
    exact List.mem_cons_self

/-- A run that has ended enters no other task. -/
theorem not_enters_of_ended {n : Nat} {done : Outcome × Runner}
    (ends : stageAt spawn (.task name) r n = finish [] done)
    (before : ∀ m < n, task ∉ owners (stageAt spawn (.task name) r m).frames) :
    ¬ Enters spawn r name task := by
  rintro ⟨m, mem⟩
  rcases Nat.lt_or_ge m n with less | ge
  · exact before m less mem
  · rcases Nat.exists_eq_add_of_le' ge with ⟨k, rfl⟩
    have stays : stageAt spawn (.task name) r (k + n) = finish [] done := by
      have later : stageAt spawn (.task name) r (k + n) =
          (advance spawn)^[k] (stageAt spawn (.task name) r n) :=
        Function.iterate_add_apply _ _ _ _
      rw [later, ends, iterate_finish]
    rw [stays] at mem
    exact absurd mem List.not_mem_nil

/-! ## Arguments of one task -/

/-- The second state is the first with other positional arguments, which are the same for all tasks
but one. -/
structure Rescoped (task : String) (positional : Bindings (List String)) (r s : Runner) : Prop where
  state : s = { r with positional }
  others : ∀ other, other ≠ task → positional.get? other = r.positional.get? other

/-- The command that is next, if any, is not on behalf of the task. -/
def Elsewhere (task : String) : Focus → Runner → Prop
  | .command owner _, _ => owner ≠ task
  | _, _ => True

namespace Rescoped

/-- Any other task sees the same in place of a text. -/
theorem resolve (h : Rescoped task positional r s) (other : owner ≠ task) (text : String) :
    s.resolve owner text = r.resolve owner text := by
  have same : s.scope owner = r.scope owner := by
    simp only [scope, h.state, h.others owner other]
  rw [Runner.resolve, Runner.resolve, same]

theorem action? (h : Rescoped task positional r s) (other : owner ≠ task) (command : Command) :
    s.action? owner command = r.action? owner command := by
  have same : s.resolve owner = r.resolve owner := funext fun text => h.resolve other text
  rw [Runner.action?, Runner.action?, same]

theorem note (h : Rescoped task positional r s) (level : Level) (message : String) :
    Rescoped task positional (r.note level message) (s.note level message) := by
  rcases h with ⟨rfl, others⟩
  exact ⟨rfl, others⟩

/-- What comes of a child process has nothing to do with arguments. -/
theorem receive (h : Rescoped task positional r s) (child : String) (reply : ChildReply) :
    SameUpTo (Rescoped task positional) (r.receive child reply) (s.receive child reply) := by
  rcases h with ⟨rfl, others⟩
  apply sameUpTo_receive_of_console
  case note => exact note
  case left => exact fun _ => ⟨rfl, others⟩
  all_goals rfl

end Rescoped

/-- The arguments of a task play no part as long as none of its commands is carried out. -/
theorem lockstep_rescoped (spawn : Spawn) (task : String) (positional : Bindings (List String)) :
    Lockstep spawn (Elsewhere task) (Rescoped task positional) where
  findTask? h := by rw [h.state]
  interpreter h := by rw [h.state]
  workingDir h := by rw [h.state]
  stack h := by rw [h.state]
  store h := by rw [h.state]
  out h := by rw [h.state]
  captures h := by rw [h.state]
  refusal? h _ := by simp only [refusal?, h.state]
  action? h other := h.action? other _
  receive _ _ _ _ h := h.receive _ _
  note h := h.note
  dispatch := by
    rintro r s ⟨rfl, others⟩ owner command action
    exact ⟨rfl, others⟩
  setVar := by
    rintro r s ⟨rfl, others⟩ name value
    exact ⟨rfl, others⟩
  pushTask := by
    rintro r s ⟨rfl, others⟩ name
    exact ⟨rfl, others⟩
  popTask := by
    rintro r s ⟨rfl, others⟩
    exact ⟨rfl, others⟩
  setStore := by
    rintro r s ⟨rfl, others⟩ store
    exact ⟨rfl, others⟩
  setOut := by
    rintro r s ⟨rfl, others⟩ out
    exact ⟨rfl, others⟩

/-! ## Runs that do not enter the task -/

/-- A run that does not enter a task never comes to one of its commands. -/
theorem elsewhere_of_not_enters (never : ¬ Enters spawn r name task) (n : Nat) :
    Elsewhere task (stageAt spawn (.task name) r n).focus
      (stageAt spawn (.task name) r n).runner := by
  cases focus : (stageAt spawn (.task name) r n).focus with
  | command owner command =>
    intro same
    rw [same] at focus
    exact never (enters_of_command focus)
  | task other => trivial
  | body owner rest => trivial
  | ended outcome => trivial

/-- The positional arguments of a task play no part in a run that never enters it.  Other arguments
for that task give the same outcome and the same state, and at each stage every other task sees the
same in place of every text, whatever the named arguments and the variables hold. -/
theorem scoped_arguments (spawn : Spawn) (name : String)
    (others : ∀ other, other ≠ task → positional.get? other = r.positional.get? other)
    (never : ¬ Enters spawn r name task) :
    { r with positional }.executeTask spawn name =
        ((r.executeTask spawn name).1, { (r.executeTask spawn name).2 with positional }) ∧
      ∀ n owner text, owner ≠ task →
        (stageAt spawn (.task name) { r with positional } n).runner.resolve owner text =
          (stageAt spawn (.task name) r n).runner.resolve owner text := by
  have start : Stage.Related (Rescoped task positional) (begin (.task name) r)
      (begin (.task name) { r with positional }) := ⟨rfl, rfl, rfl, others⟩
  have calm := elsewhere_of_not_enters never
  have lockstep := lockstep_rescoped spawn task positional
  constructor
  · have same := lockstep.result start calm (reaches_executeTask spawn name [] r)
      (reaches_executeTask spawn name [] { r with positional })
    exact Prod.ext same.told same.left.state
  · intro n owner text other
    have related := lockstep.iterate start (n := n) fun m _ => calm m
    exact related.runner.resolve other text

/-- Three tasks, of which the first calls the second; what it assigns and the named argument read like
references to the arguments of the task that prints them. -/
def handover : Runner :=
  let script := ⟨[], [⟨"main", [⟨"var", ["X", "?1"], 2⟩, ⟨"tsk", ["show"], 3⟩], 1⟩,
    ⟨"show", [⟨"ech", ["$X ?key ?1"], 5⟩], 4⟩, ⟨"vault", [⟨"ech", ["?1"], 7⟩], 6⟩]⟩
  (((fresh script).setTaskArgs "main" ["?1"]).setTaskArgs "vault" ["secret"]).setNamedArgs
    (.ofList [("key", "?1")])

/-- Nothing of what the third task has been given is printed, or plays a part. -/
theorem scoped_arguments_of_handover :
    (handover.executeTask noChild "main").2.console.out.log = [⟨.text "?1 ?1 ?1\n", none⟩] ∧
      ¬ Enters noChild handover "main" "vault" ∧
      { handover with positional := handover.positional.set "vault" ["public"] }.executeTask noChild
          "main" =
        ((handover.executeTask noChild "main").1,
          { (handover.executeTask noChild "main").2 with
            positional := handover.positional.set "vault" ["public"] }) := by
  have printed : (handover.executeTask noChild "main").2.console.out.log =
      [⟨.text "?1 ?1 ?1\n", none⟩] := by cbv
  have others : ∀ other, other ≠ "vault" →
      (handover.positional.set "vault" ["public"]).get? other = handover.positional.get? other := by
    intro other differs
    rw [Bindings.get?_set, if_neg differs]
  have never : ¬ Enters noChild handover "main" "vault" := by
    have ends : stageAt noChild (.task "main") handover 14 =
        finish [] (handover.executeTask noChild "main") := by
      rfl
    refine not_enters_of_ended ends ?_
    decide +kernel
  exact ⟨printed, never, (scoped_arguments noChild "main" others never).1⟩

end Runner
end TaskScript
