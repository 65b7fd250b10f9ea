import TaskScript.Proofs.Script.Acceptance

/-!
# Leaves — what is left of a task when its calls are replaced

The leaves of a task are its commands, where each literal call is replaced by the leaves of the task
that it names.  To be a function of every script, the replacement stops at names from which it came;
in a script without circles there are none (`Script.leaves_eq`).

- `Script.leavesFrom` : the leaves of a name, come to along a trail
- `Script.leaves`     : the leaves of a name
- `Script.leaves_eq`  : without circles, each call is replaced by all leaves of its target
- `Script.keyword_of_mem_leavesFrom` : if all calls are literal, no call is left
-/

namespace TaskScript
namespace Script

open Relation

variable {script : Script} {trail trail' : List String} {name : String}

/-- A command with the task that it stands in. -/
abbrev Leaf := String × Command

/-- What replaces a command, given what replaces the tasks that it may call. -/
def replaceCall (below : String → List Leaf) (owner : String) (command : Command) : List Leaf :=
  match command.literalTarget? with
  | some target => below target
  | none => [(owner, command)]

/-- The leaves of a task.  `trail` holds the names from which the replacement came. -/
def leavesFrom (script : Script) (trail : List String) (name : String) : List Leaf :=
  if _onTrail : name ∈ trail then
    []
  else
    match _found : script.findTask? name with
    | none => []
    | some task => task.commands.flatMap (replaceCall (script.leavesFrom (name :: trail)) name)
termination_by script.offTrail trail
decreasing_by exact offTrail_cons_lt (mem_taskNames_of_findTask? _found) _onTrail

/-- The leaves of a task, in order. -/
def leaves (script : Script) (name : String) : List Leaf :=
  script.leavesFrom [] name

theorem leavesFrom_of_not_found (unknown : script.findTask? name = none) :
    script.leavesFrom trail name = [] := by
  rw [leavesFrom]
  split
  · rfl
  · split
    · rfl
    · next found => exact absurd (unknown.symm.trans found) (by simp)

theorem leavesFrom_of_found {task : Task} (fresh : name ∉ trail)
    (found : script.findTask? name = some task) :
    script.leavesFrom trail name =
      task.commands.flatMap (replaceCall (script.leavesFrom (name :: trail)) name) := by
  rw [leavesFrom, dif_neg fresh]
  split
  · next unknown => exact absurd (unknown.symm.trans found) (by simp)
  · next other same =>
    obtain rfl : other = task := Option.some.inj (same.symm.trans found)
    rfl

/-- Commands of a task are replaced alike if the tasks that it leads to are. -/
theorem flatMap_replaceCall_congr {below below' : String → List Leaf} {task : Task}
    (found : script.findTask? name = some task)
    (same : ∀ target, script.LeadsTo name target → below target = below' target) :
    task.commands.flatMap (replaceCall below name) =
      task.commands.flatMap (replaceCall below' name) := by
  refine List.flatMap_congr fun command mem => ?_
  unfold replaceCall
  split
  · next target named =>
    refine same target ((leadsTo_iff_of_found found).2 ?_)
    exact List.mem_filterMap.2 ⟨command, mem, named⟩
  · rfl

/-- Without circles, the leaves do not depend on the trail. -/
theorem leavesFrom_eq_of_isTrail (acyclic : ∀ name, ¬ TransGen script.LeadsTo name name)
    (onTrail : script.IsTrail trail name) (onTrail' : script.IsTrail trail' name) :
    script.leavesFrom trail name = script.leavesFrom trail' name := by
  induction trail, name using firstCircle?.induct script generalizing trail' with
  | case1 trail name mem => exact absurd (onTrail.transGen mem) (acyclic name)
  | case2 trail name fresh unknown =>
    rw [leavesFrom_of_not_found unknown, leavesFrom_of_not_found unknown]
  | case3 trail name fresh task found ih =>
    -- a name that is met again on its own trail leads to itself
    have fresh' : name ∉ trail' := fun mem => acyclic name (onTrail'.transGen mem)
    rw [leavesFrom_of_found fresh found, leavesFrom_of_found fresh' found]
    refine flatMap_replaceCall_congr found fun target leads => ?_
    exact ih target (onTrail.cons fresh leads) (onTrail'.cons fresh' leads)

/-- Without circles, each call is replaced by all leaves of its target. -/
theorem leaves_eq (acyclic : ∀ name, ¬ TransGen script.LeadsTo name name) {task : Task}
    (found : script.findTask? name = some task) :
    script.leaves name = task.commands.flatMap (replaceCall script.leaves name) := by
  rw [leaves, leavesFrom_of_found List.not_mem_nil found]
  refine flatMap_replaceCall_congr found fun target leads => ?_
  have below : script.IsTrail [name] target := (isTrail_nil name).cons List.not_mem_nil leads
  exact leavesFrom_eq_of_isTrail acyclic below (isTrail_nil target)

/-- If all calls are literal, no call is left. -/
theorem keyword_of_mem_leavesFrom (formed : script.WellFormed) (literal : script.CallsLiterally)
    {leaf : Leaf} (mem : leaf ∈ script.leavesFrom trail name) : leaf.2.keyword ≠ "tsk" := by
  induction trail, name using firstCircle?.induct script with
  | case1 trail name again =>
    rw [leavesFrom, dif_pos again] at mem
    exact absurd mem List.not_mem_nil
  | case2 trail name fresh unknown =>
    rw [leavesFrom_of_not_found unknown] at mem
    exact absurd mem List.not_mem_nil
  | case3 trail name fresh task found ih =>
    rw [leavesFrom_of_found fresh found] at mem
    obtain ⟨command, memc, memr⟩ := List.mem_flatMap.1 mem
    unfold replaceCall at memr
    split at memr
    · next target named => exact ih target memr
    · next unnamed =>
      obtain rfl := List.mem_singleton.1 memr
      exact formed.keyword_ne literal (mem_of_findTask? found) memc unnamed

end Script
end TaskScript
