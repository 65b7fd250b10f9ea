import Mathlib.Data.List.Perm.Subperm
import TaskScript.Proofs.Run.Moment
import TaskScript.Proofs.Script.Acceptance

/-!
# Calls — the references that a run follows

What a literal call names is what it calls, so that a run goes along the references of its script as
far as its calls are literal.

- `Runner.Moment.leadsTo`  : a literal call follows a reference
- `Runner.CallsAlong`      : calls that lead along a path, one for each step
- `Runner.isChain_of_calls` : such calls make it a chain
- `Runner.Moment.isTrail`  : with literal calls only, the task stack is a trail
- `Runner.refusal?_of_trail` : on a trail, a declared task is refused only if it is running
- `Moment.not_refused`     : without a circle of references, no literal call is refused
-/

namespace TaskScript
namespace Runner

open Relation

variable {spawn : Spawn} {r s : Runner} {name owner target : String} {calls : List Dispatch}
  {command : Command} {rest : List Command}

/-! ## Literal calls -/

/-- What a call calls is what its first argument stands for. -/
theorem arg_of_action? (ready : r.action? owner command = some (.tsk target)) :
    command.keyword = "tsk" ∧
      ∃ arg, command.args.head? = some arg ∧ target = r.resolve owner arg := by
  have isCall := kind?_of_action? ready
  rw [action?_of_call isCall, Option.map_eq_some_iff] at ready
  obtain ⟨arg, head, same⟩ := ready
  exact ⟨Command.kind?_eq_some_iff.1 isCall, arg, head, (Action.tsk.inj same).symm⟩

theorem names_of_action? (ready : r.action? owner command = some (.tsk target))
    (literal : ∀ arg, command.args.head? = some arg → IsLiteral arg) : command.Names target := by
  obtain ⟨isCall, arg, head, rfl⟩ := arg_of_action? ready
  have stays : r.resolve owner arg = arg := Reference.resolve_of_isLiteral _ (literal arg head)
  rw [stays]
  exact ⟨isCall, head, literal arg head⟩

theorem action?_of_names (names : command.Names target) :
    r.action? owner command = some (.tsk target) := by
  obtain ⟨isCall, head, literal⟩ := names
  have stays : r.resolve owner target = target := Reference.resolve_of_isLiteral _ literal
  rw [action?_of_call (Command.kind?_eq_some_iff.2 isCall), head, Option.map_some, stays]

/-- A command that fits is in order in every state. -/
theorem exists_action_of_fits (fits : command.Fits) (s : Runner) (owner : String) :
    ∃ kind action, command.kind? = some kind ∧ s.action? owner command = some action := by
  obtain ⟨kind, known, enough⟩ := fits
  rcases s.action?_cases owner command with unknown | ⟨kind', known', missing⟩ | ready
  · rw [known] at unknown
    cases unknown
  · obtain rfl : kind = kind' := Option.some.inj (known.symm.trans known')
    omega
  · exact ready

/-- With literal calls only, every call that a run comes to names what it calls. -/
theorem Moment.names (h : Moment spawn r name calls owner (command :: rest) s)
    (literal : r.script.CallsLiterally) (ready : s.action? owner command = some (.tsk target)) :
    command.Names target := by
  obtain ⟨task, mem, -, memc⟩ := h.command_mem
  exact names_of_action? ready (literal task mem command memc (arg_of_action? ready).1)

/-- A literal call that a run comes to follows a reference of the script. -/
theorem Moment.leadsTo (h : Moment spawn r name calls owner (command :: rest) s)
    (names : command.Names target) : r.script.LeadsTo owner target := by
  obtain ⟨task, found, done, he⟩ := h.found
  exact ⟨task, found, Task.mem_literalTargets_iff.2 ⟨command, by simp [he], names⟩⟩

/-! ## Calls along a path -/

/-- A command of the script has called a task, on behalf of the task that it stands in. -/
def IsCallIn (script : Script) (call : Dispatch) : Prop :=
  call.command.keyword = "tsk" ∧
    ∃ task ∈ script.tasks, task.name = call.owner ∧ call.command ∈ task.commands

/-- Calls that lead along a path, one for each step, each made by a command of the script. -/
structure CallsAlong (script : Script) (path : List String) (taken : List Dispatch) : Prop where
  owners : taken.map Dispatch.owner = path.dropLast
  targets : taken.map Dispatch.action = path.tail.map Action.tsk
  written : ∀ call ∈ taken, IsCallIn script call

theorem Moment.isCallIn (h : Moment spawn r name calls owner (command :: rest) s)
    (ready : s.action? owner command = some (.tsk target)) :
    IsCallIn r.script ⟨s.stack, owner, command, .tsk target⟩ :=
  ⟨(arg_of_action? ready).1, h.command_mem⟩

/-- Linked calls, in order, each call the owner of the next one. -/
theorem Linked.targets {last : String} (h : Linked name calls last) :
    calls.reverse.map Dispatch.action =
      ((calls.map Dispatch.owner).reverse ++ [last]).tail.map Action.tsk := by
  induction calls generalizing last with
  | nil => rfl
  | cons call calls ih =>
    obtain ⟨calls', linked⟩ := h
    have tail : ((call :: calls).map Dispatch.owner).reverse ++ [last] =
        ((calls.map Dispatch.owner).reverse ++ [call.owner]) ++ [last] := by simp
    rw [tail, List.tail_append_of_ne_nil (by simp), List.map_append, ← ih linked]
    simp [calls']

/-- The call that a run comes to and those under way lead along the task stack. -/
theorem Moment.callsAlong (h : Moment spawn r name calls owner (command :: rest) s)
    (idle : r.stack = []) (ready : s.action? owner command = some (.tsk target)) :
    CallsAlong r.script (s.stack.reverse ++ [target])
      (⟨s.stack, owner, command, .tsk target⟩ :: calls).reverse where
  owners := by
    rw [List.dropLast_concat, h.stack_eq, idle]
    simp
  targets := by
    have linked : Linked name (⟨s.stack, owner, command, .tsk target⟩ :: calls) target :=
      ⟨rfl, h.linked⟩
    rw [linked.targets, h.stack_eq, idle]
    simp
  written := by
    intro call mem
    rcases List.mem_cons.1 (List.mem_reverse.1 mem) with rfl | mem
    · exact h.isCallIn ready
    · obtain ⟨earlier, after, t, callee, moment, ready', -, -⟩ := h.called mem
      exact moment.isCallIn ready'

/-- Calls along a path make it a chain of whatever each of them does. -/
theorem isChain_of_calls {Step : String → String → Prop} {path : List String}
    {taken : List Dispatch} (owners : taken.map Dispatch.owner = path.dropLast)
    (targets : taken.map Dispatch.action = path.tail.map Action.tsk)
    (steps : ∀ call ∈ taken, ∀ target, call.action = .tsk target → Step call.owner target) :
    path.IsChain Step := by
  induction path generalizing taken with
  | nil => exact .nil
  | cons first path ih =>
    cases path with
    | nil => exact .singleton first
    | cons second path =>
      cases taken with
      | nil => exact nomatch owners
      | cons call taken =>
        rw [List.dropLast_cons_cons, List.map_cons] at owners
        obtain ⟨rfl, more⟩ := List.cons.inj owners
        obtain ⟨action, targets⟩ := List.cons.inj targets
        have later := fun c (mem : c ∈ taken) => steps c (List.mem_cons_of_mem _ mem)
        exact .cons_cons (steps call List.mem_cons_self second action) (ih more targets later)

/-- Calls that all follow references lead from the first name to the last one. -/
theorem transGen_of_calls {script : Script} {taken : List Dispatch} {first last : String}
    {inner : List String} (owners : taken.map Dispatch.owner = first :: inner)
    (targets : taken.map Dispatch.action = (inner ++ [last]).map Action.tsk)
    (follow : ∀ call ∈ taken, ∀ target, call.action = .tsk target →
      script.LeadsTo call.owner target) : TransGen script.LeadsTo first last := by
  have owners' : taken.map Dispatch.owner = (first :: (inner ++ [last])).dropLast := by
    rw [owners, ← List.cons_append, List.dropLast_concat]
  have chain : (first :: (inner ++ [last])).IsChain (TransGen script.LeadsTo) :=
    isChain_of_calls owners' targets fun call mem target action =>
      .single (follow call mem target action)
  exact chain.rel_cons (by simp)

/-! ## Runs of scripts with literal calls -/

/-- With literal calls only, the tasks below the running one are a trail to it. -/
theorem Moment.isTrail (h : Moment spawn r name calls owner rest s) (idle : r.stack = [])
    (literal : r.script.CallsLiterally) :
    ∃ below, s.stack = owner :: below ∧ r.script.IsTrail below owner := by
  induction h with
  | start free found => exact ⟨[], by simp [idle], Script.isTrail_nil _⟩
  | next before done ih =>
    rw [(keeps_of_executeCommand done).stack]
    exact ih
  | @call calls owner target command rest s task before ready free found ih =>
    obtain ⟨below, stack, trail⟩ := ih
    have leads := before.leadsTo (before.names literal ready)
    have distinct := before.nodup (by rw [idle]; exact List.nodup_nil)
    rw [stack] at distinct
    refine ⟨owner :: below, ?_, trail.cons (List.nodup_cons.1 distinct).1 leads⟩
    rw [enter_stack, (calling_keeps s owner command target).stack, stack]

/-- On a trail there is room for every declared task that is not running yet. -/
theorem refusal?_of_trail (trail : r.script.IsTrail r.stack target)
    (declared : target ∈ r.script.taskNames) (deep : r.script.tasks.length ≤ r.settings.maxDepth) :
    r.refusal? target =
      if target ∈ r.stack then some (.cyclic (r.stack.reverse ++ [target])) else none := by
  obtain ⟨task, found⟩ := Script.exists_findTask? declared
  unfold refusal?
  rw [found]
  dsimp only
  split
  · rfl
  · next fresh =>
    have distinct : (target :: r.stack).Nodup := List.nodup_cons.2 ⟨fresh, trail.distinct⟩
    have within : target :: r.stack ⊆ r.script.taskNames :=
      List.cons_subset.2 ⟨declared, trail.subset_taskNames⟩
    have bound := (List.subperm_of_subset distinct within).length_le
    have names : r.script.taskNames.length = r.script.tasks.length := List.length_map _
    have shallow : ¬ r.settings.maxDepth ≤ r.stack.length := by
      rw [List.length_cons] at bound
      omega
    rw [if_neg shallow]

/-- With literal calls only and room for all tasks, no call of an accepted script is refused. -/
theorem Moment.not_refused (h : Moment spawn r name calls owner (command :: rest) s)
    (accepted : r.script.fault? = none) (idle : r.stack = [])
    (literal : r.script.CallsLiterally) (deep : r.script.tasks.length ≤ r.settings.maxDepth)
    {target : String} (ready : s.action? owner command = some (.tsk target)) :
    s.refusal? target = none := by
  have formed := Script.wellFormed_of_fault?_eq_none accepted
  have leads := h.leadsTo (h.names literal ready)
  obtain ⟨below, stack, trail⟩ := h.isTrail idle literal
  have distinct := h.nodup (by rw [idle]; exact List.nodup_nil)
  rw [stack] at distinct
  have onward : s.script.IsTrail s.stack target := by
    rw [h.keeps.script, stack]
    exact trail.cons (List.nodup_cons.1 distinct).1 leads
  have declared : target ∈ s.script.taskNames := by
    rw [h.keeps.script]
    exact formed.refersWithin owner target leads
  have room : s.script.tasks.length ≤ s.settings.maxDepth := by
    rw [h.keeps.script, h.keeps.settings]
    exact deep
  rw [refusal?_of_trail onward declared room, if_neg]
  intro running
  have circle := onward.transGen running
  rw [h.keeps.script] at circle
  exact formed.isAcyclic_iff.1 (Script.isAcyclic_of_fault?_eq_none accepted) target circle

end Runner
end TaskScript
