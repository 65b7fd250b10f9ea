import TaskScript.Proofs.Run.Circles
import TaskScript.Proofs.Run.Soundness

/-!
# Lasso — the paths that are reported as circles

A path that is reported as a circle leads into a circle and once around it: all names but the last
are different tasks, and the last is one of them.  This holds of the search through a script, which
goes along literal calls, and of any run, which goes along the calls that it makes, whatever they
stand for at the time.

- `Script.IsLasso`           : such a path, for any relation of steps
- `Runner.CallsDuring`       : a task calls another in the course of a run
- `Runner.isLasso_of_cyclic` : what a run reports
- `Runner.reported_circles`  : what is reported of scripts and of runs
-/

namespace TaskScript

/-! ## Wording -/

theorem ScriptFault.eq_circular_of_message {fault : ScriptFault} {text : String}
    (words : fault.message = "Circular dependency detected: " ++ text) :
    ∃ path, fault = .circular path ∧ text = arrowPath path := by
  have chars := congrArg String.toList words
  unfold message at chars
  -- no other message begins in the same way
  cases fault with
  | circular path => exact ⟨path, rfl, ((String.append_right_inj _).1 words).symm⟩
  | _ => simp at chars

theorem RunFault.eq_cyclic_of_message {fault : RunFault} {text : String}
    (words : fault.message = "Cyclic task invocation: " ++ text) :
    ∃ path, fault = .cyclic path ∧ text = arrowPath path := by
  have chars := congrArg String.toList words
  unfold message at chars
  cases fault with
  | cyclic path => exact ⟨path, rfl, ((String.append_right_inj _).1 words).symm⟩
  | _ => simp at chars

/-! ## Paths -/

namespace Script

variable {script : Script} {Step : String → String → Prop} {path : List String}

/-- A path of steps between different tasks that ends in one of them. -/
structure IsLasso (script : Script) (Step : String → String → Prop) (path : List String) :
    Prop where
  long : 2 ≤ path.length
  distinct : path.dropLast.Nodup
  declared : ∀ name ∈ path.dropLast, name ∈ script.taskNames
  closes : ∃ last ∈ path.dropLast, path.getLast? = some last
  chain : path.IsChain Step

/-- Each name but the last leads on. -/
theorem exists_step_of_mem_dropLast (chain : path.IsChain Step) {name : String}
    (mem : name ∈ path.dropLast) : ∃ next, Step name next := by
  induction chain with
  | nil => exact absurd mem List.not_mem_nil
  | singleton last => exact absurd mem List.not_mem_nil
  | @cons_cons first second rest step chain ih =>
    rcases List.mem_cons.1 mem with rfl | mem
    · exact ⟨second, step⟩
    · exact ih mem

/-- A circle along references is a lasso. -/
theorem IsCircle.isLasso (h : script.IsCircle path) : script.IsLasso script.RefersTo path := by
  obtain ⟨outer, name, inner, rfl⟩ := h.closes
  have front : (outer ++ name :: (inner ++ [name])).dropLast = outer ++ name :: inner := by
    rw [← List.cons_append, ← List.append_assoc, List.dropLast_concat]
  have back : (outer ++ name :: (inner ++ [name])).getLast? = some name := by
    rw [← List.cons_append, ← List.append_assoc, List.getLast?_concat]
  constructor
  · rw [List.length_append, List.length_cons, List.length_append, List.length_singleton]
    omega
  · exact h.distinct
  · intro caller mem
    obtain ⟨callee, leads⟩ := exists_step_of_mem_dropLast h.chain mem
    exact leads.mem_taskNames
  · refine ⟨name, ?_, back⟩
    rw [front]
    exact List.mem_append_right _ List.mem_cons_self
  · exact h.chain.imp fun _ _ => LeadsTo.refersTo

/-- What the check of a script reports as a circle is one. -/
theorem isLasso_of_circular (reported : script.fault? = some (.circular path)) :
    script.IsLasso script.RefersTo path := by
  have formed := wellFormed_of_fault?_eq_circular reported
  rw [formed.fault?_eq, Option.map_eq_some_iff] at reported
  obtain ⟨circle, first, same⟩ := reported
  obtain rfl := ScriptFault.circular.inj same
  obtain ⟨name, -, met⟩ := List.exists_of_findSome?_eq_some first
  exact (isCircle_of_firstCircle? (isTrail_nil name) met).isLasso

end Script

/-! ## Runs -/

namespace Runner

variable {spawn : Spawn} {r s : Runner} {name owner : String} {calls : List Dispatch}
  {command : Command} {rest : List Command} {path : List String}

/-- In the course of a run one of the commands of `caller` calls `callee`: its first argument stands
for this name when the run comes to it, and the call is among those that are `carried` out. -/
def CallsDuring (spawn : Spawn) (r : Runner) (name : String) (carried : List Dispatch)
    (caller callee : String) : Prop :=
  ∃ call ∈ carried, call.owner = caller ∧ call.action = .tsk callee ∧ IsCallIn r.script call ∧
    ∃ calls rest s arg, Moment spawn r name calls caller (call.command :: rest) s ∧
      call.stack = s.stack ∧ call.command.args.head? = some arg ∧ s.resolve caller arg = callee

/-- Only the call of a running task fails with a circle by itself. -/
theorem refused_of_ownFault?_cyclic
    (own : s.ownFault? spawn owner command = some (.cyclic path)) :
    ∃ target, s.action? owner command = some (.tsk target) ∧
      s.refusal? target = some (.cyclic path) := by
  have failed := fault_of_ownFault? own
  rcases s.action?_cases owner command with
    unknown | ⟨kind, known, missing⟩ | ⟨kind, action, known, ready⟩
  · rw [executeCommand, runCommand_of_unknown unknown] at failed
    cases failed
  · rw [executeCommand, runCommand_of_missing known missing] at failed
    cases failed
  · rcases ownFault?_of_ready known ready own with ⟨target, rfl, refused⟩ | external
    · exact ⟨target, ready, refused⟩
    · exact external.elim

theorem refusal?_eq_cyclic {target : String} (refused : s.refusal? target = some (.cyclic path)) :
    path = s.stack.reverse ++ [target] ∧ target ∈ s.stack := by
  rcases refusal?_eq_some refused with ⟨same, -⟩ | ⟨same, running⟩ | ⟨same, -⟩
  · exact nomatch same
  · exact ⟨RunFault.cyclic.inj same, running⟩
  · exact nomatch same

/-- The first of the owners is the task with which the run began. -/
theorem Linked.getLast? (h : Linked name calls owner) :
    (owner :: calls.map Dispatch.owner).getLast? = some name := by
  induction calls generalizing owner with
  | nil => exact congrArg some h
  | cons call calls ih =>
    rw [List.map_cons, List.getLast?_cons_cons]
    exact ih h.2

/-- A call that a run comes to is made during the run. -/
theorem Moment.callsDuring {call : Dispatch} {target : String} {carried : List Dispatch}
    (h : Moment spawn r name calls call.owner (call.command :: rest) s)
    (ready : s.action? call.owner call.command = some (.tsk target))
    (action : call.action = .tsk target) (stack : call.stack = s.stack) (made : call ∈ carried) :
    CallsDuring spawn r name carried call.owner target := by
  obtain ⟨isCall, arg, head, stands⟩ := arg_of_action? ready
  exact ⟨call, made, rfl, action, ⟨isCall, h.command_mem⟩, calls, rest, s, arg, h, stack,
    head, stands.symm⟩

/-- The call that a run comes to and those under way make the task stack a chain of calls. -/
theorem Moment.isChain_callsDuring {target : String} {carried : List Dispatch}
    (h : Moment spawn r name calls owner (command :: rest) s) (idle : r.stack = [])
    (ready : s.action? owner command = some (.tsk target))
    (made : ⟨s.stack, owner, command, .tsk target⟩ :: calls ⊆ carried) :
    (s.stack.reverse ++ [target]).IsChain (CallsDuring spawn r name carried) := by
  have along := h.callsAlong idle ready
  refine isChain_of_calls along.owners along.targets fun call mem callee action => ?_
  have member := List.mem_reverse.1 mem
  rcases List.mem_cons.1 member with rfl | under
  · obtain rfl := Action.tsk.inj action
    exact h.callsDuring ready rfl rfl (made member)
  · obtain ⟨earlier, after, t, other, moment, ready', action', stack⟩ := h.called under
    obtain rfl := Action.tsk.inj (action.symm.trans action')
    exact moment.callsDuring ready' action stack (made member)

/-- The task stack begins with the task with which the run began. -/
theorem Moment.head?_stack (h : Moment spawn r name calls owner rest s) (idle : r.stack = []) :
    s.stack.reverse.head? = some name := by
  rw [h.stack_eq, idle, List.append_nil, List.head?_reverse]
  exact h.linked.getLast?

/-- What a run reports as a circle is one: it leads from the task with which the run began along
calls that the run has made. -/
theorem isLasso_of_cyclic (idle : r.stack = [])
    (failed : r.executeTask spawn name = (.error (.cyclic path), s)) :
    path.head? = some name ∧ ∃ carried, s.journal = carried ++ r.journal ∧
      r.script.IsLasso (CallsDuring spawn r name carried) path := by
  rcases executeTask_error_iff.1 (congrArg Prod.fst failed) with
    refused | ⟨calls, owner, command, rest, t, h, own⟩
  · -- on an empty stack no task is running
    obtain ⟨-, running⟩ := refusal?_eq_cyclic refused
    rw [idle] at running
    exact absurd running List.not_mem_nil
  · obtain ⟨target, ready, refused⟩ := refused_of_ownFault?_cyclic own
    obtain ⟨rfl, running⟩ := refusal?_eq_cyclic refused
    obtain ⟨u, new, ends, journal, under⟩ := h.executeTask_refusedCall ready refused
    obtain rfl : u = s := congrArg Prod.snd (ends.symm.trans failed)
    have chain := h.isChain_callsDuring idle ready (under.cons_cons _).subset
    refine ⟨?_, _, journal, ?_⟩
    · rw [List.head?_append, h.head?_stack idle]
      rfl
    constructor
    · have some_ := List.length_pos_of_mem running
      rw [List.length_append, List.length_reverse, List.length_singleton]
      omega
    · rw [List.dropLast_concat, List.nodup_reverse]
      exact h.nodup (idle ▸ List.nodup_nil)
    · intro caller mem
      obtain ⟨callee, call, -, rfl, -, ⟨-, task, member, sameName, -⟩, -⟩ :=
        Script.exists_step_of_mem_dropLast chain mem
      exact List.mem_map.2 ⟨task, member, sameName⟩
    · refine ⟨target, ?_, List.getLast?_concat⟩
      rw [List.dropLast_concat]
      exact List.mem_reverse.2 running
    · exact chain

/-! ## Both reports -/

/-- The paths that are reported as circles are paths that come back to themselves.

If the check of a script reports one, then each task of the path has a call that names the next one
literally.  If a run that begins on an empty stack reports one, then the path begins with the task
that is run, and each task has a call that the run has carried out and whose argument stood for the
next one at that moment. -/
theorem reported_circles (spawn : Spawn) (script : Script) :
    (∀ fault text, script.fault? = some fault →
      fault.message = "Circular dependency detected: " ++ text →
        ∃ path, text = arrowPath path ∧ script.IsLasso script.RefersTo path) ∧
    (∀ (r : Runner) (name : String) (fault : RunFault) (s : Runner) (text : String),
      r.script = script → r.stack = [] → r.executeTask spawn name = (.error fault, s) →
        fault.message = "Cyclic task invocation: " ++ text →
          ∃ path, text = arrowPath path ∧ path.head? = some name ∧
            ∃ carried, s.journal = carried ++ r.journal ∧
              script.IsLasso (CallsDuring spawn r name carried) path) := by
  constructor
  · intro fault text reported words
    obtain ⟨path, rfl, rfl⟩ := ScriptFault.eq_circular_of_message words
    exact ⟨path, rfl, Script.isLasso_of_circular reported⟩
  · rintro r name fault s text rfl idle failed words
    obtain ⟨path, rfl, rfl⟩ := RunFault.eq_cyclic_of_message words
    exact ⟨path, rfl, isLasso_of_cyclic idle failed⟩

/-- Two tasks that call each other by name are reported by the check, and one that calls itself
through a variable by its run. -/
theorem reported_circles_of_two :
    (∃ path, "main -> sub -> main" = arrowPath path ∧
      rounds.IsLasso rounds.RefersTo path) ∧
    ∃ path, "greet -> greet" = arrowPath path ∧ path.head? = some "greet" ∧
      ∃ carried, ((fresh roundabout).executeTask noChild "greet").2.journal =
          carried ++ (fresh roundabout).journal ∧
        roundabout.IsLasso (CallsDuring noChild (fresh roundabout) "greet" carried) path := by
  have reported : rounds.fault? = some (.circular ["main", "sub", "main"]) := by
    decide +kernel
  have failed : ((fresh roundabout).executeTask noChild "greet").1 =
      .error (.cyclic ["greet", "greet"]) := by
    rfl
  constructor
  · exact (reported_circles noChild rounds).1 _ _ reported rfl
  · exact (reported_circles noChild roundabout).2 (fresh roundabout) "greet" _ _ _ rfl rfl
      (Prod.ext failed rfl) rfl

end Runner
end TaskScript
