import TaskScript.Proofs.Run.Calls

/-!
# Soundness — what the run of an accepted script can still fail with

A command that fits fails by itself only for reasons that lie outside the script, or because the
task that it calls is refused.  Together with the calls under way this settles what an accepted
script can run into:

- `RunFault.IsExternal`     : faults of children, files and sinks
- `Runner.ownFault?_cases`  : the faults that a fitting command has by itself
- `Runner.soundness`        : the faults that are left to runs of accepted scripts
-/

namespace TaskScript

open Relation

/-- A fault that lies outside the script: a child that did not start or ended without success, a
file that was not deleted, an output that was not written. -/
def RunFault.IsExternal : RunFault → Prop
  | .notStarted _ _ | .unsuccessful _ _ | .notDeleted _ _ | .internal _ (.outputLost _) => True
  | _ => False

/-- A text with a mark that may begin a reference. -/
def HasMark (text : String) : Prop :=
  '$' ∈ text.toList ∨ '?' ∈ text.toList

theorem hasMark_of_not_isLiteral {text : String} (h : ¬ IsLiteral text) : HasMark text := by
  unfold IsLiteral at h
  by_cases dollar : '$' ∈ text.toList
  · exact .inl dollar
  · exact .inr (Classical.not_not.1 fun question => h ⟨dollar, question⟩)

namespace Runner

/-- A call of which the script alone does not tell what it calls. -/
def IsMarked (call : Dispatch) : Prop :=
  ∃ arg, call.command.args.head? = some arg ∧ HasMark arg

variable {spawn : Spawn} {r s : Runner} {name owner : String} {calls : List Dispatch}
  {command : Command} {rest : List Command} {fault : RunFault}

/-! ## Faults of effects -/

theorem isExternal_of_judgeStatus {child : String} {status : ExitStatus}
    (failed : (r.judgeStatus child status).1 = .error fault) : fault.IsExternal := by
  unfold judgeStatus at failed
  split at failed
  · exact nomatch failed
  · split at failed
    · rw [← Except.error.inj failed]
      trivial
    · exact nomatch failed

theorem isExternal_of_runChild {child : String}
    (failed : (r.runChild spawn child).1 = .error fault) : fault.IsExternal := by
  unfold runChild at failed
  dsimp only at failed
  split at failed
  · rw [← Except.error.inj failed]
    trivial
  · split at failed
    · rw [← Except.error.inj failed]
      trivial
    · split at failed
      · rw [← Except.error.inj failed]
        trivial
      · exact isExternal_of_judgeStatus failed

theorem isExternal_of_deleteFile {path : String}
    (failed : (r.deleteFile path).1 = .error fault) : fault.IsExternal := by
  unfold deleteFile at failed
  dsimp only at failed
  split at failed
  · exact nomatch failed
  · exact nomatch failed
  · rw [← Except.error.inj failed]
    trivial

theorem isExternal_of_echo {line : String} (failed : (r.echo line).1 = .error fault) :
    fault.IsExternal := by
  unfold echo at failed
  split at failed
  · rw [← Except.error.inj failed]
    trivial
  · exact nomatch failed

/-- A command that is in order fails by itself if the task that it calls is refused, or for reasons
that lie outside the script. -/
theorem ownFault?_of_ready {kind : Keyword} {action : Action} (known : command.kind? = some kind)
    (ready : s.action? owner command = some action)
    (own : s.ownFault? spawn owner command = some fault) :
    (∃ target, action = .tsk target ∧ s.refusal? target = some fault) ∨ fault.IsExternal := by
  have failed := fault_of_ownFault? own
  rw [executeCommand, runCommand_of_action known ready] at failed
  cases action with
  | tsk target =>
    rw [ownFault?_of_call ready] at own
    exact .inl ⟨target, rfl, own⟩
  | run child => exact .inr (isExternal_of_runChild failed)
  | del path => exact .inr (isExternal_of_deleteFile failed)
  | ech line => exact .inr (isExternal_of_echo failed)
  | var assigned value => cases failed

/-- A fitting command fails by itself if the task that it calls is refused, or for reasons that lie
outside the script. -/
theorem ownFault?_cases (fits : command.Fits)
    (own : s.ownFault? spawn owner command = some fault) :
    (∃ target, s.action? owner command = some (.tsk target) ∧ s.refusal? target = some fault) ∨
      fault.IsExternal := by
  obtain ⟨kind, action, known, ready⟩ := exists_action_of_fits fits s owner
  rcases ownFault?_of_ready known ready own with ⟨target, rfl, refused⟩ | external
  · exact .inl ⟨target, ready, refused⟩
  · exact .inr external

/-! ## Runs of accepted scripts -/

theorem Moment.fits (h : Moment spawn r name calls owner (command :: rest) s)
    (formed : r.script.WellFormed) : command.Fits := by
  obtain ⟨task, mem, -, memc⟩ := h.command_mem
  exact formed.fits task mem command memc

/-- A refusal is of one of three kinds. -/
theorem refusal?_eq_some {target : String} (refused : r.refusal? target = some fault) :
    (fault = .taskNotFound target ∧ target ∉ r.script.taskNames) ∨
      (fault = .cyclic (r.stack.reverse ++ [target]) ∧ target ∈ r.stack) ∨
      (fault = .tooDeep target r.settings.maxDepth ∧ r.settings.maxDepth ≤ r.stack.length) := by
  unfold refusal? at refused
  split at refused
  · next unknown =>
    exact .inl ⟨(Option.some.inj refused).symm, Script.findTask?_eq_none_iff.1 unknown⟩
  · split at refused
    · next running => exact .inr (.inl ⟨(Option.some.inj refused).symm, running⟩)
    · split at refused
      · next full => exact .inr (.inr ⟨(Option.some.inj refused).symm, full⟩)
      · exact nomatch refused

/-- The run of a declared task of a well-formed script, started on an empty stack, fails for a
reason outside the script or because it comes to a call that is refused.  There is room for the task
itself unless there is room for none. -/
theorem refusedCall_of_fault (formed : r.script.WellFormed) (idle : r.stack = [])
    (declared : name ∈ r.script.taskNames)
    (failed : (r.executeTask spawn name).1 = .error fault) :
    fault = .tooDeep name 0 ∨ fault.IsExternal ∨
      ∃ calls owner command rest s target,
        Moment spawn r name calls owner (command :: rest) s ∧
          s.action? owner command = some (.tsk target) ∧ s.refusal? target = some fault := by
  rcases executeTask_error_iff.1 failed with refused | ⟨calls, owner, command, rest, s, h, own⟩
  · rcases refusal?_eq_some refused with ⟨-, unknown⟩ | ⟨-, running⟩ | ⟨deep, full⟩
    · exact absurd declared unknown
    · rw [idle] at running
      exact absurd running List.not_mem_nil
    · rw [idle, List.length_nil, Nat.le_zero] at full
      exact .inl (full ▸ deep)
  · rcases ownFault?_cases (h.fits formed) own with ⟨target, ready, refused⟩ | external
    · exact .inr (.inr ⟨calls, owner, command, rest, s, target, h, ready, refused⟩)
    · exact .inr (.inl external)

/-- A fault of such a run is a refusal or lies outside the script. -/
theorem fault_cases (formed : r.script.WellFormed) (idle : r.stack = [])
    (declared : name ∈ r.script.taskNames)
    (failed : (r.executeTask spawn name).1 = .error fault) :
    (∃ missing, fault = .taskNotFound missing) ∨ (∃ path, fault = .cyclic path) ∨
      (∃ task limit, fault = .tooDeep task limit) ∨ fault.IsExternal := by
  rcases refusedCall_of_fault formed idle declared failed with
    deep | external | ⟨calls, owner, command, rest, s, target, -, -, refused⟩
  · exact .inr (.inr (.inl ⟨name, 0, deep⟩))
  · exact .inr (.inr (.inr external))
  · rcases refusal?_eq_some refused with ⟨same, -⟩ | ⟨same, -⟩ | ⟨same, -⟩
    · exact .inl ⟨target, same⟩
    · exact .inr (.inl ⟨_, same⟩)
    · exact .inr (.inr (.inl ⟨target, _, same⟩))

/-- A call that is refused because there is no such task is marked. -/
theorem Moment.isMarked_of_notFound (h : Moment spawn r name calls owner (command :: rest) s)
    (formed : r.script.WellFormed) {target : String}
    (ready : s.action? owner command = some (.tsk target))
    (unknown : target ∉ s.script.taskNames) :
    IsMarked ⟨s.stack, owner, command, .tsk target⟩ := by
  obtain ⟨-, arg, head, -⟩ := arg_of_action? ready
  refine ⟨arg, head, hasMark_of_not_isLiteral fun literal => unknown ?_⟩
  have names : command.Names target := by
    refine names_of_action? ready fun other same => ?_
    rwa [← Option.some.inj (head.symm.trans same)]
  obtain ⟨task, mem, -, memc⟩ := h.command_mem
  rw [h.keeps.script]
  exact formed.declared task mem command memc target names

/-- Of the calls around a circle at least one is marked. -/
theorem Moment.isMarked_of_running (h : Moment spawn r name calls owner (command :: rest) s)
    (accepted : r.script.fault? = none) (idle : r.stack = []) {target : String}
    (ready : s.action? owner command = some (.tsk target)) (running : target ∈ s.stack) :
    ∃ outer inner, s.stack.reverse ++ [target] = outer ++ target :: (inner ++ [target]) ∧
      ∃ call ∈ (⟨s.stack, owner, command, .tsk target⟩ :: calls).reverse.drop outer.length,
        IsMarked call := by
  have formed := Script.wellFormed_of_fault?_eq_none accepted
  have along := h.callsAlong idle ready
  obtain ⟨outer, inner, split⟩ := List.append_of_mem (List.mem_reverse.2 running)
  rw [split] at along ⊢
  refine ⟨outer, inner, List.append_assoc _ _ _, ?_⟩
  refine Classical.byContradiction fun unmarked => ?_
  -- otherwise all calls from the first occurrence on follow references, which then form a circle
  have circle : TransGen r.script.LeadsTo target target := by
    have owners := congrArg (List.drop outer.length) along.owners
    rw [← List.map_drop, List.dropLast_concat, List.drop_left] at owners
    have targets := congrArg (List.drop outer.length) along.targets
    have tail : (outer ++ target :: inner ++ [target]).tail.drop outer.length =
        inner ++ [target] := by
      cases outer <;> simp
    rw [← List.map_drop, ← List.map_drop, tail] at targets
    refine transGen_of_calls owners targets ?_
    intro call mem callee action
    have literal : ∀ arg, call.command.args.head? = some arg → IsLiteral arg := by
      intro arg head
      refine Classical.not_not.1 fun dynamic => unmarked ?_
      exact ⟨call, mem, arg, head, hasMark_of_not_isLiteral dynamic⟩
    rcases List.mem_cons.1 (List.mem_reverse.1 (List.mem_of_mem_drop mem)) with rfl | mem
    · obtain rfl := Action.tsk.inj action
      exact h.leadsTo (names_of_action? ready literal)
    · obtain ⟨earlier, after, t, other, moment, ready', action', -⟩ := h.called mem
      obtain rfl := Action.tsk.inj (action.symm.trans action')
      exact moment.leadsTo (names_of_action? ready' literal)
  have acyclic := Script.isAcyclic_of_fault?_eq_none accepted
  exact formed.isAcyclic_iff.1 acyclic target circle

/-- A run that fails because there is no such task ends with a marked call. -/
theorem isMarked_of_taskNotFound (formed : r.script.WellFormed) (idle : r.stack = [])
    (declared : name ∈ r.script.taskNames) {missing : String}
    (failed : r.executeTask spawn name = (.error (.taskNotFound missing), s)) :
    ∃ call new, s.journal = call :: new ++ r.journal ∧ call.action = .tsk missing ∧
      IsCallIn r.script call ∧ IsMarked call := by
  rcases refusedCall_of_fault formed idle declared (congrArg Prod.fst failed) with
    deep | external | ⟨calls, owner, command, rest, t, target, h, ready, refused⟩
  · exact nomatch deep
  · exact absurd external id
  · rcases refusal?_eq_some refused with ⟨same, unknown⟩ | ⟨same, -⟩ | ⟨same, -⟩
    · obtain rfl := RunFault.taskNotFound.inj same
      obtain ⟨u, new, ends, journal, -⟩ := h.executeTask_refusedCall ready refused
      obtain rfl : u = s := congrArg Prod.snd (ends.symm.trans failed)
      exact ⟨_, new, journal, rfl, h.isCallIn ready, h.isMarked_of_notFound formed ready unknown⟩
    · exact nomatch same
    · exact nomatch same

/-- A run that fails because a task is already running ends with calls along the reported path, of
which one around the circle is marked. -/
theorem isMarked_of_cyclic (accepted : r.script.fault? = none) (idle : r.stack = [])
    (declared : name ∈ r.script.taskNames) {path : List String}
    (failed : r.executeTask spawn name = (.error (.cyclic path), s)) :
    ∃ outer target inner taken new, path = outer ++ target :: (inner ++ [target]) ∧
      path.dropLast.Nodup ∧ CallsAlong r.script path taken ∧
        s.journal = new ++ r.journal ∧ taken.reverse.Sublist new ∧
          ∃ call ∈ taken.drop outer.length, IsMarked call := by
  have formed := Script.wellFormed_of_fault?_eq_none accepted
  rcases refusedCall_of_fault formed idle declared (congrArg Prod.fst failed) with
    deep | external | ⟨calls, owner, command, rest, t, target, h, ready, refused⟩
  · exact nomatch deep
  · exact absurd external id
  · rcases refusal?_eq_some refused with ⟨same, -⟩ | ⟨same, running⟩ | ⟨same, -⟩
    · exact nomatch same
    · obtain rfl := RunFault.cyclic.inj same
      obtain ⟨u, new, ends, journal, under⟩ := h.executeTask_refusedCall ready refused
      obtain rfl : u = s := congrArg Prod.snd (ends.symm.trans failed)
      obtain ⟨outer, inner, split, marked⟩ := h.isMarked_of_running accepted idle ready running
      refine ⟨outer, target, inner, _, _, split, ?_, h.callsAlong idle ready, journal, ?_, marked⟩
      · rw [List.dropLast_concat, List.nodup_reverse]
        exact h.nodup (idle ▸ List.nodup_nil)
      · rw [List.reverse_reverse]
        exact under.cons_cons _
    · exact nomatch same

/-- With literal calls only and room for all tasks, a run fails for reasons outside the script. -/
theorem isExternal_of_callsLiterally (accepted : r.script.fault? = none) (idle : r.stack = [])
    (declared : name ∈ r.script.taskNames) (literal : r.script.CallsLiterally)
    (deep : r.script.tasks.length ≤ r.settings.maxDepth)
    (failed : (r.executeTask spawn name).1 = .error fault) : fault.IsExternal := by
  have formed := Script.wellFormed_of_fault?_eq_none accepted
  rcases executeTask_error_iff.1 failed with refused | ⟨calls, owner, command, rest, t, h, own⟩
  · have trail : r.script.IsTrail r.stack name := by
      rw [idle]
      exact Script.isTrail_nil name
    rw [refusal?_of_trail trail declared deep, idle, if_neg List.not_mem_nil] at refused
    exact nomatch refused
  · rcases ownFault?_cases (h.fits formed) own with ⟨target, ready, refused⟩ | external
    · rw [h.not_refused accepted idle literal deep ready] at refused
      exact nomatch refused
    · exact external

/-- What a run of an accepted script can fail with.  No command is unknown or lacks arguments.  A
task that is missing is named by a marked call, and a circle has a marked call in it.  If there are
no marked calls and there is room for all tasks, only reasons outside the script are left. -/
theorem soundness (spawn : Spawn) (r : Runner) (name : String)
    (accepted : r.script.fault? = none) (idle : r.stack = [])
    (declared : name ∈ r.script.taskNames) (failed : r.executeTask spawn name = (.error fault, s)) :
    (∀ keyword, fault ≠ .unknownCommand keyword) ∧
      (∀ owner keyword expected found,
        fault ≠ .internal owner (.missingArguments keyword expected found)) ∧
      (∀ missing, fault = .taskNotFound missing →
        ∃ call new, s.journal = call :: new ++ r.journal ∧ call.action = .tsk missing ∧
          IsCallIn r.script call ∧ IsMarked call) ∧
      (∀ path, fault = .cyclic path →
        ∃ outer target inner taken new, path = outer ++ target :: (inner ++ [target]) ∧
          path.dropLast.Nodup ∧ CallsAlong r.script path taken ∧
            s.journal = new ++ r.journal ∧ taken.reverse.Sublist new ∧
              ∃ call ∈ taken.drop outer.length, IsMarked call) ∧
      (r.script.CallsLiterally → r.script.tasks.length ≤ r.settings.maxDepth →
        fault.IsExternal) := by
  have formed := Script.wellFormed_of_fault?_eq_none accepted
  have outcome : (r.executeTask spawn name).1 = .error fault := congrArg Prod.fst failed
  have forms := fault_cases formed idle declared outcome
  refine ⟨?_, ?_, ?_, ?_, ?_⟩
  · intro keyword unknown
    simp [unknown, RunFault.IsExternal] at forms
  · intro owner keyword expected found missing
    simp [missing, RunFault.IsExternal] at forms
  · rintro missing rfl
    exact isMarked_of_taskNotFound formed idle declared failed
  · rintro path rfl
    exact isMarked_of_cyclic accepted idle declared failed
  · intro literal deep
    exact isExternal_of_callsLiterally accepted idle declared literal deep outcome

/-! ## Two runs that fail -/

/-- A task that calls itself through a variable. -/
def roundabout : Script :=
  ⟨[⟨"next", "greet"⟩], [⟨"greet", [⟨"ech", ["hello"], 2⟩, ⟨"tsk", ["$next"], 3⟩], 1⟩]⟩

/-- A task that starts a child in another one. -/
def errand : Script :=
  ⟨[], [⟨"main", [⟨"tsk", ["sub"], 2⟩], 1⟩, ⟨"sub", [⟨"run", ["true"], 4⟩], 3⟩]⟩

/-- The circle of the first script has a marked call in it, and the second script fails for a reason
outside. -/
theorem soundness_of_failures :
    (roundabout.fault? = none ∧
      ((fresh roundabout).executeTask noChild "greet").1 = .error (.cyclic ["greet", "greet"]) ∧
      ∃ outer target inner taken new,
        ["greet", "greet"] = outer ++ target :: (inner ++ [target]) ∧
          ["greet", "greet"].dropLast.Nodup ∧ CallsAlong roundabout ["greet", "greet"] taken ∧
            ((fresh roundabout).executeTask noChild "greet").2.journal =
              new ++ (fresh roundabout).journal ∧ taken.reverse.Sublist new ∧
                ∃ call ∈ taken.drop outer.length, IsMarked call) ∧
      errand.fault? = none ∧ errand.CallsLiterally ∧
      ((fresh errand).executeTask noChild "main").1 =
        .error (.notStarted "true" (.refused .notFound)) ∧
      (RunFault.notStarted "true" (.refused .notFound)).IsExternal := by
  have accepted : roundabout.fault? = none := by decide +kernel
  have again : ((fresh roundabout).executeTask noChild "greet").1 =
      .error (.cyclic ["greet", "greet"]) := by
    rfl
  have circle := soundness noChild (fresh roundabout) "greet" accepted rfl (by decide)
    (Prod.ext again rfl)
  have accepted' : errand.fault? = none := by decide +kernel
  have literal : errand.CallsLiterally := by
    unfold Script.CallsLiterally errand IsLiteral
    decide
  have refused : ((fresh errand).executeTask noChild "main").1 =
      .error (.notStarted "true" (.refused .notFound)) := by
    rfl
  have child := soundness noChild (fresh errand) "main" accepted' rfl (by decide)
    (Prod.ext refused rfl)
  exact ⟨⟨accepted, again, circle.2.2.2.1 _ rfl⟩, accepted', literal, refused,
    child.2.2.2.2 literal (by decide)⟩

end Runner
end TaskScript
