import TaskScript.Proofs.Run.Stage

/-!
# Operation — what the holder of a run asks of it

Between the tasks and commands that it has carried out, the holder of a run may assign variables,
register arguments, enter and leave tasks, print diagnostics and look at the state.

- `Operation`          : what is asked for
- `Answer`             : what is given back
- `Runner.operateAll`  : operations one after the other
- `Operation.focus?`   : the operations that carry something out, and what
- `Runner.stageAt`         : the stages that these come by
- `Runner.reaches_operate` : they end as the steps do
-/

namespace TaskScript

open Runner (Focus)

/-- What is asked of a run. -/
inductive Operation
  | setVar (name value : String)
  | setTaskArgs (task : String) (args : List String)
  | setNamedArgs (args : Bindings String)
  | pushTask (task : String)
  | popTask
  | print (level : Level) (message : String)
  | executeTask (name : String)
  | executeCommand (owner : String) (command : Command)
  /-- The value of a runtime variable. -/
  | getVar (name : String)
  /-- A text as seen from a task. -/
  | resolve (task text : String)
  | currentTask
  | isRunning (task : String)

/-- What is given back. -/
inductive Answer
  | done
  | value (value : Option String)
  | text (text : String)
  | verdict (verdict : Bool)
  | outcome (outcome : Outcome)

namespace Operation

/-- What an operation carries out, if anything. -/
def focus? : Operation → Option Focus
  | executeTask name => some (.task name)
  | executeCommand owner command => some (.command owner command)
  | _ => none

end Operation

namespace Runner

/-- Carry out an operation. -/
def operate (spawn : Spawn) (r : Runner) : Operation → Answer × Runner
  | .setVar name value => (.done, r.setVar name value)
  | .setTaskArgs task args => (.done, r.setTaskArgs task args)
  | .setNamedArgs args => (.done, r.setNamedArgs args)
  | .pushTask task => (.done, r.pushTask task)
  | .popTask => (.value r.currentTask?, r.popTask)
  | .print level message => (.done, r.note level message)
  | .executeTask name =>
    let (outcome, s) := r.executeTask spawn name
    (.outcome outcome, s)
  | .executeCommand owner command =>
    let (outcome, s) := r.executeCommand spawn owner command
    (.outcome outcome, s)
  | .getVar name => (.value (r.runtime.get? name), r)
  | .resolve task text => (.text (r.resolve task text), r)
  | .currentTask => (.value r.currentTask?, r)
  | .isRunning task => (.verdict (r.stack.contains task), r)

/-- Carry out operations in order. -/
def operateAll (spawn : Spawn) : List Operation → Runner → List Answer × Runner
  | [], r => ([], r)
  | op :: ops, r =>
    let (answer, s) := r.operate spawn op
    let (answers, t) := operateAll spawn ops s
    (answer :: answers, t)

variable {spawn : Spawn} {r s : Runner} {op : Operation} {ops : List Operation} {focus : Focus}

theorem operateAll_cons (spawn : Spawn) (op : Operation) (ops : List Operation) (r : Runner) :
    operateAll spawn (op :: ops) r =
      ((r.operate spawn op).1 :: (operateAll spawn ops (r.operate spawn op).2).1,
        (operateAll spawn ops (r.operate spawn op).2).2) := rfl

/-! ## What stays as it is -/

/-- The parts of a state that nothing that is asked of a run changes. -/
structure Framed (r s : Runner) : Prop where
  script : s.script = r.script
  settings : s.settings = r.settings
  console : Console.Keeps r.console s.console

theorem Framed.of_keeps (h : Keeps r s) : Framed r s :=
  ⟨h.script, h.settings, h.console⟩

theorem Framed.trans {t : Runner} (h : Framed r s) (h' : Framed s t) : Framed r t :=
  ⟨h'.script.trans h.script, h'.settings.trans h.settings, h.console.trans h'.console⟩

theorem framed_operate (spawn : Spawn) (r : Runner) (op : Operation) :
    Framed r (r.operate spawn op).2 := by
  cases op with
  | executeTask name => exact .of_keeps (executeTask_keeps spawn name r)
  | executeCommand owner command => exact .of_keeps (executeCommand_keeps spawn owner command r)
  | print level message => exact .of_keeps (Keeps.note r level message)
  | _ => exact ⟨rfl, rfl, .refl _⟩

theorem framed_operateAll (spawn : Spawn) (ops : List Operation) (r : Runner) :
    Framed r (operateAll spawn ops r).2 := by
  induction ops generalizing r with
  | nil => exact ⟨rfl, rfl, .refl _⟩
  | cons op ops ih => exact (framed_operate spawn r op).trans (ih _)

/-! ## Operations and steps -/

/-- The stage that a run has come to after some steps. -/
def stageAt (spawn : Spawn) (focus : Focus) (r : Runner) (n : Nat) : Stage :=
  (advance spawn)^[n] (begin focus r)

/-- A run that has ended goes no further. -/
theorem iterate_finish (spawn : Spawn) (done : Outcome × Runner) (n : Nat) :
    (advance spawn)^[n] (finish [] done) = finish [] done :=
  Function.iterate_fixed rfl n

/-- The steps of a run end with the result, whatever comes to an end. -/
theorem iterate_of_reaches {a : Stage} {done : Outcome × Runner}
    (h : Reaches spawn a (finish [] done)) :
    ∃ n, ∀ m, n ≤ m → (advance spawn)^[m] a = finish [] done := by
  obtain ⟨n, ends⟩ := h
  refine ⟨n, fun m le => ?_⟩
  obtain ⟨k, rfl⟩ := Nat.exists_eq_add_of_le' le
  rw [Function.iterate_add_apply, ends, iterate_finish]

/-- A run comes to one end. -/
theorem finish_unique {a : Stage} {done done' : Outcome × Runner}
    (ends : Reaches spawn a (finish [] done)) (ends' : Reaches spawn a (finish [] done')) :
    done = done' := by
  obtain ⟨n, stays⟩ := iterate_of_reaches ends
  obtain ⟨n', stays'⟩ := iterate_of_reaches ends'
  have same := (stays _ (Nat.le_add_right n n')).symm.trans (stays' _ (Nat.le_add_left n' n))
  obtain ⟨outcome, r⟩ := done
  obtain ⟨outcome', s⟩ := done'
  cases same
  rfl

/-- Whatever awaits a failure fails likewise, and only the task stack is still changed. -/
theorem reaches_of_error (spawn : Spawn) (fault : RunFault) (waiting : List Frame) (r : Runner) :
    ∃ stack, Reaches spawn ⟨.ended (.error fault), waiting, r⟩
      (finish [] (.error fault, { r with stack })) := by
  induction waiting generalizing r with
  | nil => exact ⟨r.stack, .refl _⟩
  | cons frame waiting ih =>
    cases frame with
    | body owner rest =>
      obtain ⟨stack, ends⟩ := ih r.popTask
      exact ⟨stack, .head ends⟩
    | call target =>
      obtain ⟨stack, ends⟩ := ih r
      exact ⟨stack, .head ends⟩

/-- An operation that carries something out gives back the outcome that the steps end with. -/
theorem reaches_operate (spawn : Spawn) (r : Runner) (isFocus : op.focus? = some focus) :
    ∃ outcome s, r.operate spawn op = (.outcome outcome, s) ∧
      Reaches spawn (begin focus r) (finish [] (outcome, s)) := by
  cases op with
  | executeTask name =>
    obtain rfl := Option.some.inj isFocus
    exact ⟨_, _, rfl, reaches_executeTask spawn name [] r⟩
  | executeCommand owner command =>
    obtain rfl := Option.some.inj isFocus
    exact ⟨_, _, rfl, reaches_executeCommand spawn owner command [] r⟩
  | _ => cases isFocus

/-- An operation fails with whatever fails on the way. -/
theorem operate_of_error {n : Nat} {fault : RunFault} (isFocus : op.focus? = some focus)
    (failed : (stageAt spawn focus r n).focus = .ended (.error fault)) :
    (r.operate spawn op).1 = .outcome (.error fault) := by
  obtain ⟨outcome, s, answer, ends⟩ := reaches_operate spawn r isFocus
  have onTheWay : Reaches spawn (begin focus r) (stageAt spawn focus r n) := ⟨n, rfl⟩
  generalize stageAt spawn focus r n = a at failed onTheWay
  obtain ⟨focus', waiting, s'⟩ := a
  obtain rfl : focus' = .ended (.error fault) := failed
  obtain ⟨stack, ends'⟩ := reaches_of_error spawn fault waiting s'
  have same := finish_unique ends (onTheWay.trans ends')
  rw [answer]
  exact congrArg Answer.outcome (Prod.ext_iff.1 same).1

end Runner
end TaskScript
