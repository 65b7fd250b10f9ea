import TaskScript.Proofs.Run.Move

/-!
# Output — that what has been written stays

Whatever is written to a sink is noted at the end of what was written before.  So it is with the
console and the run: at each stage, what has been written is a prefix of what it is in the end.

- `Console.Extends`            : a console to which more may have been written
- `Runner.sustained_extends`   : every step of a run writes at the end
- `Runner.extends_of_stageAt`  : what a stage has written is a prefix of what the run has in the end
-/

namespace TaskScript

/-! ## Consoles -/

theorem Sink.prefix_record (sink : Sink) (piece : Piece) (refusal? : Option Refusal) :
    sink.log <+: (sink.record piece refusal?).log :=
  List.prefix_append _ _

namespace Console

/-- Consoles of which the second has been written to since the first. -/
structure Extends (first second : Console) : Prop where
  out : first.out.log <+: second.out.log
  err : first.err.log <+: second.err.log

namespace Extends

variable {first second third : Console}

theorem refl (console : Console) : Extends console console :=
  ⟨List.prefix_rfl, List.prefix_rfl⟩

theorem trans (h : Extends first second) (h' : Extends second third) : Extends first third :=
  ⟨h.out.trans h'.out, h.err.trans h'.err⟩

theorem print (console : Console) (piece : Piece) : Extends console (console.print piece).2 :=
  ⟨Sink.prefix_record _ _ _, List.prefix_rfl⟩

theorem complain (console : Console) (piece : Piece) : Extends console (console.complain piece).2 :=
  ⟨List.prefix_rfl, Sink.prefix_record _ _ _⟩

theorem diagnose (console : Console) (verbosity : Verbosity) (level : Level) (message : String) :
    Extends console (console.diagnose verbosity level message) := by
  unfold Console.diagnose
  split
  · exact complain console _
  · exact refl console

theorem forward (console : Console) (out err : ByteArray) :
    Extends console (console.forward out err).2 := by
  have printed := print console (.child out)
  unfold Console.forward
  -- if the errors are refused, the output has been passed on nonetheless
  split
  · next found => rwa [found] at printed
  · next found =>
    rw [found] at printed
    exact printed.trans (complain _ _)

theorem hear (console : Console) (out err : ByteArray) :
    Extends console (console.hear out err).2 := by
  unfold Console.hear
  split
  · exact forward console out err
  · exact ⟨Sink.prefix_record _ _ _, Sink.prefix_record _ _ _⟩

end Extends
end Console

namespace Runner

variable {spawn : Spawn} {r s : Runner}

/-! ## Runs -/

/-- States of which the second has been written to since the first. -/
def Extends (r s : Runner) : Prop :=
  r.console.Extends s.console

namespace Extends

theorem note (r : Runner) (level : Level) (message : String) : Extends r (r.note level message) :=
  .diagnose r.console _ _ _

theorem judgeStatus (r : Runner) (child : String) (status : ExitStatus) :
    Extends r (r.judgeStatus child status).2 := by
  unfold Runner.judgeStatus
  split
  · exact .refl r.console
  · split
    · exact .refl r.console
    · exact note r _ _

theorem receive (r : Runner) (child : String) (reply : ChildReply) :
    Extends r (r.receive child reply).2 := by
  have passed := Console.Extends.hear r.console reply.out reply.err
  unfold Runner.receive
  split
  · next found =>
    rw [found] at passed
    exact passed
  · next console found =>
    rw [found] at passed
    exact passed.trans (judgeStatus { r with console } child reply.status)

theorem runChild (r : Runner) (child : String) : Extends r (r.runChild spawn child).2 := by
  have noted := note r .run child
  rw [runChild_eq]
  cases r.startChild spawn child with
  | error cause => exact noted
  | ok reply =>
    have received := receive { r.note .run child with store := reply.store } child reply
    exact noted.trans received

theorem deleteFile (r : Runner) (path : String) : Extends r (r.deleteFile path).2 := by
  unfold Runner.deleteFile
  dsimp only
  split
  · next store _ => exact note { r with store } _ _
  · exact note r _ _
  · exact .refl r.console

theorem echo (r : Runner) (line : String) : Extends r (r.echo line).2 := by
  rw [echo_snd]
  exact .print r.console _

theorem perform (r : Runner) (invoke : Invoke) {action : Action} (noCall : action.kind ≠ .tsk) :
    Extends r (r.perform spawn invoke action).2 := by
  cases action with
  | run child => exact runChild r child
  | del path => exact deleteFile r path
  | ech line => exact echo r line
  | tsk target => exact absurd rfl noCall
  | var name value => exact note r _ _

end Extends

/-- Every step of a run writes at the end of what has been written. -/
theorem sustained_extends (spawn : Spawn) : Sustained spawn Extends where
  refl r := .refl r.console
  trans h h' := Console.Extends.trans h h'
  note := Extends.note
  dispatch r _ _ _ := .refl r.console
  perform := Extends.perform
  nest h := h

/-- The stage after some more steps. -/
theorem stageAt_add (spawn : Spawn) (focus : Focus) (r : Runner) (n m : Nat) :
    stageAt spawn focus r (n + m) = (advance spawn)^[m] (stageAt spawn focus r n) := by
  rw [Nat.add_comm]
  exact Function.iterate_add_apply _ m n _

/-- A run that comes to an end leads there from each of its stages. -/
theorem reaches_of_stageAt {focus : Focus} {done : Outcome × Runner}
    (ends : Reaches spawn (begin focus r) (finish [] done)) (n : Nat) :
    Reaches spawn (stageAt spawn focus r n) (finish [] done) := by
  -- a run that has ended stays as it is, so that it may be followed for longer
  rcases iterate_of_reaches ends with ⟨last, stays⟩
  refine ⟨last, ?_⟩
  rw [← stageAt_add]
  exact stays (n + last) (Nat.le_add_left last n)

/-- At each stage, what has been written is a prefix of what has been written in the end. -/
theorem extends_of_stageAt {focus : Focus} {done : Outcome × Runner}
    (ends : Reaches spawn (begin focus r) (finish [] done)) (n : Nat) :
    Extends (stageAt spawn focus r n).runner done.2 := by
  rcases reaches_of_stageAt ends n with ⟨m, last⟩
  have along := (sustained_extends spawn).iterate (fun r _ => .refl r.console)
    (fun r => .refl r.console) (stageAt spawn focus r n) m
  rw [last] at along
  exact along

end Runner
end TaskScript
