import TaskScript.Proofs.Run.Errors
import TaskScript.Proofs.Run.Move

/-!
# Diagnostics — that they do not influence a run

Diagnostics share a sink with the errors of child processes, and it tells if these are refused.  So it
matters whether the sink answers with regard to the diagnostics that came before: if it does not, runs
at two verbosities differ in the diagnostics alone.

- `Piece.isShownAt`          : what is written at a verbosity
- `Sink.muffles_shown`       : a lower verbosity leaves out diagnostics, and nothing else
- `Runner.verbosity_unseen`  : runs at two verbosities differ in this alone
- `Sink.Refuses`, `Sink.muffles_deaf` : diagnostics may be refused
- `Runner.advance_of_loud`   : the errors of a child process may not
- `Runner.diagnostics_unseen` : both together
- `Runner.diagnostics_seen`  : a sink that diagnostics can fill
-/

namespace TaskScript

/-! ## What is left out -/

/-- Whether a piece is written at a verbosity: all but diagnostics are written at every one. -/
def Piece.isShownAt (verbosity : Verbosity) : Piece → Bool
  | .diagnostic level _ _ => level.shownAt verbosity
  | _ => true

theorem Piece.isShownAt_of_solid {piece : Piece} (solid : piece.isDiagnostic = false)
    (verbosity : Verbosity) : piece.isShownAt verbosity = true := by
  cases piece with
  | diagnostic level styled message => cases solid
  | text content => rfl
  | child output => rfl

theorem Level.shownAt_mono {level : Level} {low high : Verbosity} (le : low.rank ≤ high.rank)
    (shown : level.shownAt low = true) : level.shownAt high = true := by
  simp only [shownAt, decide_eq_true_eq] at shown ⊢
  exact Nat.le_trans shown le

namespace Sink

/-- What is left out at a verbosity is nothing but diagnostics. -/
theorem solid_filter_isShownAt (verbosity : Verbosity) (log : List Writing) :
    solid (log.filter (·.piece.isShownAt verbosity)) = solid log := by
  unfold solid
  rw [List.filter_filter]
  refine List.filter_congr fun writing _ => ?_
  cases kind : writing.piece.isDiagnostic with
  | true => rfl
  | false => rw [Piece.isShownAt_of_solid kind]; rfl

/-- A sink that answers without regard to diagnostics, and one like it that has been written the same
since, but for the diagnostics that are not shown. -/
structure Thinned (low : Verbosity) (before : List Writing) (first second : Sink) : Prop where
  ignores : first.IgnoresDiagnostics
  answer : second.answer = first.answer
  log : ∃ new, first.log = before ++ new ∧
    second.log = before ++ new.filter (·.piece.isShownAt low)

namespace Thinned

variable {low high : Verbosity} {before : List Writing} {first second : Sink} {piece : Piece}

theorem refl (low : Verbosity) {sink : Sink} (ignores : sink.IgnoresDiagnostics) :
    Thinned low sink.log sink sink :=
  ⟨ignores, rfl, [], by simp⟩

theorem agree (h : Thinned low before first second) : Agree first second := by
  obtain ⟨ignores, answer, new, whole, shown⟩ := h
  refine ⟨ignores, answer, ?_⟩
  rw [whole, shown, solid, solid, List.filter_append, List.filter_append]
  exact congrArg (List.filter _ before ++ ·) (solid_filter_isShownAt low new)

/-- The same piece with the same answer is written to both. -/
theorem record (h : Thinned low before first second) (shown : piece.isShownAt low = true)
    (refusal? : Option Refusal) :
    Thinned low before (first.record piece refusal?) (second.record piece refusal?) := by
  obtain ⟨ignores, answer, new, whole, left⟩ := h
  refine ⟨ignores, answer, new ++ [⟨piece, refusal?⟩], ?_, ?_⟩
  · rw [Sink.record, whole, List.append_assoc]
  · rw [Sink.record, left, List.filter_append, List.append_assoc]
    simp only [List.filter_cons, List.filter_nil, shown, if_true]

/-- A piece that is not shown is written to the first. -/
theorem record_left (h : Thinned low before first second) (hidden : piece.isShownAt low = false)
    (refusal? : Option Refusal) : Thinned low before (first.record piece refusal?) second := by
  obtain ⟨ignores, answer, new, whole, left⟩ := h
  refine ⟨ignores, answer, new ++ [⟨piece, refusal?⟩], ?_, ?_⟩
  · rw [Sink.record, whole, List.append_assoc]
  · rw [left, List.filter_append]
    simp [hidden]

theorem write (h : Thinned low before first second) (shown : piece.isShownAt low = true) :
    Thinned low before (first.write piece).2 (second.write piece).2 := by
  unfold Sink.write
  rw [h.agree.answer_log]
  exact h.record shown _

theorem note (le : low.rank ≤ high.rank) (h : Thinned low before first second) (level : Level)
    (styled : Bool) (message : String) :
    Thinned low before (first.note high level styled message)
      (second.note low level styled message) := by
  -- what is shown at the lower verbosity is shown at the higher one
  cases shown : level.shownAt low with
  | true =>
    rw [note_of_shown (Level.shownAt_mono le shown), note_of_shown shown]
    exact h.write shown
  | false =>
    rw [note_of_hidden shown]
    cases shown' : level.shownAt high with
    | true =>
      have hidden : Piece.isShownAt low (.diagnostic level styled message) = false := shown
      rw [note_of_shown shown']
      exact h.record_left hidden _
    | false =>
      rw [note_of_hidden shown']
      exact h

end Thinned

/-- A lower verbosity leaves out diagnostics, and nothing else. -/
theorem muffles_shown {low high : Verbosity} (le : low.rank ≤ high.rank) (before : List Writing) :
    Muffles high low (fun _ => True) (Thinned low before) where
  note h level styled message := h.note le level styled message
  told h err _ := by
    unfold write
    rw [h.agree.answer_log]
  left h _ _ := h.write rfl
  shared h err := h.record rfl none

/-- Every write to the sink fails; what is empty is no write. -/
structure Refuses (sink : Sink) : Prop where
  empty : ∀ log piece, piece.bytes.isEmpty = true → sink.answer log piece = none
  nonempty : ∀ log piece, piece.bytes.isEmpty = false →
    ∃ refusal, sink.answer log piece = some refusal

/-- Diagnostics may be refused, as long as children that are captured are silent. -/
theorem muffles_deaf (verbosity : Verbosity) :
    Muffles verbosity verbosity (fun err => err.isEmpty = true)
      (fun first second => first.Takes ∧ second.Refuses) where
  note := by
    rintro first second ⟨takes, ⟨empty, nonempty⟩⟩ level styled message
    constructor
    · unfold Takes
      rwa [answer_note]
    · constructor <;> rwa [answer_note]
  told := by
    rintro first second ⟨takes, refuses⟩ err silent
    unfold write
    rw [takes, refuses.empty _ (.child err) silent]
  left := by
    rintro first second ⟨takes, ⟨empty, nonempty⟩⟩ err -
    exact ⟨takes, ⟨empty, nonempty⟩⟩
  shared := by
    rintro first second ⟨takes, ⟨empty, nonempty⟩⟩ err
    exact ⟨takes, ⟨empty, nonempty⟩⟩

end Sink

namespace Runner

variable {spawn : Spawn} {r s : Runner} {a : Stage} {waiting : List Frame}

/-! ## Verbosity -/

/-- The same state at another verbosity. -/
def withVerbosity (r : Runner) (verbosity : Verbosity) : Runner :=
  { r with settings := { r.settings with verbosity } }

/-- A run at a lower verbosity differs in the diagnostics that are not shown. -/
theorem operateAll_lower {low high : Verbosity} (le : low.rank ≤ high.rank) (spawn : Spawn)
    (ops : List Operation) (ignores : r.console.err.IgnoresDiagnostics) :
    SameUpTo (Muffled high low (Sink.Thinned low r.console.err.log))
      (operateAll spawn ops (r.withVerbosity high)) (operateAll spawn ops (r.withVerbosity low)) := by
  have muffles := Sink.muffles_shown le r.console.err.log
  have start : Muffled high low (Sink.Thinned low r.console.err.log) (r.withVerbosity high)
      (r.withVerbosity low) :=
    .intro (r.withVerbosity high) r.console.err rfl (.refl low ignores)
  exact (indistinct_muffled spawn muffles).operateAll ops start
    (calmThrough_of_forall (fun _ _ _ _ _ _ _ _ _ => trivial) spawn ops _)

/-! ## A sink that refuses -/

/-- The same state with another sink for errors. -/
def withSink (r : Runner) (err : Sink) : Runner :=
  { r with console := { r.console with err } }

/-- The same stage with another sink for errors. -/
def Stage.withSink (a : Stage) (err : Sink) : Stage :=
  { a with runner := a.runner.withSink err }

/-- The child process that is started next, if any, writes nothing to the errors. -/
def Silent (spawn : Spawn) : Focus → Runner → Prop :=
  Hears spawn fun err => err.isEmpty = true

/-- States of which one has a sink for errors that takes everything, and the other one that refuses
everything. -/
def Deafened (verbosity : Verbosity) : Runner → Runner → Prop :=
  Muffled verbosity verbosity fun first second => first.Takes ∧ second.Refuses

theorem deafened_withSink {deaf : Sink} (takes : r.console.err.Takes) (refuses : deaf.Refuses) :
    Deafened r.settings.verbosity r (r.withSink deaf) :=
  .intro r deaf rfl ⟨takes, refuses⟩

theorem Deafened.eq_withSink {verbosity : Verbosity} (h : Deafened verbosity r s) :
    s = r.withSink s.console.err := by
  obtain ⟨err, rfl, -, -⟩ := h
  rfl

theorem Deafened.refuses {verbosity : Verbosity} (h : Deafened verbosity r s) :
    s.console.err.Refuses := by
  obtain ⟨err, -, -, refuses⟩ := h
  exact refuses

theorem indistinct_deafened (spawn : Spawn) (verbosity : Verbosity) :
    Indistinct spawn (Silent spawn) (Deafened verbosity) :=
  indistinct_muffled spawn (Sink.muffles_deaf verbosity)

/-- Errors of a child process that cannot be written are a reason to fail. -/
theorem receive_of_refuses {reply : ChildReply} (captured : r.console.captures = true)
    (refuses : r.console.err.Refuses) (some_ : reply.err.isEmpty = false) (child : String) :
    ∃ lost, (r.receive child reply).1 = .error (r.writeFault lost) := by
  have fails : ∃ lost, (r.console.hear reply.out reply.err).1 = some lost := by
    rw [Console.hear_of_captured captured]
    unfold Console.forward
    -- the output may be refused already
    split
    · next cause console printed => exact ⟨cause, rfl⟩
    · next console printed =>
      -- to print concerns the other sink
      have same : console.err = r.console.err :=
        congrArg (fun written => written.2.err) printed.symm
      obtain ⟨refusal, refused⟩ := refuses.nonempty console.err.log (.child reply.err) some_
      refine ⟨refusal.cause, ?_⟩
      rw [← same] at refused
      simp only [Console.complain, Sink.write, refused, Option.map_some]
  obtain ⟨lost, failed⟩ := fails
  unfold receive
  split
  · exact ⟨_, rfl⟩
  · next taken =>
    rw [taken] at failed
    cases failed

/-- A command that starts a child process which writes to the errors fails if they are refused. -/
theorem advance_of_loud (captured : a.runner.console.captures = true)
    (refuses : a.runner.console.err.Refuses) (loud : ¬ Silent spawn a.focus a.runner) :
    ∃ lost, (advance spawn a).focus =
      .ended (.error (.internal (a.runner.currentTask?.getD "") (.outputLost lost))) := by
  obtain ⟨focus, waiting, r⟩ := a
  simp only [Silent, Hears, not_forall, Bool.not_eq_true] at loud
  obtain ⟨owner, command, child, reply, rfl, ready, started, some_⟩ := loud
  have noCall : ∀ target, r.action? owner command ≠ some (.tsk target) := by
    simp [ready]
  have begun : (r.prepared owner command (.run child)).startChild spawn child = .ok reply := by
    rw [startChild_prepared, started]
  -- what is said before the outputs are heard does not change how the sink answers
  have kept := (Keeps.prepared r owner command .run (.run child)).trans (Keeps.note _ .run child)
  have captured' : ((r.prepared owner command (.run child)).note .run child).console.captures =
      true := kept.console.captures.trans captured
  have refuses' :
      ((r.prepared owner command (.run child)).note .run child).console.err.Refuses := by
    have answer : ((r.prepared owner command (.run child)).note .run child).console.err.answer =
      r.console.err.answer := kept.console.err
    obtain ⟨empty, nonempty⟩ := refuses
    constructor <;> rwa [answer]
  obtain ⟨lost, failed⟩ := receive_of_refuses
    (r := { (r.prepared owner command (.run child)).note .run child with store := reply.store })
    captured' refuses' some_ child
  have outcome : ((r.prepared owner command (.run child)).runChild spawn child).1 =
      .error (.internal (r.currentTask?.getD "") (.outputLost lost)) := by
    have current : ((r.prepared owner command (.run child)).note .run child).currentTask? =
        r.currentTask? := congrArg List.head? kept.stack
    rw [runChild_eq, begun, ← current]
    exact failed
  refine ⟨lost, ?_⟩
  rw [advance_of_noCall noCall, executeCommand,
    runCommand_of_action (kind?_of_action? ready) ready]
  exact congrArg Focus.ended outcome

/-! ## Both together -/

/-- A run at another verbosity gives the same answers, and leaves the same state but for what has been
written to the errors. -/
theorem verbosity_unseen (spawn : Spawn) (ops : List Operation)
    (ignores : r.console.err.IgnoresDiagnostics) (first second : Verbosity) :
    (operateAll spawn ops (r.withVerbosity second)).1 =
        (operateAll spawn ops (r.withVerbosity first)).1 ∧
      (operateAll spawn ops (r.withVerbosity second)).2 =
        (operateAll spawn ops (r.withVerbosity first)).2.withErrors second
          (operateAll spawn ops (r.withVerbosity second)).2.console.err := by
  rcases Nat.le_total second.rank first.rank with le | le
  · obtain ⟨told, left⟩ := operateAll_lower le spawn ops ignores
    refine ⟨told, ?_⟩
    generalize (operateAll spawn ops (r.withVerbosity first)).2 = s at left ⊢
    generalize (operateAll spawn ops (r.withVerbosity second)).2 = t at left ⊢
    obtain ⟨err, -, -⟩ := left
    rfl
  · -- the two runs change their places, and the verbosity of the second is put back
    obtain ⟨told, left⟩ := operateAll_lower le spawn ops ignores
    refine ⟨told.symm, ?_⟩
    generalize (operateAll spawn ops (r.withVerbosity first)).2 = s at left ⊢
    generalize (operateAll spawn ops (r.withVerbosity second)).2 = t at left ⊢
    obtain ⟨err, rfl, -⟩ := left
    rfl

/-- At the lower verbosity, diagnostics are left out of the errors, and nothing else. -/
theorem errors_of_lower {low high : Verbosity} (le : low.rank ≤ high.rank) (spawn : Spawn)
    (ops : List Operation) (ignores : r.console.err.IgnoresDiagnostics) :
    ∃ new, (operateAll spawn ops (r.withVerbosity high)).2.console.err.log =
        r.console.err.log ++ new ∧
      (operateAll spawn ops (r.withVerbosity low)).2.console.err.log =
        r.console.err.log ++ new.filter (·.piece.isShownAt low) := by
  have left := (operateAll_lower le spawn ops ignores).left
  generalize (operateAll spawn ops (r.withVerbosity high)).2 = s at left ⊢
  generalize (operateAll spawn ops (r.withVerbosity low)).2 = t at left ⊢
  obtain ⟨err, -, thinned⟩ := left
  exact thinned.log

/-- As long as children are silent, it is not observed that the sink for errors refuses. -/
theorem operateAll_withSink {deaf : Sink} (spawn : Spawn) (ops : List Operation)
    (takes : r.console.err.Takes) (refuses : deaf.Refuses)
    (silent : CalmThrough spawn (Silent spawn) ops r) :
    SameUpTo (Deafened r.settings.verbosity) (operateAll spawn ops r)
      (operateAll spawn ops (r.withSink deaf)) :=
  (indistinct_deafened spawn r.settings.verbosity).operateAll ops (deafened_withSink takes refuses)
    silent

/-- The stages up to the first child that writes to the errors are the same, and the command that
starts it fails, and with it the operation. -/
theorem operate_of_deafened {verbosity : Verbosity} {op : Operation} {focus : Focus} {n : Nat}
    (isFocus : op.focus? = some focus) (captured : r.console.captures = true)
    (related : Deafened verbosity r s)
    (silent : ∀ m < n, Silent spawn (stageAt spawn focus r m).focus (stageAt spawn focus r m).runner)
    (loud : ¬ Silent spawn (stageAt spawn focus r n).focus (stageAt spawn focus r n).runner) :
    (∀ m ≤ n, stageAt spawn focus s m =
      (stageAt spawn focus r m).withSink (stageAt spawn focus s m).runner.console.err) ∧
    ∃ lost,
      (stageAt spawn focus s (n + 1)).focus = .ended (.error (.internal
        ((stageAt spawn focus r n).runner.currentTask?.getD "") (.outputLost lost))) ∧
      (s.operate spawn op).1 = .outcome (.error (.internal
        ((stageAt spawn focus r n).runner.currentTask?.getD "") (.outputLost lost))) := by
  have start : Stage.Related (Deafened verbosity) (begin focus r) (begin focus s) :=
    ⟨rfl, rfl, related⟩
  have same : ∀ m ≤ n,
      Stage.Related (Deafened verbosity) (stageAt spawn focus r m) (stageAt spawn focus s m) := by
    intro m le
    exact (indistinct_deafened spawn verbosity).iterate start
      fun k less => silent k (Nat.lt_of_lt_of_le less le)
  refine ⟨fun m le => (same m le).eq_of_runner (same m le).runner.eq_withSink, ?_⟩
  have here := same n (Nat.le_refl n)
  have eq := here.eq_of_runner here.runner.eq_withSink
  have captured' : (stageAt spawn focus s n).runner.console.captures = true := by
    have along := (sustained_keeps_console spawn).iterate (fun _ _ => .refl _) (fun _ => .refl _)
      (begin focus s) n
    have captures : s.console.captures = r.console.captures := by
      rw [related.eq_withSink]
      rfl
    exact along.captures.trans (captures.trans captured)
  have loud' : ¬ Silent spawn (stageAt spawn focus s n).focus (stageAt spawn focus s n).runner := by
    rw [eq]
    exact loud
  obtain ⟨lost, failed⟩ := advance_of_loud captured' here.runner.refuses loud'
  have current : (stageAt spawn focus s n).runner.currentTask? =
      (stageAt spawn focus r n).runner.currentTask? := by
    rw [eq]
    rfl
  rw [current] at failed
  -- the step behind the stages that are the same
  have ended : (stageAt spawn focus s (n + 1)).focus = .ended (.error (.internal
      ((stageAt spawn focus r n).runner.currentTask?.getD "") (.outputLost lost))) := by
    rw [stageAt, Function.iterate_succ_apply']
    exact failed
  exact ⟨lost, ended, operate_of_error isFocus ended⟩

/-- Whatever is asked of a run, diagnostics do not influence it, provided that they do not stand in the
way of what else is written to the errors.

Let the sink for errors answer without regard to the diagnostics written before.  At any two
verbosities, the answers are the same and so are the states but for what has been written to the
errors; at the lower one, diagnostics that are not shown are missing from it, and nothing else.

A sink for errors that takes everything may be replaced by one that refuses everything: the answers
are the same, and so are the states but for the sink, until a child process writes to the errors.  Then
the command that has started it fails, and with it the operation. -/
theorem diagnostics_unseen (spawn : Spawn) (ops : List Operation) (r : Runner)
    (captured : r.console.captures = true) :
    (r.console.err.IgnoresDiagnostics → ∀ first second : Verbosity,
      (operateAll spawn ops (r.withVerbosity second)).1 =
          (operateAll spawn ops (r.withVerbosity first)).1 ∧
      (operateAll spawn ops (r.withVerbosity second)).2 =
          (operateAll spawn ops (r.withVerbosity first)).2.withErrors second
            (operateAll spawn ops (r.withVerbosity second)).2.console.err ∧
      (second.rank ≤ first.rank →
        ∃ new, (operateAll spawn ops (r.withVerbosity first)).2.console.err.log =
            r.console.err.log ++ new ∧
          (operateAll spawn ops (r.withVerbosity second)).2.console.err.log =
            r.console.err.log ++ new.filter (·.piece.isShownAt second))) ∧
    ∀ deaf : Sink, r.console.err.Takes → deaf.Refuses → CalmThrough spawn (Silent spawn) ops r →
      let heard := operateAll spawn ops r
      let unheard := operateAll spawn ops (r.withSink deaf)
      unheard.1 = heard.1 ∧ unheard.2 = heard.2.withSink unheard.2.console.err ∧
      ∀ op focus n, op.focus? = some focus →
        let stage := stageAt spawn focus heard.2
        let deafStage := stageAt spawn focus unheard.2
        (∀ m < n, Silent spawn (stage m).focus (stage m).runner) →
        ¬ Silent spawn (stage n).focus (stage n).runner →
          (∀ m ≤ n, deafStage m = (stage m).withSink (deafStage m).runner.console.err) ∧
          ∃ lost,
            (deafStage (n + 1)).focus = .ended (.error (.internal
              ((stage n).runner.currentTask?.getD "") (.outputLost lost))) ∧
            (unheard.2.operate spawn op).1 = .outcome (.error (.internal
              ((stage n).runner.currentTask?.getD "") (.outputLost lost))) := by
  constructor
  -- at two verbosities
  · intro ignores first second
    obtain ⟨answers, state⟩ := verbosity_unseen spawn ops ignores first second
    exact ⟨answers, state, fun le => errors_of_lower le spawn ops ignores⟩
  -- with a sink that refuses
  · intro deaf takes refuses silent heard unheard
    obtain ⟨told, left⟩ := operateAll_withSink spawn ops takes refuses silent
    refine ⟨told, left.eq_withSink, ?_⟩
    intro op focus n isFocus stage deafStage before loud
    have captured' : heard.2.console.captures = true :=
      (framed_operateAll spawn ops r).console.captures.trans captured
    exact operate_of_deafened isFocus captured' left before loud

/-- A task that starts a child process, on behalf of which nothing has been written so far. -/
def noisy : Runner :=
  fresh ⟨[], [⟨"t", [⟨"run", ["make"], 2⟩], 1⟩]⟩

/-- A sink that refuses everything. -/
def deaf : Sink :=
  ⟨[], fun _ piece => if piece.bytes.isEmpty then none else some ⟨0, .full⟩⟩

/-- The child process that the task starts is heard, and the task fails if it cannot be. -/
theorem diagnostics_unseen_of_noise :
    ∃ lost, ((noisy.withSink deaf).operate noise (.executeTask "t")).1 =
      .outcome (.error (.internal "t" (.outputLost lost))) := by
  have quiet : ∀ m < 2, Silent noise (stageAt noise (.task "t") noisy m).focus
      (stageAt noise (.task "t") noisy m).runner := by
    intro m less owner command child reply next
    match m, less with
    | 0, _ => cases next
    | 1, _ => cases next
  have loud : ¬ Silent noise (stageAt noise (.task "t") noisy 2).focus
      (stageAt noise (.task "t") noisy 2).runner := by
    intro silent
    have empty := silent "t" ⟨"run", ["make"], 2⟩ "make" _ rfl (by decide +kernel) rfl
    exact absurd empty (by decide)
  have takes : noisy.console.err.Takes := fun _ _ => rfl
  have refuses : deaf.Refuses :=
    ⟨fun _ _ empty => if_pos empty, fun _ _ some_ => ⟨⟨0, .full⟩, by simp [deaf, some_]⟩⟩
  have unseen := (diagnostics_unseen noise [] noisy rfl).2 deaf takes refuses trivial
  obtain ⟨-, lost, -, answer⟩ := unseen.2.2 (.executeTask "t") (.task "t") 2 rfl quiet loud
  exact ⟨lost, answer⟩

/-- The task with a sink for errors that has room for one piece. -/
def cramped : Runner :=
  noisy.withSink (.limited 1)

/-- A sink that diagnostics can fill.  At the lowest verbosity the errors of the child process are the
first that is written, and the task succeeds; at the one that is usual they come after a diagnostic,
are refused, and the task fails. -/
theorem diagnostics_seen :
    cramped.console.captures = true ∧
      ((cramped.withVerbosity .silent).operate noise (.executeTask "t")).1 =
        .outcome (.ok (some (completed "t"))) ∧
      ((cramped.withVerbosity .normal).operate noise (.executeTask "t")).1 =
        .outcome (.error (.internal "t" (.outputLost .full))) := by
  have silent : ((cramped.withVerbosity .silent).executeTask noise "t").1 =
      .ok (some (completed "t")) := by decide +kernel
  have normal : ((cramped.withVerbosity .normal).executeTask noise "t").1 =
      .error (.internal "t" (.outputLost .full)) := by decide +kernel
  exact ⟨rfl, congrArg Answer.outcome silent, congrArg Answer.outcome normal⟩

end Runner
end TaskScript
