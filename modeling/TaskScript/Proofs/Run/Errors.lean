import TaskScript.Proofs.Run.Agreement
import TaskScript.Proofs.Run.Lockstep

/-!
# Errors — the part that the sink for errors plays

Diagnostics and the errors of child processes go to one sink.  No command looks at what has been
written there, and only the errors of a child process tell whether they could be written.  So two runs
go the same way as long as their sinks for errors both take or both refuse these.

- `Console.diagnose_eq`       : a diagnostic concerns the sink for errors alone
- `Sink.Muffles`              : a relation of sinks that is kept by all that is written to them
- `Runner.Muffled`            : states that differ in the verbosity and in the sink for errors
- `Runner.indistinct_muffled` : this difference plays no part
-/

namespace TaskScript

/-! ## Sinks -/

namespace Sink

variable {sink : Sink} {verbosity : Verbosity} {level : Level} {styled : Bool} {message : String}

/-- The sink after a diagnostic. -/
def note (sink : Sink) (verbosity : Verbosity) (level : Level) (styled : Bool)
    (message : String) : Sink :=
  if level.shownAt verbosity then (sink.write (.diagnostic level styled message)).2 else sink

theorem note_of_hidden (hidden : level.shownAt verbosity = false) :
    sink.note verbosity level styled message = sink := by
  simp [note, hidden]

theorem note_of_shown (shown : level.shownAt verbosity = true) :
    sink.note verbosity level styled message =
      (sink.write (.diagnostic level styled message)).2 := by
  simp [note, shown]

/-- However a diagnostic is answered, the sink answers as before. -/
theorem answer_note (sink : Sink) (verbosity : Verbosity) (level : Level) (styled : Bool)
    (message : String) : (sink.note verbosity level styled message).answer = sink.answer := by
  unfold note
  split <;> rfl

/-- A relation of sinks, the first for a run at one verbosity and the second for a run at another,
that is kept by diagnostics and by the errors of children, as far as these are heard if they have been
captured. -/
structure Muffles (high low : Verbosity) (Heard : ByteArray → Prop)
    (E : Sink → Sink → Prop) : Prop where
  note : ∀ {first second}, E first second → ∀ level styled message,
    E (first.note high level styled message) (second.note low level styled message)
  told : ∀ {first second}, E first second → ∀ {err : ByteArray}, Heard err →
    (second.write (.child err)).1 = (first.write (.child err)).1
  left : ∀ {first second}, E first second → ∀ {err : ByteArray}, Heard err →
    E (first.write (.child err)).2 (second.write (.child err)).2
  shared : ∀ {first second}, E first second → ∀ err,
    E (first.record (.child err) none) (second.record (.child err) none)

end Sink

/-! ## Consoles -/

namespace Console

theorem diagnose_eq (console : Console) (verbosity : Verbosity) (level : Level)
    (message : String) :
    console.diagnose verbosity level message =
      { console with err := console.err.note verbosity level console.styled message } := by
  unfold diagnose Sink.note
  split <;> rfl

/-- Consoles that differ in their sinks for errors. -/
inductive Muffled (E : Sink → Sink → Prop) : Console → Console → Prop where
  | intro (console : Console) (err : Sink) (errors : E console.err err) :
      Muffled E console { console with err }

namespace Muffled

variable {E : Sink → Sink → Prop} {high low : Verbosity} {Heard : ByteArray → Prop}
  {first second : Console} {err : ByteArray}

theorem print (h : Muffled E first second) (piece : Piece) :
    SameWrite (Muffled E) (first.print piece) (second.print piece) := by
  obtain ⟨err, errors⟩ := h
  exact ⟨rfl, .intro (first.print piece).2 err errors⟩

theorem complain (h : Muffled E first second) (muffles : Sink.Muffles high low Heard E)
    (heard : Heard err) :
    SameWrite (Muffled E) (first.complain (.child err)) (second.complain (.child err)) := by
  obtain ⟨sink, errors⟩ := h
  exact ⟨muffles.told errors heard,
    .intro (first.complain (.child err)).2 _ (muffles.left errors heard)⟩

/-- The outputs of a child that is heard are heard alike. -/
theorem hear (h : Muffled E first second) (muffles : Sink.Muffles high low Heard E)
    (heard : Heard err) (out : ByteArray) :
    SameWrite (Muffled E) (first.hear out err) (second.hear out err) := by
  have captures : second.captures = first.captures := by
    obtain ⟨err, -⟩ := h
    rfl
  refine hear_of_sameWrite captures (fun _ => forward_of_sameWrite (h.print _)
    fun _ related => related.complain muffles heard) fun shared => ?_
  rw [hear_of_shared shared, hear_of_shared (captures.trans shared)]
  obtain ⟨sink, errors⟩ := h
  exact .intro { first with
    out := first.out.record (.child out) none
    err := first.err.record (.child err) none } _ (muffles.shared errors err)

end Muffled
end Console

namespace Runner

variable {spawn : Spawn} {Heard : ByteArray → Prop} {E : Sink → Sink → Prop}
  {high low : Verbosity} {r s : Runner}

/-! ## States -/

/-- The same state at another verbosity, with another sink for errors. -/
def withErrors (r : Runner) (verbosity : Verbosity) (err : Sink) : Runner :=
  { r with
    settings := { r.settings with verbosity }
    console := { r.console with err } }

/-- States that differ in the verbosity and in their sinks for errors. -/
inductive Muffled (high low : Verbosity) (E : Sink → Sink → Prop) : Runner → Runner → Prop where
  | intro (r : Runner) (err : Sink) (verbosity : r.settings.verbosity = high)
      (errors : E r.console.err err) : Muffled high low E r (r.withErrors low err)

/-- The errors of the child process that is started next, if any, are heard. -/
def Hears (spawn : Spawn) (Heard : ByteArray → Prop) (focus : Focus) (r : Runner) : Prop :=
  ∀ owner command child reply, focus = .command owner command →
    r.action? owner command = some (.run child) → r.startChild spawn child = .ok reply →
      Heard reply.err

namespace Muffled

theorem note (muffles : Sink.Muffles high low Heard E) (h : Muffled high low E r s)
    (level : Level) (message : String) :
    Muffled high low E (r.note level message) (s.note level message) := by
  obtain ⟨err, verbosity, errors⟩ := h
  -- the diagnostic goes to either sink, or to one of them
  have first : (r.note level message).console.err =
      r.console.err.note high level r.console.styled message := by
    rw [Runner.note, Console.diagnose_eq, verbosity]
  have second : (r.withErrors low err).note level message =
      (r.note level message).withErrors low
        (err.note low level r.console.styled message) := by
    simp only [Runner.note, Console.diagnose_eq, withErrors]
  rw [second]
  refine .intro _ _ verbosity ?_
  rw [first]
  exact muffles.note errors level r.console.styled message

/-- What comes of a child that is heard is the same. -/
theorem receive (muffles : Sink.Muffles high low Heard E) (h : Muffled high low E r s)
    (child : String) {reply : ChildReply} (heard : Heard reply.err) :
    SameUpTo (Muffled high low E) (r.receive child reply) (s.receive child reply) := by
  obtain ⟨err, verbosity, errors⟩ := h
  obtain ⟨passed, consoles⟩ := (Console.Muffled.intro r.console err errors).hear
    muffles heard reply.out
  have left : Muffled high low E
      { r with console := (r.console.hear reply.out reply.err).2 }
      { r.withErrors low err with
        console := ((r.withErrors low err).console.hear reply.out reply.err).2 } := by
    have same : (r.withErrors low err).console = { r.console with err } := rfl
    rw [same]
    -- only that the two consoles are related is needed from here on
    generalize (r.console.hear reply.out reply.err).2 = first at consoles ⊢
    generalize (Console.hear { r.console with err } reply.out reply.err).2 = second
      at consoles ⊢
    obtain ⟨err', errors'⟩ := consoles
    exact .intro { r with console := first } err' verbosity errors'
  have strict : (r.withErrors low err).settings.strict = r.settings.strict := rfl
  have stack : (r.withErrors low err).stack = r.stack := rfl
  exact sameUpTo_receive (note muffles) strict stack passed left child

end Muffled

/-- The verbosity and the sink for errors play no part where children are heard. -/
theorem indistinct_muffled (spawn : Spawn) (muffles : Sink.Muffles high low Heard E) :
    Indistinct spawn (Hears spawn Heard) (Muffled high low E) where
  findTask? h := by cases h; rfl
  interpreter h := by cases h; rfl
  workingDir h := by cases h; rfl
  stack h := by cases h; rfl
  store h := by cases h; rfl
  out h := by cases h; rfl
  captures h := by cases h; rfl
  refusal? h _ := by cases h; rfl
  action? h _ := by cases h; rfl
  receive _ hears ready started related :=
    related.receive muffles _ (hears _ _ _ _ rfl ready started)
  note related := related.note muffles
  dispatch := by
    rintro r s ⟨err, verbosity, errors⟩ owner command action
    exact .intro (r.dispatch owner command action) err verbosity errors
  setVar := by
    rintro r s ⟨err, verbosity, errors⟩ name value
    exact .intro (r.setVar name value) err verbosity errors
  pushTask := by
    rintro r s ⟨err, verbosity, errors⟩ name
    exact .intro (r.pushTask name) err verbosity errors
  popTask := by
    rintro r s ⟨err, verbosity, errors⟩
    exact .intro r.popTask err verbosity errors
  setStore := by
    rintro r s ⟨err, verbosity, errors⟩ store
    exact .intro { r with store } err verbosity errors
  setOut := by
    rintro r s ⟨err, verbosity, errors⟩ out
    exact .intro { r with console := { r.console with out } } err verbosity errors
  getVar h _ := by cases h; rfl
  resolve h _ _ := by cases h; rfl
  setTaskArgs := by
    rintro r s ⟨err, verbosity, errors⟩ task args
    exact .intro (r.setTaskArgs task args) err verbosity errors
  setNamedArgs := by
    rintro r s ⟨err, verbosity, errors⟩ args
    exact .intro (r.setNamedArgs args) err verbosity errors

end Runner
end TaskScript
