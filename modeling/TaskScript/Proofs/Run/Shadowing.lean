import TaskScript.Proofs.Run.Lockstep
import TaskScript.Proofs.Script.Declarations

/-!
# Shadowing — declarations of names that have been assigned

Once a name has a value at runtime it keeps one, and what the script declares for it is never looked
at again.

- `Reference.rules_eq_of_unshadowed` : the passes see the declarations that are not shadowed
- `Runner.indistinct_shadowed`       : other declarations of an assigned name play no part in runs
- `Runner.shadowed_declaration`      : they are not observed, whatever is asked of a run
-/

namespace TaskScript

theorem Bindings.contains_set {α : Type} {b : Bindings α} {name : String}
    (has : b.contains name = true) (other : String) (value : α) :
    (b.set other value).contains name = true := by
  rw [contains, get?_set]
  split
  · rfl
  · exact has

/-- The passes see of the declarations only those that are not shadowed. -/
theorem Reference.rules_eq_of_unshadowed {scope : Scope} {declared : Bindings String}
    (same : Scope.unshadowed? declared scope.runtime =
      Scope.unshadowed? scope.declared scope.runtime) :
    rules { scope with declared } = rules scope := by
  simp only [rules, same]

namespace Runner

variable {spawn : Spawn} {r s : Runner} {name : String} {script : Script}

/-- States that differ in what their scripts declare for a name that has been assigned. -/
structure Shadowed (name : String) (script : Script) (r s : Runner) : Prop where
  state : s = { r with script }
  script : r.script.SameBut name script
  assigned : r.runtime.contains name = true

namespace Shadowed

theorem unshadowed? (h : Shadowed name script r s) :
    Scope.unshadowed? script.declared r.runtime =
      Scope.unshadowed? r.script.declared r.runtime := by
  funext other
  unfold Scope.unshadowed?
  split
  · rfl
  · next absent =>
    -- a name without a value at runtime is another one
    refine h.script.get?_declared ?_
    rintro rfl
    exact absent h.assigned

theorem resolve (h : Shadowed name script r s) (task text : String) :
    s.resolve task text = r.resolve task text := by
  have scope_ : s.scope task = { r.scope task with declared := script.declared } := by
    rw [h.state]
    rfl
  have passes : Reference.rules { r.scope task with declared := script.declared } =
      Reference.rules (r.scope task) :=
    Reference.rules_eq_of_unshadowed h.unshadowed?
  rw [Runner.resolve, Runner.resolve, scope_, Reference.resolve, Reference.resolve, passes]

/-- The references in a command stand for the same. -/
theorem action? (h : Shadowed name script r s) (owner : String) (command : Command) :
    s.action? owner command = r.action? owner command := by
  have same : s.resolve owner = r.resolve owner := funext (h.resolve owner)
  rw [Runner.action?, Runner.action?, same]

theorem refusal? (h : Shadowed name script r s) (task : String) :
    s.refusal? task = r.refusal? task := by
  rw [h.state]
  simp only [Runner.refusal?, h.script.findTask?]

theorem note (h : Shadowed name script r s) (level : Level) (message : String) :
    Shadowed name script (r.note level message) (s.note level message) := by
  obtain ⟨rfl, same, assigned⟩ := h
  exact ⟨rfl, same, assigned⟩

/-- What comes of a child process has nothing to do with the script. -/
theorem receive (h : Shadowed name script r s) (child : String) (reply : ChildReply) :
    SameUpTo (Shadowed name script) (r.receive child reply) (s.receive child reply) := by
  obtain ⟨rfl, same, assigned⟩ := h
  apply sameUpTo_receive_of_console
  case note => exact note
  case left => exact fun _ => ⟨rfl, same, assigned⟩
  all_goals rfl

end Shadowed

/-- Other declarations of a name play no part once the name has been assigned. -/
theorem indistinct_shadowed (spawn : Spawn) (name : String) (script : Script) :
    Indistinct spawn (fun _ _ => True) (Shadowed name script) where
  findTask? h := by rw [h.state, h.script.findTask?]
  interpreter h := by rw [h.state]
  workingDir h := by rw [h.state]
  stack h := by rw [h.state]
  store h := by rw [h.state]
  out h := by rw [h.state]
  captures h := by rw [h.state]
  refusal? h _ := h.refusal? _
  action? h _ := h.action? _ _
  receive _ _ _ _ h := h.receive _ _
  note h := h.note
  dispatch := by
    rintro r s ⟨rfl, same, assigned⟩ owner command action
    exact ⟨rfl, same, assigned⟩
  setVar := by
    rintro r s ⟨rfl, same, assigned⟩ other value
    exact ⟨rfl, same, Bindings.contains_set assigned other value⟩
  pushTask := by
    rintro r s ⟨rfl, same, assigned⟩ task
    exact ⟨rfl, same, assigned⟩
  popTask := by
    rintro r s ⟨rfl, same, assigned⟩
    exact ⟨rfl, same, assigned⟩
  setStore := by
    rintro r s ⟨rfl, same, assigned⟩ store
    exact ⟨rfl, same, assigned⟩
  setOut := by
    rintro r s ⟨rfl, same, assigned⟩ out
    exact ⟨rfl, same, assigned⟩
  getVar h _ := by rw [h.state]
  resolve h := h.resolve
  setTaskArgs := by
    rintro r s ⟨rfl, same, assigned⟩ task args
    exact ⟨rfl, same, assigned⟩
  setNamedArgs := by
    rintro r s ⟨rfl, same, assigned⟩ args
    exact ⟨rfl, same, assigned⟩

/-- Whatever is asked of a run in which a name has been assigned, what the script declares for the
name is not observed: all answers are the same, and the states are but for the script. -/
theorem shadowed_declaration (spawn : Spawn) (ops : List Operation)
    (same : r.script.SameBut name script) (assigned : r.runtime.contains name = true) :
    operateAll spawn ops { r with script } =
      ((operateAll spawn ops r).1, { (operateAll spawn ops r).2 with script }) := by
  have start : Shadowed name script r { r with script } := ⟨rfl, same, assigned⟩
  obtain ⟨told, left⟩ := (indistinct_shadowed spawn name script).operateAll ops start
    (calmThrough_of_forall (fun _ _ => trivial) spawn ops r)
  exact Prod.ext told left.state

/-- Two scripts that declare one name differently, by which a task prints it. -/
def moded (declared : List String) : Script :=
  ⟨declared.map fun value => ⟨"MODE", value⟩, [⟨"show", [⟨"ech", ["in $MODE mode"], 3⟩], 2⟩]⟩

/-- The task prints the value that the name has been assigned, whatever is declared. -/
theorem shadowed_declaration_of_mode :
    operateAll noChild [.executeTask "show", .resolve "show" "$MODE"]
        { (fresh (moded ["debug"])).setVar "MODE" "release" with script := moded ["a", "b"] } =
      ((operateAll noChild [.executeTask "show", .resolve "show" "$MODE"]
          ((fresh (moded ["debug"])).setVar "MODE" "release")).1,
        { (operateAll noChild [.executeTask "show", .resolve "show" "$MODE"]
            ((fresh (moded ["debug"])).setVar "MODE" "release")).2 with
          script := moded ["a", "b"] }) := by
  have same : (moded ["debug"]).SameBut "MODE" (moded ["a", "b"]) := ⟨rfl, by decide⟩
  exact shadowed_declaration noChild _ same rfl

end Runner
end TaskScript
