import TaskScript.Proofs.Reading.Form
import TaskScript.Proofs.Reading.Recording

/-!
# Surplus — an argument more than is consumed

Behind any keyword but `var` two quoted texts may stand, although one argument is consumed.  Checks
let that pass, and a run does what it would do with the first argument alone.

- `Command.IgnoresSecond` : the second argument plays no part in a run
- `Reading.Stands`        : a command stands on its line in this form
- `Reading.accepted_arguments` : how many arguments the commands of an accepted script have
- `Reading.unchecked_surplus`  : an accepted script with an argument too many
-/

namespace TaskScript

variable {command : Command} {kind : Keyword} {first second : String}

/-- Every keyword but `var` consumes one argument. -/
theorem Keyword.arity_of_ne_var (other : kind ≠ .var) : kind.arity = 1 := by
  cases kind with
  | var => exact absurd rfl other
  | run | del | ech | tsk => rfl

/-- The action that is made of two arguments is made of the first one alone. -/
theorem Action.ofArgs?_of_ne_var (resolve : String → String) (other : kind ≠ .var) :
    ofArgs? resolve kind [first, second] = ofArgs? resolve kind [first] := by
  cases kind with
  | var => exact absurd rfl other
  | run | del | ech | tsk => rfl

/-- The second argument plays no part in a run: what is carried out is what the first one alone
stands for.  A message for debugging says so. -/
def Command.IgnoresSecond (command : Command) (first : String) : Prop :=
  ∀ (spawn : Spawn) (r : Runner) (owner : String), ∃ action,
    r.executeCommand spawn owner { command with args := [first] } =
      (r.dispatch owner { command with args := [first] } action).perform spawn
        (fun name r => r.executeTask spawn name) action ∧
    r.executeCommand spawn owner command =
      ((r.note .debug ("Ignoring extra arguments of '" ++ command.keyword ++ "' command")).dispatch
        owner command action).perform spawn (fun name r => r.executeTask spawn name) action

theorem Command.ignoresSecond (known : command.kind? = some kind) (other : kind ≠ .var)
    (args : command.args = [first, second]) : command.IgnoresSecond first := by
  intro spawn r owner
  have known' : ({ command with args := [first] } : Command).kind? = some kind := known
  have single := Keyword.arity_of_ne_var other
  -- one argument is enough, and a second one makes no other action
  have enough : Action.ofArgs? (r.resolve owner) kind [first] ≠ none := by
    rw [Ne, Action.ofArgs?_eq_none_iff, single]
    exact Nat.lt_irrefl 1
  rcases Option.ne_none_iff_exists'.1 enough with ⟨action, made⟩
  have ready : r.action? owner { command with args := [first] } = some action := by
    rw [Runner.action?, known', Option.bind_some, made]
  have ready' : r.action? owner command = some action := by
    rw [Runner.action?, known, Option.bind_some, args, Action.ofArgs?_of_ne_var _ other, made]
  refine ⟨action, ?_, ?_⟩
  · rw [Runner.executeCommand, Runner.runCommand_of_action known' ready, Runner.noteExtra]
    simp [single]
  · rw [Runner.executeCommand, Runner.runCommand_of_action known ready', Runner.noteExtra]
    simp [single, args]

namespace Reading

variable {lines : List (List Char)} {reading : Reading} {task : Task}

/-- The command stands on its line, with what is behind the keyword in this form. -/
def Stands (lines : List (List Char)) (command : Command) (form : Line.Remainder) : Prop :=
  ∃ raw rest, IsLine lines command.line raw ∧ Line.Opens raw command.keyword rest ∧ form.Fits rest

/-- Every command but an assignment has the arguments of the form in which it is written. -/
theorem exists_stands {source : String} (mem : task ∈ (Script.ofText source).tasks)
    (memc : command ∈ task.commands) (other : command.keyword ≠ Keyword.var.text) :
    ∃ form : Line.Remainder, Stands (Text.lines source.toList) command form ∧
      command.args = form.args := by
  rcases (accounting source).sourced.commands task mem command memc with ⟨raw, stands, is⟩
  have oneLine : '\n' ∉ raw := by
    rcases stands with ⟨index, -, found⟩
    exact Text.not_mem_of_mem_lines (List.mem_of_getElem? found)
  rcases Line.exists_fits_of_command? oneLine (Line.command?_of_classify is other) with
    ⟨rest, form, opens, fits, args⟩
  exact ⟨form, ⟨raw, rest, stands, opens, fits⟩, args⟩

/-- The commands of an accepted script have as many arguments as their keywords consume, except
where two quoted texts stand behind a keyword that consumes one argument.  There the second text is
ignored. -/
theorem accepted_arguments (source : String) (accepted : (Script.ofText source).fault? = none) :
    ∀ task ∈ (Script.ofText source).tasks, ∀ command ∈ task.commands,
      ∃ kind, command.kind? = some kind ∧ kind.arity ≤ command.args.length ∧
        (command.args.length = kind.arity ∨
          kind ≠ .var ∧ ∃ first second, command.args = [first, second] ∧
            Stands (Text.lines source.toList) command (.two first second) ∧
            command.IgnoresSecond first) := by
  intro task mem command memc
  rcases (Script.wellFormed_of_fault?_eq_none accepted).fits task mem command memc with
    ⟨kind, known, enough⟩
  refine ⟨kind, known, enough, ?_⟩
  -- an assignment is read as one only with both of its texts
  by_cases isVar : kind = .var
  · subst isVar
    have written : command.keyword = Keyword.var.text := (Keyword.text_of_ofText? known).symm
    rcases ((formation source).1.commands task mem command memc).assignment written with
      ⟨name, value, args, -⟩
    left
    rw [args]
    rfl
  · have single := Keyword.arity_of_ne_var isVar
    have other : command.keyword ≠ Keyword.var.text := by
      intro same
      rw [Command.kind?, same, Keyword.ofText?_text] at known
      exact isVar (Option.some.inj known).symm
    rcases exists_stands mem memc other with ⟨form, stands, args⟩
    cases form with
    | two first second =>
      right
      exact ⟨isVar, first, second, args, stands, command.ignoresSecond known isVar args⟩
    | one _ | tailed _ _ | plain _ =>
      left
      rw [args, single]
      rfl

/-- A text with a command that has a second argument between quotes. -/
def twoTexts : String :=
  "task a:\n    ech \"x\" \"y\"\n"

theorem tasks_twoTexts :
    (Script.ofText twoTexts).tasks = [⟨"a", [⟨"ech", ["x", "y"], 2⟩], 1⟩] := by
  decide +kernel

theorem accepted_twoTexts : (Script.ofText twoTexts).fault? = none := by
  decide +kernel

/-- The second text is not printed. -/
theorem accepted_arguments_of_twoTexts :
    (Script.ofText twoTexts).fault? = none ∧
      Stands (Text.lines twoTexts.toList) ⟨"ech", ["x", "y"], 2⟩ (.two "x" "y") ∧
      Command.IgnoresSecond ⟨"ech", ["x", "y"], 2⟩ "x" := by
  have counted := accepted_arguments twoTexts accepted_twoTexts
  rw [tasks_twoTexts] at counted
  rcases counted ⟨"a", [⟨"ech", ["x", "y"], 2⟩], 1⟩ List.mem_cons_self ⟨"ech", ["x", "y"], 2⟩
    List.mem_cons_self with ⟨kind, known, -, exact_ | ⟨-, first, second, args, stands, ignores⟩⟩
  · have isEcho : kind = .ech := (Option.some.inj known).symm
    rw [isEcho] at exact_
    exact absurd exact_ (by decide)
  · rcases List.cons.inj args with ⟨rfl, rest⟩
    rcases List.cons.inj rest with ⟨rfl, -⟩
    exact ⟨accepted_twoTexts, stands, ignores⟩

/-- Not every command of an accepted script has as many arguments as its keyword consumes. -/
theorem unchecked_surplus :
    ¬ ∀ source, (Script.ofText source).fault? = none →
      ∀ task ∈ (Script.ofText source).tasks, ∀ command ∈ task.commands,
        ∀ kind, command.kind? = some kind → command.args.length = kind.arity := by
  intro always
  have counted := always twoTexts accepted_twoTexts
  rw [tasks_twoTexts] at counted
  have same := counted ⟨"a", [⟨"ech", ["x", "y"], 2⟩], 1⟩ List.mem_cons_self
    ⟨"ech", ["x", "y"], 2⟩ List.mem_cons_self .ech rfl
  exact absurd same (by decide)

end Reading
end TaskScript
