import TaskScript.Proofs.Reading.Accounting
import TaskScript.Proofs.Reading.Arguments

/-!
# Recording — what the line of a command leaves in the reading

While a task is open, a line that begins with a keyword is added to the task or skipped, and what it
gives is part of the reading of the whole text.

- `Reading.recorded_of_command`, `Reading.reported_of_skipped` : a line of an open task
- `Reading.command_grammar` : a keyword with something visible behind it
- `Reading.lone_keyword`    : a keyword with nothing behind it
- `Reading.empty_argument`  : such a keyword may be read as a command
-/

namespace TaskScript

namespace Text

variable {text line : List Char}

/-- No line of a text holds a line feed. -/
theorem not_mem_of_mem_lines (mem : line ∈ lines text) : '\n' ∉ line := by
  induction text using lines.induct generalizing line with
  | case1 => exact absurd mem List.not_mem_nil
  | case2 rest ih =>
    rcases List.mem_cons.1 mem with rfl | mem
    · exact List.not_mem_nil
    · exact ih mem
  | case3 rest ih =>
    rcases List.mem_cons.1 mem with rfl | mem
    · exact List.not_mem_nil
    · exact ih mem
  | case4 c rest inside apart none_ ih =>
    rw [lines.eq_4 c rest inside apart, none_] at mem
    obtain rfl := List.mem_singleton.1 mem
    simpa using Ne.symm inside
  | case5 c rest inside apart first more some_ ih =>
    rw [lines.eq_4 c rest inside apart, some_] at mem
    rw [some_] at ih
    rcases List.mem_cons.1 mem with rfl | mem
    · -- the character goes to the first of the lines behind it
      have absent : '\n' ∉ first := ih List.mem_cons_self
      simpa [absent] using Ne.symm inside
    · exact ih (List.mem_cons_of_mem first mem)

end Text

namespace Reading

variable {before later : List (List Char)} {raw rest indent trail : List Char} {keyword : String}
  {earlier : List Task} {last : Task}

/-- While a task is open, a line that is a command is added to it, and stays there. -/
theorem recorded_of_command {source : String} {args : List String}
    (split : Text.lines source.toList = before ++ raw :: later)
    (opened : (ofLines before).script.tasks = earlier ++ [last])
    (is : Line.classify true raw = .command keyword args) :
    ofLines (before ++ [raw]) = { ofLines before with script := { (ofLines before).script with
      tasks := earlier ++
        [{ last with commands := last.commands ++ [⟨keyword, args, before.length + 1⟩] }] } } ∧
    ∃ task ∈ (ofText source).script.tasks, task.name = last.name ∧ task.line = last.line ∧
      ⟨keyword, args, before.length + 1⟩ ∈ task.commands := by
  have inTask : (ofLines before).inTask = true := by
    simp [Reading.inTask, opened]
  have here : ofLines (before ++ [raw]) = { ofLines before with
      script := { (ofLines before).script with tasks := earlier ++
        [{ last with commands := last.commands ++ [⟨keyword, args, before.length + 1⟩] }] } } := by
    rw [ofLines_concat, feed, inTask, is, record, opened, addToLast_concat]
  have split' : Text.lines source.toList = (before ++ [raw]) ++ later := by
    simp [split]
  have stays := (keeps_ofText split').tasks
  rw [here] at stays
  rcases stays _ (List.mem_append_right earlier List.mem_cons_self) with
    ⟨task, mem, name, line, commands⟩
  refine ⟨here, task, mem, name, line, ?_⟩
  exact commands.subset (List.mem_append_right _ List.mem_cons_self)

/-- While a task is open, a line that is skipped is reported, and gives no command. -/
theorem reported_of_skipped {source : String} {reason : SkipReason}
    (split : Text.lines source.toList = before ++ raw :: later)
    (opened : (ofLines before).script.tasks = earlier ++ [last])
    (is : Line.classify true raw = .skipped reason) :
    ofLines (before ++ [raw]) = { ofLines before with skipped := (ofLines before).skipped ++
      [⟨before.length + 1, String.ofList raw, reason⟩] } ∧
    ⟨before.length + 1, String.ofList raw, reason⟩ ∈ (ofText source).skipped ∧
    ∀ task ∈ (ofText source).script.tasks, ∀ command ∈ task.commands,
      command.line ≠ before.length + 1 := by
  have inTask : (ofLines before).inTask = true := by
    simp [Reading.inTask, opened]
  have here : ofLines (before ++ [raw]) = { ofLines before with skipped :=
      (ofLines before).skipped ++ [⟨before.length + 1, String.ofList raw, reason⟩] } := by
    rw [ofLines_concat, feed, inTask, is]
    rfl
  have split' : Text.lines source.toList = (before ++ [raw]) ++ later := by
    simp [split]
  have stays := (keeps_ofText split').skipped
  rw [here] at stays
  refine ⟨here, stays.subset (List.mem_append_right _ List.mem_cons_self), ?_⟩
  intro task mem command memc number
  rcases (accounting source).sourced.commands task mem command memc with
    ⟨raw', ⟨index, same, found⟩, isCommand⟩
  -- the line of that number is the one that was skipped
  obtain rfl : index = before.length := by omega
  rw [split, List.getElem?_append_right (Nat.le_refl _)] at found
  obtain rfl : raw = raw' := by simpa using found
  rw [is] at isCommand
  cases isCommand

/-- In a task, a line with a keyword other than `var` and something visible behind it is a command,
unless it is a header.  What stands behind the keyword has one form, and its arguments are recorded;
the shape for a quoted text with a tail never fails for want of a tail. -/
theorem command_grammar (source : String)
    (split : Text.lines source.toList = before ++ raw :: later)
    (opened : (ofLines before).script.tasks = earlier ++ [last])
    (opens : Line.Opens raw keyword rest)
    (visible : ∃ c more, rest = c :: more ∧ CharClass.isBlank c = false)
    (other : keyword ≠ "var") (noHeader : Line.header? (Text.trim raw) = none) :
    (∃! form : Line.Remainder, form.Fits rest) ∧
    (∀ form : Line.Remainder, form.Fits rest →
      ofLines (before ++ [raw]) = { ofLines before with script := { (ofLines before).script with
        tasks := earlier ++ [{ last with
          commands := last.commands ++ [⟨keyword, form.args, before.length + 1⟩] }] } } ∧
      ∃ task ∈ (ofText source).script.tasks, task.name = last.name ∧ task.line = last.line ∧
        ⟨keyword, form.args, before.length + 1⟩ ∈ task.commands) ∧
    ¬ Line.StopsAtBlankTail raw := by
  refine ⟨Line.existsUnique_fits rest, ?_, Line.not_stopsAtBlankTail raw⟩
  intro form fits
  rcases visible with ⟨c, more, begins, isVisible⟩
  have stops : ∀ c ∈ rest.head?, CharClass.isBlank c = false := by
    rw [begins]
    exact stops_cons isVisible
  have mem : raw ∈ Text.lines source.toList := by
    simp [split]
  have oneLine : '\n' ∉ rest := by
    intro feed
    rcases opens with ⟨indent, gap, -, -, -, rfl⟩
    exact Text.not_mem_of_mem_lines mem (by simp [feed])
  have found := Line.command?_of_fits opens stops oneLine fits
  exact recorded_of_command split opened (Line.classify_of_opens opens other noHeader found)

/-- A text whose command has a quoted argument and options behind it. -/
def unquotedOptions : String :=
  "task a:\n    run \"cargo\"   build --release  \n"

/-- The options are joined with the quoted text. -/
theorem command_grammar_of_options :
    Line.Opens "    run \"cargo\"   build --release  ".toList "run"
        "\"cargo\"   build --release  ".toList ∧
      ∃ task ∈ (ofText unquotedOptions).script.tasks, task.name = "a" ∧ task.line = 1 ∧
        ⟨"run", ["cargo build --release"], 2⟩ ∈ task.commands := by
  have split : Text.lines unquotedOptions.toList =
      ["task a:".toList] ++ "    run \"cargo\"   build --release  ".toList :: [] := by
    decide +kernel
  have opened : (ofLines ["task a:".toList]).script.tasks = [] ++ [⟨"a", [], 1⟩] := by
    decide +kernel
  have opens : Line.Opens "    run \"cargo\"   build --release  ".toList "run"
      "\"cargo\"   build --release  ".toList :=
    ⟨"    ".toList, [' '], by decide, by decide, by decide, by decide⟩
  have noHeader : Line.header? (Text.trim "    run \"cargo\"   build --release  ".toList) = none := by
    decide +kernel
  have fits : (Line.Remainder.tailed "cargo" "   build --release  ").Fits
      "\"cargo\"   build --release  ".toList := by
    refine ⟨⟨by decide, by decide⟩, by decide, ?_⟩
    -- there would have to be a quote in the tail
    rintro second ⟨between, after, text, separates, ⟨-, rfl⟩, -, same⟩
    have quotes := congrArg (List.count '"') same
    simp at quotes
  have args : (Line.Remainder.tailed "cargo" "   build --release  ").args =
      ["cargo build --release"] := by
    decide +kernel
  have read := command_grammar unquotedOptions split opened opens ⟨'"', _, rfl, by decide⟩
    (by decide) noHeader
  have recorded := (read.2.1 _ fits).2
  rw [args] at recorded
  exact ⟨opens, recorded⟩

/-- In a task, a keyword other than `var` with nothing but white space around it is skipped where
there is no white space on one of the sides.  With some on both sides it is a command with an empty
argument. -/
theorem lone_keyword (source : String)
    (split : Text.lines source.toList = before ++ raw :: later)
    (opened : (ofLines before).script.tasks = earlier ++ [last])
    (whole : raw = indent ++ (keyword.toList ++ trail)) (blank : Blanks indent)
    (isName : IsName keyword) (other : keyword ≠ "var") (blank' : Blanks trail) :
    (indent = [] ∨ trail = [] →
      ofLines (before ++ [raw]) = { ofLines before with skipped := (ofLines before).skipped ++
        [⟨before.length + 1, String.ofList raw, .unrecognized⟩] } ∧
      ⟨before.length + 1, String.ofList raw, .unrecognized⟩ ∈ (ofText source).skipped ∧
      ∀ task ∈ (ofText source).script.tasks, ∀ command ∈ task.commands,
        command.line ≠ before.length + 1) ∧
    (indent ≠ [] → trail ≠ [] →
      ofLines (before ++ [raw]) = { ofLines before with script := { (ofLines before).script with
        tasks := earlier ++ [{ last with
          commands := last.commands ++ [⟨keyword, [""], before.length + 1⟩] }] } } ∧
      ∃ task ∈ (ofText source).script.tasks, task.name = last.name ∧ task.line = last.line ∧
        ⟨keyword, [""], before.length + 1⟩ ∈ task.commands) := by
  subst whole
  have noHeader := Line.header?_of_lone blank isName blank'
  constructor
  · intro bare
    have stops : ∀ c ∈ trail.head?, CharClass.isWord c = false := by
      simpa using blank'.stops stops_nil
    have noCommand : Line.command? (indent ++ (keyword.toList ++ trail)) = none := by
      cases found : Line.command? (indent ++ (keyword.toList ++ trail)) with
      | none => rfl
      | some invocation =>
        rcases Line.command?_eq_some found with ⟨⟨rest, opens⟩, -⟩
        rcases (Line.opens_of_lone blank isName blank').1 opens with
          ⟨-, indented, gap, separates, rfl⟩
        rcases bare with bare | bare
        · exact absurd bare indented
        · exact absurd (List.append_eq_nil_iff.1 bare).1 separates.1
    have is := Line.classify_of_keyword blank isName other stops noHeader
    rw [noCommand] at is
    exact reported_of_skipped split opened is
  · intro indented trails
    have opens : Line.Opens (indent ++ (keyword.toList ++ trail)) keyword [] :=
      (Line.opens_of_lone blank isName blank').2
        ⟨rfl, indented, trail, ⟨trails, blank'⟩, (List.append_nil trail).symm⟩
    -- nothing is left for the last shape, which takes that as well
    have fits : (Line.Remainder.plain "").Fits [] := ⟨rfl, nofun⟩
    have found := Line.command?_of_fits opens stops_nil List.not_mem_nil fits
    exact recorded_of_command split opened (Line.classify_of_opens opens other noHeader found)

/-- A text with a keyword alone on a line that ends with a space. -/
def trailingSpace : String :=
  "task a:\n    ech \n"

theorem lines_trailingSpace : Text.lines trailingSpace.toList =
    ["task a:".toList] ++ ("    ".toList ++ ("ech".toList ++ " ".toList)) :: [] := by
  decide +kernel

theorem opened_trailingSpace :
    (ofLines ["task a:".toList]).script.tasks = [] ++ [⟨"a", [], 1⟩] := by
  decide +kernel

/-- The keyword is read as a command that prints an empty line. -/
theorem lone_keyword_of_space :
    Blanks "    ".toList ∧ Blanks " ".toList ∧
      ∃ task ∈ (ofText trailingSpace).script.tasks, task.name = "a" ∧ task.line = 1 ∧
        ⟨"ech", [""], 2⟩ ∈ task.commands := by
  have blank : Blanks "    ".toList := by decide
  have blank' : Blanks " ".toList := by decide
  have read := lone_keyword trailingSpace lines_trailingSpace opened_trailingSpace rfl blank
    (by decide) (by decide) blank'
  exact ⟨blank, blank', (read.2 (by decide) (by decide)).2⟩

/-- Not every keyword that stands alone in a task is skipped. -/
theorem empty_argument :
    ¬ ∀ (source : String) (before later : List (List Char)) (raw indent trail : List Char)
        (keyword : String),
      Text.lines source.toList = before ++ raw :: later → (ofLines before).inTask = true →
      raw = indent ++ (keyword.toList ++ trail) → Blanks indent → IsName keyword →
      keyword ≠ "var" → Blanks trail →
        (∀ task ∈ (ofText source).script.tasks, ∀ command ∈ task.commands,
          command.line ≠ before.length + 1) ∧
        ⟨before.length + 1, String.ofList raw, .unrecognized⟩ ∈ (ofText source).skipped := by
  intro always
  have inTask : (ofLines ["task a:".toList]).inTask = true := by decide +kernel
  have read : (ofText trailingSpace).script.tasks = [⟨"a", [⟨"ech", [""], 2⟩], 1⟩] := by
    decide +kernel
  have skipped := always trailingSpace _ _ _ _ _ _ lines_trailingSpace inTask rfl (by decide)
    (by decide) (by decide) (by decide)
  exact skipped.1 ⟨"a", [⟨"ech", [""], 2⟩], 1⟩ (by simp [read]) ⟨"ech", [""], 2⟩ (by simp) rfl

end Reading
end TaskScript
