import TaskScript.Proofs.Reading.Arguments
import TaskScript.Proofs.Reading.Concatenation
import TaskScript.Proofs.Reading.Form

/-!
# Rendering — what is written is what is read

A script is written line by line: its variables first, then each task with its header and its
commands below it.  When the names are words and the texts can stand between quotes, reading gives
the script back, every task and command with the number of its own line, and nothing is skipped.

- `Script.render`    : the text of a script
- `Script.Writable`  : scripts that can be written
- `Script.placed`    : the same script with the numbers of its lines
- `Line.classify_variable`, `Line.classify_header`, `Line.classify_command` : each line is read as
  what was written
- `Reading.rendering` : a text that was written is read back
-/

namespace TaskScript

/-! ## Writing -/

/-- The line that declares a variable. -/
def Variable.written (declared : Variable) : String :=
  "var " ++ declared.name ++ " = " ++ quoted declared.value

/-- The line of a command: an assignment is written like a declaration, and any other command with
its arguments between quotes. -/
def Command.written (command : Command) : String :=
  match command.kind?, command.args with
  | some .var, [name, value] => "    " ++ Variable.written ⟨name, value⟩
  | _, args => "    " ++ command.keyword ++ String.join (args.map fun arg => " " ++ quoted arg)

/-- The line that opens a task. -/
def Task.header (task : Task) : String :=
  "task " ++ task.name ++ ":"

/-- The lines of a task. -/
def Task.written (task : Task) : List String :=
  task.header :: task.commands.map Command.written

/-- The lines of a script. -/
def Script.written (script : Script) : List String :=
  script.declarations.map Variable.written ++ script.tasks.flatMap Task.written

/-- The text of a script: its lines, each ended by a line feed. -/
def Script.render (script : Script) : String :=
  String.join (script.written.map fun line => line ++ "\n")

/-- A text that can stand between quotes on one line. -/
def IsQuotable (text : String) : Prop :=
  '"' ∉ text.toList ∧ '\n' ∉ text.toList

instance (text : String) : Decidable (IsQuotable text) :=
  inferInstanceAs (Decidable (_ ∧ _))

/-- A script that can be written. -/
structure Script.Writable (script : Script) : Prop where
  shaped : script.Shaped
  values : ∀ declared ∈ script.declarations, IsQuotable declared.value
  args : ∀ task ∈ script.tasks, ∀ command ∈ task.commands, ∀ arg ∈ command.args, IsQuotable arg

/-! ## Places -/

/-- Commands on lines of their own, the first on the line of this number. -/
def Command.placed : Nat → List Command → List Command
  | _, [] => []
  | number, command :: rest => { command with line := number } :: placed (number + 1) rest

/-- Tasks one below the other, the first with its header on the line of this number. -/
def Task.placed : Nat → List Task → List Task
  | _, [] => []
  | number, task :: rest =>
    { task with commands := Command.placed (number + 1) task.commands, line := number } ::
      placed (number + task.written.length) rest

/-- A script with the numbers of the lines on which its tasks and commands are written. -/
def Script.placed (script : Script) : Script :=
  { script with tasks := Task.placed (script.declarations.length + 1) script.tasks }

/-! ## Lines of a text that was written -/

/-- A line that is read back as it was written: no line feed breaks it, and no carriage return at
its end is taken for a part of the terminator. -/
def IsWhole (line : List Char) : Prop :=
  '\n' ∉ line ∧ ∀ c ∈ line.getLast?, c ≠ '\r'

namespace Text

theorem lines_of_isWhole {line : List Char} (whole : IsWhole line) (rest : List Char) :
    lines (line ++ '\n' :: rest) = line :: lines rest := by
  have alone : lines (line ++ ['\n']) = [line] := by
    induction line with
    | nil => rfl
    | cons c line ih =>
      obtain ⟨absent, last⟩ := whole
      rw [List.mem_cons, not_or] at absent
      have inner : IsWhole line := by
        refine ⟨absent.2, fun d mem => last d ?_⟩
        rw [Option.mem_def] at mem ⊢
        rw [List.getLast?_cons, mem]
        rfl
      -- a carriage return stands before the line feed only if it is the last character
      have apart : ¬ (c = '\r' ∧ (line ++ ['\n']).head? = some '\n') := by
        rintro ⟨isReturn, feed⟩
        cases line with
        | nil => exact last c rfl isReturn
        | cons d line =>
          obtain rfl := Option.some.inj feed
          exact absent.2 List.mem_cons_self
      rw [List.cons_append, lines_cons (Ne.symm absent.1) apart, ih inner]
  rw [lines_append, alone]
  rfl

/-- Whole lines, each ended by a line feed, are the lines of their text. -/
theorem lines_join {written : List String} (whole : ∀ line ∈ written, IsWhole line.toList) :
    lines (String.join (written.map fun line => line ++ "\n")).toList =
      written.map String.toList := by
  induction written with
  | nil => rfl
  | cons line written ih =>
    obtain ⟨here, later⟩ := List.forall_mem_cons.1 whole
    have first : (String.join ((line :: written).map fun line => line ++ "\n")).toList =
        line.toList ++ '\n' :: (String.join (written.map fun line => line ++ "\n")).toList := by
      simp [String.toList_join]
    rw [first, lines_of_isWhole here, ih later, List.map_cons]

end Text

/-! ## What each line is read as -/

namespace Line

variable {inTask : Bool} {raw indent body : List Char} {keyword first second : String}

theorem toList_written (declared : Variable) :
    declared.written.toList = 'v' :: ('a' :: 'r' :: ([' '] ++ (declared.name.toList ++ ([' '] ++
      '=' :: ([' '] ++ '"' :: declared.value.toList)))) ++ ['"']) := by
  simp [Variable.written, quoted]

/-- A declaration is read as what it declares, wherever it stands. -/
theorem classify_variable {declared : Variable} (isName : IsName declared.name)
    (absent : '"' ∉ declared.value.toList) (blank : Blanks indent) :
    classify inTask (indent ++ declared.written.toList) =
      if inTask then command Keyword.var.text [declared.name, declared.value]
      else declaration declared.name declared.value := by
  have trimmed : Text.trim (indent ++ declared.written.toList) = declared.written.toList := by
    refine Text.trim_append blank ?_ ⟨'"', ?_, by decide⟩
    · rw [toList_written]
      exact stops_cons (by decide)
    · rw [toList_written, ← List.cons_append]
      exact List.getLast?_concat
  have begins : startsWithVar declared.written.toList = true := by
    rw [toList_written]
    rfl
  have found : declaration? declared.written.toList = some (declared.name, declared.value) := by
    have space : IsGap [' '] := by decide
    refine declaration?_eq_some_iff.2 ⟨[' '], [' '], [' '], [], space, isName, space.2, space.2,
      absent, ?_⟩
    simp [toList_written]
  have counts : Counts (indent ++ declared.written.toList) := by
    rw [Counts, trimmed, toList_written]
    exact ⟨List.cons_ne_nil _ _, by simp⟩
  rw [classify_of_counts counts, trimmed, if_pos begins, found]

/-- A header is read as the header of its task. -/
theorem classify_header {task : Task} (isName : IsName task.name) :
    classify inTask task.header.toList = header task.name := by
  have written : task.header.toList =
      't' :: 'a' :: 's' :: 'k' :: ([' '] ++ task.name.toList) ++ [':'] := by
    simp [Task.header]
  have trimmed : Text.trim ([] ++ task.header.toList) = task.header.toList := by
    refine Text.trim_append nofun ?_ ⟨':', ?_, by decide⟩
    · rw [written]
      exact stops_cons (by decide)
    · rw [written]
      exact List.getLast?_concat
  have space : IsGap [' '] := by decide
  rw [List.nil_append] at trimmed
  refine classify_eq_header_iff.2 ?_
  rw [trimmed]
  refine header?_eq_some_iff.2 ⟨[' '], [], [], space, isName, nofun, ?_⟩
  simp [written]

/-- An assignment is written like a declaration; any other command has its keyword and a quote
before its arguments, and a quote behind them. -/
theorem written_cases {command : Command} (shaped : command.Shaped) :
    (∃ declared : Variable, command.keyword = Keyword.var.text ∧
        command.args = [declared.name, declared.value] ∧ IsName declared.name ∧
          '"' ∉ declared.value.toList ∧
            command.written.toList = [' ', ' ', ' ', ' '] ++ declared.written.toList) ∨
      (command.keyword ≠ Keyword.var.text ∧ ∃ body,
        command.written.toList =
            [' ', ' ', ' ', ' '] ++ (command.keyword.toList ++ ' ' :: '"' :: (body ++ ['"'])) ∧
          ((∃ first, command.args = [first] ∧ body = first.toList) ∨
            ∃ first second, command.args = [first, second] ∧
              body = first.toList ++ '"' :: ' ' :: '"' :: second.toList)) := by
  by_cases isVar : command.keyword = Keyword.var.text
  · obtain ⟨name, value, args, isName, absent⟩ := shaped.assignment isVar
    have kind : command.kind? = some .var := by
      rw [Command.kind?, isVar, Keyword.ofText?_text]
    exact .inl ⟨⟨name, value⟩, isVar, args, isName, absent, by simp [Command.written, kind, args]⟩
  · have general : command.written = "    " ++ command.keyword ++
        String.join (command.args.map fun arg => " " ++ quoted arg) := by
      unfold Command.written
      split
      · next known _ => exact absurd (Keyword.text_of_ofText? known).symm isVar
      · rfl
    refine .inr ⟨isVar, ?_⟩
    rcases shaped.other isVar with ⟨first, args⟩ | ⟨first, second, args, -⟩
    · exact ⟨_, by simp [general, args, quoted], .inl ⟨first, args, rfl⟩⟩
    · exact ⟨_, by simp [general, args, quoted], .inr ⟨first, second, args, rfl⟩⟩

/-- A line with a quote behind its keyword is no header, although its keyword may be `task`. -/
theorem header?_of_quote {rest : List Char} (isName : IsName keyword) :
    header? (keyword.toList ++ ' ' :: '"' :: rest) = none := by
  refine Option.eq_none_iff_forall_ne_some.2 fun name found => ?_
  obtain ⟨gap, after, behind, separates, named, -, same⟩ := header?_eq_some_iff.1 found
  have isTask : IsName "task" := by decide
  have same' : keyword.toList ++ ' ' :: '"' :: rest =
      "task".toList ++ (gap ++ (name.toList ++ (after ++ ':' :: behind))) := same
  have space : IsGap [' '] := by decide
  obtain ⟨-, gaps⟩ := Pattern.append_inj_of_stop same' isName.2 (stops_cons (by decide)) isTask.2
    (separates.stops _)
  have quote : ∀ c ∈ ('"' :: rest).head?, CharClass.isBlank c = false := stops_cons (by decide)
  obtain ⟨-, names⟩ := Pattern.append_inj_of_stop (show [' '] ++ '"' :: rest = _ from gaps) space.2
    quote separates.2 (named.stops _)
  -- the name would have to begin with the quote
  obtain ⟨first, more, isFirst⟩ := List.exists_cons_of_ne_nil named.1
  rw [isFirst, List.cons_append] at names
  have isQuote := named.2 first (by rw [isFirst]; exact List.mem_cons_self)
  rw [← (List.cons.inj names).1] at isQuote
  exact absurd isQuote (by decide)

/-- A line with another keyword than `var` and a quote behind it is a command if it has the form of
one, and nothing else. -/
theorem classify_of_quote (isName : IsName keyword) (other : keyword ≠ Keyword.var.text)
    (blank : Blanks indent) {args : List String}
    (found : command? (indent ++ (keyword.toList ++ ' ' :: '"' :: (body ++ ['"']))) =
      some (keyword, args)) :
    classify true (indent ++ (keyword.toList ++ ' ' :: '"' :: (body ++ ['"']))) =
      command keyword args := by
  have trimmed : Text.trim (indent ++ (keyword.toList ++ ' ' :: '"' :: (body ++ ['"']))) =
      keyword.toList ++ ' ' :: '"' :: (body ++ ['"']) := by
    refine Text.trim_append blank (isName.stops _) ⟨'"', ?_, by decide⟩
    simp [List.getLast?_append, List.getLast?_cons]
  have noHeader : header? (Text.trim (indent ++ (keyword.toList ++
      ' ' :: '"' :: (body ++ ['"'])))) = none := by
    rw [trimmed]
    exact header?_of_quote isName
  rw [classify_of_keyword blank isName other (stops_cons (by decide)) noHeader, found]

/-- A command is read as what was written. -/
theorem classify_command {command : Command} (shaped : command.Shaped)
    (absent : ∀ arg ∈ command.args, '"' ∉ arg.toList) :
    classify true command.written.toList = .command command.keyword command.args := by
  have indented : IsGap [' ', ' ', ' ', ' '] := by decide
  rcases written_cases shaped with
    ⟨declared, isVar, args, isName, inner, written⟩ | ⟨other, body, written, forms⟩
  · rw [written, classify_variable isName inner indented.2, if_pos rfl, isVar, args]
  · rw [written]
    refine classify_of_quote shaped.keyword other indented.2 ?_
    have space : IsGap [' '] := by decide
    have opens : Opens ([' ', ' ', ' ', ' '] ++ (command.keyword.toList ++
        ' ' :: '"' :: (body ++ ['"']))) command.keyword ('"' :: (body ++ ['"'])) :=
      ⟨[' ', ' ', ' ', ' '], [' '], indented, shaped.keyword, space, rfl⟩
    rcases forms with ⟨first, args, rfl⟩ | ⟨first, second, args, rfl⟩
    · rw [args] at absent ⊢
      exact command?_of_one opens (stops_cons (by decide)) ⟨[], ⟨absent first (by simp), rfl⟩, nofun⟩
    · rw [args] at absent ⊢
      have again : QuotesAgain second (' ' :: '"' :: (second.toList ++ ['"'])) :=
        ⟨[' '], [], _, space, ⟨absent second (by simp), rfl⟩, nofun, rfl⟩
      refine command?_of_two opens (stops_cons (by decide)) ⟨_, ⟨absent first (by simp), ?_⟩, again⟩
      simp

end Line

/-! ## The lines of a script -/

/-- A line is whole if it ends visibly and no part of it has a line feed. -/
theorem isWhole_concat {line : List Char} {c : Char} (absent : '\n' ∉ line) (feed : c ≠ '\n')
    (other : c ≠ '\r') : IsWhole (line ++ [c]) := by
  constructor
  · rw [List.mem_append, List.mem_singleton]
    rintro (mem | same)
    · exact absent mem
    · exact feed same.symm
  · rw [List.getLast?_concat]
    rintro d ⟨⟩
    exact other

theorem Variable.isWhole {declared : Variable} (isName : IsName declared.name)
    (quotable : IsQuotable declared.value) : IsWhole declared.written.toList := by
  have absent : '\n' ∉ declared.name.toList := isName.not_mem (by decide)
  have absent' := quotable.2
  rw [Line.toList_written, ← List.cons_append]
  refine isWhole_concat ?_ (by decide) (by decide)
  simp [absent, absent']

theorem Task.isWhole {task : Task} (isName : IsName task.name) : IsWhole task.header.toList := by
  have absent : '\n' ∉ task.name.toList := isName.not_mem (by decide)
  have written : task.header.toList = ("task ".toList ++ task.name.toList) ++ [':'] := by
    simp [Task.header]
  rw [written]
  refine isWhole_concat ?_ (by decide) (by decide)
  simp [absent]

theorem Command.isWhole {command : Command} (shaped : command.Shaped)
    (quotable : ∀ arg ∈ command.args, IsQuotable arg) : IsWhole command.written.toList := by
  have inKeyword : '\n' ∉ command.keyword.toList := shaped.keyword.not_mem (by decide)
  rcases Line.written_cases shaped with
    ⟨declared, -, args, isName, -, written⟩ | ⟨-, body, written, forms⟩
  · have inName : '\n' ∉ declared.name.toList := isName.not_mem (by decide)
    have inValue : '\n' ∉ declared.value.toList := (quotable declared.value (by simp [args])).2
    rw [written, Line.toList_written, ← List.cons_append, ← List.append_assoc]
    refine isWhole_concat ?_ (by decide) (by decide)
    simp [inName, inValue]
  · have inBody : '\n' ∉ body := by
      rcases forms with ⟨first, args, rfl⟩ | ⟨first, second, args, rfl⟩
      · exact (quotable first (by simp [args])).2
      · have inFirst := (quotable first (by simp [args])).2
        have inSecond := (quotable second (by simp [args])).2
        simp [inFirst, inSecond]
    have last : command.written.toList =
        ([' ', ' ', ' ', ' '] ++ (command.keyword.toList ++ ' ' :: '"' :: body)) ++ ['"'] := by
      simp [written]
    rw [last]
    refine isWhole_concat ?_ (by decide) (by decide)
    simp [inKeyword, inBody]

theorem Script.Writable.isWhole {script : Script} (h : script.Writable) :
    ∀ line ∈ script.written, IsWhole line.toList := by
  intro line mem
  rw [Script.written, List.mem_append, List.mem_map, List.mem_flatMap] at mem
  rcases mem with ⟨declared, mem, rfl⟩ | ⟨task, mem, inTask⟩
  · exact Variable.isWhole (h.shaped.declarations declared mem).1 (h.values declared mem)
  · rw [Task.written, List.mem_cons, List.mem_map] at inTask
    rcases inTask with rfl | ⟨command, memc, rfl⟩
    · exact Task.isWhole (h.shaped.names task mem)
    · exact Command.isWhole (h.shaped.commands task mem command memc) (h.args task mem command memc)

/-! ## Reading what was written -/

namespace Reading

variable {reading : Reading} {number : Nat}

/-- While no task is open, the lines of variables add the variables. -/
theorem feedAll_variables {declarations : List Variable} (closed : reading.script.tasks = [])
    (shaped : ∀ declared ∈ declarations, IsName declared.name ∧ '"' ∉ declared.value.toList) :
    reading.feedAll number (declarations.map fun declared => declared.written.toList) =
      { reading with script := { reading.script with
          declarations := reading.script.declarations ++ declarations } } := by
  induction declarations generalizing reading number with
  | nil => simp [feedAll]
  | cons declared rest ih =>
    obtain ⟨⟨isName, absent⟩, later⟩ := List.forall_mem_cons.1 shaped
    have unindented : Blanks [] := by decide
    have is : Line.classify reading.inTask declared.written.toList =
        .declaration declared.name declared.value := by
      have read : Line.classify false ([] ++ declared.written.toList) =
          .declaration declared.name declared.value :=
        Line.classify_variable isName absent unindented
      rw [inTask_eq_false_iff.2 closed]
      exact read
    rw [List.map_cons, feedAll, feed, is, ih (by exact closed) later]
    simp [record]

/-- The lines of commands add the commands to the open task. -/
theorem feedAll_commands {commands : List Command} {earlier : List Task} {task : Task}
    (opened : reading.script.tasks = earlier ++ [task])
    (shaped : ∀ command ∈ commands, command.Shaped)
    (absent : ∀ command ∈ commands, ∀ arg ∈ command.args, '"' ∉ arg.toList) :
    reading.feedAll number (commands.map fun command => command.written.toList) =
      { reading with script := { reading.script with
          tasks := earlier ++
            [{ task with commands := task.commands ++ Command.placed number commands }] } } := by
  induction commands generalizing reading number task with
  | nil => simp [feedAll, Command.placed, ← opened]
  | cons command rest ih =>
    obtain ⟨here, later⟩ := List.forall_mem_cons.1 shaped
    obtain ⟨here', later'⟩ := List.forall_mem_cons.1 absent
    have is : Line.classify reading.inTask command.written.toList =
        .command command.keyword command.args := by
      have inTask : reading.inTask = true := by simp [inTask, opened]
      rw [inTask]
      exact Line.classify_command here here'
    have fed : (reading.feed number command.written.toList).script.tasks = earlier ++
        [{ task with commands := task.commands ++ [{ command with line := number }] }] := by
      rw [feed, is, record, opened, addToLast_concat]
    rw [List.map_cons, feedAll, ih fed later later', feed, is]
    simp [record, Command.placed]

/-- The lines of tasks add the tasks. -/
theorem feedAll_tasks {tasks : List Task} (names : ∀ task ∈ tasks, IsName task.name)
    (shaped : ∀ task ∈ tasks, ∀ command ∈ task.commands, command.Shaped)
    (absent : ∀ task ∈ tasks, ∀ command ∈ task.commands, ∀ arg ∈ command.args,
      '"' ∉ arg.toList) :
    reading.feedAll number (tasks.flatMap fun task => task.written.map String.toList) =
      { reading with script := { reading.script with
          tasks := reading.script.tasks ++ Task.placed number tasks } } := by
  induction tasks generalizing reading number with
  | nil => simp [feedAll, Task.placed]
  | cons task rest ih =>
    obtain ⟨isName, names⟩ := List.forall_mem_cons.1 names
    obtain ⟨here, shaped⟩ := List.forall_mem_cons.1 shaped
    obtain ⟨here', absent⟩ := List.forall_mem_cons.1 absent
    have is : Line.classify reading.inTask task.header.toList = .header task.name :=
      Line.classify_header isName
    have opened : (reading.feed number task.header.toList).script.tasks =
        reading.script.tasks ++ [⟨task.name, [], number⟩] := by
      rw [feed, is, record]
    have lines : task.written.map String.toList =
        task.header.toList :: task.commands.map fun command => command.written.toList := by
      simp [Task.written]
    rw [List.flatMap_cons, feedAll_append, List.length_map, lines, feedAll,
      feedAll_commands opened here here', ih names shaped absent, feed, is]
    simp [record, Task.placed]

/-! ## Where it was written -/

theorem IsLine.append {lines : List (List Char)} {raw : List Char} (h : IsLine lines number raw)
    (later : List (List Char)) : IsLine (lines ++ later) number raw := by
  obtain ⟨index, same, found⟩ := h
  have within := (List.getElem?_eq_some_iff.1 found).1
  exact ⟨index, same, (List.getElem?_append_left within).trans found⟩

/-- A task and its commands stand on the lines whose numbers they carry. -/
structure StandsIn (lines : List (List Char)) (task : Task) : Prop where
  header : IsLine lines task.line task.header.toList
  commands : ∀ command ∈ task.commands, IsLine lines command.line command.written.toList

theorem StandsIn.append {lines : List (List Char)} {task : Task} (h : StandsIn lines task)
    (later : List (List Char)) : StandsIn (lines ++ later) task where
  header := h.header.append later
  commands command mem := (h.commands command mem).append later

theorem isLine_placed_commands (before : List (List Char)) (commands : List Command) :
    ∀ command ∈ Command.placed (before.length + 1) commands,
      IsLine (before ++ commands.map fun command => command.written.toList) command.line
        command.written.toList := by
  induction commands generalizing before with
  | nil => exact nofun
  | cons command rest ih =>
    have next := ih (before ++ [command.written.toList])
    rw [List.length_append, List.append_assoc] at next
    refine List.forall_mem_cons.2 ⟨?_, next⟩
    -- the number of a command has no part in how it is written
    have here := (isLine_last before command.written.toList).append
      (rest.map fun command => command.written.toList)
    rwa [List.append_assoc] at here

theorem standsIn_placed_tasks (before : List (List Char)) (tasks : List Task) :
    ∀ task ∈ Task.placed (before.length + 1) tasks,
      StandsIn (before ++ tasks.flatMap fun task => task.written.map String.toList) task := by
  induction tasks generalizing before with
  | nil => exact nofun
  | cons task rest ih =>
    have next := ih (before ++ task.written.map String.toList)
    rw [List.length_append, List.length_map, Nat.add_right_comm, List.append_assoc] at next
    refine List.forall_mem_cons.2 ⟨?_, next⟩
    rw [List.flatMap_cons, ← List.append_assoc]
    refine StandsIn.append ?_ _
    have lines : before ++ task.written.map String.toList =
        (before ++ [task.header.toList]) ++
          task.commands.map fun command => command.written.toList := by
      simp [Task.written]
    rw [lines]
    refine ⟨(isLine_last before task.header.toList).append _, ?_⟩
    have among := isLine_placed_commands (before ++ [task.header.toList]) task.commands
    rwa [List.length_append] at among

/-! ## There and back -/

/-- A text that was written is read back, each task and command with the number of the line on which
it stands, and no line is skipped. -/
theorem rendering {script : Script} (writable : script.Writable) :
    ofText script.render = ⟨script.placed, []⟩ ∧
      ∀ task ∈ script.placed.tasks, StandsIn (Text.lines script.render.toList) task := by
  have whole := writable.isWhole
  obtain ⟨⟨declarations, names, commands⟩, -, args⟩ := writable
  have lines : Text.lines script.render.toList =
      (script.declarations.map fun declared => declared.written.toList) ++
        script.tasks.flatMap fun task => task.written.map String.toList := by
    rw [Script.render, Text.lines_join whole]
    simp [Script.written, List.map_flatMap]
  have absent : ∀ task ∈ script.tasks, ∀ command ∈ task.commands, ∀ arg ∈ command.args,
      '"' ∉ arg.toList :=
    fun task mem command memc arg mema => (args task mem command memc arg mema).1
  constructor
  · calc ofText script.render
        = (empty.feedAll 1 (script.declarations.map fun declared => declared.written.toList)).feedAll
            (1 + script.declarations.length)
            (script.tasks.flatMap fun task => task.written.map String.toList) := by
          rw [ofText, lines, feedAll_append, List.length_map]
      _ = ⟨⟨script.declarations, Task.placed (1 + script.declarations.length) script.tasks⟩, []⟩ := by
          rw [feedAll_variables rfl declarations, feedAll_tasks names commands absent]
          rfl
      _ = ⟨script.placed, []⟩ := by
          rw [Script.placed, Nat.add_comm]
  · rw [lines]
    have stands := standsIn_placed_tasks
      (script.declarations.map fun declared => declared.written.toList) script.tasks
    rwa [List.length_map] at stands

/-- A script with keywords in unusual places and with marks of the language between quotes. -/
def notice : Script :=
  ⟨[⟨"title", " # a: b\r"⟩],
    [⟨"task", [⟨"var", ["x", "= "], 0⟩, ⟨"task", [" c:", "d"], 0⟩], 0⟩,
      ⟨"vary", [⟨"variant", ["e\r"], 0⟩], 0⟩]⟩

theorem writable_notice : notice.Writable where
  shaped := by
    refine ⟨by decide, by decide, ?_⟩
    have assigns : Command.Shaped ⟨"var", ["x", "= "], 0⟩ :=
      ⟨by decide, fun _ => ⟨"x", "= ", rfl, by decide, by decide⟩, fun other => absurd rfl other⟩
    have calls : Command.Shaped ⟨"task", [" c:", "d"], 0⟩ :=
      ⟨by decide, nofun, fun _ => .inr ⟨" c:", "d", rfl, by decide, by decide⟩⟩
    have varies : Command.Shaped ⟨"variant", ["e\r"], 0⟩ :=
      ⟨by decide, nofun, fun _ => .inl ⟨"e\r", rfl⟩⟩
    simp only [notice, List.forall_mem_cons]
    exact ⟨⟨assigns, calls, nofun⟩, ⟨varies, nofun⟩, nofun⟩
  values := by decide
  args := by decide

/-- The variable stands on the first line, and the second task on the fifth. -/
theorem rendering_of_notice :
    notice.Writable ∧
      ofText notice.render =
        ⟨⟨[⟨"title", " # a: b\r"⟩],
          [⟨"task", [⟨"var", ["x", "= "], 3⟩, ⟨"task", [" c:", "d"], 4⟩], 2⟩,
            ⟨"vary", [⟨"variant", ["e\r"], 6⟩], 5⟩]⟩, []⟩ :=
  ⟨writable_notice, (rendering writable_notice).1⟩

end Reading

end TaskScript
