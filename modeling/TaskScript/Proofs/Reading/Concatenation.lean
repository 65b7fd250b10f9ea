import TaskScript.Proofs.Reading.Classification

/-!
# Concatenation — reading a text in two parts

From one line to the next the reader keeps nothing but whether a task is open, and which one.  So the
second part of a text is read as if it stood alone if the first part has no header, and as if it
stood below a header of its own if the first part has one.

- `Text.lines_append`      : a text is cut behind a line feed, and its lines are too
- `Reading.Follows`        : one reading behind another
- `Reading.Resumes`        : one reading behind another, its first task going on with an open one
- `Reading.concatenation`  : the reading of a text in two parts

Both relations are kept by every line, although the two sides number it differently.
-/

namespace TaskScript

/-! ## Lines -/

namespace Text

variable {c : Char} {text : List Char}

/-- A carriage return before a line feed belongs to the terminator. -/
theorem lines_return (h : text.head? = some '\n') : lines ('\r' :: text) = lines text := by
  cases text with
  | nil => exact nomatch h
  | cons first text =>
    obtain rfl := Option.some.inj h
    rfl

/-- Any other character but a line feed stands on the first line. -/
theorem lines_cons (inside : c ≠ '\n') (apart : ¬ (c = '\r' ∧ text.head? = some '\n')) :
    lines (c :: text) = match lines text with
      | [] => [[c]]
      | line :: more => (c :: line) :: more := by
  refine lines.eq_4 c text inside ?_
  rintro rest rfl rfl
  exact apart ⟨rfl, rfl⟩

theorem lines_ne_nil (h : text ≠ []) : lines text ≠ [] := by
  unfold lines
  split
  · exact absurd rfl h
  · exact List.cons_ne_nil _ _
  · exact List.cons_ne_nil _ _
  · split <;> exact List.cons_ne_nil _ _

/-- A text may be cut behind a line feed. -/
theorem lines_append (front rest : List Char) :
    lines (front ++ '\n' :: rest) = lines (front ++ ['\n']) ++ lines rest := by
  induction front with
  | nil => rfl
  | cons c front ih =>
    -- what follows a carriage return is looked at, and it may be the line feed of the cut
    have sameHead : (front ++ '\n' :: rest).head? = (front ++ ['\n']).head? := by
      cases front <;> rfl
    rw [List.cons_append, List.cons_append]
    by_cases feed : c = '\n'
    · rw [feed]
      exact congrArg ([] :: ·) ih
    · by_cases ending : c = '\r' ∧ (front ++ ['\n']).head? = some '\n'
      · rw [ending.1, lines_return ending.2, lines_return (sameHead.trans ending.2), ih]
      · rw [lines_cons feed ending, lines_cons feed (sameHead ▸ ending), ih]
        cases found : lines (front ++ ['\n']) with
        | nil => exact absurd found (lines_ne_nil (by simp))
        | cons line more => rfl

/-- The lines of a text that is cut at its beginning or behind a line feed. -/
theorem lines_cut {first : String} (ends : first = "" ∨ ∃ front, first = front ++ "\n")
    (second : String) :
    lines (first ++ second).toList = lines first.toList ++ lines second.toList := by
  rw [String.toList_append]
  rcases ends with rfl | ⟨front, rfl⟩
  · rfl
  · rw [String.toList_append, List.append_assoc]
    exact lines_append front.toList second.toList

end Text

/-! ## Line numbers -/

/-- The same command `n` lines further down. -/
def Command.lower (n : Nat) (command : Command) : Command :=
  { command with line := command.line + n }

/-- The same task `n` lines further down. -/
def Task.lower (n : Nat) (task : Task) : Task :=
  { task with commands := task.commands.map (Command.lower n), line := task.line + n }

/-- The same skipped line `n` lines further down. -/
def SkippedLine.lower (n : Nat) (skip : SkippedLine) : SkippedLine :=
  { skip with line := skip.line + n }

namespace Reading

variable {n : Nat} {base cur joined : Reading}

theorem addToLast_lower (n : Nat) (command : Command) (tasks : List Task) :
    addToLast (command.lower n) (tasks.map (Task.lower n)) =
      (addToLast command tasks).map (Task.lower n) := by
  rcases List.eq_nil_or_concat tasks with rfl | ⟨earlier, last, rfl⟩
  · rfl
  · simp [addToLast_concat, Task.lower]

/-- The last of several tasks is the last of those that are behind others. -/
theorem addToLast_append (command : Command) (earlier : List Task) {tasks : List Task}
    (h : tasks ≠ []) : addToLast command (earlier ++ tasks) = earlier ++ addToLast command tasks := by
  obtain ⟨first, last, rfl⟩ : ∃ first last, tasks = first ++ [last] :=
    ⟨_, _, (List.dropLast_concat_getLast h).symm⟩
  rw [← List.append_assoc, addToLast_concat, addToLast_concat, List.append_assoc]

/-- What every line keeps is kept by all of them, although the two sides number them differently. -/
theorem feedAll_of_feed {Kept : Reading → Reading → Prop}
    (step : ∀ cur joined number raw, Kept cur joined →
      Kept (cur.feed number raw) (joined.feed (number + n) raw))
    (h : Kept cur joined) (number : Nat) (lines : List (List Char)) :
    Kept (cur.feedAll number lines) (joined.feedAll (number + n) lines) := by
  induction lines generalizing cur joined number with
  | nil => exact h
  | cons raw lines ih =>
    have next := ih (step cur joined number raw h) (number + 1)
    rwa [Nat.add_right_comm] at next

/-! ## No task is open -/

/-- `joined` is `base`, and behind it `cur`, `n` lines further down. -/
structure Follows (n : Nat) (base cur joined : Reading) : Prop where
  declarations : joined.script.declarations =
    base.script.declarations ++ cur.script.declarations
  tasks : joined.script.tasks = base.script.tasks ++ cur.script.tasks.map (Task.lower n)
  skipped : joined.skipped = base.skipped ++ cur.skipped.map (SkippedLine.lower n)

/-- If no task of `base` is open, then the lines behind it mean what they mean alone. -/
theorem Follows.feed (h : Follows n base cur joined) (closed : base.script.tasks = [])
    (number : Nat) (raw : List Char) :
    Follows n base (cur.feed number raw) (joined.feed (number + n) raw) := by
  obtain ⟨declarations, tasks, skipped⟩ := h
  have sameTasks : joined.script.tasks = cur.script.tasks.map (Task.lower n) := by
    rw [tasks, closed, List.nil_append]
  have same : joined.inTask = cur.inTask := by
    simp [inTask, sameTasks]
  unfold Reading.feed
  rw [same]
  cases Line.classify cur.inTask raw with
  | ignored => exact ⟨declarations, tasks, skipped⟩
  | declaration name value =>
    exact ⟨by simp [record, declarations], tasks, skipped⟩
  | header name =>
    exact ⟨declarations, by simp [record, tasks, Task.lower], skipped⟩
  | command keyword args =>
    refine ⟨declarations, ?_, skipped⟩
    rw [closed, List.nil_append]
    exact (congrArg (addToLast _) sameTasks).trans (addToLast_lower n ⟨keyword, args, number⟩ _)
  | skipped reason =>
    exact ⟨declarations, tasks, by simp [record, skipped, SkippedLine.lower]⟩

/-! ## A task is open -/

/-- `joined` is `base`, and behind it `cur`, `n` lines further down; the commands of the first task of
`cur` go to the last task of `base`, and its declarations are not taken over. -/
structure Resumes (n : Nat) (base cur joined : Reading) : Prop where
  declarations : joined.script.declarations = base.script.declarations
  tasks : ∃ earlier last first later,
    base.script.tasks = earlier ++ [last] ∧ cur.script.tasks = first :: later ∧
      joined.script.tasks = earlier ++
        { last with commands := last.commands ++ first.commands.map (Command.lower n) } ::
          later.map (Task.lower n)
  skipped : joined.skipped = base.skipped ++ cur.skipped.map (SkippedLine.lower n)

theorem Resumes.inTask (h : Resumes n base cur joined) :
    joined.inTask = true ∧ cur.inTask = true := by
  obtain ⟨earlier, last, first, later, -, opened, same⟩ := h.tasks
  simp [Reading.inTask, opened, same]

/-- A command goes to the last task, whether this is the one that was open or a later one. -/
theorem Resumes.command (h : Resumes n base cur joined) (number : Nat) (raw : List Char)
    (keyword : String) (args : List String) :
    Resumes n base (cur.record number raw (.command keyword args))
      (joined.record (number + n) raw (.command keyword args)) := by
  obtain ⟨declarations, ⟨earlier, last, first, later, opened, among, same⟩, skipped⟩ := h
  refine ⟨declarations, ?_, skipped⟩
  have recorded : (joined.record (number + n) raw (.command keyword args)).script.tasks =
      earlier ++ addToLast (Command.lower n ⟨keyword, args, number⟩)
        ({ last with commands := last.commands ++ first.commands.map (Command.lower n) } ::
          later.map (Task.lower n)) := by
    rw [← addToLast_append _ _ (List.cons_ne_nil _ _), ← same]
    rfl
  rw [recorded]
  -- the open task grows if no later one has begun, and else the last of these does
  cases later with
  | nil =>
    refine ⟨earlier, last, { first with commands := first.commands ++ [⟨keyword, args, number⟩] }, [],
      opened, ?_, ?_⟩
    · simp [record, among, addToLast]
    · simp [addToLast]
  | cons second later =>
    refine ⟨earlier, last, first, addToLast ⟨keyword, args, number⟩ (second :: later), opened, ?_, ?_⟩
    · simp [record, among, addToLast]
    · rw [← addToLast_lower]
      rfl

/-- If a task of `base` is open, then the lines behind it mean what they mean below any header. -/
theorem Resumes.feed (h : Resumes n base cur joined) (number : Nat) (raw : List Char) :
    Resumes n base (cur.feed number raw) (joined.feed (number + n) raw) := by
  obtain ⟨joinedOpen, curOpen⟩ := h.inTask
  unfold Reading.feed
  rw [joinedOpen, curOpen]
  cases is : Line.classify true raw with
  | ignored => exact h
  | declaration name value => exact nomatch Line.inTask_of_declaration is
  | header name =>
    obtain ⟨earlier, last, first, later, opened, among, same⟩ := h.tasks
    refine ⟨h.declarations, ⟨earlier, last, first, later ++ [⟨name, [], number⟩], opened, ?_, ?_⟩,
      h.skipped⟩
    · simp [record, among]
    · simp [record, same, Task.lower]
  | command keyword args => exact h.command number raw keyword args
  | skipped reason =>
    exact ⟨h.declarations, h.tasks, by simp [record, h.skipped, SkippedLine.lower]⟩

/-! ## Two parts -/

theorem follows_ofLines {first : List (List Char)}
    (idle : ∀ raw ∈ first, Line.header? (Text.trim raw) = none) (second : List (List Char)) :
    Follows first.length (ofLines first) (ofLines second) (ofLines (first ++ second)) := by
  have closed := tasks_eq_nil_iff.2 idle
  have start : Follows first.length (ofLines first) empty (ofLines first) :=
    ⟨by simp [empty], by simp [empty], by simp [empty]⟩
  rw [ofLines, ofLines, ofLines, feedAll_append]
  exact feedAll_of_feed (fun _ _ number raw h => h.feed closed number raw) start 1 second

/-- Below a header on the first line its task is open, and has no commands yet. -/
theorem ofLines_header {raw : List Char} {name : String}
    (h : Line.header? (Text.trim raw) = some name) (lines : List (List Char)) :
    ofLines (raw :: lines) = (Reading.mk ⟨[], [⟨name, [], 1⟩]⟩ []).feedAll 2 lines := by
  have is : Line.classify empty.inTask raw = .header name := Line.classify_eq_header_iff.2 h
  rw [ofLines, feedAll, feed, is]
  rfl

theorem resumes_ofLines {first : List (List Char)} {header : List Char} {name : String}
    (opens : ∃ raw ∈ first, ∃ name, Line.header? (Text.trim raw) = some name)
    (above : Line.header? (Text.trim header) = some name) (second : List (List Char)) :
    Resumes (first.length - 1) (ofLines first) (ofLines (header :: second))
      (ofLines (first ++ second)) := by
  obtain ⟨raw, mem, opener, is⟩ := opens
  have opened : (ofLines first).script.tasks ≠ [] := by
    intro closed
    have none' := tasks_eq_nil_iff.1 closed raw mem
    exact nomatch none'.symm.trans is
  have start : Resumes (first.length - 1) (ofLines first) ⟨⟨[], [⟨name, [], 1⟩]⟩, []⟩
      (ofLines first) := by
    have split := List.dropLast_concat_getLast opened
    exact ⟨rfl, ⟨_, _, _, [], split.symm, rfl, by simp [split]⟩, by simp⟩
  -- the header takes the place of the last line of the first part, which has lines
  have seam : 2 + (first.length - 1) = 1 + first.length := by
    have some' := List.length_pos_of_mem mem
    omega
  have run := feedAll_of_feed (fun _ _ number raw h => h.feed number raw) start 2 second
  rwa [seam, ← ofLines_header above, ofLines, ← feedAll_append] at run

/-- Read in two parts, the first of which is empty or ends in a line feed, a text has what its first
part has and behind it what its second part has.  If there is no header in the first part, then the
second is read alone; if there is one, the second is read below a header. -/
theorem concatenation (first second : String) (ends : first = "" ∨ ∃ front, first = front ++ "\n") :
    ((∀ raw ∈ Text.lines first.toList, Line.header? (Text.trim raw) = none) →
      Follows (Text.lines first.toList).length (ofText first) (ofText second)
        (ofText (first ++ second))) ∧
    ((∃ raw ∈ Text.lines first.toList, ∃ name, Line.header? (Text.trim raw) = some name) →
      Resumes ((Text.lines first.toList).length - 1) (ofText first)
        (ofText ("task x:\n" ++ second)) (ofText (first ++ second))) := by
  have cut := Text.lines_cut ends second
  have below : Text.lines ("task x:\n" ++ second).toList =
      "task x:".toList :: Text.lines second.toList :=
    Text.lines_cut (.inr ⟨"task x:", by decide⟩) second
  constructor
  · intro idle
    have parts := follows_ofLines idle (Text.lines second.toList)
    rwa [← cut] at parts
  · intro opens
    have header : Line.header? (Text.trim "task x:".toList) = some "x" := by decide +kernel
    have parts := resumes_ofLines opens header (Text.lines second.toList)
    rwa [← cut, ← below] at parts

/-- Below a declaration `var b` is one more, below a header it is a command. -/
theorem concatenation_of_leaflet :
    let leaflet := "var b = \"2\"\ntask u:\n  ech \"%b%\"\n"
    Follows 1 (ofText "var a = \"1\"\n") (ofText leaflet) (ofText ("var a = \"1\"\n" ++ leaflet)) ∧
      Resumes 1 (ofText "# notes\ntask t:\n") (ofText ("task x:\n" ++ leaflet))
        (ofText ("# notes\ntask t:\n" ++ leaflet)) ∧
      (ofText ("# notes\ntask t:\n" ++ leaflet)).script =
        ⟨[], [⟨"t", [⟨"var", ["b", "2"], 3⟩], 2⟩, ⟨"u", [⟨"ech", ["%b%"], 5⟩], 4⟩]⟩ := by
  intro leaflet
  obtain ⟨alone, -⟩ := concatenation "var a = \"1\"\n" leaflet
    (.inr ⟨"var a = \"1\"", by decide⟩)
  obtain ⟨-, below⟩ := concatenation "# notes\ntask t:\n" leaflet
    (.inr ⟨"# notes\ntask t:", by decide⟩)
  refine ⟨alone (by decide +kernel), below ⟨"task t:".toList, by decide +kernel, "t", ?_⟩, ?_⟩
  · decide +kernel
  · decide +kernel

end Reading
end TaskScript
