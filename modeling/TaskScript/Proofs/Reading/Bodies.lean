import TaskScript.Proofs.Reading.Accounting
import TaskScript.Proofs.Reading.Shape

/-!
# Bodies — where the body of a task ends

The body of a task goes on until the next header.  A line that begins with `task` but is no header,
because a mark stands in its name or the colon is missing, is skipped like any other line that is not
understood, and what is written below it still goes to the task above.

- `Reading.EndsAt`           : no body goes on across a line
- `Reading.mem_headers_iff`  : the lines of tasks are the headers
- `Reading.bodies`           : headers end bodies, other lines that begin with `task` do not
- `Reading.misplaced_command` : a command that goes to the task above another `task` line
-/

namespace TaskScript

namespace Line

/-- A line that is not indented and whose first word is `task`. -/
def BeginsWithTask (raw : List Char) : Prop :=
  ∃ rest, raw = "task".toList ++ rest ∧ ∀ c ∈ rest.head?, CharClass.isWord c = false

variable {inTask : Bool} {raw : List Char}

theorem BeginsWithTask.head? (h : BeginsWithTask raw) : (Text.trim raw).head? = some 't' := by
  obtain ⟨rest, rfl, -⟩ := h
  have unindented : Text.trimStart ("task".toList ++ rest) = "task".toList ++ rest := rfl
  rw [Text.trim, unindented, Text.trimEnd_append ⟨'k', by decide, by decide⟩]
  rfl

/-- Such a line is a header or it is skipped, since commands are indented. -/
theorem BeginsWithTask.classify (h : BeginsWithTask raw)
    (noHeader : header? (Text.trim raw) = none) :
    classify inTask raw = .skipped (if inTask then .unrecognized else .outsideTask) := by
  have noCommand : command? raw = none := by
    obtain ⟨rest, rfl, -⟩ := h
    rfl
  have counts : Counts raw := by
    refine ⟨fun blank => ?_, ?_⟩
    · have first := h.head?
      rw [blank] at first
      exact nomatch first
    · rw [h.head?]
      decide
  rw [classify_of_counts counts, startsWithVar_of_head h.head?, noHeader, noCommand]
  cases inTask <;> rfl

end Line

namespace Reading

variable {lines before later : List (List Char)} {raw : List Char} {number : Nat}
  {reading after : Reading} {earlier : List Task} {last : Task}

/-! ## Headers -/

/-- A header adds a task with its number, and no other line changes the numbers of tasks. -/
theorem Adds.headers (h : Adds number raw reading after) :
    after.script.tasks.map Task.line = reading.script.tasks.map Task.line ++
      if (Line.header? (Text.trim raw)).isSome then [number] else [] := by
  cases h with
  | declaration closed is => simp [Line.header?_eq_none is nofun]
  | task is => simp [is]
  | command opened is => simp [opened, Line.header?_eq_none is nofun]
  | skipped is => simp [Line.header?_eq_none is nofun]

theorem headers_feed (reading : Reading) (number : Nat) (raw : List Char) :
    (reading.feed number raw).script.tasks.map Task.line = reading.script.tasks.map Task.line ++
      if (Line.header? (Text.trim raw)).isSome then [number] else [] := by
  by_cases counts : Line.Counts raw
  · exact (adds_feed counts).headers
  · have is : Line.classify false raw = .ignored := Line.classify_of_not_counts counts
    simp [feed_of_not_counts counts, Line.header?_eq_none is nofun]

theorem isLine_concat_iff {final : List Char} :
    IsLine (lines ++ [final]) number raw ↔
      IsLine lines number raw ∨ (number = lines.length + 1 ∧ raw = final) := by
  constructor
  · rintro ⟨index, rfl, found⟩
    rw [List.getElem?_append] at found
    split at found
    · exact .inl ⟨index, rfl, found⟩
    · next beyond =>
      obtain ⟨atEnd, same⟩ := List.getElem?_eq_some_iff.1 found
      rw [List.length_singleton] at atEnd
      refine .inr ⟨by omega, ?_⟩
      rw [← same, List.getElem_singleton]
  · rintro (stands | ⟨rfl, rfl⟩)
    · exact stands.concat final
    · exact isLine_last lines raw

/-- The lines of tasks are the headers. -/
theorem mem_headers_iff :
    number ∈ (ofLines lines).script.tasks.map Task.line ↔
      ∃ raw, IsLine lines number raw ∧ (Line.header? (Text.trim raw)).isSome = true := by
  induction lines using List.reverseRecOn with
  | nil => simp [ofLines, feedAll, empty, IsLine]
  | append_singleton lines final ih =>
    rw [ofLines_concat, headers_feed, List.mem_append, ih]
    constructor
    · rintro (⟨raw, stands, is⟩ | here)
      · exact ⟨raw, stands.concat final, is⟩
      · split at here
        · next is =>
          rw [List.mem_singleton.1 here]
          exact ⟨final, isLine_last lines final, is⟩
        · exact absurd here List.not_mem_nil
    · rintro ⟨raw, stands, is⟩
      rcases isLine_concat_iff.1 stands with stands | ⟨rfl, rfl⟩
      · exact .inl ⟨raw, stands, is⟩
      · rw [if_pos is]
        exact .inr List.mem_cons_self

/-! ## Bodies -/

/-- Tasks that begin before a line also end before it. -/
def EndsAt (number : Nat) (reading : Reading) : Prop :=
  ∀ task ∈ reading.script.tasks, task.line < number →
    ∀ command ∈ task.commands, command.line < number

/-- Of two tasks the one with the earlier header precedes the other. -/
theorem Ordered.precedes (h : Ordered reading) {task next : Task}
    (mem : task ∈ reading.script.tasks) (mem' : next ∈ reading.script.tasks)
    (lt : task.line < next.line) : Precedes task next := by
  obtain ⟨i, hi, rfl⟩ := List.getElem_of_mem mem
  obtain ⟨j, hj, rfl⟩ := List.getElem_of_mem mem'
  have inOrder := List.pairwise_iff_getElem.1 h.tasks
  rcases Nat.lt_trichotomy i j with before | rfl | behind
  · exact inOrder i j hi hj before
  · exact absurd lt (Nat.lt_irrefl _)
  · exact absurd lt (Nat.lt_asymm (inOrder j i hj hi behind).1)

/-- A header ends the bodies of all tasks above it. -/
theorem Accounted.endsAt (h : Accounted lines reading)
    (header : number ∈ reading.script.tasks.map Task.line) : EndsAt number reading := by
  obtain ⟨next, mem', rfl⟩ := List.mem_map.1 header
  intro task mem lt
  exact (h.ordered.precedes mem mem' lt).2

/-- A line that begins with `task` and is no header leaves the tasks as they are. -/
theorem feed_of_beginsWithTask (begins : Line.BeginsWithTask raw)
    (noHeader : Line.header? (Text.trim raw) = none) (reading : Reading) (number : Nat) :
    reading.feed number raw = { reading with skipped := reading.skipped ++
      [⟨number, String.ofList raw,
        if reading.inTask then .unrecognized else .outsideTask⟩] } := by
  rw [feed, begins.classify noHeader]
  rfl

/-- A command below such a line goes to the task above it. -/
theorem feed_command_of_beginsWithTask (begins : Line.BeginsWithTask raw)
    (noHeader : Line.header? (Text.trim raw) = none)
    (opened : reading.script.tasks = earlier ++ [last]) {below : List Char} {keyword : String}
    {args : List String} (is : Line.classify true below = .command keyword args) :
    ((reading.feed number raw).feed (number + 1) below).script.tasks =
      earlier ++ [{ last with commands := last.commands ++ [⟨keyword, args, number + 1⟩] }] := by
  have stays : (reading.feed number raw).script = reading.script := by
    rw [feed_of_beginsWithTask begins noHeader]
  have inTask : (reading.feed number raw).inTask = true := by
    simp [Reading.inTask, stays, opened]
  rw [feed, inTask, is, record, stays, opened, addToLast_concat]

/-- Where a line begins with `task`, the tasks above it end if it is a header.  If it is none, it is
skipped, and the task that was open stays open: it takes the command that stands on the next line. -/
theorem bodies (source : String) (split : Text.lines source.toList = before ++ raw :: later)
    (begins : Line.BeginsWithTask raw) :
    ((Line.header? (Text.trim raw)).isSome = true →
      EndsAt (before.length + 1) (ofText source)) ∧
    (Line.header? (Text.trim raw) = none →
      ofLines (before ++ [raw]) = { ofLines before with skipped := (ofLines before).skipped ++
        [⟨before.length + 1, String.ofList raw,
          if (ofLines before).inTask then .unrecognized else .outsideTask⟩] } ∧
      ∀ earlier last below keyword args, (ofLines before).script.tasks = earlier ++ [last] →
        Line.classify true below = .command keyword args →
          (ofLines (before ++ [raw, below])).script.tasks = earlier ++
            [{ last with commands := last.commands ++
                [⟨keyword, args, before.length + 2⟩] }]) := by
  constructor
  · intro is
    have stands : IsLine (Text.lines source.toList) (before.length + 1) raw :=
      ⟨before.length, rfl, by rw [split, List.getElem?_append_right (Nat.le_refl _)]; simp⟩
    exact (accounting source).endsAt (mem_headers_iff.2 ⟨raw, stands, is⟩)
  · intro noHeader
    refine ⟨?_, ?_⟩
    · rw [ofLines_concat, feed_of_beginsWithTask begins noHeader]
    · intro earlier last below keyword args opened is
      have two : before ++ [raw, below] = (before ++ [raw]) ++ [below] := by simp
      rw [two, ofLines_concat, ofLines_concat, List.length_append, List.length_singleton]
      exact feed_command_of_beginsWithTask begins noHeader opened is

/-- A text in which the name of the second task has a hyphen. -/
def hyphenated : String :=
  "task a:\ntask b-c:\n    ech \"x\"\n"

theorem lines_hyphenated : Text.lines hyphenated.toList =
    ["task a:".toList] ++ "task b-c:".toList :: ["    ech \"x\"".toList] := by
  decide +kernel

theorem beginsWithTask_hyphenated : Line.BeginsWithTask "task b-c:".toList :=
  ⟨' ' :: "b-c:".toList, rfl, stops_cons (by decide)⟩

/-- The second line of it is not a header, so that the bodies above it go on. -/
theorem bodies_of_hyphenated :
    Line.BeginsWithTask "task b-c:".toList ∧
      (ofLines ["task a:".toList, "task b-c:".toList, "    ech \"x\"".toList]).script.tasks =
        [⟨"a", [⟨"ech", ["x"], 3⟩], 1⟩] := by
  have noHeader : Line.header? (Text.trim "task b-c:".toList) = none := by decide +kernel
  have opened : (ofLines ["task a:".toList]).script.tasks = [] ++ [⟨"a", [], 1⟩] := by
    decide +kernel
  have is : Line.classify true "    ech \"x\"".toList = .command "ech" ["x"] := by decide +kernel
  have below := (bodies hyphenated lines_hyphenated beginsWithTask_hyphenated).2 noHeader
  exact ⟨beginsWithTask_hyphenated, below.2 _ _ _ _ _ opened is⟩

/-- A command that is read into a task although another line that begins with `task` stands between
the header of the task and the command. -/
theorem misplaced_command :
    ¬ ∀ source before raw later, Text.lines (String.toList source) = before ++ raw :: later →
      Line.BeginsWithTask raw → ∀ task ∈ (ofText source).script.tasks,
        task.line < before.length + 1 → ∀ command ∈ task.commands,
          ¬ before.length + 1 < command.line := by
  intro never
  have read : (ofText hyphenated).script.tasks = [⟨"a", [⟨"ech", ["x"], 3⟩], 1⟩] := by
    decide +kernel
  have apart := never _ _ _ _ lines_hyphenated beginsWithTask_hyphenated
    ⟨"a", [⟨"ech", ["x"], 3⟩], 1⟩ (by simp [read]) (by decide) ⟨"ech", ["x"], 3⟩
    List.mem_cons_self
  exact apart (by decide)

end Reading
end TaskScript
