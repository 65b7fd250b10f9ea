import Mathlib.Data.List.Induction
import TaskScript.Proofs.Reference.Literal
import TaskScript.Script.Reading

/-!
# Classification — what a line is, and what it adds to a reading

Which lines count does not depend on the lines before them, nor does which lines are headers.  Whether
a task is open decides about the others.

- `Line.Counts`            : a line that is neither blank nor a comment
- `Line.classify_eq_header_iff` : headers are headers wherever they stand
- `Reading.Adds`           : one declaration, one task, one command or one skipped line is added
- `Reading.adds_feed`      : a line that counts adds exactly that
- `Reading.keeps_feedAll`  : what has been read stays
-/

namespace TaskScript

namespace Line

/-- A line that is neither blank nor a comment. -/
def Counts (raw : List Char) : Prop :=
  Text.trim raw ≠ [] ∧ (Text.trim raw).head? ≠ some '#'

instance (raw : List Char) : Decidable (Counts raw) :=
  inferInstanceAs (Decidable (_ ∧ _))

variable {inTask : Bool} {raw trimmed : List Char} {name : String}

theorem classify_of_not_counts (h : ¬ Counts raw) : classify inTask raw = .ignored := by
  have skip : (Text.trim raw).isEmpty || (Text.trim raw).head? == some '#' := by
    by_cases blank : Text.trim raw = []
    · simp [blank]
    · have comment : (Text.trim raw).head? = some '#' :=
        Classical.not_not.1 fun other => h ⟨blank, other⟩
      simp [comment]
  simp only [classify, skip, if_true]

/-- A header begins with the first letter of its keyword. -/
theorem head_of_header? (h : header? trimmed = some name) : trimmed.head? = some 't' := by
  have starts : Pattern.match? (Pattern.word "task" ++ [gap, Line.name, blanks,
      Pattern.Step.char ':']) trimmed ≠ none := by
    intro none'
    rw [header?, none'] at h
    exact nomatch h
  cases trimmed with
  | nil => exact absurd rfl starts
  | cons c rest =>
    by_cases first : c = 't'
    · rw [first]
      rfl
    · exact absurd (Pattern.match?_char_of_ne _ rest first) starts

theorem startsWithVar_of_head (h : trimmed.head? = some 't') : startsWithVar trimmed = false := by
  unfold startsWithVar
  split
  · cases h
  · rfl

theorem counts_of_header? (h : header? (Text.trim raw) = some name) : Counts raw := by
  have first := head_of_header? h
  constructor
  · intro blank
    rw [blank] at first
    exact nomatch first
  · rw [first]
    decide

/-- How a line that counts is classified. -/
theorem classify_of_counts (h : Counts raw) :
    classify inTask raw =
      if startsWithVar (Text.trim raw) then
        match declaration? (Text.trim raw) with
        | some (declared, value) =>
          if inTask then command Keyword.var.text [declared, value] else declaration declared value
        | none => skipped .malformedVariable
      else
        match header? (Text.trim raw) with
        | some declared => header declared
        | none =>
          if inTask then
            match command? raw with
            | some (keyword, args) => command keyword args
            | none => skipped .unrecognized
          else
            skipped .outsideTask := by
  have keep : ¬ ((Text.trim raw).isEmpty || (Text.trim raw).head? == some '#') := by
    simpa [Counts] using h
  exact if_neg keep

theorem counts_of_classify {line : Line} (h : classify inTask raw = line) (ne : line ≠ .ignored) :
    Counts raw := by
  refine Classical.byContradiction fun idle => ne ?_
  rw [← h, classify_of_not_counts idle]

theorem classify_ne_ignored (h : Counts raw) : classify inTask raw ≠ .ignored := by
  rw [classify_of_counts h]
  repeat' split
  all_goals exact nofun

/-- Headers are headers wherever they stand. -/
theorem classify_eq_header_iff :
    classify inTask raw = .header name ↔ header? (Text.trim raw) = some name := by
  constructor
  · intro h
    rw [classify_of_counts (counts_of_classify h nofun)] at h
    repeat' split at h
    all_goals cases h
    assumption
  · intro h
    rw [classify_of_counts (counts_of_header? h), startsWithVar_of_head (head_of_header? h), h]
    rfl

theorem header?_eq_none {line : Line} (h : classify inTask raw = line)
    (other : ∀ name, line ≠ .header name) : header? (Text.trim raw) = none := by
  cases found : header? (Text.trim raw) with
  | none => rfl
  | some name => exact absurd (h.symm.trans (classify_eq_header_iff.2 found)) (other name)

/-- Declarations stand outside of tasks. -/
theorem inTask_of_declaration {value : String}
    (h : classify inTask raw = .declaration name value) : inTask = false := by
  rw [classify_of_counts (counts_of_classify h nofun)] at h
  repeat' split at h
  all_goals cases h
  exact Bool.eq_false_iff.2 ‹¬ inTask = true›

/-- Commands stand in tasks. -/
theorem inTask_of_command {keyword : String} {args : List String}
    (h : classify inTask raw = .command keyword args) : inTask = true := by
  rw [classify_of_counts (counts_of_classify h nofun)] at h
  repeat' split at h
  all_goals cases h
  all_goals assumption

end Line

namespace Reading

variable {reading : Reading} {number : Nat} {raw : List Char} {lines : List (List Char)}

/-! ## Reading line by line -/

/-- The reading of some lines. -/
def ofLines (lines : List (List Char)) : Reading :=
  empty.feedAll 1 lines

theorem ofLines_concat (lines : List (List Char)) (raw : List Char) :
    ofLines (lines ++ [raw]) = (ofLines lines).feed (lines.length + 1) raw := by
  rw [ofLines, feedAll_append, Nat.add_comm 1]
  rfl

theorem addToLast_concat (command : Command) (earlier : List Task) (last : Task) :
    addToLast command (earlier ++ [last]) =
      earlier ++ [{ last with commands := last.commands ++ [command] }] := by
  induction earlier with
  | nil => rfl
  | cons task earlier ih =>
    cases earlier with
    | nil => rfl
    | cons second earlier => exact congrArg (task :: ·) ih

/-- The last task is open. -/
theorem exists_last_of_inTask (h : reading.inTask = true) :
    ∃ earlier last, reading.script.tasks = earlier ++ [last] := by
  have some_ : reading.script.tasks ≠ [] := by
    simpa [inTask] using h
  exact ⟨_, _, (List.dropLast_concat_getLast some_).symm⟩

theorem inTask_eq_false_iff : reading.inTask = false ↔ reading.script.tasks = [] := by
  simp [inTask]

/-! ## What a line adds -/

/-- The line `raw` of this number adds one thing to a reading, and what it is: a declaration if no
task is open, a task, a command of the last task, or a skipped line. -/
inductive Adds (number : Nat) (raw : List Char) (reading : Reading) : Reading → Prop where
  | declaration {name value : String} (closed : reading.script.tasks = [])
      (is : Line.classify false raw = .declaration name value) :
      Adds number raw reading
        { reading with script := { reading.script with
            declarations := reading.script.declarations ++ [⟨name, value⟩] } }
  | task {name : String} (is : Line.header? (Text.trim raw) = some name) :
      Adds number raw reading
        { reading with script := { reading.script with
            tasks := reading.script.tasks ++ [⟨name, [], number⟩] } }
  | command {earlier : List Task} {last : Task} {keyword : String} {args : List String}
      (opened : reading.script.tasks = earlier ++ [last])
      (is : Line.classify true raw = .command keyword args) :
      Adds number raw reading
        { reading with script := { reading.script with
            tasks := earlier ++
              [{ last with commands := last.commands ++ [⟨keyword, args, number⟩] }] } }
  | skipped {reason : SkipReason} (is : Line.classify reading.inTask raw = .skipped reason) :
      Adds number raw reading
        { reading with skipped := reading.skipped ++ [⟨number, String.ofList raw, reason⟩] }

theorem feed_of_not_counts (h : ¬ Line.Counts raw) : reading.feed number raw = reading := by
  rw [feed, Line.classify_of_not_counts h]
  rfl

/-- A line that counts adds one thing. -/
theorem adds_feed (h : Line.Counts raw) : Adds number raw reading (reading.feed number raw) := by
  unfold feed
  cases is : Line.classify reading.inTask raw with
  | ignored => exact absurd is (Line.classify_ne_ignored h)
  | declaration name value =>
    have closed := Line.inTask_of_declaration is
    rw [closed] at is
    exact .declaration (inTask_eq_false_iff.1 closed) is
  | header name => exact .task (Line.classify_eq_header_iff.1 is)
  | command keyword args =>
    have opened := Line.inTask_of_command is
    rw [opened] at is
    obtain ⟨earlier, last, same⟩ := exists_last_of_inTask opened
    have added : Adds number raw reading _ := .command same is
    rw [record, same, addToLast_concat]
    exact added
  | skipped reason => exact .skipped is

/-- The first header is the first task. -/
theorem Adds.tasks_eq_nil_iff {after : Reading} (h : Adds number raw reading after) :
    after.script.tasks = [] ↔
      reading.script.tasks = [] ∧ Line.header? (Text.trim raw) = none := by
  cases h with
  | declaration closed is => simp [Line.header?_eq_none is nofun]
  | task is => simp [is]
  | command opened is => simp [opened]
  | skipped is => simp [Line.header?_eq_none is nofun]

/-- A task is open once there has been a header, and not before. -/
theorem tasks_eq_nil_iff :
    (ofLines lines).script.tasks = [] ↔
      ∀ raw ∈ lines, Line.header? (Text.trim raw) = none := by
  induction lines using List.reverseRecOn with
  | nil => simp [ofLines, feedAll, empty]
  | append_singleton lines raw ih =>
    have stays : (∀ line ∈ lines ++ [raw], Line.header? (Text.trim line) = none) ↔
        (ofLines lines).script.tasks = [] ∧ Line.header? (Text.trim raw) = none := by
      simp [ih, or_imp, forall_and]
    rw [ofLines_concat, stays]
    by_cases counts : Line.Counts raw
    · exact (adds_feed counts).tasks_eq_nil_iff
    · have is : Line.classify false raw = .ignored := Line.classify_of_not_counts counts
      have noHeader := Line.header?_eq_none is (by simp)
      simp [feed_of_not_counts counts, noHeader]

/-! ## What stays -/

/-- What has been read stays: later lines only add to it, and a task only gets more commands. -/
structure Keeps (reading after : Reading) : Prop where
  declarations : reading.script.declarations <+: after.script.declarations
  tasks : ∀ task ∈ reading.script.tasks, ∃ grown ∈ after.script.tasks,
    grown.name = task.name ∧ grown.line = task.line ∧ task.commands <+: grown.commands
  skipped : reading.skipped <+: after.skipped

theorem Keeps.refl (reading : Reading) : Keeps reading reading where
  declarations := List.prefix_rfl
  tasks task mem := ⟨task, mem, rfl, rfl, List.prefix_rfl⟩
  skipped := List.prefix_rfl

theorem Keeps.trans {next after : Reading} (h : Keeps reading next) (h' : Keeps next after) :
    Keeps reading after where
  declarations := h.declarations.trans h'.declarations
  tasks := by
    intro task mem
    rcases h.tasks task mem with ⟨grown, mem, name, line, commands⟩
    rcases h'.tasks grown mem with ⟨grown', mem', name', line', commands'⟩
    exact ⟨grown', mem', name'.trans name, line'.trans line, commands.trans commands'⟩
  skipped := h.skipped.trans h'.skipped

theorem Adds.keeps {after : Reading} (h : Adds number raw reading after) : Keeps reading after := by
  have old := Keeps.refl reading
  cases h with
  | declaration closed is => exact ⟨List.prefix_append _ _, old.tasks, old.skipped⟩
  | task is =>
    refine ⟨old.declarations, ?_, old.skipped⟩
    intro task mem
    exact ⟨task, List.mem_append_left _ mem, rfl, rfl, List.prefix_rfl⟩
  | command opened is =>
    refine ⟨old.declarations, ?_, old.skipped⟩
    intro task mem
    rw [opened] at mem
    rcases List.mem_append.1 mem with before | isLast
    · exact ⟨task, List.mem_append_left _ before, rfl, rfl, List.prefix_rfl⟩
    · -- the last task is the one that grows
      rcases List.mem_singleton.1 isLast with rfl
      exact ⟨_, List.mem_append_right _ List.mem_cons_self, rfl, rfl, List.prefix_append _ _⟩
  | skipped is => exact ⟨old.declarations, old.tasks, List.prefix_append _ _⟩

theorem keeps_feed (reading : Reading) (number : Nat) (raw : List Char) :
    Keeps reading (reading.feed number raw) := by
  by_cases counts : Line.Counts raw
  · exact (adds_feed counts).keeps
  · rw [feed_of_not_counts counts]
    exact Keeps.refl reading

theorem keeps_feedAll (reading : Reading) (number : Nat) (lines : List (List Char)) :
    Keeps reading (reading.feedAll number lines) := by
  induction lines generalizing reading number with
  | nil => exact Keeps.refl reading
  | cons raw lines ih => exact (keeps_feed reading number raw).trans (ih _ _)

/-- What the first lines of a text give is part of what all of them give. -/
theorem keeps_ofText {source : String} {front later : List (List Char)}
    (split : Text.lines source.toList = front ++ later) :
    Keeps (ofLines front) (ofText source) := by
  rw [ofText, split, feedAll_append]
  exact keeps_feedAll _ _ _

end Reading
end TaskScript
