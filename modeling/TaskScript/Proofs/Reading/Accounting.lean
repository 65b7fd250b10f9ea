import Mathlib
import TaskScript.Proofs.Reading.Classification

/-!
# Accounting — every line of a text has its place in the reading

A line that counts gives one declaration, one task, one command or one skipped line, and what it
gives carries the number of that line.  So nothing is lost, nothing is read twice, and the order of
the text is kept.

- `Reading.Sourced`    : what has been read, and from which lines
- `Reading.Ordered`    : the numbers increase, and commands stay between the headers
- `Reading.Accounted`  : the whole account of a text
- `Reading.accounting` : every reading has one

All of it is shown by induction on the lines, the last one first.
-/

namespace TaskScript
namespace Reading

variable {reading after : Reading} {number : Nat} {raw : List Char} {lines : List (List Char)}

/-! ## How much has been read -/

/-- The number of things that have been read. -/
def size (reading : Reading) : Nat :=
  reading.script.declarations.length + reading.script.tasks.length +
    (reading.script.tasks.map fun task => task.commands.length).sum + reading.skipped.length

theorem Adds.size (h : Adds number raw reading after) : after.size = reading.size + 1 := by
  cases h with
  | declaration closed is =>
    simp only [Reading.size, List.length_append, List.length_singleton]
    omega
  | task is =>
    simp only [Reading.size, List.length_append, List.length_singleton, List.map_append,
      List.map_singleton, List.length_nil, List.sum_append, List.sum_singleton]
    omega
  | command opened is =>
    simp only [Reading.size, opened, List.length_append, List.length_singleton, List.map_append,
      List.map_singleton, List.sum_append, List.sum_singleton]
    omega
  | skipped is =>
    simp only [Reading.size, List.length_append, List.length_singleton]
    omega

/-- As many things have been read as there are lines that count. -/
theorem size_ofLines (lines : List (List Char)) :
    (ofLines lines).size = lines.countP fun raw => decide (Line.Counts raw) := by
  induction lines using List.reverseRecOn with
  | nil => rfl
  | append_singleton lines raw ih =>
    rw [ofLines_concat, List.countP_append, List.countP_singleton]
    by_cases counts : Line.Counts raw
    · rw [(adds_feed counts).size, ih]
      simp [counts]
    · rw [feed_of_not_counts counts, ih]
      simp [counts]

/-! ## One more at the end -/

section Concat

variable {α : Type} {P : α → Prop} {R : α → α → Prop} {xs : List α} {x : α}

theorem forall_mem_concat : (∀ y ∈ xs ++ [x], P y) ↔ (∀ y ∈ xs, P y) ∧ P x := by
  rw [List.forall_mem_append, List.forall_mem_singleton]

theorem pairwise_concat : (xs ++ [x]).Pairwise R ↔ xs.Pairwise R ∧ ∀ y ∈ xs, R y x := by
  simp [List.pairwise_append]

end Concat

/-! ## Where it has been read -/

/-- The line of a text that has this number, counted from one. -/
def IsLine (lines : List (List Char)) (number : Nat) (raw : List Char) : Prop :=
  ∃ index, number = index + 1 ∧ lines[index]? = some raw

theorem IsLine.concat (h : IsLine lines number raw) (last : List Char) :
    IsLine (lines ++ [last]) number raw := by
  obtain ⟨index, same, found⟩ := h
  have within := (List.getElem?_eq_some_iff.1 found).1
  exact ⟨index, same, (List.getElem?_append_left within).trans found⟩

theorem isLine_last (lines : List (List Char)) (raw : List Char) :
    IsLine (lines ++ [raw]) (lines.length + 1) raw :=
  ⟨lines.length, rfl, List.getElem?_concat_length⟩

theorem IsLine.le_length (h : IsLine lines number raw) : number ≤ lines.length := by
  obtain ⟨index, rfl, found⟩ := h
  exact (List.getElem?_eq_some_iff.1 found).1

/-- Everything that has been read stands on the line whose number it carries. -/
structure Sourced (lines : List (List Char)) (reading : Reading) : Prop where
  tasks : ∀ task ∈ reading.script.tasks, ∃ raw, IsLine lines task.line raw ∧
    Line.header? (Text.trim raw) = some task.name
  commands : ∀ task ∈ reading.script.tasks, ∀ command ∈ task.commands, ∃ raw,
    IsLine lines command.line raw ∧
      Line.classify true raw = .command command.keyword command.args
  skipped : ∀ skip ∈ reading.skipped, ∃ raw, IsLine lines skip.line raw ∧
    skip.text = String.ofList raw ∧ ∃ inTask, Line.classify inTask raw = .skipped skip.reason

/-- A line more changes nothing for what has been read before. -/
theorem Sourced.concat (h : Sourced lines reading) (last : List Char) :
    Sourced (lines ++ [last]) reading where
  tasks := by
    intro task mem
    obtain ⟨raw, stands, is⟩ := h.tasks task mem
    exact ⟨raw, stands.concat last, is⟩
  commands := by
    intro task mem command memc
    obtain ⟨raw, stands, is⟩ := h.commands task mem command memc
    exact ⟨raw, stands.concat last, is⟩
  skipped := by
    intro skip mem
    obtain ⟨raw, stands, same, is⟩ := h.skipped skip mem
    exact ⟨raw, stands.concat last, same, is⟩

theorem Sourced.adds (h : Sourced lines reading)
    (adds : Adds (lines.length + 1) raw reading after) : Sourced (lines ++ [raw]) after := by
  have old := h.concat raw
  have new := isLine_last lines raw
  cases adds with
  | declaration closed is => exact ⟨old.tasks, old.commands, old.skipped⟩
  | task is =>
    refine ⟨?_, ?_, old.skipped⟩
    · exact forall_mem_concat.2 ⟨old.tasks, raw, new, is⟩
    · exact forall_mem_concat.2 ⟨old.commands, nofun⟩
  | command opened is =>
    obtain ⟨tasks, commands, skipped⟩ := old
    rw [opened] at tasks commands
    obtain ⟨tasks, headerOfLast⟩ := forall_mem_concat.1 tasks
    obtain ⟨commands, commandsOfLast⟩ := forall_mem_concat.1 commands
    refine ⟨?_, ?_, skipped⟩
    · exact forall_mem_concat.2 ⟨tasks, headerOfLast⟩
    · exact forall_mem_concat.2 ⟨commands, forall_mem_concat.2 ⟨commandsOfLast, raw, new, is⟩⟩
  | skipped is =>
    refine ⟨old.tasks, old.commands, ?_⟩
    exact forall_mem_concat.2 ⟨old.skipped, raw, new, rfl, _, is⟩

theorem sourced_ofLines (lines : List (List Char)) : Sourced lines (ofLines lines) := by
  induction lines using List.reverseRecOn with
  | nil => exact ⟨nofun, nofun, nofun⟩
  | append_singleton lines raw ih =>
    rw [ofLines_concat]
    by_cases counts : Line.Counts raw
    · exact ih.adds (adds_feed counts)
    · rw [feed_of_not_counts counts]
      exact ih.concat raw

/-! ## In which order -/

/-- A task whose header and commands stand before the header of another one. -/
def Precedes (earlier later : Task) : Prop :=
  earlier.line < later.line ∧ ∀ command ∈ earlier.commands, command.line < later.line

/-- Headers, commands and skipped lines stand in the order of the text, and the commands of a task
between its header and the next one. -/
structure Ordered (reading : Reading) : Prop where
  tasks : reading.script.tasks.Pairwise Precedes
  below : ∀ task ∈ reading.script.tasks, ∀ command ∈ task.commands, task.line < command.line
  commands : ∀ task ∈ reading.script.tasks, (task.commands.map Command.line).Pairwise (· < ·)
  skipped : (reading.skipped.map SkippedLine.line).Pairwise (· < ·)

/-- What is read last stands behind everything that has been read before. -/
theorem Sourced.lt (h : Sourced lines reading) :
    (∀ task ∈ reading.script.tasks, task.line < lines.length + 1) ∧
    (∀ task ∈ reading.script.tasks, ∀ command ∈ task.commands, command.line < lines.length + 1) ∧
    ∀ skip ∈ reading.skipped, skip.line < lines.length + 1 := by
  refine ⟨?_, ?_, ?_⟩
  · intro task mem
    obtain ⟨raw, stands, -⟩ := h.tasks task mem
    exact Nat.lt_succ_of_le stands.le_length
  · intro task mem command memc
    obtain ⟨raw, stands, -⟩ := h.commands task mem command memc
    exact Nat.lt_succ_of_le stands.le_length
  · intro skip mem
    obtain ⟨raw, stands, -⟩ := h.skipped skip mem
    exact Nat.lt_succ_of_le stands.le_length

theorem Ordered.adds (h : Ordered reading) (sourced : Sourced lines reading)
    (adds : Adds (lines.length + 1) raw reading after) : Ordered after := by
  obtain ⟨headers, commands, skips⟩ := sourced.lt
  obtain ⟨tasks, below, inner, skipped⟩ := h
  cases adds with
  | declaration closed is => exact ⟨tasks, below, inner, skipped⟩
  | task is =>
    refine ⟨?_, ?_, ?_, skipped⟩
    · exact pairwise_concat.2 ⟨tasks, fun task mem => ⟨headers task mem, commands task mem⟩⟩
    · exact forall_mem_concat.2 ⟨below, nofun⟩
    · exact forall_mem_concat.2 ⟨inner, List.Pairwise.nil⟩
  | command opened is =>
    rw [opened] at tasks below inner headers commands
    obtain ⟨among, before⟩ := pairwise_concat.1 tasks
    obtain ⟨below, belowLast⟩ := forall_mem_concat.1 below
    obtain ⟨inner, innerOfLast⟩ := forall_mem_concat.1 inner
    have afterHeader := (forall_mem_concat.1 headers).2
    have afterCommands := (forall_mem_concat.1 commands).2
    refine ⟨?_, ?_, ?_, skipped⟩
    · -- the last task precedes no other one, so that its commands do not matter
      exact pairwise_concat.2 ⟨among, before⟩
    · exact forall_mem_concat.2 ⟨below, forall_mem_concat.2 ⟨belowLast, afterHeader⟩⟩
    · refine forall_mem_concat.2 ⟨inner, ?_⟩
      rw [List.map_append]
      exact pairwise_concat.2 ⟨innerOfLast, by simpa using afterCommands⟩
  | skipped is =>
    refine ⟨tasks, below, inner, ?_⟩
    rw [List.map_append]
    exact pairwise_concat.2 ⟨skipped, by simpa using skips⟩

theorem ordered_ofLines (lines : List (List Char)) : Ordered (ofLines lines) := by
  induction lines using List.reverseRecOn with
  | nil => exact ⟨.nil, nofun, nofun, .nil⟩
  | append_singleton lines raw ih =>
    rw [ofLines_concat]
    by_cases counts : Line.Counts raw
    · exact ih.adds (sourced_ofLines lines) (adds_feed counts)
    · rwa [feed_of_not_counts counts]

/-! ## Declarations -/

/-- The lines before the first header. -/
def beforeHeaders (lines : List (List Char)) : List (List Char) :=
  lines.takeWhile fun raw => (Line.header? (Text.trim raw)).isNone

/-- The variable that a line declares outside of tasks. -/
def declared? (raw : List Char) : Option Variable :=
  match Line.classify false raw with
  | .declaration name value => some ⟨name, value⟩
  | _ => none

theorem declared?_of_classify {line : Line} (is : Line.classify false raw = line)
    (other : ∀ name value, line ≠ .declaration name value) : declared? raw = none := by
  unfold declared?
  split
  · next found => exact absurd (is.symm.trans found) (other _ _)
  · rfl

theorem Adds.declarations (h : Adds number raw reading after) :
    after.script.declarations =
      reading.script.declarations ++
        if reading.script.tasks = [] then (declared? raw).toList else [] := by
  cases h with
  | declaration closed is => simp [closed, declared?, is]
  | task is => simp [declared?_of_classify (Line.classify_eq_header_iff.2 is) nofun]
  | command opened is => simp [opened]
  | skipped is =>
    by_cases closed : reading.script.tasks = []
    · rw [inTask_eq_false_iff.2 closed] at is
      simp [declared?_of_classify is nofun]
    · simp [closed]

/-- A line declares a variable if no task is open, and only then. -/
theorem declarations_feed (reading : Reading) (number : Nat) (raw : List Char) :
    (reading.feed number raw).script.declarations =
      reading.script.declarations ++
        if reading.script.tasks = [] then (declared? raw).toList else [] := by
  by_cases counts : Line.Counts raw
  · exact (adds_feed counts).declarations
  · have idle := declared?_of_classify (Line.classify_of_not_counts counts) nofun
    simp [feed_of_not_counts counts, idle]

/-- A header declares no variable. -/
theorem declared?_beforeHeaders_singleton (raw : List Char) :
    (beforeHeaders [raw]).filterMap declared? = (declared? raw).toList := by
  unfold beforeHeaders
  cases header : Line.header? (Text.trim raw) with
  | none => cases found : declared? raw <;> simp [header, found]
  | some name =>
    have idle := declared?_of_classify (Line.classify_eq_header_iff.2 header) nofun
    simp [header, idle]

/-- The lines before the first header go on until a task is open. -/
theorem beforeHeaders_concat (lines : List (List Char)) (raw : List Char) :
    beforeHeaders (lines ++ [raw]) =
      beforeHeaders lines ++ if (ofLines lines).script.tasks = [] then beforeHeaders [raw] else [] := by
  -- no header has been met as long as all lines are before the first one
  have whole : beforeHeaders lines = lines ↔ (ofLines lines).script.tasks = [] := by
    rw [tasks_eq_nil_iff, beforeHeaders, List.takeWhile_eq_self_iff]
    simp
  by_cases closed : (ofLines lines).script.tasks = []
  · rw [if_pos closed, whole.2 closed, beforeHeaders, List.takeWhile_append_of_pos]
    · rfl
    · exact List.takeWhile_eq_self_iff.1 (whole.2 closed)
  · have shorter : ¬ (beforeHeaders lines).length = lines.length := fun same =>
      closed (whole.1 ((List.takeWhile_prefix _).eq_of_length same))
    rw [if_neg closed, List.append_nil, beforeHeaders, List.takeWhile_append]
    exact if_neg shorter

/-- The variables are those that are declared before the first header. -/
theorem declarations_ofLines (lines : List (List Char)) :
    (ofLines lines).script.declarations = (beforeHeaders lines).filterMap declared? := by
  induction lines using List.reverseRecOn with
  | nil => rfl
  | append_singleton lines raw ih =>
    rw [ofLines_concat, declarations_feed, beforeHeaders_concat, List.filterMap_append, ih]
    split
    · rw [declared?_beforeHeaders_singleton]
    · rfl

/-! ## The account -/

/-- The account of a text: what its lines give, and where it is found in the reading. -/
structure Accounted (lines : List (List Char)) (reading : Reading) : Prop where
  /-- A line that counts adds one thing to what has been read before it, any other line nothing. -/
  line : ∀ before raw later, lines = before ++ raw :: later →
    (Line.Counts raw → Adds (before.length + 1) raw (ofLines before) (ofLines (before ++ [raw]))) ∧
      (¬ Line.Counts raw → ofLines (before ++ [raw]) = ofLines before)
  /-- Nothing is lost on the way, and nothing is added. -/
  total : reading.script.declarations.length + reading.script.tasks.length +
    (reading.script.tasks.map fun task => task.commands.length).sum + reading.skipped.length =
      lines.countP fun raw => decide (Line.Counts raw)
  sourced : Sourced lines reading
  ordered : Ordered reading
  declarations : reading.script.declarations = (beforeHeaders lines).filterMap declared?

/-- Every text is accounted for. -/
theorem accounting (source : String) :
    Accounted (Text.lines source.toList) (Reading.ofText source) where
  line := by
    intro before raw later split
    rw [ofLines_concat]
    exact ⟨adds_feed, feed_of_not_counts⟩
  total := size_ofLines _
  sourced := sourced_ofLines _
  ordered := ordered_ofLines _
  declarations := declarations_ofLines _

end Reading
end TaskScript
