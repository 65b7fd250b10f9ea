import TaskScript.Script.Dump
import TaskScript.Proofs.Yaml.Tree

/-!
# Dump — a document is the document of one script only

The tree of a script determines the script: a field that is left out stands for one value only, and no
other field is taken for it.  So does the document, provided that it determines the tree.

- `Script.toTree_inj`     : no two scripts have the same tree
- `Script.legible_toTree` : the tree of a script is legible, if its line numbers fit
- `Script.dump_eq_iff`    : only one script has a given document
-/

namespace TaskScript

open Yaml (Tree)

/-! ## Trees of scripts -/

/-- A zero is the only line number without a field. -/
theorem lineField_inj {line line' : Nat} (same : lineField line = lineField line') :
    line = line' := by
  unfold lineField at same
  split at same <;> split at same <;> simp_all

theorem Variable.toTree_inj {v w : Variable} (same : v.toTree = w.toTree) : v = w := by
  cases v
  cases w
  simpa [Variable.toTree] using same

theorem Command.toTree_inj {command command' : Command} (same : command.toTree = command'.toTree) :
    command = command' := by
  obtain ⟨keyword, args, line⟩ := command
  obtain ⟨keyword', args', line'⟩ := command'
  simp only [Command.toTree, Tree.record.injEq, List.cons_append, List.nil_append,
    List.cons.injEq, Prod.mk.injEq, true_and, Tree.text.injEq, Tree.list.injEq] at same
  obtain ⟨rfl, sameArgs, sameLine⟩ := same
  obtain rfl := List.map_inj_right (fun _ _ => Tree.text.inj) |>.1 sameArgs
  rw [lineField_inj sameLine]

theorem Task.toTree_inj {task task' : Task} (same : task.toTree = task'.toTree) : task = task' := by
  obtain ⟨name, commands, line⟩ := task
  obtain ⟨name', commands', line'⟩ := task'
  simp only [Task.toTree, Tree.record.injEq, List.cons_append, List.nil_append,
    List.cons.injEq, Prod.mk.injEq, true_and, Tree.text.injEq, Tree.list.injEq] at same
  obtain ⟨rfl, sameCommands, sameLine⟩ := same
  obtain rfl := List.map_inj_right (fun _ _ => Command.toTree_inj) |>.1 sameCommands
  rw [lineField_inj sameLine]

/-- No two scripts have the same tree. -/
theorem Script.toTree_inj {s t : Script} (same : s.toTree = t.toTree) : s = t := by
  obtain ⟨declarations, tasks⟩ := s
  obtain ⟨declarations', tasks'⟩ := t
  have fields := Tree.record.inj same
  obtain rfl : tasks = tasks' := by
    have last := congrArg List.getLast? fields
    simp only [List.getLast?_concat, Option.some.injEq, Prod.mk.injEq, Tree.list.injEq,
      true_and] at last
    exact List.map_inj_right (fun _ _ => Task.toTree_inj) |>.1 last
  -- the tasks are there in any case, so that the variables are missing in both or in neither
  obtain rfl : declarations = declarations' := by
    have first := List.append_cancel_right fields
    cases declarations with
    | nil =>
      cases declarations' with
      | nil => rfl
      | cons w declarations' => cases first
    | cons v declarations =>
      cases declarations' with
      | nil => cases first
      | cons w declarations' =>
        have values := Tree.list.inj (Prod.mk.inj (List.cons.inj first).1).2
        exact List.map_inj_right (fun _ _ => Variable.toTree_inj) |>.1 values
  rfl

/-! ## Legibility -/

/-- A script whose line numbers fit into a machine word. -/
structure Script.LinesFit (script : Script) : Prop where
  tasks : ∀ task ∈ script.tasks, task.line < UInt64.size
  commands : ∀ task ∈ script.tasks, ∀ command ∈ task.commands, command.line < UInt64.size

/-- A field with a word for its key and a legible value. -/
def LegibleField (field : String × Tree) : Prop :=
  field.1.toList.all Char.isAlpha = true ∧ field.2.Legible

theorem legible_field {key : String} {value : Tree} (word : key.toList.all Char.isAlpha = true)
    (legible : value.Legible) : LegibleField (key, value) :=
  ⟨word, legible⟩

theorem legible_record {fields : List (String × Tree)} (h : ∀ field ∈ fields, LegibleField field) :
    (Tree.record fields).Legible :=
  .record (fun field mem => (h field mem).1) (fun field mem => (h field mem).2)

theorem legible_list_map {α : Type} {toTree : α → Tree} (items : List α)
    (h : ∀ item ∈ items, (toTree item).Legible) : (Tree.list (items.map toTree)).Legible :=
  .list (List.forall_mem_map.2 h)

theorem legible_lineField {line : Nat} (fits : line < UInt64.size) :
    ∀ field ∈ lineField line, LegibleField field := by
  unfold lineField
  split
  · simp
  · exact List.forall_mem_singleton.2 (legible_field (by decide) (.number fits))

theorem Variable.legible_toTree (v : Variable) : v.toTree.Legible :=
  legible_record (List.forall_mem_cons.2 ⟨legible_field (by decide) (.text _),
    List.forall_mem_singleton.2 (legible_field (by decide) (.text _))⟩)

theorem Command.legible_toTree {command : Command} (fits : command.line < UInt64.size) :
    command.toTree.Legible := by
  refine legible_record (List.forall_mem_append.2 ⟨?_, legible_lineField fits⟩)
  have args := legible_list_map command.args fun arg _ => .text arg
  exact List.forall_mem_cons.2 ⟨legible_field (by decide) (.text _),
    List.forall_mem_singleton.2 (legible_field (by decide) args)⟩

theorem Task.legible_toTree {task : Task} (fits : task.line < UInt64.size)
    (fitAll : ∀ command ∈ task.commands, command.line < UInt64.size) : task.toTree.Legible := by
  refine legible_record (List.forall_mem_append.2 ⟨?_, legible_lineField fits⟩)
  have commands := legible_list_map task.commands fun command mem =>
    Command.legible_toTree (fitAll command mem)
  exact List.forall_mem_cons.2 ⟨legible_field (by decide) (.text _),
    List.forall_mem_singleton.2 (legible_field (by decide) commands)⟩

theorem Script.legible_toTree {script : Script} (fits : script.LinesFit) :
    script.toTree.Legible := by
  have declarations := legible_list_map script.declarations fun v _ => Variable.legible_toTree v
  have tasks := legible_list_map script.tasks fun task mem =>
    Task.legible_toTree (fits.tasks task mem) (fits.commands task mem)
  refine legible_record (List.forall_mem_append.2
    ⟨?_, List.forall_mem_singleton.2 (legible_field (by decide) tasks)⟩)
  split
  · simp
  · exact List.forall_mem_singleton.2 (legible_field (by decide) declarations)

/-! ## Documents of scripts -/

/-- If documents determine the trees that they are written for, a document of a script determines its
variables, tasks, commands, arguments and lines in their order. -/
theorem Script.dump_eq_iff {toYaml : Tree → Except String String}
    (determines : ∀ v w document, v.Legible → w.Legible →
      toYaml v = .ok document → toYaml w = .ok document → v = w)
    {s t : Script} (fits : s.LinesFit) (fits' : t.LinesFit) {document : String}
    (dumped : s.dump toYaml = .ok document) : t.dump toYaml = .ok document ↔ s = t := by
  constructor
  · intro dumped'
    exact toTree_inj
      (determines _ _ document (legible_toTree fits) (legible_toTree fits') dumped dumped')
  · rintro rfl
    exact dumped

/-- A line number of a task is not taken for one of its command. -/
theorem Script.dump_ne_of_moved_line :
    let headed : Script := ⟨[], [⟨"build", [⟨"ech", ["line: 7"], 0⟩], 7⟩]⟩
    let filled : Script := ⟨[], [⟨"build", [⟨"ech", ["line: 7"], 7⟩], 0⟩]⟩
    let toYaml : Tree → Except String String := fun tree => .ok tree.render
    headed.LinesFit ∧ filled.LinesFit ∧
      headed.dump toYaml = .ok headed.toTree.render ∧
      filled.dump toYaml ≠ .ok headed.toTree.render := by
  intro headed filled toYaml
  have fits : headed.LinesFit := ⟨by simp [headed, UInt64.size], by simp [headed]⟩
  have fits' : filled.LinesFit := ⟨by simp [filled], by simp [filled, UInt64.size]⟩
  have determines : ∀ v w document, v.Legible → w.Legible →
      toYaml v = .ok document → toYaml w = .ok document → v = w := by
    intro v w document legible legible' written written'
    have same : v.render = w.render := Except.ok.inj (written.trans written'.symm)
    exact Tree.eq_of_render legible legible' same
  have dumped : headed.dump toYaml = .ok headed.toTree.render := rfl
  refine ⟨fits, fits', dumped, fun dumped' => ?_⟩
  have equal : headed = filled :=
    (Script.dump_eq_iff determines fits fits' dumped).1 dumped'
  exact absurd equal (by decide)

end TaskScript
