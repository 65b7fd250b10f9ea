import Mathlib.Data.List.Chain
import Mathlib.Data.List.Nodup
import Mathlib.Logic.Relation
import TaskScript.Proofs.Reference.Literal
import TaskScript.Script.Check

/-!
# References — which tasks literally invoke which

A `tsk` command whose target holds neither `$` nor `?` says in the script itself which task it
invokes.  These references make a script a directed graph on names.

- `Command.Names`    : a command invokes a name literally
- `Script.RefersTo`  : the references of all tasks
- `Script.LeadsTo`   : the references of those tasks that names find; searches go along these
- `Script.IsTrail`   : a path along references, as searches and runs keep it
- `Script.IsCircle`  : such a path that ends in one of its own names

Without repeated names the two relations are the same (`Script.leadsTo_iff_refersTo`).
-/

namespace TaskScript

open Relation

/-! ## Literal targets -/

theorem isDynamic_eq_false_iff {text : String} : isDynamic text = false ↔ IsLiteral text := by
  simp only [isDynamic, IsLiteral, List.any_eq_false, Bool.or_eq_true, beq_iff_eq, not_or]
  constructor
  · intro h
    exact ⟨fun hd => (h _ hd).1 rfl, fun hq => (h _ hq).2 rfl⟩
  · rintro ⟨hd, hq⟩ c hc
    exact ⟨fun e => hd (e ▸ hc), fun e => hq (e ▸ hc)⟩

theorem Command.kind?_eq_some_iff {command : Command} {kind : Keyword} :
    command.kind? = some kind ↔ command.keyword = kind.text := by
  constructor
  · intro h
    exact (Keyword.text_of_ofText? h).symm
  · intro h
    rw [Command.kind?, h, Keyword.ofText?_text]

/-- A command invokes the task of a name, and says so literally. -/
def Command.Names (command : Command) (target : String) : Prop :=
  command.keyword = "tsk" ∧ command.args.head? = some target ∧ IsLiteral target

theorem Command.literalTarget?_eq_some_iff {command : Command} {target : String} :
    command.literalTarget? = some target ↔ command.Names target := by
  have hk : command.kind? = some .tsk ↔ command.keyword = "tsk" := kind?_eq_some_iff
  unfold Command.literalTarget? Command.Names
  rw [← hk, ← isDynamic_eq_false_iff]
  by_cases h : command.kind? = some .tsk
  · cases hargs : command.args with
    | nil => simp
    | cons first rest =>
      simp only [h, if_true, List.head?_cons, Option.ite_none_left_eq_some, Option.some.injEq,
        Bool.not_eq_true, true_and]
      constructor
      · rintro ⟨literal, rfl⟩
        exact ⟨rfl, literal⟩
      · rintro ⟨rfl, literal⟩
        exact ⟨literal, rfl⟩
  · simp [h]

theorem Task.mem_literalTargets_iff {task : Task} {target : String} :
    target ∈ task.literalTargets ↔ ∃ command ∈ task.commands, command.Names target := by
  simp only [Task.literalTargets, List.mem_filterMap, Command.literalTarget?_eq_some_iff]

namespace Script

variable {script : Script}

/-! ## Finding tasks -/

theorem findTask?_eq_none_iff {name : String} :
    script.findTask? name = none ↔ name ∉ script.taskNames := by
  simp [findTask?, taskNames]

theorem exists_findTask? {name : String} (declared : name ∈ script.taskNames) :
    ∃ task, script.findTask? name = some task := by
  cases h : script.findTask? name with
  | none => exact absurd declared (findTask?_eq_none_iff.1 h)
  | some task => exact ⟨task, rfl⟩

/-- Without repeated names, every task is found by its own name. -/
theorem findTask?_name {task : Task} (distinct : script.taskNames.Nodup)
    (member : task ∈ script.tasks) : script.findTask? task.name = some task := by
  obtain ⟨found, hf⟩ := exists_findTask? (List.mem_map.2 ⟨task, member, rfl⟩)
  have same : found = task :=
    List.inj_on_of_nodup_map distinct (mem_of_findTask? hf) member (name_of_findTask? hf)
  rw [hf, same]

/-! ## The two graphs -/

/-- Some task of the name `caller` invokes `callee` literally. -/
def RefersTo (script : Script) (caller callee : String) : Prop :=
  ∃ task ∈ script.tasks, task.name = caller ∧ ∃ command ∈ task.commands, command.Names callee

/-- The task that `caller` finds invokes `callee` literally. -/
def LeadsTo (script : Script) (caller callee : String) : Prop :=
  ∃ task, script.findTask? caller = some task ∧ callee ∈ task.literalTargets

theorem leadsTo_iff_of_found {caller callee : String} {task : Task}
    (found : script.findTask? caller = some task) :
    script.LeadsTo caller callee ↔ callee ∈ task.literalTargets := by
  simp [LeadsTo, found]

theorem LeadsTo.mem_taskNames {caller callee : String} (h : script.LeadsTo caller callee) :
    caller ∈ script.taskNames := by
  obtain ⟨task, found, -⟩ := h
  exact mem_taskNames_of_findTask? found

theorem LeadsTo.refersTo {caller callee : String} (h : script.LeadsTo caller callee) :
    script.RefersTo caller callee := by
  obtain ⟨task, found, hc⟩ := h
  exact ⟨task, mem_of_findTask? found, name_of_findTask? found, Task.mem_literalTargets_iff.1 hc⟩

theorem leadsTo_iff_refersTo (distinct : script.taskNames.Nodup) {caller callee : String} :
    script.LeadsTo caller callee ↔ script.RefersTo caller callee := by
  constructor
  · exact LeadsTo.refersTo
  · rintro ⟨task, member, rfl, hc⟩
    exact ⟨task, findTask?_name distinct member, Task.mem_literalTargets_iff.2 hc⟩

/-- Every call of a task is literal, so that the references are all that there is to follow. -/
def CallsLiterally (script : Script) : Prop :=
  ∀ task ∈ script.tasks, ∀ command ∈ task.commands, command.keyword = "tsk" →
    ∀ arg, command.args.head? = some arg → IsLiteral arg

/-! ## Trails and circles -/

/-- A path along references, given backwards: each name leads to the one before it, and none
occurs twice below the first. -/
structure IsTrail (script : Script) (trail : List String) (name : String) : Prop where
  chain : (name :: trail).IsChain fun callee caller => script.LeadsTo caller callee
  distinct : trail.Nodup

/-- A path along references that ends in one of its earlier names, these being distinct. -/
structure IsCircle (script : Script) (path : List String) : Prop where
  chain : path.IsChain script.LeadsTo
  closes : ∃ outer name inner, path = outer ++ name :: (inner ++ [name])
  distinct : path.dropLast.Nodup

theorem isTrail_nil (name : String) : script.IsTrail [] name :=
  ⟨.singleton name, List.nodup_nil⟩

theorem IsTrail.cons {trail : List String} {caller callee : String}
    (h : script.IsTrail trail caller) (fresh : caller ∉ trail)
    (leads : script.LeadsTo caller callee) : script.IsTrail (caller :: trail) callee :=
  ⟨List.isChain_cons_cons.2 ⟨leads, h.chain⟩, List.nodup_cons.2 ⟨fresh, h.distinct⟩⟩

/-- Every name of a trail leads to its end. -/
theorem IsTrail.transGen {trail : List String} {name earlier : String}
    (h : script.IsTrail trail name) (mem : earlier ∈ trail) :
    TransGen script.LeadsTo earlier name := by
  have closure : (name :: trail).IsChain (TransGen (Function.swap script.LeadsTo)) :=
    h.chain.imp fun _ _ => TransGen.single
  exact transGen_swap.1 (closure.rel_cons mem)

/-- Every name of a trail is declared. -/
theorem IsTrail.subset_taskNames {trail : List String} {name : String}
    (h : script.IsTrail trail name) : trail ⊆ script.taskNames := by
  intro earlier mem
  obtain ⟨callee, leads, -⟩ := TransGen.head'_iff.1 (h.transGen mem)
  exact leads.mem_taskNames

/-- A trail that comes back to one of its names is a circle. -/
theorem IsTrail.isCircle {trail : List String} {name : String} (h : script.IsTrail trail name)
    (mem : name ∈ trail) : script.IsCircle (trail.reverse ++ [name]) where
  chain := by
    rw [← List.reverse_cons, List.isChain_reverse]
    exact h.chain
  closes := by
    obtain ⟨inner, outer, rfl⟩ := List.append_of_mem mem
    exact ⟨outer.reverse, name, inner.reverse, by simp⟩
  distinct := by
    rw [List.dropLast_concat]
    exact List.nodup_reverse.2 h.distinct

theorem IsCircle.exists_transGen {path : List String} (h : script.IsCircle path) :
    ∃ name, TransGen script.LeadsTo name name := by
  obtain ⟨outer, name, inner, rfl⟩ := h.closes
  have tail : (name :: (inner ++ [name])).IsChain (TransGen script.LeadsTo) :=
    (List.isChain_split.1 h.chain).2.imp fun _ _ => TransGen.single
  exact ⟨name, tail.rel_cons (by simp)⟩

end Script
end TaskScript
