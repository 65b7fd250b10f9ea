import Mathlib.Data.List.Induction
import TaskScript.Script.Basic

/-!
# Declarations — the values that a script declares

The last declaration of a name counts, and the declarations of other names do not matter to it.

- `Script.get?_declared`           : the value of a name, from the declarations of it
- `Script.get?_declared_of_last`, `Script.get?_declared_eq_none_iff` : declared names, and others
- `Script.SameBut`, `Script.SameBut.get?_declared` : scripts that differ in what one name declares
-/

namespace TaskScript

theorem Bindings.ofList_concat {α : Type} (pairs : List (String × α)) (pair : String × α) :
    ofList (pairs ++ [pair]) = (ofList pairs).set pair.1 pair.2 := by
  rw [ofList, List.foldl_append]
  rfl

namespace Script

variable {script first second : Script} {name other value : String}

/-- The value of a name is that of the last declaration of it. -/
theorem get?_declared (script : Script) (name : String) :
    script.declared.get? name =
      (script.declarations.filter (·.name = name)).getLast?.map Variable.value := by
  unfold declared
  -- the last of all declarations is the one that is assigned last
  induction script.declarations using List.reverseRecOn with
  | nil => rfl
  | append_singleton earlier last ih =>
    rw [List.map_append, List.map_singleton, Bindings.ofList_concat, Bindings.get?_set, ih,
      List.filter_append, List.getLast?_append]
    by_cases same : last.name = name
    · simp [same]
    · simp [same, Ne.symm same]

/-- A declaration counts behind which there is none of the same name. -/
theorem get?_declared_of_last {before after : List Variable}
    (split : script.declarations = before ++ ⟨name, value⟩ :: after)
    (last : ∀ later ∈ after, later.name ≠ name) : script.declared.get? name = some value := by
  have none_ : after.filter (·.name = name) = [] := by
    simpa [List.filter_eq_nil_iff] using last
  rw [get?_declared, split, List.filter_append, List.filter_cons_of_pos (by simp), none_]
  simp

theorem get?_declared_eq_none_iff :
    script.declared.get? name = none ↔ ∀ declared ∈ script.declarations, declared.name ≠ name := by
  simp [get?_declared]

/-- Scripts with the same tasks whose declarations are the same apart from those of one name. -/
structure SameBut (name : String) (first second : Script) : Prop where
  tasks : second.tasks = first.tasks
  others : second.declarations.filter (·.name ≠ name) = first.declarations.filter (·.name ≠ name)

/-- All other names are declared alike. -/
theorem SameBut.get?_declared (h : SameBut name first second) (differs : other ≠ name) :
    second.declared.get? other = first.declared.get? other := by
  -- the declarations of the other name are among those that are the same
  have among : ∀ script : Script, (script.declarations.filter (·.name ≠ name)).filter
      (·.name = other) = script.declarations.filter (·.name = other) := by
    intro script
    rw [List.filter_filter]
    refine List.filter_congr fun declared _ => ?_
    by_cases same : declared.name = other
    · simp [same, differs]
    · simp [same]
  rw [Script.get?_declared, Script.get?_declared, ← among second, ← among first, h.others]

theorem SameBut.findTask? (h : SameBut name first second) : second.findTask? = first.findTask? := by
  funext sought
  rw [Script.findTask?, Script.findTask?, h.tasks]

end Script
end TaskScript
