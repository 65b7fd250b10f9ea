import TaskScript.Proofs.Reference.Environment

/-!
# Variable — what a reference to a variable is resolved to

A reference that is all of a text comes by the passes for arguments, and is replaced by the pass that
knows its name.  The passes behind it then see the value.

- `Rule.onText`                     : what a rule makes of a text
- `Reference.resolve_of_runtime`  : a variable that has been assigned
- `Reference.resolve_of_declared` : a variable that is only declared
- `Reference.resolve_of_unknown`  : any other name
-/

namespace TaskScript

/-- What a rule makes of a text. -/
def Rule.onText (rule : Rule) (text : String) : String :=
  String.ofList (rule.apply text.toList)

namespace Reference

variable {name value : String} {scope : Scope}

/-- A reference by itself is replaced by the value of its name, if it has one. -/
theorem onText_dollarNames (value? : String → Option String) (isName : IsName name) :
    (dollarNames value?).onText ("$" ++ name) = (value? name).getD ("$" ++ name) := by
  have whole : ("$" ++ name).toList = '$' :: (name.toList ++ []) := by simp
  rw [Rule.onText, whole, apply_dollarNames value? isName (by simp), Rule.apply_nil, List.append_nil]
  cases value? name with
  | some value => exact String.ofList_toList
  | none =>
    have written : String.ofList ('$' :: name.toList) = "$" ++ name := by
      rw [← String.toList_inj]
      simp
    exact written

/-- A text without a reference to the environment is left alone by the last pass. -/
theorem onText_environment_of_not_infix {value? : String → Option String}
    (absent : ¬ environmentCall <:+: value.toList) : (environment value?).onText value = value := by
  rw [Rule.onText, apply_environment_of_not_infix absent, String.ofList_toList]

/-- A reference to a variable comes by the passes for variables and the last one. -/
theorem resolve_dollarName (scope : Scope) (isName : IsName name) :
    resolve scope ("$" ++ name) = (environment scope.environment).onText
      ((dollarNames scope.runtime.get?).onText
        ((Scope.unshadowed? scope.declared scope.runtime name).getD ("$" ++ name))) := by
  have noQuestion : '?' ∉ ("$" ++ name).toList := by
    have inName : '?' ∉ name.toList := isName.not_mem (by decide)
    simp [inName]
  have passes := resolve_of_no_question scope noQuestion
  rw [String.ofList_toList] at passes
  rw [passes, ← onText_dollarNames _ isName]
  simp only [Rule.onText, String.toList_ofList]

/-- A variable that has been assigned stands for its value, whatever is declared. -/
theorem resolve_of_runtime (isName : IsName name) (assigned : scope.runtime.get? name = some value) :
    resolve scope ("$" ++ name) = (environment scope.environment).onText value := by
  have shadowed : Scope.unshadowed? scope.declared scope.runtime name = none := by
    simp [Scope.unshadowed?, Bindings.contains, assigned]
  rw [resolve_dollarName scope isName, shadowed, Option.getD_none, onText_dollarNames _ isName,
    assigned, Option.getD_some]

theorem unshadowed?_of_unassigned (unassigned : scope.runtime.get? name = none) :
    Scope.unshadowed? scope.declared scope.runtime name = scope.declared.get? name := by
  simp [Scope.unshadowed?, Bindings.contains, unassigned]

/-- A variable that is only declared stands for its value, in which variables that have been assigned
are replaced. -/
theorem resolve_of_declared (isName : IsName name) (unassigned : scope.runtime.get? name = none)
    (declared : scope.declared.get? name = some value) :
    resolve scope ("$" ++ name) = (environment scope.environment).onText
      ((dollarNames scope.runtime.get?).onText value) := by
  rw [resolve_dollarName scope isName, unshadowed?_of_unassigned unassigned, declared,
    Option.getD_some]

/-- The mark of a variable and a name are no reference to the environment. -/
theorem not_infix_dollarName (isName : IsName name) :
    ¬ environmentCall <:+: ("$" ++ name).toList := by
  intro inside
  have paren : '(' ∈ ("$" ++ name).toList := inside.subset (by decide)
  have inName : '(' ∉ name.toList := isName.not_mem (by decide)
  simp [inName] at paren

/-- Other names are left as they are. -/
theorem resolve_of_unknown (isName : IsName name) (unassigned : scope.runtime.get? name = none)
    (undeclared : scope.declared.get? name = none) :
    resolve scope ("$" ++ name) = "$" ++ name := by
  rw [resolve_dollarName scope isName, unshadowed?_of_unassigned unassigned, undeclared,
    Option.getD_none, onText_dollarNames _ isName, unassigned, Option.getD_none,
    onText_environment_of_not_infix (not_infix_dollarName isName)]

end Reference

end TaskScript
