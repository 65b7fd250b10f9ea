import TaskScript.Proofs.Reference.Scan

/-!
# Environment — what the passes make of references to the environment

A reference to the environment begins with `$env(`.  The passes before the last leave these marks
alone, and the last one leaves everything else alone.

- `Reference.apply_dollarNames_call` : variables do not take `$env(` for a reference of theirs
- `Reference.apply_environment_name` : a name between the parentheses is replaced by its value
- `Reference.apply_environment_of_not_infix` : a text without `$env(` stays as it is
- `Reference.resolve_environment` : what all passes make of a single reference to the environment
-/

namespace TaskScript
namespace Reference

open Pattern

variable {value? : String → Option String} {name : String} {front rest text : List Char}

/-- What every reference to the environment begins with. -/
def environmentCall : List Char :=
  "$env(".toList

/-- The passes for variables leave a reference to the environment to the last pass, even if there is
a variable of the name `env`. -/
theorem apply_dollarNames_call (value? : String → Option String) (rest : List Char) :
    (dollarNames value?).apply (environmentCall ++ rest) =
      environmentCall ++ (dollarNames value?).apply rest := by
  have isName : IsName "env" := by decide
  have found : match? [Step.char '$', Step.oneOrMore CharClass.isWord, Step.optionally '(']
      (environmentCall ++ rest) = some ([['$'], "env".toList, ['(']], rest) := by
    refine match?_of_takeAll ?_ ?_ rfl
    · simp only [TakeAll, takes_char, takes_oneOrMore, takes_optionally, or_true, true_and,
        and_true]
      exact isName
    · simp only [EndsAll, ends_char, ends_oneOrMore, ends_optionally, true_and, and_true,
        List.flatten_cons, List.flatten_nil, List.append_nil, List.singleton_append]
      exact stops_cons (by decide)
  rw [dollarNames, Rule.apply_of_match? found (by simp)]
  rfl

/-! ## The last pass -/

/-- A character of a name may stand in a reference to the environment. -/
theorem inEnvironmentName_of_isWord {c : Char} (word : CharClass.isWord c = true) :
    inEnvironmentName c = true := by
  have noQuote : c ≠ '"' := fun same => absurd (same ▸ word) (by decide)
  have noParen : c ≠ ')' := fun same => absurd (same ▸ word) (by decide)
  simp [inEnvironmentName, noQuote, noParen]

/-- A text that begins with a name begins with a character of a word. -/
theorem isWord_of_mem_head? {c : Char} (isName : IsName name)
    (mem : c ∈ (name.toList ++ rest).head?) : CharClass.isWord c = true := by
  obtain ⟨first, more, split⟩ := List.exists_cons_of_ne_nil isName.1
  rw [split] at mem
  obtain rfl := Option.some.inj mem
  exact isName.2 first (by rw [split]; exact List.mem_cons_self)

/-- Nothing is cut off a name. -/
theorem trim_name (isName : IsName name) : Text.trim name.toList = name.toList := by
  have visible : ∀ c ∈ name.toList, CharClass.isBlank c = false :=
    fun c mem => CharClass.isBlank_of_isWord (isName.2 c mem)
  exact Text.trim_eq_self (fun c mem => visible c (List.mem_of_mem_head? mem))
    ⟨name.toList.getLast isName.1, List.getLast?_eq_some_getLast isName.1,
      visible _ (List.getLast_mem _)⟩

/-- A name with blanks before it and a quote behind it is replaced by its value in the environment;
the quote is not asked for at the beginning. -/
theorem apply_environment_name (value? : String → Option String) (isName : IsName name)
    (blank : Blanks front) (rest : List Char) :
    (environment value?).apply
        (environmentCall ++ (front ++ (name.toList ++ '"' :: ')' :: rest))) =
      ((value? name).getD "").toList ++ (environment value?).apply rest := by
  have steps : environmentSteps =
      [Step.char '$', Step.char 'e', Step.char 'n', Step.char 'v', Step.char '(',
        Step.all CharClass.isBlank, Step.optionally '"', Step.all inEnvironmentName,
        Step.optionally '"', Step.all CharClass.isBlank, Step.char ')'] := rfl
  have inName : ∀ c ∈ name.toList, inEnvironmentName c = true :=
    fun c mem => inEnvironmentName_of_isWord (isName.2 c mem)
  have found : match? environmentSteps
      (environmentCall ++ (front ++ (name.toList ++ '"' :: ')' :: rest))) =
        some ([['$'], ['e'], ['n'], ['v'], ['('], front, [], name.toList, ['"'], [], [')']],
          rest) := by
    rw [steps]
    refine match?_of_takeAll ?_ ?_ (by simp [environmentCall])
    · simp only [TakeAll, takes_char, takes_all, takes_optionally, or_true, true_or, true_and,
        and_true]
      exact ⟨blank, inName, fun c mem => absurd mem List.not_mem_nil⟩
    · simp only [EndsAll, ends_char, ends_all, ends_optionally, ends_optionally_nil, true_and,
        and_true, List.flatten_cons, List.flatten_nil, List.append_nil, List.nil_append,
        List.cons_append, List.append_assoc]
      refine ⟨isName.stops _, ?_, stops_cons (by decide), stops_cons (by decide)⟩
      -- the quote that may stand before the name does not
      intro c mem same
      exact absurd (same ▸ isWord_of_mem_head? isName mem) (by decide)
  rw [environment, Rule.apply_of_match? found (by simp)]
  have some_ : name.toList.isEmpty = false := by
    simpa using isName.1
  dsimp only
  rw [trim_name isName, some_, String.ofList_toList]
  rfl

/-- A text in which `$env(` does not occur is left alone by the last pass. -/
theorem apply_environment_of_not_infix (absent : ¬ environmentCall <:+: text) :
    (environment value?).apply text = text := by
  induction text with
  | nil => exact Rule.apply_nil _
  | cons c text ih =>
    have silent : environment value? (c :: text) = none := by
      rw [environment, Rule.ofPattern, Option.map_eq_none_iff, Option.eq_none_iff_forall_ne_some]
      rintro ⟨pieces, after⟩ found
      exact absent (prefix_of_match?_word found).isInfix
    have absent' : ¬ environmentCall <:+: text :=
      fun here => absent (here.trans (List.suffix_cons c text).isInfix)
    rw [Rule.apply_cons_of_none silent, ih absent']

/-- The last pass waits for the first mark of a reference. -/
theorem apply_environment_append (value? : String → Option String) (absent : '$' ∉ front)
    (rest : List Char) :
    (environment value?).apply (front ++ rest) = front ++ (environment value?).apply rest := by
  have starts : environmentSteps = Step.char '$' :: environmentSteps.tail := rfl
  rw [environment, starts]
  exact Rule.apply_append_of_not_mem absent rest

/-! ## All passes -/

/-- The passes, one after the other. -/
theorem resolve_ofList (scope : Scope) (text : List Char) :
    resolve scope (String.ofList text) =
      String.ofList ((environment scope.environment).apply
        ((dollarNames scope.runtime.get?).apply
          ((dollarNames (Scope.unshadowed? scope.declared scope.runtime)).apply
            ((named scope.named).apply ((positional scope.positional).apply text))))) := by
  rw [resolve, String.toList_ofList]
  rfl

/-- Without a question mark there are no references to arguments. -/
theorem resolve_of_no_question (scope : Scope) (absent : '?' ∉ text) :
    resolve scope (String.ofList text) =
      String.ofList ((environment scope.environment).apply
        ((dollarNames scope.runtime.get?).apply
          ((dollarNames (Scope.unshadowed? scope.declared scope.runtime)).apply text))) := by
  have first : (positional scope.positional).apply text = text := Rule.apply_of_not_mem absent
  have second : (named scope.named).apply text = text := Rule.apply_of_not_mem absent
  rw [resolve_ofList, first, second]

/-- What stands behind the opening parenthesis of a reference, and behind the reference, holds no
mark that does not stand in the text behind. -/
theorem not_mem_behind_call {mark : Char} {after : List Char} (isName : IsName name)
    (blank : Blanks front) (noBlank : CharClass.isBlank mark = false)
    (noWord : CharClass.isWord mark = false) (other : mark ≠ '"' ∧ mark ≠ ')')
    (absent : mark ∉ after) : mark ∉ front ++ (name.toList ++ '"' :: ')' :: after) := by
  simp only [List.mem_append, List.mem_cons, not_or]
  refine ⟨fun mem => ?_, fun mem => ?_, other.1, other.2, absent⟩
  · exact absurd (blank mark mem) (by simp [noBlank])
  · exact absurd (isName.2 mark mem) (by simp [noWord])

/-- A text whose only marks are those of one reference to the environment is resolved to the same
text with the value in place of the reference. -/
theorem resolve_environment (scope : Scope) {before after : List Char} (isName : IsName name)
    (blank : Blanks front) (literal : '$' ∉ before ∧ '?' ∉ before)
    (literal' : '$' ∉ after ∧ '?' ∉ after) :
    resolve scope (String.ofList (before ++ (environmentCall ++
        (front ++ (name.toList ++ '"' :: ')' :: after))))) =
      String.ofList (before ++ (((scope.environment name).getD "").toList ++ after)) := by
  have noDollar : '$' ∉ front ++ (name.toList ++ '"' :: ')' :: after) :=
    not_mem_behind_call isName blank (by decide) (by decide) (by decide) literal'.1
  have noQuestion : '?' ∉ before ++ (environmentCall ++
      (front ++ (name.toList ++ '"' :: ')' :: after))) := by
    have inCall : '?' ∉ environmentCall := by decide
    have behind : '?' ∉ front ++ (name.toList ++ '"' :: ')' :: after) :=
      not_mem_behind_call isName blank (by decide) (by decide) (by decide) literal'.2
    rw [List.mem_append, List.mem_append, not_or, not_or]
    exact ⟨literal.2, inCall, behind⟩
  -- the passes for variables come by the only mark and leave it alone
  have untouched : ∀ value? : String → Option String,
      (dollarNames value?).apply (before ++ (environmentCall ++
          (front ++ (name.toList ++ '"' :: ')' :: after)))) =
        before ++ (environmentCall ++ (front ++ (name.toList ++ '"' :: ')' :: after))) := by
    intro value?
    have passes : (dollarNames value?).apply (front ++ (name.toList ++ '"' :: ')' :: after)) =
        front ++ (name.toList ++ '"' :: ')' :: after) := Rule.apply_of_not_mem noDollar
    have skips : (dollarNames value?).apply (before ++ (environmentCall ++
        (front ++ (name.toList ++ '"' :: ')' :: after)))) =
          before ++ (dollarNames value?).apply (environmentCall ++
            (front ++ (name.toList ++ '"' :: ')' :: after))) :=
      Rule.apply_append_of_not_mem literal.1 _
    rw [skips, apply_dollarNames_call, passes]
  have last : (environment scope.environment).apply after = after := by
    have whole := apply_environment_append scope.environment literal'.1 []
    rwa [Rule.apply_nil, List.append_nil] at whole
  rw [resolve_of_no_question scope noQuestion, untouched, untouched,
    apply_environment_append _ literal.1, apply_environment_name _ isName blank, last]

end Reference
end TaskScript
