import TaskScript.Reference.Passes

/-!
# Literal — texts that resolution leaves alone

Every reference begins with one of two marks, `$` and `?`.  A text that holds neither stands for
itself, whatever the scope (`Reference.resolve_of_isLiteral`).
-/

namespace TaskScript

/-- A text without the marks that begin references. -/
def IsLiteral (text : String) : Prop :=
  '$' ∉ text.toList ∧ '?' ∉ text.toList

instance (text : String) : Decidable (IsLiteral text) :=
  inferInstanceAs (Decidable (_ ∧ _))

/-! ## Rules that wait for a character -/

/-- A pattern that begins with a character does not match where another one stands. -/
theorem Pattern.match?_char_of_ne {c d : Char} (steps : List Step) (rest : List Char)
    (ne : d ≠ c) : match? (Step.char c :: steps) (d :: rest) = none := by
  have hb : (d == c) = false := by simpa using ne
  simp [match?, Step.char, Step.longest, hb]

/-- A rule passes over everything before the character that it waits for. -/
theorem Rule.apply_append_of_not_mem {c : Char} {steps : List Pattern.Step}
    {write : List (List Char) → List Char} {front : List Char} (absent : c ∉ front)
    (rest : List Char) :
    (Rule.ofPattern (Pattern.Step.char c :: steps) write).apply (front ++ rest) =
      front ++ (Rule.ofPattern (Pattern.Step.char c :: steps) write).apply rest := by
  induction front with
  | nil => rfl
  | cons d front ih =>
    simp only [List.mem_cons, not_or] at absent
    have silent : Rule.ofPattern (Pattern.Step.char c :: steps) write (d :: (front ++ rest)) =
        none := by
      rw [Rule.ofPattern, Pattern.match?_char_of_ne steps _ (Ne.symm absent.1), Option.map_none]
    rw [List.cons_append, Rule.apply_cons_of_none silent, ih absent.2, List.cons_append]

/-- A rule leaves a text alone in which the character that it waits for does not stand. -/
theorem Rule.apply_of_not_mem {c : Char} {steps : List Pattern.Step}
    {write : List (List Char) → List Char} {text : List Char} (absent : c ∉ text) :
    (Rule.ofPattern (Pattern.Step.char c :: steps) write).apply text = text := by
  have whole : (Rule.ofPattern (Pattern.Step.char c :: steps) write).apply (text ++ []) =
      text ++ (Rule.ofPattern (Pattern.Step.char c :: steps) write).apply [] :=
    Rule.apply_append_of_not_mem absent []
  rwa [Rule.apply_nil, List.append_nil] at whole

namespace Reference

/-- Every pass waits for one of the two marks. -/
theorem apply_append_of_mem_rules {scope : Scope} {rule : Rule} {front : List Char}
    (mem : rule ∈ rules scope) (dollar : '$' ∉ front) (question : '?' ∉ front)
    (rest : List Char) : rule.apply (front ++ rest) = front ++ rule.apply rest := by
  simp only [rules, List.mem_cons, List.not_mem_nil, or_false] at mem
  rcases mem with rfl | rfl | rfl | rfl | rfl
  · exact Rule.apply_append_of_not_mem question rest
  · exact Rule.apply_append_of_not_mem question rest
  · exact Rule.apply_append_of_not_mem dollar rest
  · exact Rule.apply_append_of_not_mem dollar rest
  · have starts : environmentSteps = Pattern.Step.char '$' :: environmentSteps.tail := rfl
    rw [environment, starts]
    exact Rule.apply_append_of_not_mem dollar rest

theorem apply_of_mem_rules {scope : Scope} {rule : Rule} {text : List Char}
    (mem : rule ∈ rules scope) (dollar : '$' ∉ text) (question : '?' ∉ text) :
    rule.apply text = text := by
  have whole := apply_append_of_mem_rules mem dollar question []
  rwa [Rule.apply_nil, List.append_nil] at whole

/-- A text without marks stands for itself. -/
theorem resolve_of_isLiteral {text : String} (scope : Scope) (literal : IsLiteral text) :
    resolve scope text = text := by
  have stays : ∀ passes : List Rule, (∀ rule ∈ passes, rule ∈ rules scope) →
      passes.foldl (fun text rule => rule.apply text) text.toList = text.toList := by
    intro passes
    induction passes with
    | nil =>
      intro _
      rfl
    | cons rule passes ih =>
      intro sub
      rw [List.foldl_cons,
        apply_of_mem_rules (sub rule List.mem_cons_self) literal.1 literal.2]
      exact ih fun r mem => sub r (List.mem_cons_of_mem _ mem)
  rw [resolve, stays _ fun _ mem => mem, String.ofList_toList]

end Reference
end TaskScript
