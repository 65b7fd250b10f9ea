import TaskScript.Proofs.Reference.Variable
import TaskScript.Proofs.Text.Matching

/-!
# Separation — resolution on either side of a character that stands in no reference

No reference reaches across a character that is neither part of a name nor a mark nor an opening
parenthesis, and none reaches into the `$env(` that follows it.  This holds whatever the values are,
also where a value that one pass has written is read by the next.

- `Rule.apply_append_of_stop`     : a pass in front of a character that its pattern does not go across
- `Rule.KeepsApart`               : a pass that treats both sides of a border on their own
- `Reference.beforeEnvironment`   : what the passes for arguments and variables make of a text
- `Reference.apply_environment_append_of_not_infix` : the last pass, behind a text without `$env(`
- `Reference.separation`          : resolution on both sides of such borders
-/

namespace TaskScript

namespace Rule

open Pattern

/-! ## One pass -/

/-- A rule that reads no further than `front`, wherever in `front` it is tried, makes of what stands
behind what it makes of it alone. -/
theorem apply_append_of_within {rule : Rule} {behind : List Char}
    (within : ∀ c front, rule (c :: (front ++ behind)) = rule (c :: front))
    (covers : ∀ front written covered, rule front = some (written, covered) →
      covered ≤ front.length) (front : List Char) :
    rule.apply (front ++ behind) = rule.apply front ++ rule.apply behind := by
  induction size : front.length using Nat.strongRecOn generalizing front with
  | _ n ih =>
    cases front with
    | nil => simp
    | cons c front =>
      have same := within c front
      simp only [List.length_cons] at size
      cases tried : rule (c :: front) with
      | none =>
        have shorter := ih front.length (by omega) front rfl
        rw [List.cons_append, apply_cons_of_none (same.trans tried), apply_cons_of_none tried,
          shorter, List.cons_append]
      | some result =>
        obtain ⟨written, covered⟩ := result
        have fits : covered ≤ front.length + 1 := by simpa using covers _ _ _ tried
        have cut : (front ++ behind).drop (covered - 1) = front.drop (covered - 1) ++ behind :=
          List.drop_append_of_le_length (by omega)
        have shorter := ih (front.drop (covered - 1)).length (by rw [List.length_drop]; omega)
          (front.drop (covered - 1)) rfl
        rw [List.cons_append, apply_cons_of_some (same.trans tried), apply_cons_of_some tried, cut,
          shorter, List.append_assoc]

/-- A pass that waits for a mark treats a text in front of a character on its own if nothing that may
follow the mark goes across this character. -/
theorem apply_append_of_stop {mark c : Char} {steps : List Step}
    {write : List (List Char) → List Char} (stops : ∀ step ∈ steps, step.StopsAt c)
    (front behind : List Char) :
    (ofPattern (Step.char mark :: steps) write).apply (front ++ c :: behind) =
      (ofPattern (Step.char mark :: steps) write).apply front ++
        (ofPattern (Step.char mark :: steps) write).apply (c :: behind) := by
  refine apply_append_of_within ?_ ?_ front
  · intro d front
    by_cases isMark : d = mark
    · subst isMark
      have inner := match?_append_of_stop stops front behind
      simp only [ofPattern, match?_char_cons, inner, Option.map_map, Function.comp_def]
    · simp only [ofPattern, match?_char_of_ne _ _ isMark]
  · intro front written covered applies
    simp only [ofPattern, Option.map_eq_some_iff, Prod.mk.injEq] at applies
    obtain ⟨found, matched, -, rfl⟩ := applies
    have whole := congrArg List.length (match?_eq_some matched)
    rw [List.length_append] at whole
    omega

/-! ## Several passes -/

/-- A pass treats what stands in front of a border and what stands behind it on their own, and leaves
the border as it is. -/
def KeepsApart (border : List Char) (rule : Rule) : Prop :=
  ∀ front behind, rule.apply (front ++ (border ++ behind)) =
    rule.apply front ++ (border ++ rule.apply behind)

/-- So do several such passes, one after the other. -/
theorem KeepsApart.foldl {border : List Char} {rules : List Rule}
    (each : ∀ rule ∈ rules, KeepsApart border rule) (front behind : List Char) :
    rules.foldl (fun text rule => rule.apply text) (front ++ (border ++ behind)) =
      rules.foldl (fun text rule => rule.apply text) front ++
        (border ++ rules.foldl (fun text rule => rule.apply text) behind) := by
  induction rules generalizing front behind with
  | nil => rfl
  | cons rule rules ih =>
    have here := each rule List.mem_cons_self
    have later := ih fun rule mem => each rule (List.mem_cons_of_mem _ mem)
    simp only [List.foldl_cons]
    rw [here front behind, later]

/-- A border without the mark that a pass waits for is kept if nothing goes across its first
character. -/
theorem keepsApart_of_stop {mark c : Char} {steps : List Step} {border : List Char}
    {write : List (List Char) → List Char} (stops : ∀ step ∈ steps, step.StopsAt c)
    (absent : mark ∉ c :: border) :
    KeepsApart (c :: border) (ofPattern (Step.char mark :: steps) write) := by
  intro front behind
  have passes : (ofPattern (Step.char mark :: steps) write).apply (c :: (border ++ behind)) =
      c :: (border ++ (ofPattern (Step.char mark :: steps) write).apply behind) :=
    apply_append_of_not_mem absent behind
  rw [List.cons_append, apply_append_of_stop stops, passes, List.cons_append]

end Rule

namespace Reference

open Pattern

variable {scope : Scope} {rule : Rule} {c : Char}

/-! ## The passes for arguments and variables -/

/-- What the passes for arguments and variables make of a text, one after the other. -/
def beforeEnvironment (scope : Scope) (text : String) : String :=
  String.ofList (((rules scope).take 4).foldl (fun text rule => rule.apply text) text.toList)

/-- The last pass follows them. -/
theorem resolve_eq_onText (scope : Scope) (text : String) :
    resolve scope text = (environment scope.environment).onText (beforeEnvironment scope text) := by
  rw [Rule.onText, beforeEnvironment, String.toList_ofList]
  rfl

/-- A character that stands in no name, that is no mark and that opens no parenthesis is a border for
these passes. -/
theorem keepsApart_separator (mem : rule ∈ (rules scope).take 4)
    (noWord : CharClass.isWord c = false) (other : c ∉ ['(', '?', '$']) :
    Rule.KeepsApart [c] rule := by
  have noDigit : CharClass.isDecimalDigit c = false := isDecimalDigit_of_not_isWord noWord
  simp only [List.mem_cons, List.not_mem_nil, or_false, not_or] at other
  obtain ⟨noCall, noQuestion, noDollar⟩ := other
  simp only [rules, List.take_succ_cons, List.take_zero, List.mem_cons, List.not_mem_nil,
    or_false] at mem
  rcases mem with rfl | rfl | rfl | rfl
  · refine Rule.keepsApart_of_stop ?_ (by simp [Ne.symm noQuestion])
    simpa [Step.StopsAt, Step.oneOrMore] using noDigit
  · refine Rule.keepsApart_of_stop ?_ (by simp [Ne.symm noQuestion])
    simpa [Step.StopsAt, Step.oneOrMore] using noWord
  all_goals
    refine Rule.keepsApart_of_stop ?_ (by simp [Ne.symm noDollar])
    simpa [Step.StopsAt, Step.oneOrMore, Step.optionally, noCall] using noWord

/-- So is the beginning of a reference to the environment. -/
theorem keepsApart_environmentCall (mem : rule ∈ (rules scope).take 4) :
    Rule.KeepsApart environmentCall rule := by
  have noWord : CharClass.isWord '$' = false := by decide
  have noDigit : CharClass.isDecimalDigit '$' = false := by decide
  have begins : environmentCall = '$' :: "env(".toList := rfl
  -- the passes for variables wait for the first character of the border itself
  have byVariables : ∀ value? : String → Option String,
      Rule.KeepsApart environmentCall (dollarNames value?) := by
    intro value? front behind
    have stops : ∀ step ∈ [Step.oneOrMore CharClass.isWord, Step.optionally '('],
        step.StopsAt '$' := by
      simpa [Step.StopsAt, Step.oneOrMore, Step.optionally] using noWord
    have call := apply_dollarNames_call value? behind
    rw [begins, List.cons_append] at call ⊢
    rw [← call]
    exact Rule.apply_append_of_stop stops front _
  simp only [rules, List.take_succ_cons, List.take_zero, List.mem_cons, List.not_mem_nil,
    or_false] at mem
  rcases mem with rfl | rfl | rfl | rfl
  · refine Rule.keepsApart_of_stop (c := '$') ?_ (by decide)
    simpa [Step.StopsAt, Step.oneOrMore] using noDigit
  · refine Rule.keepsApart_of_stop (c := '$') ?_ (by decide)
    simpa [Step.StopsAt, Step.oneOrMore] using noWord
  · exact byVariables _
  · exact byVariables _

/-- A border for each of these passes is one for all of them. -/
theorem beforeEnvironment_append {border : String}
    (each : ∀ rule ∈ (rules scope).take 4, Rule.KeepsApart border.toList rule)
    (front behind : String) :
    beforeEnvironment scope (front ++ border ++ behind) =
      beforeEnvironment scope front ++ border ++ beforeEnvironment scope behind := by
  have lists := Rule.KeepsApart.foldl each front.toList behind.toList
  simp only [beforeEnvironment, String.toList_append, List.append_assoc]
  rw [lists]
  simp [String.ofList_append, String.append_assoc]

/-! ## The last pass -/

/-- A word in which a character does not stand does not begin in front of it and end behind it. -/
theorem prefix_of_prefix_append_cons {word front behind : List Char} (absent : c ∉ word)
    (begins : word <+: front ++ c :: behind) : word <+: front := by
  rcases List.prefix_or_prefix_of_prefix begins (List.prefix_append front (c :: behind)) with
    within | ⟨rest, rfl⟩
  · exact within
  · have later : rest <+: c :: behind := (List.prefix_append_right_inj front).1 begins
    cases rest with
    | nil => simp
    | cons d rest =>
      obtain ⟨rfl, -⟩ := List.cons_prefix_cons.1 later
      exact absurd (List.mem_append_right front List.mem_cons_self) absent

/-- Up to a character that does not stand in `$env(` the last pass leaves a text without `$env(` as
it is. -/
theorem apply_environment_append_of_not_infix (value? : String → Option String)
    {front : List Char} (noCall : ¬ environmentCall <:+: front) (foreign : c ∉ environmentCall)
    (behind : List Char) :
    (environment value?).apply (front ++ c :: behind) =
      front ++ (environment value?).apply (c :: behind) := by
  induction front with
  | nil => rfl
  | cons d front ih =>
    have silent : environment value? (d :: (front ++ c :: behind)) = none := by
      rw [environment, Rule.ofPattern, Option.map_eq_none_iff, Option.eq_none_iff_forall_ne_some]
      rintro ⟨pieces, after⟩ found
      have begins : environmentCall <+: (d :: front) ++ c :: behind := prefix_of_match?_word found
      exact noCall (prefix_of_prefix_append_cons foreign begins).isInfix
    have noCall' : ¬ environmentCall <:+: front :=
      fun here => noCall (here.trans (List.suffix_cons d front).isInfix)
    rw [List.cons_append, Rule.apply_cons_of_none silent, ih noCall', List.cons_append]

/-- A character that stands in no name, that is no mark and that opens no parenthesis does not stand
in `$env(`. -/
theorem not_mem_environmentCall (noWord : CharClass.isWord c = false) (other : c ∉ ['(', '?', '$']) :
    c ∉ environmentCall := by
  intro mem
  have marks : environmentCall.all (fun d => CharClass.isWord d || ['(', '?', '$'].contains d) =
      true := by decide
  have inCall := List.all_eq_true.1 marks c mem
  rw [noWord, Bool.false_or, List.contains_iff_mem] at inCall
  exact other inCall

/-! ## All passes -/

/-- In front of a character that stands in no name, that is no mark and that opens no parenthesis, and
behind it, the passes for arguments and variables resolve the text as they resolve it alone; so does
resolution as a whole, unless a reference to the environment has been begun in front of the character.
Before `$env(` and behind it these passes resolve the text as they resolve it alone in any case. -/
theorem separation (scope : Scope) (front behind : String) :
    (∀ c, CharClass.isWord c = false → c ∉ ['(', '?', '$'] →
      beforeEnvironment scope (front ++ String.singleton c ++ behind) =
          beforeEnvironment scope front ++ String.singleton c ++ beforeEnvironment scope behind ∧
        (¬ "$env(".toList <:+: (beforeEnvironment scope front).toList →
          resolve scope (front ++ String.singleton c ++ behind) =
            resolve scope front ++ String.singleton c ++ resolve scope behind)) ∧
      beforeEnvironment scope (front ++ "$env(" ++ behind) =
        beforeEnvironment scope front ++ "$env(" ++ beforeEnvironment scope behind := by
  refine ⟨fun c noWord other => ?_, ?_⟩
  · have apart : beforeEnvironment scope (front ++ String.singleton c ++ behind) =
        beforeEnvironment scope front ++ String.singleton c ++ beforeEnvironment scope behind := by
      refine beforeEnvironment_append ?_ front behind
      intro rule mem
      rw [String.toList_singleton]
      exact keepsApart_separator mem noWord other
    refine ⟨apart, fun noCall => ?_⟩
    have foreign : c ∉ environmentCall := not_mem_environmentCall noWord other
    have noDollar : '$' ∉ [c] := by
      intro mem
      obtain rfl := List.mem_singleton.1 mem
      exact foreign (by decide)
    have left : (environment scope.environment).onText (beforeEnvironment scope front) =
        beforeEnvironment scope front := onText_environment_of_not_infix noCall
    have right := apply_environment_append_of_not_infix scope.environment noCall foreign
      (beforeEnvironment scope behind).toList
    have next := apply_environment_append scope.environment noDollar
      (beforeEnvironment scope behind).toList
    rw [List.singleton_append, List.singleton_append] at next
    rw [resolve_eq_onText, resolve_eq_onText, resolve_eq_onText, apart, left]
    simp only [Rule.onText, String.toList_append, String.toList_singleton, List.append_assoc,
      List.singleton_append]
    rw [right, next]
    rw [← String.toList_inj]
    simp
  · exact beforeEnvironment_append (fun rule mem => keepsApart_environmentCall mem) front behind

/-- Values that hold references to each other, and a variable of the name `env`. -/
def entangled : Scope :=
  { positional := ["?key"], named := ⟨[("key", "$A")]⟩,
    declared := ⟨[("A", "$B("), ("env", "oops")]⟩, runtime := ⟨[("B", "b?")]⟩,
    environment := fun name => if name = "HOME" then some "/home" else none }

/-- Four passes write one after the other in front of a hyphen, and `$env(` behind it is left to the
environment. -/
theorem separation_of_entangled :
    CharClass.isWord '-' = false ∧ '-' ∉ ['(', '?', '$'] ∧
      ¬ "$env(".toList <:+: (beforeEnvironment entangled "?1").toList ∧
      resolve entangled ("?1" ++ String.singleton '-' ++ "$env(HOME)$env") =
        "b?(" ++ String.singleton '-' ++ "/homeoops" ∧
      beforeEnvironment entangled ("?1" ++ "$env(" ++ "HOME)$env") =
        "b?(" ++ "$env(" ++ "HOME)oops" := by
  have noWord : CharClass.isWord '-' = false := by decide
  have other : '-' ∉ ['(', '?', '$'] := by decide
  have left : beforeEnvironment entangled "?1" = "b?(" := by decide +kernel
  have noCall : ¬ "$env(".toList <:+: (beforeEnvironment entangled "?1").toList := by
    rw [left]
    intro inside
    exact absurd inside.length_le (by decide)
  have right : beforeEnvironment entangled "HOME)$env" = "HOME)oops" := by decide +kernel
  have leftResolved : resolve entangled "?1" = "b?(" := by decide +kernel
  have rightResolved : resolve entangled "$env(HOME)$env" = "/homeoops" := by decide +kernel
  have hyphen := ((separation entangled "?1" "$env(HOME)$env").1 '-' noWord other).2 noCall
  have call := (separation entangled "?1" "HOME)$env").2
  rw [leftResolved, rightResolved] at hyphen
  rw [left, right] at call
  exact ⟨noWord, other, noCall, hyphen, call⟩

end Reference
end TaskScript
