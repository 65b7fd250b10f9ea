import Mathlib
import TaskScript.Proofs.Reference.Extent
import TaskScript.Proofs.Reference.Variable

/-!
# Identifier — where a reference to a variable ends

A reference to a variable goes as far as the word behind its mark, and a word may hold letters of
any script.  So a name made of ASCII letters, ASCII digits and underscores ends where a hyphen or a
blank follows, but not where a letter of another script does: that refers to another variable.

- `Scope.valueOf?`, `IsIdentifier`  : what variables stand for, and such names
- `Reference.apply_dollarNames_word` : a pass at a word, which a parenthesis may follow
- `Reference.resolve_word`           : what a mark and a word are resolved to in front of a text
- `Runner.identifiers_in_text`       : such names in front of any other character
-/

namespace TaskScript

/-- What a variable stands for: the value that it has been assigned, or else the declared one. -/
def Scope.valueOf? (scope : Scope) (name : String) : Option String :=
  (scope.runtime.get? name).or (scope.declared.get? name)

/-- A character that identifiers are made of. -/
def isIdentifierChar (c : Char) : Bool :=
  c.isAlphanum || c == '_'

/-- A name made of ASCII letters, ASCII digits and underscores. -/
def IsIdentifier (text : String) : Prop :=
  text.toList ≠ [] ∧ ∀ c ∈ text.toList, isIdentifierChar c = true

instance (text : String) : Decidable (IsIdentifier text) :=
  have : Decidable (∀ c ∈ text.toList, isIdentifierChar c = true) := List.decidableBAll _ _
  inferInstanceAs (Decidable (_ ∧ _))

theorem isWord_of_isIdentifierChar {c : Char} (plain : isIdentifierChar c = true) :
    CharClass.isWord c = true := by
  have ascii : c.toNat < 0x80 := by
    simp only [isIdentifierChar, Char.isAlphanum, Char.isAlpha, Char.isUpper, Char.isLower,
      Char.isDigit, Bool.or_eq_true, Bool.and_eq_true, decide_eq_true_eq, beq_iff_eq] at plain
    rcases plain with ((⟨-, upper⟩ | ⟨-, lower⟩) | ⟨-, digit⟩) | rfl
    · exact Nat.lt_of_le_of_lt upper (by decide)
    · exact Nat.lt_of_le_of_lt lower (by decide)
    · exact Nat.lt_of_le_of_lt digit (by decide)
    · decide
  rw [CharClass.isWord_of_ascii ascii]
  exact plain

/-- An identifier is a word. -/
theorem IsIdentifier.isName {name : String} (h : IsIdentifier name) : IsName name :=
  ⟨h.1, fun c mem => isWord_of_isIdentifierChar (h.2 c mem)⟩

namespace Reference

open Pattern

variable {word rest value : String} {scope : Scope}

/-! ## Passes -/

/-- A word is replaced by what it stands for, whatever follows, unless it begins a reference to the
environment. -/
theorem apply_dollarNames_word (value? : String → Option String) (isName : IsName word)
    {behind : List Char} (stops : ∀ c ∈ behind.head?, CharClass.isWord c = false)
    (noCall : word = "env" → ∀ c ∈ behind.head?, c ≠ '(') :
    (dollarNames value?).apply ('$' :: (word.toList ++ behind)) =
      ((value? word).getD ("$" ++ word)).toList ++ (dollarNames value?).apply behind := by
  by_cases called : '(' ∈ behind.head?
  · obtain ⟨more, rfl⟩ : ∃ more, behind = '(' :: more := List.head?_eq_some_iff.1 called
    have other : word ≠ "env" := fun same => noCall same '(' rfl rfl
    have found : match? [Step.char '$', Step.oneOrMore CharClass.isWord, Step.optionally '(']
        ('$' :: (word.toList ++ '(' :: more)) = some ([['$'], word.toList, ['(']], more) := by
      refine match?_of_takeAll ?_ ?_ (by simp)
      · simp only [TakeAll, takes_char, takes_oneOrMore, takes_optionally, or_true, true_and,
          and_true]
        exact isName
      · simp only [EndsAll, ends_char, ends_oneOrMore, ends_optionally, true_and, and_true,
          List.flatten_cons, List.flatten_nil, List.append_nil, List.singleton_append]
        exact stops_cons (by decide)
    -- the parenthesis is taken with the word and written again
    have passed : (dollarNames value?).apply ('(' :: more) =
        '(' :: (dollarNames value?).apply more :=
      Rule.apply_append_of_not_mem (by decide : '$' ∉ ['(']) more
    have foreign : (word.toList == "env".toList) = false :=
      beq_eq_false_iff_ne.2 fun same => other (String.toList_inj.1 same)
    rw [passed, dollarNames, Rule.apply_of_match? found (by simp)]
    dsimp only
    rw [foreign, Bool.and_false, String.ofList_toList]
    cases value? word <;> simp
  · have stops' : ∀ c ∈ behind.head?, CharClass.isWord c = false ∧ c ≠ '(' :=
      fun c mem => ⟨stops c mem, fun same => called (same ▸ mem)⟩
    rw [apply_dollarNames value? isName stops']
    cases value? word <;> simp

/-- A mark and a word are no reference to the environment, unless this is what they begin. -/
theorem apply_environment_word (value? : String → Option String) (isName : IsName word)
    (noDollar : '$' ∉ rest.toList) (stops : ∀ c ∈ rest.toList.head?, CharClass.isWord c = false)
    (noCall : word = "env" → ∀ c ∈ rest.toList.head?, c ≠ '(') :
    (environment value?).apply ('$' :: (word.toList ++ rest.toList)) =
      '$' :: (word.toList ++ rest.toList) := by
  have silent : environment value? ('$' :: (word.toList ++ rest.toList)) = none := by
    rw [environment, Rule.ofPattern, Option.map_eq_none_iff, Option.eq_none_iff_forall_ne_some]
    rintro ⟨pieces, after⟩ found
    obtain ⟨more, begins⟩ := prefix_of_match?_word found
    have same : "env".toList ++ ('(' :: more) = word.toList ++ rest.toList :=
      (List.cons.inj begins).2
    have isEnv : IsName "env" := by decide
    obtain ⟨isWord, isRest⟩ :=
      append_inj_of_stop same isEnv.2 (stops_cons (by decide)) isName.2 stops
    exact noCall (String.toList_inj.1 isWord).symm '(' (by rw [← isRest]; rfl) rfl
  have behind : '$' ∉ word.toList ++ rest.toList := by
    rw [List.mem_append, not_or]
    exact ⟨isName.not_mem (by decide), noDollar⟩
  have passed := apply_environment_append value? behind []
  rw [List.append_nil, Rule.apply_nil, List.append_nil] at passed
  rw [Rule.apply_cons_of_none silent, passed]

/-! ## All passes -/

theorem unshadowed?_of_assigned (assigned : scope.runtime.get? word = some value) :
    Scope.unshadowed? scope.declared scope.runtime word = none := by
  simp [Scope.unshadowed?, Bindings.contains, assigned]

/-- The two passes for variables together replace a word by what it stands for. -/
theorem apply_variables_word (scope : Scope) (isName : IsName word)
    (noDollar : '$' ∉ rest.toList) (stops : ∀ c ∈ rest.toList.head?, CharClass.isWord c = false)
    (noCall : word = "env" → ∀ c ∈ rest.toList.head?, c ≠ '(')
    (plain : ∀ value, scope.valueOf? word = some value → '$' ∉ value.toList) :
    (dollarNames scope.runtime.get?).apply
        ((dollarNames (Scope.unshadowed? scope.declared scope.runtime)).apply
          ('$' :: (word.toList ++ rest.toList))) =
      ((scope.valueOf? word).getD ("$" ++ word)).toList ++ rest.toList := by
  have behind : ∀ value? : String → Option String,
      (dollarNames value?).apply rest.toList = rest.toList :=
    fun value? => Rule.apply_of_not_mem noDollar
  have written : ("$" ++ word).toList ++ rest.toList = '$' :: (word.toList ++ rest.toList) := by
    simp
  rw [apply_dollarNames_word _ isName stops noCall, behind]
  cases assigned : scope.runtime.get? word with
  | some value =>
    -- the first of the two passes leaves the word to the second
    have stands : scope.valueOf? word = some value := by simp [Scope.valueOf?, assigned]
    rw [unshadowed?_of_assigned assigned, stands, Option.getD_none, written,
      apply_dollarNames_word _ isName stops noCall, behind, assigned]
  | none =>
    have stands : scope.valueOf? word = scope.declared.get? word := by
      simp [Scope.valueOf?, assigned]
    rw [unshadowed?_of_unassigned assigned, stands]
    cases declared : scope.declared.get? word with
    | some value =>
      have absent : '$' ∉ value.toList ++ rest.toList := by
        rw [List.mem_append, not_or]
        exact ⟨plain value (stands.trans declared), noDollar⟩
      exact Rule.apply_of_not_mem absent
    | none =>
      rw [Option.getD_none, written, apply_dollarNames_word _ isName stops noCall, behind, assigned,
        Option.getD_none, written]

/-- A mark and a word in front of a text without marks are resolved to what the word stands for, if
it stands for anything, and the text stays behind it. -/
theorem resolve_word (scope : Scope) (isName : IsName word) (literal : IsLiteral rest)
    (stops : ∀ c ∈ rest.toList.head?, CharClass.isWord c = false)
    (noCall : word = "env" → ∀ c ∈ rest.toList.head?, c ≠ '(')
    (plain : ∀ value, scope.valueOf? word = some value → IsLiteral value) :
    resolve scope ("$" ++ word ++ rest) =
      (scope.valueOf? word).getD ("$" ++ word) ++ rest := by
  have written : "$" ++ word ++ rest = String.ofList ('$' :: (word.toList ++ rest.toList)) := by
    rw [← String.toList_inj]
    simp
  have noQuestion : '?' ∉ '$' :: (word.toList ++ rest.toList) := by
    have inWord : '?' ∉ word.toList := isName.not_mem (by decide)
    simp [inWord, literal.2]
  have last : (environment scope.environment).apply
      (((scope.valueOf? word).getD ("$" ++ word)).toList ++ rest.toList) =
        ((scope.valueOf? word).getD ("$" ++ word)).toList ++ rest.toList := by
    cases stands : scope.valueOf? word with
    | some value =>
      have absent : '$' ∉ value.toList ++ rest.toList := by
        rw [List.mem_append, not_or]
        exact ⟨(plain value stands).1, literal.1⟩
      have whole := apply_environment_append scope.environment absent []
      rwa [List.append_nil, Rule.apply_nil, List.append_nil] at whole
    | none =>
      have whole := apply_environment_word scope.environment isName literal.1 stops noCall
      simpa using whole
  have passed := apply_variables_word scope isName literal.1 stops noCall
    fun value stands => (plain value stands).1
  rw [written, resolve_of_no_question scope noQuestion, passed, last, ← String.toList_append,
    String.ofList_toList]

/-! ## Words that go on in the text behind -/

/-- A word and the first word of the text behind it make up a word. -/
theorem isName_append_firstWord (isName : IsName word) (rest : String) :
    IsName (word ++ firstWord rest) := by
  refine ⟨?_, ?_⟩
  · rw [String.toList_append]
    exact List.append_ne_nil_of_left_ne_nil isName.1 _
  · intro c mem
    rw [String.toList_append, List.mem_append] at mem
    rcases mem with here | behind
    · exact isName.2 c here
    · exact isWord_of_mem_firstWord behind

/-- A word that goes on with a character of no identifier is not `env`. -/
theorem ne_env_of_continued (ends : ∀ c ∈ rest.toList.head?, isIdentifierChar c = false)
    (continued : firstWord rest ≠ "") : word ++ firstWord rest ≠ "env" := by
  intro same
  have chars := congrArg String.toList same
  rw [String.toList_append] at chars
  obtain ⟨c, more, first⟩ := List.exists_cons_of_ne_nil fun none_ =>
    continued (String.toList_eq_nil_iff.1 none_)
  have inEnv : c ∈ "env".toList := by
    rw [← chars, first]
    exact List.mem_append_right _ List.mem_cons_self
  have head : c ∈ rest.toList.head? := by
    rw [toList_key rest, first]
    rfl
  have letters : ∀ d ∈ "env".toList, isIdentifierChar d = true :=
    List.all_eq_true.1 (by decide)
  have plain := letters c inEnv
  rw [ends c head] at plain
  exact nomatch plain

/-- Nor does a parenthesis follow `env`, if none follows the word that goes on. -/
theorem noCall_of_continued
    (ends : ∀ c ∈ rest.toList.head?, isIdentifierChar c = false ∧ c ≠ '(')
    (same : word ++ firstWord rest = "env") : ∀ c ∈ (afterWord rest).toList.head?, c ≠ '(' := by
  by_cases stops : firstWord rest = ""
  · -- nothing goes on, so that what follows is the text itself
    have parts := firstWord_append_afterWord rest
    rw [stops, String.empty_append] at parts
    rw [parts]
    exact fun c mem => (ends c mem).2
  · exact absurd same (ne_env_of_continued (fun c mem => (ends c mem).1) stops)

theorem isLiteral_afterWord (literal : IsLiteral rest) : IsLiteral (afterWord rest) := by
  rw [IsLiteral, toList_key rest, List.mem_append, List.mem_append, not_or, not_or] at literal
  exact ⟨literal.1.2, literal.2.2⟩

end Reference

namespace Runner

open Reference

variable {name value : String}

/-- An identifier that stands for something is replaced in front of a text that begins neither with
a character of an identifier nor with a parenthesis, if this text does not begin with any character
of a word.  If it does, the reference goes on to the end of this word, and the identifier is of no
account: the longer word is replaced, or left as it is if it stands for nothing. -/
theorem identifiers_in_text (r : Runner) (task rest : String) (isIdentifier : IsIdentifier name)
    (given : (r.scope task).valueOf? name = some value) (plain : IsLiteral value)
    (literal : IsLiteral rest)
    (ends : ∀ c ∈ rest.toList.head?, isIdentifierChar c = false ∧ c ≠ '(') :
    ((∀ c ∈ rest.toList.head?, CharClass.isWord c = false) →
      r.resolve task ("$" ++ name ++ rest) = value ++ rest) ∧
    ((∀ other, (r.scope task).valueOf? (name ++ firstWord rest) = some other →
        IsLiteral other) →
      r.resolve task ("$" ++ name ++ rest) =
        ((r.scope task).valueOf? (name ++ firstWord rest)).getD
          ("$" ++ (name ++ firstWord rest)) ++ afterWord rest) := by
  have isName := isIdentifier.isName
  constructor
  · intro stops
    have resolved := resolve_word (r.scope task) isName literal stops
      (fun _ c mem => (ends c mem).2)
      (fun other stands => Option.some.inj (given.symm.trans stands) ▸ plain)
    rwa [given, Option.getD_some] at resolved
  · intro plain'
    have resolved := resolve_word (r.scope task) (isName_append_firstWord isName rest)
      (isLiteral_afterWord literal) (stops_afterWord rest) (noCall_of_continued ends) plain'
    have written : "$" ++ (name ++ firstWord rest) ++ afterWord rest = "$" ++ name ++ rest :=
      calc "$" ++ (name ++ firstWord rest) ++ afterWord rest
          = "$" ++ name ++ (firstWord rest ++ afterWord rest) := by simp only [String.append_assoc]
        _ = "$" ++ name ++ rest := by rw [firstWord_append_afterWord]
    rw [written] at resolved
    exact resolved

/-- Variables with names in two scripts. -/
def bilingual : Script :=
  ⟨[⟨"A", "v"⟩, ⟨"B", "u"⟩, ⟨"Bé", "w"⟩], []⟩

/-- One of them in front of a hyphen, the same one in front of a letter that goes on with its name,
and another one in front of a letter with which it is a third one. -/
theorem identifiers_in_text_of_bilingual :
    (fresh bilingual).resolve "t" ("$" ++ "A" ++ "-é") = "v-é" ∧
      (fresh bilingual).resolve "t" ("$" ++ "A" ++ "é") = "$Aé" ∧
      (fresh bilingual).resolve "t" ("$" ++ "B" ++ "é!") = "w!" := by
  have valueA : ((fresh bilingual).scope "t").valueOf? "A" = some "v" := by decide
  have valueB : ((fresh bilingual).scope "t").valueOf? "B" = some "u" := by decide
  have word : firstWord "é" = "é" ∧ afterWord "é" = "" := by decide +kernel
  have word' : firstWord "é!" = "é" ∧ afterWord "é!" = "!" := by decide +kernel
  have longerA : ((fresh bilingual).scope "t").valueOf? ("A" ++ firstWord "é") = none := by
    rw [word.1]
    decide
  have longerB : ((fresh bilingual).scope "t").valueOf? ("B" ++ firstWord "é!") = some "w" := by
    rw [word'.1]
    decide
  have plain : ∀ other, some "w" = some other → IsLiteral other := by
    rintro other ⟨⟩
    decide
  have ends : ∀ c ∈ "-é".toList.head?, isIdentifierChar c = false ∧ c ≠ '(' := by
    rintro _ ⟨⟩
    decide
  have stops : ∀ c ∈ "-é".toList.head?, CharClass.isWord c = false := by
    rintro _ ⟨⟩
    decide
  have ends' : ∀ c ∈ "é".toList.head?, isIdentifierChar c = false ∧ c ≠ '(' := by
    rintro _ ⟨⟩
    decide
  have hyphen := (identifiers_in_text (fresh bilingual) "t" "-é" (by decide) valueA
    (by decide) (by decide) ends).1 stops
  have letter := (identifiers_in_text (fresh bilingual) "t" "é" (by decide) valueA
    (by decide) (by decide) ends').2 (by simp [longerA])
  have letter' := (identifiers_in_text (fresh bilingual) "t" "é!" (by decide) valueB
    (by decide) (by decide) ends').2 (by rwa [longerB])
  rw [longerA, word.1, word.2] at letter
  rw [longerB, word'.2] at letter'
  exact ⟨hyphen, letter, letter'⟩

/-- A reference to a variable may go on behind its name, where no identifier does. -/
theorem variable_swallowed :
    ¬ ∀ (r : Runner) (task name rest value : String), IsIdentifier name →
      (r.scope task).valueOf? name = some value → IsLiteral value → IsLiteral rest →
        (∀ c ∈ rest.toList.head?, isIdentifierChar c = false ∧ c ≠ '(') →
          r.resolve task ("$" ++ name ++ rest) = value ++ rest := by
  intro always
  have ends : ∀ c ∈ "é".toList.head?, isIdentifierChar c = false ∧ c ≠ '(' := by
    rintro _ ⟨⟩
    decide
  have replaced := always (fresh bilingual) "t" "A" "é" "v" (by decide) (by decide) (by decide)
    (by decide) ends
  have left : (fresh bilingual).resolve "t" ("$" ++ "A" ++ "é") ≠ "v" ++ "é" := by decide +kernel
  exact left replaced

end Runner
end TaskScript
