import TaskScript.Proofs.Reading.Shape
import TaskScript.Proofs.Reference.Literal

/-!
# Scan — what a pass makes of a single reference

Where a pass comes to a reference and nothing behind it goes on with the name, it replaces exactly
this reference or leaves exactly this reference as it is, and goes on behind it.

- `Reference.apply_positional`, `Reference.apply_named`, `Reference.apply_dollarNames` : the passes at
  the references that they look for
- `Reference.apply_positional_of_name` : the first pass leaves names alone
- `Reference.apply_positional_numeral` : the numeral of an index stands for the argument there
-/

namespace TaskScript
namespace Reference

open Pattern

variable {digits rest : List Char} {name : String}

/-! ## Numbers -/

theorem isDecimalDigit_of_isDigit {c : Char} (digit : c.isDigit = true) :
    CharClass.isDecimalDigit c = true := by
  have ascii : c.toNat < 0x80 := by
    simp only [Char.isDigit, Bool.and_eq_true, decide_eq_true_eq] at digit
    exact Nat.lt_of_le_of_lt digit.2 (by decide)
  rw [CharClass.isDecimalDigit_of_ascii ascii, digit]

theorem isDecimalDigit_of_not_isWord {c : Char} (noWord : CharClass.isWord c = false) :
    CharClass.isDecimalDigit c = false := by
  refine Bool.eq_false_iff.2 fun digit => ?_
  have word := CharClass.isWord_of_isDecimalDigit digit
  rw [noWord] at word
  exact nomatch word

/-- What does not go on with a name does not go on with a number. -/
theorem stops_digit (stops : ∀ c ∈ rest.head?, CharClass.isWord c = false) :
    ∀ c ∈ rest.head?, CharClass.isDecimalDigit c = false :=
  fun c mem => isDecimalDigit_of_not_isWord (stops c mem)

/-- A number is replaced by the argument with this index, if it is the numeral of one. -/
theorem apply_positional (args : List String) (some_ : digits ≠ [])
    (decimal : ∀ c ∈ digits, CharClass.isDecimalDigit c = true)
    (stops : ∀ c ∈ rest.head?, CharClass.isDecimalDigit c = false) :
    (positional args).apply ('?' :: (digits ++ rest)) =
      (match (Scope.decimalValue? digits).bind (Scope.argument? args) with
        | some value => value.toList
        | none => '?' :: digits) ++ (positional args).apply rest := by
  have found : match? [Step.char '?', Step.oneOrMore CharClass.isDecimalDigit]
      ('?' :: (digits ++ rest)) = some ([['?'], digits], rest) := by
    refine match?_of_takeAll ?_ ?_ (by simp)
    · simp only [TakeAll, takes_char, takes_oneOrMore, true_and, and_true]
      exact ⟨some_, decimal⟩
    · simp only [EndsAll, ends_char, ends_oneOrMore, true_and, and_true, List.flatten_nil,
        List.nil_append]
      exact stops
  rw [positional, Rule.apply_of_match? found (by simp)]
  rfl

/-! ## Numerals -/

/-- The numeral of an index. -/
def numeral (index : Nat) : List Char :=
  (toString index).toList

theorem numeral_eq (index : Nat) : numeral index = Nat.toDigits 10 index :=
  Nat.toList_repr

theorem isDigit_of_mem_numeral {index : Nat} {c : Char} (mem : c ∈ numeral index) :
    c.isDigit = true := by
  rw [numeral_eq] at mem
  exact Nat.isDigit_of_mem_toDigits (by decide) (by decide) mem

/-- A numeral is read as the number that it was written for. -/
theorem decimalValue?_numeral (index : Nat) : Scope.decimalValue? (numeral index) = some index := by
  have digits : (numeral index).all Char.isDigit = true :=
    List.all_eq_true.2 fun c mem => isDigit_of_mem_numeral mem
  rw [Scope.decimalValue?, if_pos digits, numeral_eq]
  exact congrArg some (Nat.ofDigitChars_toDigits (by decide) (by decide))

/-- The numeral of an index is replaced by the argument with this index. -/
theorem apply_positional_numeral {args : List String} {index : Nat} {value : String}
    (isArgument : Scope.argument? args index = some value)
    (stops : ∀ c ∈ rest.head?, CharClass.isWord c = false) :
    (positional args).apply ('?' :: (numeral index ++ rest)) =
      value.toList ++ (positional args).apply rest := by
  have some_ : numeral index ≠ [] := by
    rw [numeral_eq]
    exact Nat.toDigits_ne_nil
  have decimal : ∀ c ∈ numeral index, CharClass.isDecimalDigit c = true :=
    fun c mem => isDecimalDigit_of_isDigit (isDigit_of_mem_numeral mem)
  rw [apply_positional args some_ decimal (stops_digit stops), decimalValue?_numeral,
    Option.bind_some, isArgument]

/-! ## Names -/

/-- Every text begins with a longest run of a class. -/
theorem exists_run (ok : Char → Bool) (text : List Char) :
    ∃ run rest, text = run ++ rest ∧ (∀ c ∈ run, ok c = true) ∧ ∀ c ∈ rest.head?, ok c = false := by
  refine ⟨text.takeWhile ok, text.dropWhile ok, List.takeWhile_append_dropWhile.symm,
    fun c mem => List.all_eq_true.1 List.all_takeWhile c mem, ?_⟩
  intro c mem
  have stop := List.head?_dropWhile_not ok text
  rw [Option.mem_def.1 mem] at stop
  simpa using stop

/-- Where no character of a class stands behind a mark, a rule that looks for a run of this class does
nothing. -/
theorem ofPattern_run_eq_none {mark : Char} {ok : Char → Bool}
    {write : List (List Char) → List Char} {text : List Char}
    (stops : ∀ c ∈ text.head?, ok c = false) :
    Rule.ofPattern [Step.char mark, Step.oneOrMore ok] write (mark :: text) = none := by
  have noRun : text.takeWhile ok = [] := by
    have run := takeWhile_append_of_stop (List.forall_mem_nil _) stops
    simpa using run
  have silent : match? [Step.oneOrMore ok] text = none := by
    simp [match?, Step.oneOrMore, Step.longest, noRun]
  rw [Rule.ofPattern, match?_char_cons, silent, Option.map_none, Option.map_none]

/-- Where no number stands behind its mark, the first pass does nothing. -/
theorem positional_eq_none {args : List String} {text : List Char}
    (stops : ∀ c ∈ text.head?, CharClass.isDecimalDigit c = false) :
    positional args ('?' :: text) = none :=
  ofPattern_run_eq_none stops

/-- Nor does the second pass where no name stands there. -/
theorem named_eq_none {args : Bindings String} {text : List Char}
    (stops : ∀ c ∈ text.head?, CharClass.isWord c = false) : named args ('?' :: text) = none :=
  ofPattern_run_eq_none stops

/-- The first pass leaves a name alone, even if the name begins with digits of another script. -/
theorem apply_positional_of_name (args : List String) (isName : IsName name)
    (noDigit : ∀ c ∈ name.toList.head?, c.isDigit = false)
    (stops : ∀ c ∈ rest.head?, CharClass.isWord c = false) :
    (positional args).apply ('?' :: (name.toList ++ rest)) =
      '?' :: name.toList ++ (positional args).apply rest := by
  have noMark : '?' ∉ name.toList := fun mem => absurd (isName.2 '?' mem) (by decide)
  obtain ⟨digits, more, split, decimal, ends⟩ := exists_run CharClass.isDecimalDigit name.toList
  rw [split] at noMark noDigit ⊢
  rw [List.mem_append, not_or] at noMark
  have ends' : ∀ c ∈ (more ++ rest).head?, CharClass.isDecimalDigit c = false := by
    cases more with
    | nil => exact stops_digit stops
    | cons c more => exact ends
  have behind : (positional args).apply (more ++ rest) = more ++ (positional args).apply rest :=
    Rule.apply_append_of_not_mem noMark.2 rest
  rw [List.append_assoc]
  by_cases none_ : digits = []
  · -- there is no number behind the mark
    rw [none_, List.nil_append, Rule.apply_cons_of_none (positional_eq_none ends'), behind]
    rfl
  · -- there is one, but it is the numeral of no index
    have noNumeral : Scope.decimalValue? digits = none := by
      obtain ⟨first, others, rfl⟩ := List.exists_cons_of_ne_nil none_
      have foreign : first.isDigit = false := noDigit first rfl
      simp [Scope.decimalValue?, foreign]
    rw [apply_positional args none_ decimal ends', noNumeral, behind]
    simp

/-- A name is replaced by the argument of that name, if there is one. -/
theorem apply_named (args : Bindings String) (isName : IsName name)
    (stops : ∀ c ∈ rest.head?, CharClass.isWord c = false) :
    (named args).apply ('?' :: (name.toList ++ rest)) =
      (match args.get? name with
        | some value => value.toList
        | none => '?' :: name.toList) ++ (named args).apply rest := by
  have found : match? [Step.char '?', Step.oneOrMore CharClass.isWord]
      ('?' :: (name.toList ++ rest)) = some ([['?'], name.toList], rest) := by
    refine match?_of_takeAll ?_ ?_ (by simp)
    · simp only [TakeAll, takes_char, takes_oneOrMore, true_and, and_true]
      exact isName
    · simp only [EndsAll, ends_char, ends_oneOrMore, true_and, and_true, List.flatten_nil,
        List.nil_append]
      exact stops
  rw [named, Rule.apply_of_match? found (by simp)]
  dsimp only
  rw [String.ofList_toList]
  rfl

/-- A variable is replaced by its value, if it has one and no parenthesis follows. -/
theorem apply_dollarNames (value? : String → Option String) (isName : IsName name)
    (stops : ∀ c ∈ rest.head?, CharClass.isWord c = false ∧ c ≠ '(') :
    (dollarNames value?).apply ('$' :: (name.toList ++ rest)) =
      (match value? name with
        | some value => value.toList
        | none => '$' :: name.toList) ++ (dollarNames value?).apply rest := by
  have found : match? [Step.char '$', Step.oneOrMore CharClass.isWord, Step.optionally '(']
      ('$' :: (name.toList ++ rest)) = some ([['$'], name.toList, []], rest) := by
    refine match?_of_takeAll ?_ ?_ (by simp)
    · simp only [TakeAll, takes_char, takes_oneOrMore, takes_optionally, true_and, and_true,
        true_or]
      exact isName
    · simp only [EndsAll, ends_char, ends_oneOrMore, ends_optionally_nil, true_and, and_true,
        List.flatten_nil, List.flatten_cons, List.nil_append]
      exact ⟨fun c mem => (stops c mem).1, fun c mem => (stops c mem).2⟩
  rw [dollarNames, Rule.apply_of_match? found (by simp)]
  dsimp only
  rw [String.ofList_toList]
  cases value? name <;> simp

end Reference
end TaskScript
