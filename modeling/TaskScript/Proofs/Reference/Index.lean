import TaskScript.Proofs.Reference.Scan

/-!
# Index — positional references of any size

Behind the mark of a positional reference stands a number with any number of digits.  The pass replaces
exactly those numbers that are the index of an argument, and it makes no difference that an index is
kept in a word of 64 bits: a number that does not fit is the index of no argument.

- `Reference.indexed`         : what is written for a number
- `Reference.Indexes`         : what is written for a text, from left to right
- `Reference.wordArgument?`   : the argument with an index that is read digit by digit into a word
- `Reference.wordArgument?_eq` : the same argument as for numbers without bound
- `Reference.exact_indices`   : the pass writes what `Indexes` says, also if it reads words
-/

namespace TaskScript
namespace Reference

open Pattern

variable {args : List String} {digits rest text written : List Char}

/-! ## What is written -/

/-- What is written for digits behind the mark: the argument with this index if ASCII digits denote an
index, with any number of zeros in front, and else the reference as it is. -/
def indexed (args : List String) (digits : List Char) : List Char :=
  if within : digits.all Char.isDigit = true ∧ 1 ≤ Nat.ofDigitChars 10 digits 0 ∧
      Nat.ofDigitChars 10 digits 0 ≤ args.length then
    (args.get ⟨Nat.ofDigitChars 10 digits 0 - 1, by omega⟩).toList
  else
    '?' :: digits

/-- What is written for a text.  A mark and all the decimal digits behind it, of which there is at least
one, are a reference; everything else is copied. -/
inductive Indexes (args : List String) : List Char → List Char → Prop
  | ended : Indexes args [] []
  | copied {c : Char} {rest written : List Char} :
      c ≠ '?' → Indexes args rest written → Indexes args (c :: rest) (c :: written)
  | lone {rest written : List Char} :
      (∀ c ∈ rest.head?, CharClass.isDecimalDigit c = false) → Indexes args rest written →
        Indexes args ('?' :: rest) ('?' :: written)
  | numbered {digits rest written : List Char} :
      digits ≠ [] → (∀ c ∈ digits, CharClass.isDecimalDigit c = true) →
        (∀ c ∈ rest.head?, CharClass.isDecimalDigit c = false) → Indexes args rest written →
          Indexes args ('?' :: (digits ++ rest)) (indexed args digits ++ written)

theorem argument?_of_pos {index : Nat} (first : 1 ≤ index) (args : List String) :
    Scope.argument? args index = args[index - 1]? := by
  obtain ⟨before, rfl⟩ := Nat.exists_eq_add_of_le' first
  rfl

/-- The look-up of the pass gives what is to be written. -/
theorem indexed_eq (args : List String) (digits : List Char) :
    indexed args digits =
      match (Scope.decimalValue? digits).bind (Scope.argument? args) with
      | some value => value.toList
      | none => '?' :: digits := by
  by_cases within : digits.all Char.isDigit = true ∧ 1 ≤ Nat.ofDigitChars 10 digits 0 ∧
      Nat.ofDigitChars 10 digits 0 ≤ args.length
  · obtain ⟨ascii, first, last⟩ := within
    have value : Scope.decimalValue? digits = some (Nat.ofDigitChars 10 digits 0) := if_pos ascii
    have found := List.getElem?_eq_getElem (Nat.sub_one_lt_of_le first last)
    rw [value, Option.bind_some, argument?_of_pos first, found, indexed,
      dif_pos ⟨ascii, first, last⟩]
    rfl
  · have missing : (Scope.decimalValue? digits).bind (Scope.argument? args) = none := by
      by_cases ascii : digits.all Char.isDigit = true
      · have value : Scope.decimalValue? digits = some (Nat.ofDigitChars 10 digits 0) :=
          if_pos ascii
        rw [value, Option.bind_some]
        rcases Nat.eq_zero_or_pos (Nat.ofDigitChars 10 digits 0) with zero | first
        · rw [zero]
          rfl
        · have beyond : args.length ≤ Nat.ofDigitChars 10 digits 0 - 1 := by
            have notLast : ¬ Nat.ofDigitChars 10 digits 0 ≤ args.length :=
              fun last => within ⟨ascii, first, last⟩
            omega
          rw [argument?_of_pos first, List.getElem?_eq_none beyond]
      · have value : Scope.decimalValue? digits = none := if_neg ascii
        rw [value, Option.bind_none]
    rw [missing, indexed, dif_neg within]

/-! ## The pass -/

/-- A reference is replaced, and the pass goes on behind it. -/
theorem apply_positional_indexed (args : List String) (some_ : digits ≠ [])
    (decimal : ∀ c ∈ digits, CharClass.isDecimalDigit c = true)
    (stops : ∀ c ∈ rest.head?, CharClass.isDecimalDigit c = false) :
    (positional args).apply ('?' :: (digits ++ rest)) =
      indexed args digits ++ (positional args).apply rest := by
  rw [indexed_eq]
  exact apply_positional args some_ decimal stops

/-- Every other character is copied. -/
theorem apply_positional_copied {c : Char} (other : c ≠ '?') (rest : List Char) :
    (positional args).apply (c :: rest) = c :: (positional args).apply rest := by
  have absent : '?' ∉ [c] := by simpa using Ne.symm other
  have passes : (positional args).apply ([c] ++ rest) = [c] ++ (positional args).apply rest :=
    Rule.apply_append_of_not_mem absent rest
  exact passes

/-- The pass writes for every text what is to be written for it. -/
theorem indexes_apply (args : List String) (text : List Char) :
    Indexes args text ((positional args).apply text) := by
  induction size : text.length using Nat.strongRecOn generalizing text with
  | _ n ih =>
    cases text with
    | nil =>
      rw [Rule.apply_nil]
      exact .ended
    | cons c rest =>
      rw [List.length_cons] at size
      by_cases isMark : c = '?'
      · subst isMark
        obtain ⟨digits, behind, rfl, decimal, stops⟩ := exists_run CharClass.isDecimalDigit rest
        rw [List.length_append] at size
        have later := ih behind.length (by omega) behind rfl
        by_cases none_ : digits = []
        · subst none_
          rw [List.nil_append, Rule.apply_cons_of_none (positional_eq_none stops)]
          exact .lone stops later
        · rw [apply_positional_indexed args none_ decimal stops]
          exact .numbered none_ decimal stops later
      · rw [apply_positional_copied isMark]
        exact .copied isMark (ih rest.length (by omega) rest rfl)

/-- Nothing else is to be written for it. -/
theorem Indexes.apply_eq (h : Indexes args text written) :
    (positional args).apply text = written := by
  induction h with
  | ended => exact Rule.apply_nil _
  | copied other _ ih => rw [apply_positional_copied other, ih]
  | lone stops _ ih => rw [Rule.apply_cons_of_none (positional_eq_none stops), ih]
  | numbered some_ decimal stops _ ih => rw [apply_positional_indexed args some_ decimal stops, ih]

/-! ## Indexes in words -/

/-- A number as a word of 64 bits, if it fits. -/
def word? (n : Nat) : Option UInt64 :=
  if n < UInt64.size then some (UInt64.ofNat n) else none

/-- The sum of two words, if it fits. -/
def addWords? (a b : UInt64) : Option UInt64 :=
  word? (a.toNat + b.toNat)

/-- The product of two words, if it fits. -/
def multiplyWords? (a b : UInt64) : Option UInt64 :=
  word? (a.toNat * b.toNat)

/-- One more digit behind the digits of a number that is kept in a word. -/
def pushDigit? (n : UInt64) (digit : Char) : Option UInt64 :=
  if digit.isDigit then
    (multiplyWords? n 10).bind fun tens => addWords? tens (UInt64.ofNat (digit.toNat - '0'.toNat))
  else
    none

/-- The argument with an index that is read digit by digit into a word, and lowered by one without
going below zero. -/
def wordArgument? (args : List String) (digits : List Char) : Option String := do
  let index ← digits.foldlM pushDigit? 0
  if index = 0 then none else args[(index - 1).toNat]?

/-- The pass for positional references with indexes in words. -/
def positionalInWords (args : List String) : Rule :=
  Rule.ofPattern [Step.char '?', Step.oneOrMore CharClass.isDecimalDigit] fun
    | [mark, digits] =>
      match wordArgument? args digits with
      | some value => value.toList
      | none => mark ++ digits
    | pieces => pieces.flatten

theorem word?_toNat (n : UInt64) : word? n.toNat = some n := by
  rw [word?, if_pos n.toNat_lt_size, UInt64.ofNat_toNat]

theorem toNat_of_word? {n : Nat} (fits : n < UInt64.size) : (UInt64.ofNat n).toNat = n :=
  UInt64.toNat_ofNat_of_lt' fits

/-- A digit is pushed as it is in numbers without bound, unless the number becomes too large. -/
theorem pushDigit?_of_isDigit {c : Char} (digit : c.isDigit = true) (n : UInt64) :
    pushDigit? n c = word? (10 * n.toNat + (c.toNat - '0'.toNat)) := by
  have small : c.toNat - '0'.toNat < 10 := by
    simp only [Char.isDigit, Bool.and_eq_true, decide_eq_true_eq] at digit
    have high : c.toNat ≤ '9'.toNat := digit.2
    have nine : '9'.toNat = '0'.toNat + 9 := by decide
    omega
  have digitWord : (UInt64.ofNat (c.toNat - '0'.toNat)).toNat = c.toNat - '0'.toNat :=
    toNat_of_word? (Nat.lt_trans small (by decide))
  have ten : (10 : UInt64).toNat = 10 := rfl
  rw [pushDigit?, if_pos digit, multiplyWords?, ten, Nat.mul_comm]
  by_cases fits : 10 * n.toNat < UInt64.size
  · rw [word?, if_pos fits, Option.bind_some, addWords?, toNat_of_word? fits, digitWord]
  · have tooLarge : ¬ 10 * n.toNat + (c.toNat - '0'.toNat) < UInt64.size := by omega
    rw [word?, if_neg fits, Option.bind_none, word?, if_neg tooLarge]

/-- More digits do not make a number smaller. -/
theorem le_ofDigitChars (digits : List Char) (n : Nat) : n ≤ Nat.ofDigitChars 10 digits n := by
  induction digits generalizing n with
  | nil => exact Nat.le_refl n
  | cons c digits ih =>
    have more := ih (10 * n + (c.toNat - '0'.toNat))
    rw [Nat.ofDigitChars_cons]
    omega

/-- Digits are read into a word as they are into numbers without bound, unless the number becomes too
large; then it stays too large. -/
theorem foldlM_pushDigit? (digits : List Char) (n : UInt64) :
    digits.foldlM pushDigit? n =
      if digits.all Char.isDigit then word? (Nat.ofDigitChars 10 digits n.toNat) else none := by
  induction digits generalizing n with
  | nil => exact (word?_toNat n).symm
  | cons c digits ih =>
    rw [List.foldlM_cons, Nat.ofDigitChars_cons]
    by_cases digit : c.isDigit = true
    · rw [pushDigit?_of_isDigit digit, List.all_cons, digit, Bool.true_and]
      generalize pushed : 10 * n.toNat + (c.toNat - '0'.toNat) = m
      by_cases fits : m < UInt64.size
      · have next := ih (UInt64.ofNat m)
        rw [toNat_of_word? fits] at next
        rw [word?, if_pos fits, ← next]
        rfl
      · have tooLarge : ¬ Nat.ofDigitChars 10 digits m < UInt64.size := by
          have more := le_ofDigitChars digits m
          omega
        have outgrown : word? (Nat.ofDigitChars 10 digits m) = none := if_neg tooLarge
        rw [word?, if_neg fits, outgrown, ite_self]
        rfl
    · have refused : pushDigit? n c = none := if_neg digit
      rw [refused, List.all_cons, Bool.eq_false_iff.2 digit]
      rfl

/-- In a list of arguments whose length fits into a word an index in a word finds what a number without
bound finds. -/
theorem wordArgument?_eq (short : args.length < UInt64.size) (digits : List Char) :
    wordArgument? args digits = (Scope.decimalValue? digits).bind (Scope.argument? args) := by
  have zero : (0 : UInt64).toNat = 0 := rfl
  unfold wordArgument?
  rw [foldlM_pushDigit?, zero]
  by_cases ascii : digits.all Char.isDigit = true
  · have value : Scope.decimalValue? digits = some (Nat.ofDigitChars 10 digits 0) := if_pos ascii
    rw [if_pos ascii, value, Option.bind_some]
    generalize Nat.ofDigitChars 10 digits 0 = index
    by_cases fits : index < UInt64.size
    · have read := toNat_of_word? fits
      rw [word?, if_pos fits]
      generalize UInt64.ofNat index = n at read
      subst read
      by_cases none_ : n = 0
      · subst none_
        rfl
      · have positive : n.toNat ≠ 0 := fun isZero => none_ (UInt64.toNat_inj.1 isZero)
        have one : (1 : UInt64) ≤ n := UInt64.le_iff_toNat_le.2 (Nat.pos_of_ne_zero positive)
        have lowered : (n - 1).toNat = n.toNat - 1 := UInt64.toNat_sub_of_le _ _ one
        rw [argument?_of_pos (Nat.pos_of_ne_zero positive), ← lowered]
        exact if_neg none_
    · -- there is no argument so far behind
      have beyond : Scope.argument? args index = none := by
        cases index with
        | zero => rfl
        | succ before => exact List.getElem?_eq_none (by omega)
      rw [word?, if_neg fits, beyond]
      rfl
  · have value : Scope.decimalValue? digits = none := if_neg ascii
    rw [if_neg ascii, value]
    rfl

/-- So the pass is the same. -/
theorem positionalInWords_eq (short : args.length < UInt64.size) :
    positionalInWords args = positional args := by
  have same : wordArgument? args = fun digits =>
      (Scope.decimalValue? digits).bind (Scope.argument? args) :=
    funext fun digits => wordArgument?_eq short digits
  unfold positionalInWords
  rw [same]
  rfl

/-! ## Every text -/

/-- The pass for positional references writes for a text exactly what is to be written for it: every
maximal run of decimal digits behind a mark gives way to the argument with this index, whatever the
number of digits, or stays, and what has been written is not read again.  With as many arguments as a
word can count, reading the indexes into words comes to the same. -/
theorem exact_indices (args : List String) :
    (∀ text written, (positional args).apply text = written ↔ Indexes args text written) ∧
      (args.length < UInt64.size → positionalInWords args = positional args) := by
  refine ⟨fun text written => ⟨?_, Indexes.apply_eq⟩, positionalInWords_eq⟩
  rintro rfl
  exact indexes_apply args text

/-- A number that goes round to one in a word of 64 bits is not taken for one; zeros in front of one
do not matter, and a digit of another script stands for no index. -/
theorem exact_indices_of_overflow :
    ["a?1"].length < UInt64.size ∧
      (positionalInWords ["a?1"]).apply "?18446744073709551617 ?001?2 ?\u0661".toList =
        "?18446744073709551617 a?1?2 ?\u0661".toList := by
  have short : ["a?1"].length < UInt64.size := by decide
  refine ⟨short, ?_⟩
  rw [(exact_indices ["a?1"]).2 short]
  decide +kernel

end Reference
end TaskScript
