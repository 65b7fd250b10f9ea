import TaskScript.Proofs.Reference.Scan

/-!
# Substitution — when the passes replace all references at once

The passes come one after the other, and each of them reads anew what the earlier ones have written.
A text made of fragments is nevertheless resolved fragment by fragment, as long as no value that is
written early goes on with the name of a reference that is replaced later.

- `Fragment`               : literal texts and references
- `Fragment.value`         : what each of them stands for
- `Separate`, `Undisturbed` : nothing goes on with the name of a reference, in the text itself and
  when its turn has come
- `Fragment.apply_shown`   : what one pass makes of one fragment
- `Reference.substitution` : then every reference is replaced by its own value
-/

namespace TaskScript

/-! ## Fragments -/

/-- A piece of a text. -/
inductive Fragment
  /-- A text that stands for itself. -/
  | literal (text : String)
  /-- A reference to a positional argument. -/
  | positional (index : Nat)
  /-- A reference to a named argument. -/
  | named (key : String)
  /-- A reference to a variable. -/
  | dollarName (name : String)
  deriving DecidableEq, Repr

namespace Fragment

/-- How a fragment is written. -/
def written : Fragment → List Char
  | literal text => text.toList
  | positional index => '?' :: Reference.numeral index
  | named key => '?' :: key.toList
  | dollarName name => '$' :: name.toList

/-- What a fragment stands for; a variable has its value at runtime if there is one, and else the
declared one. -/
def value? (scope : Scope) : Fragment → Option String
  | literal text => some text
  | positional index => Scope.argument? scope.positional index
  | named key => scope.named.get? key
  | dollarName name => (scope.runtime.get? name).or (scope.declared.get? name)

/-- The text that a fragment stands for. -/
def value (scope : Scope) (fragment : Fragment) : List Char :=
  ((fragment.value? scope).getD "").toList

/-- The pass that replaces a fragment, counted from one; literal texts are replaced by none. -/
def pass (scope : Scope) : Fragment → Nat
  | literal _ => 0
  | positional _ => 1
  | named _ => 2
  | dollarName name => if scope.runtime.contains name then 4 else 3

/-- What stands in place of a fragment after some passes. -/
def shown (scope : Scope) (passes : Nat) (fragment : Fragment) : List Char :=
  if fragment.pass scope ≤ passes then fragment.value scope else fragment.written

/-- A literal text has no marks in it, and a reference stands for something: an argument that has
been given, by its index or by a name that does not begin with a digit, or a variable. -/
def IsBound (scope : Scope) : Fragment → Prop
  | literal text => IsLiteral text
  | positional index => 1 ≤ index ∧ index ≤ scope.positional.length
  | named key => IsName key ∧ (∀ c ∈ key.toList.head?, c.isDigit = false) ∧
      scope.named.contains key = true
  | dollarName name => IsName name ∧
      (scope.declared.contains name = true ∨ scope.runtime.contains name = true)

instance (scope : Scope) : (fragment : Fragment) → Decidable (fragment.IsBound scope)
  | literal text => inferInstanceAs (Decidable (IsLiteral text))
  | positional _ => inferInstanceAs (Decidable (_ ∧ _))
  | named key =>
    have : Decidable (∀ c ∈ key.toList.head?, c.isDigit = false) := Option.decidableForallMem _
    inferInstanceAs (Decidable (_ ∧ _ ∧ _))
  | dollarName _ => inferInstanceAs (Decidable (_ ∧ (_ ∨ _)))

/-- A fragment that is not literal. -/
def IsReference : Fragment → Prop
  | literal _ => False
  | _ => True

instance : (fragment : Fragment) → Decidable fragment.IsReference
  | literal _ => inferInstanceAs (Decidable False)
  | positional _ => inferInstanceAs (Decidable True)
  | named _ => inferInstanceAs (Decidable True)
  | dollarName _ => inferInstanceAs (Decidable True)

end Fragment

/-- The text that fragments make up. -/
def writtenText (fragments : List Fragment) : List Char :=
  fragments.flatMap Fragment.written

/-- What stands in place of fragments after some passes. -/
def shownText (scope : Scope) (passes : Nat) (fragments : List Fragment) : List Char :=
  fragments.flatMap (Fragment.shown scope passes)

/-- What fragments stand for. -/
def valueText (scope : Scope) (fragments : List Fragment) : List Char :=
  fragments.flatMap (Fragment.value scope)

/-- No reference is followed in the text by a character of a word or by an opening parenthesis. -/
def Separate : List Fragment → Prop
  | [] => True
  | fragment :: rest =>
    (fragment.IsReference → ∀ c ∈ (writtenText rest).head?, CharClass.isWord c = false ∧ c ≠ '(') ∧
      Separate rest

instance decidableSeparate : (fragments : List Fragment) → Decidable (Separate fragments)
  | [] => inferInstanceAs (Decidable True)
  | _ :: rest =>
    have := decidableSeparate rest
    have : Decidable (∀ c ∈ (writtenText rest).head?, CharClass.isWord c = false ∧ c ≠ '(') :=
      Option.decidableForallMem _
    inferInstanceAs (Decidable (_ ∧ _))

/-- No reference is followed by a character of a word when its turn has come, that is, when all
passes before the one that replaces it have been made. -/
def Undisturbed (scope : Scope) : List Fragment → Prop
  | [] => True
  | fragment :: rest =>
    (fragment.IsReference → ∀ c ∈ (shownText scope (fragment.pass scope - 1) rest).head?,
      CharClass.isWord c = false) ∧ Undisturbed scope rest

instance decidableUndisturbed (scope : Scope) :
    (fragments : List Fragment) → Decidable (Undisturbed scope fragments)
  | [] => inferInstanceAs (Decidable True)
  | fragment :: rest =>
    have := decidableUndisturbed scope rest
    have : Decidable (∀ c ∈ (shownText scope (fragment.pass scope - 1) rest).head?,
        CharClass.isWord c = false) := Option.decidableForallMem _
    inferInstanceAs (Decidable (_ ∧ _))

/-- A value without marks and without an opening parenthesis. -/
def IsInert (text : String) : Prop :=
  '?' ∉ text.toList ∧ '$' ∉ text.toList ∧ '(' ∉ text.toList

instance (text : String) : Decidable (IsInert text) :=
  inferInstanceAs (Decidable (_ ∧ _ ∧ _))

/-- A scope of such values; what the environment holds does not matter. -/
structure Scope.IsPlain (scope : Scope) : Prop where
  positional : ∀ value ∈ scope.positional, IsInert value
  named : ∀ name value, scope.named.get? name = some value → IsInert value
  declared : ∀ name value, scope.declared.get? name = some value → IsInert value
  runtime : ∀ name value, scope.runtime.get? name = some value → IsInert value

namespace Fragment

variable {scope : Scope} {fragment : Fragment} {n m : Nat} {rest : List Char}

theorem shown_of_le (replaced : fragment.pass scope ≤ n) :
    fragment.shown scope n = fragment.value scope := if_pos replaced

theorem shown_of_lt (waits : n < fragment.pass scope) :
    fragment.shown scope n = fragment.written := if_neg (Nat.not_le.2 waits)

/-- A literal text stands for itself from the beginning. -/
theorem written_of_pass_eq_zero (literal : fragment.pass scope = 0) :
    fragment.written = fragment.value scope := by
  cases fragment with
  | literal text => rfl
  | positional index => exact nomatch literal
  | named key => exact nomatch literal
  | dollarName name =>
    simp only [pass] at literal
    split at literal <;> omega

theorem shown_zero : fragment.shown scope 0 = fragment.written := by
  unfold shown
  split
  · next literal => exact (written_of_pass_eq_zero (Nat.le_zero.1 literal)).symm
  · rfl

theorem pass_le_four : fragment.pass scope ≤ 4 := by
  cases fragment with
  | literal text => exact Nat.zero_le 4
  | positional index => exact (by decide : 1 ≤ 4)
  | named key => exact (by decide : 2 ≤ 4)
  | dollarName name =>
    simp only [pass]
    split <;> omega

theorem isReference_of_pass_pos (waits : 0 < fragment.pass scope) : fragment.IsReference := by
  cases fragment with
  | literal text => exact nomatch waits
  | positional index => trivial
  | named key => trivial
  | dollarName name => trivial

/-- A reference begins with one of the two marks. -/
theorem head_written_of_pass_pos (waits : 0 < fragment.pass scope) :
    ∃ c more, fragment.written = c :: more ∧ (c = '?' ∨ c = '$') := by
  cases fragment with
  | literal text => exact nomatch waits
  | positional index => exact ⟨'?', _, rfl, .inl rfl⟩
  | named key => exact ⟨'?', _, rfl, .inl rfl⟩
  | dollarName name => exact ⟨'$', _, rfl, .inr rfl⟩

/-- What a bound fragment stands for is one of the values of the scope, or itself. -/
theorem IsBound.exists_value (bound : fragment.IsBound scope) (plain : scope.IsPlain) :
    ∃ value, fragment.value? scope = some value ∧ '?' ∉ value.toList ∧ '$' ∉ value.toList ∧
      (fragment.IsReference → '(' ∉ value.toList) := by
  cases fragment with
  | literal text => exact ⟨text, rfl, bound.2, bound.1, nofun⟩
  | positional index =>
    obtain ⟨first, within⟩ := bound
    obtain ⟨before, rfl⟩ := Nat.exists_eq_add_of_le' first
    obtain ⟨noQuestion, noDollar, noCall⟩ :=
      plain.positional scope.positional[before] (List.getElem_mem within)
    exact ⟨_, List.getElem?_eq_getElem within, noQuestion, noDollar, fun _ => noCall⟩
  | named key =>
    obtain ⟨value, given⟩ := Option.isSome_iff_exists.1 bound.2.2
    obtain ⟨noQuestion, noDollar, noCall⟩ := plain.named key value given
    exact ⟨value, given, noQuestion, noDollar, fun _ => noCall⟩
  | dollarName name =>
    cases runtime : scope.runtime.get? name with
    | some value =>
      obtain ⟨noQuestion, noDollar, noCall⟩ := plain.runtime name value runtime
      exact ⟨value, by simp [value?, runtime], noQuestion, noDollar, fun _ => noCall⟩
    | none =>
      have declared : scope.declared.contains name = true := by
        refine bound.2.resolve_right ?_
        simp [Bindings.contains, runtime]
      obtain ⟨value, declared⟩ := Option.isSome_iff_exists.1 declared
      obtain ⟨noQuestion, noDollar, noCall⟩ := plain.declared name value declared
      exact ⟨value, by simp [value?, runtime, declared], noQuestion, noDollar, fun _ => noCall⟩

theorem IsBound.value_inert (bound : fragment.IsBound scope) (plain : scope.IsPlain) :
    '?' ∉ fragment.value scope ∧ '$' ∉ fragment.value scope := by
  obtain ⟨value, is, noQuestion, noDollar, -⟩ := bound.exists_value plain
  rw [Fragment.value, is]
  exact ⟨noQuestion, noDollar⟩

/-! ## One pass, one fragment -/

section Passes

variable {rule : Rule} {index : Nat} {key name : String}

theorem apply_shown_positional (isPass : (Reference.rules scope)[n]? = some rule)
    (plain : scope.IsPlain) (bound : (positional index).IsBound scope)
    (waits : n < (positional index).pass scope)
    (stops : ∀ c ∈ rest.head?, CharClass.isWord c = false) :
    rule.apply ((positional index).written ++ rest) =
      (positional index).shown scope (n + 1) ++ rule.apply rest := by
  obtain rfl : n = 0 := Nat.lt_one_iff.1 waits
  obtain rfl := Option.some.inj isPass
  obtain ⟨value, is, -⟩ := bound.exists_value plain
  have turn : (positional index).shown scope 1 = value.toList := by
    rw [shown_of_le (Nat.le_refl 1), Fragment.value, is]
    rfl
  rw [turn]
  exact Reference.apply_positional_numeral is stops

/-- The first pass leaves a named argument to the second one. -/
theorem apply_shown_named (isPass : (Reference.rules scope)[n]? = some rule)
    (plain : scope.IsPlain) (bound : (named key).IsBound scope)
    (waits : n < (named key).pass scope) (stops : ∀ c ∈ rest.head?, CharClass.isWord c = false) :
    rule.apply ((named key).written ++ rest) =
      (named key).shown scope (n + 1) ++ rule.apply rest := by
  obtain ⟨value, is, -⟩ := bound.exists_value plain
  obtain ⟨isName, noDigit, -⟩ := bound
  have two : n < 2 := waits
  rcases Nat.le_one_iff_eq_zero_or_eq_one.1 (Nat.le_of_lt_succ two) with rfl | rfl
  · obtain rfl := Option.some.inj isPass
    have waits : 1 < (named key).pass scope := Nat.lt_succ_self 1
    rw [shown_of_lt waits]
    exact Reference.apply_positional_of_name _ isName noDigit stops
  · obtain rfl := Option.some.inj isPass
    have turn : (named key).shown scope 2 = value.toList := by
      rw [shown_of_le (Nat.le_refl 2), Fragment.value, is]
      rfl
    have given : scope.named.get? key = some value := is
    have replaced := Reference.apply_named scope.named isName stops
    rw [given] at replaced
    rw [turn]
    exact replaced

/-- The third pass leaves a variable to the fourth one if it has a value at runtime. -/
theorem apply_shown_dollarName (isPass : (Reference.rules scope)[n]? = some rule) (early : n < 4)
    (bound : (dollarName name).IsBound scope) (waits : n < (dollarName name).pass scope)
    (stops : ∀ c ∈ rest.head?, CharClass.isWord c = false ∧ c ≠ '(') :
    rule.apply ((dollarName name).written ++ rest) =
      (dollarName name).shown scope (n + 1) ++ rule.apply rest := by
  have isName : IsName name := bound.1
  have noQuestion : '?' ∉ (dollarName name).written := by
    have inName : '?' ∉ name.toList := fun mem => absurd (isName.2 '?' mem) (by decide)
    simp [written, inName]
  have later : 3 ≤ (dollarName name).pass scope := by
    simp only [pass]
    split <;> omega
  -- the passes for arguments leave it, and the third one replaces it unless it has a value at runtime
  match n with
  | 0 =>
    obtain rfl := Option.some.inj isPass
    rw [shown_of_lt (Nat.lt_of_lt_of_le (by decide) later)]
    exact Rule.apply_append_of_not_mem noQuestion rest
  | 1 =>
    obtain rfl := Option.some.inj isPass
    rw [shown_of_lt (Nat.lt_of_lt_of_le (by decide) later)]
    exact Rule.apply_append_of_not_mem noQuestion rest
  | 2 =>
    obtain rfl := Option.some.inj isPass
    have scanned := Reference.apply_dollarNames
      (Scope.unshadowed? scope.declared scope.runtime) isName stops
    by_cases shadowed : scope.runtime.contains name = true
    · have waits : 3 < (dollarName name).pass scope := by simp [pass, shadowed]
      rw [Scope.unshadowed?, if_pos shadowed] at scanned
      rw [shown_of_lt waits]
      exact scanned
    · have declared := bound.2.resolve_right shadowed
      obtain ⟨value, declared⟩ := Option.isSome_iff_exists.1 declared
      have noValue : scope.runtime.get? name = none := by
        simpa [Bindings.contains] using shadowed
      have turn : (dollarName name).shown scope 3 = value.toList := by
        rw [shown_of_le (by simp [pass, shadowed]), Fragment.value, value?, noValue, declared]
        rfl
      rw [Scope.unshadowed?, if_neg shadowed, declared] at scanned
      rw [turn]
      exact scanned
  | 3 =>
    obtain rfl := Option.some.inj isPass
    have shadowed : scope.runtime.contains name = true := by
      refine Classical.byContradiction fun other => ?_
      simp [pass, other] at waits
    obtain ⟨value, given⟩ := Option.isSome_iff_exists.1 shadowed
    have turn : (dollarName name).shown scope 4 = value.toList := by
      rw [shown_of_le pass_le_four, Fragment.value, value?, given]
      rfl
    have scanned := Reference.apply_dollarNames scope.runtime.get? isName stops
    rw [given] at scanned
    rw [turn]
    exact scanned

/-- A pass that comes to a fragment replaces it if its turn has come, and else leaves it as it is. -/
theorem apply_shown (isPass : (Reference.rules scope)[n]? = some rule) (early : n < 4)
    (plain : scope.IsPlain) (bound : fragment.IsBound scope)
    (clear : n < fragment.pass scope → ∀ c ∈ rest.head?, CharClass.isWord c = false ∧ c ≠ '(') :
    rule.apply (fragment.shown scope n ++ rest) =
      fragment.shown scope (n + 1) ++ rule.apply rest := by
  rcases Nat.lt_or_ge n (fragment.pass scope) with waits | replaced
  · have stops : ∀ c ∈ rest.head?, CharClass.isWord c = false := fun c mem => (clear waits c mem).1
    rw [shown_of_lt waits]
    cases fragment with
    | literal text => exact absurd waits (Nat.not_lt_zero n)
    | positional index => exact apply_shown_positional isPass plain bound waits stops
    | named key => exact apply_shown_named isPass plain bound waits stops
    | dollarName name => exact apply_shown_dollarName isPass early bound waits (clear waits)
  · have inert := bound.value_inert plain
    rw [shown_of_le replaced, shown_of_le (Nat.le_succ_of_le replaced)]
    exact Reference.apply_append_of_mem_rules (List.mem_of_getElem? isPass) inert.2 inert.1 rest

end Passes

end Fragment
/-! ## One pass, all fragments -/

section Text

variable {scope : Scope} {fragments : List Fragment} {n m : Nat}

theorem writtenText_cons (fragment : Fragment) (rest : List Fragment) :
    writtenText (fragment :: rest) = fragment.written ++ writtenText rest := rfl

theorem shownText_cons (scope : Scope) (n : Nat) (fragment : Fragment) (rest : List Fragment) :
    shownText scope n (fragment :: rest) = fragment.shown scope n ++ shownText scope n rest := rfl

theorem shownText_zero : shownText scope 0 fragments = writtenText fragments := by
  have same : Fragment.shown scope 0 = Fragment.written := funext fun _ => Fragment.shown_zero
  rw [shownText, same, writtenText]

theorem shownText_four : shownText scope 4 fragments = valueText scope fragments := by
  have same : Fragment.shown scope 4 = Fragment.value scope :=
    funext fun _ => Fragment.shown_of_le Fragment.pass_le_four
  rw [shownText, same, valueText]

/-- A character of a word that comes to stand in front stays there, since the marks of references
are none. -/
theorem mem_head?_shownText (le : n ≤ m) {c : Char} (word : CharClass.isWord c = true)
    (mem : c ∈ (shownText scope n fragments).head?) : c ∈ (shownText scope m fragments).head? := by
  induction fragments with
  | nil => exact mem
  | cons fragment rest ih =>
    rw [shownText_cons] at mem ⊢
    rcases Nat.lt_or_ge n (fragment.pass scope) with waits | replaced
    · obtain ⟨mark, more, written, isMark⟩ :=
        Fragment.head_written_of_pass_pos (Nat.zero_lt_of_lt waits)
      rw [Fragment.shown_of_lt waits, written] at mem
      obtain rfl := Option.some.inj mem
      -- so the character would be a mark, which is none of a word
      rcases isMark with rfl | rfl
      · exact absurd word (by decide)
      · exact absurd word (by decide)
    · rw [Fragment.shown_of_le replaced] at mem
      rw [Fragment.shown_of_le (Nat.le_trans replaced le)]
      cases text : fragment.value scope with
      | nil =>
        rw [text] at mem
        exact ih mem
      | cons first more =>
        rw [text] at mem
        exact mem

/-- No opening parenthesis comes to stand in front either, since values have none. -/
theorem head?_shownText_ne (plain : scope.IsPlain)
    (bound : ∀ fragment ∈ fragments, fragment.IsBound scope) (separate : Separate fragments)
    (apart : ∀ c ∈ (writtenText fragments).head?, c ≠ '(') :
    ∀ c ∈ (shownText scope n fragments).head?, c ≠ '(' := by
  induction fragments with
  | nil => exact apart
  | cons fragment rest ih =>
    obtain ⟨here, later⟩ := List.forall_mem_cons.1 bound
    obtain ⟨followed, separate⟩ := separate
    rw [writtenText_cons] at apart
    rw [shownText_cons]
    rcases Nat.eq_zero_or_pos (fragment.pass scope) with literal | isRef
    · -- a text that is no reference stands there as it was written
      rw [Fragment.shown_of_le (literal ▸ Nat.zero_le n),
        ← Fragment.written_of_pass_eq_zero literal]
      cases written : fragment.written with
      | nil =>
        rw [written] at apart
        exact ih later separate apart
      | cons first more =>
        rw [written] at apart
        exact apart
    · rcases Nat.lt_or_ge n (fragment.pass scope) with waits | replaced
      · -- a reference that has not had its turn begins with its mark
        obtain ⟨mark, more, written, isMark⟩ := Fragment.head_written_of_pass_pos isRef
        rw [Fragment.shown_of_lt waits, written]
        rintro c ⟨⟩
        rcases isMark with rfl | rfl <;> decide
      · have reference := Fragment.isReference_of_pass_pos isRef
        obtain ⟨value, is, -, -, noCall⟩ := here.exists_value plain
        rw [Fragment.shown_of_le replaced, Fragment.value, is, Option.getD_some]
        -- behind a value that is empty the rest comes to stand in front
        cases text : value.toList with
        | nil => exact ih later separate fun c mem => (followed reference c mem).2
        | cons first more =>
          rintro c ⟨⟩ rfl
          exact noCall reference (text ▸ List.mem_cons_self)

/-- A pass replaces the references whose turn has come, and nothing else. -/
theorem apply_shownText {rule : Rule} (isPass : (Reference.rules scope)[n]? = some rule)
    (early : n < 4) (plain : scope.IsPlain)
    (bound : ∀ fragment ∈ fragments, fragment.IsBound scope) (separate : Separate fragments)
    (undisturbed : Undisturbed scope fragments) :
    rule.apply (shownText scope n fragments) = shownText scope (n + 1) fragments := by
  induction fragments with
  | nil => exact Rule.apply_nil rule
  | cons fragment rest ih =>
    obtain ⟨here, later⟩ := List.forall_mem_cons.1 bound
    obtain ⟨followed, separate⟩ := separate
    obtain ⟨untouched, undisturbed⟩ := undisturbed
    have clear : n < fragment.pass scope →
        ∀ c ∈ (shownText scope n rest).head?, CharClass.isWord c = false ∧ c ≠ '(' := by
      intro waits c mem
      have reference := Fragment.isReference_of_pass_pos (Nat.zero_lt_of_lt waits)
      constructor
      · refine Bool.eq_false_iff.2 fun word => ?_
        have comes := mem_head?_shownText (Nat.le_sub_one_of_lt waits) word mem
        rw [untouched reference c comes] at word
        exact nomatch word
      · exact head?_shownText_ne plain later separate
          (fun d front => (followed reference d front).2) c mem
    have scanned := Fragment.apply_shown isPass early plain here clear
    rw [shownText_cons, shownText_cons, scanned, ih later separate undisturbed]

end Text

namespace Reference

variable {scope : Scope} {fragments : List Fragment}

/-- In a text whose references are kept apart, also from what the passes before their own have
written, every reference is replaced by its value. -/
theorem substitution (plain : scope.IsPlain)
    (bound : ∀ fragment ∈ fragments, fragment.IsBound scope) (separate : Separate fragments)
    (undisturbed : Undisturbed scope fragments) :
    resolve scope (String.ofList (writtenText fragments)) = String.ofList (valueText scope fragments) := by
  have turn : ∀ {n rule}, (rules scope)[n]? = some rule → n < 4 →
      rule.apply (shownText scope n fragments) = shownText scope (n + 1) fragments :=
    fun isPass early => apply_shownText isPass early plain bound separate undisturbed
  -- the last pass finds no mark among the values
  have last : (environment scope.environment).apply (valueText scope fragments) =
      valueText scope fragments := by
    have isPass : environment scope.environment ∈ rules scope := by simp [rules]
    refine apply_of_mem_rules isPass ?_ ?_
    · rw [valueText, List.mem_flatMap]
      rintro ⟨fragment, mem, inValue⟩
      exact ((bound fragment mem).value_inert plain).2 inValue
    · rw [valueText, List.mem_flatMap]
      rintro ⟨fragment, mem, inValue⟩
      exact ((bound fragment mem).value_inert plain).1 inValue
  calc resolve scope (String.ofList (writtenText fragments))
      = String.ofList ((rules scope).foldl (fun text rule => rule.apply text)
          (shownText scope 0 fragments)) := by
        rw [resolve, String.toList_ofList, shownText_zero]
    _ = String.ofList ((environment scope.environment).apply (shownText scope 4 fragments)) := by
        simp only [rules, List.foldl_cons, List.foldl_nil]
        rw [turn (n := 0) rfl (by decide), turn (n := 1) rfl (by decide),
          turn (n := 2) rfl (by decide), turn (n := 3) rfl (by decide)]
    _ = String.ofList (valueText scope fragments) := by
        rw [shownText_four, last]

/-! ## Neighbours that disturb and neighbours that do not -/

/-- One argument that is given by its place, one that is given by its name, a declared variable and
one that has been assigned to. -/
def sample : Scope :=
  { positional := ["x"], named := ⟨[("key", "v")]⟩, declared := ⟨[("A", "a"), ("B", "b")]⟩,
    runtime := ⟨[("B", "r")]⟩, environment := fun _ => none }

theorem isInert_of_get? {bindings : Bindings String} {name value : String}
    (inert : ∀ pair ∈ bindings.entries, IsInert pair.2) (found : bindings.get? name = some value) :
    IsInert value := by
  obtain ⟨before, after, split, -⟩ := List.lookup_eq_some_iff.1 found
  exact inert (name, value) (by simp [split])

theorem isPlain_sample : sample.IsPlain where
  positional := by decide
  named name value := isInert_of_get? (by decide)
  declared name value := isInert_of_get? (by decide)
  runtime name value := isInert_of_get? (by decide)

/-- A positional argument before a named one, and a declared variable before one that has been
assigned to. -/
def neighbours : List Fragment :=
  [.literal "<", .positional 1, .named "key", .literal "-", .dollarName "A", .dollarName "B"]

/-- Such neighbours do not disturb each other. -/
theorem substitution_of_neighbours :
    String.ofList (writtenText neighbours) = "<?1?key-$A$B" ∧
      resolve sample (String.ofList (writtenText neighbours)) = "<xv-ar" := by
  have bound : ∀ fragment ∈ neighbours, fragment.IsBound sample := by decide +kernel
  have separate : Separate neighbours := by decide +kernel
  have undisturbed : Undisturbed sample neighbours := by decide +kernel
  have values : String.ofList (valueText sample neighbours) = "<xv-ar" := by decide +kernel
  exact ⟨by decide +kernel,
    (substitution isPlain_sample bound separate undisturbed).trans values⟩

/-- The other way round, what is written for the second reference goes on with the name of the first
one, although nothing of the kind stands in the text. -/
theorem disturbed_neighbours :
    ¬ ∀ (scope : Scope) (fragments : List Fragment), scope.IsPlain →
      (∀ fragment ∈ fragments, fragment.IsBound scope) → Separate fragments →
        resolve scope (String.ofList (writtenText fragments)) =
          String.ofList (valueText scope fragments) := by
  intro always
  have bound : ∀ fragment ∈ [.named "key", .positional 1], Fragment.IsBound sample fragment := by
    decide +kernel
  have separate : Separate [.named "key", .positional 1] := by decide +kernel
  have replaced := always sample _ isPlain_sample bound separate
  -- it is `?keyx` that is left, and not `vx`
  have left : resolve sample (String.ofList (writtenText [.named "key", .positional 1])) ≠
      String.ofList (valueText sample [.named "key", .positional 1]) := by
    decide +kernel
  exact left replaced

end Reference
end TaskScript
