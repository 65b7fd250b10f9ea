import TaskScript.Text.CharTable

/-!
# CharClass — the character classes of the script language

- `isBlank`        : white space (property `White_Space`)
- `isWord`         : characters of names and references
- `isDecimalDigit` : digits of positional references
- `isAlphanumeric` : characters of names inside environment files

ASCII is decided directly, everything above it by the tables of `CharTable`.  The lemmas relate the
classes to the ASCII classes of the core library.
-/

namespace TaskScript
namespace CharClass

/-- Whether a character lies in one of the closed ranges. -/
def inRanges (ranges : List (Nat × Nat)) (c : Char) : Bool :=
  ranges.any fun range => decide (range.1 ≤ c.toNat) && decide (c.toNat ≤ range.2)

/-- White space: the ASCII blanks and controls, and the seventeen others of `White_Space`. -/
def isBlank (c : Char) : Bool :=
  inRanges [(0x09, 0x0D), (0x20, 0x20), (0x85, 0x85), (0xA0, 0xA0), (0x1680, 0x1680),
    (0x2000, 0x200A), (0x2028, 0x2029), (0x202F, 0x202F), (0x205F, 0x205F), (0x3000, 0x3000)] c

/-- A character that may stand in a name. -/
def isWord (c : Char) : Bool :=
  if c.toNat < 0x80 then c.isAlphanum || c == '_' else inRanges CharTable.wordRanges c

/-- A decimal digit of any script. -/
def isDecimalDigit (c : Char) : Bool :=
  if c.toNat < 0x80 then c.isDigit else inRanges CharTable.decimalDigitRanges c

/-- A letter or a number of any script. -/
def isAlphanumeric (c : Char) : Bool :=
  if c.toNat < 0x80 then c.isAlphanum else inRanges CharTable.alphanumericRanges c

/-! ## Words and white space -/

/-- Two lists of ranges that lie apart have no character in common. -/
theorem inRanges_of_apart {first second : List (Nat × Nat)} {c : Char}
    (apart : ∀ r ∈ first, ∀ s ∈ second, r.2 < s.1 ∨ s.2 < r.1)
    (inside : inRanges first c = true) : inRanges second c = false := by
  simp only [inRanges, List.any_eq_true, Bool.and_eq_true, decide_eq_true_eq] at inside
  obtain ⟨r, mem, low, high⟩ := inside
  simp only [inRanges, List.any_eq_false, Bool.and_eq_true, decide_eq_true_eq]
  rintro s mem' ⟨low', high'⟩
  have := apart r mem s mem'
  omega

theorem isWord_of_isBlank {c : Char} (blank : isBlank c = true) : isWord c = false := by
  unfold isWord
  split
  · next ascii =>
    -- below the first blank above ASCII there are six left
    have codes : c.toNat ∈ [9, 10, 11, 12, 13, 32] := by
      simp only [isBlank, inRanges, List.any_cons, List.any_nil, Bool.or_false, Bool.or_eq_true,
        Bool.and_eq_true, decide_eq_true_eq] at blank
      simp only [List.mem_cons, List.not_mem_nil, or_false]
      omega
    have none_ : ∀ n ∈ [9, 10, 11, 12, 13, 32],
        ((Char.ofNat n).isAlphanum || Char.ofNat n == '_') = false := by decide
    have found := none_ c.toNat codes
    rwa [Char.ofNat_toNat] at found
  · exact inRanges_of_apart (by decide +kernel) blank

theorem isBlank_of_isWord {c : Char} (word : isWord c = true) : isBlank c = false := by
  refine Bool.eq_false_iff.2 fun blank => ?_
  rw [isWord_of_isBlank blank] at word
  exact nomatch word

/-! ## Digits -/

/-- Ranges that lie within those of another list have no character beside them. -/
theorem inRanges_of_within {first second : List (Nat × Nat)} {c : Char}
    (within : ∀ r ∈ first, ∃ s ∈ second, s.1 ≤ r.1 ∧ r.2 ≤ s.2)
    (inside : inRanges first c = true) : inRanges second c = true := by
  simp only [inRanges, List.any_eq_true, Bool.and_eq_true, decide_eq_true_eq] at inside ⊢
  obtain ⟨r, mem, low, high⟩ := inside
  obtain ⟨s, mem', below, above⟩ := within r mem
  exact ⟨s, mem', Nat.le_trans below low, Nat.le_trans high above⟩

/-- Digits may stand in names. -/
theorem isWord_of_isDecimalDigit {c : Char} (digit : isDecimalDigit c = true) :
    isWord c = true := by
  unfold isDecimalDigit at digit
  unfold isWord
  split
  · next ascii =>
    rw [if_pos ascii] at digit
    simp [Char.isAlphanum, digit]
  · next ascii =>
    rw [if_neg ascii] at digit
    exact inRanges_of_within (by decide +kernel) digit

/-! ## Agreement with the ASCII classes -/

theorem isWord_of_ascii {c : Char} (h : c.toNat < 0x80) :
    isWord c = (c.isAlphanum || c == '_') := by
  simp [isWord, h]

theorem isDecimalDigit_of_ascii {c : Char} (h : c.toNat < 0x80) :
    isDecimalDigit c = c.isDigit := by
  simp [isDecimalDigit, h]

end CharClass
end TaskScript
