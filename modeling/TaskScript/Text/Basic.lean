import TaskScript.Text.CharClass

/-!
# Text — lines, trimming and splitting

Operations on texts given as lists of characters.

- `lines`      : the lines of a text, without their terminators
- `trim`       : white space removed on both sides
- `fields`     : the pieces between the occurrences of a separator
- `splitOnce?` : the pieces before and after the first occurrence of a separator
-/

namespace TaskScript
namespace Text

/-- The lines of a text.  A line ends at a line feed, and one carriage return before it belongs to
the terminator; a last line without terminator counts if it is not empty. -/
def lines : List Char → List (List Char)
  | [] => []
  | '\n' :: rest => [] :: lines rest
  | '\r' :: '\n' :: rest => [] :: lines rest
  | c :: rest =>
    match lines rest with
    | [] => [[c]]
    | line :: more => (c :: line) :: more

/-- The text without its leading white space. -/
def trimStart (text : List Char) : List Char :=
  text.dropWhile CharClass.isBlank

/-- The text without its trailing white space. -/
def trimEnd (text : List Char) : List Char :=
  (text.reverse.dropWhile CharClass.isBlank).reverse

/-- The text without white space on either side. -/
def trim (text : List Char) : List Char :=
  trimEnd (trimStart text)

/-- Whether a text consists of white space only. -/
def isBlank (text : List Char) : Bool :=
  text.all CharClass.isBlank

/-- The pieces between the occurrences of a separator: one more than there are occurrences. -/
def fields (separator : Char) : List Char → List (List Char)
  | [] => [[]]
  | c :: rest =>
    if c = separator then
      [] :: fields separator rest
    else
      match fields separator rest with
      | [] => [[c]]
      | piece :: more => (c :: piece) :: more

/-- The pieces before and after the first occurrence of a separator, if there is one. -/
def splitOnce? (separator : Char) : List Char → Option (List Char × List Char)
  | [] => none
  | c :: rest =>
    if c = separator then
      some ([], rest)
    else
      (splitOnce? separator rest).map fun halves => (c :: halves.1, halves.2)

/-- The number of bytes of a text in UTF-8. -/
def byteLength (text : List Char) : Nat :=
  text.foldl (fun bytes c => bytes + c.utf8Size) 0

/-! ## Small laws -/

theorem splitOnce?_eq_some {separator : Char} {text before after : List Char}
    (h : splitOnce? separator text = some (before, after)) :
    text = before ++ separator :: after ∧ separator ∉ before := by
  induction text generalizing before after with
  | nil => simp [splitOnce?] at h
  | cons c rest ih =>
    simp only [splitOnce?] at h
    split at h
    · next hc =>
      simp only [Option.some.injEq, Prod.mk.injEq] at h
      obtain ⟨rfl, rfl⟩ := h
      exact ⟨by simp [hc], by simp⟩
    · next hc =>
      obtain ⟨halves, hr, he⟩ := Option.map_eq_some_iff.1 h
      obtain ⟨b, a⟩ := halves
      simp only [Prod.mk.injEq] at he
      obtain ⟨rfl, rfl⟩ := he
      obtain ⟨rfl, hn⟩ := ih hr
      refine ⟨by simp, ?_⟩
      simp only [List.mem_cons, not_or]
      exact ⟨fun e => hc e.symm, hn⟩

/-- Only a text without the separator is not split. -/
theorem splitOnce?_eq_none_iff {separator : Char} {text : List Char} :
    splitOnce? separator text = none ↔ separator ∉ text := by
  induction text with
  | nil => simp [splitOnce?]
  | cons c rest ih =>
    by_cases here : c = separator
    · simp [splitOnce?, here]
    · simp [splitOnce?, here, Ne.symm here, ih]

end Text
end TaskScript
