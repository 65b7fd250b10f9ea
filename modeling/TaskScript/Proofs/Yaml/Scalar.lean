import TaskScript.Yaml.Document
import TaskScript.Proofs.Text.Matching

/-!
# Scalar — a written text and where it ends

Two texts that are written alike, whatever follows them, are the same text and are followed by the
same.  What follows may be anything that is indented less than the text.

- `Shallow`            : what may follow a text of an indentation
- `style_of_head`      : the first character that is written announces the style
- `singleBody_append_inj`, `doubleBody_append_inj`, `literalBody_append_inj` : each style has one
  reading
- `scalar_append_inj`  : so has a text in its style
-/

namespace TaskScript
namespace Yaml

open TaskScript.Yaml.Tree (closeLine)

variable {n m : Nat} {b : Bool} {c d : Char} {s t r r' x y : List Char}

/-! ## What follows -/

/-- What may follow the lines of a text with indentation `indent`: nothing, or a line that is
indented less. -/
inductive Shallow (indent : Nat) : List Char → Prop
  | nil : Shallow indent []
  | line {depth : Nat} {c : Char} (rest : List Char) (less : depth < indent) (notSpace : c ≠ ' ')
      (notBreak : isBreak c = false) : Shallow indent (spaces depth ++ c :: rest)

theorem Shallow.mono (h : Shallow n r) (le : n ≤ m) : Shallow m r := by
  cases h with
  | nil => exact .nil
  | line rest less notSpace notBreak => exact .line rest (by omega) notSpace notBreak

/-- It does not begin with the indentation. -/
theorem Shallow.ne_spaces_cons (h : Shallow n r) : r ≠ spaces n ++ c :: x := by
  cases h with
  | nil => simp
  | @line depth c' rest less notSpace notBreak =>
    intro same
    have split : spaces n = spaces depth ++ ' ' :: spaces (n - depth - 1) := by
      rw [spaces, spaces, spaces, ← List.replicate_succ, List.replicate_append_replicate]
      congr 1
      omega
    rw [split, List.append_assoc] at same
    exact notSpace (List.cons.inj (List.append_cancel_left same)).1

/-- It does not begin with a line break. -/
theorem Shallow.ne_break_cons (h : Shallow n r) (breaks : isBreak c = true) : r ≠ c :: x := by
  cases h with
  | nil => simp
  | @line depth c' rest less notSpace notBreak =>
    intro same
    cases depth with
    | zero =>
      rw [(List.cons.inj same).1, breaks] at notBreak
      cases notBreak
    | succ depth =>
      rw [← (List.cons.inj same).1] at breaks
      exact absurd breaks (by decide)

/-! ## Single quotes -/

/-- A character between single quotes. -/
def singleChar (c : Char) : List Char := if c == '\'' then ['\'', '\''] else [c]

theorem singleChar_eq_cons (c : Char) : ∃ x, singleChar c = c :: x := by
  by_cases quote : c = '\'' <;> simp [singleChar, quote]

/-- No character is written as the closing quote is. -/
theorem singleChar_append_ne_close : singleChar c ++ x ≠ '\'' :: '\n' :: r := by
  by_cases quote : c = '\'' <;> simp [singleChar, quote]

/-! ## Lines after a break -/

/-- The indentation in front of a character, if it stands after a break. -/
def lead (n : Nat) (afterBreak : Bool) : List Char := if afterBreak then spaces n else []

/-- A line that is indented does not begin with a break. -/
theorem lead_append_cons_ne (hn : 0 < n) (notBreak : isBreak d = false)
    (breaks : isBreak c = true) : lead n b ++ d :: x ≠ c :: y := by
  intro same
  have other : isBreak c = false := by
    cases b with
    | false => rw [← (List.cons.inj same).1, notBreak]
    | true =>
      obtain ⟨k, rfl⟩ : ∃ k, n = k + 1 := ⟨n - 1, by omega⟩
      rw [← (List.cons.inj same).1]
      decide
  rw [breaks] at other
  cases other

/-- Whether what follows a text stands after a break. -/
def endsLine : Bool → List Char → Bool
  | afterBreak, [] => afterBreak
  | _, c :: rest => endsLine (isBreak c) rest

/-- A text whose breaks stay and whose other characters are written as `piece` says, the first of a
line after the indentation. -/
def body (piece : Char → List Char) (n : Nat) : Bool → List Char → List Char
  | _, [] => []
  | afterBreak, c :: rest =>
    if isBreak c then c :: body piece n true rest
    else lead n afterBreak ++ (piece c ++ body piece n false rest)

theorem singleBody_eq_body :
    singleBody n b s = body singleChar n b s ++ lead n (endsLine b s) := by
  induction s generalizing b with
  | nil => rfl
  | cons c s ih =>
    cases breaks : isBreak c <;>
      simp [singleBody, body, endsLine, breaks, ih, lead, singleChar]

theorem literalBody_eq_body : literalBody n b s = body (fun c => [c]) n b s := by
  induction s generalizing b with
  | nil => rfl
  | cons c s ih => cases breaks : isBreak c <;> simp [literalBody, body, breaks, ih, lead]

section body

variable {piece : Char → List Char} {z z' : List Char}

/-- Such a text has one reading, if each piece begins with its character and no piece stands where
the text ends. -/
theorem body_append_inj (Ends : Bool → List Char → Prop) (hn : 0 < n)
    (head : ∀ c, ∃ x, piece c = c :: x)
    (noBreak : ∀ {b z c x}, Ends b z → isBreak c = true → z ≠ c :: x)
    (noPiece : ∀ {b z c x}, Ends b z → isBreak c = false → z ≠ lead n b ++ (piece c ++ x))
    (ends : Ends (endsLine b s) z) (ends' : Ends (endsLine b t) z')
    (same : body piece n b s ++ z = body piece n b t ++ z') : s = t ∧ z = z' := by
  -- a text that goes on is not written as one that ends here
  have goesOn : ∀ {b d t z z'}, Ends b z → z ≠ body piece n b (d :: t) ++ z' := by
    intro b d t z z' ends same
    cases breaks : isBreak d with
    | true =>
      rw [body, if_pos breaks] at same
      exact noBreak ends breaks same
    | false =>
      rw [body, if_neg (by simp [breaks]), List.append_assoc, List.append_assoc] at same
      exact noPiece ends breaks same
  -- a break is not written as another character is
  have breakOnly : ∀ {b c d s t}, isBreak c = true → isBreak d = false →
      c :: s ≠ lead n b ++ (piece d ++ t) := by
    intro b c d s t breaks notBreak same
    obtain ⟨x, hd⟩ := head d
    rw [hd, List.cons_append] at same
    exact lead_append_cons_ne hn notBreak breaks same.symm
  induction s generalizing b t with
  | nil =>
    cases t with
    | nil => exact ⟨rfl, same⟩
    | cons d t => exact absurd same (goesOn ends)
  | cons c s ih =>
    cases t with
    | nil => exact absurd same.symm (goesOn ends')
    | cons d t =>
      simp only [body] at same
      cases hc : isBreak c <;> cases hd : isBreak d <;>
        simp only [hc, hd, if_true, if_false, Bool.false_eq_true, List.cons_append,
          List.append_assoc] at same
      · have rest := List.append_cancel_left same
        obtain rfl : c = d := by
          obtain ⟨x, hx⟩ := head c
          obtain ⟨y, hy⟩ := head d
          rw [hx, hy] at rest
          exact (List.cons.inj rest).1
        replace rest := List.append_cancel_left rest
        rw [endsLine, hc] at ends ends'
        obtain ⟨rfl, after⟩ := ih ends ends' rest
        exact ⟨rfl, after⟩
      · exact absurd same.symm (breakOnly hd hc)
      · exact absurd same (breakOnly hc hd)
      · obtain ⟨rfl, rest⟩ := List.cons.inj same
        rw [endsLine, hc] at ends ends'
        obtain ⟨rfl, after⟩ := ih ends ends' rest
        exact ⟨rfl, after⟩

end body

/-- What stands between single quotes has one reading. -/
theorem singleBody_append_inj (hn : 0 < n)
    (same : singleBody n b s ++ '\'' :: '\n' :: r = singleBody n b t ++ '\'' :: '\n' :: r') :
    s = t ∧ r = r' := by
  rw [singleBody_eq_body, singleBody_eq_body, List.append_assoc, List.append_assoc] at same
  obtain ⟨rfl, ends⟩ := body_append_inj (fun b z => ∃ r, z = lead n b ++ '\'' :: '\n' :: r) hn
    singleChar_eq_cons
    (by rintro b _ c x ⟨r, rfl⟩ breaks; exact lead_append_cons_ne hn (by decide) breaks)
    (by
      rintro b _ c x ⟨r, rfl⟩ - same
      exact singleChar_append_ne_close (List.append_cancel_left same).symm)
    ⟨r, rfl⟩ ⟨r', rfl⟩ same
  have close := List.append_cancel_left ends
  exact ⟨rfl, (List.cons.inj (List.cons.inj close).2).2⟩

/-- Lines that are indented and end in a break have one reading. -/
theorem literalBody_append_inj (hn : 0 < n) (shallow : Shallow n r) (shallow' : Shallow n r')
    (ends : endsLine b s = true) (ends' : endsLine b t = true)
    (same : literalBody n b s ++ r = literalBody n b t ++ r') : s = t ∧ r = r' := by
  rw [literalBody_eq_body, literalBody_eq_body] at same
  refine body_append_inj (fun b z => b = true ∧ Shallow n z) hn (fun c => ⟨[], rfl⟩) ?_ ?_
    ⟨ends, shallow⟩ ⟨ends', shallow'⟩ same
  · rintro b z c x ⟨-, shallow⟩ breaks
    exact shallow.ne_break_cons breaks
  · rintro b z c x ⟨rfl, shallow⟩ -
    exact shallow.ne_spaces_cons

/-! ## Double quotes -/

/-- The characters of the short escapes and their letters. -/
def shortEscapes : List (Nat × Char) :=
  [(0x00, '0'), (0x07, 'a'), (0x08, 'b'), (0x09, 't'), (0x0A, 'n'), (0x0B, 'v'), (0x0C, 'f'),
    (0x0D, 'r'), (0x1B, 'e'), (0x22, '"'), (0x5C, '\\'), (0x85, 'N'), (0xA0, '_'), (0x2028, 'L'),
    (0x2029, 'P')]

/-- The letters of the longer escapes and the numbers of their digits. -/
def longEscapes : List (Char × Nat) := [('x', 2), ('u', 4), ('U', 8)]

theorem mem_of_shortEscape? {letter : Char} (h : shortEscape? c = some letter) :
    (c.toNat, letter) ∈ shortEscapes := by
  obtain ⟨before, after, table, -⟩ := List.lookup_eq_some_iff.1 h
  rw [show shortEscapes = _ from table]
  exact List.mem_append_right before List.mem_cons_self

/-- No two short escapes have one letter, and none has the letter of a longer escape. -/
theorem escape_letters :
    (∀ p ∈ shortEscapes, ∀ q ∈ shortEscapes, p.2 = q.2 → p = q) ∧
      (∀ p ∈ longEscapes, ∀ q ∈ longEscapes, p.1 = q.1 → p = q) ∧
      ∀ p ∈ shortEscapes, ∀ q ∈ longEscapes, p.2 ≠ q.1 := by
  decide

theorem length_hexDigits (width k : Nat) : (hexDigits width k).length = width := by
  induction width generalizing k with
  | zero => rfl
  | succ width ih => simp [hexDigits, ih]

/-- Digits that are enough for two numbers tell them apart. -/
theorem hexDigits_inj {width k l : Nat} (hk : k < Nat.pow 16 width) (hl : l < Nat.pow 16 width)
    (same : hexDigits width k = hexDigits width l) : k = l := by
  induction width generalizing k l with
  | zero => simp_all
  | succ width ih =>
    have digits : ∀ i < 16, ∀ j < 16, ("0123456789ABCDEF".toList)[i]?.getD '0' =
        ("0123456789ABCDEF".toList)[j]?.getD '0' → i = j := by decide
    obtain ⟨upper, last⟩ := List.append_inj same (by simp [length_hexDigits])
    change k < Nat.pow 16 width * 16 at hk
    change l < Nat.pow 16 width * 16 at hl
    have quotient := ih (by omega) (by omega) upper
    have remainder := digits _ (Nat.mod_lt k (by decide)) _ (Nat.mod_lt l (by decide))
      (List.cons.inj last).1
    omega

/-- A character between double quotes stands for itself, or it has a short escape, or a longer one
with digits enough for its code. -/
theorem doubleChar_cases (c : Char) :
    (doubleChar c = [c] ∧ c ≠ '"' ∧ c ≠ '\\') ∨
      (∃ letter, (c.toNat, letter) ∈ shortEscapes ∧ doubleChar c = ['\\', letter]) ∨
      ∃ letter width, (letter, width) ∈ longEscapes ∧ c.toNat < Nat.pow 16 width ∧
        doubleChar c = '\\' :: letter :: hexDigits width c.toNat := by
  by_cases escaped : (!isPrintable c || isBreak c || c == '"' || c == '\\') = true
  · refine .inr ?_
    cases short : shortEscape? c with
    | some letter =>
      exact .inl ⟨letter, mem_of_shortEscape? short, by rw [doubleChar, if_pos escaped, short]⟩
    | none =>
      refine .inr ?_
      have bound : c.toNat < Nat.pow 16 8 := Nat.lt_of_lt_of_le c.val.toNat_lt (by decide)
      by_cases two : c.toNat ≤ 0xFF
      · exact ⟨'x', 2, by decide, Nat.lt_succ_of_le two,
          by simp only [doubleChar, escaped, short, two, if_true]⟩
      by_cases four : c.toNat ≤ 0xFFFF
      · exact ⟨'u', 4, by decide, Nat.lt_succ_of_le four,
          by simp only [doubleChar, escaped, short, two, four, if_true, if_false]⟩
      · exact ⟨'U', 8, by decide, bound,
          by simp only [doubleChar, escaped, short, two, four, if_true, if_false]⟩
  · refine .inl ⟨by rw [doubleChar, if_neg escaped], ?_, ?_⟩ <;>
      · rintro rfl
        simp at escaped

theorem doubleChar_append_inj (same : doubleChar c ++ x = doubleChar d ++ y) : c = d ∧ x = y := by
  -- a backslash never stands for itself, and the letter behind it says how many digits follow
  have whole : c = d := by
    obtain ⟨hc, -, plain⟩ | ⟨letter, mem, hc⟩ | ⟨letter, width, mem, bound, hc⟩ :=
        doubleChar_cases c <;>
      obtain ⟨hd, -, plain'⟩ | ⟨letter', mem', hd⟩ | ⟨letter', width', mem', bound', hd⟩ :=
        doubleChar_cases d <;>
      simp only [hc, hd, List.cons_append, List.nil_append, List.cons.injEq, true_and] at same
    · exact same.1
    · exact absurd same.1 plain
    · exact absurd same.1 plain
    · exact absurd same.1.symm plain'
    · have entry := escape_letters.1 _ mem _ mem' same.1
      exact Char.toNat_inj.1 (Prod.mk.inj entry).1
    · exact absurd same.1 (escape_letters.2.2 _ mem _ mem')
    · exact absurd same.1.symm plain'
    · exact absurd same.1.symm (escape_letters.2.2 _ mem' _ mem)
    · obtain ⟨-, rfl⟩ := Prod.mk.inj (escape_letters.2.1 _ mem _ mem' same.1)
      have digits := (List.append_inj same.2 (by simp [length_hexDigits])).1
      exact Char.toNat_inj.1 (hexDigits_inj bound bound' digits)
  subst whole
  exact ⟨rfl, List.append_cancel_left same⟩

/-- No character is written as the closing quote is. -/
theorem doubleChar_append_ne_close : doubleChar c ++ x ≠ '"' :: r := by
  obtain ⟨hc, plain, -⟩ | ⟨letter, -, hc⟩ | ⟨letter, width, -, -, hc⟩ := doubleChar_cases c
  · simp [hc, plain]
  · simp [hc]
  · simp [hc]

/-- What stands between double quotes has one reading. -/
theorem doubleBody_append_inj
    (same : s.flatMap doubleChar ++ '"' :: r = t.flatMap doubleChar ++ '"' :: r') :
    s = t ∧ r = r' := by
  induction s generalizing t with
  | nil =>
    cases t with
    | nil => exact ⟨rfl, (List.cons.inj same).2⟩
    | cons d t =>
      rw [List.flatMap_cons, List.append_assoc] at same
      exact absurd same.symm doubleChar_append_ne_close
  | cons c s ih =>
    cases t with
    | nil =>
      rw [List.flatMap_cons, List.append_assoc] at same
      exact absurd same doubleChar_append_ne_close
    | cons d t =>
      rw [List.flatMap_cons, List.flatMap_cons, List.append_assoc, List.append_assoc] at same
      obtain ⟨rfl, rest⟩ := doubleChar_append_inj same
      obtain ⟨rfl, after⟩ := ih rest
      exact ⟨rfl, after⟩

/-! ## The break after a text -/

theorem endsLine_append (b : Bool) (x y : List Char) :
    endsLine b (x ++ y) = endsLine (endsLine b x) y := by
  induction x generalizing b with
  | nil => rfl
  | cons c x ih => exact ih (isBreak c)

theorem endsLine_eq (b : Bool) (s : List Char) :
    endsLine b s = (s.getLast?.map isBreak).getD b := by
  induction s generalizing b with
  | nil => rfl
  | cons c s ih =>
    rw [endsLine, ih, List.getLast?_cons]
    cases s.getLast? <;> rfl

theorem closeLine_eq (s : List Char) :
    closeLine s = if endsLine false s then s else s ++ ['\n'] := by
  rw [closeLine, endsLine_eq]
  cases last : s.getLast? with
  | none => simp [List.getLast?_eq_none_iff.1 last]
  | some c => simp

/-- Only the last piece decides on the break. -/
theorem closeLine_append (x : List Char) (some_ : y ≠ []) :
    closeLine (x ++ y) = x ++ closeLine y := by
  obtain ⟨c, y, rfl⟩ := List.exists_cons_of_ne_nil some_
  rw [closeLine_eq, closeLine_eq, endsLine_append]
  change (if endsLine false (c :: y) = true then _ else _) = _
  split <;> simp

theorem endsLine_closeLine (s : List Char) : endsLine true (closeLine s) = true := by
  rw [closeLine_eq]
  split
  · next breaks =>
    cases s with
    | nil => rfl
    | cons c s => exact breaks
  · rw [endsLine_append]
    rfl

/-- Two texts that both end in a break, or both do not, are told apart by their lines. -/
theorem closeLine_inj (alike : endsLine false s = endsLine false t)
    (same : closeLine s = closeLine t) : s = t := by
  rw [closeLine_eq, closeLine_eq, ← alike] at same
  split at same
  · exact same
  · exact List.append_cancel_right same

/-! ## Literal blocks -/

/-- The hints say whether a text ends in a break. -/
theorem mem_literalHints_iff (s : List Char) : '-' ∈ literalHints s ↔ endsLine false s = false := by
  rw [endsLine_eq, ← List.head?_reverse, literalHints.eq_def]
  refine List.mem_append.trans ((or_iff_right ?indentation).trans ?chomping)
  case indentation =>
    cases s with
    | nil => simp
    | cons c s => cases h : (c == ' ' || isBreak c) <;> simp [h]
  case chomping =>
    rcases s.reverse with _ | ⟨last, _ | ⟨before, rest⟩⟩
    · simp
    · cases breaks : isBreak last <;> simp [breaks]
    · cases breaks : isBreak last <;> cases breaks' : isBreak before <;> simp [breaks, breaks']

theorem ne_newline_of_mem_literalHints (mem : c ∈ literalHints s) : c ≠ '\n' := by
  have signs : c ∈ ['2', '-', '+'] := by
    simp only [literalHints, List.mem_append] at mem
    grind
  revert signs
  simp only [List.mem_cons, List.not_mem_nil, or_false]
  rintro (rfl | rfl | rfl) <;> decide

theorem literalBody_append (b : Bool) (x y : List Char) :
    literalBody n b (x ++ y) = literalBody n b x ++ literalBody n (endsLine b x) y := by
  induction x generalizing b with
  | nil => rfl
  | cons c x ih =>
    cases breaks : isBreak c <;> simp [literalBody, endsLine, breaks, ih]

theorem endsLine_literalBody {b' : Bool} : endsLine b' (literalBody n b s) = endsLine b' s := by
  induction s generalizing b b' with
  | nil => rfl
  | cons c s ih =>
    rw [literalBody]
    split
    · exact ih
    · rw [endsLine_append]
      exact ih

/-- The break that closes a block is the last of its lines. -/
theorem closeLine_literalBody : closeLine (literalBody n b s) = literalBody n b (closeLine s) := by
  rw [closeLine_eq, closeLine_eq, endsLine_literalBody]
  split
  · rfl
  · rw [literalBody_append]
    rfl

/-! ## Styles -/

/-- The style that the first character announces. -/
def announcedStyle : Char → Style
  | '\'' => .single
  | '"' => .double
  | '|' => .literal
  | _ => .plain

/-- What is known of a text that is written plainly. -/
structure IsPlain (text : List Char) : Prop where
  notResolved : isResolved text = false
  noEdgeSpace : hasEdgeSpace text = false
  noBreak : ∀ c ∈ text, isBreak c = false
  noIndicator : hasIndicator text = false

theorem IsPlain.of_style (h : style s = .plain) : IsPlain s := by
  have allowed : isResolved s = false ∧ allowsPlain s = true := by
    rw [style] at h
    split at h
    · split at h <;> cases h
    · split at h
      · simpa using ‹(!isResolved s && allowsPlain s) = true›
      · split at h <;> cases h
  obtain ⟨notResolved, allowed⟩ := allowed
  simp only [allowsPlain, Bool.not_eq_true', Bool.or_eq_false_iff, List.any_eq_false] at allowed
  obtain ⟨⟨⟨⟨noEdgeSpace, noBreak⟩, -⟩, -⟩, noIndicator⟩ := allowed
  exact ⟨notResolved, noEdgeSpace, fun c mem => by simpa using noBreak c mem, noIndicator⟩

theorem IsPlain.exists_cons (h : IsPlain s) : ∃ c x, s = c :: x ∧ isIndicator c = false := by
  obtain ⟨notResolved, -, -, noIndicator⟩ := h
  cases s with
  | nil => cases notResolved
  | cons c x =>
    simp only [hasIndicator, Bool.or_eq_false_iff] at noIndicator
    exact ⟨c, x, rfl, noIndicator.1.1⟩

theorem IsPlain.oneLine (h : IsPlain s) : ∀ c ∈ s, (c != '\n') = true := by
  intro c mem
  have notBreak := h.noBreak c mem
  rw [bne_iff_ne]
  rintro rfl
  cases notBreak

theorem lines_of_plain (h : style s = .plain) : closeLine (scalarText n s) = s ++ ['\n'] := by
  have notBreak : endsLine false s = false := by
    rw [endsLine_eq]
    cases last : s.getLast? with
    | none => rfl
    | some c => exact (IsPlain.of_style h).noBreak c (List.mem_of_getLast? last)
  rw [scalarText, h]
  exact (closeLine_eq s).trans (if_neg (by simp [notBreak]))

theorem lines_of_single (h : style s = .single) :
    closeLine (scalarText n s) = '\'' :: (singleBody n false s ++ ['\'', '\n']) := by
  rw [scalarText, h]
  exact closeLine_append ('\'' :: singleBody n false s) (by simp)

theorem lines_of_double (h : style s = .double) :
    closeLine (scalarText n s) = '"' :: (s.flatMap doubleChar ++ ['"', '\n']) := by
  rw [scalarText, h]
  exact closeLine_append ('"' :: s.flatMap doubleChar) (by simp)

theorem lines_of_literal (h : style s = .literal) :
    closeLine (scalarText n s) =
      '|' :: (literalHints s ++ '\n' :: literalBody n true (closeLine s)) := by
  have some_ : literalBody n true s ≠ [] := by
    cases s with
    | nil => cases h
    | cons c s =>
      rw [literalBody]
      split <;> simp
  have written := closeLine_append ('|' :: (literalHints s ++ ['\n'])) some_
  rw [closeLine_literalBody] at written
  rw [scalarText, h]
  simpa using written

/-- The first character that is written announces the style. -/
theorem style_of_head (n : Nat) (s : List Char) :
    ∃ c x, closeLine (scalarText n s) = c :: x ∧ style s = announcedStyle c := by
  cases h : style s with
  | plain =>
    obtain ⟨c, x, rfl, notIndicator⟩ := (IsPlain.of_style h).exists_cons
    refine ⟨c, x ++ ['\n'], lines_of_plain h, ?_⟩
    unfold announcedStyle
    split <;> first | rfl | cases notIndicator
  | single => exact ⟨_, _, lines_of_single h, rfl⟩
  | double => exact ⟨_, _, lines_of_double h, rfl⟩
  | literal => exact ⟨_, _, lines_of_literal h, rfl⟩

/-! ## Texts -/

/-- A text in its style, with the break after it, has one reading. -/
theorem scalar_append_inj (hn : 0 < n) (shallow : Shallow n r) (shallow' : Shallow n r')
    (same : closeLine (scalarText n s) ++ r = closeLine (scalarText n t) ++ r') :
    s = t ∧ r = r' := by
  -- only texts of one style have to be compared
  have alike : style s = style t := by
    obtain ⟨c, x, hs, announced⟩ := style_of_head n s
    obtain ⟨d, y, ht, announced'⟩ := style_of_head n t
    rw [hs, ht] at same
    rw [announced, announced', (List.cons.inj same).1]
  cases h : style s with
  | plain =>
    have h' := alike ▸ h
    rw [lines_of_plain h, lines_of_plain h', List.append_assoc, List.append_assoc] at same
    obtain ⟨rfl, rest⟩ := Pattern.append_inj_of_stop same (IsPlain.of_style h).oneLine (by simp)
      (IsPlain.of_style h').oneLine (by simp)
    exact ⟨rfl, (List.cons.inj rest).2⟩
  | single =>
    have h' := alike ▸ h
    rw [lines_of_single h, lines_of_single h'] at same
    simp only [List.cons_append, List.append_assoc, List.nil_append] at same
    exact singleBody_append_inj hn (List.cons.inj same).2
  | double =>
    have h' := alike ▸ h
    rw [lines_of_double h, lines_of_double h'] at same
    simp only [List.cons_append, List.append_assoc, List.nil_append] at same
    obtain ⟨rfl, rest⟩ := doubleBody_append_inj (List.cons.inj same).2
    exact ⟨rfl, (List.cons.inj rest).2⟩
  | literal =>
    have h' := alike ▸ h
    rw [lines_of_literal h, lines_of_literal h'] at same
    simp only [List.cons_append, List.append_assoc] at same
    have inHints : ∀ {text : List Char}, ∀ c ∈ literalHints text, (c != '\n') = true :=
      fun c mem => bne_iff_ne.2 (ne_newline_of_mem_literalHints mem)
    obtain ⟨hints, rest⟩ := Pattern.append_inj_of_stop (List.cons.inj same).2 inHints (by simp)
      inHints (by simp)
    obtain ⟨lines, after⟩ := literalBody_append_inj hn shallow shallow' (endsLine_closeLine s)
      (endsLine_closeLine t) (List.cons.inj rest).2
    -- the lines are the same, and the hints say whether the last break belongs to the text
    have chomping : endsLine false t = false ↔ endsLine false s = false := by
      rw [← mem_literalHints_iff, ← mem_literalHints_iff, hints]
    exact ⟨closeLine_inj (by grind) lines, after⟩

end Yaml
end TaskScript
