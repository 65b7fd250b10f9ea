import Mathlib.Data.List.TakeWhile
import TaskScript.Proofs.Yaml.Scalar

/-!
# Tree — a document and the tree it was written for

A document has one reading, provided that its keys are words and its numbers are not too long to be
told from texts of digits.  A value announces its kind in its first line; whatever has the
indentation of a list or a record belongs to it, and what follows has less.

- `announced`          : the kind of value that a first line announces
- `announced_afterHyphen`, `announced_afterColon` : a value announces the kind that it has
- `Tree.Legible.reads` : a value behind a hyphen or a colon has one reading
- `Tree.eq_of_render`  : so has a document
-/

namespace TaskScript
namespace Yaml

open TaskScript.Yaml.Tree (closeLine afterColon afterHyphen itemLines fieldLines)

variable {column : Nat} {r r' x y : List Char}

/-! ## Trees -/

/-- The kinds of values. -/
inductive Kind
  | text
  | number
  | emptyList
  | list
  | emptyRecord
  | record

/-- The kind of a value. -/
def Tree.kind : Tree → Kind
  | .text _ => .text
  | .number _ => .number
  | .list [] => .emptyList
  | .list _ => .list
  | .record [] => .emptyRecord
  | .record _ => .record

/-! ## What a first line announces -/

/-- The characters in front of a value. -/
def isBlank (c : Char) : Bool := c == ' ' || c == '\n'

/-- Whether a separator or the end of the line follows the first colon. -/
def opensField (line : List Char) : Bool :=
  match line.dropWhile (· != ':') with
  | ':' :: rest => separates rest
  | _ => false

/-- The kind of value that a line announces. -/
def announcedBy (line : List Char) : Kind :=
  match line with
  | '\'' :: _ => .text
  | '"' :: _ => .text
  | '|' :: _ => .text
  | '[' :: _ => .emptyList
  | '-' :: ' ' :: _ => .list
  | '\x7b' :: _ => .emptyRecord
  | _ =>
    if opensField line then .record
    else if isResolved line then .number
    else .text

/-- The characters by which a value is known. -/
def signs : List Char := ['\'', '"', '|', '[', '-', '\x7b']

/-- They are no digits, and no key begins with them. -/
theorem of_mem_signs {c : Char} (mem : c ∈ signs) :
    c.isDigit = false ∧ c.isAlpha = false ∧ c ≠ ':' := by
  have others : signs.all (fun sign => !sign.isDigit && !sign.isAlpha && sign != ':') = true := by
    decide
  simpa [and_assoc] using List.all_eq_true.1 others c mem

theorem announcedBy_of_notMem_signs {c : Char} (noSign : c ∉ signs) (x : List Char) :
    announcedBy (c :: x) =
      if opensField (c :: x) then .record else if isResolved (c :: x) then .number else .text := by
  unfold announcedBy
  split <;> first
    | rfl
    | next line => exact absurd ((List.cons.inj line).1 ▸ by decide) noSign

/-- The kind of value that is announced in the first line that is not blank. -/
def announced (written : List Char) : Kind :=
  announcedBy ((written.dropWhile isBlank).takeWhile (· != '\n'))

theorem announced_blank {c : Char} (blank : isBlank c = true) (x : List Char) :
    announced (c :: x) = announced x := by
  rw [announced, announced, List.dropWhile_cons_of_pos blank]

theorem announced_spaces (n : Nat) (x : List Char) : announced (spaces n ++ x) = announced x := by
  have blank : ∀ c ∈ spaces n, isBlank c = true := by
    intro c mem
    rw [List.eq_of_mem_replicate mem]
    rfl
  rw [announced, announced, List.dropWhile_append_of_pos blank]

/-- A line that begins with no blank and contains no line feed. -/
theorem announced_line {c : Char} (notBlank : isBlank c = false)
    (oneLine : ∀ d ∈ c :: x, (d != '\n') = true) :
    announced (c :: x ++ '\n' :: y) = announcedBy (c :: x) := by
  rw [announced, List.cons_append, List.dropWhile_cons_of_neg (by simp [notBlank]),
    ← List.cons_append, Pattern.takeWhile_append_of_stop oneLine (by simp)]

/-! ### Texts -/

/-- A colon with a separator behind it is an indicator wherever it stands. -/
theorem hasIndicator_of_colon (word : List Char) {rest : List Char} (h : separates rest = true) :
    hasIndicator (word ++ ':' :: rest) = true := by
  have inner : ∀ (word : List Char) (previous : Char),
      hasInnerIndicator previous (word ++ ':' :: rest) = true := by
    intro word
    induction word with
    | nil => simp [hasInnerIndicator, h]
    | cons c word ih => simp [hasInnerIndicator, ih]
  cases word with
  | nil => simp [hasIndicator, h]
  | cons c word => simp [hasIndicator, inner]

theorem opensField_of_isPlain {line : List Char} (plain : IsPlain line) :
    opensField line = false := by
  rw [Bool.eq_false_iff]
  intro opens
  unfold opensField at opens
  split at opens
  · next rest cut =>
    have found := hasIndicator_of_colon (line.takeWhile (· != ':')) opens
    rw [← cut, List.takeWhile_append_dropWhile, plain.noIndicator] at found
    cases found
  · cases opens

theorem announcedBy_of_isPlain {line : List Char} (plain : IsPlain line) :
    announcedBy line = .text := by
  have noIndicator := plain.noIndicator
  unfold announcedBy
  split
  · rfl
  · rfl
  · rfl
  · cases noIndicator
  · simp [hasIndicator, separates, isSeparator] at noIndicator
  · cases noIndicator
  · rw [if_neg (by simp [opensField_of_isPlain plain]), if_neg (by simp [plain.notResolved])]

/-- A text in its style is taken for a text. -/
theorem announced_scalar (n : Nat) (s : List Char) :
    announced (closeLine (scalarText n s) ++ r) = .text := by
  cases h : style s with
  | plain =>
    have plain := IsPlain.of_style h
    obtain ⟨c, x, rfl, -⟩ := plain.exists_cons
    have notBlank : isBlank c = false := by
      have edge := plain.noEdgeSpace
      have noFeed := plain.oneLine c List.mem_cons_self
      rw [bne_iff_ne] at noFeed
      simp only [hasEdgeSpace, List.head?_cons, Bool.or_eq_false_iff] at edge
      simp [isBlank, noFeed, edge.1.1]
    rw [lines_of_plain h, List.append_assoc]
    exact (announced_line notBlank plain.oneLine).trans (announcedBy_of_isPlain plain)
  | single => rw [lines_of_single h]; rfl
  | double => rw [lines_of_double h]; rfl
  | literal => rw [lines_of_literal h]; rfl

/-! ### Numbers -/

theorem decimal?_of_digits {digits : List Char} (some_ : digits ≠ [])
    (all : ∀ c ∈ digits, c.isDigit = true) : decimal? digits = some ⟨digits, 0⟩ := by
  have whole : digits.takeWhile Char.isDigit = digits := List.takeWhile_eq_self_iff.2 all
  have nothing : digits.dropWhile Char.isDigit = [] := List.dropWhile_eq_nil_iff.2 all
  have unsigned : unsignedDecimal? digits = some ⟨digits, 0⟩ := by
    simp [unsignedDecimal?, whole, nothing, some_, exponent?]
  unfold decimal?
  split
  · cases all '+' List.mem_cons_self
  · cases all '-' List.mem_cons_self
  · exact unsigned

theorem isDigit_of_mem_digits (value : Nat) : ∀ c ∈ Nat.toDigits 10 value, c.isDigit = true :=
  fun _ mem => Nat.isDigit_of_mem_toDigits (by decide) (by decide) mem

/-- A number that fits into a machine word is not taken for a text. -/
theorem isResolved_digits {value : Nat} (fits : value < UInt64.size) :
    isResolved (Nat.toDigits 10 value) = true := by
  have short : (Nat.toDigits 10 value).length ≤ 20 :=
    (Nat.length_toDigits_le_iff (by decide) (by decide)).2 (Nat.lt_trans fits (by decide))
  have significant : ((Nat.toDigits 10 value).dropWhile (· == '0')).length ≤ 20 :=
    Nat.le_trans (List.dropWhile_sublist _).length_le short
  have finite : isFiniteFloat (Nat.toDigits 10 value) = true := by
    rw [isFiniteFloat, decimal?_of_digits Nat.toDigits_ne_nil (isDigit_of_mem_digits value)]
    refine if_pos ?_
    simp
    omega
  simp [isResolved, finite]

theorem ne_of_isDigit {c d : Char} (digit : c.isDigit = true) (other : d.isDigit = false) :
    (c != d) = true := by
  rw [bne_iff_ne]
  rintro rfl
  rw [digit] at other
  cases other

theorem announced_number {value : Nat} (fits : value < UInt64.size) :
    announced (Nat.toDigits 10 value ++ '\n' :: r) = .number := by
  have all := isDigit_of_mem_digits value
  have resolved := isResolved_digits fits
  obtain ⟨c, x, digits⟩ := List.exists_cons_of_ne_nil (Nat.toDigits_ne_nil (b := 10) (n := value))
  rw [digits] at all resolved ⊢
  have noColon : opensField (c :: x) = false := by
    rw [opensField, List.dropWhile_eq_nil_iff.2 fun d mem => ne_of_isDigit (all d mem) rfl]
  have first := all c List.mem_cons_self
  have notBlank : isBlank c = false := by
    have noSpace := ne_of_isDigit (d := ' ') first rfl
    have noFeed := ne_of_isDigit (d := '\n') first rfl
    rw [bne_iff_ne] at noSpace noFeed
    simp [isBlank, noSpace, noFeed]
  rw [announced_line notBlank fun d mem => ne_of_isDigit (all d mem) rfl]
  have noSign : c ∉ signs := by
    intro mem
    rw [(of_mem_signs mem).1] at first
    cases first
  rw [announcedBy_of_notMem_signs noSign, if_neg (by simp [noColon]), if_pos resolved]

/-! ### Lists and records -/

/-- The characters with which a field may begin: its key is a word, perhaps an empty one. -/
def OpensKey (c : Char) : Prop := c.isAlpha = true ∨ c = ':'

theorem OpensKey.ne {c d : Char} (opens : OpensKey c) (letter : d.isAlpha = false)
    (colon : d ≠ ':') : c ≠ d := by
  rintro rfl
  rcases opens with opens | rfl
  · rw [letter] at opens
    cases opens
  · exact colon rfl

/-- A word and what follows its colon. -/
theorem word_colon_eq_cons {word : List Char} (letters : word.all Char.isAlpha = true)
    (rest : List Char) : ∃ c x, word ++ ':' :: rest = c :: x ∧ OpensKey c := by
  cases word with
  | nil => exact ⟨':', rest, rfl, .inr rfl⟩
  | cons c word =>
    rw [List.all_cons, Bool.and_eq_true] at letters
    exact ⟨c, word ++ ':' :: rest, rfl, .inl letters.1⟩

theorem announcedBy_field {word rest : List Char} (letters : word.all Char.isAlpha = true)
    (h : separates rest = true) : announcedBy (word ++ ':' :: rest) = .record := by
  have opens : opensField (word ++ ':' :: rest) = true := by
    have noColon : ∀ c ∈ word, (c != ':') = true := by
      intro c mem
      rw [bne_iff_ne]
      rintro rfl
      exact absurd (List.all_eq_true.1 letters _ mem) (by decide)
    rw [opensField, List.dropWhile_append_of_pos noColon]
    exact h
  obtain ⟨c, x, line, key⟩ := word_colon_eq_cons letters rest
  have noSign : c ∉ signs := by
    intro mem
    obtain ⟨-, noLetter, noColon⟩ := of_mem_signs mem
    exact key.ne noLetter noColon rfl
  rw [line] at opens ⊢
  rw [announcedBy_of_notMem_signs noSign, if_pos opens]

theorem afterColon_list_cons (item : Tree) (items : List Tree) :
    afterColon column (.list (item :: items)) = '\n' :: itemLines column (item :: items) := by
  rw [afterColon]
  exact List.cons_ne_nil _ _

theorem afterColon_record_cons (field : String × Tree) (fields : List (String × Tree)) :
    afterColon column (.record (field :: fields)) =
      '\n' :: fieldLines (column + 2) (field :: fields) := by
  rw [afterColon]
  exact List.cons_ne_nil _ _

/-- The first item of a list is written behind the hyphen that the list stands behind. -/
theorem itemLines_eq_spaces_append (item : Tree) (items : List Tree) :
    itemLines (column + 2) (item :: items) =
      spaces (column + 2) ++ afterHyphen column (.list (item :: items)) := by
  rw [afterHyphen, itemLines, List.append_assoc, spaces, List.drop_left' List.length_replicate]
  exact List.cons_ne_nil _ _

/-- The first field of a record is written behind the hyphen that the record stands behind. -/
theorem fieldLines_eq_spaces_append (field : String × Tree) (fields : List (String × Tree)) :
    fieldLines (column + 2) (field :: fields) =
      spaces (column + 2) ++ afterHyphen column (.record (field :: fields)) := by
  rw [afterHyphen, fieldLines, List.append_assoc, List.append_assoc, spaces,
    List.drop_left' List.length_replicate]
  exact List.cons_ne_nil _ _

/-- After the colon of a field its line ends, or a space follows. -/
theorem afterColon_eq_cons (column : Nat) (v : Tree) :
    ∃ c x, afterColon column v = c :: x ∧ isBlank c = true := by
  rcases v with content | value | (_ | ⟨item, items⟩) | (_ | ⟨field, fields⟩)
  case list.cons => exact ⟨_, _, afterColon_list_cons item items, rfl⟩
  case record.cons => exact ⟨_, _, afterColon_record_cons field fields, rfl⟩
  all_goals
    rw [afterColon]
    exact ⟨_, _, rfl, rfl⟩

theorem announced_itemLines (item : Tree) (items : List Tree) :
    announced (itemLines column (item :: items) ++ r) = .list := by
  rw [itemLines, List.append_assoc, List.append_assoc, announced_spaces]
  rfl

theorem announced_fieldLines {key : String} (word : key.toList.all Char.isAlpha = true) (v : Tree)
    (fields : List (String × Tree)) :
    announced (fieldLines column ((key, v) :: fields) ++ r) = .record := by
  obtain ⟨c, x, value, blank⟩ := afterColon_eq_cons column v
  have line : fieldLines column ((key, v) :: fields) ++ r =
      spaces column ++ (key.toList ++ ':' :: c :: (x ++ (fieldLines column fields ++ r))) := by
    simp [fieldLines, value]
  rw [line, announced_spaces]
  generalize x ++ (fieldLines column fields ++ r) = rest
  obtain ⟨d, y, opening, opens⟩ := word_colon_eq_cons word (c :: rest)
  have notBlank : isBlank d = false := by
    simp [isBlank, opens.ne (d := ' ') rfl (by decide), opens.ne (d := '\n') rfl (by decide)]
  have oneLine : ∀ e ∈ key.toList, (e != '\n') = true := by
    intro e mem
    exact bne_iff_ne.2 (OpensKey.ne (.inl (List.all_eq_true.1 word e mem)) rfl (by decide))
  -- the first line reaches to the colon at least, and there it ends or a space follows
  rw [announced, opening, List.dropWhile_cons_of_neg (by simp [notBlank]), ← opening,
    List.takeWhile_append_of_pos oneLine, List.takeWhile_cons_of_pos rfl]
  refine announcedBy_field word ?_
  simp only [isBlank, Bool.or_eq_true, beq_iff_eq] at blank
  rcases blank with rfl | rfl <;> rfl

/-! ### Values -/

theorem number_toList (value : Nat) : (toString value).toList = Nat.toDigits 10 value :=
  Nat.toList_repr

/-- A value behind a hyphen announces its kind. -/
theorem announced_afterHyphen {v : Tree} (legible : v.Legible) :
    announced (afterHyphen column v ++ r) = v.kind := by
  cases legible with
  | text content =>
    rw [afterHyphen]
    exact announced_scalar _ _
  | @number value fits =>
    rw [afterHyphen, number_toList, List.append_assoc]
    exact announced_number fits
  | @list items legible =>
    cases items with
    | nil =>
      rw [afterHyphen]
      rfl
    | cons item items =>
      rw [← announced_spaces (column + 2), ← List.append_assoc, ← itemLines_eq_spaces_append]
      exact announced_itemLines item items
  | @record fields words legible =>
    cases fields with
    | nil =>
      rw [afterHyphen]
      rfl
    | cons field fields =>
      rw [← announced_spaces (column + 2), ← List.append_assoc, ← fieldLines_eq_spaces_append]
      exact announced_fieldLines (words field List.mem_cons_self) field.2 fields

/-- A value takes no lines of its own, or it is a list with items or a record with fields. -/
theorem Tree.inline_or_block (v : Tree) :
    (v.kind ≠ .list ∧ v.kind ≠ .record) ∨ (∃ item items, v = .list (item :: items)) ∨
      ∃ field fields, v = .record (field :: fields) := by
  rcases v with content | value | (_ | ⟨item, items⟩) | (_ | ⟨field, fields⟩)
  case list.cons => exact .inr (.inl ⟨item, items, rfl⟩)
  case record.cons => exact .inr (.inr ⟨field, fields, rfl⟩)
  all_goals exact .inl ⟨nofun, nofun⟩

/-- A value that takes no lines of its own is written alike behind a colon and behind a hyphen. -/
theorem afterColon_of_inline {v : Tree} (notList : v.kind ≠ .list) (notRecord : v.kind ≠ .record) :
    afterColon column v = ' ' :: afterHyphen column v := by
  rcases v with content | value | (_ | ⟨item, items⟩) | (_ | ⟨field, fields⟩)
  case list.cons => exact absurd rfl notList
  case record.cons => exact absurd rfl notRecord
  all_goals rfl

/-- A value behind a colon announces its kind. -/
theorem announced_afterColon {v : Tree} (legible : v.Legible) :
    announced (afterColon column v ++ r) = v.kind := by
  obtain ⟨notList, notRecord⟩ | ⟨item, items, rfl⟩ | ⟨field, fields, rfl⟩ := v.inline_or_block
  · rw [afterColon_of_inline notList notRecord, List.cons_append, announced_blank rfl]
    exact announced_afterHyphen legible
  · rw [afterColon_list_cons, List.cons_append, announced_blank rfl]
    exact announced_itemLines item items
  · cases legible with
    | record words legible =>
      rw [afterColon_record_cons, List.cons_append, announced_blank rfl]
      exact announced_fieldLines (words field List.mem_cons_self) field.2 fields

/-! ## What follows a value -/

/-- What may follow the items of a list in column `column`: a line that is indented less, or one
with the same indentation that is no further item. -/
structure AfterItems (column : Nat) (rest : List Char) : Prop where
  shallow : Shallow (column + 1) rest
  noItem : ∀ x, rest ≠ spaces column ++ '-' :: x

theorem Shallow.afterItems (h : Shallow column r) : AfterItems column r :=
  ⟨h.mono (Nat.le_succ column), fun _ => h.ne_spaces_cons⟩

theorem Shallow.itemLines (h : Shallow (column + 1) r) (items : List Tree) :
    Shallow (column + 1) (itemLines column items ++ r) := by
  cases items with
  | nil => exact h
  | cons item items =>
    rw [Tree.itemLines, List.append_assoc, List.append_assoc]
    exact .line _ (Nat.lt_succ_self column) (by decide) (by decide)

/-- A field begins with a character of its key. -/
theorem fieldLines_eq_spaces_cons (column : Nat) (r : List Char) {field : String × Tree}
    (word : field.1.toList.all Char.isAlpha = true) (fields : List (String × Tree)) :
    ∃ c x, fieldLines column (field :: fields) ++ r = spaces column ++ c :: x ∧ OpensKey c := by
  obtain ⟨c, x, opening, opens⟩ :=
    word_colon_eq_cons word (afterColon column field.2 ++ (fieldLines column fields ++ r))
  refine ⟨c, x, ?_, opens⟩
  rw [← opening]
  simp [fieldLines]

theorem OpensKey.not_isBreak {c : Char} (opens : OpensKey c) : isBreak c = false := by
  have other : ∀ d : Char, d.isAlpha = false → d ≠ ':' → c.toNat ≠ d.toNat :=
    fun d letter colon same => opens.ne letter colon (Char.toNat_inj.1 same)
  rw [Bool.eq_false_iff]
  intro breaks
  simp only [isBreak, Bool.or_eq_true, beq_iff_eq] at breaks
  rcases breaks with (((rfl | rfl) | next) | line) | paragraph
  · exact other '\n' rfl (by decide) rfl
  · exact other '\r' rfl (by decide) rfl
  · exact other '\u0085' rfl (by decide) next
  · exact other '\u2028' rfl (by decide) line
  · exact other '\u2029' rfl (by decide) paragraph

theorem Shallow.afterItems_fieldLines (h : Shallow column r) {fields : List (String × Tree)}
    (words : ∀ field ∈ fields, field.1.toList.all Char.isAlpha = true) :
    AfterItems column (fieldLines column fields ++ r) := by
  cases fields with
  | nil => exact h.afterItems
  | cons field fields =>
    obtain ⟨c, x, opening, opens⟩ :=
      fieldLines_eq_spaces_cons column r (words field List.mem_cons_self) fields
    rw [opening]
    refine ⟨.line x (Nat.lt_succ_self column) (opens.ne rfl (by decide)) opens.not_isBreak, ?_⟩
    intro y same
    exact opens.ne (d := '-') rfl (by decide) (List.cons.inj (List.append_cancel_left same)).1

/-! ## One reading -/

/-- A value is told from every other by what is written for it, whatever follows. -/
def Tells (write : Tree → List Char) (After : List Char → Prop) (v : Tree) : Prop :=
  ∀ {w : Tree} {r r' : List Char}, w.Legible → After r → After r' →
    write v ++ r = write w ++ r' → v = w ∧ r = r'

/-- A value that has one reading, behind a hyphen and behind a colon. -/
structure Tree.Reads (v : Tree) : Prop where
  hyphen : ∀ column, Tells (afterHyphen column) (Shallow (column + 1)) v
  colon : ∀ column, Tells (afterColon column) (AfterItems column) v

section

variable {v w : Tree} {items items' : List Tree} {fields fields' : List (String × Tree)}

theorem kind_eq_of_hyphen (legible : v.Legible) (legible' : w.Legible)
    (same : afterHyphen column v ++ r = afterHyphen column w ++ r') : v.kind = w.kind := by
  rw [← announced_afterHyphen legible (r := r), same, announced_afterHyphen legible']

theorem kind_eq_of_colon (legible : v.Legible) (legible' : w.Legible)
    (same : afterColon column v ++ r = afterColon column w ++ r') : v.kind = w.kind := by
  rw [← announced_afterColon legible (r := r), same, announced_afterColon legible']

/-- A value that takes no lines of its own has one reading if it has one behind a hyphen. -/
theorem Tree.Reads.of_inline (legible : v.Legible) (notList : v.kind ≠ .list)
    (notRecord : v.kind ≠ .record)
    (hyphen : ∀ column, Tells (afterHyphen column) (Shallow (column + 1)) v) : v.Reads := by
  refine ⟨hyphen, ?_⟩
  intro column w r r' legible' after after' same
  have kinds := kind_eq_of_colon legible legible' same
  rw [afterColon_of_inline notList notRecord,
    afterColon_of_inline (kinds ▸ notList) (kinds ▸ notRecord)] at same
  exact hyphen column legible' after.shallow after'.shallow (List.cons.inj same).2

theorem itemLines_append_inj (reads : ∀ item ∈ items, item.Reads)
    (legible' : ∀ item ∈ items', item.Legible) (after : AfterItems column r)
    (after' : AfterItems column r')
    (same : itemLines column items ++ r = itemLines column items' ++ r') :
    items = items' ∧ r = r' := by
  induction items generalizing items' with
  | nil =>
    cases items' with
    | nil => exact ⟨rfl, same⟩
    | cons item' items' =>
      rw [itemLines, itemLines, List.append_assoc, List.append_assoc] at same
      exact absurd same (after.noItem _)
  | cons item items ih =>
    cases items' with
    | nil =>
      rw [itemLines, itemLines, List.append_assoc, List.append_assoc] at same
      exact absurd same.symm (after'.noItem _)
    | cons item' items' =>
      -- behind the first value stand the other items, which are not indented as far as it is
      simp only [itemLines, List.append_assoc, List.cons_append] at same
      have value := (List.cons.inj (List.cons.inj (List.append_cancel_left same)).2).2
      obtain ⟨rfl, rest⟩ := (reads item List.mem_cons_self).hyphen column
        (legible' item' List.mem_cons_self) (after.shallow.itemLines items)
        (after'.shallow.itemLines items') value
      obtain ⟨rfl, last⟩ := ih (fun item mem => reads item (List.mem_cons_of_mem _ mem))
        (fun item mem => legible' item (List.mem_cons_of_mem _ mem)) rest
      exact ⟨rfl, last⟩

theorem fieldLines_append_inj
    (words : ∀ field ∈ fields, field.1.toList.all Char.isAlpha = true)
    (words' : ∀ field ∈ fields', field.1.toList.all Char.isAlpha = true)
    (reads : ∀ field ∈ fields, field.2.Reads) (legible' : ∀ field ∈ fields', field.2.Legible)
    (shallow : Shallow column r) (shallow' : Shallow column r')
    (same : fieldLines column fields ++ r = fieldLines column fields' ++ r') :
    fields = fields' ∧ r = r' := by
  induction fields generalizing fields' with
  | nil =>
    cases fields' with
    | nil => exact ⟨rfl, same⟩
    | cons field' fields' =>
      obtain ⟨c, x, opening, -⟩ :=
        fieldLines_eq_spaces_cons column r' (words' field' List.mem_cons_self) fields'
      exact absurd (same.trans opening) shallow.ne_spaces_cons
  | cons field fields ih =>
    cases fields' with
    | nil =>
      obtain ⟨c, x, opening, -⟩ :=
        fieldLines_eq_spaces_cons column r (words field List.mem_cons_self) fields
      exact absurd (same.symm.trans opening) shallow'.ne_spaces_cons
    | cons field' fields' =>
      obtain ⟨key, value⟩ := field
      obtain ⟨key', value'⟩ := field'
      have word := words _ List.mem_cons_self
      have word' := words' _ List.mem_cons_self
      replace words := fun field mem => words field (List.mem_cons_of_mem (key, value) mem)
      replace words' := fun field mem => words' field (List.mem_cons_of_mem (key', value') mem)
      simp only [fieldLines, List.append_assoc, List.cons_append] at same
      -- a key ends at the colon, and a list in the column of the record ends at the next key
      obtain ⟨keys, lines⟩ := Pattern.append_inj_of_stop (List.append_cancel_left same)
        (List.all_eq_true.1 word) (by simp) (List.all_eq_true.1 word') (by simp)
      obtain rfl : key = key' := String.toList_inj.1 keys
      obtain ⟨rfl, rest⟩ := (reads _ List.mem_cons_self).colon column
        (legible' _ List.mem_cons_self) (shallow.afterItems_fieldLines words)
        (shallow'.afterItems_fieldLines words') (List.cons.inj lines).2
      obtain ⟨rfl, last⟩ := ih words words'
        (fun field mem => reads field (List.mem_cons_of_mem _ mem))
        (fun field mem => legible' field (List.mem_cons_of_mem _ mem)) rest
      exact ⟨rfl, last⟩

theorem Tree.Reads.text (content : String) : (Tree.text content).Reads := by
  refine .of_inline (.text content) nofun nofun ?_
  intro column w r r' legible' shallow shallow' same
  have kinds := kind_eq_of_hyphen (.text content) legible' same
  rcases legible' with _ | _ | @⟨_ | _⟩ | @⟨_ | _⟩ <;> cases kinds
  rw [afterHyphen, afterHyphen] at same
  obtain ⟨contents, rest⟩ := scalar_append_inj (Nat.succ_pos _)
    (shallow.mono (Nat.le_succ _)) (shallow'.mono (Nat.le_succ _)) same
  exact ⟨congrArg Tree.text (String.toList_inj.1 contents), rest⟩

theorem Tree.Reads.number {value : Nat} (fits : value < UInt64.size) :
    (Tree.number value).Reads := by
  refine .of_inline (.number fits) nofun nofun ?_
  intro column w r r' legible' shallow shallow' same
  have kinds := kind_eq_of_hyphen (.number fits) legible' same
  rcases legible' with _ | _ | @⟨_ | _⟩ | @⟨_ | _⟩ <;> cases kinds
  rw [afterHyphen, afterHyphen, number_toList, number_toList, List.append_assoc,
    List.append_assoc] at same
  obtain ⟨numerals, rest⟩ := Pattern.append_inj_of_stop same (isDigit_of_mem_digits _) (by simp)
    (isDigit_of_mem_digits _) (by simp)
  have values := congrArg (Nat.ofDigitChars 10 · 0) numerals
  simp only [Nat.ofDigitChars_ten_toDigits] at values
  exact ⟨congrArg Tree.number values, (List.cons.inj rest).2⟩

theorem Tree.Reads.emptyList : (Tree.list []).Reads := by
  have legible : (Tree.list []).Legible := .list nofun
  refine .of_inline legible nofun nofun ?_
  intro column w r r' legible' shallow shallow' same
  have kinds := kind_eq_of_hyphen legible legible' same
  rcases legible' with _ | _ | @⟨_ | _⟩ | @⟨_ | _⟩ <;> cases kinds
  exact ⟨rfl, List.append_cancel_left same⟩

theorem Tree.Reads.emptyRecord : (Tree.record []).Reads := by
  have legible : (Tree.record []).Legible := .record nofun nofun
  refine .of_inline legible nofun nofun ?_
  intro column w r r' legible' shallow shallow' same
  have kinds := kind_eq_of_hyphen legible legible' same
  rcases legible' with _ | _ | @⟨_ | _⟩ | @⟨_ | _⟩ <;> cases kinds
  exact ⟨rfl, List.append_cancel_left same⟩

/-- The items of a list have the column of the list behind a hyphen, but that of the record behind a
colon. -/
theorem Tree.Reads.list (legible : ∀ item ∈ items, item.Legible)
    (reads : ∀ item ∈ items, item.Reads) : (Tree.list items).Reads := by
  cases items with
  | nil => exact emptyList
  | cons item items =>
    constructor
    · intro column w r r' legible' shallow shallow' same
      have kinds := kind_eq_of_hyphen (.list legible) legible' same
      rcases legible' with _ | _ | @⟨_ | ⟨item', items'⟩, legible'⟩ | @⟨_ | _⟩ <;> cases kinds
      have lines := congrArg (spaces (column + 2) ++ ·) same
      simp only [← List.append_assoc, ← itemLines_eq_spaces_append] at lines
      obtain ⟨same, rest⟩ := itemLines_append_inj reads legible'
        (shallow.mono (Nat.le_succ _)).afterItems (shallow'.mono (Nat.le_succ _)).afterItems lines
      exact ⟨congrArg Tree.list same, rest⟩
    · intro column w r r' legible' after after' same
      have kinds := kind_eq_of_colon (.list legible) legible' same
      rcases legible' with _ | _ | @⟨_ | ⟨item', items'⟩, legible'⟩ | @⟨_ | _⟩ <;> cases kinds
      rw [afterColon_list_cons, afterColon_list_cons] at same
      obtain ⟨same, rest⟩ := itemLines_append_inj reads legible' after after' (List.cons.inj same).2
      exact ⟨congrArg Tree.list same, rest⟩

/-- The fields of a record are indented in either case. -/
theorem Tree.Reads.record (words : ∀ field ∈ fields, field.1.toList.all Char.isAlpha = true)
    (legible : ∀ field ∈ fields, field.2.Legible) (reads : ∀ field ∈ fields, field.2.Reads) :
    (Tree.record fields).Reads := by
  cases fields with
  | nil => exact emptyRecord
  | cons field fields =>
    constructor
    · intro column w r r' legible' shallow shallow' same
      have kinds := kind_eq_of_hyphen (.record words legible) legible' same
      rcases legible' with _ | _ | @⟨_ | _⟩ | @⟨_ | ⟨field', fields'⟩, words', legible'⟩ <;>
        cases kinds
      have lines := congrArg (spaces (column + 2) ++ ·) same
      simp only [← List.append_assoc, ← fieldLines_eq_spaces_append] at lines
      obtain ⟨same, rest⟩ := fieldLines_append_inj words words' reads legible'
        (shallow.mono (Nat.le_succ _)) (shallow'.mono (Nat.le_succ _)) lines
      exact ⟨congrArg Tree.record same, rest⟩
    · intro column w r r' legible' after after' same
      have kinds := kind_eq_of_colon (.record words legible) legible' same
      rcases legible' with _ | _ | @⟨_ | _⟩ | @⟨_ | ⟨field', fields'⟩, words', legible'⟩ <;>
        cases kinds
      rw [afterColon_record_cons, afterColon_record_cons] at same
      obtain ⟨same, rest⟩ := fieldLines_append_inj words words' reads legible'
        (after.shallow.mono (Nat.le_succ _)) (after'.shallow.mono (Nat.le_succ _))
        (List.cons.inj same).2
      exact ⟨congrArg Tree.record same, rest⟩

/-- Every legible value has one reading. -/
theorem Tree.Legible.reads (legible : v.Legible) : v.Reads := by
  induction legible with
  | text content => exact .text content
  | number fits => exact .number fits
  | list legible reads => exact .list legible reads
  | record words legible reads => exact .record words legible reads

/-! ## Documents -/

theorem Tree.toList_render_of_inline (notList : v.kind ≠ .list) (notRecord : v.kind ≠ .record) :
    v.render.toList = afterHyphen 0 v := by
  rcases v with content | value | (_ | ⟨item, items⟩) | (_ | ⟨field, fields⟩)
  case list.cons => exact absurd rfl notList
  case record.cons => exact absurd rfl notRecord
  all_goals exact String.toList_ofList

/-- A document announces the kind of its value. -/
theorem announced_render (legible : v.Legible) : announced v.render.toList = v.kind := by
  obtain ⟨notList, notRecord⟩ | ⟨item, items, rfl⟩ | ⟨field, fields, rfl⟩ := v.inline_or_block
  · rw [Tree.toList_render_of_inline notList notRecord, ← List.append_nil (afterHyphen 0 v)]
    exact announced_afterHyphen legible
  · rw [Tree.render, String.toList_ofList, ← List.append_nil (itemLines 0 _)]
    exact announced_itemLines item items
  · cases legible with
    | record words legible =>
      rw [Tree.render, String.toList_ofList, ← List.append_nil (fieldLines 0 _)]
      exact announced_fieldLines (words field List.mem_cons_self) field.2 fields

/-- A document determines the tree that it was written for. -/
theorem Tree.eq_of_render (legible : v.Legible) (legible' : w.Legible)
    (same : v.render = w.render) : v = w := by
  have kinds : v.kind = w.kind := by
    rw [← announced_render legible, same, announced_render legible']
  have lines := congrArg String.toList same
  obtain ⟨notList, notRecord⟩ | ⟨item, items, rfl⟩ | ⟨field, fields, rfl⟩ := v.inline_or_block
  · rw [toList_render_of_inline notList notRecord,
      toList_render_of_inline (kinds ▸ notList) (kinds ▸ notRecord)] at lines
    exact (legible.reads.hyphen 0 legible' .nil .nil (congrArg (· ++ []) lines)).1
  -- a document begins in the first column, as no value behind a hyphen does
  · obtain _ | _ | legible | _ := legible
    rcases legible' with _ | _ | @⟨_ | ⟨item', items'⟩, legible'⟩ | @⟨_ | _⟩ <;> cases kinds
    rw [render, render, String.toList_ofList, String.toList_ofList] at lines
    have same := itemLines_append_inj (fun item mem => (legible item mem).reads) legible'
      Shallow.nil.afterItems Shallow.nil.afterItems (congrArg (· ++ []) lines)
    rw [same.1]
  · obtain _ | _ | _ | ⟨words, legible⟩ := legible
    rcases legible' with _ | _ | @⟨_ | _⟩ | @⟨_ | ⟨field', fields'⟩, words', legible'⟩ <;>
      cases kinds
    rw [render, render, String.toList_ofList, String.toList_ofList] at lines
    have same := fieldLines_append_inj words words' (fun field mem => (legible field mem).reads)
      legible' .nil .nil (congrArg (· ++ []) lines)
    rw [same.1]

end

end Yaml
end TaskScript
