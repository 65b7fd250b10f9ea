import Mathlib.Data.List.Basic
import Mathlib.Data.List.TakeWhile
import Mathlib.Logic.ExistsUnique
import TaskScript.Proofs.Reading.Classification
import TaskScript.Proofs.Reading.Shape

/-!
# Arguments — what is read behind a keyword

Behind the keyword of a command stand two quoted texts, one, one with a tail, or anything else.  Each
remainder of a line has exactly one of these forms, and the arguments of the command are those of its
form.  An empty remainder has a form as well.

- `Line.classify_of_opens`   : a line that begins with a keyword
- `Line.Opens.inj`           : the keyword and the remainder of a line
- `Line.Remainder`           : the forms of a remainder, with their arguments
- `Line.existsUnique_fits`   : a remainder has one form
- `Line.command?_of_fits`    : the command on a line has the arguments of that form
- `Line.not_stopsAtBlankTail` : no shape fails for want of a tail
- `Line.opens_of_lone`       : a keyword with nothing behind it
-/

namespace TaskScript

namespace Text

variable {front text : List Char} {c : Char}

/-- A text of which trimming leaves nothing is white space. -/
theorem trim_eq_nil_iff : trim text = [] ↔ Blanks text := by
  constructor
  · intro gone
    have inner : Blanks (text.dropWhile CharClass.isBlank) := by
      rw [trim, trimEnd, List.reverse_eq_nil_iff, List.dropWhile_eq_nil_iff] at gone
      intro c mem
      exact gone c (List.mem_reverse.2 mem)
    intro c mem
    rw [← List.takeWhile_append_dropWhile (p := CharClass.isBlank) (l := text)] at mem
    rcases List.mem_append.1 mem with outer | rest
    · exact List.mem_takeWhile_imp outer
    · exact inner c rest
  · intro blank
    have start : trimStart text = [] := List.dropWhile_eq_nil_iff.2 blank
    rw [trim, start]
    rfl

/-- White space in front plays no part in trimming. -/
theorem trim_append_of_blanks (blank : Blanks front) (text : List Char) :
    trim (front ++ text) = trim text := by
  rw [trim, trim, trimStart, trimStart, List.dropWhile_append_of_pos blank]

/-- Nor does white space behind. -/
theorem trim_append_blanks {back : List Char} (blank : Blanks back) (text : List Char) :
    trim (text ++ back) = trim text := by
  have cut : ∀ front : List Char, trimEnd (front ++ back) = trimEnd front := by
    intro front
    have blank' : ∀ c ∈ back.reverse, CharClass.isBlank c = true :=
      fun c mem => blank c (List.mem_reverse.1 mem)
    rw [trimEnd, trimEnd, List.reverse_append, List.dropWhile_append_of_pos blank']
  by_cases blankText : Blanks text
  · have whole : Blanks (text ++ back) := List.forall_mem_append.2 ⟨blankText, blank⟩
    rw [trim_eq_nil_iff.2 whole, trim_eq_nil_iff.2 blankText]
  · -- what is visible in the text ends the white space in front
    have some_ : trimStart text ≠ [] := by
      intro gone
      exact blankText (List.dropWhile_eq_nil_iff.1 gone)
    have start : trimStart (text ++ back) = trimStart text ++ back := by
      rw [trimStart, trimStart, List.dropWhile_append]
      split
      · next none_ => exact absurd (List.isEmpty_iff.1 none_) some_
      · rfl
    rw [trim, trim, start, cut]

/-- A text is white space up to the first character that is visible. -/
theorem exists_blanks_append (text : List Char) :
    ∃ front rest, Blanks front ∧ (∀ c ∈ rest.head?, CharClass.isBlank c = false) ∧
      text = front ++ rest := by
  refine ⟨text.takeWhile CharClass.isBlank, text.dropWhile CharClass.isBlank, ?_, ?_, ?_⟩
  · intro c mem
    exact List.mem_takeWhile_imp mem
  · intro c mem
    rw [Option.mem_def] at mem
    simpa [mem] using List.head?_dropWhile_not CharClass.isBlank text
  · exact List.takeWhile_append_dropWhile.symm

/-- What is left at the end begins as the text does. -/
theorem mem_head?_of_trimEnd (mem : c ∈ (trimEnd text).head?) : c ∈ text.head? := by
  rcases trimEnd_prefix text with ⟨cut, whole⟩
  rw [← whole]
  exact List.mem_head?_append_of_mem_head? mem

end Text

namespace Line

open Pattern

variable {raw indent behind rest tail : List Char} {keyword keyword' first second : String}

/-! ## Lines that begin with a keyword -/

theorem exists_of_startsWithVar {trimmed : List Char} (h : startsWithVar trimmed = true) :
    ∃ rest, trimmed = "var".toList ++ rest ∧ ∀ c ∈ rest.head?, CharClass.isWord c = false := by
  unfold startsWithVar at h
  split at h
  · split at h
    · exact ⟨[], rfl, stops_nil⟩
    · exact ⟨_, rfl, stops_cons (CharClass.isWord_of_isBlank h)⟩
  · cases h

/-- A line that begins with another keyword than `var` is no declaration, whatever the keyword. -/
theorem startsWithVar_of_ne (isName : IsName keyword) (other : keyword ≠ Keyword.var.text)
    (stops : ∀ c ∈ behind.head?, CharClass.isWord c = false) :
    startsWithVar (keyword.toList ++ behind) = false := by
  refine Bool.eq_false_iff.2 ?_
  intro begins
  rcases exists_of_startsWithVar begins with ⟨after, same, stops'⟩
  have isVar : IsName "var" := by decide
  have words := append_inj_of_stop same isName.2 stops isVar.2 stops'
  exact other (String.toList_inj.1 words.1)

/-- A line that begins with a keyword is neither blank nor a comment. -/
theorem counts_of_keyword (blank : Blanks indent) (isName : IsName keyword) (behind : List Char) :
    Counts (indent ++ (keyword.toList ++ behind)) := by
  rw [Counts, trim_of_keyword blank isName]
  rcases List.exists_cons_of_ne_nil isName.1 with ⟨c, more, isFirst⟩
  constructor
  · simp [isFirst]
  · -- the keyword begins with a character of a word, and `#` is none
    intro comment
    have mem : '#' ∈ keyword.toList := by
      simp only [isFirst, List.cons_append, List.head?_cons, Option.some.injEq] at comment
      simp [isFirst, comment]
    exact isName.not_mem (by decide) mem

/-- In a task, a line that begins with another keyword than `var` and is no header is a command if it
has the form of one, and else it is skipped. -/
theorem classify_of_keyword (blank : Blanks indent) (isName : IsName keyword)
    (other : keyword ≠ Keyword.var.text) (stops : ∀ c ∈ behind.head?, CharClass.isWord c = false)
    (noHeader : header? (Text.trim (indent ++ (keyword.toList ++ behind))) = none) :
    classify true (indent ++ (keyword.toList ++ behind)) =
      match command? (indent ++ (keyword.toList ++ behind)) with
      | some (word, args) => command word args
      | none => skipped .unrecognized := by
  have noDeclaration : startsWithVar (Text.trim (indent ++ (keyword.toList ++ behind))) = false := by
    rw [trim_of_keyword blank isName]
    exact startsWithVar_of_ne isName other fun c mem => stops c (Text.mem_head?_of_trimEnd mem)
  rw [classify_of_counts (counts_of_keyword blank isName behind), noDeclaration, noHeader]
  rfl

theorem classify_of_opens {args : List String} (opens : Opens raw keyword rest)
    (other : keyword ≠ Keyword.var.text) (noHeader : header? (Text.trim raw) = none)
    (found : command? raw = some (keyword, args)) :
    classify true raw = command keyword args := by
  rcases opens with ⟨indent, gap, indented, isName, separates, rfl⟩
  rw [classify_of_keyword indented.2 isName other (separates.stops rest) noHeader, found]

/-- A command with another keyword than `var` has been read in one of the general shapes. -/
theorem command?_of_classify {inTask : Bool} {args : List String}
    (is : classify inTask raw = command keyword args) (other : keyword ≠ Keyword.var.text) :
    command? raw = some (keyword, args) := by
  rw [classify_of_counts (counts_of_classify is nofun)] at is
  repeat' split at is
  all_goals cases is
  · exact absurd rfl other
  · assumption

/-- A line has one keyword, and one remainder that does not begin with white space. -/
theorem Opens.inj {rest' : List Char} (opens : Opens raw keyword rest)
    (opens' : Opens raw keyword' rest')
    (stops : ∀ c ∈ rest.head?, CharClass.isBlank c = false)
    (stops' : ∀ c ∈ rest'.head?, CharClass.isBlank c = false) : keyword = keyword' ∧ rest = rest' := by
  rcases opens with ⟨indent, gap, indented, isName, separates, whole⟩
  rcases opens' with ⟨indent', gap', indented', isName', separates', whole'⟩
  -- the runs of white space and of word characters end at the same places
  have behindIndent := append_inj_of_stop (whole.symm.trans whole') indented.2 (isName.stops _)
    indented'.2 (isName'.stops _)
  have behindWord := append_inj_of_stop behindIndent.2 isName.2 (separates.stops _) isName'.2
    (separates'.stops _)
  have behindGap := append_inj_of_stop behindWord.2 separates.2 stops separates'.2 stops'
  exact ⟨String.toList_inj.1 behindWord.1, behindGap.2⟩

/-! ## The forms of a remainder -/

/-- What stands behind the keyword of a command. -/
inductive Remainder
  /-- Two quoted texts. -/
  | two (first second : String)
  /-- One quoted text. -/
  | one (first : String)
  /-- A quoted text with a tail that is something else. -/
  | tailed (first tail : String)
  /-- Anything else. -/
  | plain (text : String)
  deriving DecidableEq

/-- A text begins with a quoted text, and `behind` follows it. -/
def Quotes (first : String) (behind text : List Char) : Prop :=
  '"' ∉ first.toList ∧ text = '"' :: (first.toList ++ '"' :: behind)

/-- What follows a quoted text is another one, with white space between them and perhaps behind. -/
def QuotesAgain (second : String) (behind : List Char) : Prop :=
  ∃ between after text, IsGap between ∧ Quotes second after text ∧ Blanks after ∧
    behind = between ++ text

namespace Remainder

/-- The arguments that are read: of a quoted text with a tail there is one, with a space in it. -/
def args : Remainder → List String
  | two first second => [first, second]
  | one first => [first]
  | tailed first tail => [first ++ " " ++ String.ofList (Text.trim tail.toList)]
  | plain text => [text]

/-- A remainder has this form. -/
def Fits (rest : List Char) : Remainder → Prop
  | two first second => ∃ behind, Quotes first behind rest ∧ QuotesAgain second behind
  | one first => ∃ after, Quotes first after rest ∧ Blanks after
  | tailed first tail => Quotes first tail.toList rest ∧ ¬ Blanks tail.toList ∧
      ∀ second, ¬ QuotesAgain second tail.toList
  | plain text => rest = text.toList ∧ (rest.head? = some '"' → '"' ∉ rest.tail)

end Remainder

/-- A text begins with one quoted text only. -/
theorem Quotes.inj {behind' : List Char} (h : Quotes first behind rest)
    (h' : Quotes second behind' rest) : first = second ∧ behind = behind' := by
  rcases h with ⟨absent, rfl⟩
  rcases h' with ⟨absent', same⟩
  have ends := append_inj_of_stop (List.cons.inj same).2 (unquoted_iff.2 absent)
    (stops_cons (by decide)) (unquoted_iff.2 absent') (stops_cons (by decide))
  exact ⟨String.toList_inj.1 ends.1, (List.cons.inj ends.2).2⟩

/-- A text begins with a quoted text if it begins with a quote and there is another one. -/
theorem exists_quotes_iff :
    (∃ first behind, Quotes first behind rest) ↔ rest.head? = some '"' ∧ '"' ∈ rest.tail := by
  constructor
  · rintro ⟨first, behind, -, rfl⟩
    simp
  · rintro ⟨head, mem⟩
    rcases List.head?_eq_some_iff.1 head with ⟨more, rfl⟩
    rcases List.eq_append_cons_of_mem mem with ⟨inner, behind, split, absent⟩
    rw [List.tail_cons] at split
    refine ⟨String.ofList inner, behind, ?_, ?_⟩
    · simpa using absent
    · simp [split]

theorem QuotesAgain.inj {second' : String} (h : QuotesAgain second behind)
    (h' : QuotesAgain second' behind) : second = second' := by
  rcases h with ⟨between, after, text, separates, quotes, -, rfl⟩
  rcases h' with ⟨between', after', text', separates', quotes', -, same⟩
  have quote : ∀ c ∈ text.head?, CharClass.isBlank c = false := by
    rw [quotes.2]
    exact stops_cons (by decide)
  have quote' : ∀ c ∈ text'.head?, CharClass.isBlank c = false := by
    rw [quotes'.2]
    exact stops_cons (by decide)
  have ends := append_inj_of_stop same separates.2 quote separates'.2 quote'
  rw [ends.2] at quotes
  exact (quotes.inj quotes').1

/-- Another quoted text has white space before it. -/
theorem QuotesAgain.isBlank_head? {c : Char} (h : QuotesAgain second behind)
    (mem : c ∈ behind.head?) : CharClass.isBlank c = true := by
  rcases h with ⟨between, after, text, separates, -, -, rfl⟩
  rcases List.exists_cons_of_ne_nil separates.1 with ⟨first, more, rfl⟩
  rcases Option.some.inj mem with rfl
  exact separates.2 first List.mem_cons_self

/-- What holds another quoted text is not white space. -/
theorem QuotesAgain.not_blanks (h : QuotesAgain second behind) : ¬ Blanks behind := by
  rcases h with ⟨between, after, text, -, quotes, -, rfl⟩
  intro blank
  have isBlank := blank '"' (by simp [quotes.2])
  exact absurd isBlank (by decide)

namespace Remainder

variable {form form' : Remainder}

/-- Every remainder has one of the forms. -/
theorem exists_fits (rest : List Char) : ∃ form : Remainder, form.Fits rest := by
  by_cases quoted : ∃ first behind, Quotes first behind rest
  · rcases quoted with ⟨first, behind, quotes⟩
    by_cases again : ∃ second, QuotesAgain second behind
    · rcases again with ⟨second, again⟩
      exact ⟨.two first second, behind, quotes, again⟩
    · by_cases blank : Blanks behind
      · exact ⟨.one first, behind, quotes, blank⟩
      · refine ⟨.tailed first (String.ofList behind), ?_⟩
        simp only [Fits, String.toList_ofList]
        exact ⟨quotes, blank, fun second found => again ⟨second, found⟩⟩
  · refine ⟨.plain (String.ofList rest), by simp, ?_⟩
    intro head mem
    exact quoted (exists_quotes_iff.2 ⟨head, mem⟩)

/-- What goes on at once behind a quoted text is a tail of it. -/
theorem fits_tailed {c : Char} {joined : String} (absent : '"' ∉ first.toList)
    (begins : c ∈ joined.toList.head?) (visible : CharClass.isBlank c = false) :
    (tailed first joined).Fits ('"' :: (first.toList ++ '"' :: joined.toList)) := by
  refine ⟨⟨absent, rfl⟩, ?_, ?_⟩
  · intro blank
    have isBlank := blank c (List.mem_of_mem_head? begins)
    rw [visible] at isBlank
    cases isBlank
  · intro second again
    have isBlank := again.isBlank_head? begins
    rw [visible] at isBlank
    cases isBlank

/-- A form other than the plain one begins with a quoted text. -/
theorem Fits.quotes (fits : form.Fits rest) (quoted : ∀ text, form ≠ .plain text) :
    ∃ first behind, Quotes first behind rest := by
  cases form with
  | two first second =>
    rcases fits with ⟨behind, quotes, -⟩
    exact ⟨first, behind, quotes⟩
  | one first =>
    rcases fits with ⟨after, quotes, -⟩
    exact ⟨first, after, quotes⟩
  | tailed first tail => exact ⟨first, tail.toList, fits.1⟩
  | plain text => exact absurd rfl (quoted text)

theorem Fits.not_quotes {text : String} (fits : (plain text).Fits rest) (first : String)
    (behind : List Char) : ¬ Quotes first behind rest := by
  intro quotes
  rcases exists_quotes_iff.1 ⟨first, behind, quotes⟩ with ⟨head, mem⟩
  exact fits.2 head mem

/-- What follows the quoted text tells the forms that begin with one apart. -/
theorem Fits.unique_of_quotes (quotes : Quotes first behind rest) (fits : form.Fits rest)
    (fits' : form'.Fits rest) : form = form' := by
  cases form with
  | plain text => exact absurd quotes (fits.not_quotes first behind)
  | two _ _ | one _ | tailed _ _ =>
    cases form' with
    | plain text => exact absurd quotes (fits'.not_quotes first behind)
    | two _ _ | one _ | tailed _ _ =>
      simp only [Fits] at fits fits'
      grind [Quotes.inj, QuotesAgain.inj, QuotesAgain.not_blanks, String.toList_inj]

/-- No remainder has two forms. -/
theorem Fits.unique (fits : form.Fits rest) (fits' : form'.Fits rest) : form = form' := by
  by_cases quoted : ∃ first behind, Quotes first behind rest
  · rcases quoted with ⟨first, behind, quotes⟩
    exact fits.unique_of_quotes quotes fits'
  · -- without a quoted text only the plain form is left
    have isPlain : ∀ {form : Remainder}, form.Fits rest → form = plain (String.ofList rest) := by
      intro form fits
      cases form with
      | plain text =>
        rw [fits.1, String.ofList_toList]
      | two _ _ | one _ | tailed _ _ => exact absurd (fits.quotes nofun) quoted
    rw [isPlain fits, isPlain fits']

end Remainder

/-- A remainder has one form. -/
theorem existsUnique_fits (rest : List Char) : ∃! form : Remainder, form.Fits rest := by
  rcases Remainder.exists_fits rest with ⟨form, fits⟩
  exact ⟨form, fits, fun other fits' => fits'.unique fits⟩

/-! ## The shapes that are tried -/

section Shapes

variable {form : Remainder} (opens : Opens raw keyword rest)
  (stops : ∀ c ∈ rest.head?, CharClass.isBlank c = false)

include opens stops

theorem twoQuoted?_of_opens {args : List String} :
    twoQuoted? raw = some (keyword', args) ↔
      keyword = keyword' ∧ ∃ first second, args = [first, second] ∧
        (Remainder.two first second).Fits rest := by
  rw [twoQuoted?_eq_some_iff]
  constructor
  · rintro ⟨first, between, second, after, rfl, absent, separates, absent', blank, opens'⟩
    rcases opens.inj opens' stops (stops_cons (by decide)) with ⟨rfl, rfl⟩
    have again : QuotesAgain second (between ++ '"' :: (second.toList ++ '"' :: after)) :=
      ⟨between, after, _, separates, ⟨absent', rfl⟩, blank, rfl⟩
    exact ⟨rfl, first, second, rfl, _, ⟨absent, rfl⟩, again⟩
  · rintro ⟨rfl, first, second, rfl, behind, ⟨absent, rfl⟩, again⟩
    rcases again with ⟨between, after, text, separates, ⟨absent', rfl⟩, blank, rfl⟩
    exact ⟨first, between, second, after, rfl, absent, separates, absent', blank, opens⟩

theorem oneQuoted?_of_opens {args : List String} :
    oneQuoted? raw = some (keyword', args) ↔
      keyword = keyword' ∧ ∃ first, args = [first] ∧ (Remainder.one first).Fits rest := by
  rw [oneQuoted?_eq_some_iff]
  constructor
  · rintro ⟨first, after, rfl, absent, blank, opens'⟩
    rcases opens.inj opens' stops (stops_cons (by decide)) with ⟨rfl, rfl⟩
    exact ⟨rfl, first, rfl, after, ⟨absent, rfl⟩, blank⟩
  · rintro ⟨rfl, first, rfl, after, ⟨absent, rfl⟩, blank⟩
    exact ⟨first, after, rfl, absent, blank, opens⟩

theorem twoQuoted?_eq_none (fits : form.Fits rest)
    (other : ∀ first second, form ≠ .two first second) : twoQuoted? raw = none := by
  cases found : twoQuoted? raw with
  | none => rfl
  | some invocation =>
    rcases (twoQuoted?_of_opens opens stops).1 found with ⟨-, first, second, -, fits'⟩
    exact absurd (fits.unique fits') (other first second)

theorem oneQuoted?_eq_none (fits : form.Fits rest) (other : ∀ first, form ≠ .one first) :
    oneQuoted? raw = none := by
  cases found : oneQuoted? raw with
  | none => rfl
  | some invocation =>
    rcases (oneQuoted?_of_opens opens stops).1 found with ⟨-, first, -, fits'⟩
    exact absurd (fits.unique fits') (other first)

omit stops in
/-- A quoted text is joined with what is visible of its tail. -/
theorem quotedWithTail?_of_tailed {joined : String} (oneLine : '\n' ∉ rest)
    (fits : (Remainder.tailed first joined).Fits rest) :
    quotedWithTail? raw = some (keyword, (Remainder.tailed first joined).args) := by
  rcases opens with ⟨indent, space, indented, isName, separates, whole⟩
  rcases fits with ⟨⟨absent, same⟩, seen, -⟩
  -- white space in front of the tail is taken by the step before it
  rcases Text.exists_blanks_append joined.toList with ⟨between, tail, blank, stops, cut⟩
  have steps : [gap, name, gap] ++ quotedSteps ++ [blanks, Step.zeroOrMore inLine, Step.finish] =
      [gap, name, gap, Step.char '"', Step.zeroOrMore unquoted, Step.char '"', blanks,
        Step.zeroOrMore inLine, Step.finish] := rfl
  have inside : ∀ c ∈ tail, inLine c = true := by
    intro c mem
    simp only [inLine, bne_iff_ne]
    rintro rfl
    exact oneLine (by simp [same, cut, mem])
  have found : match? [gap, name, gap, Step.char '"', Step.zeroOrMore unquoted, Step.char '"',
      blanks, Step.zeroOrMore inLine, Step.finish] raw =
      some ([indent, keyword.toList, space, ['"'], first.toList, ['"'], between, tail, []], []) := by
    refine match?_of_takeAll ?_ ?_ (by simp [whole, same, cut])
    · simp only [TakeAll, gap, name, blanks, takes_char, takes_oneOrMore, takes_zeroOrMore,
        takes_finish, unquoted_iff, List.flatten_nil, List.nil_append, and_true, true_and]
      exact ⟨indented, isName, separates, absent, blank, inside⟩
    · simp only [EndsAll, gap, name, blanks, ends_char, ends_oneOrMore, ends_zeroOrMore,
        ends_finish, and_true, true_and, List.flatten_cons, List.flatten_nil, List.append_nil,
        List.singleton_append]
      exact ⟨isName.stops _, separates.stops _, stops_cons (by decide), stops_cons (by decide),
        stops, stops_nil⟩
  have trimmed : Text.trim joined.toList = Text.trim tail := by
    rw [cut, Text.trim_append_of_blanks blank]
  have some_ : (Text.trim tail).isEmpty = false := by
    rw [← trimmed]
    simpa [Text.trim_eq_nil_iff] using seen
  have argument : String.ofList (first.toList ++ ' ' :: Text.trim tail) =
      first ++ " " ++ String.ofList (Text.trim joined.toList) := by
    apply String.toList_injective
    simp [trimmed]
  unfold quotedWithTail?
  rw [steps, found]
  simp only [some_, String.ofList_toList, argument]
  rfl

theorem quotedWithTail?_eq_none {text : String} (fits : (Remainder.plain text).Fits rest) :
    quotedWithTail? raw = none := by
  cases found : quotedWithTail? raw with
  | none => rfl
  | some invocation =>
    rcases quotedWithTail?_eq_some found with ⟨first, between, tail, -, absent, -, opens'⟩
    rcases opens.inj opens' stops (stops_cons (by decide)) with ⟨-, same⟩
    have quotes : Quotes (String.ofList first) (between ++ tail) rest := by
      simpa [Quotes] using ⟨absent, same⟩
    exact absurd quotes (fits.not_quotes _ _)

theorem verbatim?_of_opens (oneLine : '\n' ∉ rest) :
    verbatim? raw = some (keyword, [String.ofList rest]) := by
  rcases opens with ⟨indent, space, indented, isName, separates, whole⟩
  have inside : ∀ c ∈ rest, inLine c = true := by
    intro c mem
    simp only [inLine, bne_iff_ne]
    rintro rfl
    exact oneLine mem
  have found : match? [gap, name, gap, Step.zeroOrMore inLine, Step.finish] raw =
      some ([indent, keyword.toList, space, rest, []], []) := by
    refine match?_of_takeAll ?_ ?_ (by simp [whole])
    · simp only [TakeAll, gap, name, takes_oneOrMore, takes_zeroOrMore, takes_finish,
        List.flatten_nil, List.nil_append, and_true]
      exact ⟨indented, isName, separates, inside⟩
    · simp only [EndsAll, gap, name, ends_oneOrMore, ends_zeroOrMore, ends_finish, and_true,
        List.flatten_cons, List.flatten_nil, List.append_nil]
      exact ⟨isName.stops _, separates.stops _, stops, stops_nil⟩
  unfold verbatim?
  rw [found]
  simp only [String.ofList_toList]

theorem command?_of_two (fits : (Remainder.two first second).Fits rest) :
    command? raw = some (keyword, [first, second]) := by
  have two := (twoQuoted?_of_opens opens stops).2 ⟨rfl, first, second, rfl, fits⟩
  simp only [command?, List.findSome?_cons, two]

theorem command?_of_one (fits : (Remainder.one first).Fits rest) :
    command? raw = some (keyword, [first]) := by
  have two := twoQuoted?_eq_none opens stops fits nofun
  have one := (oneQuoted?_of_opens opens stops).2 ⟨rfl, first, rfl, fits⟩
  simp only [command?, List.findSome?_cons, two, one]

/-- The command on a line has the arguments of the form that its remainder has: the shapes that are
tried before do not fit. -/
theorem command?_of_fits (oneLine : '\n' ∉ rest) (fits : form.Fits rest) :
    command? raw = some (keyword, form.args) := by
  cases form with
  | two first second => exact command?_of_two opens stops fits
  | one first => exact command?_of_one opens stops fits
  | tailed first tail =>
    have two := twoQuoted?_eq_none opens stops fits nofun
    have one := oneQuoted?_eq_none opens stops fits nofun
    have joined := quotedWithTail?_of_tailed opens oneLine fits
    simp only [command?, List.findSome?_cons, two, one, joined]
  | plain text =>
    have two := twoQuoted?_eq_none opens stops fits nofun
    have one := oneQuoted?_eq_none opens stops fits nofun
    have noTail := quotedWithTail?_eq_none opens stops fits
    have whole := verbatim?_of_opens opens stops oneLine
    rw [fits.1, String.ofList_toList] at whole
    simp only [command?, List.findSome?_cons, two, one, noTail, whole, Remainder.args]

end Shapes

/-- The arguments of every command are those of the form that its remainder has. -/
theorem exists_fits_of_command? {args : List String} (oneLine : '\n' ∉ raw)
    (found : command? raw = some (keyword, args)) :
    ∃ rest, ∃ form : Remainder, Opens raw keyword rest ∧ form.Fits rest ∧ args = form.args := by
  rcases command?_eq_some found with ⟨⟨tail, indent, gap, indented, isName, separates, rfl⟩, -⟩
  -- the remainder begins behind all of the white space
  rcases Text.exists_blanks_append tail with ⟨front, rest, blank, stops, rfl⟩
  have separates' : IsGap (gap ++ front) := by
    refine ⟨?_, List.forall_mem_append.2 ⟨separates.2, blank⟩⟩
    intro none_
    exact separates.1 (List.append_eq_nil_iff.1 none_).1
  have opens : Opens (indent ++ (keyword.toList ++ (gap ++ (front ++ rest)))) keyword rest :=
    ⟨indent, gap ++ front, indented, isName, separates', by simp⟩
  have oneLine' : '\n' ∉ rest := by
    intro mem
    exact oneLine (by simp [mem])
  rcases Remainder.exists_fits rest with ⟨form, fits⟩
  rw [command?_of_fits opens stops oneLine' fits] at found
  exact ⟨rest, form, opens, fits, (Prod.mk.inj (Option.some.inj found)).2.symm⟩

/-! ## The exit of the third shape -/

/-- A line comes to the third shape and matches its pattern, but leaves nothing visible for the
tail. -/
def StopsAtBlankTail (raw : List Char) : Prop :=
  twoQuoted? raw = none ∧ oneQuoted? raw = none ∧
    ∃ indent word space opening first closing between tail last after,
      match? ([gap, name, gap] ++ quotedSteps ++ [blanks, Step.zeroOrMore inLine, Step.finish]) raw =
        some ([indent, word, space, opening, first, closing, between, tail, last], after) ∧
      Text.trim tail = []

/-- No line does, since a quoted text with white space behind it has the second shape. -/
theorem not_stopsAtBlankTail (raw : List Char) : ¬ StopsAtBlankTail raw := by
  rintro ⟨-, one, indent, word, space, opening, first, closing, between, tail, last, after, found,
    gone⟩
  have steps : [gap, name, gap] ++ quotedSteps ++ [blanks, Step.zeroOrMore inLine, Step.finish] =
      [gap, name, gap, Step.char '"', Step.zeroOrMore unquoted, Step.char '"', blanks,
        Step.zeroOrMore inLine, Step.finish] := rfl
  rw [steps] at found
  have takes := takeAll_of_match? found
  have whole := match?_eq_some found
  simp only [TakeAll, gap, name, blanks, takes_char, takes_oneOrMore, takes_zeroOrMore,
    takes_finish, unquoted_iff, List.flatten_nil, List.nil_append] at takes
  rcases takes with ⟨indented, isWord, separates, rfl, absent, rfl, blank, -, ⟨rfl, rfl⟩, -⟩
  have blank' : Blanks (between ++ tail) :=
    List.forall_mem_append.2 ⟨blank, Text.trim_eq_nil_iff.1 gone⟩
  have opens : Opens raw (String.ofList word) ('"' :: (first ++ '"' :: (between ++ tail))) := by
    refine ⟨indent, space, indented, ?_, separates, ?_⟩
    · rwa [IsName, String.toList_ofList]
    · simp [← whole]
  have fits : oneQuoted? raw = some (String.ofList word, [String.ofList first]) := by
    refine oneQuoted?_eq_some_iff.2 ⟨String.ofList first, between ++ tail, rfl, ?_, blank', ?_⟩
    · rwa [String.toList_ofList]
    · rwa [String.toList_ofList]
  rw [one] at fits
  cases fits

/-! ## A keyword alone -/

/-- A keyword with white space around it opens a command if there is some on both sides. -/
theorem opens_of_lone (blank : Blanks indent) (isName : IsName keyword) (blank' : Blanks behind) :
    Opens (indent ++ (keyword.toList ++ behind)) keyword' rest ↔
      keyword = keyword' ∧ indent ≠ [] ∧ ∃ gap, IsGap gap ∧ behind = gap ++ rest := by
  have stops : ∀ c ∈ behind.head?, CharClass.isWord c = false := by
    simpa using blank'.stops stops_nil
  constructor
  · rintro ⟨indent', gap, indented, isName', separates, same⟩
    rcases append_inj_of_stop same blank (isName.stops _) indented.2 (isName'.stops _) with
      ⟨rfl, inner⟩
    rcases append_inj_of_stop inner isName.2 stops isName'.2 (separates.stops _) with
      ⟨word, trail⟩
    exact ⟨String.toList_inj.1 word, indented.1, gap, separates, trail⟩
  · rintro ⟨rfl, indented, gap, separates, rfl⟩
    exact ⟨indent, gap, ⟨indented, blank⟩, isName, separates, rfl⟩

/-- A keyword alone is no header, not even `task`. -/
theorem header?_of_lone (blank : Blanks indent) (isName : IsName keyword) (blank' : Blanks behind) :
    header? (Text.trim (indent ++ (keyword.toList ++ behind))) = none := by
  have left : Text.trim (indent ++ (keyword.toList ++ behind)) = keyword.toList := by
    have gone : Text.trimEnd behind = [] := by
      rw [Text.trimEnd, List.reverse_eq_nil_iff, List.dropWhile_eq_nil_iff]
      intro c mem
      exact blank' c (List.mem_reverse.1 mem)
    rw [trim_of_keyword blank isName, gone, List.append_nil]
  rw [left]
  cases found : header? keyword.toList with
  | none => rfl
  | some declared =>
    rcases header?_eq_some_iff.1 found with ⟨gap, after, rest, separates, -, -, same⟩
    -- the white space behind `task` would have to be part of the keyword
    rcases List.exists_cons_of_ne_nil separates.1 with ⟨c, more, rfl⟩
    have isBlank : CharClass.isBlank c = true := separates.2 c List.mem_cons_self
    have isWord : CharClass.isWord c = true := isName.2 c (by simp [same])
    rw [CharClass.isWord_of_isBlank isBlank] at isWord
    cases isWord

end Line

end TaskScript
