import TaskScript.Proofs.Text.Matching
import TaskScript.Script.Line

/-!
# Shape — how a line is cut up

Every form of a line that is recognised says how the line is made up: which parts are white space,
which are names, which stand between quotes.

- `IsName`, `Blanks`, `IsGap` : the parts
- `Text.trim_append`          : what trimming leaves of a line
- `Line.declaration?_eq_some_iff`, `Line.header?_eq_some_iff` : declarations and headers
- `Line.Opens`                : a keyword with white space before and behind it
- `Line.trim_of_keyword`      : what trimming leaves of a line that begins with a keyword
- `Line.twoQuoted?_eq_some_iff`, `Line.oneQuoted?_eq_some_iff` : quoted arguments
- `Line.command?_eq_some`     : commands of any shape
-/

namespace TaskScript

/-! ## Parts of a line -/

/-- A name: one word character or several. -/
def IsName (text : String) : Prop :=
  text.toList ≠ [] ∧ ∀ c ∈ text.toList, CharClass.isWord c = true

-- Lists and options are gone through, and not the characters, which are also finitely many.
instance (text : String) : Decidable (IsName text) :=
  have : Decidable (∀ c ∈ text.toList, CharClass.isWord c = true) := List.decidableBAll _ _
  inferInstanceAs (Decidable (_ ∧ _))

theorem IsName.not_mem {name : String} {c : Char} (h : IsName name)
    (other : CharClass.isWord c = false) : c ∉ name.toList := by
  intro mem
  rw [h.2 c mem] at other
  exact nomatch other

/-- White space, possibly none. -/
def Blanks (text : List Char) : Prop :=
  ∀ c ∈ text, CharClass.isBlank c = true

/-- White space that separates. -/
def IsGap (text : List Char) : Prop :=
  text ≠ [] ∧ Blanks text

instance (text : List Char) : Decidable (Blanks text) :=
  List.decidableBAll _ _

instance (text : List Char) : Decidable (IsGap text) :=
  inferInstanceAs (Decidable (_ ∧ _))

section Stops

variable {ok : Char → Bool} {front rest : List Char}

theorem stops_cons {c : Char} (outside : ok c = false) :
    ∀ d ∈ (c :: rest).head?, ok d = false := by
  rintro d ⟨⟩
  exact outside

theorem stops_nil : ∀ d ∈ ([] : List Char).head?, ok d = false := by
  rintro d ⟨⟩

/-- A run of a class ends behind characters of another class if it ends before them. -/
theorem stops_append (outside : ∀ c ∈ front, ok c = false) (stops : ∀ c ∈ rest.head?, ok c = false) :
    ∀ c ∈ (front ++ rest).head?, ok c = false := by
  cases front with
  | nil => exact stops
  | cons d front =>
    intro c mem
    obtain rfl := Option.some.inj mem
    exact outside d List.mem_cons_self

/-- No white space goes on into a name. -/
theorem IsName.stops {name : String} (h : IsName name) (rest : List Char) :
    ∀ c ∈ (name.toList ++ rest).head?, CharClass.isBlank c = false := by
  obtain ⟨first, more, same⟩ := List.exists_cons_of_ne_nil h.1
  have word := h.2
  rw [same] at word ⊢
  intro c mem
  obtain rfl := Option.some.inj mem
  exact CharClass.isBlank_of_isWord (word first List.mem_cons_self)

/-- No name goes on into white space. -/
theorem Blanks.stops (h : Blanks front) (stops : ∀ c ∈ rest.head?, CharClass.isWord c = false) :
    ∀ c ∈ (front ++ rest).head?, CharClass.isWord c = false :=
  stops_append (fun c mem => CharClass.isWord_of_isBlank (h c mem)) stops

theorem IsGap.stops (h : IsGap front) (rest : List Char) :
    ∀ c ∈ (front ++ rest).head?, CharClass.isWord c = false := by
  obtain ⟨first, more, rfl⟩ := List.exists_cons_of_ne_nil h.1
  intro c mem
  obtain rfl := Option.some.inj mem
  exact CharClass.isWord_of_isBlank (h.2 first List.mem_cons_self)

end Stops

/-! ## Trimming -/

namespace Text

variable {front indent body text : List Char}

/-- White space ends where another character stands. -/
theorem trimStart_append (blank : Blanks indent)
    (stops : ∀ c ∈ body.head?, CharClass.isBlank c = false) : trimStart (indent ++ body) = body := by
  rw [trimStart, List.dropWhile_append_of_pos blank]
  cases body with
  | nil => rfl
  | cons c body => rw [List.dropWhile_cons_of_neg (by simp [stops c rfl])]

/-- Nothing is cut off before a character that is not white space. -/
theorem trimEnd_append (last : ∃ c, front.getLast? = some c ∧ CharClass.isBlank c = false)
    (text : List Char) : trimEnd (front ++ text) = front ++ trimEnd text := by
  obtain ⟨c, isLast, visible⟩ := last
  obtain ⟨before, rfl⟩ := List.getLast?_eq_some_iff.1 isLast
  have stays : (before ++ [c]).reverse.dropWhile CharClass.isBlank = (before ++ [c]).reverse := by
    rw [List.reverse_concat, List.dropWhile_cons_of_neg (by simp [visible])]
  rw [trimEnd, trimEnd, List.reverse_append, List.dropWhile_append, stays]
  split
  · next gone => simp [List.isEmpty_iff.1 gone]
  · rw [List.reverse_append, List.reverse_reverse]

theorem trimEnd_prefix (text : List Char) : trimEnd text <+: text := by
  rw [trimEnd, ← List.reverse_suffix, List.reverse_reverse]
  exact List.dropWhile_suffix _

/-- Of a line with leading white space the rest is left if it ends visibly. -/
theorem trim_append (blank : Blanks indent)
    (stops : ∀ c ∈ body.head?, CharClass.isBlank c = false)
    (last : ∃ c, body.getLast? = some c ∧ CharClass.isBlank c = false) :
    trim (indent ++ body) = body := by
  have whole := trimEnd_append last []
  rw [List.append_nil] at whole
  rw [trim, trimStart_append blank stops, whole]
  exact List.append_nil body

/-- Nothing is cut off a text that begins and ends visibly. -/
theorem trim_eq_self (stops : ∀ c ∈ body.head?, CharClass.isBlank c = false)
    (last : ∃ c, body.getLast? = some c ∧ CharClass.isBlank c = false) : trim body = body :=
  trim_append (nofun : Blanks []) stops last

end Text

namespace Line

open Pattern

variable {trimmed raw : List Char} {keyword declared value : String} {args : List String}

theorem unquoted_iff {text : List Char} : (∀ c ∈ text, unquoted c = true) ↔ '"' ∉ text := by
  simp only [unquoted, bne_iff_ne]
  constructor
  · exact fun apart mem => apart '"' mem rfl
  · exact fun absent c mem same => absent (same ▸ mem)

/-! ## Declarations and headers -/

theorem declaration?_eq_some_iff :
    declaration? trimmed = some (declared, value) ↔
      ∃ gap before after rest, IsGap gap ∧ IsName declared ∧ Blanks before ∧ Blanks after ∧
        '"' ∉ value.toList ∧ trimmed = 'v' :: 'a' :: 'r' :: (gap ++ (declared.toList ++
          (before ++ '=' :: (after ++ '"' :: (value.toList ++ '"' :: rest))))) := by
  have steps : Pattern.word "var" ++ [gap, name, blanks, Step.char '=', blanks] ++ quotedSteps =
      [Step.char 'v', Step.char 'a', Step.char 'r', gap, name, blanks, Step.char '=', blanks,
        Step.char '"', Step.zeroOrMore unquoted, Step.char '"'] := rfl
  unfold declaration?
  rw [steps]
  constructor
  · intro h
    split at h
    · next _ _ _ between word before _ after _ quote _ rest found =>
      -- each step tells what the piece that it has taken is made of
      have takes := takeAll_of_match? found
      have whole := match?_eq_some found
      simp only [TakeAll, gap, name, blanks, takes_char, takes_oneOrMore, takes_zeroOrMore,
        unquoted_iff] at takes
      obtain ⟨rfl, rfl, rfl, separates, isWord, blank, rfl, blank', rfl, absent, rfl, -⟩ := takes
      obtain ⟨rfl, rfl⟩ := Prod.mk.inj (Option.some.inj h)
      refine ⟨between, before, after, rest, separates, ?_, blank, blank', ?_, ?_⟩
      · rwa [IsName, String.toList_ofList]
      · rwa [String.toList_ofList]
      · simp [← whole]
    · cases h
  · rintro ⟨between, before, after, rest, separates, isName, blank, blank', absent, whole⟩
    -- and no step could take more, as the next piece begins with what it does not take
    suffices found : match? [Step.char 'v', Step.char 'a', Step.char 'r', gap, name, blanks,
        Step.char '=', blanks, Step.char '"', Step.zeroOrMore unquoted, Step.char '"'] trimmed =
        some ([['v'], ['a'], ['r'], between, declared.toList, before, ['='], after, ['"'],
          value.toList, ['"']], rest) by
      simp only [found, String.ofList_toList]
    refine match?_of_takeAll ?_ ?_ (by simp [whole])
    · simp only [TakeAll, gap, name, blanks, takes_char, takes_oneOrMore, takes_zeroOrMore,
        unquoted_iff, and_true, true_and]
      exact ⟨separates, isName, blank, blank', absent⟩
    · simp only [EndsAll, gap, name, blanks, ends_char, ends_oneOrMore, ends_zeroOrMore,
        and_true, true_and, List.flatten_cons, List.append_assoc, List.singleton_append]
      exact ⟨isName.stops _, blank.stops (stops_cons (by decide)), stops_cons (by decide),
        stops_cons (by decide), stops_cons (by decide)⟩

theorem header?_eq_some_iff :
    header? trimmed = some declared ↔
      ∃ gap after rest, IsGap gap ∧ IsName declared ∧ Blanks after ∧
        trimmed = 't' :: 'a' :: 's' :: 'k' :: (gap ++ (declared.toList ++ (after ++ ':' :: rest))) := by
  have steps : Pattern.word "task" ++ [gap, name, blanks, Step.char ':'] =
      [Step.char 't', Step.char 'a', Step.char 's', Step.char 'k', gap, name, blanks,
        Step.char ':'] := rfl
  unfold header?
  rw [steps]
  constructor
  · intro h
    split at h
    · next _ _ _ _ between word after _ rest found =>
      have takes := takeAll_of_match? found
      have whole := match?_eq_some found
      simp only [TakeAll, gap, name, blanks, takes_char, takes_oneOrMore, takes_zeroOrMore] at takes
      obtain ⟨rfl, rfl, rfl, rfl, separates, isWord, blank, rfl, -⟩ := takes
      obtain rfl := Option.some.inj h
      refine ⟨between, after, rest, separates, ?_, blank, ?_⟩
      · rwa [IsName, String.toList_ofList]
      · simp [← whole]
    · cases h
  · rintro ⟨between, after, rest, separates, isName, blank, whole⟩
    suffices found : match? [Step.char 't', Step.char 'a', Step.char 's', Step.char 'k', gap, name,
        blanks, Step.char ':'] trimmed =
        some ([['t'], ['a'], ['s'], ['k'], between, declared.toList, after, [':']], rest) by
      simp only [found, String.ofList_toList]
    refine match?_of_takeAll ?_ ?_ (by simp [whole])
    · simp only [TakeAll, gap, name, blanks, takes_char, takes_oneOrMore, takes_zeroOrMore,
        and_true, true_and]
      exact ⟨separates, isName, blank⟩
    · simp only [EndsAll, gap, name, blanks, ends_char, ends_oneOrMore, ends_zeroOrMore,
        and_true, true_and, List.flatten_cons, List.append_assoc, List.singleton_append]
      exact ⟨isName.stops _, blank.stops (stops_cons (by decide)), stops_cons (by decide)⟩

/-! ## Commands -/

/-- A line with leading white space, a keyword, white space, and `rest`. -/
def Opens (raw : List Char) (keyword : String) (rest : List Char) : Prop :=
  ∃ indent gap, IsGap indent ∧ IsName keyword ∧ IsGap gap ∧
    raw = indent ++ (keyword.toList ++ (gap ++ rest))

theorem Opens.isName {rest : List Char} (h : Opens raw keyword rest) : IsName keyword := by
  obtain ⟨indent, gap, -, isName, -⟩ := h
  exact isName

/-- Trimming leaves the keyword, and what is visible behind it. -/
theorem trim_of_keyword {indent : List Char} (blank : Blanks indent) (isName : IsName keyword)
    (behind : List Char) :
    Text.trim (indent ++ (keyword.toList ++ behind)) = keyword.toList ++ Text.trimEnd behind := by
  have last : ∃ c, keyword.toList.getLast? = some c ∧ CharClass.isBlank c = false := by
    refine ⟨_, List.getLast?_eq_some_getLast isName.1, ?_⟩
    exact CharClass.isBlank_of_isWord (isName.2 _ (List.getLast_mem isName.1))
  rw [Text.trim, Text.trimStart_append blank (isName.stops behind), Text.trimEnd_append last]

/-- Behind `var` and white space a line belongs to the declarations. -/
theorem startsWithVar_of_opens {rest : List Char} (opens : Opens raw "var" rest) :
    startsWithVar (Text.trim raw) = true := by
  obtain ⟨indent, gap, indented, isName, separates, rfl⟩ := opens
  obtain ⟨first, more, rfl⟩ := List.exists_cons_of_ne_nil separates.1
  rw [trim_of_keyword indented.2 isName, List.cons_append]
  -- of the white space something is left, or nothing at all
  have left := Text.trimEnd_prefix (first :: (more ++ rest))
  cases found : Text.trimEnd (first :: (more ++ rest)) with
  | nil => rfl
  | cons c after =>
    rw [found] at left
    obtain ⟨rfl, -⟩ := List.cons_prefix_cons.1 left
    exact separates.2 c List.mem_cons_self

theorem twoQuoted?_eq_some_iff :
    twoQuoted? raw = some (keyword, args) ↔
      ∃ first between second after, args = [first, second] ∧ '"' ∉ first.toList ∧
        IsGap between ∧ '"' ∉ second.toList ∧ Blanks after ∧
          Opens raw keyword ('"' :: (first.toList ++ '"' :: (between ++
            '"' :: (second.toList ++ '"' :: after)))) := by
  have steps : [gap, name, gap] ++ quotedSteps ++ [gap] ++ quotedSteps ++ [blanks, Step.finish] =
      [gap, name, gap, Step.char '"', Step.zeroOrMore unquoted, Step.char '"', gap,
        Step.char '"', Step.zeroOrMore unquoted, Step.char '"', blanks, Step.finish] := rfl
  unfold twoQuoted?
  rw [steps]
  constructor
  · intro h
    split at h
    · next indent word space _ first _ between _ second _ after _ rest found =>
      have takes := takeAll_of_match? found
      have whole := match?_eq_some found
      simp only [TakeAll, gap, name, blanks, takes_char, takes_oneOrMore, takes_zeroOrMore,
        takes_finish, unquoted_iff, List.flatten_nil, List.nil_append] at takes
      obtain ⟨indented, isWord, separates, rfl, absent, rfl, separates', rfl, absent', rfl, blank,
        ⟨rfl, rfl⟩, -⟩ := takes
      obtain ⟨rfl, rfl⟩ := Prod.mk.inj (Option.some.inj h)
      refine ⟨String.ofList first, between, String.ofList second, after, rfl, ?_, separates', ?_,
        blank, indent, space, indented, ?_, separates, ?_⟩
      · rwa [String.toList_ofList]
      · rwa [String.toList_ofList]
      · rwa [IsName, String.toList_ofList]
      · simp [← whole]
    · cases h
  · rintro ⟨first, between, second, after, rfl, absent, separates', absent', blank, indent, space,
      indented, isName, separates, whole⟩
    suffices found : match? [gap, name, gap, Step.char '"', Step.zeroOrMore unquoted, Step.char '"',
        gap, Step.char '"', Step.zeroOrMore unquoted, Step.char '"', blanks, Step.finish] raw =
        some ([indent, keyword.toList, space, ['"'], first.toList, ['"'], between, ['"'],
          second.toList, ['"'], after, []], []) by
      simp only [found, String.ofList_toList]
    refine match?_of_takeAll ?_ ?_ (by simp [whole])
    · simp only [TakeAll, gap, name, blanks, takes_char, takes_oneOrMore, takes_zeroOrMore,
        takes_finish, unquoted_iff, List.flatten_nil, List.nil_append, and_true, true_and]
      exact ⟨indented, isName, separates, absent, separates', absent', blank⟩
    · simp only [EndsAll, gap, name, blanks, ends_char, ends_oneOrMore, ends_zeroOrMore,
        ends_finish, and_true, true_and, List.flatten_cons, List.append_assoc,
        List.singleton_append]
      exact ⟨isName.stops _, separates.stops _, stops_cons (by decide), stops_cons (by decide),
        stops_cons (by decide), stops_cons (by decide), stops_nil⟩

theorem oneQuoted?_eq_some_iff :
    oneQuoted? raw = some (keyword, args) ↔
      ∃ first after, args = [first] ∧ '"' ∉ first.toList ∧ Blanks after ∧
        Opens raw keyword ('"' :: (first.toList ++ '"' :: after)) := by
  have steps : [gap, name, gap] ++ quotedSteps ++ [blanks, Step.finish] =
      [gap, name, gap, Step.char '"', Step.zeroOrMore unquoted, Step.char '"', blanks,
        Step.finish] := rfl
  unfold oneQuoted?
  rw [steps]
  constructor
  · intro h
    split at h
    · next indent word space _ first _ after _ rest found =>
      have takes := takeAll_of_match? found
      have whole := match?_eq_some found
      simp only [TakeAll, gap, name, blanks, takes_char, takes_oneOrMore, takes_zeroOrMore,
        takes_finish, unquoted_iff, List.flatten_nil, List.nil_append] at takes
      obtain ⟨indented, isWord, separates, rfl, absent, rfl, blank, ⟨rfl, rfl⟩, -⟩ := takes
      obtain ⟨rfl, rfl⟩ := Prod.mk.inj (Option.some.inj h)
      refine ⟨String.ofList first, after, rfl, ?_, blank, indent, space, indented, ?_, separates, ?_⟩
      · rwa [String.toList_ofList]
      · rwa [IsName, String.toList_ofList]
      · simp [← whole]
    · cases h
  · rintro ⟨first, after, rfl, absent, blank, indent, space, indented, isName, separates, whole⟩
    suffices found : match? [gap, name, gap, Step.char '"', Step.zeroOrMore unquoted, Step.char '"',
        blanks, Step.finish] raw =
        some ([indent, keyword.toList, space, ['"'], first.toList, ['"'], after, []], []) by
      simp only [found, String.ofList_toList]
    refine match?_of_takeAll ?_ ?_ (by simp [whole])
    · simp only [TakeAll, gap, name, blanks, takes_char, takes_oneOrMore, takes_zeroOrMore,
        takes_finish, unquoted_iff, List.flatten_nil, List.nil_append, and_true, true_and]
      exact ⟨indented, isName, separates, absent, blank⟩
    · simp only [EndsAll, gap, name, blanks, ends_char, ends_oneOrMore, ends_zeroOrMore,
        ends_finish, and_true, true_and, List.flatten_cons, List.append_assoc,
        List.singleton_append]
      exact ⟨isName.stops _, separates.stops _, stops_cons (by decide), stops_cons (by decide),
        stops_nil⟩

theorem quotedWithTail?_eq_some (h : quotedWithTail? raw = some (keyword, args)) :
    ∃ first between tail, args = [String.ofList (first ++ ' ' :: Text.trim tail)] ∧ '"' ∉ first ∧
      Blanks between ∧ Opens raw keyword ('"' :: (first ++ '"' :: (between ++ tail))) := by
  have steps : [gap, name, gap] ++ quotedSteps ++ [blanks, Step.zeroOrMore inLine, Step.finish] =
      [gap, name, gap, Step.char '"', Step.zeroOrMore unquoted, Step.char '"', blanks,
        Step.zeroOrMore inLine, Step.finish] := rfl
  unfold quotedWithTail? at h
  rw [steps] at h
  split at h
  · next indent word space _ first _ between tail _ rest found =>
    have takes := takeAll_of_match? found
    have whole := match?_eq_some found
    simp only [TakeAll, gap, name, blanks, takes_char, takes_oneOrMore, takes_zeroOrMore,
      takes_finish, unquoted_iff, List.flatten_nil, List.nil_append] at takes
    obtain ⟨indented, isWord, separates, rfl, absent, rfl, blank, -, ⟨rfl, rfl⟩, -⟩ := takes
    dsimp only at h
    split at h
    · cases h
    · obtain ⟨rfl, rfl⟩ := Prod.mk.inj (Option.some.inj h)
      refine ⟨first, between, tail, rfl, absent, blank, indent, space, indented, ?_, separates, ?_⟩
      · rwa [IsName, String.toList_ofList]
      · simp [← whole]
  · cases h

theorem verbatim?_eq_some (h : verbatim? raw = some (keyword, args)) :
    ∃ rest, args = [String.ofList rest] ∧ Opens raw keyword rest := by
  unfold verbatim? at h
  split at h
  · next indent word space tail _ rest found =>
    have takes := takeAll_of_match? found
    have whole := match?_eq_some found
    simp only [TakeAll, gap, name, takes_oneOrMore, takes_zeroOrMore, takes_finish,
      List.flatten_nil, List.nil_append] at takes
    obtain ⟨indented, isWord, separates, -, ⟨rfl, rfl⟩, -⟩ := takes
    obtain ⟨rfl, rfl⟩ := Prod.mk.inj (Option.some.inj h)
    refine ⟨tail, rfl, indent, space, indented, ?_, separates, ?_⟩
    · rwa [IsName, String.toList_ofList]
    · simp [← whole]
  · cases h

/-- A command has a keyword, and one argument or two without quotes. -/
theorem command?_eq_some (h : command? raw = some (keyword, args)) :
    (∃ rest, Opens raw keyword rest) ∧
      ((∃ arg, args = [arg]) ∨
        ∃ first second, args = [first, second] ∧ '"' ∉ first.toList ∧ '"' ∉ second.toList) := by
  obtain ⟨shape, mem, fits⟩ := List.exists_of_findSome?_eq_some h
  simp only [List.mem_cons, List.not_mem_nil, or_false] at mem
  rcases mem with rfl | rfl | rfl | rfl
  · obtain ⟨first, _, second, _, rfl, absent, -, absent', -, opens⟩ := twoQuoted?_eq_some_iff.1 fits
    exact ⟨⟨_, opens⟩, .inr ⟨first, second, rfl, absent, absent'⟩⟩
  · obtain ⟨first, _, rfl, -, -, opens⟩ := oneQuoted?_eq_some_iff.1 fits
    exact ⟨⟨_, opens⟩, .inl ⟨first, rfl⟩⟩
  · obtain ⟨_, _, _, rfl, -, -, opens⟩ := quotedWithTail?_eq_some fits
    exact ⟨⟨_, opens⟩, .inl ⟨_, rfl⟩⟩
  · obtain ⟨_, rfl, opens⟩ := verbatim?_eq_some fits
    exact ⟨⟨_, opens⟩, .inl ⟨_, rfl⟩⟩

end Line
end TaskScript
