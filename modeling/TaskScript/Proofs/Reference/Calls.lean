import TaskScript.Proofs.Reading.Arguments
import TaskScript.Proofs.Reference.Environment

/-!
# Calls — references to the environment, read from left to right

The last pass tries a pattern with optional parts at every `$env(`.  What it comes to can be said with
the next closing parenthesis alone: what stands up to there is looked up if its quotes, if it has any,
stand at its ends, and otherwise the search goes on right behind `$env(`.

- `Reference.isReference`   : whether a content is one that is looked up
- `Reference.scanCalls`     : the scanner
- `Reference.Parts`         : the parts that the pattern cuts a content into
- `Reference.exists_parts`  : such a content is cut into parts none of which could be longer
- `Reference.exists_content` : what the pattern matches is such a content
- `Reference.environment_scans` : the pass is the scanner, and no run of its pattern need yield
-/

namespace TaskScript
namespace Reference

open Pattern

/-! ## The scanner -/

/-- A content that is looked up: without a quote; with one quote that has nothing but white space
before it or nothing but white space behind it; or with two quotes that have nothing but white space
before the first and behind the second. -/
def isReference (content : List Char) : Bool :=
  match content.splitOn '"' with
  | [_] => true
  | [before, behind] => Text.isBlank before || Text.isBlank behind
  | [before, _, behind] => Text.isBlank before && Text.isBlank behind
  | _ => false

/-- The name in a content: what is left without quotes and without white space around it. -/
def nameIn (content : List Char) : List Char :=
  Text.trim (content.filter fun c => c != '"')

/-- The value of the name in a content, empty if there is no name or no value. -/
def lookUp (value? : String → Option String) (content : List Char) : List Char :=
  if nameIn content = [] then []
  else ((value? (String.ofList (nameIn content))).getD "").toList

/-- Go through a text from left to right.  Behind every `$env(` the content up to the next closing
parenthesis is looked up if it is one for that; otherwise the search goes on behind `$env(`. -/
def scanCalls (value? : String → Option String) : List Char → List Char
  | '$' :: 'e' :: 'n' :: 'v' :: '(' :: behind =>
    match _found : Text.splitOnce? ')' behind with
    | some (content, after) =>
      if isReference content then
        lookUp value? content ++ scanCalls value? after
      else
        environmentCall ++ scanCalls value? behind
    | none => environmentCall ++ scanCalls value? behind
  | c :: rest => c :: scanCalls value? rest
  | [] => []
termination_by text => text.length
decreasing_by
  · have whole := (Text.splitOnce?_eq_some _found).1
    rw [whole]
    simp only [List.length_cons, List.length_append]
    omega
  all_goals
    simp only [List.length_cons]
    omega

/-! ## The parts of a content -/

/-- The parts that the pattern cuts a content into. -/
structure Parts where
  /-- White space in front. -/
  front : List Char
  /-- A quote or nothing. -/
  opening : List Char
  name : List Char
  /-- A quote or nothing. -/
  closing : List Char
  /-- White space behind. -/
  back : List Char

namespace Parts

/-- The content that is cut up. -/
def content (parts : Parts) : List Char :=
  parts.front ++ (parts.opening ++ (parts.name ++ (parts.closing ++ parts.back)))

/-- The pieces of the reference as a whole. -/
def pieces (parts : Parts) : List (List Char) :=
  [['$'], ['e'], ['n'], ['v'], ['('], parts.front, parts.opening, parts.name, parts.closing,
    parts.back, [')']]

/-- Each part is of its kind. -/
structure Fit (parts : Parts) : Prop where
  front : Blanks parts.front
  opening : parts.opening = [] ∨ parts.opening = ['"']
  name : ∀ c ∈ parts.name, inEnvironmentName c = true
  closing : parts.closing = [] ∨ parts.closing = ['"']
  back : Blanks parts.back

end Parts

variable {value? : String → Option String} {content before middle behind after text rest : List Char}
  {pieces : List (List Char)} {yields : Bool}

/-! ## Quotes in a content -/

theorem splitOn_of_not_mem (absent : '"' ∉ before) (behind : List Char) :
    (before ++ '"' :: behind).splitOn '"' = before :: behind.splitOn '"' := by
  have front : before.splitOn '"' = [before] := List.splitOn_eq_singleton absent
  have cut : (before ++ '"' :: behind).splitOn '"' = before.splitOn '"' ++ behind.splitOn '"' :=
    List.splitOnP_append_cons before behind (beq_self_eq_true '"')
  rw [cut, front, List.singleton_append]

theorem isReference_of_no_quote (absent : '"' ∉ content) : isReference content = true := by
  rw [isReference, List.splitOn_eq_singleton absent]

theorem isReference_of_one_quote (absent : '"' ∉ before) (absent' : '"' ∉ behind) :
    isReference (before ++ '"' :: behind) = (Text.isBlank before || Text.isBlank behind) := by
  rw [isReference, splitOn_of_not_mem absent, List.splitOn_eq_singleton absent']

theorem isReference_of_two_quotes (absent : '"' ∉ before) (absent' : '"' ∉ middle)
    (absent'' : '"' ∉ behind) :
    isReference (before ++ '"' :: (middle ++ '"' :: behind)) =
      (Text.isBlank before && Text.isBlank behind) := by
  rw [isReference, splitOn_of_not_mem absent, splitOn_of_not_mem absent',
    List.splitOn_eq_singleton absent'']

/-- More than two quotes are too many. -/
theorem isReference_of_more_quotes (absent : '"' ∉ before) (absent' : '"' ∉ middle)
    (more : '"' ∈ behind) : isReference (before ++ '"' :: (middle ++ '"' :: behind)) = false := by
  obtain ⟨third, rest, rfl, absent''⟩ := List.eq_append_cons_of_mem more
  obtain ⟨fourth, others, cut⟩ := List.exists_cons_of_ne_nil (List.splitOn_ne_nil '"' rest)
  rw [isReference, splitOn_of_not_mem absent, splitOn_of_not_mem absent',
    splitOn_of_not_mem absent'', cut]

theorem blanks_iff : Text.isBlank content = true ↔ Blanks content :=
  List.all_eq_true

/-- What the pattern asks for; its runs may yield or keep all that they take. -/
def callSteps (yields : Bool) : List Step :=
  [Step.char '$', Step.char 'e', Step.char 'n', Step.char 'v', Step.char '(',
    .run CharClass.isBlank 0 none yields, Step.optionally '"', .run inEnvironmentName 0 none yields,
    Step.optionally '"', .run CharClass.isBlank 0 none yields, Step.char ')']

theorem environmentSteps_eq : environmentSteps = callSteps false := rfl

theorem takes_run {ok : Char → Bool} {piece : List Char} :
    (Step.run ok 0 none yields).Takes piece rest ↔ ∀ c ∈ piece, ok c = true := by
  simp [Step.Takes]

theorem ends_run {ok : Char → Bool} {piece : List Char} :
    (Step.run ok 0 none yields).Ends piece rest ↔ ∀ c ∈ rest.head?, ok c = false := by
  simp [Step.Ends]

/-- Pieces that the pattern may take are the parts of a content. -/
theorem takeAll_callSteps :
    TakeAll (callSteps yields) pieces rest ↔ ∃ parts : Parts, parts.Fit ∧ pieces = parts.pieces := by
  simp only [callSteps, takeAll_cons_iff, takeAll_nil_iff, takes_char, takes_run, takes_optionally]
  constructor
  · rintro ⟨_, _, rfl, rfl, _, _, rfl, rfl, _, _, rfl, rfl, _, _, rfl, rfl, _, _, rfl, rfl,
      front, _, rfl, isFront, opening, _, rfl, isOpening, name, _, rfl, isName, closing, _, rfl,
      isClosing, back, _, rfl, isBack, _, _, rfl, rfl, rfl⟩
    exact ⟨⟨front, opening, name, closing, back⟩,
      ⟨isFront, isOpening, isName, isClosing, isBack⟩, rfl⟩
  · rintro ⟨parts, ⟨front, opening, name, closing, back⟩, rfl⟩
    exact ⟨_, _, rfl, rfl, _, _, rfl, rfl, _, _, rfl, rfl, _, _, rfl, rfl, _, _, rfl, rfl,
      _, _, rfl, front, _, _, rfl, opening, _, _, rfl, name, _, _, rfl, closing, _, _, rfl, back,
      _, _, rfl, rfl, rfl⟩

/-- The pattern takes parts none of which could be longer. -/
theorem match?_callSteps {parts : Parts} (fit : parts.Fit)
    (ends : EndsAll (callSteps true) parts.pieces rest) (yields : Bool) :
    match? (callSteps yields) (environmentCall ++ (parts.content ++ ')' :: rest)) =
      some (parts.pieces, rest) := by
  refine match?_of_takeAll (takeAll_callSteps.2 ⟨parts, fit, rfl⟩) ?_ ?_
  · cases yields
    · exact ends
    · exact ends
  · simp [Parts.pieces, Parts.content, environmentCall]

/-! ## Contents that are looked up -/

/-- No part could be longer: where there is no quote in front of the name, there is no white space
either, and where there is none behind it, nothing is left for the white space at the end. -/
structure Parts.Tight (parts : Parts) : Prop where
  name : parts.opening = [] → ∀ c ∈ parts.name.head?, CharClass.isBlank c = false
  closing : parts.opening = [] → parts.name = [] → parts.closing = []
  back : parts.closing = [] → parts.back = []

theorem Parts.Tight.endsAll {parts : Parts} (tight : parts.Tight) (fit : parts.Fit)
    (rest : List Char) : EndsAll (callSteps true) parts.pieces rest := by
  have blankParen : CharClass.isBlank ')' = false := by decide
  have blankQuote : CharClass.isBlank '"' = false := by decide
  have nameParen : inEnvironmentName ')' = false := by decide
  have nameQuote : inEnvironmentName '"' = false := by decide
  obtain ⟨front, opening, name, closing, back⟩ := parts
  have noQuote : ∀ c ∈ name, c ≠ '"' := by
    rintro c mem rfl
    have inName := fit.name '"' mem
    rw [nameQuote] at inName
    exact Bool.false_ne_true inName
  rcases fit.closing with isClosing | isClosing <;> obtain rfl : closing = _ := isClosing
  · -- the name ends at the parenthesis
    obtain rfl : back = [] := tight.back rfl
    rcases fit.opening with isOpening | isOpening <;> obtain rfl : opening = _ := isOpening
    · cases name with
      | nil => simp [EndsAll, callSteps, pieces, ends_run, blankParen, nameParen]
      | cons c name =>
        have visible : CharClass.isBlank c = false := tight.name rfl c rfl
        have first : c ≠ '"' := noQuote c List.mem_cons_self
        simp [EndsAll, callSteps, pieces, ends_run, blankParen, nameParen, visible, first]
    · simp [EndsAll, callSteps, pieces, ends_run, blankParen, blankQuote, nameParen]
  · -- the name ends at the quote
    rcases fit.opening with isOpening | isOpening <;> obtain rfl : opening = _ := isOpening
    · cases name with
      | nil => exact absurd (tight.closing rfl rfl) (List.cons_ne_nil _ _)
      | cons c name =>
        have visible : CharClass.isBlank c = false := tight.name rfl c rfl
        have first : c ≠ '"' := noQuote c List.mem_cons_self
        simp [EndsAll, callSteps, pieces, ends_run, blankParen, nameQuote, visible, first]
    · simp [EndsAll, callSteps, pieces, ends_run, blankParen, blankQuote, nameQuote]

theorem inEnvironmentName_of_mem {part : List Char} (noQuote : '"' ∉ part) (noParen : ')' ∉ part) :
    ∀ c ∈ part, inEnvironmentName c = true := by
  intro c mem
  have notQuote : c ≠ '"' := fun same => noQuote (same ▸ mem)
  have notParen : c ≠ ')' := fun same => noParen (same ▸ mem)
  simp [inEnvironmentName, notQuote, notParen]

/-- A content that is looked up is cut into parts none of which could be longer. -/
theorem exists_parts (noParen : ')' ∉ content) (isRef : isReference content = true) :
    ∃ parts : Parts, parts.Fit ∧ parts.Tight ∧ parts.content = content := by
  -- by the number of quotes: two stand around the name, one on either side of it
  by_cases quoted : '"' ∈ content
  · obtain ⟨before, more, rfl, absent⟩ := List.eq_append_cons_of_mem quoted
    by_cases again : '"' ∈ more
    · obtain ⟨middle, behind, rfl, absent'⟩ := List.eq_append_cons_of_mem again
      simp only [List.mem_append, List.mem_cons, not_or] at noParen
      by_cases third : '"' ∈ behind
      · rw [isReference_of_more_quotes absent absent' third] at isRef
        exact nomatch isRef
      · rw [isReference_of_two_quotes absent absent' third, Bool.and_eq_true, blanks_iff,
          blanks_iff] at isRef
        refine ⟨⟨before, ['"'], middle, ['"'], behind⟩, ?_, ⟨nofun, nofun, nofun⟩, rfl⟩
        exact ⟨isRef.1, .inr rfl, inEnvironmentName_of_mem absent' noParen.2.2.1, .inr rfl, isRef.2⟩
    · simp only [List.mem_append, List.mem_cons, not_or] at noParen
      rw [isReference_of_one_quote absent again, Bool.or_eq_true, blanks_iff, blanks_iff] at isRef
      by_cases blank : Blanks before
      · -- the quote stands in front of the name
        refine ⟨⟨before, ['"'], more, [], []⟩, ?_, ⟨nofun, nofun, fun _ => rfl⟩, by
          simp [Parts.content]⟩
        exact ⟨blank, .inr rfl, inEnvironmentName_of_mem again noParen.2.2, .inl rfl, nofun⟩
      · -- it stands behind the name
        obtain ⟨front, name, isFront, visible, rfl⟩ := Text.exists_blanks_append before
        have some_ : name ≠ [] := by
          rintro rfl
          rw [List.append_nil] at blank
          exact blank isFront
        rw [List.mem_append, not_or] at absent
        simp only [List.mem_append, not_or] at noParen
        refine ⟨⟨front, [], name, ['"'], more⟩, ?_,
          ⟨fun _ => visible, fun _ none_ => absurd none_ some_, nofun⟩, by simp [Parts.content]⟩
        exact ⟨isFront, .inl rfl, inEnvironmentName_of_mem absent.2 noParen.1.2, .inr rfl,
          isRef.resolve_left blank⟩
  · obtain ⟨front, name, isFront, visible, rfl⟩ := Text.exists_blanks_append content
    rw [List.mem_append, not_or] at quoted noParen
    refine ⟨⟨front, [], name, [], []⟩, ?_, ⟨fun _ => visible, fun _ _ => rfl, fun _ => rfl⟩, by
      simp [Parts.content]⟩
    exact ⟨isFront, .inl rfl, inEnvironmentName_of_mem quoted.2 noParen.2, .inl rfl, nofun⟩

namespace Parts.Fit

variable {parts : Parts}

theorem no_quote (fit : parts.Fit) :
    '"' ∉ parts.front ∧ '"' ∉ parts.name ∧ '"' ∉ parts.back := by
  refine ⟨fun mem => ?_, fun mem => ?_, fun mem => ?_⟩
  · exact absurd (fit.front _ mem) (by decide)
  · exact absurd (fit.name _ mem) (by decide)
  · exact absurd (fit.back _ mem) (by decide)

theorem no_paren (fit : parts.Fit) : ')' ∉ parts.content := by
  simp only [content, List.mem_append, not_or]
  refine ⟨fun mem => ?_, fun mem => ?_, fun mem => ?_, fun mem => ?_, fun mem => ?_⟩
  · exact absurd (fit.front _ mem) (by decide)
  · rcases fit.opening with none_ | quote
    · simp [none_] at mem
    · simp [quote] at mem
  · exact absurd (fit.name _ mem) (by decide)
  · rcases fit.closing with none_ | quote
    · simp [none_] at mem
    · simp [quote] at mem
  · exact absurd (fit.back _ mem) (by decide)

/-- What is cut into such parts is looked up. -/
theorem isReference (fit : parts.Fit) : isReference parts.content = true := by
  obtain ⟨inFront, inName, inBack⟩ := fit.no_quote
  have before : Text.isBlank parts.front = true := blanks_iff.2 fit.front
  have behind : Text.isBlank parts.back = true := blanks_iff.2 fit.back
  rcases fit.opening with opening | opening <;> rcases fit.closing with closing | closing
  · have absent : '"' ∉ parts.content := by
      simp [content, opening, closing, inFront, inName, inBack]
    exact isReference_of_no_quote absent
  · have cut : parts.content = (parts.front ++ parts.name) ++ '"' :: parts.back := by
      simp [content, opening, closing]
    have absent : '"' ∉ parts.front ++ parts.name := by simp [inFront, inName]
    rw [cut, isReference_of_one_quote absent inBack, behind, Bool.or_true]
  · have cut : parts.content = parts.front ++ '"' :: (parts.name ++ parts.back) := by
      simp [content, opening, closing]
    have absent : '"' ∉ parts.name ++ parts.back := by simp [inName, inBack]
    rw [cut, isReference_of_one_quote inFront absent, before, Bool.true_or]
  · have cut : parts.content = parts.front ++ '"' :: (parts.name ++ '"' :: parts.back) := by
      simp [content, opening, closing]
    rw [cut, isReference_of_two_quotes inFront inName inBack, before, behind, Bool.and_true]

/-- The name is what is left without quotes and without white space around it. -/
theorem nameIn_content (fit : parts.Fit) : nameIn parts.content = Text.trim parts.name := by
  obtain ⟨inFront, inName, inBack⟩ := fit.no_quote
  have kept : ∀ part : List Char, '"' ∉ part → part.filter (fun c => c != '"') = part := by
    intro part absent
    refine List.filter_eq_self.2 fun c mem => ?_
    have other : c ≠ '"' := fun same => absent (same ▸ mem)
    simpa using other
  have dropped : ∀ part, part = [] ∨ part = ['"'] → part.filter (fun c => c != '"') = [] := by
    rintro part (rfl | rfl) <;> decide
  have left : parts.content.filter (fun c => c != '"') =
      parts.front ++ (parts.name ++ parts.back) := by
    simp only [content, List.filter_append, kept _ inFront, kept _ inName, kept _ inBack,
      dropped _ fit.opening, dropped _ fit.closing, List.nil_append]
  rw [nameIn, left, Text.trim_append_of_blanks fit.front, Text.trim_append_blanks fit.back]

end Parts.Fit

/-! ## What the pattern matches -/

/-- A content that is looked up is matched, whether runs may yield or not. -/
theorem match?_of_isReference (noParen : ')' ∉ content) (isRef : isReference content = true)
    (rest : List Char) :
    ∃ parts : Parts, parts.Fit ∧ parts.content = content ∧ ∀ yields,
      match? (callSteps yields) (environmentCall ++ (content ++ ')' :: rest)) =
        some (parts.pieces, rest) := by
  obtain ⟨parts, fit, tight, rfl⟩ := exists_parts noParen isRef
  exact ⟨parts, fit, rfl, match?_callSteps fit (tight.endsAll fit rest)⟩

/-- Only such a content is. -/
theorem exists_content (found : match? (callSteps yields) text = some (pieces, rest)) :
    ∃ content, text = environmentCall ++ (content ++ ')' :: rest) ∧ ')' ∉ content ∧
      isReference content = true := by
  obtain ⟨parts, fit, rfl⟩ := takeAll_callSteps.1 (takeAll_of_match? found)
  refine ⟨parts.content, ?_, fit.no_paren, fit.isReference⟩
  rw [← match?_eq_some found]
  simp [Parts.pieces, Parts.content, environmentCall]

/-- No run need yield: the pattern matches the same if all of them may. -/
theorem match?_callSteps_true (text : List Char) :
    match? (callSteps true) text = match? (callSteps false) text := by
  have agree : ∀ yields pieces rest, match? (callSteps yields) text = some (pieces, rest) →
      match? (callSteps !yields) text = some (pieces, rest) := by
    intro yields pieces rest found
    obtain ⟨content, rfl, noParen, isRef⟩ := exists_content found
    obtain ⟨parts, -, -, matched⟩ := match?_of_isReference noParen isRef rest
    rw [matched !yields, ← matched yields, found]
  cases found : match? (callSteps true) text with
  | some result =>
    obtain ⟨pieces, rest⟩ := result
    exact (agree true pieces rest found).symm
  | none =>
    cases found' : match? (callSteps false) text with
    | none => rfl
    | some result =>
      obtain ⟨pieces, rest⟩ := result
      have also := agree false pieces rest found'
      rw [Bool.not_false, found] at also
      exact nomatch also

/-! ## The pass -/

/-- A content that is looked up gives way to the value, together with the marks around it. -/
theorem apply_environment_content (value? : String → Option String) (noParen : ')' ∉ content)
    (isRef : isReference content = true) (rest : List Char) :
    (environment value?).apply (environmentCall ++ (content ++ ')' :: rest)) =
      lookUp value? content ++ (environment value?).apply rest := by
  obtain ⟨parts, fit, rfl, matched⟩ := match?_of_isReference noParen isRef rest
  have found := matched false
  rw [← environmentSteps_eq] at found
  rw [environment, Rule.apply_of_match? found (by simp [Parts.pieces]), lookUp, fit.nameIn_content]
  by_cases none_ : Text.trim parts.name = []
  · simp [Parts.pieces, none_]
  · simp [Parts.pieces, none_]

/-- Where nothing is looked up the pass goes on behind the marks of the reference. -/
theorem apply_environment_skip (value? : String → Option String)
    (silent : match? environmentSteps (environmentCall ++ behind) = none) :
    (environment value?).apply (environmentCall ++ behind) =
      environmentCall ++ (environment value?).apply behind := by
  have begins : environmentCall = '$' :: "env(".toList := rfl
  have noMark : '$' ∉ "env(".toList := by decide
  have refused : environment value? (environmentCall ++ behind) = none := by
    rw [environment, Rule.ofPattern, silent, Option.map_none]
  rw [begins, List.cons_append] at refused ⊢
  rw [Rule.apply_cons_of_none refused, apply_environment_append value? noMark, List.cons_append]

/-- The pattern does not match at a content that is not looked up. -/
theorem match?_of_not_isReference (noParen : ')' ∉ content) (noRef : ¬ isReference content = true)
    (rest : List Char) :
    match? environmentSteps (environmentCall ++ (content ++ ')' :: rest)) = none := by
  rw [environmentSteps_eq, Option.eq_none_iff_forall_ne_some]
  rintro ⟨pieces, after⟩ found
  obtain ⟨content', same, noParen', isRef⟩ := exists_content found
  have cut := List.append_cancel_left same
  have inside : ∀ c ∈ content, (c != ')') = true :=
    fun c mem => bne_iff_ne.2 fun isParen => noParen (isParen ▸ mem)
  have inside' : ∀ c ∈ content', (c != ')') = true :=
    fun c mem => bne_iff_ne.2 fun isParen => noParen' (isParen ▸ mem)
  have ends := append_inj_of_stop cut inside (stops_cons rfl) inside' (stops_cons rfl)
  rw [← ends.1] at isRef
  exact noRef isRef

/-- Nor does it where no parenthesis follows. -/
theorem match?_of_no_paren (noParen : ')' ∉ behind) :
    match? environmentSteps (environmentCall ++ behind) = none := by
  rw [environmentSteps_eq, Option.eq_none_iff_forall_ne_some]
  rintro ⟨pieces, after⟩ found
  obtain ⟨content, same, -, -⟩ := exists_content found
  obtain rfl := List.append_cancel_left same
  simp at noParen

/-- The scanner at a parenthesis that is closed. -/
theorem scanCalls_of_closed (value? : String → Option String)
    (found : Text.splitOnce? ')' behind = some (content, after)) :
    scanCalls value? (environmentCall ++ behind) =
      if isReference content then lookUp value? content ++ scanCalls value? after
      else environmentCall ++ scanCalls value? behind := by
  have marks : environmentCall ++ behind = '$' :: 'e' :: 'n' :: 'v' :: '(' :: behind := rfl
  rw [marks, scanCalls.eq_1]
  split
  · next found' =>
    rw [found] at found'
    obtain ⟨rfl, rfl⟩ := Prod.mk.inj (Option.some.inj found')
    rfl
  · next found' =>
    rw [found] at found'
    exact nomatch found'

/-- The scanner at a parenthesis that is not. -/
theorem scanCalls_of_open (value? : String → Option String)
    (found : Text.splitOnce? ')' behind = none) :
    scanCalls value? (environmentCall ++ behind) = environmentCall ++ scanCalls value? behind := by
  have marks : environmentCall ++ behind = '$' :: 'e' :: 'n' :: 'v' :: '(' :: behind := rfl
  rw [marks, scanCalls.eq_1]
  split
  · next found' =>
    rw [found] at found'
    exact nomatch found'
  · rfl

/-- The last pass goes through every text as the scanner does, and its pattern matches the same if its
runs may give characters back. -/
theorem environment_scans (value? : String → Option String) (text : List Char) :
    (environment value?).apply text = scanCalls value? text ∧
      match? (callSteps true) text = match? environmentSteps text := by
  refine ⟨?_, match?_callSteps_true text⟩
  -- the cases of the scanner: a call that is a reference, one that is none, an open one, and no call
  induction text using scanCalls.induct with
  | case1 behind content after found isRef ih =>
    have scanned := scanCalls_of_closed value? found
    obtain ⟨rfl, noParen⟩ := Text.splitOnce?_eq_some found
    have replaced := apply_environment_content value? noParen isRef after
    rw [if_pos isRef, ← ih] at scanned
    exact replaced.trans scanned.symm
  | case2 behind content after found noRef ih =>
    have scanned := scanCalls_of_closed value? found
    obtain ⟨rfl, noParen⟩ := Text.splitOnce?_eq_some found
    have skipped := apply_environment_skip value? (match?_of_not_isReference noParen noRef after)
    rw [if_neg noRef, ← ih] at scanned
    exact skipped.trans scanned.symm
  | case3 behind found ih =>
    have scanned := scanCalls_of_open value? found
    have skipped :=
      apply_environment_skip value? (match?_of_no_paren (Text.splitOnce?_eq_none_iff.1 found))
    rw [← ih] at scanned
    exact skipped.trans scanned.symm
  | case4 c rest other ih =>
    have silent : environment value? (c :: rest) = none := by
      rw [environment, Rule.ofPattern, Option.map_eq_none_iff, Option.eq_none_iff_forall_ne_some]
      rintro ⟨pieces, after⟩ found
      obtain ⟨behind, whole⟩ := prefix_of_match?_word found
      obtain ⟨isMark, isRest⟩ := List.cons.inj whole
      exact other behind isMark.symm isRest.symm
    rw [Rule.apply_cons_of_none silent, scanCalls.eq_2 value? c rest other, ih]
  | case5 => rw [Rule.apply_nil, scanCalls.eq_3]

end Reference
end TaskScript
