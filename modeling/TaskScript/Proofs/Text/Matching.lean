import TaskScript.Text.Pattern

/-!
# Matching — what the pieces of a match are, and where a pattern matches

`Pattern.match?` tries one length after the other.  What it comes to can be said without that:

- `Pattern.TakeAll`           : pieces that the steps may take one after the other
- `Pattern.takeAll_of_match?` : the pieces of a match are such pieces
- `Pattern.prefix_of_match?_word` : a match begins with the word that the pattern begins with
- `Pattern.EndsAll`           : pieces none of which could be longer
- `Pattern.match?_of_takeAll` : such pieces are matched, at the first attempt
- `Pattern.match?_append_of_stop` : in front of a character that stops all of its steps a pattern does
  not depend on what stands behind

A pattern is therefore known to match a text once the text has been cut up, and known not to match it
once the text cannot be cut up.
-/

namespace TaskScript
namespace Pattern

variable {ok : Char → Bool} {c d : Char} {piece after rest : List Char} {step : Step}
  {steps : List Step} {text : List Char} {pieces : List (List Char)}

/-! ## Pieces that may be taken -/

/-- Pieces that the steps may take one after the other, with `rest` left over. -/
def TakeAll : List Step → List (List Char) → List Char → Prop
  | [], [], _ => True
  | step :: steps, piece :: pieces, rest =>
    step.Takes piece (pieces.flatten ++ rest) ∧ TakeAll steps pieces rest
  | _, _, _ => False

theorem takeAll_nil_iff : TakeAll [] pieces rest ↔ pieces = [] := by
  cases pieces <;> simp [TakeAll]

/-- The first piece is for the first step. -/
theorem takeAll_cons_iff :
    TakeAll (step :: steps) pieces rest ↔
      ∃ piece more, pieces = piece :: more ∧ step.Takes piece (more.flatten ++ rest) ∧
        TakeAll steps more rest := by
  constructor
  · intro takes
    cases pieces with
    | nil => exact takes.elim
    | cons piece more => exact ⟨piece, more, rfl, takes⟩
  · rintro ⟨piece, more, rfl, takes⟩
    exact takes

/-- The pieces of a match are pieces that the steps may take. -/
theorem takeAll_of_match? (h : match? steps text = some (pieces, rest)) :
    TakeAll steps pieces rest := by
  induction steps generalizing text pieces rest with
  | nil =>
    simp only [match?, Option.some.injEq, Prod.mk.injEq] at h
    obtain ⟨rfl, rfl⟩ := h
    trivial
  | cons step steps ih =>
    obtain ⟨piece, after, found, last, hm, rfl, he, takes⟩ := match?_cons_eq_some h
    obtain ⟨rfl, rfl⟩ := Prod.mk.inj he
    rw [← match?_eq_some hm] at takes
    exact ⟨takes, ih hm⟩

@[simp] theorem takes_char : (Step.char c).Takes piece after ↔ piece = [c] := by
  simp only [Step.Takes, Step.char, beq_iff_eq, Option.mem_def, Option.some.injEq, forall_eq']
  constructor
  · rintro ⟨same, least, most⟩
    obtain ⟨d, rfl⟩ := List.length_eq_one_iff.1 (Nat.le_antisymm most least)
    rw [same d List.mem_cons_self]
  · rintro rfl
    simp

@[simp] theorem takes_optionally :
    (Step.optionally c).Takes piece after ↔ piece = [] ∨ piece = [c] := by
  simp only [Step.Takes, Step.optionally, beq_iff_eq, Option.mem_def, Option.some.injEq,
    forall_eq', Nat.zero_le, true_and]
  constructor
  · rintro ⟨same, most⟩
    cases piece with
    | nil => exact .inl rfl
    | cons d piece =>
      obtain rfl : piece = [] := List.eq_nil_of_length_eq_zero (by simpa using most)
      exact .inr (by rw [same d List.mem_cons_self])
  · rintro (rfl | rfl) <;> simp

@[simp] theorem takes_zeroOrMore :
    (Step.zeroOrMore ok).Takes piece after ↔ ∀ d ∈ piece, ok d = true := by
  simp [Step.Takes, Step.zeroOrMore]

@[simp] theorem takes_oneOrMore :
    (Step.oneOrMore ok).Takes piece after ↔ piece ≠ [] ∧ ∀ d ∈ piece, ok d = true := by
  simp [Step.Takes, Step.oneOrMore, Nat.succ_le_iff, List.length_pos_iff, and_comm]

@[simp] theorem takes_all :
    (Step.all ok).Takes piece after ↔ ∀ d ∈ piece, ok d = true := by
  simp [Step.Takes, Step.all]

@[simp] theorem takes_finish : Step.finish.Takes piece after ↔ piece = [] ∧ after = [] :=
  Iff.rfl

/-- What a pattern matches begins with the word that the pattern begins with. -/
theorem prefix_of_match?_word {word : String}
    (h : match? (Pattern.word word ++ steps) text = some (pieces, rest)) :
    word.toList <+: text := by
  unfold Pattern.word at h
  generalize word.toList = marks at h ⊢
  induction marks generalizing text pieces rest with
  | nil => exact List.nil_prefix
  | cons c marks ih =>
    obtain ⟨piece, after, found, last, hm, rfl, -, takes⟩ := match?_cons_eq_some h
    obtain rfl := takes_char.1 takes
    exact List.cons_prefix_cons.2 ⟨rfl, ih hm⟩

/-! ## Pieces that are taken -/

/-- A piece that could not be longer: it has the greatest length, or what follows begins with no
character of the class. -/
def Step.Ends : Step → List Char → List Char → Prop
  | .run ok _ most _, piece, after => most = some piece.length ∨ ∀ d ∈ after.head?, ok d = false
  | .finish, _, _ => True

/-- Pieces none of which could be longer, with `rest` left over. -/
def EndsAll : List Step → List (List Char) → List Char → Prop
  | [], _, _ => True
  | step :: steps, piece :: pieces, rest =>
    step.Ends piece (pieces.flatten ++ rest) ∧ EndsAll steps pieces rest
  | _ :: _, [], _ => False

/-- A run of a class ends where a character of another class stands. -/
theorem takeWhile_append_of_stop (all : ∀ d ∈ piece, ok d = true)
    (stop : ∀ d ∈ after.head?, ok d = false) : (piece ++ after).takeWhile ok = piece := by
  rw [List.takeWhile_append_of_pos all]
  cases after with
  | nil => simp
  | cons d after => simp [stop d rfl]

/-- A run of a class has one end only. -/
theorem append_inj_of_stop {piece' after' : List Char} (same : piece ++ after = piece' ++ after')
    (all : ∀ d ∈ piece, ok d = true) (stop : ∀ d ∈ after.head?, ok d = false)
    (all' : ∀ d ∈ piece', ok d = true) (stop' : ∀ d ∈ after'.head?, ok d = false) :
    piece = piece' ∧ after = after' := by
  have runs : piece = piece' := by
    rw [← takeWhile_append_of_stop all stop, same, takeWhile_append_of_stop all' stop']
  subst runs
  exact ⟨rfl, List.append_cancel_left same⟩

/-- A run takes a piece that could not be longer. -/
theorem longest_append {least : Nat} {most : Option Nat} {yields : Bool}
    (takes : (Step.run ok least most yields).Takes piece after)
    (ends : (Step.run ok least most yields).Ends piece after) :
    Step.longest ok most (piece ++ after) = piece := by
  obtain ⟨all, -, short⟩ := takes
  cases most with
  | none => exact takeWhile_append_of_stop all (ends.resolve_left nofun)
  | some bound =>
    have cut : (piece ++ after).take bound = piece ++ after.take (bound - piece.length) := by
      rw [List.take_append, List.take_of_length_le (short bound rfl)]
    rw [Step.longest, cut]
    refine takeWhile_append_of_stop all ?_
    rcases ends with full | stop
    · simp [← Option.some.inj full]
    · intro d mem
      refine stop d ?_
      rw [List.head?_take] at mem
      split at mem
      · exact nomatch mem
      · exact mem

/-- A step takes a piece that could not be longer if the steps after it can do with the rest. -/
theorem match?_cons_of_takes (takes : step.Takes piece after) (ends : step.Ends piece after)
    (found : match? steps after = some (pieces, rest)) :
    match? (step :: steps) (piece ++ after) = some (piece :: pieces, rest) := by
  cases step with
  | run ok least most yields =>
    have long : ¬ piece.length < least := Nat.not_lt.2 takes.2.1
    simp only [match?, longest_append takes ends, if_neg long, List.drop_left,
      giveBack_of_eq_some found, Option.map_some, List.reverse_reverse]
  | finish =>
    obtain ⟨rfl, rfl⟩ := takes
    simp [match?, found]

/-- Where a text can be cut into pieces that could not be longer, it is. -/
theorem match?_of_takeAll (takes : TakeAll steps pieces rest) (ends : EndsAll steps pieces rest)
    (whole : pieces.flatten ++ rest = text) : match? steps text = some (pieces, rest) := by
  induction steps generalizing pieces text with
  | nil =>
    cases pieces with
    | nil =>
      obtain rfl := whole
      rfl
    | cons piece pieces => exact takes.elim
  | cons step steps ih =>
    cases pieces with
    | nil => exact takes.elim
    | cons piece pieces =>
      rw [← whole, List.flatten_cons, List.append_assoc]
      exact match?_cons_of_takes takes.1 ends.1 (ih takes.2 ends.2 rfl)

@[simp] theorem ends_char : (Step.char c).Ends [d] after := .inl rfl

@[simp] theorem ends_zeroOrMore :
    (Step.zeroOrMore ok).Ends piece after ↔ ∀ d ∈ after.head?, ok d = false := by
  simp [Step.Ends, Step.zeroOrMore]

@[simp] theorem ends_oneOrMore :
    (Step.oneOrMore ok).Ends piece after ↔ ∀ d ∈ after.head?, ok d = false := by
  simp [Step.Ends, Step.oneOrMore]

@[simp] theorem ends_all :
    (Step.all ok).Ends piece after ↔ ∀ d ∈ after.head?, ok d = false := by
  simp [Step.Ends, Step.all]

@[simp] theorem ends_optionally : (Step.optionally c).Ends [d] after := .inl rfl

/-- Where a character may be left out, it is if another one stands there. -/
@[simp] theorem ends_optionally_nil :
    (Step.optionally c).Ends [] after ↔ ∀ d ∈ after.head?, d ≠ c := by
  simp [Step.Ends, Step.optionally]

@[simp] theorem ends_finish : Step.finish.Ends piece after := trivial

/-! ## Characters that a pattern does not go across -/

/-- A step that a character stops: no run of it goes across the character, and it does not wait for
the end of the text either. -/
def Step.StopsAt (c : Char) : Step → Prop
  | .run ok _ _ _ => ok c = false
  | .finish => False

/-- A run in front of a character that stops it takes the same with and without what stands
behind. -/
theorem longest_append_of_stop {most : Option Nat} (stop : ok c = false) (front behind : List Char) :
    Step.longest ok most (front ++ c :: behind) = Step.longest ok most front := by
  cases most with
  | none =>
    induction front with
    | nil => simp [Step.longest, stop]
    | cons d front ih =>
      simp only [Step.longest, List.cons_append, List.takeWhile_cons] at ih ⊢
      rw [ih]
  | some bound =>
    induction front generalizing bound with
    | nil => cases bound <;> simp [Step.longest, stop]
    | cons d front ih =>
      cases bound with
      | zero => simp [Step.longest]
      | succ bound =>
        have inner := ih bound
        simp only [Step.longest, List.cons_append, List.take_succ_cons, List.takeWhile_cons]
          at inner ⊢
        rw [inner]

/-- Giving back does not depend on what stands behind if the steps that follow do not. -/
theorem giveBack_append {next : List Char → Option (List (List Char) × List Char)}
    {behind : List Char}
    (same : ∀ rest, next (rest ++ behind) = (next rest).map fun found =>
      (found.1, found.2 ++ behind))
    (spare : Nat) (taken rest : List Char) :
    giveBack next spare taken (rest ++ behind) =
      (giveBack next spare taken rest).map fun found =>
        (found.1, found.2.1, found.2.2 ++ behind) := by
  induction spare, taken, rest using giveBack.induct next with
  | case1 taken rest => cases found : next rest <;> simp [giveBack, same, found]
  | case2 spare rest _ => cases spare <;> cases found : next rest <;> simp [giveBack, same, found]
  | case3 spare d taken rest found is => simp [giveBack, same, is]
  | case4 spare d taken rest none_ ih =>
    have moved := ih
    rw [List.cons_append] at moved
    simp [giveBack, same, none_, moved]

/-- A pattern all of whose steps are stopped by a character matches in front of it what it matches
without it. -/
theorem match?_append_of_stop (stops : ∀ step ∈ steps, step.StopsAt c) (text behind : List Char) :
    match? steps (text ++ c :: behind) =
      (match? steps text).map fun found => (found.1, found.2 ++ c :: behind) := by
  induction steps generalizing text with
  | nil => simp [match?]
  | cons step steps ih =>
    have later := ih fun step mem => stops step (List.mem_cons_of_mem _ mem)
    have here := stops step List.mem_cons_self
    cases step with
    | finish => exact here.elim
    | run ok least most yields =>
      have stop : ok c = false := here
      have short : (Step.longest ok most text).length ≤ text.length := by
        have whole := congrArg List.length (Step.longest_append_drop ok most text)
        rw [List.length_append] at whole
        omega
      simp only [match?, longest_append_of_stop stop, List.drop_append_of_le_length short,
        giveBack_append later]
      split
      · rfl
      · simp [Option.map_map, Function.comp_def]

/-- A pattern that begins with a character goes on behind it. -/
theorem match?_char_cons (steps : List Step) (c : Char) (text : List Char) :
    match? (Step.char c :: steps) (c :: text) =
      (match? steps text).map fun found => ([c] :: found.1, found.2) := by
  cases found : match? steps text <;> simp [match?, Step.char, Step.longest, giveBack, found]

end Pattern
end TaskScript
