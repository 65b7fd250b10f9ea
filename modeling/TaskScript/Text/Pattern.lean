/-!
# Pattern — greedy patterns over runs of characters, and what replaces their matches

A pattern is a list of steps.  A step takes a run of characters of one class, or asks that the text
has ended.  Each step takes as much as it can; when the steps after it fail it gives back one
character at a time, if it yields at all.

- `Step`          : one run of characters, with its least and greatest length
- `Step.longest`  : the most that a run takes of a text
- `giveBack`      : what remains of a run once the steps after it have what they need
- `match?`        : what each step takes, and the text that is left over

The lemma `match?_eq_some` says that the pieces taken and the rest make up the text.

- `Rule`        : what to write for the text that starts here, and how many characters that covers
- `Rule.apply`  : one pass from left to right; text that a rule wrote is not looked at again
- `Rule.ofPattern` : the rule that replaces the matches of a pattern
-/

namespace TaskScript
namespace Pattern

/-- One step of a pattern. -/
inductive Step
  /-- A run of characters of a class, at least `least` and, if `most` is given, at most `most`.  A
  run that does not yield keeps all that it took. -/
  | run (ok : Char → Bool) (least : Nat) (most : Option Nat) (yields : Bool)
  /-- The end of the text. -/
  | finish

namespace Step

/-- Exactly this character. -/
def char (c : Char) : Step := run (fun d => d == c) 1 (some 1) true

/-- This character or nothing. -/
def optionally (c : Char) : Step := run (fun d => d == c) 0 (some 1) true

/-- Any number of characters of a class. -/
def zeroOrMore (ok : Char → Bool) : Step := run ok 0 none true

/-- All characters of a class that there are. -/
def all (ok : Char → Bool) : Step := run ok 0 none false

/-- At least one character of a class. -/
def oneOrMore (ok : Char → Bool) : Step := run ok 1 none true

/-- The longest run of a class at the start of a text, of at most `most` characters. -/
def longest (ok : Char → Bool) (most : Option Nat) (text : List Char) : List Char :=
  match most with
  | some bound => (text.take bound).takeWhile ok
  | none => text.takeWhile ok

/-- A longest run and what follows it are the text. -/
theorem longest_append_drop (ok : Char → Bool) (most : Option Nat) (text : List Char) :
    longest ok most text ++ text.drop (longest ok most text).length = text := by
  have h : longest ok most text <+: text := by
    cases most with
    | none => exact List.takeWhile_prefix ok
    | some bound => exact (List.takeWhile_prefix ok).trans (List.take_prefix bound text)
  exact List.prefix_iff_eq_append.1 h

theorem ok_of_mem_longest {ok : Char → Bool} {most : Option Nat} {text : List Char} {c : Char}
    (mem : c ∈ longest ok most text) : ok c = true := by
  cases most <;> exact List.all_eq_true.1 List.all_takeWhile c mem

theorem length_longest_le {ok : Char → Bool} {most : Option Nat} {text : List Char} {bound : Nat}
    (is : bound ∈ most) : (longest ok most text).length ≤ bound := by
  obtain rfl := Option.mem_def.1 is
  exact Nat.le_trans (List.takeWhile_prefix ok).length_le (List.length_take_le bound text)

/-- A step may take a piece and leave to the steps after it what follows. -/
def Takes : Step → List Char → List Char → Prop
  | run ok least most _, piece, _ =>
    (∀ c ∈ piece, ok c = true) ∧ least ≤ piece.length ∧ ∀ bound ∈ most, piece.length ≤ bound
  | finish, piece, after => piece = [] ∧ after = []

end Step

/-- The steps that take the characters of a word one after the other. -/
def word (text : String) : List Step :=
  text.toList.map Step.char

/-- Leave `rest` to `next`.  When that fails, hand the last character of the run over to `rest` and
ask again, at most `spare` times.  The run is given last character first. -/
def giveBack {α : Type} (next : List Char → Option α) :
    Nat → List Char → List Char → Option (List Char × α)
  | 0, taken, rest => (next rest).map fun found => (taken.reverse, found)
  | _, [], rest => (next rest).map fun found => ([], found)
  | spare + 1, c :: taken, rest =>
    match next rest with
    | some found => some ((c :: taken).reverse, found)
    | none => giveBack next spare taken (c :: rest)

/-- Giving back moves characters from the run to the rest and loses none. -/
theorem giveBack_eq_some {α : Type} {next : List Char → Option α} {spare : Nat}
    {taken rest piece : List Char} {found : α}
    (h : giveBack next spare taken rest = some (piece, found)) :
    ∃ after, next after = some found ∧ piece ++ after = taken.reverse ++ rest := by
  induction spare, taken, rest using giveBack.induct next with
  | case1 taken rest =>
    simp only [giveBack, Option.map_eq_some_iff, Prod.mk.injEq] at h
    obtain ⟨a, ha, rfl, rfl⟩ := h
    exact ⟨rest, ha, rfl⟩
  | case2 spare rest _ =>
    cases spare <;> simp only [giveBack, Option.map_eq_some_iff, Prod.mk.injEq] at h <;>
    · obtain ⟨a, ha, rfl, rfl⟩ := h
      exact ⟨rest, ha, rfl⟩
  | case3 spare c taken rest a ha =>
    simp only [giveBack, ha, Option.some.injEq, Prod.mk.injEq] at h
    obtain ⟨rfl, rfl⟩ := h
    exact ⟨rest, ha, rfl⟩
  | case4 spare c taken rest ha ih =>
    simp only [giveBack, ha] at h
    obtain ⟨after, hn, he⟩ := ih h
    exact ⟨after, hn, by simp [he]⟩

/-- Giving back leaves a run its beginning, and all of it but what may be spared. -/
theorem prefix_of_giveBack_eq_some {α : Type} {next : List Char → Option α} {spare : Nat}
    {taken rest piece : List Char} {found : α}
    (h : giveBack next spare taken rest = some (piece, found)) :
    piece <+: taken.reverse ∧ taken.length ≤ piece.length + spare := by
  induction spare, taken, rest using giveBack.induct next with
  | case1 taken rest =>
    simp only [giveBack, Option.map_eq_some_iff, Prod.mk.injEq] at h
    obtain ⟨a, ha, rfl, rfl⟩ := h
    simp
  | case2 spare rest _ =>
    cases spare <;> simp only [giveBack, Option.map_eq_some_iff, Prod.mk.injEq] at h <;>
    · obtain ⟨a, ha, rfl, rfl⟩ := h
      simp
  | case3 spare c taken rest a ha =>
    simp only [giveBack, ha, Option.some.injEq, Prod.mk.injEq] at h
    obtain ⟨rfl, rfl⟩ := h
    simp
  | case4 spare c taken rest ha ih =>
    simp only [giveBack, ha] at h
    obtain ⟨shorter, spared⟩ := ih h
    constructor
    · rw [List.reverse_cons]
      exact shorter.trans (List.prefix_append _ _)
    · rw [List.length_cons]
      omega

/-- What a run gives is what is left to the steps after it, if these can do with it. -/
theorem giveBack_of_eq_some {α : Type} {next : List Char → Option α} {rest : List Char} {found : α}
    (h : next rest = some found) (spare : Nat) (taken : List Char) :
    giveBack next spare taken rest = some (taken.reverse, found) := by
  cases spare <;> cases taken <;> simp [giveBack, h]

/-- Match a pattern at the start of a text: the piece that each step takes, and the rest. -/
def match? : List Step → List Char → Option (List (List Char) × List Char)
  | [], text => some ([], text)
  | .run ok least most yields :: steps, text =>
    let taken := Step.longest ok most text
    if taken.length < least then none
    else
      let spare := if yields then taken.length - least else 0
      (giveBack (match? steps) spare taken.reverse (text.drop taken.length)).map
        fun (piece, pieces, rest) => (piece :: pieces, rest)
  | .finish :: steps, text =>
    if text.isEmpty then (match? steps text).map fun (pieces, rest) => ([] :: pieces, rest)
    else none

/-- The first piece of a match, and the match of the steps after it. -/
theorem match?_cons_eq_some {step : Step} {steps : List Step} {text : List Char}
    {found : List (List Char) × List Char} (h : match? (step :: steps) text = some found) :
    ∃ piece after pieces rest, match? steps after = some (pieces, rest) ∧
      piece ++ after = text ∧ found = (piece :: pieces, rest) ∧ step.Takes piece after := by
  cases step with
  | run ok least most yields =>
    simp only [match?] at h
    split at h
    · exact absurd h (by simp)
    · next long =>
      obtain ⟨⟨piece, pieces, rest⟩, hg, rfl⟩ := Option.map_eq_some_iff.1 h
      obtain ⟨after, hm, he⟩ := giveBack_eq_some hg
      obtain ⟨shorter, spared⟩ := prefix_of_giveBack_eq_some hg
      rw [List.reverse_reverse] at he shorter
      rw [List.length_reverse] at spared
      refine ⟨piece, after, pieces, rest, hm, by rw [he, Step.longest_append_drop], rfl, ?_, ?_, ?_⟩
      · exact fun c mem => Step.ok_of_mem_longest (shorter.subset mem)
      · split at spared <;> omega
      · exact fun bound is => Nat.le_trans shorter.length_le (Step.length_longest_le is)
  | finish =>
    simp only [match?] at h
    split at h
    · next ended =>
      obtain ⟨⟨pieces, rest⟩, hm, rfl⟩ := Option.map_eq_some_iff.1 h
      exact ⟨[], text, pieces, rest, hm, rfl, rfl, rfl, List.isEmpty_iff.1 ended⟩
    · exact absurd h (by simp)

/-- The pieces and the rest are the text. -/
theorem match?_eq_some {steps : List Step} {text : List Char} {pieces : List (List Char)}
    {rest : List Char} (h : match? steps text = some (pieces, rest)) :
    pieces.flatten ++ rest = text := by
  induction steps generalizing text pieces rest with
  | nil =>
    simp only [match?, Option.some.injEq, Prod.mk.injEq] at h
    obtain ⟨rfl, rfl⟩ := h
    simp
  | cons step steps ih =>
    obtain ⟨piece, after, found, last, hm, rfl, he, -⟩ := match?_cons_eq_some h
    obtain ⟨rfl, rfl⟩ := Prod.mk.inj he
    simp [ih hm]

end Pattern

/-! ## Rules -/

/-- A rule looks at the text from some position on.  If it applies it gives the text to write and
the number of characters, at least one, that this stands for. -/
abbrev Rule := List Char → Option (List Char × Nat)

namespace Rule

/-- Apply a rule from left to right, after passing over `skip` characters already replaced. -/
def applyFrom (rule : Rule) : Nat → List Char → List Char
  | _, [] => []
  | skip + 1, _ :: rest => applyFrom rule skip rest
  | 0, c :: rest =>
    match rule (c :: rest) with
    | none => c :: applyFrom rule 0 rest
    | some (written, covered) => written ++ applyFrom rule (covered - 1) rest

/-- Apply a rule from left to right. -/
def apply (rule : Rule) (text : List Char) : List Char :=
  applyFrom rule 0 text

/-- The rule that replaces each match of a pattern by what `write` makes of its pieces. -/
def ofPattern (steps : List Pattern.Step) (write : List (List Char) → List Char) : Rule :=
  fun text => (Pattern.match? steps text).map fun found =>
    (write found.1, found.1.flatten.length)

/-! ## Small laws -/

theorem applyFrom_eq_apply_drop (rule : Rule) (skip : Nat) (text : List Char) :
    applyFrom rule skip text = apply rule (text.drop skip) := by
  induction text generalizing skip with
  | nil => cases skip <;> simp [applyFrom, apply]
  | cons c rest ih =>
    cases skip with
    | zero => simp [apply]
    | succ n => simp [applyFrom, ih]

@[simp] theorem apply_nil (rule : Rule) : apply rule [] = [] := by
  simp [apply, applyFrom]

theorem apply_cons_of_none {rule : Rule} {c : Char} {rest : List Char}
    (h : rule (c :: rest) = none) : apply rule (c :: rest) = c :: apply rule rest := by
  simp [apply, applyFrom, h]

theorem apply_cons_of_some {rule : Rule} {c : Char} {rest written : List Char} {covered : Nat}
    (h : rule (c :: rest) = some (written, covered)) :
    apply rule (c :: rest) = written ++ apply rule (rest.drop (covered - 1)) := by
  rw [apply, applyFrom, h]
  simp [applyFrom_eq_apply_drop]

/-- A pattern that matches is replaced, and the pass goes on behind the match. -/
theorem apply_of_match? {steps : List Pattern.Step} {write : List (List Char) → List Char}
    {text rest : List Char} {pieces : List (List Char)}
    (found : Pattern.match? steps text = some (pieces, rest)) (some_ : pieces.flatten ≠ []) :
    (ofPattern steps write).apply text = write pieces ++ (ofPattern steps write).apply rest := by
  have whole := Pattern.match?_eq_some found
  obtain ⟨c, more, first⟩ := List.exists_cons_of_ne_nil some_
  rw [first, List.cons_append] at whole
  have applies : ofPattern steps write (c :: (more ++ rest)) =
      some (write pieces, more.length + 1) := by
    rw [ofPattern, whole, found, Option.map_some, first, List.length_cons]
  rw [← whole, apply_cons_of_some applies, Nat.add_sub_cancel, List.drop_left]

end Rule

end TaskScript
